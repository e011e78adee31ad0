import Mathlib.Data.List.Sort
import Mathlib.Order.RelClasses

/-! # Sorting by a predicate

A sort is a parameter here: it takes a predicate that says which of two
elements comes first, and for a strict weak order it returns an ordered
permutation. A stable sort keeps the elements that the predicate does not tell
apart in their order, and its result is then a function of these ties alone.
-/

universe u v

variable {α : Type u}

/-- The predicate is a strict weak order, which is what a sort asks of it. -/
abbrev StrictWeak (less : α → α → Bool) : Prop :=
  IsStrictWeakOrder α fun first second => less first second = true

namespace StrictWeak

theorem not_less_trans {less : α → α → Bool} (horder : StrictWeak less) {a b c : α}
    (hab : less b a = false) (hbc : less c b = false) : less c a = false := by
  by_contra hca
  rw [Bool.not_eq_false] at hca
  have hnotab : ¬ less a b = true := by
    intro h
    have := horder.trans _ _ _ hca h
    simp [hbc] at this
  have hnotbc : ¬ less b c = true := by
    intro h
    have := horder.trans _ _ _ h hca
    simp [hab] at this
  have htied := horder.incomp_trans a b c ⟨hnotab, by simp [hab]⟩ ⟨hnotbc, by simp [hbc]⟩
  exact htied.2 hca

theorem keep_trans {less : α → α → Bool} (horder : StrictWeak less) :
    IsTrans α fun first second => less second first = false :=
  ⟨fun _ _ _ hab hbc => horder.not_less_trans hab hbc⟩

theorem keep_total {less : α → α → Bool} (horder : StrictWeak less) :
    Std.Total fun first second => less second first = false := by
  refine ⟨fun a b => ?_⟩
  by_contra h
  simp only [not_or, Bool.not_eq_false] at h
  exact horder.irrefl a (horder.trans _ _ _ h.2 h.1)

/-- Comparing a key of a linear order is a strict weak order. -/
theorem of_key {β : Type v} [LinearOrder β] (key : α → β) :
    StrictWeak fun first second => decide (key first < key second) where
  irrefl := by simp
  trans := by
    intro a b c hab hbc
    simp only [decide_eq_true_eq] at hab hbc ⊢
    exact hab.trans hbc
  incomp_trans := by
    intro a b c hab hbc
    simp only [decide_eq_true_eq, not_lt] at hab hbc ⊢
    exact ⟨hbc.1.trans hab.1, hab.2.trans hbc.2⟩

/-- Comparing a key by a strict weak order is one. -/
theorem comap {β : Type v} {less : β → β → Bool} (horder : StrictWeak less) (key : α → β) :
    StrictWeak fun first second => less (key first) (key second) where
  irrefl a := horder.irrefl (key a)
  trans a b c := horder.trans (key a) (key b) (key c)
  incomp_trans a b c := horder.incomp_trans (key a) (key b) (key c)

end StrictWeak

/-- Neither element comes before the other. -/
def tied (less : α → α → Bool) (first second : α) : Bool :=
  !less first second && !less second first

theorem tied_eq_true_iff {less : α → α → Bool} {first second : α} :
    tied less first second = true ↔ less first second = false ∧ less second first = false := by
  simp [tied]

theorem tied_self {less : α → α → Bool} (horder : StrictWeak less) (a : α) :
    tied less a a = true :=
  tied_eq_true_iff.mpr ⟨by simpa using horder.irrefl a, by simpa using horder.irrefl a⟩

/-- No element comes before one that stands earlier in the list. -/
def Ordered (less : α → α → Bool) (items : List α) : Prop :=
  items.Pairwise fun first second => less second first = false

private theorem mem_of_filter_tied_eq {less : α → α → Bool} (horder : StrictWeak less)
    {first second : List α} {a : α} (ha : a ∈ first)
    (heq : first.filter (tied less a) = second.filter (tied less a)) : a ∈ second := by
  have hmem : a ∈ first.filter (tied less a) := List.mem_filter.mpr ⟨ha, tied_self horder a⟩
  rw [heq] at hmem
  exact (List.mem_filter.mp hmem).1

private theorem not_less_head {less : α → α → Bool} (horder : StrictWeak less)
    {head a : α} {tail : List α} (hordered : Ordered less (head :: tail))
    (ha : a ∈ head :: tail) : less a head = false := by
  rcases List.mem_cons.mp ha with rfl | htail
  · simpa using horder.irrefl a
  · exact (List.pairwise_cons.mp hordered).1 a htail

/-- Two ordered lists with the same ties are equal. -/
theorem Ordered.eq_of_filter_tied {less : α → α → Bool} (horder : StrictWeak less)
    {first second : List α} (hfirst : Ordered less first) (hsecond : Ordered less second)
    (hties : ∀ a, first.filter (tied less a) = second.filter (tied less a)) :
    first = second := by
  induction first generalizing second with
  | nil =>
      cases second with
      | nil => rfl
      | cons b ys =>
          exact absurd (mem_of_filter_tied_eq horder List.mem_cons_self (hties b).symm)
            List.not_mem_nil
  | cons a xs ih =>
      cases second with
      | nil =>
          exact absurd (mem_of_filter_tied_eq horder List.mem_cons_self (hties a))
            List.not_mem_nil
      | cons b ys =>
          have hab : less a b = false := not_less_head horder hsecond
            (mem_of_filter_tied_eq horder List.mem_cons_self (hties a))
          have hba : less b a = false := not_less_head horder hfirst
            (mem_of_filter_tied_eq horder List.mem_cons_self (hties b).symm)
          -- Neither head comes before the other, so both lead the same ties.
          have hhead := hties a
          rw [List.filter_cons_of_pos (tied_self horder a),
            List.filter_cons_of_pos (tied_eq_true_iff.mpr ⟨hab, hba⟩)] at hhead
          have heq : a = b := (List.cons.inj hhead).1
          subst b
          refine congrArg (a :: ·) (ih (List.pairwise_cons.mp hfirst).2
            (List.pairwise_cons.mp hsecond).2 fun c => ?_)
          have htail := hties c
          by_cases hc : tied less c a = true
          · rw [List.filter_cons_of_pos hc, List.filter_cons_of_pos hc] at htail
            exact (List.cons.inj htail).2
          · rwa [List.filter_cons_of_neg hc, List.filter_cons_of_neg hc] at htail

/-- A sort by a predicate: a permutation, and an ordered one where the
predicate is a strict weak order. -/
structure SortBy (α : Type u) where
  sort : (α → α → Bool) → List α → List α
  perm : ∀ less items, (sort less items).Perm items
  ordered : ∀ less, StrictWeak less → ∀ items, Ordered less (sort less items)

namespace SortBy

/-- Elements that are tied with one another keep their order. -/
def Stable (sorting : SortBy α) : Prop :=
  ∀ less, StrictWeak less → ∀ items a,
    (sorting.sort less items).filter (tied less a) = items.filter (tied less a)

/-- A stable sort returns the same list for two inputs exactly when the inputs
have the same ties. -/
theorem Stable.sort_eq_iff {sorting : SortBy α} (hstable : sorting.Stable)
    {less : α → α → Bool} (horder : StrictWeak less) {first second : List α} :
    sorting.sort less first = sorting.sort less second ↔
      ∀ a, first.filter (tied less a) = second.filter (tied less a) := by
  constructor
  · intro heq a
    rw [← hstable less horder first a, heq, hstable less horder second a]
  · intro hties
    refine (sorting.ordered less horder first).eq_of_filter_tied horder
      (sorting.ordered less horder second) fun a => ?_
    rw [hstable less horder, hstable less horder, hties a]

/-- A stable sort does not see the order of its input when tied elements are
equal. -/
theorem Stable.sort_eq_of_perm {sorting : SortBy α} (hstable : sorting.Stable)
    {less : α → α → Bool} (horder : StrictWeak less) {first second : List α}
    (hperm : first.Perm second)
    (hequal : ∀ a ∈ first, ∀ b ∈ first, tied less a b = true → a = b) :
    sorting.sort less first = sorting.sort less second := by
  rw [hstable.sort_eq_iff horder]
  intro a
  have hclass : (first.filter (tied less a)).Perm (second.filter (tied less a)) :=
    hperm.filter _
  have hall : ∀ items : List α, items.Pairwise fun _ _ => True :=
    fun _ => List.pairwise_of_forall fun _ _ => trivial
  -- The class of `a` has equal elements only, so its permutation is itself.
  refine List.Perm.eq_of_pairwise ?_ (hall _) (hall _) hclass
  intro b c hb hc _ _
  obtain ⟨hb, htiedb⟩ := List.mem_filter.mp hb
  obtain ⟨hc, htiedc⟩ := List.mem_filter.mp (hclass.mem_iff.mpr hc)
  refine hequal b hb c hc ?_
  rw [tied_eq_true_iff] at htiedb htiedc ⊢
  exact ⟨horder.not_less_trans htiedc.1 htiedb.2, horder.not_less_trans htiedb.1 htiedc.2⟩

/-- Insertion sort, which keeps `first` before `second` unless `second` comes
first. -/
def insertion : SortBy α where
  sort less items := items.insertionSort fun first second => less second first = false
  perm _ items := List.perm_insertionSort _ items
  ordered less horder items :=
    have := horder.keep_total
    have := horder.keep_trans
    List.pairwise_insertionSort (fun first second => less second first = false) items

theorem insertion_stable : (insertion (α := α)).Stable := by
  intro less horder items a
  have := horder.keep_total
  have := horder.keep_trans
  have hclass : (items.filter (tied less a)).Pairwise
      fun first second => less second first = false := by
    rw [List.pairwise_iff_forall_sublist]
    intro b c hsub
    have hb := (List.mem_filter.mp (hsub.subset List.mem_cons_self)).2
    have hc := (List.mem_filter.mp (hsub.subset (List.mem_cons_of_mem _ List.mem_cons_self))).2
    rw [tied_eq_true_iff] at hb hc
    exact horder.not_less_trans hb.1 hc.2
  have hsub := List.sublist_insertionSort hclass List.filter_sublist
  have hfilter := hsub.filter (tied less a)
  rw [List.filter_filter] at hfilter
  simp only [Bool.and_self] at hfilter
  refine (hfilter.eq_of_length ?_).symm
  exact ((List.perm_insertionSort _ items).symm.filter _).length_eq

end SortBy
