import Mathlib.Data.List.DropRight
import Mathlib.Data.List.Chain

/-! # Words in segments

A separator cuts a word into segments, of which the empty ones do not count.
Two words with the same segments can differ in the separators to spare: in front
of the first segment, behind the last, and beyond the one between two others.
Writing one separator for two until nothing changes, and taking the separators
off both ends, leads to the word that joins the segments.
-/

universe u

namespace Segments

variable {α : Type u} [DecidableEq α]

/-! ## Replacing in a word -/

/-- The word with the target replaced where it occurs, from the left and without
overlaps; the symbols to skip are those left of an occurrence. -/
def replacingFrom (target replacement : List α) : Nat → List α → List α
  | _, [] => []
  | skip + 1, _ :: rest => replacingFrom target replacement skip rest
  | 0, symbol :: rest =>
      if target.isPrefixOf (symbol :: rest) then
        replacement ++ replacingFrom target replacement (target.length - 1) rest
      else symbol :: replacingFrom target replacement 0 rest

/-- The word with every occurrence of the target replaced. -/
def replacing (target replacement word : List α) : List α :=
  if target = [] then word else replacingFrom target replacement 0 word

variable {first second separator : α}

@[simp] theorem replacing_nil (target replacement : List α) :
    replacing target replacement [] = [] := by
  unfold replacing replacingFrom
  split <;> rfl

theorem replacing_pair (replacement rest : List α) :
    replacing [first, second] replacement (first :: second :: rest) =
      replacement ++ replacing [first, second] replacement rest := by
  simp [replacing, replacingFrom]

theorem replacing_cons {symbol : α} {rest : List α} (replacement : List α)
    (hnot : ¬ (symbol = first ∧ rest.head? = some second)) :
    replacing [first, second] replacement (symbol :: rest) =
      symbol :: replacing [first, second] replacement rest := by
  have hbegins : [first, second].isPrefixOf (symbol :: rest) = false := by
    cases rest with
    | nil => simp [List.isPrefixOf]
    | cons next rest =>
        simp only [List.head?_cons, Option.some.injEq] at hnot
        simp only [List.isPrefixOf, Bool.and_true, Bool.and_eq_false_iff, beq_eq_false_iff_ne]
        by_cases hfirst : symbol = first
        · exact .inr fun hsecond => hnot ⟨hfirst, hsecond.symm⟩
        · exact .inl (Ne.symm hfirst)
  simp [replacing, replacingFrom, hbegins]

/-- Induction along the occurrences of a pair of symbols. -/
theorem pair_induction (first second : α) {motive : List α → Prop} (nil : motive [])
    (pair : ∀ rest, motive rest → motive (first :: second :: rest))
    (cons : ∀ symbol rest, ¬ (symbol = first ∧ rest.head? = some second) → motive rest →
      motive (symbol :: rest)) (word : List α) : motive word := by
  induction hlength : word.length using Nat.strong_induction_on generalizing word with
  | h length ih =>
      subst hlength
      cases word with
      | nil => exact nil
      | cons symbol rest =>
          by_cases hpair : symbol = first ∧ rest.head? = some second
          · obtain ⟨rfl, hhead⟩ := hpair
            obtain ⟨after, rfl⟩ := List.head?_eq_some_iff.mp hhead
            exact pair after (ih after.length (by simp only [List.length_cons]; omega) after rfl)
          · exact cons symbol rest hpair (ih rest.length (by simp) rest rfl)

/-! ## One separator for two -/

theorem length_replacing_le (separator : α) (word : List α) :
    (replacing [separator, separator] [separator] word).length ≤ word.length := by
  induction word using pair_induction separator separator with
  | nil => simp
  | pair rest ih =>
      rw [replacing_pair]
      simp only [List.length_append, List.length_cons, List.length_nil]
      omega
  | cons symbol rest hnot ih =>
      rw [replacing_cons _ hnot]
      simpa using ih

theorem length_replacing_lt {separator : α} {word : List α}
    (hchanged : replacing [separator, separator] [separator] word ≠ word) :
    (replacing [separator, separator] [separator] word).length < word.length := by
  induction word using pair_induction separator separator with
  | nil => simp at hchanged
  | pair rest ih =>
      have := length_replacing_le separator rest
      rw [replacing_pair]
      simp only [List.length_append, List.length_cons, List.length_nil]
      omega
  | cons symbol rest hnot ih =>
      rw [replacing_cons _ hnot] at hchanged ⊢
      simpa using ih fun heq => hchanged (by rw [heq])

/-- Replacing two separators by one until nothing changes. -/
def collapsed (separator : α) (word : List α) : List α :=
  if replacing [separator, separator] [separator] word = word then word
  else collapsed separator (replacing [separator, separator] [separator] word)
termination_by word.length
decreasing_by exact length_replacing_lt ‹_›

/-- No separator stands next to another one. -/
def Single (separator : α) (word : List α) : Prop :=
  word.IsChain fun symbol next => ¬ (symbol = separator ∧ next = separator)

/-- Where nothing changes any more there is no pair left. -/
theorem single_of_replacing_eq {word : List α}
    (hsame : replacing [separator, separator] [separator] word = word) :
    Single separator word := by
  induction word using pair_induction separator separator with
  | nil => exact .nil
  | pair rest ih =>
      rw [replacing_pair] at hsame
      have hle := length_replacing_le separator rest
      have hlength := congrArg List.length hsame
      simp only [List.length_append, List.length_cons, List.length_nil] at hlength
      omega
  | cons symbol rest hnot ih =>
      rw [replacing_cons _ hnot] at hsame
      refine List.isChain_cons.mpr ⟨fun next hnext => ?_, ih (List.cons.inj hsame).2⟩
      rintro ⟨rfl, rfl⟩
      exact hnot ⟨rfl, hnext⟩

/-! ## The segments of a word -/

def segments (separator : α) (word : List α) : List (List α) :=
  (word.splitOn separator).filter (· ≠ [])

def joined (separator : α) (parts : List (List α)) : List α := [separator].intercalate parts

@[simp] theorem segments_nil : segments separator [] = [] := by simp [segments]

omit [DecidableEq α] in
@[simp] theorem joined_nil : joined separator [] = [] := rfl

@[simp] theorem segments_append_cons (before after : List α) :
    segments separator (before ++ separator :: after) =
      segments separator before ++ segments separator after := by
  simp [segments, List.splitOn_append_cons_self]

@[simp] theorem segments_cons (word : List α) :
    segments separator (separator :: word) = segments separator word := by
  simpa using @segments_append_cons α _ separator [] word

@[simp] theorem segments_concat (word : List α) :
    segments separator (word ++ [separator]) = segments separator word := by
  simp [segments_append_cons]

/-- A segment is not empty and has no separator. -/
def IsSegment (separator : α) (segment : List α) : Prop := segment ≠ [] ∧ separator ∉ segment

theorem not_mem_of_mem_splitOn {word part : List α} (hmem : part ∈ word.splitOn separator) :
    separator ∉ part := by
  induction word generalizing part with
  | nil =>
      obtain rfl : part = [] := by simpa using hmem
      exact List.not_mem_nil
  | cons symbol rest ih =>
      rw [List.splitOn_cons_eq_if_modifyHead] at hmem
      split at hmem
      next =>
        rcases List.mem_cons.mp hmem with rfl | hmem
        · exact List.not_mem_nil
        · exact ih hmem
      next hsymbol =>
        obtain ⟨head, tail, hsplit⟩ :=
          List.exists_cons_of_ne_nil (List.splitOn_ne_nil separator rest)
        rw [hsplit, List.modifyHead_cons] at hmem
        rcases List.mem_cons.mp hmem with rfl | hmem
        · simp only [List.mem_cons, not_or]
          exact ⟨fun heq => hsymbol (by simp [heq]), ih (by simp [hsplit])⟩
        · exact ih (by simp [hsplit, hmem])

theorem isSegment_of_mem {word segment : List α} (hmem : segment ∈ segments separator word) :
    IsSegment separator segment := by
  obtain ⟨hmem, hne⟩ := List.mem_filter.mp hmem
  exact ⟨by simpa using hne, not_mem_of_mem_splitOn hmem⟩

theorem segments_of_isSegment {word : List α} (hsegment : IsSegment separator word) :
    segments separator word = [word] := by
  simp [segments, List.splitOn_eq_singleton hsegment.2, hsegment.1]

/-- Joining and cutting are inverse to each other. -/
theorem segments_joined {parts : List (List α)}
    (hparts : ∀ part ∈ parts, IsSegment separator part) :
    segments separator (joined separator parts) = parts := by
  by_cases hnil : parts = []
  · simp [hnil]
  · rw [segments, joined, List.splitOn_intercalate separator (fun part hmem => (hparts part hmem).2)
      hnil]
    exact List.filter_eq_self.mpr fun part hmem => by simpa using (hparts part hmem).1

/-- One separator for two leaves the part in front of the first separator as it
is, and the segments behind it. -/
theorem splitOn_replacing (separator : α) (word : List α) :
    ∃ head before after, word.splitOn separator = head :: before ∧
      (replacing [separator, separator] [separator] word).splitOn separator = head :: after ∧
      before.filter (· ≠ []) = after.filter (· ≠ []) := by
  induction word using pair_induction separator separator with
  | nil => exact ⟨[], [], [], by simp⟩
  | pair rest ih =>
      obtain ⟨head, before, after, hbefore, hafter, hsame⟩ := ih
      refine ⟨[], [] :: head :: before, head :: after, ?_, ?_, ?_⟩
      · simp [List.splitOn_cons_eq_if_modifyHead, hbefore]
      · rw [replacing_pair, List.singleton_append, List.splitOn_cons_eq_if_modifyHead]
        simp [hafter]
      · rw [List.filter_cons_of_neg (by simp), List.filter_cons, List.filter_cons, hsame]
  | cons symbol rest hnot ih =>
      obtain ⟨head, before, after, hbefore, hafter, hsame⟩ := ih
      rw [replacing_cons _ hnot, List.splitOn_cons_eq_if_modifyHead,
        List.splitOn_cons_eq_if_modifyHead, hbefore, hafter]
      split
      next =>
        refine ⟨[], head :: before, head :: after, rfl, rfl, ?_⟩
        rw [List.filter_cons, List.filter_cons, hsame]
      next => exact ⟨symbol :: head, before, after, rfl, rfl, hsame⟩

@[simp] theorem segments_replacing (separator : α) (word : List α) :
    segments separator (replacing [separator, separator] [separator] word) =
      segments separator word := by
  obtain ⟨head, before, after, hbefore, hafter, hsame⟩ := splitOn_replacing separator word
  rw [segments, segments, hbefore, hafter, List.filter_cons, List.filter_cons, hsame]

theorem collapsed_spec (separator : α) (word : List α) :
    segments separator (collapsed separator word) = segments separator word ∧
      Single separator (collapsed separator word) := by
  induction word using collapsed.induct separator with
  | case1 word hsame =>
      rw [collapsed, if_pos hsame]
      exact ⟨rfl, single_of_replacing_eq hsame⟩
  | case2 word hchanged ih =>
      rw [collapsed, if_neg hchanged]
      simpa using ih

/-! ## No separator to spare -/

/-- The word without the separators at its two ends. -/
def stripped (separator : α) (word : List α) : List α :=
  (word.dropWhile (· == separator)).rdropWhile (· == separator)

theorem segments_dropWhile (word : List α) :
    segments separator (word.dropWhile (· == separator)) = segments separator word := by
  induction word with
  | nil => rfl
  | cons symbol rest ih =>
      by_cases hsymbol : symbol = separator
      · subst hsymbol
        simpa using ih
      · simp [hsymbol]

theorem segments_rdropWhile (word : List α) :
    segments separator (word.rdropWhile (· == separator)) = segments separator word := by
  induction word using List.reverseRecOn with
  | nil => rfl
  | append_singleton rest symbol ih =>
      by_cases hsymbol : symbol = separator
      · subst hsymbol
        rw [List.rdropWhile_concat_pos _ _ _ (by simp), ih, segments_concat]
      · rw [List.rdropWhile_concat_neg _ _ _ (by simpa using hsymbol)]

theorem splitOn_cons_of_ne {symbol : α} (hsymbol : symbol ≠ separator) (rest : List α) :
    ∃ head tail, rest.splitOn separator = head :: tail ∧
      (symbol :: rest).splitOn separator = (symbol :: head) :: tail := by
  obtain ⟨head, tail, hsplit⟩ := List.exists_cons_of_ne_nil (List.splitOn_ne_nil separator rest)
  refine ⟨head, tail, hsplit, ?_⟩
  simp [List.splitOn_cons_eq_if_modifyHead, hsymbol, hsplit]

/-- Behind a separator something follows, if it is neither the last symbol nor
next to another one. -/
theorem ne_nil_of_mem_tail {word part : List α} (hsingle : Single separator word)
    (hlast : word.getLast? ≠ some separator) (hmem : part ∈ (word.splitOn separator).tail) :
    part ≠ [] := by
  induction word with
  | nil => simp at hmem
  | cons symbol rest ih =>
      have hrest : Single separator rest := hsingle.tail
      by_cases hsymbol : symbol = separator
      · subst hsymbol
        cases rest with
        | nil => simp at hlast
        | cons next rest =>
            have hnext : next ≠ symbol := fun heq =>
              (List.isChain_cons_cons.mp hsingle).1 ⟨rfl, heq⟩
            obtain ⟨head, tail, -, hsplit⟩ := splitOn_cons_of_ne hnext rest
            simp only [List.splitOn_cons_eq_if_modifyHead (x := symbol), beq_self_eq_true, if_true,
              List.tail_cons, hsplit] at hmem
            rcases List.mem_cons.mp hmem with rfl | hmem
            · exact List.cons_ne_nil next head
            · exact ih hrest (by simpa using hlast) (by simpa [hsplit] using hmem)
      · obtain ⟨head, tail, hrestSplit, hsplit⟩ := splitOn_cons_of_ne hsymbol rest
        refine ih hrest (fun heq => hlast ?_) (by simpa [hrestSplit, hsplit] using hmem)
        cases rest with
        | nil => simp at heq
        | cons next rest => simpa using heq

/-- Going back from the end to the last separator takes the last segment off. -/
theorem segments_rdropWhile_ne {word : List α} (hlast : word.getLast? ≠ some separator) :
    segments separator (word.rdropWhile (· != separator)) =
      (segments separator word).dropLast := by
  have happend : word.rdropWhile (· != separator) ++ word.rtakeWhile (· != separator) = word :=
    List.rdropWhile_append_rtakeWhile
  have hback : separator ∉ word.rtakeWhile (· != separator) := fun hmem => by
    simpa using List.mem_rtakeWhile_imp hmem
  revert happend hback
  generalize hfront : word.rdropWhile (· != separator) = front
  generalize word.rtakeWhile (· != separator) = back
  rintro rfl hback
  have hseparator : front = [] ∨ ∃ before, front = before ++ [separator] := by
    by_cases hnil : front = []
    · exact .inl hnil
    · refine .inr ⟨front.dropLast, ?_⟩
      have hnot := List.rdropWhile_last_not (· != separator) (front ++ back) (by simpa [hfront])
      have hgetLast : front.getLast hnil = separator := by simpa [hfront] using hnot
      rw [← hgetLast, List.dropLast_append_getLast]
  by_cases hempty : back = []
  · rcases hseparator with rfl | ⟨before, rfl⟩
    · simp [hempty]
    · simp [hempty] at hlast
  · have hsegment : segments separator back = [back] := segments_of_isSegment ⟨hempty, hback⟩
    rcases hseparator with rfl | ⟨before, rfl⟩
    · simp [hsegment]
    · simp [hsegment]

/-- A word without separators to spare joins its segments. -/
theorem eq_joined_segments {word : List α} (hsingle : Single separator word)
    (hhead : word.head? ≠ some separator) (hlast : word.getLast? ≠ some separator) :
    word = joined separator (segments separator word) := by
  cases word with
  | nil => simp
  | cons symbol rest =>
      obtain ⟨head, tail, -, hsplit⟩ := splitOn_cons_of_ne (by simpa using hhead) rest
      have hall : ∀ part ∈ (symbol :: rest).splitOn separator, part ≠ [] := by
        intro part hmem
        rw [hsplit] at hmem
        rcases List.mem_cons.mp hmem with rfl | hmem
        · exact List.cons_ne_nil symbol head
        · exact ne_nil_of_mem_tail hsingle hlast (by simpa [hsplit] using hmem)
      rw [segments, List.filter_eq_self.mpr fun part hmem => by simpa using hall part hmem, joined,
        List.intercalate_splitOn]

theorem single_stripped {word : List α} (hsingle : Single separator word) :
    Single separator (stripped separator word) := by
  refine hsingle.infix ?_
  exact (List.rdropWhile_prefix _ _).isInfix.trans (List.dropWhile_suffix _).isInfix

theorem head?_stripped (separator : α) (word : List α) :
    (stripped separator word).head? ≠ some separator := by
  intro hhead
  obtain ⟨rest, hrest⟩ := List.head?_eq_some_iff.mp hhead
  obtain ⟨tail, htail⟩ := List.rdropWhile_prefix (· == separator) (word.dropWhile (· == separator))
  have hnot := List.head?_dropWhile_not (· == separator) word
  rw [← htail, ← stripped, hrest] at hnot
  simp at hnot

theorem getLast?_rdropWhile (separator : α) (word : List α) :
    (word.rdropWhile (· == separator)).getLast? ≠ some separator := by
  intro hlast
  have hne : word.rdropWhile (· == separator) ≠ [] := by
    intro hnil
    simp [hnil] at hlast
  have hnot := List.rdropWhile_last_not (· == separator) _ hne
  rw [List.getLast?_eq_some_getLast hne, Option.some.injEq] at hlast
  exact hnot (by simpa using hlast)

/-- One separator for two until nothing changes, and none at the ends: the word
that joins the segments. -/
theorem stripped_collapsed (separator : α) (word : List α) :
    stripped separator (collapsed separator word) = joined separator (segments separator word) := by
  obtain ⟨hsegments, hsingle⟩ := collapsed_spec separator word
  have hstripped : segments separator (stripped separator (collapsed separator word)) =
      segments separator word := by
    rw [stripped, segments_rdropWhile, segments_dropWhile, hsegments]
  rw [← hstripped]
  exact eq_joined_segments (single_stripped hsingle) (head?_stripped _ _) (getLast?_rdropWhile _ _)

end Segments
