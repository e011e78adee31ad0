import Mathlib.Data.List.Basic

/-! # Patterns of repeated sets

A pattern is a sequence of pieces, each a set of symbols with bounds on how
often it is repeated. A full match cuts a word into one part for each piece.
The cut need not be unique: `FullMatch` asks for one, and `fullMatch` searches
all of them.
-/

universe u

/-- A set of symbols, repeated at least and at most so many times; `none` is no
upper bound. -/
structure Piece (α : Type u) where
  set : α → Bool
  least : Nat
  most : Option Nat

/-- Pieces to be matched one after another. -/
abbrev Pattern (α : Type u) := List (Piece α)

variable {α : Type u}

namespace Piece

/-- The set, exactly so many times. -/
def exactly (set : α → Bool) (count : Nat) : Piece α := { set, least := count, most := some count }

/-- The set, once or more. -/
def plus (set : α → Bool) : Piece α := { set, least := 1, most := none }

/-- The set, so many times. -/
def between (set : α → Bool) (least most : Nat) : Piece α := { set, least, most := some most }

/-- All symbols of the part are in the set, and there are so many of them. -/
def Matches (piece : Piece α) (part : List α) : Prop :=
  (∀ symbol ∈ part, piece.set symbol = true) ∧ piece.least ≤ part.length ∧
    ∀ most ∈ piece.most, part.length ≤ most

instance (piece : Piece α) (part : List α) : Decidable (piece.Matches part) := by
  unfold Matches
  infer_instance

@[simp] theorem matches_exactly_iff {set : α → Bool} {count : Nat} {part : List α} :
    (exactly set count).Matches part ↔
      (∀ symbol ∈ part, set symbol = true) ∧ part.length = count := by
  simp only [Matches, exactly, Option.mem_some_iff, forall_eq']
  refine and_congr_right fun _ => ⟨fun h => Nat.le_antisymm h.2 h.1, fun h => ?_⟩
  exact ⟨Nat.le_of_eq h.symm, Nat.le_of_eq h⟩

@[simp] theorem matches_plus_iff {set : α → Bool} {part : List α} :
    (plus set).Matches part ↔ (∀ symbol ∈ part, set symbol = true) ∧ part ≠ [] := by
  simp [Matches, plus, Nat.one_le_iff_ne_zero]

@[simp] theorem matches_between_iff {set : α → Bool} {least most : Nat} {part : List α} :
    (between set least most).Matches part ↔
      (∀ symbol ∈ part, set symbol = true) ∧ least ≤ part.length ∧ part.length ≤ most := by
  simp [Matches, between]

end Piece

namespace Pattern

/-- The word is a sequence of parts that match the pieces. -/
def FullMatch : Pattern α → List α → Prop
  | [], word => word = []
  | piece :: rest, word => ∃ first second, word = first ++ second ∧ piece.Matches first ∧
      FullMatch rest second

/-- Try every length of the first part, and match the rest with the rest. -/
def fullMatch : Pattern α → List α → Bool
  | [], word => word.isEmpty
  | piece :: rest, word => (List.range (word.length + 1)).any fun count =>
      decide (piece.Matches (word.take count)) && fullMatch rest (word.drop count)

theorem fullMatch_iff (pattern : Pattern α) (word : List α) :
    pattern.fullMatch word = true ↔ pattern.FullMatch word := by
  induction pattern generalizing word with
  | nil => exact List.isEmpty_iff
  | cons piece rest ih =>
      simp only [fullMatch, FullMatch, List.any_eq_true, List.mem_range, Bool.and_eq_true,
        decide_eq_true_eq, ih]
      constructor
      · rintro ⟨count, -, hfirst, hsecond⟩
        exact ⟨_, _, (List.take_append_drop count word).symm, hfirst, hsecond⟩
      · rintro ⟨first, second, rfl, hfirst, hsecond⟩
        refine ⟨first.length, by rw [List.length_append]; omega, ?_, ?_⟩
        · rwa [List.take_left']
          rfl
        · rwa [List.drop_left']
          rfl

instance (pattern : Pattern α) (word : List α) : Decidable (pattern.FullMatch word) :=
  decidable_of_iff _ (pattern.fullMatch_iff word)

@[simp] theorem fullMatch_nil_iff {word : List α} : FullMatch ([] : Pattern α) word ↔ word = [] :=
  Iff.rfl

/-- A single symbol has to stand first. -/
theorem fullMatch_single_cons_iff {set : α → Bool} {rest : Pattern α} {word : List α} :
    FullMatch (.exactly set 1 :: rest) word ↔
      ∃ symbol second, word = symbol :: second ∧ set symbol = true ∧ rest.FullMatch second := by
  simp only [FullMatch, Piece.matches_exactly_iff]
  constructor
  · rintro ⟨first, second, rfl, ⟨hset, hlength⟩, hsecond⟩
    obtain ⟨symbol, rfl⟩ := List.length_eq_one_iff.mp hlength
    exact ⟨symbol, second, rfl, hset symbol List.mem_cons_self, hsecond⟩
  · rintro ⟨symbol, second, rfl, hset, hsecond⟩
    refine ⟨[symbol], second, rfl, ⟨?_, rfl⟩, hsecond⟩
    intro other hother
    rwa [List.mem_singleton.mp hother]

/-- A pattern of one piece. -/
theorem fullMatch_piece_iff {piece : Piece α} {word : List α} :
    FullMatch [piece] word ↔ piece.Matches word := by
  simp only [FullMatch]
  constructor
  · rintro ⟨first, second, rfl, hfirst, rfl⟩
    rwa [List.append_nil]
  · intro hword
    exact ⟨word, [], (List.append_nil word).symm, hword, rfl⟩

end Pattern
