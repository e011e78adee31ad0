import Mathlib.Data.List.Basic
import Mathlib.Data.List.TakeWhile

/-! # Splitting a word at a separator

A word that contains the separator splits at its first and at its last
occurrence. The first split is the only one with no separator in front of it,
the last the only one with none behind it.
-/

universe u

namespace Separator

variable {α : Type u} [DecidableEq α]

/-- What stands in front of the first occurrence. -/
def beforeFirst (separator : α) (word : List α) : List α :=
  word.takeWhile fun symbol => symbol ≠ separator

/-- What stands behind the first occurrence. -/
def behindFirst (separator : α) (word : List α) : List α :=
  (word.dropWhile fun symbol => symbol ≠ separator).tail

/-- What stands in front of the last occurrence. -/
def beforeLast (separator : α) (word : List α) : List α :=
  (behindFirst separator word.reverse).reverse

/-- What stands behind the last occurrence. -/
def behindLast (separator : α) (word : List α) : List α :=
  (beforeFirst separator word.reverse).reverse

variable {separator : α}

theorem eq_first_split {word : List α} (hmem : separator ∈ word) :
    word = beforeFirst separator word ++ separator :: behindFirst separator word := by
  induction word with
  | nil => cases hmem
  | cons symbol rest ih =>
      by_cases hsymbol : symbol = separator
      · subst hsymbol
        simp [beforeFirst, behindFirst]
      · have hrest : separator ∈ rest :=
          (List.mem_cons.mp hmem).resolve_left fun h => hsymbol h.symm
        simpa [beforeFirst, behindFirst, hsymbol] using ih hrest

theorem eq_last_split {word : List α} (hmem : separator ∈ word) :
    word = beforeLast separator word ++ separator :: behindLast separator word := by
  have hreverse := eq_first_split (List.mem_reverse.mpr hmem)
  rw [← List.reverse_inj]
  simpa [beforeLast, behindLast] using hreverse

theorem beforeFirst_append_cons {first : List α} (hfirst : separator ∉ first)
    (second : List α) : beforeFirst separator (first ++ separator :: second) = first := by
  induction first with
  | nil => simp [beforeFirst]
  | cons symbol rest ih =>
      obtain ⟨hsymbol, hrest⟩ : separator ≠ symbol ∧ separator ∉ rest := by simpa using hfirst
      simpa [beforeFirst, hsymbol.symm] using ih hrest

theorem behindFirst_append_cons {first : List α} (hfirst : separator ∉ first)
    (second : List α) : behindFirst separator (first ++ separator :: second) = second := by
  have hmem : separator ∈ first ++ separator :: second := by simp
  have hsplit := eq_first_split hmem
  rw [beforeFirst_append_cons hfirst] at hsplit
  simpa using hsplit.symm

theorem behindLast_append_cons (first : List α) {second : List α}
    (hsecond : separator ∉ second) :
    behindLast separator (first ++ separator :: second) = second := by
  rw [behindLast, List.reverse_append, List.reverse_cons, List.append_assoc,
    List.singleton_append, beforeFirst_append_cons (by simpa using hsecond), List.reverse_reverse]

theorem beforeLast_append_cons (first : List α) {second : List α}
    (hsecond : separator ∉ second) :
    beforeLast separator (first ++ separator :: second) = first := by
  rw [beforeLast, List.reverse_append, List.reverse_cons, List.append_assoc,
    List.singleton_append, behindFirst_append_cons (by simpa using hsecond), List.reverse_reverse]

/-- The word split at its first separator, as it is once those in front are taken
off. Empty parts are left out. -/
def splitOnce (separator : α) (word : List α) : List (List α) :=
  match word.dropWhile fun symbol => symbol = separator with
  | [] => []
  | symbol :: rest =>
      beforeFirst separator (symbol :: rest) ::
        (match behindFirst separator (symbol :: rest) with
        | [] => []
        | second => [second])

theorem splitOnce_append_cons {first : List α} (hfirst : first ≠ [])
    (hmem : separator ∉ first) (second : List α) :
    splitOnce separator (first ++ separator :: second) =
      first :: (if second = [] then [] else [second]) := by
  obtain ⟨symbol, rest, rfl⟩ := List.exists_cons_of_ne_nil hfirst
  have hsymbol : symbol ≠ separator := fun heq => hmem (by simp [heq])
  rw [splitOnce, List.cons_append, List.dropWhile_cons_of_neg (by simpa using hsymbol)]
  simp only
  rw [← List.cons_append, beforeFirst_append_cons hmem, behindFirst_append_cons hmem]
  cases second <;> rfl

/-- The first part of a split stands in the word behind nothing but separators,
and in front of the end or a separator. -/
theorem exists_of_splitOnce {word first : List α} {parts : List (List α)}
    (hsplit : splitOnce separator word = first :: parts) :
    first ≠ [] ∧ separator ∉ first ∧ ∃ front behind, word = front ++ (first ++ behind) ∧
      (∀ symbol ∈ front, symbol = separator) ∧
      (behind = [] ∨ ∃ rest, behind = separator :: rest) := by
  unfold splitOnce at hsplit
  split at hsplit
  next => cases hsplit
  next symbol rest hbody =>
    obtain ⟨rfl, -⟩ := List.cons.inj hsplit
    have hsymbol : symbol ≠ separator := by
      have hnot := List.head?_dropWhile_not (fun symbol => decide (symbol = separator)) word
      rw [hbody] at hnot
      simpa using hnot
    refine ⟨?_, ?_, word.takeWhile (fun symbol => symbol = separator),
      (symbol :: rest).dropWhile (fun symbol => symbol ≠ separator), ?_, ?_, ?_⟩
    · simp [beforeFirst, hsymbol]
    · intro hmem
      simpa using List.mem_takeWhile_imp hmem
    · rw [beforeFirst, List.takeWhile_append_dropWhile, ← hbody, List.takeWhile_append_dropWhile]
    · intro other hmem
      simpa using List.mem_takeWhile_imp hmem
    · cases hbehind : (symbol :: rest).dropWhile (fun symbol => symbol ≠ separator) with
      | nil => exact .inl rfl
      | cons other behind =>
          have hnot := List.head?_dropWhile_not (fun symbol => decide (symbol ≠ separator))
            (symbol :: rest)
          rw [hbehind] at hnot
          obtain rfl : other = separator := by simpa using hnot
          exact .inr ⟨behind, rfl⟩

end Separator
