import FlyEvents.Foundation.Pattern
import FlyEvents.Foundation.Separator
import Mathlib.Data.List.DropRight

/-! # Checking the fields of a form

Each check trims its text and asks for a full match of a regular expression.
In a full match the anchors `^` and `$` of two of the expressions add nothing,
so the patterns here leave them out. The characters are Unicode scalars, as in
the matcher.
-/

namespace FlyEvents

open Separator

/-- `CharacterSet.whitespacesAndNewlines`: the general category Z, the tab, and
the controls that end a line. -/
def whitespacesAndNewlines (character : Char) : Bool :=
  character.toNat ∈ [0x20, 0x85, 0xA0, 0x1680, 0x2028, 0x2029, 0x202F, 0x205F, 0x3000] ||
    (0x9 ≤ character.toNat && character.toNat ≤ 0xD) ||
    (0x2000 ≤ character.toNat && character.toNat ≤ 0x200A)

/-- The word without the characters of the set at its two ends. -/
def trimmed (set : Char → Bool) (word : List Char) : List Char :=
  (word.dropWhile set).rdropWhile set

/-- `text.trimmingCharacters(in: .whitespacesAndNewlines)` -/
def trimmingCharacters (text : String) : String :=
  .ofList (trimmed whitespacesAndNewlines text.toList)

@[simp] theorem toList_trimmingCharacters (text : String) :
    (trimmingCharacters text).toList = trimmed whitespacesAndNewlines text.toList := by
  simp [trimmingCharacters]

/-- The characters an expression's `.` does not stand for. -/
def lineTerminator (character : Char) : Bool :=
  character.toNat ∈ [0xA, 0xB, 0xC, 0xD, 0x85, 0x2028, 0x2029]

/-- The class `\d`: the decimal digits of every script, of which the ASCII
characters among them are 0 to 9. -/
structure DecimalDigits where
  contains : Char → Bool
  ascii : ∀ character : Char, character.toNat < 128 →
    contains character = character.isDigit

/-- `[A-Z0-9a-z._%+-]` -/
def userCharacter (character : Char) : Bool :=
  character.isAlphanum || character ∈ ['.', '_', '%', '+', '-']

/-- `[A-Za-z0-9.-]` -/
def hostCharacter (character : Char) : Bool :=
  character.isAlphanum || character ∈ ['.', '-']

def emailRegEx : Pattern Char :=
  [.plus userCharacter, .exactly (· == '@') 1, .plus hostCharacter, .exactly (· == '.') 1,
    .between Char.isAlpha 2 64]

def phoneNumberRegEx (digits : DecimalDigits) : Pattern Char :=
  [.exactly (· == '0') 1, .exactly (· == '7') 1, .exactly digits.contains 8]

def passwordRegEx : Pattern Char := [.between (fun character => !lineTerminator character) 6 32]

namespace Validator

def isValidEmail (email : String) : Bool :=
  emailRegEx.fullMatch (trimmingCharacters email).toList

def isValidPhoneNumber (digits : DecimalDigits) (phoneNumber : String) : Bool :=
  (phoneNumberRegEx digits).fullMatch (trimmingCharacters phoneNumber).toList

def isValidPassword (password : String) : Bool :=
  passwordRegEx.fullMatch (trimmingCharacters password).toList

end Validator

/-! ## The grammar of an address

The expression for an address is ambiguous: a host may contain periods, and so
may be cut in front of each of them. Splitting at the only `@` and at the last
period is not.
-/

/-- The address split at its first `@` and at the last period behind it: the
parts of the split have the characters the expression asks for. -/
structure EmailGrammar (address : List Char) : Prop where
  one_at : address.count '@' = 1
  user_ne_nil : beforeFirst '@' address ≠ []
  user : ∀ character ∈ beforeFirst '@' address, userCharacter character = true
  dotted : '.' ∈ behindFirst '@' address
  host_ne_nil : beforeLast '.' (behindFirst '@' address) ≠ []
  host : ∀ character ∈ beforeLast '.' (behindFirst '@' address), hostCharacter character = true
  topLevel_length : 2 ≤ (behindLast '.' (behindFirst '@' address)).length ∧
    (behindLast '.' (behindFirst '@' address)).length ≤ 64
  topLevel : ∀ character ∈ behindLast '.' (behindFirst '@' address), character.isAlpha = true

/-- A match of the expression, part by part. -/
theorem fullMatch_emailRegEx_iff {address : List Char} :
    emailRegEx.FullMatch address ↔
      ∃ user host topLevel, address = user ++ '@' :: (host ++ '.' :: topLevel) ∧
        (∀ character ∈ user, userCharacter character = true) ∧ user ≠ [] ∧
        (∀ character ∈ host, hostCharacter character = true) ∧ host ≠ [] ∧
        (∀ character ∈ topLevel, character.isAlpha = true) ∧
        2 ≤ topLevel.length ∧ topLevel.length ≤ 64 := by
  unfold emailRegEx
  constructor
  · rintro ⟨user, _, rfl, huser, hrest⟩
    obtain ⟨_, _, rfl, hat, hrest⟩ := Pattern.fullMatch_single_cons_iff.mp hrest
    obtain ⟨host, _, rfl, hhost, hrest⟩ := hrest
    obtain ⟨_, topLevel, rfl, hdot, hrest⟩ := Pattern.fullMatch_single_cons_iff.mp hrest
    have htop := Pattern.fullMatch_piece_iff.mp hrest
    rw [Piece.matches_plus_iff] at huser hhost
    rw [Piece.matches_between_iff] at htop
    refine ⟨user, host, topLevel, ?_, huser.1, huser.2, hhost.1, hhost.2, htop⟩
    rw [eq_of_beq hat, eq_of_beq hdot]
  · rintro ⟨user, host, topLevel, rfl, huser, huser', hhost, hhost', htop⟩
    refine ⟨user, _, rfl, Piece.matches_plus_iff.mpr ⟨huser, huser'⟩, ?_⟩
    refine Pattern.fullMatch_single_cons_iff.mpr ⟨'@', _, rfl, rfl, ?_⟩
    refine ⟨host, _, rfl, Piece.matches_plus_iff.mpr ⟨hhost, hhost'⟩, ?_⟩
    refine Pattern.fullMatch_single_cons_iff.mpr ⟨'.', topLevel, rfl, rfl, ?_⟩
    exact Pattern.fullMatch_piece_iff.mpr (Piece.matches_between_iff.mpr htop)

/-- A set that lacks a character keeps it out of a word. -/
theorem not_mem_of_all {set : Char → Bool} {word : List Char} {character : Char}
    (hall : ∀ other ∈ word, set other = true) (hset : set character = false) :
    character ∉ word := by
  intro hmem
  rw [hall character hmem] at hset
  cases hset

/-- Every match uses the last period, as no top level contains one; every split
that qualifies is a match. -/
theorem fullMatch_emailRegEx_iff_grammar {address : List Char} :
    emailRegEx.FullMatch address ↔ EmailGrammar address := by
  rw [fullMatch_emailRegEx_iff]
  constructor
  · rintro ⟨user, host, topLevel, rfl, huser, huser', hhost, hhost', htop, htop'⟩
    have hat_user : '@' ∉ user := not_mem_of_all huser (by decide)
    have hat_host : '@' ∉ host := not_mem_of_all hhost (by decide)
    have hat_top : '@' ∉ topLevel := not_mem_of_all htop (by decide)
    have hdot_top : '.' ∉ topLevel := not_mem_of_all htop (by decide)
    have hone : (user ++ '@' :: (host ++ '.' :: topLevel)).count '@' = 1 := by
      simp [List.count_append, List.count_eq_zero_of_not_mem, hat_user, hat_host, hat_top]
    have huser_eq := beforeFirst_append_cons hat_user (host ++ '.' :: topLevel)
    have hbehind := behindFirst_append_cons hat_user (host ++ '.' :: topLevel)
    have hhost_eq := beforeLast_append_cons host hdot_top
    have htop_eq := behindLast_append_cons host hdot_top
    exact {
      one_at := hone
      user_ne_nil := by rwa [huser_eq]
      user := by rwa [huser_eq]
      dotted := by simp [hbehind]
      host_ne_nil := by rwa [hbehind, hhost_eq]
      host := by rwa [hbehind, hhost_eq]
      topLevel_length := by rwa [hbehind, htop_eq]
      topLevel := by rwa [hbehind, htop_eq] }
  · intro hgrammar
    have hat : '@' ∈ address := by
      rw [← List.count_pos_iff, hgrammar.one_at]
      exact Nat.one_pos
    refine ⟨_, _, _, ?_, hgrammar.user, hgrammar.user_ne_nil, hgrammar.host,
      hgrammar.host_ne_nil, hgrammar.topLevel, hgrammar.topLevel_length⟩
    rw [← eq_last_split hgrammar.dotted]
    exact eq_first_split hat

/-- The check of an email accepts the texts that are addresses once trimmed. -/
theorem isValidEmail_iff_grammar (email : String) :
    Validator.isValidEmail email = true ↔ EmailGrammar (trimmingCharacters email).toList := by
  unfold Validator.isValidEmail
  rw [Pattern.fullMatch_iff]
  exact fullMatch_emailRegEx_iff_grammar

end FlyEvents
