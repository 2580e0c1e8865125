/-
Module: Csqtt.Core.Text
Purpose: Texts as lists of characters: their blanks and the numbers written in them.
Trusted boundary: none
Main exports: Text, decimal, trim, trimMatches, trimMatches_eq_self, trimMatches_sublist,
  trim_eq_self, trim_trim, trim_concat
-/
import Mathlib.Data.List.Basic

namespace Csqtt

/-- One scalar value an element. -/
abbrev Text := List Char

def decimal (n : Nat) : Text := Nat.toDigits 10 n

/-- The characters with the property White_Space. -/
def isWhitespace (character : Char) : Bool :=
  let code := character.toNat
  (9 ≤ code ∧ code ≤ 13) ∨ code = 0x20 ∨ code = 0x85 ∨ code = 0xa0 ∨ code = 0x1680 ∨
    (0x2000 ≤ code ∧ code ≤ 0x200a) ∨ code = 0x2028 ∨ code = 0x2029 ∨ code = 0x202f ∨
    code = 0x205f ∨ code = 0x3000

def trim (text : Text) : Text :=
  ((text.dropWhile isWhitespace).reverse.dropWhile isWhitespace).reverse

/-- Without the characters at both ends that meet the predicate. -/
def trimMatches (p : Char → Bool) (text : Text) : Text :=
  ((text.dropWhile p).reverse.dropWhile p).reverse

section Trimming

variable {p : Char → Bool} {text : Text}

theorem head?_dropWhile_eq_false :
    ∀ character ∈ (text.dropWhile p).head?, p character = false := by
  intro character first
  have clear := List.head?_dropWhile_not p text
  rw [Option.mem_def.mp first] at clear
  exact clear

theorem dropWhile_of_head? (first : ∀ character ∈ text.head?, p character = false) :
    text.dropWhile p = text := by
  cases text with
  | nil => rfl
  | cons character rest =>
    exact List.dropWhile_cons_of_neg (Bool.not_eq_true _ ▸ first character rfl)

theorem trimMatches_begins (p : Char → Bool) (text : Text) :
    trimMatches p text <+: text.dropWhile p :=
  List.reverse_suffix.mp (by rw [trimMatches, List.reverse_reverse]; exact List.dropWhile_suffix _)

/-- What is left is a part of the text. -/
theorem trimMatches_sublist (p : Char → Bool) (text : Text) : (trimMatches p text).Sublist text :=
  (trimMatches_begins p text).sublist.trans (List.dropWhile_suffix p).sublist

theorem getLast?_trimMatches :
    ∀ character ∈ (trimMatches p text).getLast?, p character = false := by
  rw [trimMatches, List.getLast?_reverse]
  exact head?_dropWhile_eq_false

theorem head?_trimMatches : ∀ character ∈ (trimMatches p text).head?, p character = false := by
  intro character first
  obtain ⟨later, trimmed⟩ := List.head?_eq_some_iff.mp first
  obtain ⟨rest, same⟩ := trimMatches_begins p text
  have whole : (text.dropWhile p).head? = some character := by
    rw [← same, trimmed]
    rfl
  exact head?_dropWhile_eq_false character whole

/-- A text is not changed if neither end meets the predicate. -/
theorem trimMatches_eq_self (first : ∀ character ∈ text.head?, p character = false)
    (last : ∀ character ∈ text.getLast?, p character = false) : trimMatches p text = text := by
  rw [trimMatches, dropWhile_of_head? first, dropWhile_of_head?, List.reverse_reverse]
  rwa [List.head?_reverse]

end Trimming

theorem getLast?_trim (text : Text) :
    ∀ character ∈ (trim text).getLast?, isWhitespace character = false := getLast?_trimMatches

theorem head?_trim (text : Text) :
    ∀ character ∈ (trim text).head?, isWhitespace character = false := head?_trimMatches

/-- A text without blanks at its ends is not changed. -/
theorem trim_eq_self {text : Text}
    (first : ∀ character ∈ text.head?, isWhitespace character = false)
    (last : ∀ character ∈ text.getLast?, isWhitespace character = false) : trim text = text :=
  trimMatches_eq_self first last

theorem trim_trim (text : Text) : trim (trim text) = trim text :=
  trim_eq_self (head?_trim text) (getLast?_trim text)

theorem trim_cons {character : Char} (blank : isWhitespace character = true) (text : Text) :
    trim (character :: text) = trim text := by
  rw [trim, List.dropWhile_cons_of_pos blank]
  rfl

theorem trim_concat {character : Char} (blank : isWhitespace character = true) (text : Text) :
    trim (text ++ [character]) = trim text := by
  induction text with
  | nil => exact trim_cons blank []
  | cons head rest inductionHypothesis =>
    by_cases leading : isWhitespace head = true
    · rw [List.cons_append, trim_cons leading, trim_cons leading, inductionHypothesis]
    · rw [trim, trim, List.cons_append, List.dropWhile_cons_of_neg leading,
        List.dropWhile_cons_of_neg leading, ← List.cons_append, List.reverse_append,
        List.reverse_singleton, List.singleton_append, List.dropWhile_cons_of_pos blank]

end Csqtt
