/-
Module: Csqtt.Core.Delimited
Purpose: Fields joined by a separator, and when a split gives them back.
Trusted boundary: none
Main exports: splitOn_intercalate_iff, eq_of_intercalate_eq, toDigits_inj
-/
import Mathlib.Data.List.Basic

namespace Csqtt.Delimited

variable {α : Type} [BEq α] [LawfulBEq α] {separator : α}

/-- No field of a split contains the separator. -/
theorem not_mem_of_mem_splitOn {text field : List α}
    (member : field ∈ text.splitOn separator) : separator ∉ field := by
  induction text generalizing field with
  | nil =>
      obtain rfl : field = [] := by simpa using member
      simp
  | cons head tail inductionHypothesis =>
      obtain ⟨first, rest, split⟩ := List.exists_cons_of_ne_nil
        (List.splitOn_ne_nil separator tail)
      rw [List.splitOn_cons_eq_if_modifyHead, split] at member
      rw [split] at inductionHypothesis
      by_cases equal : head = separator
      · rw [if_pos (by simp [equal])] at member
        cases member with
        | head => simp
        | tail _ later => exact inductionHypothesis later
      · rw [if_neg (by simp [equal]), List.modifyHead_cons] at member
        cases member with
        | head =>
            have clear := inductionHypothesis (List.mem_cons_self ..)
            simp [clear, Ne.symm equal]
        | tail _ later => exact inductionHypothesis (List.mem_cons_of_mem _ later)

/-- Splitting the joined fields splits each of them. -/
theorem splitOn_intercalate_eq_flatMap {fields : List (List α)} (nonempty : fields ≠ []) :
    ([separator].intercalate fields).splitOn separator =
      fields.flatMap (List.splitOn separator) := by
  induction fields with
  | nil => exact absurd rfl nonempty
  | cons field fields inductionHypothesis =>
      cases fields with
      | nil => simp
      | cons next rest =>
          rw [List.flatMap_cons, List.intercalate_cons_cons, List.append_assoc,
            List.singleton_append, List.splitOn_append_cons_self, inductionHypothesis (by simp)]

omit [LawfulBEq α] in
/-- A split has at least one field. -/
theorem length_le_length_flatMap (separator : α) (fields : List (List α)) :
    fields.length ≤ (fields.flatMap (List.splitOn separator)).length := by
  induction fields with
  | nil => simp
  | cons field fields inductionHypothesis =>
      have positive := List.length_pos_iff.mpr (List.splitOn_ne_nil separator field)
      rw [List.flatMap_cons, List.length_append, List.length_cons]
      omega

/-- Where splitting each field makes no field more, none was split. -/
theorem flatMap_splitOn_eq_self {fields : List (List α)}
    (same : (fields.flatMap (List.splitOn separator)).length = fields.length) :
    fields.flatMap (List.splitOn separator) = fields := by
  induction fields with
  | nil => rfl
  | cons field fields inductionHypothesis =>
      have positive := List.length_pos_iff.mpr (List.splitOn_ne_nil separator field)
      have tail := length_le_length_flatMap separator fields
      rw [List.flatMap_cons, List.length_append, List.length_cons] at same
      obtain ⟨piece, single⟩ : ∃ piece, field.splitOn separator = [piece] :=
        List.length_eq_one_iff.mp (by omega)
      have whole : piece = field := by
        have joined : [separator].intercalate (field.splitOn separator) = field :=
          List.intercalate_splitOn separator
        simpa [single] using joined
      rw [List.flatMap_cons, single, whole, inductionHypothesis (by omega)]
      rfl

/-- The split gives the joined fields back exactly if no field contains the separator. -/
theorem splitOn_intercalate_iff {fields : List (List α)} (nonempty : fields ≠ []) :
    ([separator].intercalate fields).splitOn separator = fields ↔
      ∀ field ∈ fields, separator ∉ field := by
  constructor
  · intro recovered field member
    rw [← recovered] at member
    exact not_mem_of_mem_splitOn member
  · intro clear
    exact List.splitOn_intercalate separator clear nonempty

/-- Two lists of as many fields join to the same text only if they are equal, once the
fields of one contain no separator. -/
theorem eq_of_intercalate_eq {fields others : List (List α)} (nonempty : fields ≠ [])
    (clear : ∀ field ∈ fields, separator ∉ field) (length : others.length = fields.length)
    (same : [separator].intercalate others = [separator].intercalate fields) :
    others = fields := by
  have othersNonempty : others ≠ [] := by
    rintro rfl
    exact nonempty (List.length_eq_zero_iff.mp length.symm)
  have split : others.flatMap (List.splitOn separator) = fields := by
    rw [← splitOn_intercalate_eq_flatMap othersNonempty, same]
    exact List.splitOn_intercalate separator clear nonempty
  have unsplit : others.flatMap (List.splitOn separator) = others :=
    flatMap_splitOn_eq_self (by rw [split, length])
  exact unsplit.symm.trans split

/-- A number is read back from its decimal digits. -/
theorem toDigits_inj {first second : Nat}
    (same : Nat.toDigits 10 first = Nat.toDigits 10 second) : first = second := by
  rw [← Nat.ofDigitChars_ten_toDigits (n := first), same, Nat.ofDigitChars_ten_toDigits]

theorem not_mem_toDigits {character : Char} (symbol : character.isDigit = false) (n : Nat) :
    character ∉ Nat.toDigits 10 n := by
  intro member
  have digit := Nat.isDigit_of_mem_toDigits (by simp) (by simp) member
  simp [symbol] at digit

end Csqtt.Delimited
