/-
Module: Csqtt.Core.Checked
Purpose: Arithmetic of unsigned words in which a result that does not fit is a result of its own,
  and loops over such arithmetic.
Trusted boundary: none
Main exports: addChecked, subChecked, mulChecked, divChecked, foldlM_grows, foldlM_eq_none
-/
import Mathlib.Data.List.Basic
import Mathlib.Tactic.Ring

namespace Csqtt

/-- Addition of words of so many bits. -/
def addChecked (bits first second : Nat) : Option Nat :=
  if first + second < 2 ^ bits then some (first + second) else none

def mulChecked (bits first second : Nat) : Option Nat :=
  if first * second < 2 ^ bits then some (first * second) else none

def subChecked (first second : Nat) : Option Nat :=
  if second ≤ first then some (first - second) else none

def divChecked (first second : Nat) : Option Nat :=
  if 0 < second then some (first / second) else none

variable {bits first second : Nat}

theorem addChecked_of_lt (fits : first + second < 2 ^ bits) :
    addChecked bits first second = some (first + second) := if_pos fits

theorem mulChecked_of_lt (fits : first * second < 2 ^ bits) :
    mulChecked bits first second = some (first * second) := if_pos fits

theorem subChecked_of_le (fits : second ≤ first) :
    subChecked first second = some (first - second) := if_pos fits

theorem subChecked_of_lt (under : first < second) : subChecked first second = none :=
  if_neg (Nat.not_le.mpr under)

theorem divChecked_of_pos (positive : 0 < second) :
    divChecked first second = some (first / second) := if_pos positive

section Loops

variable {Item Score : Type} {f : Score → Item → Option Score} {items : List Item}

/-- A loop whose every turn adds no more than an amount goes through where there is room for as
many amounts as turns. -/
theorem foldlM_grows (measure : Score → Nat) {amount limit : Nat}
    (turn : ∀ score, ∀ item ∈ items, measure score + amount ≤ limit →
      ∃ next, f score item = some next ∧ measure next ≤ measure score + amount)
    (score : Score) (room : measure score + amount * items.length ≤ limit) :
    ∃ last, items.foldlM f score = some last ∧
      measure last ≤ measure score + amount * items.length := by
  induction items generalizing score with
  | nil => exact ⟨score, rfl, Nat.le_add_right _ _⟩
  | cons item later inductionHypothesis =>
    rw [List.length_cons, Nat.mul_succ] at room ⊢
    obtain ⟨next, taken, less⟩ := turn score item List.mem_cons_self (by omega)
    obtain ⟨last, ended, bound⟩ := inductionHypothesis
      (fun score other mem => turn score other (List.mem_cons_of_mem _ mem))
      next (by omega)
    refine ⟨last, ?_, by omega⟩
    rw [List.foldlM_cons, taken]
    exact ended

/-- A loop does not go through where one of its turns never does. -/
theorem foldlM_eq_none {item : Item} (mem : item ∈ items) (fails : ∀ score, f score item = none)
    (score : Score) : items.foldlM f score = none := by
  induction items generalizing score with
  | nil => cases mem
  | cons first later inductionHypothesis =>
    rw [List.foldlM_cons]
    rcases List.mem_cons.mp mem with rfl | mem
    · rw [fails]
      rfl
    · cases f score first with
      | none => rfl
      | some next => exact inductionHypothesis mem next

end Loops

end Csqtt
