/-
Module: Csqtt.Core.Weight
Purpose: What the elements of a list weigh together, when one of them changes or goes.
Trusted boundary: none
Main exports: sum_set, sum_modify, sum_eraseIdx
-/
import Mathlib.Algebra.Order.BigOperators.Group.List
import Mathlib.Algebra.Ring.Nat

namespace Csqtt

variable {Element : Type*} {list : List Element} {index : Nat} {element : Element}

/-- Without one element a list weighs less by as much as the element. -/
theorem sum_eraseIdx (found : list[index]? = some element) (weight : Element → Nat) :
    ((list.eraseIdx index).map weight).sum + weight element = (list.map weight).sum := by
  obtain ⟨bound, rfl⟩ := List.getElem?_eq_some_iff.mp found
  have whole := ((List.getElem_cons_eraseIdx_perm bound).map weight).sum_eq
  rw [List.map_cons, List.sum_cons] at whole
  exact (Nat.add_comm _ _).trans whole

/-- What a weight sums to over a list of which one element is replaced. -/
theorem sum_set (found : list[index]? = some element) (next : Element) (weight : Element → Nat) :
    ((list.set index next).map weight).sum + weight element =
      (list.map weight).sum + weight next := by
  have bound := (List.getElem?_eq_some_iff.mp found).1
  have whole := ((List.set_perm_cons_eraseIdx bound next).map weight).sum_eq
  rw [List.map_cons, List.sum_cons] at whole
  rw [whole, ← sum_eraseIdx found weight]
  omega

/-- The same where the element is changed. -/
theorem sum_modify (found : list[index]? = some element) (change : Element → Element)
    (weight : Element → Nat) :
    ((list.modify index change).map weight).sum + weight element =
      (list.map weight).sum + weight (change element) := by
  have same : list.modify index change = list.set index (change element) := by
    rw [List.modify_eq_set_getElem?, found]
    rfl
  rw [same]
  exact sum_set found (change element) weight

end Csqtt
