/-
Module: Csqtt.Core.Resequencing
Purpose: What a reorder buffer is for, on sets of arrived numbers: it has handed on
  the numbers below the first missing one, holds the ones beyond it, and an
  arrival hands on what closes the gap.
Trusted boundary: none
Main exports: firstMissing, beyond, released, handed_on, exists_of_lt_countP
-/
import Mathlib.Data.Finset.Card
import Mathlib.Data.Finset.Insert
import Mathlib.Order.Preorder.Finite
import Mathlib.Data.Nat.Find
import Mathlib.Data.Set.Finite.Basic
import Mathlib.Data.Fintype.EquivFin

namespace Csqtt.Resequencing

/-- The first number that has not arrived. -/
def firstMissing (arrived : Finset Nat) : Nat :=
  Nat.find (Infinite.exists_notMem_finset arrived)

/-- The numbers that arrived beyond the first missing one. -/
def beyond (arrived : Finset Nat) : Finset Nat :=
  arrived.filter (firstMissing arrived < ·)

theorem firstMissing_notMem (arrived : Finset Nat) : firstMissing arrived ∉ arrived :=
  Nat.find_spec (Infinite.exists_notMem_finset arrived)

theorem mem_of_lt_firstMissing {arrived : Finset Nat} {number : Nat}
    (below : number < firstMissing arrived) : number ∈ arrived := by
  have present := Nat.find_min (Infinite.exists_notMem_finset arrived) below
  exact Decidable.not_not.mp present

theorem firstMissing_le {arrived : Finset Nat} {number : Nat} (absent : number ∉ arrived) :
    firstMissing arrived ≤ number :=
  Nat.find_min' (Infinite.exists_notMem_finset arrived) absent

theorem firstMissing_eq {arrived : Finset Nat} {number : Nat} (absent : number ∉ arrived)
    (below : ∀ other, other < number → other ∈ arrived) : firstMissing arrived = number := by
  refine Nat.le_antisymm (firstMissing_le absent) ?_
  by_contra before
  exact firstMissing_notMem arrived (below _ (Nat.lt_of_not_le before))

theorem mem_beyond {arrived : Finset Nat} {number : Nat} :
    number ∈ beyond arrived ↔ number ∈ arrived ∧ firstMissing arrived < number := by
  simp [beyond]

/-- What arrived is below the first missing number or beyond it. -/
theorem mem_iff {arrived : Finset Nat} {number : Nat} :
    number ∈ arrived ↔ number < firstMissing arrived ∨ number ∈ beyond arrived := by
  rw [mem_beyond]
  constructor
  · intro member
    rcases Nat.lt_trichotomy number (firstMissing arrived) with below | same | past
    · exact .inl below
    · exact absurd (same ▸ member) (firstMissing_notMem arrived)
    · exact .inr ⟨member, past⟩
  · rintro (below | past)
    · exact mem_of_lt_firstMissing below
    · exact past.1

theorem firstMissing_le_of_low {arrived : Finset Nat} {bound : Nat}
    (low : ∀ number ∈ arrived, number < bound) : firstMissing arrived ≤ bound := by
  by_contra past
  exact Nat.lt_irrefl _ (low bound (mem_of_lt_firstMissing (Nat.lt_of_not_le past)))

theorem firstMissing_mono {first second : Finset Nat} (inside : first ⊆ second) :
    firstMissing first ≤ firstMissing second :=
  firstMissing_le fun member => firstMissing_notMem second (inside member)

@[simp] theorem firstMissing_empty : firstMissing ∅ = 0 :=
  firstMissing_eq (by simp) (by simp)

@[simp] theorem beyond_empty : beyond ∅ = ∅ := by
  simp [beyond]

/-- Any other number than the missing one leaves the gap where it is. -/
theorem firstMissing_insert_of_ne {arrived : Finset Nat} {number : Nat}
    (different : number ≠ firstMissing arrived) :
    firstMissing (insert number arrived) = firstMissing arrived := by
  refine firstMissing_eq ?_ fun other below => ?_
  · rw [Finset.mem_insert, not_or]
    exact ⟨different.symm, firstMissing_notMem arrived⟩
  · exact Finset.mem_insert_of_mem (mem_of_lt_firstMissing below)

theorem beyond_insert_of_gt {arrived : Finset Nat} {number : Nat}
    (past : firstMissing arrived < number) :
    beyond (insert number arrived) = insert number (beyond arrived) := by
  rw [beyond, firstMissing_insert_of_ne (Nat.ne_of_gt past), Finset.filter_insert, if_pos past]
  rfl

/-- The missing number moves the gap past itself and the run that follows it. -/
theorem firstMissing_insert_self {arrived : Finset Nat} {count : Nat}
    (run : ∀ number, firstMissing arrived < number → number ≤ firstMissing arrived + count →
      number ∈ beyond arrived)
    (stop : firstMissing arrived + 1 + count ∉ beyond arrived) :
    firstMissing (insert (firstMissing arrived) arrived) = firstMissing arrived + 1 + count := by
  refine firstMissing_eq ?_ fun other below => ?_
  · rw [Finset.mem_insert, not_or]
    refine ⟨by omega, fun member => ?_⟩
    exact stop (mem_beyond.mpr ⟨member, by omega⟩)
  · rw [Finset.mem_insert]
    rcases Nat.lt_trichotomy other (firstMissing arrived) with early | same | late
    · exact .inr (mem_of_lt_firstMissing early)
    · exact .inl same
    · exact .inr (mem_beyond.mp (run other late (by omega))).1

/-- Numbers that the arrival of a number hands on, in order. -/
def released (arrived : Finset Nat) (number : Nat) : List Nat :=
  List.range' (firstMissing arrived)
    (firstMissing (insert number arrived) - firstMissing arrived)

theorem released_of_ne {arrived : Finset Nat} {number : Nat}
    (different : number ≠ firstMissing arrived) : released arrived number = [] := by
  simp [released, firstMissing_insert_of_ne different]

/-- What was handed on before and what an arrival hands on are together the
numbers below the first missing one. -/
theorem handed_on (arrived : Finset Nat) (number : Nat) :
    List.range (firstMissing arrived) ++ released arrived number =
      List.range (firstMissing (insert number arrived)) := by
  have grows := firstMissing_mono (Finset.subset_insert number arrived)
  rw [released, List.range_eq_range', List.range_eq_range']
  have joined := @List.range'_append_1 0 (firstMissing arrived)
    (firstMissing (insert number arrived) - firstMissing arrived)
  rwa [Nat.zero_add, Nat.add_sub_cancel' grows] at joined

/-- Once exactly the numbers below a bound have arrived, all are handed on and
nothing is held. -/
theorem firstMissing_range (bound : Nat) : firstMissing (Finset.range bound) = bound :=
  firstMissing_eq (by simp) (by simp)

theorem beyond_range (bound : Nat) : beyond (Finset.range bound) = ∅ := by
  rw [beyond, firstMissing_range, Finset.filter_eq_empty_iff]
  intro number member past
  exact Nat.lt_asymm past (Finset.mem_range.mp member)

/-!
### Numbering the entries of a stream

The entries of a list with a property, numbered by how many such entries come
before them.
-/

variable {Item : Type*} (selected : Item → Bool)

theorem getElem?_filter_countP_take {items : List Item} {index : Nat} {item : Item}
    (found : items[index]? = some item) (holds : selected item = true) :
    (items.filter selected)[(items.take index).countP selected]? = some item := by
  induction items generalizing index with
  | nil => simp at found
  | cons first items inductionHypothesis =>
      cases index with
      | zero =>
          obtain rfl : first = item := by simpa using found
          simp [holds]
      | succ index =>
          have rest := inductionHypothesis (by simpa using found)
          by_cases here : selected first = true
          · simpa [here] using rest
          · simpa [here] using rest

theorem countP_take_lt {items : List Item} {index : Nat} {item : Item}
    (found : items[index]? = some item) (holds : selected item = true) :
    (items.take index).countP selected < items.countP selected := by
  have numbered := getElem?_filter_countP_take selected found holds
  obtain ⟨inside, _⟩ := List.getElem?_eq_some_iff.mp numbered
  rwa [← List.countP_eq_length_filter] at inside

/-- Every number below the count belongs to an entry. -/
theorem exists_of_lt_countP {items : List Item} {number : Nat}
    (below : number < items.countP selected) :
    ∃ index item, items[index]? = some item ∧ selected item = true ∧
      (items.take index).countP selected = number := by
  induction items generalizing number with
  | nil => simp at below
  | cons first items inductionHypothesis =>
      by_cases here : selected first = true
      · cases number with
        | zero => exact ⟨0, first, rfl, here, rfl⟩
        | succ number =>
            rw [List.countP_cons_of_pos here] at below
            obtain ⟨index, item, found, holds, count⟩ :=
              inductionHypothesis (Nat.lt_of_succ_lt_succ below)
            exact ⟨index + 1, item, by simpa using found, holds, by simp [here, count]⟩
      · rw [List.countP_cons_of_neg here] at below
        obtain ⟨index, item, found, holds, count⟩ := inductionHypothesis below
        exact ⟨index + 1, item, by simpa using found, holds, by simp [here, count]⟩

end Csqtt.Resequencing
