/-
Module: Csqtt.Core.RoundRobin
Purpose: Taking one value of every group in turn: nothing is lost, and no two groups
  that still have values are ever more than one apart.
Trusted boundary: none
Main exports: roundRobin, roundRobin_perm, Keyed, roundRobin_balanced
-/
import Mathlib.Data.List.Basic
import Mathlib.Data.List.Nodup

namespace Csqtt

variable {Value Key : Type*}

/-- The values at one offset of every group, then those at the next, until an offset
has none. -/
def roundRobin (groups : List (List Value)) : Nat → Nat → List Value
  | 0, _ => []
  | rounds + 1, offset =>
      match groups.filterMap (·[offset]?) with
      | [] => []
      | added => added ++ roundRobin groups rounds (offset + 1)

variable {groups : List (List Value)}

/-- Groups that end before an offset add nothing from there on. -/
theorem roundRobin_ended (rounds : Nat) {offset : Nat}
    (ended : groups.filterMap (·[offset]?) = []) : roundRobin groups rounds offset = [] := by
  cases rounds with
  | zero => rfl
  | succ rounds => rw [roundRobin, ended]

theorem filterMap_later_of_ended {offset later : Nat} (order : offset ≤ later)
    (ended : groups.filterMap (·[offset]?) = []) : groups.filterMap (·[later]?) = [] := by
  rw [List.filterMap_eq_nil_iff] at ended ⊢
  intro group listed
  apply List.getElem?_eq_none
  exact Nat.le_trans (List.getElem?_eq_none_iff.mp (ended group listed)) order

theorem roundRobin_succ (groups : List (List Value)) (rounds offset : Nat) :
    roundRobin groups (rounds + 1) offset =
      groups.filterMap (·[offset]?) ++ roundRobin groups rounds (offset + 1) := by
  cases round : groups.filterMap (·[offset]?) with
  | nil =>
      rw [roundRobin_ended _ round,
        roundRobin_ended _ (filterMap_later_of_ended (Nat.le_succ offset) round)]
      rfl
  | cons first others =>
      rw [roundRobin, round]

theorem exists_of_mem_roundRobin {rounds offset : Nat} {value : Value}
    (taken : value ∈ roundRobin groups rounds offset) :
    ∃ group ∈ groups, ∃ index, offset ≤ index ∧ group[index]? = some value := by
  induction rounds generalizing offset with
  | zero => cases taken
  | succ rounds inductionHypothesis =>
      rw [roundRobin_succ] at taken
      rcases List.mem_append.mp taken with now | later
      · obtain ⟨group, listed, found⟩ := List.mem_filterMap.mp now
        exact ⟨group, listed, offset, Nat.le_refl offset, found⟩
      · obtain ⟨group, listed, index, order, found⟩ := inductionHypothesis later
        exact ⟨group, listed, index, Nat.le_trans (Nat.le_succ offset) order, found⟩

/-!
### Nothing is lost
-/

/-- What is left of the groups is what one round takes and what is left after it. -/
theorem flatten_drop_perm (groups : List (List Value)) (offset : Nat) :
    (groups.map (·.drop offset)).flatten.Perm
      (groups.filterMap (·[offset]?) ++ (groups.map (·.drop (offset + 1))).flatten) := by
  induction groups with
  | nil => exact List.Perm.refl _
  | cons group groups inductionHypothesis =>
      rw [List.map_cons, List.flatten_cons, List.map_cons, List.flatten_cons]
      by_cases within : offset < group.length
      · simp only [List.filterMap_cons, List.getElem?_eq_getElem within]
        rw [List.drop_eq_getElem_cons within, List.cons_append, List.cons_append]
        apply List.Perm.cons
        calc group.drop (offset + 1) ++ (groups.map (·.drop offset)).flatten
          List.Perm _ (group.drop (offset + 1) ++ (groups.filterMap (·[offset]?) ++
              (groups.map (·.drop (offset + 1))).flatten)) := inductionHypothesis.append_left _
          List.Perm _ _ := by
            rw [← List.append_assoc, ← List.append_assoc]
            exact List.perm_append_comm.append_right _
      · have ended : group.length ≤ offset := Nat.le_of_not_lt within
        simp only [List.filterMap_cons, List.getElem?_eq_none ended]
        rw [List.drop_eq_nil_of_le ended,
          List.drop_eq_nil_of_le (Nat.le_trans ended (Nat.le_succ offset))]
        exact inductionHypothesis

/-- With rounds enough for the longest group, every value is taken once. -/
theorem roundRobin_perm {rounds offset : Nat}
    (enough : ∀ group ∈ groups, group.length ≤ offset + rounds) :
    (roundRobin groups rounds offset).Perm (groups.map (·.drop offset)).flatten := by
  induction rounds generalizing offset with
  | zero =>
      have nothing : (groups.map (·.drop offset)).flatten = [] := by
        rw [List.flatten_eq_nil_iff]
        intro rest listed
        obtain ⟨group, inside, rfl⟩ := List.mem_map.mp listed
        exact List.drop_eq_nil_of_le (enough group inside)
      rw [nothing]
      exact List.Perm.refl _
  | succ rounds inductionHypothesis =>
      rw [roundRobin_succ]
      apply List.Perm.trans _ (flatten_drop_perm groups offset).symm
      apply List.Perm.append_left
      apply inductionHypothesis
      intro group listed
      rw [Nat.add_right_comm, Nat.add_assoc]
      exact enough group listed

/-!
### Nobody is ahead
-/

/-- Groups by a key: a group has one key, and no other group has it. -/
structure Keyed (key : Value → Key) (groups : List (List Value)) : Prop where
  alike : ∀ group ∈ groups, ∀ first ∈ group, ∀ second ∈ group, key first = key second
  apart : groups.Pairwise fun left right =>
    ∀ first ∈ left, ∀ second ∈ right, key first ≠ key second

variable {key : Value → Key}

/-- One round takes one value of a key at most. -/
theorem Keyed.nodup_round (keyed : Keyed key groups) (offset : Nat) :
    ((groups.filterMap (·[offset]?)).map key).Nodup := by
  apply List.pairwise_map.mpr
  apply List.pairwise_filterMap.mpr
  apply keyed.apart.imp
  intro left right apart first taken second takenToo
  exact apart first (List.mem_of_getElem? taken) second (List.mem_of_getElem? takenToo)

/-- A key that a later round takes a value of is one that this round takes one of. -/
theorem Keyed.mem_round (keyed : Keyed key groups) {rounds offset : Nat} {wanted : Key}
    (later : wanted ∈ (roundRobin groups rounds (offset + 1)).map key) :
    wanted ∈ (groups.filterMap (·[offset]?)).map key := by
  obtain ⟨value, taken, rfl⟩ := List.mem_map.mp later
  obtain ⟨group, listed, index, order, found⟩ := exists_of_mem_roundRobin taken
  obtain ⟨bound, _⟩ := List.getElem?_eq_some_iff.mp found
  have within : offset < group.length := Nat.lt_trans (Nat.lt_of_succ_le order) bound
  apply List.mem_map.mpr
  refine ⟨group[offset], ?_, ?_⟩
  · exact List.mem_filterMap.mpr ⟨group, listed, List.getElem?_eq_getElem within⟩
  · exact keyed.alike group listed _ (List.getElem_mem within) _ (List.mem_of_getElem? found)

variable [DecidableEq Key]

/-- How many values of a key a list has. -/
def countOf (key : Value → Key) (wanted : Key) (values : List Value) : Nat :=
  (values.map key).count wanted

theorem countOf_append (wanted : Key) (left right : List Value) :
    countOf key wanted (left ++ right) = countOf key wanted left + countOf key wanted right := by
  rw [countOf, List.map_append, List.count_append, countOf, countOf]

/-- Of two keys with values left, neither is more than one value ahead of the other. -/
theorem roundRobin_balanced (keyed : Keyed key groups) {rounds offset taken : Nat}
    {ahead behind : Key}
    (leftAhead : countOf key ahead ((roundRobin groups rounds offset).take taken) <
      countOf key ahead (roundRobin groups rounds offset))
    (leftBehind : countOf key behind ((roundRobin groups rounds offset).take taken) <
      countOf key behind (roundRobin groups rounds offset)) :
    countOf key ahead ((roundRobin groups rounds offset).take taken) ≤
      countOf key behind ((roundRobin groups rounds offset).take taken) + 1 := by
  -- Both keys have a value in every full round so far, and at most one in the last.
  induction rounds generalizing offset taken with
  | zero =>
      rw [roundRobin, List.take_nil] at leftAhead
      exact absurd leftAhead (Nat.lt_irrefl _)
  | succ rounds inductionHypothesis =>
      have single (wanted : Key) :
          countOf key wanted (groups.filterMap (·[offset]?)) ≤ 1 :=
        List.nodup_iff_count_le_one.mp (keyed.nodup_round offset) wanted
      rw [roundRobin_succ] at leftAhead leftBehind ⊢
      rw [List.take_append] at leftAhead leftBehind ⊢
      by_cases partly : taken ≤ (groups.filterMap (·[offset]?)).length
      · rw [Nat.sub_eq_zero_of_le partly, List.take_zero, List.append_nil]
        have sub : (((groups.filterMap (·[offset]?)).take taken).map key).Sublist
            ((groups.filterMap (·[offset]?)).map key) :=
          (List.take_sublist taken _).map key
        exact Nat.le_trans (Nat.le_trans (sub.count_le ahead) (single ahead)) (Nat.le_add_left 1 _)
      · rw [List.take_of_length_le (Nat.le_of_not_le partly)] at leftAhead leftBehind ⊢
        rw [countOf_append, countOf_append] at leftAhead leftBehind
        have restAhead := Nat.lt_of_add_lt_add_left leftAhead
        have restBehind := Nat.lt_of_add_lt_add_left leftBehind
        have present : 1 ≤ countOf key behind (groups.filterMap (·[offset]?)) := by
          have later : behind ∈ (roundRobin groups rounds (offset + 1)).map key :=
            List.count_pos_iff.mp (Nat.zero_lt_of_lt restBehind)
          exact List.count_pos_iff.mpr (keyed.mem_round later)
        have rest := inductionHypothesis restAhead restBehind
        have once := single ahead
        rw [countOf_append, countOf_append]
        omega

end Csqtt
