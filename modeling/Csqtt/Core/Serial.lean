/-
Module: Csqtt.Core.Serial
Purpose: Serial-number arithmetic on the circle of `2 ^ w` numbers: the forward
  distance between two numbers, the half-window order it induces, cursors that
  only ever move forward, and the first number missing from a set.
Trusted boundary: none
Main exports: ahead, Forward, Walk, Contiguous, FirstMissing
-/
import Mathlib.Data.BitVec
import Mathlib.Data.List.Sort
import Mathlib.Data.List.Nodup

namespace Csqtt.Serial

variable {w : Nat}

/-- Steps walked forward from `origin` until `target` is met. -/
def ahead (origin target : BitVec w) : Nat :=
  (target - origin).toNat

theorem ahead_lt (origin target : BitVec w) : ahead origin target < 2 ^ w :=
  (target - origin).isLt

@[simp] theorem ahead_self (origin : BitVec w) : ahead origin origin = 0 := by
  simp [ahead]

theorem ahead_inj {origin first second : BitVec w} :
    ahead origin first = ahead origin second ↔ first = second := by
  constructor
  · intro same
    have difference : first - origin = second - origin := BitVec.eq_of_toNat_eq same
    have restored := congrArg (· + origin) difference
    simpa [BitVec.sub_add_cancel] using restored
  · rintro rfl
    rfl

theorem ahead_eq_zero {origin target : BitVec w} :
    ahead origin target = 0 ↔ target = origin := by
  rw [← ahead_self origin, ahead_inj]

/-- Distances from one origin subtract as long as the intermediate number is
not passed. -/
theorem ahead_between {origin middle target : BitVec w}
    (ordered : ahead origin middle ≤ ahead origin target) :
    ahead middle target = ahead origin target - ahead origin middle := by
  have split : target - middle = (target - origin) - (middle - origin) := by
    rw [BitVec.sub_sub, BitVec.add_comm, ← BitVec.sub_sub]
    simp [BitVec.sub_eq_add_neg, BitVec.add_assoc]
  unfold ahead at ordered ⊢
  rw [split, BitVec.toNat_sub_of_le]
  exact ordered

/-- Moving the origin one step costs one unit of distance to every other number. -/
theorem ahead_succ {origin target : BitVec w} (different : target ≠ origin) :
    ahead (origin + 1) target + 1 = ahead origin target := by
  have positive : 0 < ahead origin target :=
    Nat.pos_of_ne_zero fun zero => different (ahead_eq_zero.mp zero)
  have wide : 1 < 2 ^ w := Nat.lt_of_le_of_lt positive (ahead_lt origin target)
  have one : ahead origin (origin + 1) = 1 := by
    simp [ahead, BitVec.add_comm origin, Nat.mod_eq_of_lt wide]
  have reached : ahead origin (origin + 1) ≤ ahead origin target := by omega
  have shifted := ahead_between reached
  omega

/-- The successor of a number is one unit further, short of a full turn. -/
theorem ahead_next {origin number : BitVec w} (short : ahead origin number + 1 < 2 ^ w) :
    ahead origin (number + 1) = ahead origin number + 1 := by
  have wide : 1 < 2 ^ w := by omega
  have regroup : number + 1 - origin = number - origin + 1 := by
    rw [BitVec.sub_eq_add_neg, BitVec.sub_eq_add_neg, BitVec.add_assoc, BitVec.add_assoc,
      BitVec.add_comm 1]
  have one : (1 : BitVec w).toNat = 1 := by
    change 1 % 2 ^ w = 1
    exact Nat.mod_eq_of_lt wide
  unfold ahead at short ⊢
  rw [regroup, BitVec.toNat_add, one, Nat.mod_eq_of_lt short]

/-- The two ways around the circle make up a full turn. -/
theorem ahead_swap {first second : BitVec w} (different : first ≠ second) :
    ahead first second + ahead second first = 2 ^ w := by
  have opposite : first - second = -(second - first) := by
    rw [BitVec.neg_sub, BitVec.add_comm, ← BitVec.sub_eq_add_neg]
  have nonzero : second - first ≠ 0#w := by
    intro zero
    exact different (ahead_eq_zero.mp (congrArg BitVec.toNat zero)).symm
  have positive : 0 < (second - first).toNat := by
    refine Nat.pos_of_ne_zero fun zero => nonzero (BitVec.eq_of_toNat_eq ?_)
    simpa using zero
  have below := (second - first).isLt
  unfold ahead
  rw [opposite, BitVec.toNat_neg, Nat.mod_eq_of_lt (by omega)]
  omega

theorem ahead_add_ofNat (origin : BitVec w) {steps : Nat} (short : steps < 2 ^ w) :
    ahead origin (origin + BitVec.ofNat w steps) = steps := by
  simp [ahead, BitVec.add_comm origin, Nat.mod_eq_of_lt short]

/-- Distance past a number that lies strictly before the target. -/
theorem ahead_past {origin middle target : BitVec w}
    (before : ahead origin middle < ahead origin target) :
    ahead (middle + 1) target + 1 = ahead origin target - ahead origin middle := by
  have different : target ≠ middle := by
    rintro rfl
    exact Nat.lt_irrefl _ before
  rw [ahead_succ different, ahead_between (Nat.le_of_lt before)]

/-- The target lies in the half circle strictly in front of the origin. -/
def Forward (origin target : BitVec w) : Prop :=
  0 < ahead origin target ∧ ahead origin target < 2 ^ (w - 1)

instance (origin target : BitVec w) : Decidable (Forward origin target) :=
  inferInstanceAs (Decidable (_ ∧ _))

/-- Moving the origin past a number before the target leaves the target near. -/
theorem Forward.near_past {origin middle target : BitVec w} (forward : Forward origin target)
    (before : ahead origin middle < ahead origin target) :
    ahead (middle + 1) target < 2 ^ (w - 1) := by
  have distance := ahead_past before
  have := forward.2
  omega

/-- A number in front of the origin stays in front when the origin moves past
another number that lies before it, unless the origin lands on it. -/
theorem Forward.past {origin middle target : BitVec w} (forward : Forward origin target)
    (before : ahead origin middle < ahead origin target) (missed : target ≠ middle + 1) :
    Forward (middle + 1) target := by
  have distance := ahead_past before
  have nonzero : ahead (middle + 1) target ≠ 0 := fun zero => missed (ahead_eq_zero.mp zero)
  exact ⟨by omega, by have := forward.2; omega⟩

/-!
### Cursors

A cursor consumes numbers and always moves to the number after the consumed
one. `Walk` allows it to skip up to half a circle at each step; `Contiguous`
forbids skipping.
-/

/-- The cursor moves from the first number to the last by consuming the list,
each entry lying at the cursor or in the half circle before it. -/
inductive Walk : BitVec w → List (BitVec w) → BitVec w → Prop where
  | nil (cursor : BitVec w) : Walk cursor [] cursor
  | cons {cursor number finish : BitVec w} {rest : List (BitVec w)}
      (near : ahead cursor number < 2 ^ (w - 1)) (tail : Walk (number + 1) rest finish) :
      Walk cursor (number :: rest) finish

theorem Walk.append {start middle finish : BitVec w} {first second : List (BitVec w)}
    (one : Walk start first middle) (two : Walk middle second finish) :
    Walk start (first ++ second) finish := by
  induction one with
  | nil => exact two
  | cons near _ inductionHypothesis => exact .cons near (inductionHypothesis two)

/-- The cursor consumes the numbers from the first one on without a gap. -/
inductive Contiguous : BitVec w → List (BitVec w) → BitVec w → Prop where
  | nil (cursor : BitVec w) : Contiguous cursor [] cursor
  | cons {cursor finish : BitVec w} {rest : List (BitVec w)}
      (tail : Contiguous (cursor + 1) rest finish) :
      Contiguous cursor (cursor :: rest) finish

theorem Contiguous.walk {start finish : BitVec w} {numbers : List (BitVec w)}
    (contiguous : Contiguous start numbers finish) : Walk start numbers finish := by
  induction contiguous with
  | nil cursor => exact .nil cursor
  | cons _ inductionHypothesis => exact .cons (by simp [Nat.two_pow_pos]) inductionHypothesis

theorem Contiguous.finish_eq {start finish : BitVec w} {numbers : List (BitVec w)}
    (contiguous : Contiguous start numbers finish) :
    finish = start + BitVec.ofNat w numbers.length := by
  induction contiguous with
  | nil cursor => simp
  | cons _ inductionHypothesis =>
      rw [inductionHypothesis, List.length_cons, BitVec.ofNat_add, BitVec.add_assoc,
        BitVec.add_comm (BitVec.ofNat w _)]
      rfl

/-- A walk that moved stops right behind one of its numbers. -/
theorem Contiguous.last {start finish : BitVec w} {numbers : List (BitVec w)}
    (contiguous : Contiguous start numbers finish) (moved : numbers ≠ []) :
    ∃ number ∈ numbers, finish = number + 1 := by
  induction contiguous with
  | nil => exact absurd rfl moved
  | @cons cursor finish rest tail inductionHypothesis =>
      by_cases empty : rest = []
      · subst empty
        cases tail
        exact ⟨cursor, by simp, rfl⟩
      · obtain ⟨number, member, stop⟩ := inductionHypothesis empty
        exact ⟨number, List.mem_cons_of_mem _ member, stop⟩

/-- Shorter than a full turn, the consumed numbers are exactly those between
the two cursor positions. -/
theorem Contiguous.mem_iff {start finish number : BitVec w} {numbers : List (BitVec w)}
    (contiguous : Contiguous start numbers finish) (short : numbers.length < 2 ^ w) :
    number ∈ numbers ↔ ahead start number < ahead start finish := by
  induction contiguous with
  | nil cursor => simp
  | @cons cursor finish rest tail inductionHypothesis =>
      have whole := (Contiguous.cons tail).finish_eq
      have length : ahead cursor finish = (cursor :: rest).length := by
        rw [whole, ahead_add_ofNat cursor short]
      simp only [List.length_cons] at short length
      have moved : finish ≠ cursor := by
        rintro rfl
        simp at length
      have step := ahead_succ moved
      by_cases same : number = cursor
      · subst same
        simp only [List.mem_cons, true_or, ahead_self, true_iff]
        omega
      · have step' := ahead_succ same
        simp only [List.mem_cons, same, false_or, inductionHypothesis (by omega)]
        omega

/-!
### First missing number
-/

/-- The first number, counted forward from the origin, that is not in the list. -/
def FirstMissing (present : List (BitVec w)) (origin number : BitVec w) : Prop :=
  number ∉ present ∧ ∀ other, other ∉ present → ahead origin number ≤ ahead origin other

theorem FirstMissing.unique {present : List (BitVec w)} {origin first second : BitVec w}
    (one : FirstMissing present origin first) (two : FirstMissing present origin second) :
    first = second :=
  ahead_inj.mp (Nat.le_antisymm (one.2 _ two.1) (two.2 _ one.1))

/-- Where a contiguous walk through members stops, the first missing number is. -/
theorem Contiguous.firstMissing {present numbers : List (BitVec w)} {start finish : BitVec w}
    (contiguous : Contiguous start numbers finish) (short : numbers.length < 2 ^ w)
    (inside : ∀ number ∈ numbers, number ∈ present) (stopped : finish ∉ present) :
    FirstMissing present start finish := by
  refine ⟨stopped, fun other absent => ?_⟩
  by_contra before
  have consumed : other ∈ numbers := (contiguous.mem_iff short).mpr (by omega)
  exact absent (inside other consumed)

/-- A walk that stops at none of the remaining numbers leaves nothing exactly
when no number before a given one is absent. -/
theorem Contiguous.exhausts_iff {start finish : BitVec w} {numbers rest : List (BitVec w)}
    (contiguous : Contiguous start numbers finish) (short : numbers.length < 2 ^ w)
    (apart : ∀ number ∈ rest, number ∉ numbers) (stopped : finish ∉ rest) :
    rest = [] ↔ ∀ number ∈ numbers ++ rest, ∀ other,
      ahead start other < ahead start number → other ∈ numbers ++ rest := by
  constructor
  · rintro rfl number member other before
    rw [List.append_nil] at member ⊢
    have inside := (contiguous.mem_iff short).mp member
    exact (contiguous.mem_iff short).mpr (Nat.lt_trans before inside)
  · intro closed
    refine List.eq_nil_iff_forall_not_mem.mpr fun number stays => ?_
    have different : finish ≠ number := fun same => stopped (same ▸ stays)
    have beyond : ahead start finish ≤ ahead start number := by
      by_contra inside
      exact apart number stays ((contiguous.mem_iff short).mpr (Nat.lt_of_not_le inside))
    have strictly := Nat.lt_of_le_of_ne beyond fun same => different (ahead_inj.mp same)
    rcases List.mem_append.mp (closed number (List.mem_append_right _ stays) finish strictly) with
      consumed | stays'
    · exact Nat.lt_irrefl _ ((contiguous.mem_iff short).mp consumed)
    · exact stopped stays'

/-- A number near the start that was neither consumed nor is where the walk
stopped lies in front of the stop. -/
theorem Contiguous.forward_of_not_mem {start finish number : BitVec w}
    {numbers : List (BitVec w)} (contiguous : Contiguous start numbers finish)
    (short : numbers.length < 2 ^ w) (near : ahead start number < 2 ^ (w - 1))
    (notConsumed : number ∉ numbers) (notStop : number ≠ finish) : Forward finish number := by
  have beyond : ahead start finish ≤ ahead start number := by
    by_contra before
    exact notConsumed ((contiguous.mem_iff short).mpr (by omega))
  have distance := ahead_between beyond
  have nonzero : ahead finish number ≠ 0 := fun zero => notStop (ahead_eq_zero.mp zero)
  exact ⟨by omega, by omega⟩

/-!
### Walks in the lower half of the circle

As long as every consumed number is below half the circle and the cursor
starts at or below it, the circular order is the order of the numbers.
-/

private theorem two_halves (positive : 0 < w) : 2 ^ w = 2 ^ (w - 1) + 2 ^ (w - 1) := by
  obtain ⟨v, rfl⟩ := Nat.exists_eq_succ_of_ne_zero (Nat.pos_iff_ne_zero.mp positive)
  simp [Nat.pow_succ, Nat.mul_two]

/-- Below the half circle the successor does not wrap. -/
theorem toNat_succ_of_low {number : BitVec w} (positive : 0 < w)
    (low : number.toNat < 2 ^ (w - 1)) : (number + 1).toNat = number.toNat + 1 := by
  have halves := two_halves positive
  have half : 0 < 2 ^ (w - 1) := Nat.two_pow_pos _
  have one : (1 : BitVec w).toNat = 1 := by
    change 1 % 2 ^ w = 1
    exact Nat.mod_eq_of_lt (by omega)
  rw [BitVec.toNat_add, one, Nat.mod_eq_of_lt (by omega)]

theorem near_iff_le {cursor number : BitVec w} (positive : 0 < w)
    (lowCursor : cursor.toNat ≤ 2 ^ (w - 1)) (lowNumber : number.toNat < 2 ^ (w - 1)) :
    ahead cursor number < 2 ^ (w - 1) ↔ cursor.toNat ≤ number.toNat := by
  have halves := two_halves positive
  unfold ahead
  rw [BitVec.toNat_sub]
  by_cases ordered : cursor.toNat ≤ number.toNat
  · have whole : 2 ^ w - cursor.toNat + number.toNat
        = (number.toNat - cursor.toNat) + 2 ^ w := by omega
    rw [whole, Nat.add_mod_right, Nat.mod_eq_of_lt (by omega)]
    omega
  · rw [Nat.mod_eq_of_lt (by omega)]
    omega

/-- A walk through low numbers never wraps: every consumed number lies between
the two cursor positions. -/
theorem Walk.low {start finish : BitVec w} {numbers : List (BitVec w)}
    (walk : Walk start numbers finish) (positive : 0 < w)
    (lowStart : start.toNat ≤ 2 ^ (w - 1))
    (low : ∀ number ∈ numbers, number.toNat < 2 ^ (w - 1)) :
    start.toNat ≤ finish.toNat ∧ finish.toNat ≤ 2 ^ (w - 1) ∧
      ∀ number ∈ numbers, start.toNat ≤ number.toNat ∧ number.toNat < finish.toNat := by
  induction walk with
  | nil => simp [lowStart]
  | @cons cursor number finish rest near tail inductionHypothesis =>
      have lowNumber := low number (by simp)
      have ordered := (near_iff_le positive lowStart lowNumber).mp near
      have next := toNat_succ_of_low positive lowNumber
      obtain ⟨forwards, bounded, between⟩ :=
        inductionHypothesis (by omega) fun other member => low other (by simp [member])
      refine ⟨by omega, bounded, fun other member => ?_⟩
      rcases List.mem_cons.mp member with rfl | member
      · omega
      · have := between other member
        omega

/-- A contiguous walk through low numbers consumes the natural numbers between the
two cursor positions. -/
theorem Contiguous.toNat_eq {start finish : BitVec w} {numbers : List (BitVec w)}
    (contiguous : Contiguous start numbers finish) (positive : 0 < w)
    (low : ∀ number ∈ numbers, number.toNat < 2 ^ (w - 1)) :
    numbers.map BitVec.toNat = List.range' start.toNat numbers.length ∧
      finish.toNat = start.toNat + numbers.length := by
  induction contiguous with
  | nil => simp
  | @cons cursor finish rest tail inductionHypothesis =>
      have next := toNat_succ_of_low positive (low cursor (by simp))
      obtain ⟨consumed, stop⟩ :=
        inductionHypothesis fun other member => low other (by simp [member])
      rw [next] at consumed stop
      rw [List.map_cons, List.length_cons, consumed, stop, List.range'_succ]
      exact ⟨rfl, by omega⟩

/-- A walk through low numbers consumes them in strictly increasing order. -/
theorem Walk.increasing {start finish : BitVec w} {numbers : List (BitVec w)}
    (walk : Walk start numbers finish) (positive : 0 < w)
    (lowStart : start.toNat ≤ 2 ^ (w - 1))
    (low : ∀ number ∈ numbers, number.toNat < 2 ^ (w - 1)) :
    (numbers.map BitVec.toNat).Pairwise (· < ·) := by
  induction walk with
  | nil => simp
  | @cons cursor number finish rest near tail inductionHypothesis =>
      have lowNumber := low number (by simp)
      have lowRest : ∀ other ∈ rest, other.toNat < 2 ^ (w - 1) :=
        fun other member => low other (by simp [member])
      have next := toNat_succ_of_low positive lowNumber
      obtain ⟨_, _, between⟩ := tail.low positive (by omega) lowRest
      simp only [List.map_cons, List.pairwise_cons, List.mem_map]
      refine ⟨?_, inductionHypothesis (by omega) lowRest⟩
      rintro _ ⟨other, member, rfl⟩
      have := (between other member).1
      omega

end Csqtt.Serial
