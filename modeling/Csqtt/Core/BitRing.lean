/-
Module: Csqtt.Core.BitRing
Purpose: A ring of bits packed in words, in which a number stands at its residue: it
  remembers a set of numbers as far back as it has room.
Trusted boundary: none
Main exports: BitRing, setBit, clearBit, testBit, clearRange, Holds, Holds.insert, Holds.advance
-/
import Csqtt.Core.Word
import Mathlib.Data.Set.Insert

namespace Csqtt

structure BitRing (count : Nat) where
  words : Vector U64 count

namespace BitRing

variable {count : Nat}

/-- Number of bits. -/
def capacity (count : Nat) : Nat :=
  64 * count

theorem index_lt [NeZero count] (number : Nat) : number % capacity count / 64 < count := by
  have positive : 0 < capacity count := Nat.mul_pos (by decide) (NeZero.pos count)
  have below := Nat.mod_lt number positive
  rw [capacity] at below ⊢
  omega

def zero : BitRing count where
  words := Vector.replicate count 0

section Operations

variable [NeZero count] (self : BitRing count) (number : Nat)

def setBit : BitRing count :=
  let index := number % capacity count
  have inside : index / 64 < count := index_lt number
  { words := self.words.set (index / 64) (self.words[index / 64] ||| 1#64 <<< (index % 64)) }

def clearBit : BitRing count :=
  let index := number % capacity count
  have inside : index / 64 < count := index_lt number
  { words := self.words.set (index / 64) (self.words[index / 64] &&& ~~~(1#64 <<< (index % 64))) }

def testBit : Bool :=
  let index := number % capacity count
  have inside : index / 64 < count := index_lt number
  self.words[index / 64] &&& 1#64 <<< (index % 64) != 0

/-- Clear the bits of consecutive numbers. -/
def clearRange (first amount : Nat) : BitRing count :=
  (List.range amount).foldl (fun ring offset => ring.clearBit (first + offset)) self

end Operations

section Bits

variable [NeZero count] (self : BitRing count) (number other : Nat)

private theorem masked_ne_zero (word : U64) {place : Nat} (small : place < 64) :
    (word &&& 1#64 <<< place != 0) = word.getLsbD place := by
  rw [← BitVec.twoPow_eq, BitVec.and_twoPow]
  cases word.getLsbD place with
  | true =>
      have bit := BitVec.getLsbD_twoPow (w := 64) place place
      rw [if_pos rfl, bne_iff_ne]
      intro zero
      rw [zero] at bit
      simp [small] at bit
  | false => simp

/-- A bit is the one at its place in its word. -/
theorem testBit_eq (inside : number % capacity count / 64 < count) :
    self.testBit number =
      self.words[number % capacity count / 64].getLsbD (number % capacity count % 64) := by
  rw [testBit]
  exact masked_ne_zero _ (Nat.mod_lt _ (by decide))

@[simp] theorem testBit_zero : (zero : BitRing count).testBit number = false := by
  rw [testBit_eq _ _ (index_lt number)]
  simp [zero]

/-- Two residues are the same exactly when word and place are. -/
private theorem decide_residue (first second : Nat) :
    decide (first = second) =
      (decide (first / 64 = second / 64) && decide (first % 64 = second % 64)) := by
  rw [← Bool.decide_and, decide_eq_decide]
  omega

theorem testBit_setBit :
    (self.setBit number).testBit other =
      (decide (number % capacity count = other % capacity count) || self.testBit other) := by
  have inside : number % capacity count / 64 < count := index_lt number
  have inside' : other % capacity count / 64 < count := index_lt other
  have small : other % capacity count % 64 < 64 := Nat.mod_lt _ (by decide)
  rw [testBit_eq _ _ inside', testBit_eq _ _ inside', decide_residue]
  simp only [setBit, Vector.getElem_set]
  by_cases sameWord : number % capacity count / 64 = other % capacity count / 64
  · rw [if_pos sameWord, ← BitVec.twoPow_eq, BitVec.getLsbD_or, BitVec.getLsbD_twoPow]
    simp [sameWord, Nat.mod_lt, Bool.or_comm]
  · simp [sameWord]

theorem testBit_clearBit :
    (self.clearBit number).testBit other =
      (self.testBit other && decide (number % capacity count ≠ other % capacity count)) := by
  have inside : number % capacity count / 64 < count := index_lt number
  have inside' : other % capacity count / 64 < count := index_lt other
  have small : other % capacity count % 64 < 64 := Nat.mod_lt _ (by decide)
  rw [testBit_eq _ _ inside', testBit_eq _ _ inside', decide_not, decide_residue]
  simp only [clearBit, Vector.getElem_set]
  by_cases sameWord : number % capacity count / 64 = other % capacity count / 64
  · rw [if_pos sameWord, ← BitVec.twoPow_eq, BitVec.getLsbD_and, BitVec.getLsbD_not,
      BitVec.getLsbD_twoPow]
    simp [sameWord, small, Nat.mod_lt]
  · simp [sameWord]

/-- A bit survives unless one of the cleared numbers has its residue. -/
theorem testBit_clearRange (first amount : Nat) :
    (self.clearRange first amount).testBit other = true ↔
      self.testBit other = true ∧
        ∀ offset < amount, (first + offset) % capacity count ≠ other % capacity count := by
  induction amount with
  | zero => simp [clearRange]
  | succ amount inductionHypothesis =>
      have last : self.clearRange first (amount + 1) =
          (self.clearRange first amount).clearBit (first + amount) := by
        simp [clearRange, List.range_succ]
      rw [last, testBit_clearBit, Bool.and_eq_true, decide_eq_true_eq, inductionHypothesis,
        and_assoc, Nat.forall_lt_succ_right]

end Bits

/-!
### The numbers it remembers
-/

section Window

variable [NeZero count]

/-- As far back from `highest` as there is room, the set bits are those of the numbers. -/
def Holds (self : BitRing count) (highest : Nat) (numbers : Set Nat) : Prop :=
  ∀ number ≤ highest, highest < number + capacity count →
    (self.testBit number = true ↔ number ∈ numbers)

variable {self : BitRing count} {highest : Nat} {numbers : Set Nat}

omit [NeZero count] in
/-- Two numbers of one window do not share a bit. -/
theorem residue_injective {first second : Nat}
    (same : first % capacity count = second % capacity count)
    (near : first < second + capacity count) (near' : second < first + capacity count) :
    first = second := by
  rcases Nat.le_total first second with ordered | ordered
  · have multiple := Nat.mod_eq_zero_of_dvd ((Nat.modEq_iff_dvd' ordered).mp same)
    rw [Nat.mod_eq_of_lt (by omega)] at multiple
    omega
  · have multiple := Nat.mod_eq_zero_of_dvd ((Nat.modEq_iff_dvd' ordered).mp same.symm)
    rw [Nat.mod_eq_of_lt (by omega)] at multiple
    omega

theorem Holds.insert (holds : self.Holds highest numbers) {number : Nat} (old : number ≤ highest)
    (recent : highest < number + capacity count) :
    (self.setBit number).Holds highest (insert number numbers) := by
  intro other below inside
  rw [testBit_setBit, Bool.or_eq_true, decide_eq_true_eq, holds other below inside,
    Set.mem_insert_iff]
  refine or_congr_left ⟨fun same => ?_, fun equal => by rw [equal]⟩
  exact (residue_injective same (by omega) (by omega)).symm

/-- Moving on clears the bits that the new numbers take over. -/
theorem Holds.advance (holds : self.Holds highest numbers)
    (bounded : ∀ number ∈ numbers, number ≤ highest) (amount : Nat) :
    (self.clearRange (highest + 1) amount).Holds (highest + amount) numbers := by
  intro number below inside
  rw [testBit_clearRange]
  by_cases new : highest < number
  · refine ⟨fun kept => ?_, fun member => ?_⟩
    · have untouched := kept.2 (number - (highest + 1)) (by omega)
      rw [Nat.add_sub_cancel' new] at untouched
      exact absurd rfl untouched
    · have known := bounded number member
      omega
  · rw [holds number (by omega) (by omega)]
    refine ⟨And.left, fun member => ⟨member, fun offset early same => ?_⟩⟩
    have equal := residue_injective same (by omega) (by omega)
    omega

/-- A jump past the whole window leaves nothing to remember. -/
theorem holds_zero (forgotten : ∀ number ∈ numbers, number + capacity count ≤ highest) :
    (zero : BitRing count).Holds highest numbers := by
  intro number below inside
  rw [testBit_zero]
  refine ⟨fun impossible => absurd impossible (by decide), fun member => ?_⟩
  have old := forgotten number member
  omega

end Window

end BitRing

end Csqtt
