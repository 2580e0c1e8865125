/-
Module: Csqtt.Proofs.RtpReplay
Purpose: Which RTP sequence numbers the replay window accepts: it follows the true
  counters, until one arrives from a rollover before that of the first arrival.
Trusted boundary: none
Main exports: Following, firstArrivals, NearHighest, early, late, accepts_first_arrivals_iff
-/
import Csqtt.Proofs.ReplayWindow
import Mathlib.Data.List.TakeWhile

namespace Csqtt.ReplayWindow

open Transducer

/-!
### The guess
-/

private theorem lowMask (place : Nat) : (0xffff#64).getLsbD place = decide (place < 16) := by
  have ones := Nat.testBit_two_pow_sub_one 16 place
  rw [← ones]
  rfl

private theorem toNat_base (highest : U64) :
    (highest &&& ~~~0xffff#64).toNat = 2 ^ 16 * (highest.toNat / 2 ^ 16) := by
  have shifted : highest &&& ~~~0xffff#64 = (highest >>> 16) <<< 16 := by
    apply BitVec.eq_of_getLsbD_eq
    intro place inside
    rw [BitVec.getLsbD_and, BitVec.getLsbD_not, lowMask, BitVec.getLsbD_shiftLeft,
      BitVec.getLsbD_ushiftRight]
    by_cases low : place < 16
    · simp [low]
    · simp [low, inside, Nat.add_sub_cancel' (Nat.le_of_not_lt low)]
  rw [shifted, BitVec.toNat_shiftLeft, BitVec.toNat_ushiftRight, Nat.shiftLeft_eq,
    Nat.shiftRight_eq_div_pow]
  omega

theorem toNat_extended (highest : U64) (sequence : U16) :
    (highest &&& ~~~0xffff#64 ||| sequence.setWidth 64).toNat =
      2 ^ 16 * (highest.toNat / 2 ^ 16) + sequence.toNat := by
  have small := sequence.isLt
  rw [BitVec.toNat_or, toNat_base, BitVec.toNat_setWidth, Nat.mod_eq_of_lt (by omega)]
  exact (Nat.two_pow_add_eq_or_of_lt small _).symm


private theorem toNat_half : (0x8000 : U64).toNat = 2 ^ 15 := rfl

private theorem toNat_rollover : (0x10000 : U64).toNat = 2 ^ 16 := rfl

/-- A counter within half a rollover of the highest one is recovered from its low bits. -/
theorem extendRtp_near {highest : U64} {counter : Nat} (fits : counter < 2 ^ 64)
    (near : counter < highest.toNat + 2 ^ 15) (near' : highest.toNat < counter + 2 ^ 15) :
    (extendRtp highest (BitVec.ofNat 16 counter)).toNat = counter := by
  have extended := toNat_extended highest (BitVec.ofNat 16 counter)
  rw [BitVec.toNat_ofNat] at extended
  simp only [extendRtp]
  generalize highest &&& ~~~0xffff#64 ||| (BitVec.ofNat 16 counter).setWidth 64 = guess
    at extended ⊢
  have bounded := highest.isLt
  simp only [BitVec.lt_def, BitVec.le_def, toNat_saturatingAdd, toNat_half,
    toNat_rollover]
  split
  · rw [toNat_saturatingAdd, toNat_rollover]
    omega
  · split
    · rename_i above
      rw [BitVec.toNat_sub_of_le above.2, toNat_rollover]
      omega
    · omega

/-- In front of the highest counter, below the first rollover, nothing is taken off. -/
theorem extendRtp_first {highest : U64} {sequence : U16} (low : highest.toNat < 2 ^ 14)
    (high : highest.toNat < sequence.toNat) :
    (extendRtp highest sequence).toNat = sequence.toNat := by
  have extended := toNat_extended highest sequence
  have small := sequence.isLt
  simp only [extendRtp]
  generalize highest &&& ~~~0xffff#64 ||| sequence.setWidth 64 = guess at extended ⊢
  simp only [BitVec.lt_def, BitVec.le_def, toNat_saturatingAdd, toNat_half,
    toNat_rollover]
  rw [if_neg (by omega), if_neg (by omega)]
  omega

/-- What arrives of a counter. -/
def sequenceOf (counter : U64) : U16 :=
  counter.setWidth 16

theorem sequenceOf_eq {counter : U64} {offset : Nat} (multiple : offset % 2 ^ 16 = 0)
    (above : offset ≤ counter.toNat) :
    sequenceOf counter = BitVec.ofNat 16 (counter.toNat - offset) := by
  apply BitVec.eq_of_toNat_eq
  rw [sequenceOf, BitVec.toNat_setWidth, BitVec.toNat_ofNat]
  omega

/-!
### Following the true counters
-/

/-- True counters as the window knows them, some rollovers short. -/
def shifted (offset : Nat) (counters : List U64) : Set U64 :=
  { value | ∃ counter ∈ counters, value.toNat + offset = counter.toNat }

/-- The window follows the true counters, `offset` behind them: it represents the ones
it keeps, the highest of which is close to the highest of all. -/
structure Following (kept : List U64) (offset highest : Nat) (window : ReplayWindow) : Prop where
  multiple : offset % 2 ^ 16 = 0
  above : ∀ counter ∈ kept, offset ≤ counter.toNat
  represents : Represents (shifted offset kept) window
  top : ∃ top ∈ kept, (∀ counter ∈ kept, counter ≤ top) ∧ top.toNat ≤ highest ∧
    highest < top.toNat + 2 ^ 14

theorem mem_shifted {counter value : U64} {offset : Nat} {counters : List U64}
    (same : value.toNat + offset = counter.toNat) :
    value ∈ shifted offset counters ↔ counter ∈ counters := by
  constructor
  · rintro ⟨other, member, equal⟩
    rwa [BitVec.eq_of_toNat_eq (same.symm.trans equal)]
  · exact fun member => ⟨counter, member, same⟩

theorem shifted_concat {counter value : U64} {offset : Nat} {counters : List U64}
    (same : value.toNat + offset = counter.toNat) :
    shifted offset (counters ++ [counter]) = insert value (shifted offset counters) := by
  ext other
  simp only [shifted, Set.mem_ofPred_eq, Set.mem_insert_iff, List.mem_append, List.mem_singleton]
  constructor
  · rintro ⟨origin, member | rfl, equal⟩
    · exact .inr ⟨origin, member, equal⟩
    · exact .inl (BitVec.eq_of_toNat_eq (by omega))
  · rintro (rfl | ⟨origin, member, equal⟩)
    · exact ⟨counter, .inr rfl, same⟩
    · exact ⟨origin, .inl member, equal⟩

/-- The highest counter of a window that follows, and how the next one is accepted. -/
theorem Following.acceptRtp_eq {kept : List U64} {offset highest : Nat} {window : ReplayWindow}
    (following : Following kept offset highest window) :
    ∃ top ∈ kept, ∃ value : U64, (∀ counter ∈ kept, counter ≤ top) ∧ top.toNat ≤ highest ∧
      highest < top.toNat + 2 ^ 14 ∧ value.toNat + offset = top.toNat ∧
      ∀ sequence, window.acceptRtp sequence = window.accept (extendRtp value sequence) := by
  obtain ⟨top, member, greatest, below, close⟩ := following.top
  refine ⟨top, member, ?_⟩
  have fits := top.isLt
  have least := following.above top member
  have value : (BitVec.ofNat 64 (top.toNat - offset)).toNat + offset = top.toNat := by
    rw [BitVec.toNat_ofNat, Nat.mod_eq_of_lt (by omega)]
    omega
  have known := (mem_shifted value).mpr member
  have represents := following.represents
  cases represents with
  | nothing none =>
      rw [none] at known
      exact absurd known (Set.notMem_empty _)
  | @upTo first seen isMember isTop holds =>
      obtain ⟨origin, originMember, equal⟩ := isMember
      have atMost : origin.toNat ≤ top.toNat := greatest origin originMember
      have atLeast : (BitVec.ofNat 64 (top.toNat - offset)).toNat ≤ first.toNat := isTop _ known
      exact ⟨first, greatest, below, close, by omega, fun sequence => rfl⟩

/-- A counter within reach is accepted exactly when it is not kept, and then is. -/
theorem Following.step {kept : List U64} {offset highest : Nat} {window : ReplayWindow}
    (following : Following kept offset highest window) {counter : U64}
    (above : offset ≤ counter.toNat) (near : counter.toNat < highest + 2 ^ 14)
    (near' : highest < counter.toNat + 2 ^ 14) :
    (window.acceptRtp (sequenceOf counter)).2 = decide (counter ∉ kept) ∧
      Following (kept ++ [counter]) offset (max highest counter.toNat)
        (window.acceptRtp (sequenceOf counter)).1 := by
  obtain ⟨top, member, value, greatest, below, close, topValue, accepts⟩ := following.acceptRtp_eq
  have fits := counter.isLt
  rw [accepts, sequenceOf_eq following.multiple above]
  have guessed := @extendRtp_near value (counter.toNat - offset) (by omega) (by omega) (by omega)
  generalize extendRtp value (BitVec.ofNat 16 (counter.toNat - offset)) = guess at guessed
  have same : guess.toNat + offset = counter.toNat := by omega
  have newTop : ∃ top ∈ kept ++ [counter], (∀ other ∈ kept ++ [counter], other ≤ top) ∧
      top.toNat ≤ max highest counter.toNat ∧
      max highest counter.toNat < top.toNat + 2 ^ 14 := by
    by_cases front : top.toNat < counter.toNat
    · refine ⟨counter, by simp, fun other listed => ?_, by omega, by omega⟩
      rcases List.mem_append.mp listed with old | new
      · exact Nat.le_trans (greatest other old) (Nat.le_of_lt front)
      · rw [List.mem_singleton.mp new]
        exact BitVec.le_refl _
    · refine ⟨top, List.mem_append_left _ member, fun other listed => ?_, by omega, by omega⟩
      rcases List.mem_append.mp listed with old | new
      · exact greatest other old
      · rw [List.mem_singleton.mp new]
        exact Nat.le_of_not_lt front
  have newAbove : ∀ other ∈ kept ++ [counter], offset ≤ other.toNat := by
    intro other listed
    rcases List.mem_append.mp listed with old | new
    · exact following.above other old
    · rw [List.mem_singleton.mp new]
      exact above
  have recent : ∀ other ∈ shifted offset kept, other.toNat < guess.toNat + replayWindowSize := by
    rintro other ⟨origin, listed, equal⟩
    have atMost : origin.toNat ≤ top.toNat := greatest origin listed
    rw [replayWindowSize]
    omega
  by_cases known : counter ∈ kept
  · have stale : ¬ Fresh (shifted offset kept) guess := fun fresh =>
      fresh.1 ((mem_shifted same).mpr known)
    rw [following.represents.accept_of_not_fresh stale]
    refine ⟨by simp [known], following.multiple, newAbove, ?_, newTop⟩
    rw [shifted_concat same, Set.insert_eq_of_mem ((mem_shifted same).mpr known)]
    exact following.represents
  · have fresh : Fresh (shifted offset kept) guess :=
      ⟨fun listed => known ((mem_shifted same).mp listed), recent⟩
    obtain ⟨accepted, after⟩ := following.represents.accept_of_fresh fresh
    rw [accepted]
    refine ⟨by simp [known], following.multiple, newAbove, ?_, newTop⟩
    rw [shifted_concat same]
    exact after

/-!
### Whole runs
-/

/-- Every counter is less than a window away from the highest one before it. -/
def Near (highest : Nat) : List U64 → Prop
  | [] => True
  | counter :: counters =>
      (counter.toNat < highest + 2 ^ 14 ∧ highest < counter.toNat + 2 ^ 14) ∧
        Near (max highest counter.toNat) counters

instance decidableNear : ∀ highest counters, Decidable (Near highest counters)
  | _, [] => .isTrue trivial
  | _, _ :: counters => @instDecidableAnd _ _ _ (decidableNear _ counters)

/-- The same from the first counter on, which is free. -/
def NearHighest : List U64 → Prop
  | [] => True
  | counter :: counters => Near counter.toNat counters

instance (counters : List U64) : Decidable (NearHighest counters) :=
  match counters with
  | [] => .isTrue trivial
  | _ :: counters => decidableNear _ counters

def highestAfter (highest : Nat) (counters : List U64) : Nat :=
  counters.foldl (fun highest counter => max highest counter.toNat) highest

theorem le_highestAfter (highest : Nat) (counters : List U64) :
    highest ≤ highestAfter highest counters := by
  induction counters generalizing highest with
  | nil => exact Nat.le_refl _
  | cons counter counters inductionHypothesis =>
      exact (Nat.le_max_left _ _).trans (inductionHypothesis _)

theorem near_append {highest : Nat} {first second : List U64} :
    Near highest (first ++ second) ↔
      Near highest first ∧ Near (highestAfter highest first) second := by
  induction first generalizing highest with
  | nil => simp [Near, highestAfter]
  | cons counter counters inductionHypothesis =>
      simp only [List.cons_append, Near, inductionHypothesis, highestAfter, List.foldl_cons,
        and_assoc]

/-- Nothing near arrives from far below a bound that the highest counter has reached. -/
theorem Near.above {highest bound : Nat} {counters : List U64} (near : Near highest counters)
    (reached : bound ≤ highest) : ∀ counter ∈ counters, bound < counter.toNat + 2 ^ 14 := by
  induction counters generalizing highest with
  | nil => simp
  | cons first counters inductionHypothesis =>
      intro counter member
      rcases List.mem_cons.mp member with rfl | later
      · have here := near.1.2
        omega
      · exact inductionHypothesis near.2 (le_max_of_le_left reached) counter later

/-- The verdicts of perfect replay protection: `true` at the first arrival of each counter. -/
def firstArrivals (before : List U64) : List U64 → List Bool
  | [] => []
  | counter :: counters => decide (counter ∉ before) :: firstArrivals (before ++ [counter]) counters

theorem firstArrivals_append (before first second : List U64) :
    firstArrivals before (first ++ second) =
      firstArrivals before first ++ firstArrivals (before ++ first) second := by
  induction first generalizing before with
  | nil => simp [firstArrivals]
  | cons counter counters inductionHypothesis =>
      simp [firstArrivals, inductionHypothesis]

/-- Earlier arrivals may be forgotten as long as none of them comes back unseen. -/
theorem firstArrivals_forget (forgotten seen counters : List U64) :
    firstArrivals (forgotten ++ seen) counters = firstArrivals seen counters ↔
      ∀ counter ∈ counters, counter ∈ forgotten → counter ∈ seen := by
  induction counters generalizing seen with
  | nil => simp [firstArrivals]
  | cons first counters inductionHypothesis =>
      rw [firstArrivals, firstArrivals, List.append_assoc, List.cons.injEq, inductionHypothesis,
        decide_eq_decide, List.forall_mem_cons]
      simp only [List.mem_append, List.mem_singleton, not_or]
      constructor
      · rintro ⟨head, tail⟩
        have firstSeen : first ∈ forgotten → first ∈ seen := by
          intro old
          by_contra unseen
          exact (head.mpr unseen).1 old
        refine ⟨firstSeen, fun counter member old => ?_⟩
        rcases tail counter member old with known | rfl
        · exact known
        · exact firstSeen old
      · rintro ⟨head, tail⟩
        exact ⟨⟨And.right, fun unseen => ⟨fun old => unseen (head old), unseen⟩⟩,
          fun counter member old => .inl (tail counter member old)⟩

/-- While the window follows, it accepts the first arrivals. -/
theorem Following.run {kept : List U64} {offset highest : Nat} {window : ReplayWindow}
    (following : Following kept offset highest window) {counters : List U64}
    (above : ∀ counter ∈ counters, offset ≤ counter.toNat) (near : Near highest counters) :
    (Transducer.run acceptRtp window (counters.map sequenceOf)).2 = firstArrivals kept counters ∧
      Following (kept ++ counters) offset (highestAfter highest counters)
        (Transducer.run acceptRtp window (counters.map sequenceOf)).1 := by
  induction counters generalizing kept highest window with
  | nil =>
      rw [List.append_nil]
      exact ⟨rfl, following⟩
  | cons counter counters inductionHypothesis =>
      obtain ⟨verdict, next⟩ :=
        following.step (above counter List.mem_cons_self) near.1.1 near.1.2
      obtain ⟨verdicts, last⟩ := inductionHypothesis next
        (fun other member => above other (List.mem_cons_of_mem _ member)) near.2
      rw [List.map_cons, run_cons, verdict, firstArrivals]
      dsimp only
      rw [verdicts]
      rw [List.append_assoc, List.singleton_append] at last
      exact ⟨rfl, last⟩

/-- The first counter is taken for one below the first rollover. -/
theorem following_first (counter : U64) :
    (acceptRtp new (sequenceOf counter)).2 = true ∧
      Following [counter] (2 ^ 16 * (counter.toNat / 2 ^ 16)) counter.toNat
        (acceptRtp new (sequenceOf counter)).1 := by
  have value : ((sequenceOf counter).setWidth 64 : U64).toNat +
      2 ^ 16 * (counter.toNat / 2 ^ 16) = counter.toNat := by
    rw [sequenceOf, BitVec.toNat_setWidth, BitVec.toNat_setWidth]
    omega
  have fresh : Fresh ∅ ((sequenceOf counter).setWidth 64) := ⟨by simp, by simp⟩
  obtain ⟨accepted, after⟩ := (Represents.nothing rfl).accept_of_fresh fresh
  refine ⟨accepted, by omega, ?_, ?_, counter, by simp, by simp, Nat.le_refl _, by omega⟩
  · intro other member
    rw [List.mem_singleton.mp member]
    omega
  · have nothing : shifted (2 ^ 16 * (counter.toNat / 2 ^ 16)) [] = ∅ := by
      ext other
      simp [shifted]
    have only := @shifted_concat counter _ _ [] value
    rw [List.nil_append, nothing] at only
    rw [only]
    exact after

/-- A counter from the rollover before is accepted, and the window starts over from it. -/
theorem Following.turn {kept : List U64} {offset highest : Nat} {window : ReplayWindow}
    (following : Following kept offset highest window) {counter : U64}
    (below : counter.toNat < offset) (near : highest < counter.toNat + 2 ^ 14) :
    (window.acceptRtp (sequenceOf counter)).2 = true ∧
      Following [counter] (offset - 2 ^ 16) highest
        (window.acceptRtp (sequenceOf counter)).1 := by
  obtain ⟨top, member, value, greatest, topBelow, close, topValue, accepts⟩ :=
    following.acceptRtp_eq
  have multiple := following.multiple
  have sequence : (sequenceOf counter).toNat + (offset - 2 ^ 16) = counter.toNat := by
    rw [sequenceOf, BitVec.toNat_setWidth]
    omega
  have guessed := @extendRtp_first value (sequenceOf counter) (by omega) (by omega)
  rw [accepts]
  generalize extendRtp value (sequenceOf counter) = guess at guessed
  have same : guess.toNat + (offset - 2 ^ 16) = counter.toNat := by omega
  have far : ∀ other ∈ shifted offset kept, other.toNat + replayWindowSize < guess.toNat := by
    rintro other ⟨origin, listed, equal⟩
    have atMost : origin.toNat ≤ top.toNat := greatest origin listed
    rw [replayWindowSize]
    omega
  have fresh : Fresh (shifted offset kept) guess := by
    refine ⟨fun known => ?_, fun other known => ?_⟩
    · have apart := far guess known
      omega
    · have apart := far other known
      omega
  obtain ⟨accepted, after⟩ := following.represents.accept_of_fresh fresh
  have nothing : shifted (offset - 2 ^ 16) [] = ∅ := by
    ext other
    simp [shifted]
  have only := @shifted_concat counter guess _ [] same
  rw [List.nil_append, nothing] at only
  refine ⟨accepted, by omega, ?_, ?_, counter, by simp, by simp, by omega, near⟩
  · intro other listed
    rw [List.mem_singleton.mp listed]
    omega
  · rw [only]
    refine after.forget (Set.insert_subset_insert (Set.empty_subset _)) fun other known recent => ?_
    rcases Set.mem_insert_iff.mp known with rfl | old
    · exact Set.mem_insert _ _
    · have apart := far other old
      have reach := recent guess (Set.mem_insert _ _)
      omega

/-!
### The first arrivals
-/

def epoch (counter : U64) : Nat :=
  counter.toNat / 2 ^ 16

/-- The counters up to the first one from a rollover before that of the first. -/
def early : List U64 → List U64
  | [] => []
  | first :: counters => first :: counters.takeWhile fun counter => epoch first ≤ epoch counter

/-- The counters from there on. -/
def late : List U64 → List U64
  | [] => []
  | first :: counters => counters.dropWhile fun counter => epoch first ≤ epoch counter

theorem early_append_late (counters : List U64) : early counters ++ late counters = counters := by
  cases counters with
  | nil => rfl
  | cons first counters =>
      rw [early, late, List.cons_append, List.takeWhile_append_dropWhile]

/-- The window accepts the first arrivals of each of the two parts. -/
theorem acceptRtp_run {counters : List U64} (near : NearHighest counters) :
    (run acceptRtp new (counters.map sequenceOf)).2 =
      firstArrivals [] (early counters) ++ firstArrivals [] (late counters) := by
  cases counters with
  | nil => rfl
  | cons first counters =>
      obtain ⟨accepted, following⟩ := following_first first
      rw [early, late, firstArrivals, List.map_cons, run_cons, accepted]
      dsimp only [NearHighest] at near ⊢
      have whole := @List.takeWhile_append_dropWhile _
        (fun counter => decide (epoch first ≤ epoch counter)) counters
      have aboveEarly : ∀ counter ∈ counters.takeWhile (fun counter => epoch first ≤ epoch counter),
          2 ^ 16 * (first.toNat / 2 ^ 16) ≤ counter.toNat := by
        intro counter member
        have holds := List.mem_takeWhile_imp (p := fun counter => decide (epoch first ≤ epoch counter))
          member
        have ordered : epoch first ≤ epoch counter := of_decide_eq_true holds
        rw [epoch, epoch] at ordered
        omega
      have turned := List.head?_dropWhile_not (fun counter => decide (epoch first ≤ epoch counter))
        counters
      generalize counters.takeWhile (fun counter => decide (epoch first ≤ epoch counter)) =
        earlier at whole aboveEarly ⊢
      generalize counters.dropWhile (fun counter => decide (epoch first ≤ epoch counter)) =
        later at whole turned ⊢
      subst whole
      obtain ⟨nearEarly, nearLate⟩ := near_append.mp near
      obtain ⟨verdicts, followed⟩ := following.run aboveEarly nearEarly
      rw [List.map_append, run_append]
      dsimp only
      rw [verdicts]
      cases later with
      | nil => simp [firstArrivals]
      | cons counter later =>
          have earlierRollover : epoch counter < epoch first := by simpa using turned
          have reached := le_highestAfter first.toNat earlier
          rw [epoch, epoch] at earlierRollover
          obtain ⟨verdict, restarted⟩ := followed.turn (by omega) nearLate.1.2
          have behind : counter.toNat ≤ highestAfter first.toNat earlier := by omega
          have nearLater := nearLate.2
          rw [Nat.max_eq_left behind] at nearLater
          have aboveLater : ∀ other ∈ later,
              2 ^ 16 * (first.toNat / 2 ^ 16) - 2 ^ 16 ≤ other.toNat := by
            intro other member
            have close := @Near.above _ (2 ^ 16 * (first.toNat / 2 ^ 16)) _ nearLater (by omega)
              other member
            omega
          obtain ⟨laterVerdicts, _⟩ := restarted.run aboveLater nearLater
          rw [List.map_cons, run_cons, verdict]
          dsimp only
          rw [laterVerdicts]
          simp [firstArrivals]

/-- If every counter is less than a window away from the highest one before it, then
exactly the first arrivals are accepted if and only if no counter comes back from
before the first arrival of an earlier rollover. -/
theorem accepts_first_arrivals_iff {counters : List U64} (near : NearHighest counters) :
    (run acceptRtp new (counters.map sequenceOf)).2 = firstArrivals [] counters ↔
      (early counters).Disjoint (late counters) := by
  have forget := firstArrivals_forget (early counters) [] (late counters)
  rw [List.append_nil] at forget
  have split := firstArrivals_append [] (early counters) (late counters)
  rw [early_append_late, List.nil_append] at split
  rw [acceptRtp_run near, split, List.append_cancel_left_eq, eq_comm, forget]
  constructor
  · exact fun unseen counter inEarly inLate => absurd (unseen counter inLate inEarly) (by simp)
  · exact fun disjoint counter inLate inEarly => absurd inLate (disjoint inEarly)

/-- Counters around a rollover, the first one from behind it. -/
theorem accepts_around_rollover :
    NearHighest [65537, 65535, 65536, 65535] ∧
      (run acceptRtp new ([65537, 65535, 65536, 65535].map sequenceOf)).2 =
        firstArrivals [] [65537, 65535, 65536, 65535] := by
  have near : NearHighest [65537, 65535, 65536, 65535] := by decide +kernel
  have before : early [65537, 65535, 65536, 65535] = [65537] := by decide +kernel
  have after : late [65537, 65535, 65536, 65535] = [65535, 65536, 65535] := by decide +kernel
  have apart : (early [65537, 65535, 65536, 65535]).Disjoint
      (late [65537, 65535, 65536, 65535]) := by
    rw [before, after]
    simp
  exact ⟨near, (accepts_first_arrivals_iff near).mpr apart⟩

/-- A replay is accepted: the counter that arrived first, from behind the rollover, comes
back after one from before it. -/
theorem replay_accepted :
    NearHighest [65541, 65530, 65541] ∧ (∀ counter ∈ [65541#64, 65530, 65541], 65530 ≤ counter) ∧
      (run acceptRtp new ([65541, 65530, 65541].map sequenceOf)).2 = [true, true, true] ∧
      firstArrivals [] [65541, 65530, 65541] = [true, true, false] := by
  have near : NearHighest [65541, 65530, 65541] := by decide +kernel
  exact ⟨near, by simp, (acceptRtp_run near).trans (by decide +kernel), by decide +kernel⟩

end Csqtt.ReplayWindow
