/-
Module: Csqtt.Proofs.ReassemblerMemory
Purpose: The memory of the reassembler: the shared count and the table are always
  bounded; a flow stays within its limit until it is full of frames that are no
  longer in front of its expected sequence.
Trusted boundary: none
Main exports: Overfills, MemoryBound, memoryBound_iff, flow_limit_exceeded
-/
import Csqtt.Proofs.ReassemblerSound

namespace Csqtt

open Serial Transducer

variable {T : Type*}

namespace FlowState

/-- The flow holds as many frames as it may, none of them in front of its
expected sequence, when an early frame arrives within the shared budget. -/
def Overfills (state : FlowState T) (total : Nat) (sequence : U32) : Prop :=
  state.pending.length = maxPendingPerFlow ∧ ¬ state.HasForward ∧
    Forward state.expected sequence ∧ sequence ∉ state.sequences ∧ total ≠ maxPendingTotal

/-- A flow about to be overfilled meets its arrival unchanged. -/
private theorem Overfills.looked {nowMs total : Nat} {sequence : U32}
    {before middle : FlowState T} {expired : List T}
    (overfills : before.Overfills total sequence)
    (looked : before.releaseExpired nowMs = (middle, expired)) :
    middle.pending.length = maxPendingPerFlow ∧ ¬ middle.HasForward ∧
      Forward middle.expected sequence ∧ sequence ∉ middle.sequences ∧
      settle total before.pending.length middle.pending.length ≠ maxPendingTotal := by
  obtain ⟨full, stuck, front, new, room⟩ := overfills
  obtain ⟨sameExpected, samePending⟩ := (expiry_of_looked looked).unmoved stuck
  refine ⟨by rw [samePending, full], ?_, by rwa [sameExpected], ?_, ?_⟩
  · rwa [HasForward, sameExpected, samePending]
  · rwa [sequences, samePending]
  · simpa [settle, samePending] using room

/-- An arrival takes a flow past its limit exactly when it overfills it. -/
theorem Arrival.length_le_iff {nowMs total total' : Nat} {frame : Pending T}
    {before after : FlowState T} {output : List T}
    (arrival : Arrival nowMs frame before total after total' output)
    (within : before.pending.length ≤ maxPendingPerFlow) :
    after.pending.length ≤ maxPendingPerFlow ↔ ¬ before.Overfills total frame.sequence := by
  cases arrival with
  | delivered looked awaited drains =>
      have shrinks := (expiry_of_looked looked).length_le
      have shorter := drains.moves.length_le
      simp only [List.length_nil, Nat.add_zero] at shorter
      refine iff_of_true (by omega) fun overfills => ?_
      have front := (overfills.looked looked).2.2.1
      rw [awaited] at front
      simpa using front.1
  | rejected looked _ rejects =>
      have shrinks := (expiry_of_looked looked).length_le
      refine iff_of_true (by omega) fun overfills => ?_
      obtain ⟨_, _, front, new, _⟩ := overfills.looked looked
      rw [rejects_eq_false.mpr ⟨front, new⟩] at rejects
      exact Bool.false_ne_true rejects
  | @buffered middle _ _ _ _ looked front new kept =>
      have shrinks := (expiry_of_looked looked).length_le
      cases kept with
      | room flowRoom =>
          refine iff_of_true ?_ fun overfills => flowRoom (overfills.looked looked).1
          have := Nat.lt_of_le_of_ne (shrinks.trans within) flowRoom
          simpa [withFrame] using Nat.succ_le_of_lt this
      | direct empty =>
          refine iff_of_true (by simp [empty]) fun overfills => ?_
          have full := (overfills.looked looked).1
          simp [empty, maxPendingPerFlow] at full
      | forced _ release =>
          have frees := release.frees
          refine iff_of_true ?_ fun overfills => (overfills.looked looked).2.1 release.hasForward
          simp only [withFrame, List.length_append, List.length_singleton]
          omega
      | overfull full totalRoom stuck =>
          refine iff_of_false ?_ (not_not_intro ?_)
          · simp [withFrame, timerCleared, full]
          · -- The timer freed nothing either, for the flow is still full.
            have expiry := expiry_of_looked looked
            have stuckBefore : ¬ before.HasForward := by
              cases expiry with
              | idle => exact stuck
              | cleared => exact stuck
              | released _ release =>
                  have frees := release.frees
                  omega
            obtain ⟨sameExpected, samePending⟩ := expiry.unmoved stuckBefore
            rw [sameExpected] at front
            rw [sequences, samePending] at new
            rw [samePending] at full
            refine ⟨full, stuckBefore, front, new, ?_⟩
            simpa [settle, samePending] using totalRoom
      | bounced spent _ _ release =>
          have frees := release.frees
          simp only [List.length_append, List.length_singleton] at frees
          refine iff_of_true ?_ fun overfills => (overfills.looked looked).2.2.2.2 spent
          simp only
          omega

end FlowState

namespace FlowReassembler

/-- The memory of the reassembler is accounted for and bounded. -/
structure MemoryBound (reassembler : FlowReassembler T) : Prop where
  counted : reassembler.pendingTotal =
    (reassembler.flows.entries.map fun entry => entry.2.pending.length).sum
  perFlow : EveryFlow (fun state => state.pending.length ≤ maxPendingPerFlow) reassembler
  total : reassembler.pendingTotal ≤ maxPendingTotal
  tracked : reassembler.flows.size ≤ maxTrackedFlows

/-- The push overfills the flow of its key. -/
def Overfills (self : FlowReassembler T) (push : Push T) : Prop :=
  ∃ state, self.flows.lookup push.key = some state ∧
    state.Overfills self.pendingTotal push.header.sequence

theorem Sound.memoryBound_iff {self : FlowReassembler T} (sound : self.Sound) :
    self.MemoryBound ↔
      EveryFlow (fun state => state.pending.length ≤ maxPendingPerFlow) self := by
  constructor
  · exact MemoryBound.perFlow
  · intro perFlow
    refine ⟨?_, perFlow, sound.bounded, sound.tracked⟩
    rw [sound.counted, frames, HashTable.gather, List.length_flatMap]

theorem memoryBound_push_iff {self : FlowReassembler T} (sound : self.Sound)
    (memoryBound : self.MemoryBound) (push : Push T) :
    (self.push push).1.MemoryBound ↔ ¬ self.Overfills push := by
  have lifted := @everyFlow_push_iff T (fun _ => True)
    (fun state => state.pending.length ≤ maxPendingPerFlow)
    (fun state total => ¬ state.Overfills total push.header.sequence) self push sound
    (fun _ _ _ => trivial) memoryBound.perFlow trivial (Nat.zero_le _)
    (fun total overfills => absurd overfills.1 (by simp [maxPendingPerFlow]))
    fun _ _ _ _ _ _ _ _ _ within arrival => arrival.length_le_iff within
  rw [(push_sound sound push).memoryBound_iff, lifted]
  simp [Overfills]

/-- Over a whole run the memory stays bounded exactly when no push overfills
its flow. -/
theorem memoryBound_throughout_iff (pushes : List (Push T)) :
    Throughout push new pushes MemoryBound ↔
      AtEveryStep push new pushes fun self push => ¬ self.Overfills push :=
  throughout_iff_atEveryStep push sound_new (sound_new.memoryBound_iff.mpr (everyFlow_new _))
    (fun _ push sound _ => push_sound sound push)
    fun _ push sound memoryBound => memoryBound_push_iff sound memoryBound push

/-- One flow filled with a gap in front of every frame, then offered the numbers
in the gaps: each forced release passes the number that asked for it. -/
def overfillingRun : List (Push Nat) :=
  ((List.range 96).map (10 * · + 10) ++ (List.range 97).map (10 * · + 5)).map fun number =>
    { header := { senderId := 17, flowId := 23, sequence := BitVec.ofNat 32 number }
      value := number
      nowMs := 0 }

/-- The full flow after a number of offers from the gaps. -/
def overfilled (count : Nat) : FlowReassembler Nat where
  flows := AList.insert { senderId := 17, flowId := 23 }
    { expected := BitVec.ofNat 32 (10 * count + 1)
      gapStartedMs := some 0
      pending := ((960 :: (List.range (count - 1)).map (10 * · + 5)) ++
        (List.range (95 - count)).map (10 * (count + 1 + ·)) ++ [10 * count - 5]).map
          fun number => { sequence := BitVec.ofNat 32 number, value := number } } ∅
  pendingTotal := 96

/-- One part of the run after the other. -/
theorem overfilling_part {first : Nat} {self later : FlowReassembler Nat} (count : Nat)
    (before : (run push new (overfillingRun.take first)).1 = self)
    (part : (run push self ((overfillingRun.drop first).take count)).1.flows.entries =
        later.flows.entries ∧
      (run push self ((overfillingRun.drop first).take count)).1.pendingTotal =
        later.pendingTotal) :
    (run push new (overfillingRun.take (first + count))).1 = later := by
  rw [List.take_add, run_append_fst, before]
  exact congrArg₂ FlowReassembler.mk (AList.ext part.1) part.2

theorem flow_limit_exceeded :
    ∃ pushes : List (Push Nat),
      pushes.Pairwise (fun first second => first.nowMs ≤ second.nowMs) ∧
      ¬ (run push new pushes).1.MemoryBound := by
  refine ⟨overfillingRun, ?_, fun memoryBound => ?_⟩
  · exact List.pairwise_map.mpr (List.pairwise_of_forall fun _ _ => Nat.le_refl 0)
  · have at1 := @overfilling_part 0 new (overfilled 1) 97 rfl (by decide +kernel)
    have at17 := @overfilling_part _ _ (overfilled 17) 16 at1 (by decide +kernel)
    have at33 := @overfilling_part _ _ (overfilled 33) 16 at17 (by decide +kernel)
    have at49 := @overfilling_part _ _ (overfilled 49) 16 at33 (by decide +kernel)
    have at65 := @overfilling_part _ _ (overfilled 65) 16 at49 (by decide +kernel)
    have at81 := @overfilling_part _ _ (overfilled 81) 16 at65 (by decide +kernel)
    have at95 := @overfilling_part _ _ (overfilled 95) 14 at81 (by decide +kernel)
    have length : ((run push (overfilled 95) (overfillingRun.drop 191)).1.flowState
        { senderId := 17, flowId := 23 }).pending.length = 97 := by decide +kernel
    have bounded := memoryBound.perFlow.flowState (Nat.zero_le _) { senderId := 17, flowId := 23 }
    rw [← List.take_append_drop 191 overfillingRun, run_append_fst, at95, length] at bounded
    exact absurd bounded (by decide)

end FlowReassembler

end Csqtt
