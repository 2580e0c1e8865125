/-
Module: Csqtt.Proofs.ReassemblerPending
Purpose: When every buffered frame stays strictly in front of the expected sequence
  of its flow, and the forced release that leaves one behind.
Trusted boundary: none
Main exports: PendingAhead, LeavesGap, pendingAhead_iff, stale_frame_reachable
-/
import Csqtt.Proofs.ReassemblerMemory

namespace Csqtt

open Serial Transducer
open scoped List

variable {T : Type*}

namespace FlowState

/-- Every pending frame lies strictly in front of the expected sequence. -/
def PendingAhead (state : FlowState T) : Prop :=
  ∀ pending ∈ state.pending, Forward state.expected pending.sequence

/-- If the flow or the shared budget is full when an early frame arrives, a
number between a buffered frame and the arriving one is still missing. -/
def LeavesGap (state : FlowState T) (total : Nat) (sequence : U32) (nowMs : Nat) : Prop :=
  state.gapExpired nowMs = false → Forward state.expected sequence →
    sequence ∉ state.sequences →
    (state.pending.length = maxPendingPerFlow ∨
      total = maxPendingTotal ∧ state.pending ≠ []) →
    ∃ missing, missing ∉ state.sequences ∧
      (∃ pending ∈ state.pending,
        ahead state.expected pending.sequence < ahead state.expected missing) ∧
      ahead state.expected missing < ahead state.expected sequence

theorem PendingAhead.hasForward {state : FlowState T} (inFront : state.PendingAhead)
    (nonempty : state.pending ≠ []) : state.HasForward := by
  obtain ⟨pending, member⟩ := List.exists_mem_of_ne_nil _ nonempty
  exact ⟨pending, member, inFront pending member⟩

theorem PendingAhead.empty_of_stuck {state : FlowState T} (inFront : state.PendingAhead)
    (stuck : ¬ state.HasForward) : state.pending = [] :=
  Classical.not_not.mp fun nonempty => stuck (inFront.hasForward nonempty)

theorem Drains.pendingAhead {before after : FlowState T} {gone : List (Pending T)}
    {output : List T} (drains : Drains before after gone output)
    (distinct : before.sequences.Nodup) (short : before.pending.length < 2 ^ 32)
    (near : ∀ pending ∈ before.pending, ahead before.expected pending.sequence < 2 ^ 31) :
    after.PendingAhead := by
  intro pending stays
  have member := drains.remaining.mem_iff.mpr (List.mem_append_right gone stays)
  refine drains.contiguous.forward_of_not_mem (gone_short drains.remaining short)
    (near pending member) (stays_apart drains.remaining distinct stays) ?_
  intro stop
  exact drains.stopped (mem_sequences.mpr ⟨pending, stays, stop⟩)

/-- Frames behind a forced release lie beyond the released frame. -/
theorem ReleasesLowest.beyond {nowMs : Nat} {before after : FlowState T} {lowest : Pending T}
    {gone : List (Pending T)} {output : List T}
    (release : ReleasesLowest nowMs before after lowest gone output)
    (distinct : before.sequences.Nodup) {pending : Pending T} (stays : pending ∈ after.pending)
    (front : Forward before.expected pending.sequence) :
    ahead before.expected lowest.sequence < ahead before.expected pending.sequence := by
  have member := release.remaining.mem_iff.mpr (List.mem_append_right (lowest :: gone) stays)
  have apart := stays_apart release.remaining distinct stays
  have different : lowest.sequence ≠ pending.sequence := by
    intro same
    exact apart (by simp [same])
  refine Nat.lt_of_le_of_ne (release.least pending member front) fun same => ?_
  exact different (ahead_inj.mp same)

theorem ReleasesLowest.pendingAhead {nowMs : Nat} {before after : FlowState T}
    {lowest : Pending T} {gone : List (Pending T)} {output : List T}
    (release : ReleasesLowest nowMs before after lowest gone output)
    (distinct : before.sequences.Nodup) (short : before.pending.length < 2 ^ 32)
    (inFront : before.PendingAhead) : after.PendingAhead := by
  intro pending stays
  have member := release.remaining.mem_iff.mpr (List.mem_append_right (lowest :: gone) stays)
  have front := inFront pending member
  have apart := stays_apart release.remaining distinct stays
  rw [List.map_cons, List.mem_cons, not_or] at apart
  have lengths := gone_short release.remaining short
  rw [List.map_cons, List.length_cons] at lengths
  refine release.contiguous.forward_of_not_mem (by omega)
    (front.near_past (release.beyond distinct stays front)) apart.2 ?_
  intro stop
  exact release.stopped (mem_sequences.mpr ⟨pending, stays, stop⟩)

theorem Expiry.pendingAhead {nowMs : Nat} {before after : FlowState T} {output : List T}
    (expiry : Expiry nowMs before after output) (distinct : before.sequences.Nodup)
    (short : before.pending.length < 2 ^ 32) (inFront : before.PendingAhead) :
    after.PendingAhead := by
  cases expiry with
  | idle => exact inFront
  | cleared => exact inFront
  | released _ release => exact release.pendingAhead distinct short inFront

theorem pendingAhead_withFrame {state : FlowState T} (inFront : state.PendingAhead)
    (frame : Pending T) (nowMs : Nat) :
    (state.withFrame frame nowMs).PendingAhead ↔ Forward state.expected frame.sequence := by
  constructor
  · intro all
    exact all frame (by simp [withFrame])
  · intro front pending member
    rcases List.mem_append.mp member with old | new
    · exact inFront pending old
    · rw [List.mem_singleton] at new
      exact new ▸ front

/-- A forced release passes the released frame and ends at most half a circle
in front of where it began. -/
theorem ReleasesLowest.progress {nowMs : Nat} {before after : FlowState T}
    {lowest : Pending T} {gone : List (Pending T)} {output : List T}
    (release : ReleasesLowest nowMs before after lowest gone output)
    (inFront : before.PendingAhead) :
    ahead before.expected lowest.sequence < ahead before.expected after.expected ∧
      ahead before.expected after.expected ≤ 2 ^ 31 := by
  have whole : Contiguous lowest.sequence ((lowest :: gone).map Pending.sequence) after.expected :=
    .cons release.contiguous
  obtain ⟨number, member, stop⟩ := whole.last (by simp)
  obtain ⟨pending, left, rfl⟩ := List.mem_map.mp member
  have held := release.remaining.mem_iff.mpr (List.mem_append_left _ left)
  have front := inFront pending held
  have least := release.least pending held front
  have below : ahead before.expected pending.sequence < 2 ^ 31 := front.2
  rw [stop, ahead_next (by omega)]
  omega

/-- The forced release stops in front of an arriving number exactly when a
number between them and a buffered one is missing. -/
theorem ReleasesLowest.forward_iff {nowMs : Nat} {before after : FlowState T}
    {lowest : Pending T} {gone : List (Pending T)} {output : List T} {sequence : U32}
    (release : ReleasesLowest nowMs before after lowest gone output)
    (short : before.pending.length < 2 ^ 32) (inFront : before.PendingAhead)
    (front : Forward before.expected sequence) :
    Forward after.expected sequence ↔
      ∃ missing, missing ∉ before.sequences ∧
        (∃ pending ∈ before.pending,
          ahead before.expected pending.sequence < ahead before.expected missing) ∧
        ahead before.expected missing < ahead before.expected sequence := by
  have stop := release.firstMissing short
  have near : ahead before.expected sequence < 2 ^ 31 := front.2
  constructor
  · intro reached
    obtain ⟨passed, bounded⟩ := release.progress inFront
    refine ⟨after.expected, stop.1, ⟨lowest, release.held, passed⟩, ?_⟩
    -- Were the stop beyond the number, the number would lie half a circle behind it.
    by_contra beyond
    have different : sequence ≠ after.expected := by
      rintro rfl
      simpa using reached.1
    have back := ahead_between (Nat.le_of_not_lt beyond)
    have turn := ahead_swap different
    have close : ahead after.expected sequence < 2 ^ 31 := reached.2
    have positive := front.1
    omega
  · rintro ⟨missing, absent, ⟨pending, member, below⟩, before'⟩
    have least := release.least pending member (inFront pending member)
    have first := stop.2 missing absent
    have toMissing := ahead_between (Nat.le_of_lt (Nat.lt_of_le_of_lt least below))
    have toSequence := ahead_between (Nat.le_of_lt (Nat.lt_of_le_of_lt least
      (Nat.lt_trans below before')))
    have toStop : ahead lowest.sequence after.expected ≤ ahead lowest.sequence sequence := by omega
    have distance := ahead_between toStop
    exact ⟨by omega, by
      change ahead after.expected sequence < 2 ^ 31
      omega⟩

/-- An expired gap of frames in front frees a place, so the limits are met only
when the timer was still running. -/
private theorem running_of_full {nowMs total : Nat} {before middle : FlowState T}
    {expired : List T} (expiry : Expiry nowMs before middle expired)
    (within : before.pending.length ≤ maxPendingPerFlow)
    (bound : total ≤ maxPendingTotal) (inFront : before.PendingAhead)
    (full : middle.pending.length = maxPendingPerFlow ∨
      settle total before.pending.length middle.pending.length = maxPendingTotal ∧
        middle.pending ≠ []) :
    before.gapExpired nowMs = false := by
  cases expiry with
  | idle running => exact running
  | cleared _ stuck =>
      have empty := inFront.empty_of_stuck stuck
      rcases full with full | ⟨_, nonempty⟩
      · simp [timerCleared, empty, maxPendingPerFlow] at full
      · exact absurd empty nonempty
  | released _ release =>
      have frees := release.frees
      rcases full with full | ⟨spent, _⟩
      · omega
      · simp only [settle, maxPendingTotal] at spent bound
        omega

/-- A state whose frames are all in front stays so exactly when the arrival
leaves a gap behind a forced release. -/
theorem Arrival.pendingAhead_iff {nowMs total total' : Nat} {frame : Pending T}
    {before after : FlowState T} {output : List T}
    (arrival : Arrival nowMs frame before total after total' output)
    (distinct : before.sequences.Nodup) (within : before.pending.length ≤ maxPendingPerFlow)
    (bound : total ≤ maxPendingTotal) (inFront : before.PendingAhead) :
    after.PendingAhead ↔ before.LeavesGap total frame.sequence nowMs := by
  have short : before.pending.length < 2 ^ 32 :=
    Nat.lt_of_le_of_lt within (by decide)
  cases arrival with
  | @delivered middle _ _ _ _ looked awaited drains =>
      have expiry := expiry_of_looked looked
      have middleAhead := expiry.pendingAhead distinct short inFront
      have near : ∀ pending ∈ middle.pending,
          ahead (middle.expected + 1) pending.sequence < 2 ^ 31 := fun pending member =>
        (middleAhead pending member).near_past (by simpa using (middleAhead pending member).1)
      refine iff_of_true (drains.pendingAhead (expiry.distinct distinct)
        (Nat.lt_of_le_of_lt expiry.length_le short) near) fun running front => ?_
      have same := expiry.eq_of_running running
      rw [awaited, same] at front
      simpa using front.1
  | rejected looked _ rejects =>
      have expiry := expiry_of_looked looked
      refine iff_of_true (expiry.pendingAhead distinct short inFront)
        fun running front new => ?_
      rw [expiry.eq_of_running running, rejects_eq_false.mpr ⟨front, new⟩] at rejects
      exact absurd rejects Bool.false_ne_true
  | @buffered middle _ _ _ _ looked front new kept =>
      have expiry := expiry_of_looked looked
      have middleAhead := expiry.pendingAhead distinct short inFront
      cases kept with
      | room flowRoom totalRoom =>
          refine iff_of_true ((pendingAhead_withFrame middleAhead frame nowMs).mpr front)
            fun running _ _ full => ?_
          rw [expiry.eq_of_running running] at flowRoom totalRoom
          rcases full with full | ⟨spent, _⟩
          · exact absurd full flowRoom
          · simp [settle, spent] at totalRoom
      | direct empty =>
          refine iff_of_true (fun pending member => by simp [empty] at member)
            fun running _ _ full => ?_
          rw [expiry.eq_of_running running] at empty
          rcases full with full | ⟨_, nonempty⟩
          · simp [empty, maxPendingPerFlow] at full
          · exact absurd empty nonempty
      | forced full release =>
          have running := running_of_full expiry within bound inFront full
          have same := expiry.eq_of_running running
          subst same
          have settled : settle total middle.pending.length middle.pending.length = total := by
            simp [settle]
          rw [settled] at full
          have nextAhead := release.pendingAhead distinct short inFront
          rw [pendingAhead_withFrame nextAhead, release.forward_iff short inFront front]
          exact ⟨fun missing _ _ _ _ => missing, fun leaves => leaves running front new full⟩
      | overfull full _ stuck =>
          have empty := middleAhead.empty_of_stuck stuck
          simp [empty, maxPendingPerFlow] at full
      | bounced _ nonempty stuck => exact absurd (middleAhead.empty_of_stuck stuck) nonempty

end FlowState

namespace FlowReassembler

/-- In every flow the pending numbers are distinct and strictly in front of the
expected one. -/
def PendingAhead (self : FlowReassembler T) : Prop :=
  EveryFlow (fun state => state.sequences.Nodup ∧ state.PendingAhead) self

/-- If the push meets a full flow or a spent budget, it leaves a gap behind the
forced release. -/
def LeavesGap (self : FlowReassembler T) (push : Push T) : Prop :=
  ∀ state, self.flows.lookup push.key = some state →
    state.LeavesGap self.pendingTotal push.header.sequence push.nowMs

/-- Frames in front can always be released, so no flow is overfilled. -/
theorem PendingAhead.not_overfills {self : FlowReassembler T} (inFront : self.PendingAhead)
    (push : Push T) : ¬ self.Overfills push := by
  rintro ⟨state, found, full, stuck, _⟩
  have empty := (inFront _ state found).2.empty_of_stuck stuck
  simp [empty, maxPendingPerFlow] at full

theorem pendingAhead_push_iff {self : FlowReassembler T} (sound : self.Sound)
    (memoryBound : self.MemoryBound) (inFront : self.PendingAhead) (push : Push T) :
    (self.push push).1.PendingAhead ↔ self.LeavesGap push := by
  refine @everyFlow_push_iff T (fun state => state.pending.length ≤ maxPendingPerFlow)
    (fun state => state.sequences.Nodup ∧ state.PendingAhead)
    (fun state total => state.LeavesGap total push.header.sequence push.nowMs)
    self push sound memoryBound.perFlow inFront (Nat.zero_le _) ?_ ?_ ?_
  · simp [FlowState.sequences, FlowState.PendingAhead]
  · intro total _ _ _ full
    simp [maxPendingPerFlow] at full
  · intro before total after total' output distinct _ bound within both arrival
    exact (and_iff_right (arrival.distinct distinct)).trans
      (arrival.pendingAhead_iff distinct within bound both.2)

/-- Over a whole run the pending frames stay in front exactly when every forced
release leaves a gap between the released frames and the arriving one. -/
theorem pendingAhead_throughout_iff (pushes : List (Push T)) :
    Throughout push new pushes PendingAhead ↔ AtEveryStep push new pushes LeavesGap := by
  refine @throughout_iff_atEveryStep _ _ _ push (fun self => self.Sound ∧ self.MemoryBound) _ _ _ _
    ⟨sound_new, sound_new.memoryBound_iff.mpr (everyFlow_new _)⟩ (everyFlow_new _) ?_ ?_
  · rintro self push ⟨sound, memoryBound⟩ inFront
    exact ⟨push_sound sound push,
      (memoryBound_push_iff sound memoryBound push).mpr (inFront.not_overfills push)⟩
  · rintro self push ⟨sound, memoryBound⟩ inFront
    exact pendingAhead_push_iff sound memoryBound inFront push

/-- A flow filled from sequence 10 on, then offered sequence 5. -/
def overtakingRun : List (Push Nat) :=
  ((List.range 96).map (· + 10) ++ [5]).map fun number =>
    { header := { senderId := 17, flowId := 23, sequence := BitVec.ofNat 32 number }
      value := number
      nowMs := 0 }

/-- The forced release runs to the end of the buffered frames, and sequence 5
stays behind the expected sequence 106. -/
theorem stale_frame_reachable :
    ∃ pushes : List (Push Nat),
      pushes.Pairwise (fun first second => first.nowMs ≤ second.nowMs) ∧
      ¬ (run push new pushes).1.PendingAhead := by
  refine ⟨overtakingRun, ?_, fun inFront => ?_⟩
  · exact List.pairwise_map.mpr (List.pairwise_of_forall fun _ _ => Nat.le_refl 0)
  · have state : (run push new overtakingRun).1.flowState { senderId := 17, flowId := 23 } =
        { expected := 106, gapStartedMs := some 0, pending := [{ sequence := 5, value := 5 }] } := by
      decide +kernel
    have bounded := (inFront.flowState (by simp [FlowState.sequences, FlowState.PendingAhead])
      { senderId := 17, flowId := 23 }).2
    rw [state] at bounded
    exact absurd (bounded { sequence := 5, value := 5 } (by simp)) (by decide)

end FlowReassembler

end Csqtt
