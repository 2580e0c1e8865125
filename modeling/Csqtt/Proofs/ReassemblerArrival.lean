/-
Module: Csqtt.Proofs.ReassemblerArrival
Purpose: Everything one arriving frame can do to its flow, as a case list that the
  invariants of the reorder buffer are derived from.
Trusted boundary: none
Main exports: Expiry, Buffered, Arrival, arrive_spec
-/
import Csqtt.Proofs.ReassemblerRelease

namespace Csqtt

open Serial
open scoped List

namespace FlowState

variable {T : Type*}

/-- The state without a gap timer. -/
def timerCleared (state : FlowState T) : FlowState T :=
  { state with gapStartedMs := none }

/-- The state once it has kept a frame, its timer running. -/
def withFrame (state : FlowState T) (frame : Pending T) (nowMs : Nat) : FlowState T :=
  { state with
    pending := state.pending ++ [frame]
    gapStartedMs := some (state.gapStartedMs.getD nowMs) }

/-- The gap timer as the first thing an arrival looks at. -/
inductive Expiry (nowMs : Nat) (before : FlowState T) : FlowState T → List T → Prop where
  | idle (running : before.gapExpired nowMs = false) : Expiry nowMs before before []
  | cleared (expired : before.gapExpired nowMs = true) (stuck : ¬ before.HasForward) :
      Expiry nowMs before before.timerCleared []
  | released {after : FlowState T} {lowest : Pending T} {gone : List (Pending T)}
      {output : List T} (expired : before.gapExpired nowMs = true)
      (release : ReleasesLowest nowMs before after lowest gone output) :
      Expiry nowMs before after output

theorem expiry_spec (state : FlowState T) (nowMs : Nat) :
    Expiry nowMs state (state.releaseExpired nowMs).1 (state.releaseExpired nowMs).2 := by
  by_cases expired : state.gapExpired nowMs = true
  · simp only [releaseExpired, expired, if_true]
    by_cases forward : state.HasForward
    · obtain ⟨lowest, gone, release⟩ := releaseLowest_spec nowMs forward
      exact .released expired release
    · rw [releaseLowest_of_not_hasForward nowMs forward]
      exact .cleared expired forward
  · simp only [releaseExpired, expired, if_false, Bool.false_eq_true]
    exact .idle (by simpa using expired)

theorem ReleasesLowest.not_expired {nowMs : Nat} {before after : FlowState T}
    {lowest : Pending T} {gone : List (Pending T)} {output : List T}
    (release : ReleasesLowest nowMs before after lowest gone output) :
    after.gapExpired nowMs = false := by
  by_cases empty : after.pending = []
  · simp [gapExpired, release.timer, empty]
  · simp [gapExpired, release.timer, empty, gapReleaseAfterMs]

theorem ReleasesLowest.held {nowMs : Nat} {before after : FlowState T}
    {lowest : Pending T} {gone : List (Pending T)} {output : List T}
    (release : ReleasesLowest nowMs before after lowest gone output) :
    lowest ∈ before.pending :=
  release.remaining.mem_iff.mpr (by simp)

theorem ReleasesLowest.hasForward {nowMs : Nat} {before after : FlowState T}
    {lowest : Pending T} {gone : List (Pending T)} {output : List T}
    (release : ReleasesLowest nowMs before after lowest gone output) : before.HasForward :=
  ⟨lowest, release.held, release.forward⟩

/-- A forced release frees at least one place. -/
theorem ReleasesLowest.frees {nowMs : Nat} {before after : FlowState T}
    {lowest : Pending T} {gone : List (Pending T)} {output : List T}
    (release : ReleasesLowest nowMs before after lowest gone output) :
    after.pending.length < before.pending.length := by
  have lengths := release.remaining.length_eq
  rw [List.length_append, List.length_cons] at lengths
  omega

/-- A timer that has just been looked at does not expire at the same moment. -/
theorem Expiry.not_expired {nowMs : Nat} {before after : FlowState T} {output : List T}
    (expiry : Expiry nowMs before after output) : after.gapExpired nowMs = false := by
  cases expiry with
  | idle running => exact running
  | cleared => rfl
  | released _ release => exact release.not_expired

/-- What an early frame that is not yet pending does, once the timer has been
looked at. -/
inductive Buffered (nowMs : Nat) (frame : Pending T) (before : FlowState T) (total : Nat) :
    FlowState T → Nat → List T → Prop where
  /-- There is room in the flow and in the shared budget. -/
  | room (flowRoom : before.pending.length ≠ maxPendingPerFlow)
      (totalRoom : total ≠ maxPendingTotal) :
      Buffered nowMs frame before total (before.withFrame frame nowMs) (total + 1) []
  /-- The budget is spent by other flows: the frame is delivered at once. -/
  | direct (empty : before.pending = []) (spent : total = maxPendingTotal) :
      Buffered nowMs frame before total
        { before with expected := frame.sequence + 1, gapStartedMs := none } total [frame.value]
  /-- A forced release makes room first. -/
  | forced {middle : FlowState T} {lowest : Pending T} {gone : List (Pending T)}
      {output : List T}
      (full : before.pending.length = maxPendingPerFlow ∨
        total = maxPendingTotal ∧ before.pending ≠ [])
      (release : ReleasesLowest nowMs before middle lowest gone output) :
      Buffered nowMs frame before total (middle.withFrame frame nowMs)
        (settle total before.pending.length middle.pending.length + 1) output
  /-- The flow is full of frames that are no longer in front: nothing is freed. -/
  | overfull (full : before.pending.length = maxPendingPerFlow)
      (totalRoom : total ≠ maxPendingTotal) (stuck : ¬ before.HasForward) :
      Buffered nowMs frame before total (before.timerCleared.withFrame frame nowMs) (total + 1) []
  /-- Nothing is freed and the budget is spent: the frame itself is released. -/
  | bounced {after : FlowState T} {gone : List (Pending T)} {output : List T}
      (spent : total = maxPendingTotal) (nonempty : before.pending ≠ [])
      (stuck : ¬ before.HasForward)
      (release : ReleasesLowest nowMs
        { before.timerCleared with pending := before.pending ++ [frame] } after frame gone output) :
      Buffered nowMs frame before total { after with gapStartedMs := some nowMs }
        (settle (total + 1) (before.pending.length + 1) after.pending.length) output

theorem startTimer_eq (state : FlowState T) (nowMs : Nat) :
    state.startTimer nowMs = { state with gapStartedMs := some (state.gapStartedMs.getD nowMs) } := by
  rcases state with ⟨expected, _ | started, pending⟩ <;> rfl

/-- A timer started now, or one that has not expired, does not expire now. -/
theorem gapExpired_startTimer {state : FlowState T} {nowMs : Nat}
    (running : state.gapExpired nowMs = false) :
    (state.startTimer nowMs).gapExpired nowMs = false := by
  cases timer : state.gapStartedMs with
  | none => simp [startTimer, timer, gapExpired, gapReleaseAfterMs]
  | some started => simpa [startTimer, timer] using running

theorem accounted_releaseExpired_idle {state : FlowState T} {nowMs : Nat} (total : Nat)
    (running : state.gapExpired nowMs = false) :
    accounted (releaseExpired · nowMs) state total = (state, total, []) := by
  simp [accounted, releaseExpired, running, settle]

private theorem gapExpired_pending {state : FlowState T} {nowMs : Nat}
    (pending : List (Pending T)) :
    gapExpired { state with pending := pending } nowMs = state.gapExpired nowMs := rfl

/-- Within the budget `keep` just keeps the frame. -/
theorem keep_of_room {state : FlowState T} {total nowMs : Nat} {frame : Pending T}
    (running : state.gapExpired nowMs = false) (room : total < maxPendingTotal) :
    keep state total frame.sequence frame.value nowMs =
      (state.withFrame frame nowMs, total + 1, []) := by
  have within : ¬ maxPendingTotal < total + 1 := by omega
  have timed := gapExpired_startTimer
    ((gapExpired_pending (state.pending ++ [frame])).trans running)
  simp only [keep, within, if_false, accounted_releaseExpired_idle _ timed, List.append_nil]
  rw [startTimer_eq]
  rfl

theorem accounted_releaseLowest_stuck {state : FlowState T} (nowMs total : Nat)
    (stuck : ¬ state.HasForward) :
    accounted (releaseLowest · nowMs) state total = (state.timerCleared, total, []) := by
  simp [accounted, releaseLowest_of_not_hasForward nowMs stuck, settle, timerCleared]

/-- A forced release and its effect on the shared count, with the results named. -/
theorem accounted_releaseLowest_forced {state : FlowState T} (nowMs total : Nat)
    (forward : state.HasForward) :
    ∃ after lowest gone output,
      ReleasesLowest nowMs state after lowest gone output ∧
      accounted (releaseLowest · nowMs) state total =
        (after, settle total state.pending.length after.pending.length, output) := by
  obtain ⟨lowest, gone, release⟩ := releaseLowest_spec nowMs forward
  exact ⟨_, lowest, gone, _, release, rfl⟩

/-- Over the budget, behind frames that are not in front, `keep` hands the new
frame on at once. -/
theorem keep_of_spent {state : FlowState T} {nowMs : Nat} {frame : Pending T}
    (stuck : ¬ state.HasForward) (front : Forward state.expected frame.sequence) :
    ∃ after gone output,
      ReleasesLowest nowMs { state with pending := state.pending ++ [frame] } after frame gone
        output ∧
      keep state maxPendingTotal frame.sequence frame.value nowMs =
        ({ after with gapStartedMs := some nowMs },
          settle (maxPendingTotal + 1) (state.pending.length + 1) after.pending.length, output) := by
  have forward : HasForward { state with pending := state.pending ++ [frame] } :=
    ⟨frame, by simp, front⟩
  obtain ⟨after, lowest, gone, output, release, computed⟩ :=
    accounted_releaseLowest_forced nowMs (maxPendingTotal + 1) forward
  -- No other frame is in front, so the released one is the frame itself.
  have itself : lowest = frame := by
    have member : lowest ∈ state.pending ++ [frame] :=
      release.remaining.mem_iff.mpr (by simp)
    rcases List.mem_append.mp member with old | new
    · exact absurd ⟨lowest, old, release.forward⟩ stuck
    · simpa using new
  subst itself
  refine ⟨after, gone, output, release, ?_⟩
  have timed := gapExpired_startTimer release.not_expired
  have restarted : after.gapStartedMs.getD nowMs = nowMs := by
    rw [release.timer]
    split <;> rfl
  rw [startTimer_eq, restarted] at timed
  rw [keep, if_pos (Nat.lt_succ_self _), computed]
  simp only [startTimer_eq, restarted, accounted_releaseExpired_idle _ timed, List.append_nil,
    List.length_append, List.length_singleton]

/-- A spent budget and nothing to free: the frame bounces, whether or not the
flow is full as well. -/
private theorem buffer_of_stuck {state : FlowState T} {nowMs : Nat} {frame : Pending T}
    (nonempty : state.pending ≠ []) (stuck : ¬ state.HasForward) :
    buffer state maxPendingTotal frame.sequence frame.value nowMs =
      keep state.timerCleared maxPendingTotal frame.sequence frame.value nowMs := by
  have occupied : state.pending.isEmpty = false := by simpa using nonempty
  have again : accounted (releaseLowest · nowMs) state.timerCleared maxPendingTotal =
      (state.timerCleared, maxPendingTotal, []) :=
    @accounted_releaseLowest_stuck T state.timerCleared nowMs maxPendingTotal stuck
  have occupiedCleared : state.timerCleared.pending.isEmpty = false := occupied
  by_cases flowFull : state.pending.length = maxPendingPerFlow
  · simp only [buffer, if_pos flowFull, accounted_releaseLowest_stuck nowMs _ stuck, if_true,
      occupiedCleared, Bool.false_eq_true, if_false, again, List.nil_append]
  · simp only [buffer, if_neg flowFull, accounted_releaseLowest_stuck nowMs _ stuck, if_true,
      occupied, Bool.false_eq_true, if_false, List.nil_append]

/-- A forced release frees a place, whichever limit asked for it. -/
private theorem buffer_of_forced {state : FlowState T} {total nowMs : Nat} {frame : Pending T}
    (bound : total ≤ maxPendingTotal) (forward : state.HasForward)
    (full : state.pending.length = maxPendingPerFlow ∨
      total = maxPendingTotal ∧ state.pending ≠ []) :
    ∃ after lowest gone output,
      ReleasesLowest nowMs state after lowest gone output ∧
      buffer state total frame.sequence frame.value nowMs =
        (after.withFrame frame nowMs,
          settle total state.pending.length after.pending.length + 1, output) := by
  obtain ⟨after, lowest, gone, output, release, computed⟩ :=
    accounted_releaseLowest_forced nowMs total forward
  refine ⟨after, lowest, gone, output, release, ?_⟩
  have freed := release.frees
  have room : settle total state.pending.length after.pending.length < maxPendingTotal := by
    simp only [settle, maxPendingTotal] at bound ⊢
    omega
  have kept := @keep_of_room T after _ nowMs frame release.not_expired room
  by_cases flowFull : state.pending.length = maxPendingPerFlow
  · simp only [buffer, if_pos flowFull, computed, if_neg (Nat.ne_of_lt room), kept,
      List.append_nil]
  · obtain ⟨spent, nonempty⟩ := full.resolve_left flowFull
    have occupied : state.pending.isEmpty = false := by simpa using nonempty
    simp only [buffer, if_neg flowFull, if_pos spent, occupied, Bool.false_eq_true, if_false,
      computed, kept, List.nil_append, List.append_nil]

theorem buffer_spec {state : FlowState T} {total nowMs : Nat} {frame : Pending T}
    (running : state.gapExpired nowMs = false) (bound : total ≤ maxPendingTotal)
    (front : Forward state.expected frame.sequence) :
    Buffered nowMs frame state total
      (buffer state total frame.sequence frame.value nowMs).1
      (buffer state total frame.sequence frame.value nowMs).2.1
      (buffer state total frame.sequence frame.value nowMs).2.2 := by
  by_cases full : state.pending.length = maxPendingPerFlow ∨
      total = maxPendingTotal ∧ state.pending ≠ []
  · have nonempty : state.pending ≠ [] := by
      rcases full with flowFull | ⟨_, nonempty⟩
      · exact List.ne_nil_of_length_pos (by simp [flowFull, maxPendingPerFlow])
      · exact nonempty
    by_cases forward : state.HasForward
    · obtain ⟨after, lowest, gone, output, release, result⟩ :=
        @buffer_of_forced T state total nowMs frame bound forward full
      rw [result]
      exact .forced full release
    · by_cases spent : total = maxPendingTotal
      · obtain ⟨after, gone, output, release, kept⟩ :=
          @keep_of_spent T state.timerCleared nowMs frame forward front
        subst spent
        rw [buffer_of_stuck nonempty forward, kept]
        exact .bounced rfl nonempty forward release
      · have flowFull : state.pending.length = maxPendingPerFlow :=
          full.resolve_right fun both => spent both.1
        have room : total < maxPendingTotal := Nat.lt_of_le_of_ne bound spent
        have kept := @keep_of_room T state.timerCleared _ nowMs frame rfl room
        have result : buffer state total frame.sequence frame.value nowMs =
            (state.timerCleared.withFrame frame nowMs, total + 1, []) := by
          simp only [buffer, if_pos flowFull, accounted_releaseLowest_stuck nowMs _ forward,
            if_neg spent, kept, List.append_nil]
        rw [result]
        exact .overfull flowFull spent forward
  · rw [not_or, not_and_not_right] at full
    obtain ⟨flowRoom, emptied⟩ := full
    by_cases spent : total = maxPendingTotal
    · have empty : state.pending.isEmpty = true := by simp [emptied spent]
      have result : buffer state total frame.sequence frame.value nowMs =
          ({ state with expected := frame.sequence + 1, gapStartedMs := none }, total,
            [frame.value]) := by
        simp only [buffer, if_neg flowRoom, if_pos spent, empty, if_true, List.nil_append]
      rw [result]
      exact .direct (emptied spent) spent
    · have room : total < maxPendingTotal := Nat.lt_of_le_of_ne bound spent
      have result : buffer state total frame.sequence frame.value nowMs =
          (state.withFrame frame nowMs, total + 1, []) := by
        simp only [buffer, if_neg flowRoom, if_neg spent, keep_of_room running room,
          List.append_nil]
      rw [result]
      exact .room flowRoom spent

/-- Everything one arriving frame can do. The frame meets the state the gap
timer has left behind. -/
inductive Arrival (nowMs : Nat) (frame : Pending T) (before : FlowState T) (total : Nat) :
    FlowState T → Nat → List T → Prop where
  /-- The awaited frame is delivered, and what follows it without a gap. -/
  | delivered {middle after : FlowState T} {expired drained : List T} {gone : List (Pending T)}
      (looked : before.releaseExpired nowMs = (middle, expired))
      (awaited : frame.sequence = middle.expected)
      (drains : Drains { middle with expected := middle.expected + 1, gapStartedMs := none }
        after gone drained) :
      Arrival nowMs frame before total after
        (settle (settle total before.pending.length middle.pending.length)
          middle.pending.length after.pending.length)
        (expired ++ frame.value :: drained)
  /-- A late or repeated frame is dropped. -/
  | rejected {after : FlowState T} {expired : List T}
      (looked : before.releaseExpired nowMs = (after, expired))
      (notAwaited : frame.sequence ≠ after.expected)
      (rejects : after.rejects frame.sequence = true) :
      Arrival nowMs frame before total after
        (settle total before.pending.length after.pending.length) expired
  /-- An early frame is buffered. -/
  | buffered {middle after : FlowState T} {total' : Nat} {expired output : List T}
      (looked : before.releaseExpired nowMs = (middle, expired))
      (front : Forward middle.expected frame.sequence)
      (new : frame.sequence ∉ middle.sequences)
      (kept : Buffered nowMs frame middle
        (settle total before.pending.length middle.pending.length) after total' output) :
      Arrival nowMs frame before total after total' (expired ++ output)

theorem expiry_of_looked {before middle : FlowState T} {nowMs : Nat} {expired : List T}
    (looked : before.releaseExpired nowMs = (middle, expired)) :
    Expiry nowMs before middle expired := by
  have spec := expiry_spec before nowMs
  rwa [looked] at spec

theorem rejects_eq_false {state : FlowState T} {sequence : U32} :
    state.rejects sequence = false ↔
      Forward state.expected sequence ∧ sequence ∉ state.sequences := by
  simp [rejects, isForward_iff, mem_sequences]

theorem arrive_spec {state : FlowState T} {total nowMs : Nat} {frame : Pending T}
    (bound : total ≤ maxPendingTotal) :
    Arrival nowMs frame state total
      (arrive state total frame.sequence frame.value nowMs).1
      (arrive state total frame.sequence frame.value nowMs).2.1
      (arrive state total frame.sequence frame.value nowMs).2.2 := by
  by_cases awaited : frame.sequence = (state.releaseExpired nowMs).1.expected
  · obtain ⟨gone, drains⟩ := drainContiguous_spec
      { (state.releaseExpired nowMs).1 with
        expected := (state.releaseExpired nowMs).1.expected + 1
        gapStartedMs := none }
    have arrival : Arrival nowMs frame state total _ _ _ := .delivered rfl awaited drains
    rw [arrive, if_pos (by exact awaited)]
    exact arrival
  · cases rejected : (state.releaseExpired nowMs).1.rejects frame.sequence with
    | true =>
        have arrival : Arrival nowMs frame state total _ _ _ := .rejected rfl awaited rejected
        rw [arrive, if_neg (by exact awaited), if_pos (by exact rejected)]
        exact arrival
    | false =>
        obtain ⟨front, new⟩ := rejects_eq_false.mp rejected
        have settled : settle total state.pending.length
            (state.releaseExpired nowMs).1.pending.length ≤ maxPendingTotal :=
          Nat.le_trans (Nat.sub_le _ _) bound
        have running := (expiry_spec state nowMs).not_expired
        have kept := @buffer_spec T _ _ nowMs frame running settled front
        have arrival : Arrival nowMs frame state total _ _ _ := .buffered rfl front new kept
        have admitted : ¬ (state.releaseExpired nowMs).1.rejects frame.sequence = true := by
          simp [rejected]
        rw [arrive, if_neg (by exact awaited), if_neg (by exact admitted)]
        exact arrival

end FlowState

end Csqtt
