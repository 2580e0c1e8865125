/-
Module: Csqtt.Proofs.ReassemblerMoves
Purpose: Frames only move: whatever an arrival does, the frames before it and the
  new frame are the frames that leave, in the order of their numbers, and the
  frames that stay. The shared count follows.
Trusted boundary: none
Main exports: Moves, Arrival.moves, Arrival.balanced, Arrival.bounded, Arrival.distinct
-/
import Csqtt.Proofs.ReassemblerArrival

namespace Csqtt

open Serial
open scoped List

namespace FlowState

variable {T : Type*}

/-- Frames that arrived and frames that left between two states of a flow. The
expected sequence walks forward over the numbers that left. -/
structure Moves (before after : FlowState T) (arrived gone : List (Pending T))
    (output : List T) : Prop where
  remaining : before.pending ++ arrived ~ gone ++ after.pending
  values : output = gone.map Pending.value
  walk : Walk before.expected (gone.map Pending.sequence) after.expected

theorem Moves.refl (state : FlowState T) : Moves state state [] [] [] :=
  ⟨by simp, rfl, .nil _⟩

theorem Moves.trans {first second third : FlowState T}
    {arrived arrived' gone gone' : List (Pending T)}
    {output output' : List T} (one : Moves first second arrived gone output)
    (two : Moves second third arrived' gone' output') :
    Moves first third (arrived ++ arrived') (gone ++ gone') (output ++ output') where
  remaining := by
    calc first.pending ++ (arrived ++ arrived')
      _ = first.pending ++ arrived ++ arrived' := (List.append_assoc _ _ _).symm
      _ ~ gone ++ second.pending ++ arrived' := one.remaining.append_right _
      _ = gone ++ (second.pending ++ arrived') := List.append_assoc _ _ _
      _ ~ gone ++ (gone' ++ third.pending) := two.remaining.append_left _
      _ = gone ++ gone' ++ third.pending := (List.append_assoc _ _ _).symm
  values := by rw [one.values, two.values, List.map_append]
  walk := by
    rw [List.map_append]
    exact one.walk.append two.walk

theorem Drains.moves {before after : FlowState T} {gone : List (Pending T)} {output : List T}
    (drains : Drains before after gone output) : Moves before after [] gone output where
  remaining := by
    rw [List.append_nil]
    exact drains.remaining
  values := drains.values
  walk := drains.contiguous.walk

theorem ReleasesLowest.moves {nowMs : Nat} {before after : FlowState T} {lowest : Pending T}
    {gone : List (Pending T)} {output : List T}
    (release : ReleasesLowest nowMs before after lowest gone output) :
    Moves before after [] (lowest :: gone) output where
  remaining := by
    rw [List.append_nil]
    exact release.remaining
  values := release.values
  walk := .cons release.forward.2 release.contiguous.walk

theorem Expiry.moves {nowMs : Nat} {before after : FlowState T} {output : List T}
    (expiry : Expiry nowMs before after output) :
    ∃ gone, Moves before after [] gone output := by
  cases expiry with
  | idle => exact ⟨[], .refl _⟩
  | cleared => exact ⟨[], by simp [timerCleared], rfl, .nil _⟩
  | released _ release => exact ⟨_, release.moves⟩

theorem withFrame_moves (state : FlowState T) (frame : Pending T) (nowMs : Nat) :
    Moves state (state.withFrame frame nowMs) [frame] [] [] :=
  ⟨by simp [withFrame], rfl, .nil _⟩

/-- Handing a frame on directly moves the expected sequence past it. -/
theorem direct_moves {state : FlowState T} {frame : Pending T} (timer : Option Nat)
    (near : ahead state.expected frame.sequence < 2 ^ 31) :
    Moves state { state with expected := frame.sequence + 1, gapStartedMs := timer }
      [frame] [frame] [frame.value] :=
  ⟨List.perm_append_comm, rfl, .cons near (.nil _)⟩

theorem Buffered.moves {nowMs total total' : Nat} {frame : Pending T} {before after : FlowState T}
    {output : List T} (buffered : Buffered nowMs frame before total after total' output)
    (front : Forward before.expected frame.sequence) :
    ∃ gone, Moves before after [frame] gone output := by
  cases buffered with
  | room => exact ⟨[], withFrame_moves before frame nowMs⟩
  | direct => exact ⟨[frame], direct_moves none front.2⟩
  | forced _ release =>
      have moves := release.moves.trans (withFrame_moves _ frame nowMs)
      simp only [List.nil_append, List.append_nil] at moves
      exact ⟨_, moves⟩
  | overfull =>
      have moves := withFrame_moves before.timerCleared frame nowMs
      exact ⟨[], moves.remaining, moves.values, moves.walk⟩
  | bounced _ _ _ release =>
      have moves := release.moves
      have remaining := moves.remaining
      rw [List.append_nil] at remaining
      exact ⟨_, remaining, moves.values, moves.walk⟩

/-- Whether an arriving number is discarded: once the gap timer has been looked
at, it is late or a copy of a pending one. -/
def discards (state : FlowState T) (nowMs : Nat) (sequence : U32) : Bool :=
  let looked := (state.releaseExpired nowMs).1
  sequence != looked.expected &&
    (!decide (Forward looked.expected sequence) || decide (sequence ∈ looked.sequences))

theorem discards_of_looked {before middle : FlowState T} {nowMs : Nat} {expired : List T}
    (looked : before.releaseExpired nowMs = (middle, expired)) (sequence : U32) :
    before.discards nowMs sequence =
      (sequence != middle.expected && middle.rejects sequence) := by
  have same : middle.rejects sequence =
      (!decide (Forward middle.expected sequence) || decide (sequence ∈ middle.sequences)) := by
    rw [Bool.eq_iff_iff, ← not_iff_not, Bool.not_eq_true, rejects_eq_false]
    simp
  simp only [discards, looked, same]

/-- An arrival moves its frame too, unless the frame is discarded. -/
theorem Arrival.moves {nowMs total total' : Nat} {frame : Pending T} {before after : FlowState T}
    {output : List T} (arrival : Arrival nowMs frame before total after total' output) :
    ∃ gone,
      Moves before after (if before.discards nowMs frame.sequence then [] else [frame])
        gone output := by
  cases arrival with
  | @delivered middle _ _ _ _ looked awaited drains =>
      obtain ⟨early, expiryMoves⟩ := (expiry_of_looked looked).moves
      have near : ahead middle.expected frame.sequence < 2 ^ 31 := by
        rw [awaited, ahead_self]
        exact Nat.two_pow_pos 31
      have direct := direct_moves none near
      rw [awaited] at direct
      have whole := (expiryMoves.trans direct).trans drains.moves
      simp only [List.nil_append, List.append_nil, List.append_assoc] at whole
      rw [if_neg (by simp [discards_of_looked looked, awaited])]
      exact ⟨_, whole⟩
  | rejected looked notAwaited rejects =>
      obtain ⟨early, expiryMoves⟩ := (expiry_of_looked looked).moves
      rw [if_pos (by simp [discards_of_looked looked, rejects, notAwaited])]
      exact ⟨early, expiryMoves⟩
  | buffered looked front new kept =>
      obtain ⟨early, expiryMoves⟩ := (expiry_of_looked looked).moves
      obtain ⟨gone, keptMoves⟩ := kept.moves front
      have admitted := rejects_eq_false.mpr ⟨front, new⟩
      rw [if_neg (by simp [discards_of_looked looked, admitted])]
      exact ⟨_, expiryMoves.trans keptMoves⟩

/-- Dropping frames and adding one with a new number keeps the numbers distinct. -/
theorem Moves.distinct {before after : FlowState T} {arrived gone : List (Pending T)}
    {output : List T} (moves : Moves before after arrived gone output)
    (distinct : (before.sequences ++ arrived.map Pending.sequence).Nodup) :
    after.sequences.Nodup := by
  have numbers := moves.remaining.map Pending.sequence
  rw [List.map_append, List.map_append] at numbers
  have whole := numbers.nodup_iff.mp distinct
  exact (List.nodup_append.mp whole).2.1

theorem Moves.length_le {before after : FlowState T} {arrived gone : List (Pending T)}
    {output : List T} (moves : Moves before after arrived gone output) :
    after.pending.length ≤ before.pending.length + arrived.length := by
  have lengths := moves.remaining.length_eq
  rw [List.length_append, List.length_append] at lengths
  omega

theorem Expiry.length_le {nowMs : Nat} {before after : FlowState T} {output : List T}
    (expiry : Expiry nowMs before after output) :
    after.pending.length ≤ before.pending.length := by
  obtain ⟨_, moves⟩ := expiry.moves
  simpa using moves.length_le

theorem Expiry.distinct {nowMs : Nat} {before after : FlowState T} {output : List T}
    (expiry : Expiry nowMs before after output) (distinct : before.sequences.Nodup) :
    after.sequences.Nodup := by
  obtain ⟨_, moves⟩ := expiry.moves
  exact moves.distinct (by simpa using distinct)

/-- The numbers of the pending frames stay distinct. -/
theorem Arrival.distinct {nowMs total total' : Nat} {frame : Pending T}
    {before after : FlowState T} {output : List T}
    (arrival : Arrival nowMs frame before total after total' output)
    (distinct : before.sequences.Nodup) : after.sequences.Nodup := by
  cases arrival with
  | delivered looked _ drains =>
      have middle := (expiry_of_looked looked).distinct distinct
      exact drains.moves.distinct (by simpa [sequences] using middle)
  | rejected looked => exact (expiry_of_looked looked).distinct distinct
  | buffered looked front new kept =>
      have middle := (expiry_of_looked looked).distinct distinct
      obtain ⟨gone, moves⟩ := kept.moves front
      refine moves.distinct (List.nodup_append.mpr ⟨middle, by simp, ?_⟩)
      rintro number member other single rfl
      rw [List.map_singleton, List.mem_singleton] at single
      exact new (single ▸ member)

theorem settle_add {other before after : Nat} (shrinks : after ≤ before) :
    settle (other + before) before after = other + after := by
  simp only [settle]
  omega

/-- The shared count follows the frames of the flow. -/
theorem Arrival.balanced {nowMs other total' : Nat} {frame : Pending T}
    {before after : FlowState T} {output : List T}
    (arrival : Arrival nowMs frame before (other + before.pending.length) after total' output) :
    total' = other + after.pending.length := by
  cases arrival with
  | delivered looked _ drains =>
      have shorter := drains.moves.length_le
      simp only [List.length_nil, Nat.add_zero] at shorter
      rw [settle_add (expiry_of_looked looked).length_le, settle_add shorter]
  | rejected looked => exact settle_add (expiry_of_looked looked).length_le
  | buffered looked _ _ kept =>
      rw [settle_add (expiry_of_looked looked).length_le] at kept
      cases kept with
      | room => simp [withFrame, Nat.add_assoc]
      | direct => rfl
      | forced _ release =>
          rw [settle_add (Nat.le_of_lt release.frees)]
          simp [withFrame, Nat.add_assoc]
      | overfull => simp [withFrame, timerCleared, Nat.add_assoc]
      | bounced _ _ _ release =>
          have shorter := release.frees
          simp only [List.length_append, List.length_singleton] at shorter
          rw [Nat.add_assoc, settle_add (Nat.le_of_lt shorter)]

/-- The shared count stays within the budget. -/
theorem Arrival.bounded {nowMs total total' : Nat} {frame : Pending T}
    {before after : FlowState T} {output : List T}
    (arrival : Arrival nowMs frame before total after total' output)
    (bound : total ≤ maxPendingTotal) : total' ≤ maxPendingTotal := by
  have settled (count length length' : Nat) : settle count length length' ≤ count :=
    Nat.sub_le _ _
  cases arrival with
  | delivered => exact ((settled _ _ _).trans (settled _ _ _)).trans bound
  | rejected => exact (settled _ _ _).trans bound
  | @buffered middle _ _ _ _ _ _ _ kept =>
      have within := (settled total before.pending.length middle.pending.length).trans bound
      cases kept with
      | room _ totalRoom => exact Nat.lt_of_le_of_ne within totalRoom
      | direct => exact within
      | forced _ release =>
          have freed := release.frees
          simp only [settle, maxPendingTotal] at within ⊢
          omega
      | overfull _ totalRoom => exact Nat.lt_of_le_of_ne within totalRoom
      | bounced spent _ _ release =>
          have freed := release.frees
          simp only [List.length_append, List.length_singleton] at freed
          rw [spent]
          simp only [settle]
          omega

theorem Expiry.eq_of_running {nowMs : Nat} {before after : FlowState T} {output : List T}
    (expiry : Expiry nowMs before after output) (running : before.gapExpired nowMs = false) :
    after = before := by
  cases expiry with
  | idle => rfl
  | cleared expired => simp [running] at expired
  | released expired => simp [running] at expired

/-- With no frame in front the gap timer moves nothing. -/
theorem Expiry.unmoved {nowMs : Nat} {before after : FlowState T} {output : List T}
    (expiry : Expiry nowMs before after output) (stuck : ¬ before.HasForward) :
    after.expected = before.expected ∧ after.pending = before.pending := by
  cases expiry with
  | idle => exact ⟨rfl, rfl⟩
  | cleared => exact ⟨rfl, rfl⟩
  | released _ release => exact absurd release.hasForward stuck

/-- Frames that leave and frames that stay have different numbers. -/
theorem stays_apart {before after : FlowState T} {gone : List (Pending T)}
    (remaining : before.pending ~ gone ++ after.pending) (distinct : before.sequences.Nodup)
    {pending : Pending T} (stays : pending ∈ after.pending) :
    pending.sequence ∉ gone.map Pending.sequence := by
  have numbers := (remaining.map Pending.sequence).nodup_iff.mp distinct
  rw [List.map_append] at numbers
  intro left
  exact (List.nodup_append.mp numbers).2.2 _ left _ (List.mem_map_of_mem stays) rfl

theorem gone_short {before after : FlowState T} {gone : List (Pending T)}
    (remaining : before.pending ~ gone ++ after.pending)
    (short : before.pending.length < 2 ^ 32) :
    (gone.map Pending.sequence).length < 2 ^ 32 := by
  have lengths := remaining.length_eq
  rw [List.length_append] at lengths
  rw [List.length_map]
  omega

/-- A forced release stops at the first missing number behind the released one. -/
theorem ReleasesLowest.firstMissing {nowMs : Nat} {before after : FlowState T}
    {lowest : Pending T} {gone : List (Pending T)} {output : List T}
    (release : ReleasesLowest nowMs before after lowest gone output)
    (short : before.pending.length < 2 ^ 32) :
    FirstMissing before.sequences lowest.sequence after.expected := by
  have whole : Contiguous lowest.sequence ((lowest :: gone).map Pending.sequence) after.expected :=
    .cons release.contiguous
  have lengths := gone_short release.remaining short
  have numbers := release.remaining.map Pending.sequence
  rw [List.map_append] at numbers
  refine whole.firstMissing lengths (fun number member => ?_) fun present => ?_
  · exact numbers.mem_iff.mpr (List.mem_append_left _ member)
  · rcases List.mem_append.mp (numbers.mem_iff.mp present) with left | stays
    · exact Nat.lt_irrefl _ ((whole.mem_iff lengths).mp left)
    · exact release.stopped stays

end FlowState

end Csqtt
