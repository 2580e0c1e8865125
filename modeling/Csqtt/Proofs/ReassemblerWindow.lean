/-
Module: Csqtt.Proofs.ReassemblerWindow
Purpose: As long as nothing is forced out, the reorder buffer of a flow is the
  resequencer over the set of arrived numbers: it waits for the first missing one,
  holds the ones beyond it, and hands on what closes the gap.
Trusted boundary: none
Main exports: Tracks, Arrival.tracks, arrived, WithinWindow, run_resequences
-/
import Csqtt.Core.Resequencing
import Csqtt.Proofs.ReassemblerOrder
import Mathlib.Algebra.BigOperators.Group.Finset.Basic

namespace Csqtt

open Resequencing Serial Transducer
open scoped List

variable {T : Type*}

namespace FlowState

/-- The state of a flow after the given numbers have arrived, if none was forced out. -/
structure Tracks (arrived : Finset Nat) (state : FlowState T) : Prop where
  expected : state.expected = BitVec.ofNat 32 (firstMissing arrived)
  held : ∀ number, number ∈ state.sequences.map BitVec.toNat ↔ number ∈ beyond arrived

theorem tracks_fresh : Tracks ∅ (fresh : FlowState T) where
  expected := by simp
  held := by simp [sequences]

/-- The flow holds as many frames as numbers arrived beyond the first missing one. -/
theorem Tracks.length_eq {arrived : Finset Nat} {state : FlowState T}
    (tracks : state.Tracks arrived) (distinct : state.sequences.Nodup) :
    state.pending.length = (beyond arrived).card := by
  have different : (state.sequences.map BitVec.toNat).Nodup :=
    distinct.map fun _ _ same => BitVec.eq_of_toNat_eq same
  have same : (state.sequences.map BitVec.toNat).toFinset = beyond arrived := by
    ext number
    rw [List.mem_toFinset, tracks.held]
  rw [← same, List.toFinset_card_of_nodup different, List.length_map, sequences, List.length_map]

/-- Numbers of half the range are told apart by their low 32 bits. -/
private theorem ofNat_inj {first second : Nat} (low : first ≤ 2 ^ 31) (low' : second ≤ 2 ^ 31) :
    BitVec.ofNat 32 first = BitVec.ofNat 32 second ↔ first = second := by
  constructor
  · intro same
    have values := congrArg BitVec.toNat same
    rwa [BitVec.toNat_ofNat, BitVec.toNat_ofNat, Nat.mod_eq_of_lt (by omega),
      Nat.mod_eq_of_lt (by omega)] at values
  · rintro rfl
    rfl

private theorem toNat_ofNat_low {number : Nat} (low : number ≤ 2 ^ 31) :
    (BitVec.ofNat 32 number).toNat = number := by
  rw [BitVec.toNat_ofNat, Nat.mod_eq_of_lt (by omega)]

/-- In front of the first missing number means beyond it. -/
private theorem forward_iff_gt {missing number : Nat} (low : missing ≤ 2 ^ 31)
    (low' : number < 2 ^ 31) :
    Forward (BitVec.ofNat 32 missing) (BitVec.ofNat 32 number) ↔ missing < number := by
  have near := @near_iff_le 32 (BitVec.ofNat 32 missing) (BitVec.ofNat 32 number) (by decide)
    (by rw [toNat_ofNat_low low]; exact low)
    (by rw [toNat_ofNat_low (Nat.le_of_lt low')]; exact low')
  rw [toNat_ofNat_low low, toNat_ofNat_low (Nat.le_of_lt low')] at near
  have apart : 0 < ahead (BitVec.ofNat 32 missing) (BitVec.ofNat 32 number) ↔
      number ≠ missing := by
    rw [Nat.pos_iff_ne_zero, ne_eq, ahead_eq_zero, ofNat_inj (Nat.le_of_lt low') low]
  rw [Forward, apart, near]
  omega

theorem Tracks.mem_sequences {arrived : Finset Nat} {state : FlowState T} {number : Nat}
    (tracks : state.Tracks arrived) (low : number < 2 ^ 31) :
    BitVec.ofNat 32 number ∈ state.sequences ↔ number ∈ beyond arrived := by
  rw [← tracks.held, List.mem_map]
  constructor
  · intro member
    exact ⟨_, member, toNat_ofNat_low (Nat.le_of_lt low)⟩
  · rintro ⟨sequence, member, rfl⟩
    rwa [BitVec.ofNat_toNat, BitVec.setWidth_eq]

/-- The awaited number hands on itself and what follows it, and the gap moves to
the next missing number. -/
private theorem Drains.tracks {arrived : Finset Nat} {before after : FlowState T}
    {gone : List (Pending T)} {output : List T} (tracks : before.Tracks arrived)
    (distinct : before.sequences.Nodup) (low : ∀ number ∈ arrived, number < 2 ^ 31)
    (lowMissing : firstMissing arrived < 2 ^ 31)
    (drains : Drains { before with expected := before.expected + 1, gapStartedMs := none }
      after gone output) :
    after.Tracks (insert (firstMissing arrived) arrived) ∧
      firstMissing arrived :: gone.map (·.sequence.toNat) =
        released arrived (firstMissing arrived) := by
  have remaining : before.pending ~ gone ++ after.pending := drains.remaining
  have numbers : before.sequences.map BitVec.toNat ~
      gone.map (·.sequence.toNat) ++ after.sequences.map BitVec.toNat := by
    have all := remaining.map (·.sequence.toNat)
    simpa only [sequences, List.map_map, List.map_append, Function.comp_def] using all
  have held : ∀ number, number ∈ gone.map (·.sequence.toNat) ∨
      number ∈ after.sequences.map BitVec.toNat ↔ number ∈ beyond arrived := by
    intro number
    rw [← tracks.held, numbers.mem_iff, List.mem_append]
  have start : (before.expected + 1).toNat = firstMissing arrived + 1 := by
    have here : before.expected.toNat = firstMissing arrived := by
      rw [tracks.expected, toNat_ofNat_low (Nat.le_of_lt lowMissing)]
    rw [toNat_succ_of_low (by decide) (by rw [here]; exact lowMissing), here]
  have lowGone : ∀ number ∈ gone.map Pending.sequence, number.toNat < 2 ^ 31 := by
    intro number member
    obtain ⟨frame, left, rfl⟩ := List.mem_map.mp member
    have inside := (held frame.sequence.toNat).mp (.inl (List.mem_map_of_mem left))
    exact low _ (mem_beyond.mp inside).1
  obtain ⟨consumed, stop⟩ := drains.contiguous.toNat_eq (by decide) lowGone
  rw [start, List.map_map, List.length_map] at consumed
  rw [start, List.length_map] at stop
  have mem_gone : ∀ number, number ∈ gone.map (·.sequence.toNat) ↔
      firstMissing arrived + 1 ≤ number ∧ number < firstMissing arrived + 1 + gone.length := by
    intro number
    change number ∈ gone.map (BitVec.toNat ∘ Pending.sequence) ↔ _
    rw [consumed, List.mem_range'_1]
  have notHeld : firstMissing arrived + 1 + gone.length ∉ after.sequences.map BitVec.toNat := by
    rw [List.mem_map]
    rintro ⟨number, member, same⟩
    have stopped := drains.stopped
    rw [BitVec.eq_of_toNat_eq (stop.trans same.symm)] at stopped
    exact stopped member
  have next : firstMissing (insert (firstMissing arrived) arrived) =
      firstMissing arrived + 1 + gone.length := by
    apply firstMissing_insert_self
    · intro number late early
      exact (held number).mp (.inl ((mem_gone number).mpr (by omega)))
    · intro past
      rcases (held _).mpr past with left | stays
      · have := (mem_gone _).mp left
        omega
      · exact notHeld stays
  refine ⟨⟨?_, fun number => ?_⟩, ?_⟩
  · rw [next, ← stop, BitVec.ofNat_toNat, BitVec.setWidth_eq]
  · rw [mem_beyond, next, Finset.mem_insert]
    constructor
    · intro stays
      have inside := mem_beyond.mp ((held number).mp (.inr stays))
      refine ⟨.inr inside.1, ?_⟩
      have notGone : number ∉ gone.map (·.sequence.toNat) := by
        have apart := numbers.nodup_iff.mp (distinct.map fun _ _ same => BitVec.eq_of_toNat_eq same)
        intro left
        exact (List.nodup_append.mp apart).2.2 _ left _ stays rfl
      rw [mem_gone] at notGone
      have different : number ≠ firstMissing arrived + 1 + gone.length := by
        rintro rfl
        exact notHeld stays
      omega
    · rintro ⟨same | member, past⟩
      · omega
      · refine ((held number).mpr (mem_beyond.mpr ⟨member, by omega⟩)).resolve_left fun left => ?_
        have := (mem_gone number).mp left
        omega
  · have count : firstMissing arrived + 1 + gone.length - firstMissing arrived =
        gone.length + 1 := by omega
    rw [released, next, count, List.range'_succ]
    exact congrArg (List.cons _) consumed

/-- A dropped number has arrived before. -/
private theorem rejects_arrived {arrived : Finset Nat} {state : FlowState T} {number : Nat}
    (tracks : state.Tracks arrived) (lowMissing : firstMissing arrived ≤ 2 ^ 31)
    (low : number < 2 ^ 31) (different : number ≠ firstMissing arrived)
    (rejects : state.rejects (BitVec.ofNat 32 number) = true) : number ∈ arrived := by
  by_contra absent
  have past : firstMissing arrived < number :=
    Nat.lt_of_le_of_ne (firstMissing_le absent) different.symm
  have admitted : state.rejects (BitVec.ofNat 32 number) = false := by
    rw [rejects_eq_false, tracks.expected, forward_iff_gt lowMissing low,
      tracks.mem_sequences low, mem_beyond]
    exact ⟨past, fun both => absent both.1⟩
  simp [admitted] at rejects

/-- A number beyond the gap is held once it has arrived. -/
theorem Tracks.withFrame {arrived : Finset Nat} {state : FlowState T} {frame : Pending T}
    {number nowMs : Nat} (tracks : state.Tracks arrived) (front : firstMissing arrived < number)
    (low : number < 2 ^ 31) (carries : frame.sequence = BitVec.ofNat 32 number) :
    (state.withFrame frame nowMs).Tracks (insert number arrived) where
  expected := by
    rw [firstMissing_insert_of_ne (Nat.ne_of_gt front)]
    exact tracks.expected
  held := by
    intro other
    rw [beyond_insert_of_gt front, Finset.mem_insert, ← tracks.held]
    simp only [FlowState.withFrame, sequences, List.map_append, List.mem_append,
      List.map_singleton, List.mem_singleton, carries, toNat_ofNat_low (Nat.le_of_lt low)]
    exact or_comm

/-- An arrival that finds room, and no expired gap, is a step of the resequencer. -/
theorem Arrival.tracks {arrived : Finset Nat} {nowMs total total' number : Nat}
    {frame : Pending T} {before after : FlowState T} {output : List T}
    (arrival : Arrival nowMs frame before total after total' output)
    (tracks : before.Tracks arrived) (distinct : before.sequences.Nodup)
    (low : ∀ other ∈ arrived, other < 2 ^ 31) (lowNumber : number < 2 ^ 31)
    (carries : frame.sequence = BitVec.ofNat 32 number)
    (running : before.gapExpired nowMs = false)
    (room : number ∉ arrived → number ≠ firstMissing arrived →
      before.pending.length ≠ maxPendingPerFlow ∧ total ≠ maxPendingTotal) :
    after.Tracks (insert number arrived) ∧
      (∃ gone, output = gone.map Pending.value ∧
        gone.map (·.sequence.toNat) = released arrived number ∧
        ∀ held ∈ gone ++ after.pending, held ∈ before.pending ∨ held = frame) ∧
      ∀ started, after.gapStartedMs = some started →
        before.gapStartedMs = some started ∧
            firstMissing (insert number arrived) = firstMissing arrived ∨
          started = nowMs ∧ (beyond (insert number arrived)).Nonempty := by
  have lowMissing := firstMissing_le_of_low low
  cases arrival with
  | @delivered middle _ _ _ gone looked awaited drains =>
      have expiry := expiry_of_looked looked
      have same := expiry.eq_of_running running
      subst same
      have isMissing : number = firstMissing arrived := by
        rw [carries, tracks.expected, ofNat_inj (Nat.le_of_lt lowNumber) lowMissing] at awaited
        exact awaited
      subst isMissing
      obtain ⟨nextTracks, numbers⟩ := Drains.tracks tracks distinct low lowNumber drains
      refine ⟨nextTracks, ⟨frame :: gone, ?_, ?_, ?_⟩, fun started timed => ?_⟩
      · have nothing := looked
        simp only [releaseExpired, running, Bool.false_eq_true, if_false, Prod.mk.injEq] at nothing
        rw [← nothing.2, drains.values, List.nil_append, List.map_cons]
      · rw [List.map_cons, carries, toNat_ofNat_low lowMissing, numbers]
      · intro held member
        rcases List.mem_cons.mp member with rfl | member
        · exact .inr rfl
        · exact .inl (drains.remaining.mem_iff.mpr member)
      · simp [drains.timer] at timed
  | rejected looked notAwaited rejects =>
      simp only [releaseExpired, running, Bool.false_eq_true, if_false, Prod.mk.injEq] at looked
      obtain ⟨rfl, rfl⟩ := looked
      have different : number ≠ firstMissing arrived := by
        rintro rfl
        exact notAwaited (carries.trans tracks.expected.symm)
      rw [carries] at rejects
      have old := rejects_arrived tracks lowMissing lowNumber different rejects
      rw [Finset.insert_eq_of_mem old]
      refine ⟨tracks, ⟨[], rfl, (released_of_ne different).symm, ?_⟩, fun started timed => ?_⟩
      · exact fun held member => .inl member
      · exact .inl ⟨timed, rfl⟩
  | buffered looked front new kept =>
      simp only [releaseExpired, running, Bool.false_eq_true, if_false, Prod.mk.injEq] at looked
      obtain ⟨rfl, rfl⟩ := looked
      rw [carries, tracks.expected, forward_iff_gt lowMissing lowNumber] at front
      have absent : number ∉ arrived := by
        intro member
        rw [carries, tracks.mem_sequences lowNumber] at new
        exact new (mem_beyond.mpr ⟨member, front⟩)
      have different := Nat.ne_of_gt front
      obtain ⟨flowRoom, totalRoom⟩ := room absent different
      have settled : settle total before.pending.length before.pending.length = total := by
        simp [settle]
      rw [settled] at kept
      cases kept with
      | room =>
          refine ⟨tracks.withFrame front lowNumber carries,
            ⟨[], rfl, (released_of_ne different).symm, ?_⟩, fun started timed => ?_⟩
          · intro held member
            change held ∈ before.pending ++ [frame] at member
            rcases List.mem_append.mp member with old | last
            · exact .inl old
            · exact .inr (List.mem_singleton.mp last)
          · simp only [FlowState.withFrame, Option.some.injEq] at timed
            cases timer : before.gapStartedMs with
            | none =>
                rw [timer, Option.getD_none] at timed
                refine .inr ⟨timed.symm, number, ?_⟩
                rw [beyond_insert_of_gt front]
                exact Finset.mem_insert_self _ _
            | some early =>
                rw [timer, Option.getD_some] at timed
                exact .inl ⟨congrArg some timed, firstMissing_insert_of_ne different⟩
      | direct _ spent => exact absurd spent totalRoom
      | forced full =>
          rcases full with full | ⟨spent, _⟩
          · exact absurd full flowRoom
          · exact absurd spent totalRoom
      | overfull full => exact absurd full flowRoom
      | bounced spent => exact absurd spent totalRoom

end FlowState

namespace FlowReassembler

/-- The numbers of one flow that a list of pushes has brought. -/
def arrived (key : ReassemblyKey) (pushes : List (Push T)) : Finset Nat :=
  ((pushes.filter fun push => push.key = key).map (·.header.sequence.toNat)).toFinset

theorem arrived_concat_self (pushes : List (Push T)) (push : Push T) :
    arrived push.key (pushes ++ [push]) =
      insert push.header.sequence.toNat (arrived push.key pushes) := by
  simp [arrived, List.filter_append]

theorem arrived_concat_other {key : ReassemblyKey} (pushes : List (Push T)) {push : Push T}
    (different : key ≠ push.key) : arrived key (pushes ++ [push]) = arrived key pushes := by
  simp [arrived, List.filter_append, different.symm]

theorem arrived_low {key : ReassemblyKey} {pushes : List (Push T)}
    (low : ∀ push ∈ pushes, push.header.sequence.toNat < 2 ^ 31) :
    ∀ number ∈ arrived key pushes, number < 2 ^ 31 := by
  intro number member
  obtain ⟨push, inside, rfl⟩ := List.mem_map.mp (List.mem_toFinset.mp member)
  exact low push (List.mem_filter.mp inside).1

/-- A run of pushes in which nothing is forced out: the keys fit into the table,
the numbers do not wrap, the numbers beyond a gap stay within the limits, and every
gap is closed in time. -/
structure WithinWindow (pushes : List (Push T)) : Prop where
  few : (pushes.map Push.key).toFinset.card ≤ maxTrackedFlows
  low : ∀ push ∈ pushes, push.header.sequence.toNat < 2 ^ 31
  perFlow : ∀ before, before <+: pushes → ∀ key,
    (beyond (arrived key before)).card ≤ maxPendingPerFlow
  total : ∀ before, before <+: pushes →
    ∑ key ∈ (pushes.map Push.key).toFinset, (beyond (arrived key before)).card ≤ maxPendingTotal
  prompt : ∀ early opener rest later, early ++ opener :: rest ++ [later] <+: pushes →
    (beyond (arrived later.key (early ++ [opener]))).Nonempty →
    firstMissing (arrived later.key (early ++ opener :: rest)) =
      firstMissing (arrived later.key (early ++ [opener])) →
    later.nowMs < opener.nowMs + gapReleaseAfterMs

/-- What one flow has done after a list of pushes. -/
structure Resequences (pushes : List (Push T)) (reassembler : FlowReassembler (FrameHeader × T))
    (delivered : List (FrameHeader × T)) (key : ReassemblyKey) : Prop where
  tracks : (reassembler.flowState key).Tracks (arrived key pushes)
  numbers : (ofFlow key delivered).map (·.1.sequence.toNat) =
    List.range (firstMissing (arrived key pushes))
  labels : ∀ frame ∈ (reassembler.flowState key).pending,
    frame.value.1.key = key ∧ frame.value.1.sequence = frame.sequence
  /-- A running timer was started when the gap it watches was already open. -/
  timer : ∀ started, (reassembler.flowState key).gapStartedMs = some started →
    ∃ early opener rest, pushes = early ++ opener :: rest ∧ opener.nowMs = started ∧
      (beyond (arrived key (early ++ [opener]))).Nonempty ∧
      firstMissing (arrived key pushes) = firstMissing (arrived key (early ++ [opener]))

/-- Within the window no gap has expired when a frame of its flow arrives. -/
theorem Resequences.running {pushes before : List (Push T)} {push : Push T}
    {self : FlowReassembler (FrameHeader × T)} {delivered : List (FrameHeader × T)}
    (within : WithinWindow pushes) (inside : before ++ [push] <+: pushes)
    (history : Resequences before self delivered push.key) :
    (self.flowState push.key).gapExpired push.nowMs = false := by
  cases timer : (self.flowState push.key).gapStartedMs with
  | none => simp [FlowState.gapExpired, timer]
  | some started =>
      obtain ⟨early, opener, rest, rfl, rfl, opened, still⟩ := history.timer started timer
      have soon := within.prompt early opener rest push inside opened still
      simp only [FlowState.gapExpired, timer, gapReleaseAfterMs] at soon ⊢
      exact decide_eq_false (by omega)

/-- The shared count is the number of numbers beyond their gaps. -/
theorem pendingTotal_eq_beyond {before : List (Push T)}
    {self : FlowReassembler (FrameHeader × T)} {delivered : List (FrameHeader × T)}
    {keys : Finset ReassemblyKey} (sound : self.Sound)
    (history : ∀ key, Resequences before self delivered key)
    (counted : self.pendingTotal = ∑ key ∈ keys, (self.flowState key).pending.length) :
    self.pendingTotal = ∑ key ∈ keys, (beyond (arrived key before)).card := by
  rw [counted]
  exact Finset.sum_congr rfl fun key _ =>
    (history key).tracks.length_eq (sound.flowState_distinct key)

/-- Within the window there is room for every number that has to wait. -/
theorem WithinWindow.room {pushes before : List (Push T)} {push : Push T}
    {self : FlowReassembler (FrameHeader × T)} {delivered : List (FrameHeader × T)}
    (within : WithinWindow pushes) (inside : before ++ [push] <+: pushes) (sound : self.Sound)
    (history : ∀ key, Resequences before self delivered key)
    (counted : self.pendingTotal =
      ∑ key ∈ (pushes.map Push.key).toFinset, (self.flowState key).pending.length)
    (new : push.header.sequence.toNat ∉ arrived push.key before)
    (waits : push.header.sequence.toNat ≠ firstMissing (arrived push.key before)) :
    (self.flowState push.key).pending.length ≠ maxPendingPerFlow ∧
      self.pendingTotal ≠ maxPendingTotal := by
  have past := Nat.lt_of_le_of_ne (firstMissing_le new) waits.symm
  have grown : (beyond (arrived push.key (before ++ [push]))).card =
      (beyond (arrived push.key before)).card + 1 := by
    rw [arrived_concat_self, beyond_insert_of_gt past, Finset.card_insert_of_notMem]
    exact fun member => new (mem_beyond.mp member).1
  have length := (history push.key).tracks.length_eq (sound.flowState_distinct push.key)
  have pushed : push.key ∈ (pushes.map Push.key).toFinset :=
    List.mem_toFinset.mpr (List.mem_map_of_mem (inside.subset (by simp)))
  have total := pendingTotal_eq_beyond sound history counted
  have flowLimit := within.perFlow _ inside push.key
  have totalLimit := within.total _ inside
  have others : ∑ key ∈ (pushes.map Push.key).toFinset.erase push.key,
        (beyond (arrived key (before ++ [push]))).card =
      ∑ key ∈ (pushes.map Push.key).toFinset.erase push.key, (beyond (arrived key before)).card :=
    Finset.sum_congr rfl fun key member => by
      rw [arrived_concat_other before (Finset.ne_of_mem_erase member)]
  rw [← Finset.add_sum_erase _ _ pushed] at totalLimit total
  omega

/-- The timer of a flow as an arrival leaves it was started at an open gap. -/
private theorem timer_extend {before : List (Push T)} {push : Push T} {key : ReassemblyKey}
    {timer : Option Nat}
    (history : ∀ started, timer = some started →
      ∃ early opener rest, before = early ++ opener :: rest ∧ opener.nowMs = started ∧
        (beyond (arrived key (early ++ [opener]))).Nonempty ∧
        firstMissing (arrived key before) = firstMissing (arrived key (early ++ [opener])))
    (still : timer.isSome →
      firstMissing (arrived key (before ++ [push])) = firstMissing (arrived key before)) :
    ∀ started, timer = some started →
      ∃ early opener rest, before ++ [push] = early ++ opener :: rest ∧ opener.nowMs = started ∧
        (beyond (arrived key (early ++ [opener]))).Nonempty ∧
        firstMissing (arrived key (before ++ [push])) =
          firstMissing (arrived key (early ++ [opener])) := by
  intro started timed
  obtain ⟨early, opener, rest, rfl, time, opened, same⟩ := history started timed
  refine ⟨early, opener, rest ++ [push], by simp, time, opened, ?_⟩
  rw [still (by simp [timed]), same]

/-- One push within the window extends what every flow has done. -/
theorem Resequences.extend {pushes before : List (Push T)} {push : Push T}
    {self : FlowReassembler (FrameHeader × T)} {delivered : List (FrameHeader × T)}
    (within : WithinWindow pushes) (inside : before ++ [push] <+: pushes) (sound : self.Sound)
    (fits : self.resets push.key = false)
    (history : ∀ key, Resequences before self delivered key)
    (counted : self.pendingTotal =
      ∑ key ∈ (pushes.map Push.key).toFinset, (self.flowState key).pending.length)
    (key : ReassemblyKey) :
    Resequences (before ++ [push]) (self.push (push.tagged push.header)).1
      (delivered ++ (self.push (push.tagged push.header)).2) key := by
  obtain ⟨arrival, unchanged⟩ := push_arrives sound (push.tagged push.header) fits
  have here := history push.key
  have lowBefore := @arrived_low T push.key before fun other member =>
    within.low other (inside.subset (List.mem_append_left _ member))
  have lowPush := within.low push (inside.subset (by simp))
  obtain ⟨tracks, ⟨gone, values, numbers, sources⟩, timer⟩ := arrival.tracks here.tracks
    (sound.flowState_distinct push.key) lowBefore lowPush
    (by rw [BitVec.ofNat_toNat, BitVec.setWidth_eq]; rfl)
    (Resequences.running within inside here)
    (within.room inside sound history counted)
  have labels : ∀ frame ∈ gone ++
      ((self.push (push.tagged push.header)).1.flowState push.key).pending,
      frame.value.1.key = push.key ∧ frame.value.1.sequence = frame.sequence := by
    intro frame member
    rcases sources frame member with old | rfl
    · exact here.labels frame old
    · exact ⟨rfl, rfl⟩
  have own : ∀ frame ∈ (self.push (push.tagged push.header)).2, frame.1.key = push.key := by
    intro value member
    rw [values] at member
    obtain ⟨frame, left, rfl⟩ := List.mem_map.mp member
    exact (labels frame (List.mem_append_left _ left)).1
  by_cases same : key = push.key
  · subst same
    refine ⟨?_, ?_, fun frame member => labels frame (List.mem_append_right _ member), ?_⟩
    · rw [arrived_concat_self]
      exact tracks
    · have handed : (gone.map Pending.value).map (·.1.sequence.toNat) =
          gone.map (·.sequence.toNat) := by
        rw [List.map_map]
        refine List.map_congr_left fun frame left => ?_
        exact congrArg BitVec.toNat (labels frame (List.mem_append_left _ left)).2
      rw [ofFlow_append, ofFlow_self own, List.map_append, here.numbers, values, handed, numbers,
        handed_on, arrived_concat_self]
    · intro started timed
      rcases timer started timed with ⟨kept, still⟩ | ⟨rfl, opened⟩
      · rw [← arrived_concat_self] at still
        exact timer_extend here.timer (fun _ => still) started kept
      · rw [← arrived_concat_self] at opened
        exact ⟨before, push, [], rfl, rfl, opened, rfl⟩
  · have there := history key
    have quiet := arrived_concat_other before same
    refine ⟨?_, ?_, ?_, ?_⟩
    · rw [quiet, unchanged key same]
      exact there.tracks
    · rw [ofFlow_append, ofFlow_other own same, List.append_nil, quiet]
      exact there.numbers
    · rw [unchanged key same]
      exact there.labels
    · rw [unchanged key same]
      exact timer_extend there.timer fun _ => by rw [quiet]

/-- The shared count stays the sum over the keys in use. -/
theorem pendingTotal_extend {self : FlowReassembler T} {push : Push T}
    {keys : Finset ReassemblyKey} (sound : self.Sound) (fits : self.resets push.key = false)
    (known : push.key ∈ keys)
    (counted : self.pendingTotal = ∑ key ∈ keys, (self.flowState key).pending.length) :
    (self.push push).1.pendingTotal =
      ∑ key ∈ keys, ((self.push push).1.flowState key).pending.length := by
  obtain ⟨arrival, unchanged⟩ := push_arrives sound push fits
  have split := sound.split push.key
  rw [split] at arrival
  have balanced := arrival.balanced
  have others : ∑ key ∈ keys.erase push.key, ((self.push push).1.flowState key).pending.length =
      ∑ key ∈ keys.erase push.key, (self.flowState key).pending.length :=
    Finset.sum_congr rfl fun key member => by rw [unchanged key (Finset.ne_of_mem_erase member)]
  rw [← Finset.add_sum_erase _ _ known] at counted ⊢
  omega

/-- Within the window every flow is resequenced. -/
theorem run_resequences {pushes : List (Push T)} (within : WithinWindow pushes) :
    ∀ before, before <+: pushes →
      (∀ key, Resequences before (run push new (labelled before)).1 (delivered before) key) ∧
      (run push new (labelled before)).1.pendingTotal =
        ∑ key ∈ (pushes.map Push.key).toFinset,
          ((run push new (labelled before)).1.flowState key).pending.length := by
  intro before inside
  induction before using List.reverseRecOn with
  | nil =>
      have empty (key : ReassemblyKey) :
          (new : FlowReassembler (FrameHeader × T)).flowState key = FlowState.fresh := rfl
      refine ⟨fun key => ⟨?_, ?_, ?_, ?_⟩, ?_⟩
      · exact FlowState.tracks_fresh
      · simp [arrived, delivered, labelled, ofFlow]
      · simp [labelled, empty]
      · simp [labelled, empty]
      · have nothing : (run FlowReassembler.push new (labelled ([] : List (Push T)))).1 = new := rfl
        rw [nothing]
        simp only [empty, FlowState.fresh_pending, List.length_nil, Finset.sum_const_zero]
        rfl
  | append_singleton before push inductionHypothesis =>
      obtain ⟨history, counted⟩ := inductionHypothesis ((List.prefix_append _ _).trans inside)
      have sound := run_sound (labelled before)
      have fits : (run FlowReassembler.push new (labelled before)).1.resets push.key = false := by
        refine @resets_eq_false _ (labelled pushes) (labelled before) (push.tagged push.header) ?_ ?_
        · rw [labelled_keys]
          exact within.few
        · have tagged := inside.map fun push => push.tagged push.header
          rwa [List.map_append] at tagged
      have known : push.key ∈ (pushes.map Push.key).toFinset :=
        List.mem_toFinset.mpr (List.mem_map_of_mem (inside.subset (by simp)))
      have whole : labelled (before ++ [push]) = labelled before ++ [push.tagged push.header] := by
        simp [labelled]
      have next : delivered (before ++ [push]) = delivered before ++
          ((run FlowReassembler.push new (labelled before)).1.push
            (push.tagged push.header)).2 := by
        rw [delivered, whole, run_concat, List.flatten_append, List.flatten_singleton, delivered]
      rw [next, whole, run_concat]
      exact ⟨fun key => Resequences.extend within inside sound fits history counted key,
        pendingTotal_extend sound fits known counted⟩

end FlowReassembler

end Csqtt
