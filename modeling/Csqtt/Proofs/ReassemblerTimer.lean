/-
Module: Csqtt.Proofs.ReassemblerTimer
Purpose: When the gap timer of every flow runs exactly while frames are buffered,
  and the in-order frame that stops it in front of a second gap.
Trusted boundary: none
Main exports: TimerRuns, KeepsTimer, timerRuns_throughout_iff, second_gap_without_timer
-/
import Csqtt.Proofs.ReassemblerSound

namespace Csqtt

open Serial Transducer
open scoped List

variable {T : Type*}

namespace FlowState

/-- The gap timer is set exactly when frames are buffered. -/
def TimerRuns (state : FlowState T) : Prop :=
  state.gapStartedMs.isSome = true ↔ state.pending ≠ []

/-- The number an arrival is compared with, and where the release of an expired
gap begins: with a frame in front, at the closest one, to end at the first number
missing behind it; otherwise nothing is released. -/
inductive Resumes (state : FlowState T) (nowMs : Nat) : U32 → U32 → Prop where
  | waiting (still : state.gapExpired nowMs = false ∨ ¬ state.HasForward) :
      Resumes state nowMs state.expected state.expected
  | expired {lowest : Pending T} {awaited : U32} (expired : state.gapExpired nowMs = true)
      (held : lowest ∈ state.pending) (forward : Forward state.expected lowest.sequence)
      (least : ∀ pending ∈ state.pending, Forward state.expected pending.sequence →
        ahead state.expected lowest.sequence ≤ ahead state.expected pending.sequence)
      (missing : FirstMissing state.sequences lowest.sequence awaited) :
      Resumes state nowMs lowest.sequence awaited

/-- Every number between the given one and the frame is pending. -/
def Follows (state : FlowState T) (number : U32) (pending : Pending T) : Prop :=
  ∀ other, ahead (number + 1) other < ahead (number + 1) pending.sequence →
    other ∈ state.sequences

/-- The condition on an arrival under which the timer keeps running exactly while
frames are buffered. -/
structure KeepsTimer (state : FlowState T) (total : Nat) (sequence : U32) (nowMs : Nat) :
    Prop where
  /-- The awaited number leaves no buffered frame behind a second gap. -/
  awaited : ∀ start, Resumes state nowMs start sequence → ∀ pending ∈ state.pending,
    ahead start pending.sequence < ahead start sequence ∨ Follows state sequence pending
  /-- A late or repeated number does not meet an expired gap without a frame in front. -/
  late : state.gapExpired nowMs = true → ¬ state.HasForward →
    sequence = state.expected ∨ Forward state.expected sequence ∧ sequence ∉ state.sequences
  /-- A number bounced off the spent budget does not take all buffered frames along. -/
  bounced : total = maxPendingTotal → state.pending ≠ [] → ¬ state.HasForward →
    Forward state.expected sequence → sequence ∉ state.sequences →
    ∃ pending ∈ state.pending, ¬ Follows state sequence pending

theorem Resumes.still {state : FlowState T} {nowMs : Nat} {start awaited : U32}
    (resumes : Resumes state nowMs start awaited)
    (still : state.gapExpired nowMs = false ∨ ¬ state.HasForward) :
    start = state.expected ∧ awaited = state.expected := by
  cases resumes with
  | waiting => exact ⟨rfl, rfl⟩
  | expired expired held forward =>
      rcases still with running | stuck
      · simp [running] at expired
      · exact absurd ⟨_, held, forward⟩ stuck

theorem Resumes.released {before middle : FlowState T} {nowMs : Nat} {start awaited : U32}
    {lowest : Pending T} {gone : List (Pending T)} {output : List T}
    (resumes : Resumes before nowMs start awaited) (expired : before.gapExpired nowMs = true)
    (release : ReleasesLowest nowMs before middle lowest gone output)
    (short : before.pending.length < 2 ^ 32) :
    start = lowest.sequence ∧ awaited = middle.expected := by
  cases resumes with
  | waiting still =>
      rcases still with running | stuck
      · simp [running] at expired
      · exact absurd release.hasForward stuck
  | @expired other _ _ held forward least missing =>
      have same : other.sequence = lowest.sequence :=
        ahead_inj.mp (Nat.le_antisymm (least lowest release.held release.forward)
          (release.least other held forward))
      rw [same] at missing ⊢
      exact ⟨rfl, missing.unique (release.firstMissing short)⟩

/-- The release of an expired gap ends at the number the arrival is compared with. -/
theorem Resumes.awaited_eq {before middle : FlowState T} {nowMs : Nat} {start awaited : U32}
    {expired : List T} (resumes : Resumes before nowMs start awaited)
    (looked : before.releaseExpired nowMs = (middle, expired))
    (short : before.pending.length < 2 ^ 32) : awaited = middle.expected := by
  have expiry := expiry_of_looked looked
  cases expiry with
  | idle running => exact (resumes.still (.inl running)).2
  | cleared _ stuck => exact (resumes.still (.inr stuck)).2
  | released expired release => exact (resumes.released expired release short).2

/-- A drain takes all frames exactly when each follows the start without a gap. -/
private theorem exhausts_pending {start : U32} {held gone : List (Pending T)}
    {after : FlowState T} (remaining : held ~ gone ++ after.pending)
    (contiguous : Contiguous start (gone.map Pending.sequence) after.expected)
    (stopped : after.expected ∉ after.sequences)
    (distinct : (held.map Pending.sequence).Nodup) (short : held.length < 2 ^ 32) :
    after.pending = [] ↔ ∀ pending ∈ held, ∀ other,
      ahead start other < ahead start pending.sequence → other ∈ held.map Pending.sequence := by
  have numbers := remaining.map Pending.sequence
  rw [List.map_append] at numbers
  have lengths := remaining.length_eq
  rw [List.length_append] at lengths
  have apart : ∀ number ∈ after.sequences, number ∉ gone.map Pending.sequence :=
    fun number stays left =>
      (List.nodup_append.mp (numbers.nodup_iff.mp distinct)).2.2 _ left _ stays rfl
  have exhausts := contiguous.exhausts_iff (by rw [List.length_map]; omega) apart stopped
  rw [← List.map_eq_nil_iff (f := Pending.sequence), ← sequences, exhausts]
  simp only [sequences, ← numbers.mem_iff, List.forall_mem_map]

/-- The awaited frame takes all buffered frames along exactly when each leaves
with the expired gap or follows the awaited number. -/
theorem delivered_empties_iff {before middle after : FlowState T} {nowMs : Nat}
    {expired drained : List T} {gone : List (Pending T)}
    (looked : before.releaseExpired nowMs = (middle, expired))
    (distinct : before.sequences.Nodup) (short : before.pending.length < 2 ^ 32)
    (drains : Drains { middle with expected := middle.expected + 1, gapStartedMs := none }
      after gone drained) :
    after.pending = [] ↔ ∀ start, Resumes before nowMs start middle.expected →
      ∀ pending ∈ before.pending,
        ahead start pending.sequence < ahead start middle.expected ∨
          Follows before middle.expected pending := by
  have expiry := expiry_of_looked looked
  have middleDistinct := expiry.distinct distinct
  have middleShort := Nat.lt_of_le_of_lt expiry.length_le short
  have emptied : after.pending = [] ↔
      ∀ pending ∈ middle.pending, Follows middle middle.expected pending :=
    exhausts_pending drains.remaining drains.contiguous drains.stopped middleDistinct middleShort
  rw [emptied]
  have unmoved (still : before.gapExpired nowMs = false ∨ ¬ before.HasForward)
      (sameExpected : middle.expected = before.expected)
      (samePending : middle.pending = before.pending) :
      (∀ pending ∈ middle.pending, Follows middle middle.expected pending) ↔
        ∀ start, Resumes before nowMs start middle.expected → ∀ pending ∈ before.pending,
          ahead start pending.sequence < ahead start middle.expected ∨
            Follows before middle.expected pending := by
    simp only [Follows, sequences, sameExpected, samePending]
    constructor
    · intro follows start _ pending member
      exact .inr (follows pending member)
    · intro holds pending member
      exact (holds _ (.waiting still) pending member).resolve_left (by simp)
  cases expiry with
  | idle running => exact unmoved (.inl running) rfl rfl
  | cleared _ stuck => exact unmoved (.inr stuck) rfl rfl
  | @released _ lowest left _ isExpired release =>
      have stop := release.firstMissing short
      have whole : Contiguous lowest.sequence ((lowest :: left).map Pending.sequence)
          middle.expected := .cons release.contiguous
      have lengths := gone_short release.remaining short
      have numbers := release.remaining.map Pending.sequence
      rw [List.map_append] at numbers
      constructor
      · intro follows start resumes pending member
        rw [(resumes.released isExpired release short).1]
        rcases List.mem_append.mp (release.remaining.mem_iff.mp member) with early | stays
        · exact .inl ((whole.mem_iff lengths).mp (List.mem_map_of_mem early))
        · refine .inr fun other before' => ?_
          exact numbers.mem_iff.mpr (List.mem_append_right _ (follows pending stays other before'))
      · intro holds pending stays other before'
        have resumes : Resumes before nowMs lowest.sequence middle.expected :=
          .expired isExpired release.held release.forward release.least stop
        have member := release.remaining.mem_iff.mpr (List.mem_append_right _ stays)
        have notEarly := stays_apart release.remaining distinct stays
        rw [whole.mem_iff lengths] at notEarly
        have held := (holds _ resumes pending member).resolve_left notEarly other before'
        refine (List.mem_append.mp (numbers.mem_iff.mp held)).resolve_left fun early => ?_
        -- A number released with the gap is met later than any frame that stayed.
        rw [whole.mem_iff lengths] at early
        have different : pending.sequence ≠ middle.expected := fun same =>
          release.stopped (mem_sequences.mpr ⟨pending, stays, same⟩)
        have otherDifferent : other ≠ middle.expected := by
          rintro rfl
          exact Nat.lt_irrefl _ early
        have strictly := Nat.lt_of_le_of_ne (Nat.le_of_not_lt notEarly)
          fun same => different (ahead_inj.mp same).symm
        have toPending := ahead_past strictly
        have toOther := ahead_succ otherDifferent
        have turn := ahead_swap otherDifferent
        have back := ahead_between (Nat.le_of_lt early)
        have limit := ahead_lt lowest.sequence pending.sequence
        omega

theorem timerRuns_fresh : (fresh : FlowState T).TimerRuns := by
  simp [TimerRuns]

theorem timerRuns_withFrame (state : FlowState T) (frame : Pending T) (nowMs : Nat) :
    (state.withFrame frame nowMs).TimerRuns := by
  simp [TimerRuns, withFrame]

theorem ReleasesLowest.timerRuns {nowMs : Nat} {before after : FlowState T}
    {lowest : Pending T} {gone : List (Pending T)} {output : List T}
    (release : ReleasesLowest nowMs before after lowest gone output) : after.TimerRuns := by
  by_cases empty : after.pending = []
  · simp [TimerRuns, release.timer, empty]
  · simp [TimerRuns, release.timer, empty]

/-- An expired timer was running, so there are frames it was running for. -/
theorem TimerRuns.nonempty_of_expired {state : FlowState T} {nowMs : Nat}
    (timed : state.TimerRuns) (expired : state.gapExpired nowMs = true) : state.pending ≠ [] := by
  refine timed.mp ?_
  cases timer : state.gapStartedMs with
  | none => simp [gapExpired, timer] at expired
  | some => rfl

/-- Without a frame in front the arrival meets the state of before, up to its timer. -/
private theorem settle_unmoved {nowMs total : Nat} {before middle : FlowState T}
    {expired : List T} (expiry : Expiry nowMs before middle expired)
    (stuck : ¬ before.HasForward) :
    settle total before.pending.length middle.pending.length = total := by
  rw [(expiry.unmoved stuck).2]
  simp [settle]

/-- A dropped frame stops the timer exactly when it meets an expired gap that
nothing can be released from. -/
private theorem rejected_timerRuns_iff {nowMs total : Nat} {sequence : U32}
    {before after : FlowState T} {expired : List T}
    (looked : before.releaseExpired nowMs = (after, expired))
    (notAwaited : sequence ≠ after.expected) (rejects : after.rejects sequence = true)
    (short : before.pending.length < 2 ^ 32) (timed : before.TimerRuns) :
    after.TimerRuns ↔ before.KeepsTimer total sequence nowMs := by
  have expiry := expiry_of_looked looked
  have neverAwaited : ∀ start, ¬ Resumes before nowMs start sequence := fun start resumes =>
    notAwaited (resumes.awaited_eq looked short)
  have dropped (stuck : ¬ before.HasForward) :
      ¬ (Forward before.expected sequence ∧ sequence ∉ before.sequences) := by
    obtain ⟨sameExpected, samePending⟩ := expiry.unmoved stuck
    rw [← sameExpected, sequences, ← samePending, ← sequences, ← rejects_eq_false, rejects]
    exact Bool.noConfusion
  have keeps (late : before.gapExpired nowMs = true → before.HasForward) :
      before.KeepsTimer total sequence nowMs := {
    awaited := fun start resumes => absurd resumes (neverAwaited start)
    late := fun isExpired stuck => absurd (late isExpired) stuck
    bounced := fun _ _ stuck front new => absurd ⟨front, new⟩ (dropped stuck) }
  cases expiry with
  | idle running => exact iff_of_true timed (keeps fun isExpired => by simp [running] at isExpired)
  | cleared isExpired stuck =>
      refine iff_of_false (fun still => ?_) fun keeping => ?_
      · have stopped := still.mpr (timed.nonempty_of_expired isExpired)
        simp [timerCleared] at stopped
      · rcases keeping.late isExpired stuck with same | admitted
        · exact notAwaited same
        · exact dropped stuck admitted
  | released _ release => exact iff_of_true release.timerRuns (keeps fun _ => release.hasForward)

/-- A frame that bounces off the spent budget takes all others along exactly when
each of them follows it. -/
private theorem bounced_timerRuns_iff {nowMs : Nat} {frame : Pending T}
    {held : FlowState T} {after : FlowState T} {gone : List (Pending T)} {output : List T}
    (distinct : held.sequences.Nodup) (short : held.pending.length < 2 ^ 32)
    (release : ReleasesLowest nowMs
      { held.timerCleared with pending := held.pending ++ [frame] } after frame gone output) :
    ({ after with gapStartedMs := some nowMs } : FlowState T).TimerRuns ↔
      ∃ pending ∈ held.pending, ¬ Follows held frame.sequence pending := by
  have remaining : held.pending ~ gone ++ after.pending :=
    List.Perm.cons_inv ((List.perm_append_singleton frame held.pending).symm.trans
      release.remaining)
  have emptied := exhausts_pending remaining release.contiguous release.stopped distinct short
  simp only [TimerRuns, Option.isSome_some, true_iff, ne_eq, emptied, Follows, sequences,
    not_forall, exists_prop]

/-- A buffered frame stops the timer exactly when it is released at once
together with everything else. -/
private theorem buffered_timerRuns_iff {nowMs total total' : Nat} {frame : Pending T}
    {before middle after : FlowState T} {expired output : List T}
    (looked : before.releaseExpired nowMs = (middle, expired))
    (front : Forward middle.expected frame.sequence) (new : frame.sequence ∉ middle.sequences)
    (kept : Buffered nowMs frame middle
      (settle total before.pending.length middle.pending.length) after total' output)
    (distinct : before.sequences.Nodup) (short : before.pending.length < 2 ^ 32)
    (bound : total ≤ maxPendingTotal) :
    after.TimerRuns ↔ before.KeepsTimer total frame.sequence nowMs := by
  have expiry := expiry_of_looked looked
  have neverAwaited : ∀ start, ¬ Resumes before nowMs start frame.sequence := by
    intro start resumes
    rw [← resumes.awaited_eq looked short, Forward, ahead_self] at front
    exact Nat.lt_irrefl 0 front.1
  have admitted (stuck : ¬ before.HasForward) :
      Forward before.expected frame.sequence ∧ frame.sequence ∉ before.sequences := by
    obtain ⟨sameExpected, samePending⟩ := expiry.unmoved stuck
    rw [← sameExpected, sequences, ← samePending]
    exact ⟨front, new⟩
  have keeps_iff : before.KeepsTimer total frame.sequence nowMs ↔
      (total = maxPendingTotal → before.pending ≠ [] → ¬ before.HasForward →
        ∃ pending ∈ before.pending, ¬ Follows before frame.sequence pending) := by
    constructor
    · intro keeping spent nonempty stuck
      exact keeping.bounced spent nonempty stuck (admitted stuck).1 (admitted stuck).2
    · intro holds
      exact {
        awaited := fun start resumes => absurd resumes (neverAwaited start)
        late := fun _ stuck => .inr (admitted stuck)
        bounced := fun spent nonempty stuck _ _ => holds spent nonempty stuck }
  rw [keeps_iff]
  cases kept with
  | room _ totalRoom =>
      refine iff_of_true (timerRuns_withFrame _ _ _) fun spent _ stuck => ?_
      rw [settle_unmoved expiry stuck] at totalRoom
      exact absurd spent totalRoom
  | direct empty =>
      refine iff_of_true (by simp [TimerRuns, empty]) fun _ nonempty stuck => ?_
      exact absurd ((expiry.unmoved stuck).2.symm.trans empty) nonempty
  | forced _ release =>
      refine iff_of_true (timerRuns_withFrame _ _ _) fun _ _ stuck => ?_
      obtain ⟨sameExpected, samePending⟩ := expiry.unmoved stuck
      have forward := release.hasForward
      rw [HasForward, sameExpected, samePending] at forward
      exact absurd forward stuck
  | overfull _ totalRoom =>
      refine iff_of_true (timerRuns_withFrame _ _ _) fun spent _ stuck => ?_
      rw [settle_unmoved expiry stuck] at totalRoom
      exact absurd spent totalRoom
  | bounced spent nonempty stuck release =>
      have middleDistinct := expiry.distinct distinct
      have middleShort := Nat.lt_of_le_of_lt expiry.length_le short
      rw [bounced_timerRuns_iff middleDistinct middleShort release]
      -- A release of the gap would have freed a place in the budget.
      have still : ¬ before.HasForward := by
        cases expiry with
        | idle => exact stuck
        | cleared => exact stuck
        | released _ early =>
            have frees := early.frees
            simp only [settle, maxPendingTotal] at spent bound
            omega
      rw [settle_unmoved expiry still] at spent
      have samePending := (expiry.unmoved still).2
      simp only [Follows, sequences, samePending]
      exact ⟨fun missing _ _ _ => missing, fun holds => holds spent (samePending ▸ nonempty) still⟩

/-- A flow whose timer runs exactly while frames are buffered stays so exactly
under the condition on the arrival. -/
theorem Arrival.timerRuns_iff {nowMs total total' : Nat} {frame : Pending T}
    {before after : FlowState T} {output : List T}
    (arrival : Arrival nowMs frame before total after total' output)
    (distinct : before.sequences.Nodup) (counted : before.pending.length ≤ total)
    (bound : total ≤ maxPendingTotal) (timed : before.TimerRuns) :
    after.TimerRuns ↔ before.KeepsTimer total frame.sequence nowMs := by
  have short : before.pending.length < 2 ^ 32 :=
    Nat.lt_of_le_of_lt (counted.trans bound) (by decide)
  cases arrival with
  | @delivered middle _ _ _ _ looked awaited drains =>
      have expiry := expiry_of_looked looked
      have stopped : after.TimerRuns ↔ after.pending = [] := by
        simp [TimerRuns, drains.timer]
      rw [stopped, delivered_empties_iff looked distinct short drains, awaited]
      constructor
      · intro empties
        refine ⟨empties, fun _ stuck => .inl (expiry.unmoved stuck).1, fun _ _ stuck front => ?_⟩
        rw [(expiry.unmoved stuck).1, Forward, ahead_self] at front
        exact absurd front.1 (Nat.lt_irrefl 0)
      · exact KeepsTimer.awaited
  | rejected looked notAwaited rejects =>
      exact rejected_timerRuns_iff looked notAwaited rejects short timed
  | buffered looked front new kept =>
      exact buffered_timerRuns_iff looked front new kept distinct short bound

/-- The first frame of a flow never leaves one behind without a timer. -/
theorem keepsTimer_fresh (total : Nat) (sequence : U32) (nowMs : Nat) :
    (fresh : FlowState T).KeepsTimer total sequence nowMs where
  awaited _ _ pending member := by simp at member
  late isExpired := by simp [gapExpired] at isExpired
  bounced _ nonempty := by simp at nonempty

end FlowState

namespace FlowReassembler

/-- In every flow the gap timer is set exactly when frames are buffered. -/
def TimerRuns (self : FlowReassembler T) : Prop :=
  EveryFlow FlowState.TimerRuns self

/-- The push keeps the timer of its flow running exactly while frames are buffered. -/
def KeepsTimer (self : FlowReassembler T) (push : Push T) : Prop :=
  ∀ state, self.flows.lookup push.key = some state →
    state.KeepsTimer self.pendingTotal push.header.sequence push.nowMs

theorem timerRuns_push_iff {self : FlowReassembler T} (sound : self.Sound)
    (timed : self.TimerRuns) (push : Push T) :
    (self.push push).1.TimerRuns ↔ self.KeepsTimer push := by
  refine @everyFlow_push_iff T (fun _ => True) FlowState.TimerRuns
    (fun state total => state.KeepsTimer total push.header.sequence push.nowMs)
    self push sound (fun _ _ _ => trivial) timed trivial FlowState.timerRuns_fresh
    (fun total => FlowState.keepsTimer_fresh total _ _) ?_
  intro before total after total' output distinct counted bound _ timedBefore arrival
  exact arrival.timerRuns_iff distinct counted bound timedBefore

/-- Over a whole run every flow has a running timer exactly while it has frames,
exactly when every push meets the condition. -/
theorem timerRuns_throughout_iff (pushes : List (Push T)) :
    Throughout push new pushes TimerRuns ↔ AtEveryStep push new pushes KeepsTimer := by
  refine throughout_iff_atEveryStep push sound_new (everyFlow_new _) ?_ ?_
  · intro self push sound _
    exact push_sound sound push
  · intro self push sound timed
    exact timerRuns_push_iff sound timed push

/-- Sequences 1 and 3 arrive early, then sequence 0 fills the first gap. -/
def secondGapRun : List (Push Nat) :=
  [1, 3, 0].map fun number =>
    { header := { senderId := 17, flowId := 23, sequence := BitVec.ofNat 32 number }
      value := number
      nowMs := 0 }

/-- Sequence 3 stays buffered behind the second gap, and no timer runs for it. -/
theorem second_gap_without_timer :
    ∃ pushes : List (Push Nat),
      pushes.Pairwise (fun first second => first.nowMs ≤ second.nowMs) ∧
      ¬ (run push new pushes).1.TimerRuns := by
  refine ⟨secondGapRun, by decide, fun timed => ?_⟩
  have state : (run push new secondGapRun).1.flowState { senderId := 17, flowId := 23 } =
      { expected := 2, gapStartedMs := none, pending := [{ sequence := 3, value := 3 }] } := by
    decide +kernel
  have running := timed.flowState FlowState.timerRuns_fresh { senderId := 17, flowId := 23 }
  rw [state] at running
  simp [FlowState.TimerRuns] at running

end FlowReassembler

end Csqtt
