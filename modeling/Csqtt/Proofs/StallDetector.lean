/-
Module: Csqtt.Proofs.StallDetector
Purpose: A probe rests on three polls in a row, each with evidence of its own, as long as no poll
  after an outage is compared with one before it.
Trusted boundary: none
Main exports: Evidence, Streak, FreshAfterOutage, Tracked, probeTimes_apart,
  probes_fresh
-/
import Csqtt.Engine.StallDetector

namespace Csqtt.StallMonitor

/-- The bytes up and down at the poll before. -/
def lastSample (start : Int × Int) (polls : List Poll) : Int × Int :=
  (polls.getLast?.map fun poll => (poll.up, poll.down)).getD start

/-- Whether the poll before was passed over. -/
def afterOutage (polls : List Poll) : Bool :=
  polls.getLast?.any fun poll => poll.activePaths ≤ 0

/-- A path is ready, the uplink has moved since the poll before and the downlink has not. -/
structure Evidence (previous : Int × Int) (poll : Poll) : Prop where
  ready : 0 < poll.activePaths
  upMoved : stallMinUplinkDelta ≤ poll.up - previous.1
  downStill : poll.down = previous.2

instance (previous : Int × Int) (poll : Poll) : Decidable (Evidence previous poll) :=
  decidable_of_iff
    (0 < poll.activePaths ∧ stallMinUplinkDelta ≤ poll.up - previous.1 ∧ poll.down = previous.2)
    ⟨fun evidence => ⟨evidence.1, evidence.2.1, evidence.2.2⟩,
      fun evidence => ⟨evidence.ready, evidence.upMoved, evidence.downStill⟩⟩

/-- The last polls, so many of them, are evidence each. -/
def Streak (start : Int × Int) : Nat → List Poll → Prop
  | 0, _ => True
  | count + 1, polls =>
      ∃ earlier poll, polls = earlier ++ [poll] ∧ Evidence (lastSample start earlier) poll ∧
        Streak start count earlier

/-- The first poll after an outage counts as stalled only where it begins a streak and is stalled
by the poll before it, too. -/
def FreshAfterOutage (start : Int × Int) (polls : List Poll) (detector : StallDetector)
    (poll : Poll) : Prop :=
  afterOutage polls = true → 0 < poll.activePaths → detector.stalled poll.up poll.down = true →
    detector.stalledPolls = 0 ∧ Evidence (lastSample start polls) poll

instance (start : Int × Int) (polls : List Poll) (detector : StallDetector) (poll : Poll) :
    Decidable (FreshAfterOutage start polls detector poll) :=
  inferInstanceAs (Decidable (_ → _ → _ → _))

/-- What a probe promises: evidence at this poll and at the two before it. -/
def ProbesFresh (start : Int × Int) (polls : List Poll) : Prop :=
  ∀ earlier poll, earlier ++ [poll] <+: polls →
    (step (Transducer.run step (.new start.1 start.2) earlier).1 poll).2 = true →
      Streak start stallPolls (earlier ++ [poll])

/-- The times of the probes. -/
def probeTimes (detector : StallDetector) (polls : List Poll) : List Nat :=
  (polls.zip (Transducer.run step detector polls).2).filterMap fun entry =>
    if entry.2 then some entry.1.now else none

theorem le_i64SaturatingSub_iff (first second : Int) :
    stallMinUplinkDelta ≤ i64SaturatingSub first second ↔ stallMinUplinkDelta ≤ first - second := by
  rw [i64SaturatingSub, stallMinUplinkDelta]
  omega

theorem stalled_iff (detector : StallDetector) (up down : Int) :
    detector.stalled up down = true ↔
      stallMinUplinkDelta ≤ up - detector.lastUp ∧ down = detector.lastDown := by
  rw [StallDetector.stalled, Bool.and_eq_true, decide_eq_true_eq, le_i64SaturatingSub_iff,
    beq_iff_eq]

theorem Streak.of_le {start : Int × Int} {polls : List Poll} {fewer count : Nat}
    (streak : Streak start count polls) (le : fewer ≤ count) : Streak start fewer polls := by
  induction fewer generalizing polls count with
  | zero => trivial
  | succ fewer inductionHypothesis =>
      cases count with
      | zero => exact absurd le (Nat.not_succ_le_zero fewer)
      | succ count =>
          obtain ⟨earlier, poll, same, evidence, rest⟩ := streak
          exact ⟨earlier, poll, same, evidence,
            inductionHypothesis rest (Nat.le_of_succ_le_succ le)⟩

theorem streak_concat {start : Int × Int} {count : Nat} {polls : List Poll} {poll : Poll} :
    Streak start (count + 1) (polls ++ [poll]) ↔
      Evidence (lastSample start polls) poll ∧ Streak start count polls := by
  constructor
  · rintro ⟨earlier, last, same, evidence, rest⟩
    obtain ⟨rfl, one⟩ := List.append_inj' same rfl
    cases List.singleton_injective one
    exact ⟨evidence, rest⟩
  · rintro ⟨evidence, rest⟩
    exact ⟨polls, poll, rfl, evidence, rest⟩

/-- While no poll is passed over, the detector has noted the poll before and counts no more than
the polls that are evidence. -/
structure Tracked (start : Int × Int) (polls : List Poll) (detector : StallDetector) : Prop where
  noted : afterOutage polls = false →
    (detector.lastUp, detector.lastDown) = lastSample start polls
  counted : afterOutage polls = false → Streak start detector.stalledPolls polls

section Step

variable {start : Int × Int} {polls : List Poll} {detector : StallDetector} {poll : Poll}

theorem lastSample_concat : lastSample start (polls ++ [poll]) = (poll.up, poll.down) := by
  simp [lastSample]

theorem afterOutage_concat : afterOutage (polls ++ [poll]) = decide (poll.activePaths ≤ 0) := by
  simp [afterOutage]

/-- A poll that counts as stalled makes the streak one longer. -/
theorem Tracked.streak (tracked : Tracked start polls detector)
    (fresh : FreshAfterOutage start polls detector poll) (ready : 0 < poll.activePaths)
    (stalled : detector.stalled poll.up poll.down = true) :
    Streak start (detector.stalledPolls + 1) (polls ++ [poll]) := by
  cases outage : afterOutage polls with
  | true =>
      obtain ⟨none, evidence⟩ := fresh outage ready stalled
      rw [none]
      exact ⟨polls, poll, rfl, evidence, trivial⟩
  | false =>
      have noted := tracked.noted outage
      obtain ⟨moved, still⟩ := (stalled_iff _ _ _).mp stalled
      refine ⟨polls, poll, rfl, ⟨ready, ?_, ?_⟩, tracked.counted outage⟩
      · rw [← noted]
        exact moved
      · rw [← noted]
        exact still

theorem Tracked.step (tracked : Tracked start polls detector)
    (fresh : FreshAfterOutage start polls detector poll) :
    Tracked start (polls ++ [poll]) (step detector poll).1 ∧
      ((StallMonitor.step detector poll).2 = true → Streak start stallPolls (polls ++ [poll])) := by
  rw [StallMonitor.step]
  split
  · next outage =>
      refine ⟨⟨fun ready => ?_, fun ready => ?_⟩, fun signalled => nomatch signalled⟩ <;>
      · rw [afterOutage_concat, decide_eq_true outage] at ready
        cases ready
  · next ready =>
      have streak := tracked.streak fresh (Int.not_le.mp ready)
      rw [StallDetector.observe]
      split
      · exact ⟨⟨fun _ => lastSample_concat.symm, fun _ => trivial⟩,
          fun signalled => nomatch signalled⟩
      · next moved =>
          have longer := streak (by simpa using moved)
          dsimp only
          split
          · exact ⟨⟨fun _ => lastSample_concat.symm, fun _ => longer⟩,
              fun signalled => nomatch signalled⟩
          · next due =>
              rw [not_or] at due
              exact ⟨⟨fun _ => lastSample_concat.symm, fun _ => trivial⟩,
                fun _ => longer.of_le (Nat.le_of_not_lt due.1)⟩

/-- A probe is noted with its time, and comes late enough after the one before. -/
theorem step_probe :
    ((step detector poll).2 = false ∧ (step detector poll).1.lastProbe = detector.lastProbe) ∨
      ((step detector poll).2 = true ∧ (step detector poll).1.lastProbe = some poll.now ∧
        ∀ previous, detector.lastProbe = some previous → previous + probeMinGap ≤ poll.now) := by
  rw [step]
  split
  · exact Or.inl ⟨rfl, rfl⟩
  · rw [StallDetector.observe]
    split
    · exact Or.inl ⟨rfl, rfl⟩
    · dsimp only
      split
      · exact Or.inl ⟨rfl, rfl⟩
      · next due =>
          refine Or.inr ⟨rfl, rfl, fun previous probed => ?_⟩
          rw [not_or, StallDetector.probedLately, probed, Option.any_some, decide_eq_true_eq] at due
          have late := Nat.le_of_not_lt due.2
          rw [probeMinGap] at late ⊢
          omega

end Step

/-- All probes come late enough after the one that is noted, and after each other. -/
theorem probeTimes_apart (detector : StallDetector) (polls : List Poll) :
    (∀ previous, detector.lastProbe = some previous →
        ∀ time ∈ probeTimes detector polls, previous + probeMinGap ≤ time) ∧
      (probeTimes detector polls).Pairwise fun first second => first + probeMinGap ≤ second := by
  induction polls generalizing detector with
  | nil => exact ⟨fun _ _ time mem => absurd mem List.not_mem_nil, List.Pairwise.nil⟩
  | cons poll polls inductionHypothesis =>
      obtain ⟨later, apart⟩ := inductionHypothesis (step detector poll).1
      have times : probeTimes detector (poll :: polls) =
          if (step detector poll).2 then poll.now :: probeTimes (step detector poll).1 polls
          else probeTimes (step detector poll).1 polls := by
        rw [probeTimes, Transducer.run, List.zip_cons_cons, List.filterMap_cons]
        cases (step detector poll).2 <;> rfl
      rcases @step_probe detector poll with
        ⟨silent, kept⟩ | ⟨signalled, noted, late⟩
      · rw [kept] at later
        rw [times, silent, if_neg Bool.false_ne_true]
        exact ⟨later, apart⟩
      · rw [times, signalled, if_pos rfl]
        refine ⟨fun previous probed time mem => ?_,
          List.pairwise_cons.mpr ⟨later poll.now noted, apart⟩⟩
        rcases List.mem_cons.mp mem with rfl | mem
        · exact late previous probed
        · exact (late previous probed).trans
            ((Nat.le_add_right _ _).trans (later poll.now noted time mem))

/-- The run up to each poll is tracked. -/
theorem tracked_run {start : Int × Int} {polls : List Poll}
    (fresh : ∀ earlier poll, earlier ++ [poll] <+: polls →
      FreshAfterOutage start earlier
        (Transducer.run step (.new start.1 start.2) earlier).1 poll) :
    Tracked start polls (Transducer.run step (.new start.1 start.2) polls).1 := by
  induction polls using List.reverseRecOn with
  | nil => exact ⟨fun _ => rfl, fun _ => trivial⟩
  | append_singleton polls poll inductionHypothesis =>
      have before := inductionHypothesis fun earlier next within =>
        fresh earlier next (within.trans (List.prefix_append _ _))
      rw [Transducer.run_concat]
      exact (before.step (fresh polls poll (List.prefix_refl _))).1

/-- Probes are apart in every run, and fresh in every run without a comparison across an
outage. -/
theorem probes_fresh (start : Int × Int) (polls : List Poll) :
    ((∀ earlier poll, earlier ++ [poll] <+: polls →
        FreshAfterOutage start earlier
          (Transducer.run step (.new start.1 start.2) earlier).1 poll) →
      ProbesFresh start polls) ∧
      (probeTimes (.new start.1 start.2) polls).Pairwise
        fun first second => first + probeMinGap ≤ second := by
  refine ⟨fun fresh earlier poll within signalled => ?_, (probeTimes_apart _ _).2⟩
  have before := tracked_run fun shorter next inside =>
    fresh shorter next (inside.trans ((List.prefix_append _ _).trans within))
  exact (before.step (fresh earlier poll within)).2 signalled

/-- Three stalled polls after an outage. -/
theorem probes_fresh_after_outage :
    ProbesFresh (0, 0)
      [⟨0, 0, 0, 2000⟩, ⟨1, 4096, 0, 4000⟩, ⟨1, 8192, 0, 6000⟩, ⟨1, 12288, 0, 8000⟩] :=
  (probes_fresh (0, 0) _).1 (Transducer.forall_concat_prefix_iff.mpr (by decide))

/-- Two stalled polls, an outage of one, and a third stalled poll. -/
theorem outage_probe :
    ¬ ProbesFresh (0, 0)
      [⟨1, 4096, 0, 2000⟩, ⟨1, 8192, 0, 4000⟩, ⟨0, 8192, 0, 6000⟩, ⟨1, 12288, 0, 8000⟩] := by
  intro fresh
  have streak := fresh [⟨1, 4096, 0, 2000⟩, ⟨1, 8192, 0, 4000⟩, ⟨0, 8192, 0, 6000⟩] _
    (List.prefix_refl _) rfl
  rw [stallPolls, streak_concat] at streak
  obtain ⟨evidence, -⟩ :=
    (@streak_concat _ _ [⟨1, 4096, 0, 2000⟩, ⟨1, 8192, 0, 4000⟩] _).mp streak.2
  exact absurd evidence.ready (Int.lt_irrefl 0)

end Csqtt.StallMonitor
