/-
Module: Csqtt.Proofs.RebindEpoch
Purpose: When a session that connects or runs is ended by every rebind requested since its
  connect began, over all interleavings of requests and sessions.
Trusted boundary: none
Main exports: RebindSession.Kept, Rebinding.Attentive, Rebinding.rebind_kept,
  Rebinding.rebind_missed
-/
import Csqtt.Core.Transducer
import Csqtt.Engine.RebindEpoch

namespace Csqtt

/-- Whether the session is in one of the selects, between them, or over. -/
inductive RebindPhase where
  | watching (watch : Watch)
  | blind
  | finished
deriving DecidableEq, Repr

def RebindPoint.phase : RebindPoint → RebindPhase
  | .ahead watch => .watching watch
  | .asking watch => .watching watch
  | .announced watch _ => .watching watch
  | .unchanged watch _ => .watching watch
  | .behind watch => .watching watch
  | .asleep watch => .watching watch
  | .preparing => .blind
  | .configuring => .blind
  | .registering => .blind
  | .recapturing => .blind
  | .sending => .watching .loop
  | .ended _ _ => .finished

namespace RebindSession

/-- Every request made since the connect captured the epoch ends the session: a session that
ended otherwise met none, one that runs compares with that first capture, and none that
sleeps has a request behind it whose notification is done. -/
structure Kept (session : RebindSession) (epoch requesting : Nat) : Prop where
  finished : ∀ result at', session.point = .ended result at' → result ≠ .netRebind →
    at' = session.captured
  running : session.point.phase = .watching .loop → session.seen = session.captured
  asleep : ∀ watch, session.point = .asleep watch → session.wait ≠ .woken → requesting = 0 →
    session.captured = epoch

/-- What a session compares with and read last goes back to its first capture. -/
def Looked (self : RebindSession) : Prop :=
  match self.point.phase with
  | .watching .connect => self.seen = self.captured ∧ self.looked = self.captured
  | .watching .loop => self.looked = self.seen
  | .blind => self.looked = self.captured
  | .finished => True

/-- What holds of every session: on the list it has missed nothing. -/
structure Sound (session : RebindSession) (epoch calls requesting : Nat) : Prop where
  looked : session.Looked
  listed : session.wait = .listed → session.seen = epoch ∨ 0 < requesting
  waits : ∀ watch, session.point = .behind watch ∨ session.point = .asleep watch → session.wait ≠ .fresh
  announced : ∀ watch announced, session.point = .announced watch announced → announced ≤ calls
  unchanged : ∀ watch announced, session.point = .unchanged watch announced →
    announced ≤ calls ∧ (announced = calls → session.seen = epoch ∨ 0 < requesting)

/-- The step captures the epoch again, or ends the session for another reason. -/
def Commits (self moved : RebindSession) : Prop :=
  self.point = .recapturing ∨ ∃ result at', moved.point = .ended result at' ∧ result ≠ .netRebind

variable {self moved : RebindSession} {epoch calls requesting : Nat} {choice : RebindChoice}

theorem sound_begun (epoch calls requesting : Nat) :
    (begun epoch).Sound epoch calls requesting where
  looked := ⟨rfl, rfl⟩
  listed listed := by cases listed
  waits _ there := by rcases there with there | there <;> cases there
  announced _ _ there := by cases there
  unchanged _ _ there := by cases there

theorem kept_begun (epoch requesting : Nat) : (begun epoch).Kept epoch requesting where
  finished _ _ there := by cases there
  running there := by cases there
  asleep _ there := by cases there

theorem Sound.requested (sound : self.Sound epoch calls requesting) :
    self.Sound (epoch + 1) calls (requesting + 1) where
  looked := sound.looked
  listed _ := Or.inr (Nat.succ_pos _)
  waits := sound.waits
  announced := sound.announced
  unchanged watch announced there :=
    ⟨(sound.unchanged watch announced there).1, fun _ => Or.inr (Nat.succ_pos _)⟩

theorem Kept.requested (kept : self.Kept epoch requesting) :
    self.Kept (epoch + 1) (requesting + 1) where
  finished := kept.finished
  running := kept.running
  asleep _ _ _ none := by cases none

/-- A notification changes nothing but the wait. -/
theorem notified_eq (self : RebindSession) :
    self.notified = { self with wait := self.notified.wait } := by
  rw [notified]
  split
  · rfl
  · rfl

theorem wait_notified (self : RebindSession) : self.notified.wait ≠ .listed := by
  rw [notified]
  split
  · exact EpochWait.noConfusion
  · assumption

theorem wait_notified_fresh (waits : self.wait ≠ .fresh) : self.notified.wait = .woken := by
  obtain ⟨point, seen, wait, captured, looked⟩ := self
  cases wait with
  | fresh => exact absurd rfl waits
  | listed => rfl
  | woken => rfl

theorem Sound.notified (sound : self.Sound epoch calls requesting) (fewer : Nat) :
    self.notified.Sound epoch (calls + 1) fewer where
  looked := by
    rw [notified_eq]
    exact sound.looked
  listed listed := absurd listed self.wait_notified
  waits watch there := by
    rw [notified_eq] at there
    rw [wait_notified_fresh (sound.waits watch there)]
    exact EpochWait.noConfusion
  announced watch announced there := by
    rw [notified_eq] at there
    exact Nat.le_succ_of_le (sound.announced watch announced there)
  unchanged watch announced there := by
    rw [notified_eq] at there
    have earlier := (sound.unchanged watch announced there).1
    exact ⟨Nat.le_succ_of_le earlier, fun same => absurd same (Nat.ne_of_lt (Nat.lt_succ_of_le earlier))⟩

/-- Who sleeps on the list is woken. -/
theorem Kept.notified (kept : self.Kept epoch requesting) (sound : self.Sound epoch calls requesting)
    (fewer : Nat) : self.notified.Kept epoch fewer where
  finished := by
    rw [notified_eq]
    exact kept.finished
  running := by
    rw [notified_eq]
    exact kept.running
  asleep watch there unwoken _ := by
    rw [notified_eq] at there
    exact absurd (wait_notified_fresh (sound.waits watch (Or.inr there))) unwoken

/-- The step lemma of what holds always. -/
theorem next_sound (sound : self.Sound epoch calls requesting)
    (next : self.next epoch calls choice = some moved) : moved.Sound epoch calls requesting := by
  obtain ⟨point, seen, wait, captured, looked⟩ := self
  obtain ⟨look, listed, waits, announces, unchanges⟩ := sound
  cases choice with
  | go =>
    cases point with
    | ahead watch =>
      cases next
      exact ⟨look, listed, nofun, nofun, nofun⟩
    | asking watch =>
      cases wait with
      | listed =>
        cases next
        exact ⟨look, listed, nofun, nofun, nofun⟩
      | fresh | woken =>
        cases next
        refine ⟨look, nofun, nofun, ?_, nofun⟩
        rintro _ _ there
        cases there
        exact Nat.le_refl _
    | announced watch announced =>
      have earlier := announces watch announced rfl
      simp only [RebindSession.next] at next
      split at next
      · cases next
        exact ⟨trivial, nofun, nofun, nofun, nofun⟩
      · next same =>
          obtain rfl : epoch = seen := Decidable.of_not_not same
          cases next
          refine ⟨?_, listed, nofun, nofun, ?_⟩
          · cases watch with
            | connect => exact ⟨look.1, look.1⟩
            | loop => rfl
          · rintro _ _ there
            cases there
            exact ⟨earlier, fun _ => Or.inl rfl⟩
    | unchanged watch announced =>
      have caught := (unchanges watch announced rfl).2
      simp only [RebindSession.next] at next
      split at next
      · cases next
        exact ⟨look, listed, nofun, nofun, nofun⟩
      · next same =>
          cases next
          exact ⟨look, fun _ => caught (Decidable.of_not_not same).symm, fun _ _ => nofun, nofun,
            nofun⟩
    | behind watch =>
      cases next
      exact ⟨look, listed, fun _ _ => waits watch (Or.inl rfl), nofun, nofun⟩
    | asleep watch =>
      cases next
      exact ⟨look, listed, nofun, nofun, nofun⟩
    | preparing | configuring | registering =>
      cases next
      exact ⟨look, listed, nofun, nofun, nofun⟩
    | recapturing =>
      cases next
      exact ⟨rfl, fun _ => Or.inl rfl, nofun, nofun, nofun⟩
    | sending =>
      cases next
      exact ⟨look, listed, nofun, nofun, nofun⟩
    | ended _ _ => cases next
  | connected =>
    simp only [RebindSession.next] at next
    split at next
    · next there =>
        cases there
        cases next
        exact ⟨look.2, nofun, nofun, nofun, nofun⟩
    · cases next
  | announce =>
    simp only [RebindSession.next] at next
    split at next
    · next there =>
        cases there
        cases next
        exact ⟨look, nofun, nofun, nofun, nofun⟩
    · cases next
  | ends result =>
    cases result with
    | netRebind => cases next
    | _ =>
      simp only [RebindSession.next] at next
      split at next
      · cases next
      · cases next
        exact ⟨trivial, nofun, nofun, nofun, nofun⟩

/-- As long as a session compares with its first capture, it has read nothing else. -/
theorem looked_eq (sound : self.Sound epoch calls requesting) (kept : self.Kept epoch requesting)
    (live : self.point.phase ≠ .finished) : self.looked = self.captured := by
  have look := sound.looked
  rw [Looked] at look
  cases phase : self.point.phase with
  | watching watch =>
    rw [phase] at look
    cases watch with
    | connect => exact look.2
    | loop => exact look.trans (kept.running phase)
  | blind =>
    rw [phase] at look
    exact look
  | finished => exact absurd phase live

/-- A session that goes to sleep on the list has missed nothing. -/
theorem kept_asleep {watch : Watch} (sound : self.Sound epoch calls requesting)
    (kept : self.Kept epoch requesting) (there : self.point = .behind watch) :
    (self.goTo (.asleep watch)).Kept epoch requesting where
  finished _ _ there := by cases there
  running phase := kept.running (by rw [there]; exact phase)
  asleep _ _ unwoken none := by
    have waits := sound.waits watch (Or.inl there)
    have listed : self.wait = .listed := by
      cases wait : self.wait with
      | fresh => exact absurd wait waits
      | listed => rfl
      | woken => exact absurd wait unwoken
    have seen : self.seen = epoch := by
      rcases sound.listed listed with seen | requested
      · exact seen
      · exact absurd none (Nat.ne_of_gt requested)
    have same : self.seen = self.captured := by
      have look := sound.looked
      rw [Looked, there] at look
      cases watch with
      | connect => exact look.1
      | loop => exact kept.running (by rw [there]; rfl)
    exact same.symm.trans seen

/-- A step that neither captures the epoch again nor ends the session otherwise misses no
request. -/
theorem kept_of_not_commits (sound : self.Sound epoch calls requesting)
    (kept : self.Kept epoch requesting) (next : self.next epoch calls choice = some moved)
    (moves : ¬ self.Commits moved) : moved.Kept epoch requesting := by
  cases choice with
  | go =>
    cases there : self.point with
    | behind watch =>
      simp only [RebindSession.next, there] at next
      cases next
      exact kept_asleep sound kept there
    | recapturing => exact absurd (Or.inl there) moves
    | ended _ _ =>
      simp only [RebindSession.next, there] at next
      cases next
    | ahead watch | asleep watch =>
      simp only [RebindSession.next, there] at next
      cases next
      exact ⟨nofun, fun phase => kept.running (by rw [there]; exact phase), nofun⟩
    | asking watch =>
      simp only [RebindSession.next, there] at next
      split at next
      · cases next
        exact ⟨nofun, fun phase => kept.running (by rw [there]; exact phase), nofun⟩
      · cases next
        exact ⟨nofun, fun phase => kept.running (by rw [there]; exact phase), nofun⟩
    | announced watch announced =>
      simp only [RebindSession.next, there] at next
      split at next
      · cases next
        refine ⟨fun result at' ended other => ?_, nofun, nofun⟩
        cases ended
        exact absurd rfl other
      · cases next
        exact ⟨nofun, fun phase => kept.running (by rw [there]; exact phase), nofun⟩
    | unchanged watch announced =>
      simp only [RebindSession.next, there] at next
      split at next
      · cases next
        exact ⟨nofun, fun phase => kept.running (by rw [there]; exact phase), nofun⟩
      · cases next
        exact ⟨nofun, fun phase => kept.running (by rw [there]; exact phase), nofun⟩
    | preparing | configuring | registering =>
      simp only [RebindSession.next, there] at next
      cases next
      exact ⟨nofun, nofun, nofun⟩
    | sending =>
      simp only [RebindSession.next, there] at next
      cases next
      exact ⟨nofun, fun _ => kept.running (by rw [there]; rfl), nofun⟩
  | connected =>
    simp only [RebindSession.next] at next
    split at next
    · cases next
      exact ⟨nofun, nofun, nofun⟩
    · cases next
  | announce =>
    simp only [RebindSession.next] at next
    split at next
    · next there =>
        cases next
        exact ⟨nofun, fun _ => kept.running (by rw [there]; rfl), nofun⟩
    · cases next
  | ends result =>
    cases result with
    | netRebind => cases next
    | _ =>
      simp only [RebindSession.next] at next
      split at next
      · cases next
      · cases next
        exact absurd (Or.inr ⟨_, _, rfl, nofun⟩) moves

/-- A step that captures the epoch again, or ends the session otherwise, misses no request
exactly if the epoch is still the first capture. -/
theorem kept_iff_of_commits
    (next : self.next epoch calls choice = some moved) (commits : self.Commits moved) :
    self.point.phase ≠ .finished ∧ (moved.Kept epoch requesting ↔ self.captured = epoch) := by
  cases choice with
  | go =>
    cases there : self.point with
    | recapturing =>
      simp only [RebindSession.next, there] at next
      cases next
      refine ⟨nofun, fun after => (after.running rfl).symm, fun same => ?_⟩
      exact ⟨nofun, fun _ => same.symm, nofun⟩
    | announced watch announced =>
      simp only [RebindSession.next, there] at next
      rcases commits with here | ⟨_, _, ended, other⟩
      · cases there.symm.trans here
      · split at next
        · cases next
          cases ended
          exact absurd rfl other
        · cases next
          cases ended
    | asking | unchanged =>
      simp only [RebindSession.next, there] at next
      rcases commits with here | ⟨_, _, ended, other⟩
      · cases there.symm.trans here
      · split at next
        · cases next
          cases ended
        · cases next
          cases ended
    | ended _ _ =>
      simp only [RebindSession.next, there] at next
      cases next
    | _ =>
      simp only [RebindSession.next, there] at next
      rcases commits with here | ⟨_, _, ended, other⟩
      · cases there.symm.trans here
      · cases next
        cases ended
  | connected =>
    simp only [RebindSession.next] at next
    rcases commits with here | ⟨_, _, ended, other⟩
    · rw [here] at next
      cases next
    · split at next
      · cases next
        cases ended
      · cases next
  | announce =>
    simp only [RebindSession.next] at next
    rcases commits with here | ⟨_, _, ended, other⟩
    · rw [here] at next
      cases next
    · split at next
      · cases next
        cases ended
      · cases next
  | ends result =>
    cases result with
    | netRebind => cases next
    | _ =>
      simp only [RebindSession.next] at next
      split at next
      · cases next
      · next live =>
          cases next
          refine ⟨fun finished => ?_, fun after => (after.finished _ _ rfl nofun).symm, fun same => ?_⟩
          · cases there : self.point with
            | ended result at' => exact live result at' there
            | _ => rw [there] at finished; cases finished
          · refine ⟨fun _ _ ended _ => ?_, nofun, nofun⟩
            cases ended
            exact same.symm

end RebindSession

namespace Rebinding

open RebindSession

/-- Every request ends every session whose connect began before it. -/
def Kept (self : Rebinding) : Prop :=
  ∀ session ∈ self.sessions, session.Kept self.epoch self.requesting

def Sound (self : Rebinding) : Prop :=
  ∀ session ∈ self.sessions, session.Sound self.epoch self.calls self.requesting

/-- Where a session captures the epoch again, or ends for another reason, no request has been
made since it last read the epoch. -/
def Attentive (self : Rebinding) (event : RebindEvent) : Prop :=
  ∀ index choice session moved, event = .move index choice →
    self.sessions[index]? = some session →
    session.next self.epoch self.calls choice = some moved → session.Commits moved →
    session.looked = self.epoch

variable {self : Rebinding}

theorem sound_step (sound : self.Sound) (event : RebindEvent) : (self.step event).1.Sound := by
  cases event with
  | request => exact fun session mem => (sound session mem).requested
  | notify =>
    simp only [step]
    split
    · exact sound
    · intro session mem
      obtain ⟨old, there, rfl⟩ := List.mem_map.mp mem
      exact (sound old there).notified _
  | begin =>
    intro session mem
    obtain old | new := List.mem_append.mp mem
    · exact sound session old
    · rw [List.mem_singleton.mp new]
      exact sound_begun _ _ _
  | move index choice =>
    simp only [step]
    split
    · exact sound
    · next moved found =>
        obtain ⟨old, there, next⟩ := Option.bind_eq_some_iff.mp found
        intro session mem
        obtain before | rfl := List.mem_or_eq_of_mem_set mem
        · exact sound session before
        · exact next_sound (sound old (List.mem_of_getElem? there)) next

/-- With one session moved on, all are kept exactly if that one is. -/
theorem kept_set_iff (kept : self.Kept) {index : Nat} {old moved : RebindSession}
    (found : self.sessions[index]? = some old) :
    ({ self with sessions := self.sessions.set index moved } : Rebinding).Kept ↔
      moved.Kept self.epoch self.requesting := by
  constructor
  · intro after
    exact after moved (List.mem_set (List.getElem?_eq_some_iff.mp found).1 moved)
  · intro one session mem
    obtain before | rfl := List.mem_or_eq_of_mem_set mem
    · exact kept session before
    · exact one

/-- One step: the sessions stay kept exactly if the step is attentive. -/
theorem kept_step_iff (sound : self.Sound) (kept : self.Kept) (event : RebindEvent) :
    (self.step event).1.Kept ↔ self.Attentive event := by
  cases event with
  | request =>
    exact iff_of_true (fun session mem => (kept session mem).requested) fun _ _ _ _ => nofun
  | notify =>
    refine iff_of_true ?_ fun _ _ _ _ => nofun
    simp only [step]
    split
    · exact kept
    · intro session mem
      obtain ⟨old, there, rfl⟩ := List.mem_map.mp mem
      exact (kept old there).notified (sound old there) _
  | begin =>
    refine iff_of_true (fun session mem => ?_) fun _ _ _ _ => nofun
    obtain old | new := List.mem_append.mp mem
    · exact kept session old
    · rw [List.mem_singleton.mp new]
      exact kept_begun _ _
  | move index choice =>
    simp only [step]
    split
    · next stuck =>
        refine iff_of_true kept fun _ _ session moved same found next => ?_
        cases same
        rw [found] at stuck
        rw [Option.bind_some, next] at stuck
        cases stuck
    · next moved found =>
        obtain ⟨old, there, next⟩ := Option.bind_eq_some_iff.mp found
        have soundOld := sound old (List.mem_of_getElem? there)
        have keptOld := kept old (List.mem_of_getElem? there)
        rw [kept_set_iff kept there]
        by_cases commits : old.Commits moved
        · obtain ⟨live, exact'⟩ := kept_iff_of_commits next commits
          rw [exact', ← looked_eq soundOld keptOld live]
          constructor
          · intro looked _ _ session other same found' next' _
            cases same
            cases there.symm.trans found'
            exact looked
          · intro attentive
            exact attentive index choice old moved rfl there next commits
        · refine iff_of_true (kept_of_not_commits soundOld keptOld next commits) ?_
          intro _ _ session other same found' next' commits'
          cases same
          cases there.symm.trans found'
          cases next.symm.trans next'
          exact absurd commits' commits

/-- In every interleaving every rebind request ends every session whose connect began before
it, exactly if the sessions capture the epoch again, and end for other reasons, only when no
request has been made since they last read it. -/
theorem rebind_kept (events : List RebindEvent) :
    Transducer.Throughout step start events Kept ↔
      Transducer.AtEveryStep step start events Attentive := by
  have none : start.Sound ∧ start.Kept := ⟨nofun, nofun⟩
  exact Transducer.throughout_iff_atEveryStep step none.1 none.2
    (fun state event sound _ => sound_step sound event)
    fun state event sound kept => kept_step_iff sound kept event

/-- A request between the connect and the loop: the session captures the new epoch and
sleeps in its loop, on its old socket. -/
theorem rebind_missed :
    let events : List RebindEvent :=
      [.begin, .move 0 .connected, .request, .notify, .move 0 .go, .move 0 .go, .move 0 .go,
        .move 0 .go, .move 0 .go, .move 0 .go, .move 0 .go, .move 0 .go, .move 0 .go]
    (Transducer.run step start events).1 =
        { epoch := 1
          calls := 1
          requesting := 0
          sessions := [⟨.asleep .loop, 1, .listed, 0, 1⟩] } ∧
      ¬ Transducer.Throughout step start events Kept := by
  refine ⟨by decide, fun kept => ?_⟩
  have last := kept _ (List.prefix_refl _) ⟨.asleep .loop, 1, .listed, 0, 1⟩ (by decide)
  cases last.asleep .loop rfl nofun (by decide)

end Rebinding

end Csqtt
