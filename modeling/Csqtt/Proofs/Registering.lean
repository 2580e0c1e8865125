/-
Module: Csqtt.Proofs.Registering
Purpose: When a session that waits for the next announcement has registered with what is in
  force, and when it notes the offset that the server has, over all interleavings of sessions
  and idle calls.
Trusted boundary: none
Main exports: Registering.Consistent, Registering.Settles, Registering.announce_consistent,
  Registering.Faithful, Registering.Steady, Registering.joined_faithful
-/
import Csqtt.Core.Transducer
import Csqtt.Engine.Registering
import Csqtt.Proofs.IdleEpochs

namespace Csqtt

namespace IdlePoint

/-- A point from which the call will bump `ANNOUNCE`, whatever happens meanwhile. -/
def owes : IdlePoint → Bool
  | .enterLimit => true
  | .enterDeclared => true
  | .enterOffset => true
  | .enterAnnounce => true
  | .exitLimit => true
  | .exitTotal => true
  | .exitDeclared _ => true
  | .exitAnnounce => true
  | .lostCleared _ => true
  | .lostAnnounce => true
  | _ => false

/-- The next operation bumps `ANNOUNCE`. -/
def announces : IdlePoint → Bool
  | .enterAnnounce => true
  | .exitAnnounce => true
  | .lostAnnounce => true
  | _ => false

end IdlePoint

namespace Idle

/-- The same is in force. -/
structure Agrees (idle after : Idle) : Prop where
  genOffset : after.genOffset = idle.genOffset
  declared : after.declared = idle.declared
  totalWorkers : after.totalWorkers = idle.totalWorkers

theorem Agrees.refl (self : Idle) : self.Agrees self := ⟨rfl, rfl, rfl⟩

/-- What an operation means for the sessions: it bumps `ANNOUNCE`, or it leaves that and, if
it changes what is in force, has the bump before it. -/
inductive CallEffect (idle : Idle) (point : IdlePoint) : Idle × IdlePoint → Prop
  | bumps {after : Idle} {later : IdlePoint} (bump : point.announces = true)
      (announce : after.announce = idle.announce + 1) :
      CallEffect idle point (after, later)
  | keeps {after : Idle} {later : IdlePoint} (announce : after.announce = idle.announce)
      (agrees : idle.Agrees after) (owes : point.owes = true → later.owes = true) :
      CallEffect idle point (after, later)
  | changes {after : Idle} {later : IdlePoint} (announce : after.announce = idle.announce)
      (owes : later.owes = true) :
      CallEffect idle point (after, later)

theorem perform_effect (config : IdleConfig) (self : Idle) {point : IdlePoint}
    (later : point.party ≠ some .engine) :
    self.CallEffect point (self.perform config false point) := by
  have unowed {owed : Prop} : false = true → owed := fun owes => absurd owes Bool.false_ne_true
  cases point with
  | enterAnnounce | exitAnnounce | lostAnnounce => exact .bumps rfl rfl
  | enterDeclared | enterOffset | exitDeclared total => exact .changes rfl rfl
  | lostExchange worker current =>
    rw [perform]
    split
    · exact .changes rfl rfl
    · exact .keeps rfl (.refl self) unowed
  | enterLimit | exitLimit | exitTotal | lostCleared worker =>
    exact .keeps rfl ⟨rfl, rfl, rfl⟩ fun _ => rfl
  | windowRestart window nowMs | windowRestarted window nowMs | windowAdd window nowMs =>
    cases window <;> exact .keeps rfl ⟨rfl, rfl, rfl⟩ unowed
  | pathJoined worker offset =>
    rw [perform]
    split
    · exact .keeps rfl ⟨rfl, rfl, rfl⟩ unowed
    · exact .keeps rfl (.refl self) unowed
  | resetTotal | resetDeclared | resetLimit | resetActive | resetOffset | resetAnnounce
  | resetJoined => exact absurd rfl later
  | _ => exact .keeps rfl ⟨rfl, rfl, rfl⟩ unowed

theorem agrees_noteJoined (self : Idle) (worker : Nat) (offset : U64) :
    self.Agrees (Registrant.noteJoined self worker offset) ∧
      (Registrant.noteJoined self worker offset).announce = self.announce := by
  rw [Registrant.noteJoined]
  split
  · exact ⟨⟨rfl, rfl, rfl⟩, rfl⟩
  · exact ⟨.refl self, rfl⟩

theorem Agrees.declaredCount {self after : Idle} (agrees : self.Agrees after) :
    after.declaredCount = self.declaredCount := by
  rw [Idle.declaredCount, Idle.declaredCount, agrees.declared, agrees.totalWorkers]

end Idle

namespace RegistrationPayload

/-- The payload carries the offset and the count that are in force. -/
def current (payload : RegistrationPayload) (base : U64) (idle : Idle) : Bool :=
  payload.generation = saturatingAdd base idle.genOffset ∧
    payload.declared = max idle.declaredCount 1

theorem current_agrees {payload : RegistrationPayload} {base : U64} {idle after : Idle}
    (agrees : idle.Agrees after) : payload.current base after = payload.current base idle := by
  rw [current, current, agrees.genOffset, agrees.declaredCount]

end RegistrationPayload

namespace Registrant

/-- The payload that the session put on its writer last carries what is in force. -/
def current (self : Registrant) (idle : Idle) : Bool :=
  self.sent.getLast?.any (·.current self.base idle)

/-- As far as it has come with its announcement, the session has read what is in force. -/
def Fresh (self : Registrant) (idle : Idle) : Prop :=
  match self.point with
  | .offset .announcement carried => carried = idle.genOffset
  | .declared .announcement carried _ => carried = idle.genOffset
  | .total .announcement carried _ => carried = idle.genOffset ∧ idle.declared = 0
  | .sending .announcement payload => payload.current self.base idle = true
  | .joining .announcement _ _ => self.current idle = true
  | .checking => self.current idle = true
  | .waiting => self.current idle = true
  | _ => True

/-- The session has read what is in force, or will be told of a change: `ANNOUNCE` has moved
on, or a call will still move it. -/
def Covered (self : Registrant) (idle : Idle) (owed : Bool) : Prop :=
  self.Fresh idle ∨ self.seen ≠ idle.announce ∨ owed = true

variable {self moved : Registrant} {idle after : Idle} {owed : Bool} {choice : RegistrantChoice}

theorem current_agrees (agrees : idle.Agrees after) : self.current after = self.current idle := by
  simp only [current, RegistrationPayload.current_agrees agrees]

theorem fresh_agrees (agrees : idle.Agrees after) (fresh : self.Fresh idle) :
    self.Fresh after := by
  have same : self.current after = self.current idle := current_agrees agrees
  cases point : self.point with
  | offset occasion carried | declared occasion carried offset =>
    cases occasion with
    | attempt number => simp only [Fresh, point]
    | announcement =>
      simp only [Fresh, point] at fresh ⊢
      exact fresh.trans agrees.genOffset.symm
  | total occasion carried offset =>
    cases occasion with
    | attempt number => simp only [Fresh, point]
    | announcement =>
      simp only [Fresh, point] at fresh ⊢
      exact ⟨fresh.1.trans agrees.genOffset.symm, agrees.declared.trans fresh.2⟩
  | sending occasion payload =>
    cases occasion with
    | attempt number => simp only [Fresh, point]
    | announcement =>
      simp only [Fresh, point] at fresh ⊢
      exact (RegistrationPayload.current_agrees agrees).trans fresh
  | joining occasion offset payload =>
    cases occasion with
    | attempt number => simp only [Fresh, point]
    | announcement =>
      simp only [Fresh, point] at fresh ⊢
      exact same.trans fresh
  | checking | waiting =>
    simp only [Fresh, point] at fresh ⊢
    exact same.trans fresh
  | _ => simp only [Fresh, point]

/-- The step after which the session waits although it has not just put a payload on its
writer: it captures `ANNOUNCE` for the first time, or its send failed. -/
def settling (self : Registrant) : RegistrantChoice → Bool
  | .go => self.point = .capturing
  | .failed =>
      match self.point with
      | .sending .announcement _ => true
      | _ => false
  | _ => false

/-- What a settling session is to find: the last payload is current, or it will be told. The
first capture takes `ANNOUNCE` as it is. -/
def Settles (self : Registrant) (idle : Idle) (owed : Bool) : Prop :=
  self.current idle = true ∨ (self.point ≠ .capturing ∧ self.seen ≠ idle.announce) ∨ owed = true

instance (self : Registrant) (idle : Idle) (owed : Bool) : Decidable (self.Settles idle owed) :=
  inferInstanceAs (Decidable (_ ∨ _ ∧ _ ∨ _))

/-- A step of another session or a call that bumps nothing. -/
theorem Covered.mono (covered : self.Covered idle owed) {owed' : Bool}
    (agrees : idle.Agrees after) (announce : after.announce = idle.announce)
    (owes : owed = true → owed' = true) : self.Covered after owed' := by
  rcases covered with fresh | moved | owed
  · exact Or.inl (fresh_agrees agrees fresh)
  · exact Or.inr (Or.inl (by rw [announce]; exact moved))
  · exact Or.inr (Or.inr (owes owed))

/-- A step that leaves `seen` and what is in force. -/
theorem Covered.goes (covered : self.Covered idle owed) (seen : moved.seen = self.seen)
    (fresh : self.Fresh idle → moved.Fresh idle) : moved.Covered idle owed := by
  rcases covered with before | later | owed
  · exact Or.inl (fresh before)
  · exact Or.inr (Or.inl (by rw [seen]; exact later))
  · exact Or.inr (Or.inr owed)

/-- The payload from what is in force is current. -/
theorem current_payload {carried offset : U64} {declared : Nat} (same : carried = idle.genOffset)
    (count : declared = idle.declaredCount) :
    (self.payload carried offset declared).current self.base idle = true := by
  simp [RegistrationPayload.current, payload, same, count]

theorem covered_go (covered : self.Covered idle owed)
    (settles : self.settling .go = true → self.Settles idle owed)
    (next : self.next idle .go = some (after, moved)) : moved.Covered after owed := by
  cases there : self.point with
  | generation occasion =>
    simp only [Registrant.next, there] at next
    cases next
    cases occasion with
    | attempt number => exact Or.inl trivial
    | announcement => exact Or.inl rfl
  | offset occasion carried =>
    simp only [Registrant.next, there] at next
    cases next
    cases occasion with
    | attempt number => exact Or.inl trivial
    | announcement =>
      refine covered.goes rfl fun fresh => ?_
      simp only [Fresh, there] at fresh
      exact fresh
  | declared occasion carried offset =>
    simp only [Registrant.next, there] at next
    cases next
    cases occasion with
    | attempt number =>
      refine Or.inl ?_
      by_cases none : idle.declared = 0
      · simp only [none, if_true, goTo, Fresh]
      · simp only [none, if_false, goTo, Fresh]
    | announcement =>
      refine covered.goes rfl fun fresh => ?_
      simp only [Fresh, there] at fresh
      by_cases none : idle.declared = 0
      · simp only [none, if_true, goTo, Fresh]
        exact ⟨fresh, trivial⟩
      · simp only [none, if_false, goTo, Fresh]
        exact current_payload fresh (by rw [Idle.declaredCount, if_neg none])
  | total occasion carried offset =>
    simp only [Registrant.next, there] at next
    cases next
    cases occasion with
    | attempt number => exact Or.inl trivial
    | announcement =>
      refine covered.goes rfl fun fresh => ?_
      simp only [Fresh, there] at fresh
      exact current_payload fresh.1 (by rw [Idle.declaredCount, if_pos fresh.2])
  | sending occasion payload =>
    simp only [Registrant.next, there] at next
    cases next
    cases occasion with
    | attempt number => exact Or.inl trivial
    | announcement =>
      refine covered.goes rfl fun fresh => ?_
      simp only [Fresh, there] at fresh
      simp only [Fresh, goTo, sentPoint, current, List.getLast?_concat, Option.any_some]
      exact fresh
  | joining occasion offset payload =>
    simp only [Registrant.next, there] at next
    cases next
    obtain ⟨agrees, announce⟩ := idle.agrees_noteJoined self.worker offset
    cases occasion with
    | attempt number => exact Or.inl trivial
    | announcement =>
      have noted : Covered { self.goTo .checking with noted := self.noted ++ [(offset, payload)] }
          idle owed := by
        refine covered.goes rfl fun fresh => ?_
        simp only [Fresh, there] at fresh
        exact fresh
      exact noted.mono agrees announce id
  | capturing =>
    simp only [Registrant.next, there] at next
    cases next
    rcases settles (by simp [settling, there]) with fresh | ⟨other, -⟩ | owed
    · exact Or.inl fresh
    · exact absurd there other
    · exact Or.inr (Or.inr owed)
  | checking =>
    simp only [Registrant.next, there] at next
    cases next
    refine covered.goes rfl fun fresh => ?_
    simp only [Fresh, there] at fresh
    by_cases same : idle.announce ≠ self.seen
    · rw [if_pos same]
      trivial
    · rw [if_neg same]
      exact fresh
  | waiting =>
    simp only [Registrant.next, there] at next
    cases next
    refine covered.goes rfl fun fresh => ?_
    simp only [Fresh, there] at fresh
    exact fresh
  | changed =>
    simp only [Registrant.next, there] at next
    cases next
    exact Or.inl trivial
  | awaiting | ended =>
    simp only [Registrant.next, there] at next
    cases next

/-- The step lemma of a session. -/
theorem covered_next (covered : self.Covered idle owed)
    (settles : self.settling choice = true → self.Settles idle owed)
    (next : self.next idle choice = some (after, moved)) : moved.Covered after owed := by
  cases choice with
  | go => exact covered_go covered settles next
  | failed =>
    cases there : self.point with
    | sending occasion payload =>
      simp only [Registrant.next, there] at next
      cases next
      cases occasion with
      | attempt number => exact Or.inl trivial
      | announcement =>
        rcases settles (by simp [settling, there]) with fresh | ⟨-, later⟩ | owed
        · exact Or.inl fresh
        · exact Or.inr (Or.inl later)
        · exact Or.inr (Or.inr owed)
    | _ =>
      simp only [Registrant.next, there] at next
      cases next
  | answered place =>
    cases there : self.point with
    | awaiting number payload =>
      cases found : self.sent[place]? with
      | none =>
        simp only [Registrant.next, there, found] at next
        cases next
      | some answered =>
        simp only [Registrant.next, there, found] at next
        cases next
        exact Or.inl trivial
    | _ =>
      simp only [Registrant.next, there] at next
      cases next
  | unconfigured =>
    cases there : self.point with
    | awaiting number payload =>
      simp only [Registrant.next, there] at next
      cases next
      exact Or.inl trivial
    | _ =>
      simp only [Registrant.next, there] at next
      cases next
  | timeout =>
    cases there : self.point with
    | awaiting number payload =>
      simp only [Registrant.next, there] at next
      cases next
      by_cases again : number + 1 < configAttempts
      · simp only [again, if_true]
        exact Or.inl trivial
      · simp only [again, if_false]
        exact Or.inl trivial
    | _ =>
      simp only [Registrant.next, there] at next
      cases next
  | ends =>
    cases next
    exact Or.inl trivial

/-- A session touches nothing of the idle state but its own slot, and sees `ANNOUNCE` as it
is. -/
theorem next_spec (next : self.next idle choice = some (after, moved)) :
    (after = idle ∨ ∃ offset, after = noteJoined idle self.worker offset) ∧
      (moved.seen = self.seen ∨ moved.seen = idle.announce) := by
  cases choice with
  | go =>
    cases there : self.point with
    | joining occasion offset payload =>
      simp only [Registrant.next, there] at next
      cases next
      exact ⟨Or.inr ⟨offset, rfl⟩, Or.inl rfl⟩
    | capturing | changed =>
      simp only [Registrant.next, there] at next
      cases next
      exact ⟨Or.inl rfl, Or.inr rfl⟩
    | awaiting | ended =>
      simp only [Registrant.next, there] at next
      cases next
    | _ =>
      simp only [Registrant.next, there] at next
      cases next
      exact ⟨Or.inl rfl, Or.inl rfl⟩
  | ends =>
    cases next
    exact ⟨Or.inl rfl, Or.inl rfl⟩
  | failed | answered | unconfigured | timeout =>
    simp only [Registrant.next] at next
    split at next
    · cases next
      exact ⟨Or.inl rfl, Or.inl rfl⟩
    · cases next

theorem next_idle (next : self.next idle choice = some (after, moved)) :
    idle.Agrees after ∧ after.announce = idle.announce := by
  rcases (next_spec next).1 with rfl | ⟨offset, rfl⟩
  · exact ⟨.refl _, rfl⟩
  · exact idle.agrees_noteJoined self.worker offset

/-- What the session remembers as its offset is what its payload carries. -/
def RemembersAt : RegistrantPoint → Prop
  | .declared _ carried offset => offset = carried
  | .total _ carried offset => offset = carried
  | .sending _ payload => payload.offset = payload.carried
  | .awaiting _ payload => payload.offset = payload.carried
  | .joining _ offset payload => offset = payload.carried
  | _ => True

/-- The session noted, for every payload, the offset that it carried. -/
def Faithful (self : Registrant) : Prop := ∀ joined ∈ self.noted, joined.1 = joined.2.carried

/-- The offset that the next operation is to read again. -/
def reread : RegistrantPoint → Option U64
  | .offset _ carried => some carried
  | _ => none

/-- The payload sent last, if an answer is awaited. -/
def awaited : RegistrantPoint → Option RegistrationPayload
  | .awaiting _ payload => some payload
  | _ => none

/-- Between the two reads for one payload the offset stays, and an answer is for a payload
with the offset of the last one. -/
def Steady (self : Registrant) (idle : Idle) : RegistrantChoice → Prop
  | .go => ∀ carried ∈ reread self.point, idle.genOffset = carried
  | .answered place => ∀ payload ∈ awaited self.point, ∀ answered ∈ self.sent[place]?,
      answered.carried = payload.carried
  | _ => True

instance (self : Registrant) (idle : Idle) (choice : RegistrantChoice) :
    Decidable (self.Steady idle choice) :=
  match choice with
  -- Not by trying all offsets.
  | .go => Option.decidableForallMem (reread self.point)
  | .answered place => inferInstanceAs (Decidable (∀ payload ∈ awaited self.point,
      ∀ answered ∈ self.sent[place]?, answered.carried = payload.carried))
  | .failed => isTrue trivial
  | .unconfigured => isTrue trivial
  | .timeout => isTrue trivial
  | .ends => isTrue trivial

/-- The step lemma of a session. -/
theorem remembers_next (remembers : RemembersAt self.point) (faithful : self.Faithful)
    (steady : self.Steady idle choice) (next : self.next idle choice = some (after, moved)) :
    RemembersAt moved.point ∧ moved.Faithful := by
  cases choice with
  | go =>
    cases there : self.point with
    | offset occasion carried =>
      simp only [Registrant.next, there] at next
      cases next
      exact ⟨steady carried (by rw [there, reread]; rfl), faithful⟩
    | declared occasion carried offset =>
      simp only [Registrant.next, there] at next
      cases next
      simp only [RemembersAt, there] at remembers
      refine ⟨?_, faithful⟩
      by_cases none : idle.declared = 0
      · simp only [none, if_true, goTo]
        exact remembers
      · simp only [none, if_false, goTo]
        exact remembers
    | total occasion carried offset =>
      simp only [Registrant.next, there] at next
      cases next
      simp only [RemembersAt, there] at remembers
      exact ⟨remembers, faithful⟩
    | sending occasion payload =>
      simp only [Registrant.next, there] at next
      cases next
      simp only [RemembersAt, there] at remembers
      cases occasion with
      | attempt number => exact ⟨remembers, faithful⟩
      | announcement => exact ⟨remembers, faithful⟩
    | joining occasion offset payload =>
      simp only [Registrant.next, there] at next
      cases next
      simp only [RemembersAt, there] at remembers
      refine ⟨?_, fun joined mem => ?_⟩
      · cases occasion with
        | attempt number => trivial
        | announcement => trivial
      · obtain old | new := List.mem_append.mp mem
        · exact faithful joined old
        · rw [List.mem_singleton.mp new]
          exact remembers
    | checking =>
      simp only [Registrant.next, there] at next
      cases next
      refine ⟨?_, faithful⟩
      by_cases same : idle.announce ≠ self.seen
      · rw [if_pos same]
        trivial
      · rw [if_neg same]
        trivial
    | generation | capturing | waiting | changed =>
      simp only [Registrant.next, there] at next
      cases next
      exact ⟨trivial, faithful⟩
    | awaiting | ended =>
      simp only [Registrant.next, there] at next
      cases next
  | answered place =>
    cases there : self.point with
    | awaiting number payload =>
      cases found : self.sent[place]? with
      | none =>
        simp only [Registrant.next, there, found] at next
        cases next
      | some answered =>
        simp only [Registrant.next, there, found] at next
        cases next
        simp only [RemembersAt, there] at remembers
        have same := steady payload (by rw [there, awaited]; rfl) answered found
        exact ⟨remembers.trans same.symm, faithful⟩
    | _ =>
      simp only [Registrant.next, there] at next
      cases next
  | failed =>
    cases there : self.point with
    | sending occasion payload =>
      simp only [Registrant.next, there] at next
      cases next
      cases occasion with
      | attempt number => exact ⟨trivial, faithful⟩
      | announcement => exact ⟨trivial, faithful⟩
    | _ =>
      simp only [Registrant.next, there] at next
      cases next
  | unconfigured =>
    cases there : self.point with
    | awaiting number payload =>
      simp only [Registrant.next, there] at next
      cases next
      exact ⟨trivial, faithful⟩
    | _ =>
      simp only [Registrant.next, there] at next
      cases next
  | timeout =>
    cases there : self.point with
    | awaiting number payload =>
      simp only [Registrant.next, there] at next
      cases next
      refine ⟨?_, faithful⟩
      by_cases again : number + 1 < configAttempts
      · simp only [again, if_true, goTo]
        trivial
      · simp only [again, if_false, goTo]
        trivial
    | _ =>
      simp only [Registrant.next, there] at next
      cases next
  | ends =>
    cases next
    exact ⟨trivial, faithful⟩

end Registrant

namespace Registering

/-- A call is in progress that will bump `ANNOUNCE`. -/
def owed (self : Registering) : Bool := self.calls.any (·.owes)

/-- While no idle call is in progress, a session that waits with the current `ANNOUNCE` put a
payload on its writer last that carries the offset and the count in force. -/
def Consistent (self : Registering) : Prop :=
  (∀ point ∈ self.calls, point = .ended) → ∀ session ∈ self.sessions,
    session.point = .waiting → session.seen = self.idle.announce →
    ∃ payload, session.sent.getLast? = some payload ∧
      payload.generation = saturatingAdd session.base self.idle.genOffset ∧
      payload.declared = max self.idle.declaredCount 1

/-- A session that settles finds its last payload current, or will be told; and a bump does
not meet the largest number. -/
def Settles (self : Registering) : RegisteringEvent → Prop
  | .run index => ∀ point ∈ self.calls[index]?, point.announces = true →
      self.idle.announce ≠ BitVec.allOnes 64
  | .move index choice => ∀ session ∈ self.sessions[index]?, session.settling choice = true →
      session.Settles self.idle self.owed
  | _ => True

instance : DecidableRel Settles := fun self event =>
  match event with
  | .run index => inferInstanceAs (Decidable (∀ point ∈ self.calls[index]?, _ → _))
  | .move index _ => inferInstanceAs (Decidable (∀ session ∈ self.sessions[index]?, _ → _))
  | .call _ => isTrue trivial
  | .begin _ _ => isTrue trivial

structure Sound (run : Registering) : Prop where
  later : ∀ point ∈ run.calls, point.party ≠ some .engine
  behind : ∀ session ∈ run.sessions, session.seen.toNat ≤ run.idle.announce.toNat
  covered : ∀ session ∈ run.sessions, session.Covered run.idle run.owed

variable {config : IdleConfig} {self : Registering}

theorem sound_start (idle : Idle) : (start idle).Sound where
  later _ mem := by cases mem
  behind _ mem := by cases mem
  covered _ mem := by cases mem

theorem Sound.consistent (sound : self.Sound) : self.Consistent := by
  intro quiet session mem waits seen
  have none : self.owed = false := by
    rw [owed, List.any_eq_false]
    intro point there
    rw [quiet point there]
    exact Bool.false_ne_true
  rcases sound.covered session mem with fresh | later | owed
  · simp only [Registrant.Fresh, waits, Registrant.current, Option.any_eq_true] at fresh
    obtain ⟨payload, last, current⟩ := fresh
    simp only [RegistrationPayload.current, decide_eq_true_eq] at current
    exact ⟨payload, last, current⟩
  · exact absurd seen later
  · rw [none] at owed
    cases owed

/-- A call that moves on keeps the bumps that are owed, if it keeps its own. -/
theorem owed_set {index : Nat} {point after : IdlePoint} (found : self.calls[index]? = some point)
    (owes : point.owes = true → after.owes = true) (owed : self.owed = true) :
    (self.calls.set index after).any (·.owes) = true := by
  obtain ⟨bound, -⟩ := List.getElem?_eq_some_iff.mp found
  obtain ⟨other, mem, debt⟩ := List.any_eq_true.mp owed
  obtain ⟨place, there⟩ := List.getElem?_of_mem mem
  rw [List.any_eq_true]
  by_cases same : index = place
  · subst same
    cases found.symm.trans there
    exact ⟨after, List.mem_set bound after, owes debt⟩
  · refine ⟨other, List.mem_of_getElem? (i := place) ?_, debt⟩
    rw [List.getElem?_set_ne same, there]

/-- One operation of an idle call. -/
theorem Sound.run (sound : self.Sound) {index : Nat} (settles : self.Settles (.run index)) :
    (self.step config (.run index)).1.Sound := by
  simp only [step]
  split
  · exact sound
  · next point found =>
      have mem := List.mem_of_getElem? found
      have effect := self.idle.perform_effect config (sound.later point mem)
      have party := self.idle.perform_party config false point
      generalize self.idle.perform config false point = performed at effect party ⊢
      have bound := (List.getElem?_eq_some_iff.mp found).1
      have later : ∀ other ∈ self.calls.set index performed.2, other.party ≠ some .engine := by
        intro other there
        obtain old | rfl := List.mem_or_eq_of_mem_set there
        · exact sound.later other old
        · rcases party with lost | same
          · rw [lost]
            exact nofun
          · rw [same]
            exact sound.later point mem
      cases effect with
      | @bumps idle after bump announce =>
        have room := settles point found bump
        have more : idle.announce.toNat = self.idle.announce.toNat + 1 := by
          rw [announce, toNat_add_one room]
        refine ⟨later, fun session there => ?_, fun session there => ?_⟩
        · rw [more]
          exact Nat.le_succ_of_le (sound.behind session there)
        · refine Or.inr (Or.inl fun same => ?_)
          have behind := sound.behind session there
          rw [same, more] at behind
          exact Nat.not_succ_le_self _ behind
      | @keeps idle after announce agrees owes =>
        refine ⟨later, fun session there => ?_, fun session there => ?_⟩
        · rw [announce]
          exact sound.behind session there
        · exact (sound.covered session there).mono agrees announce (owed_set found owes)
      | @changes idle after announce owes =>
        refine ⟨later, fun session there => ?_, fun session there => ?_⟩
        · rw [announce]
          exact sound.behind session there
        · exact Or.inr (Or.inr (List.any_eq_true.mpr ⟨after, List.mem_set bound after, owes⟩))

theorem Sound.move (sound : self.Sound) {index : Nat} {choice : RegistrantChoice}
    (settles : self.Settles (.move index choice)) :
    (self.step config (.move index choice)).1.Sound := by
  simp only [step]
  split
  · exact sound
  · next idle moved found =>
      obtain ⟨session, there, next⟩ := Option.bind_eq_some_iff.mp found
      obtain ⟨agrees, announce⟩ := Registrant.next_idle next
      have mem := List.mem_of_getElem? there
      refine ⟨sound.later, fun other inside => ?_, fun other inside => ?_⟩
      · obtain old | rfl := List.mem_or_eq_of_mem_set inside
        · rw [announce]
          exact sound.behind other old
        · rcases (Registrant.next_spec next).2 with same | same
          · rw [announce, same]
            exact sound.behind session mem
          · rw [announce, same]
      · obtain old | rfl := List.mem_or_eq_of_mem_set inside
        · exact (sound.covered other old).mono agrees announce id
        · exact Registrant.covered_next (sound.covered session mem) (settles session there) next

theorem Sound.step (sound : self.Sound) {event : RegisteringEvent} (settles : self.Settles event) :
    (Registering.step config self event).1.Sound := by
  cases event with
  | call idleCall =>
    refine ⟨fun point mem => ?_, sound.behind, fun session mem => ?_⟩
    · obtain old | new := List.mem_append.mp mem
      · exact sound.later point old
      · rw [List.mem_singleton.mp new]
        cases idleCall <;> exact nofun
    · refine (sound.covered session mem).mono (.refl self.idle) rfl fun owed => ?_
      rw [Registering.owed, Registering.step, List.any_append, Bool.or_eq_true]
      exact Or.inl owed
  | run index => exact sound.run settles
  | begin worker base =>
    refine ⟨sound.later, fun session mem => ?_, fun session mem => ?_⟩
    · obtain old | new := List.mem_append.mp mem
      · exact sound.behind session old
      · rw [List.mem_singleton.mp new]
        exact Nat.zero_le _
    · obtain old | new := List.mem_append.mp mem
      · exact sound.covered session old
      · rw [List.mem_singleton.mp new]
        exact Or.inl trivial
  | move index choice => exact sound.move settles

/-- In every run whose steps all settle, a session that waits with the current `ANNOUNCE` has
registered with what is in force, whenever no idle call is in progress. -/
theorem announce_consistent (config : IdleConfig) (idle : Idle) (events : List RegisteringEvent)
    (settles : Transducer.AtEveryStep (Registering.step config) (start idle) events Settles) :
    Transducer.Throughout (Registering.step config) (start idle) events Consistent := by
  intro consumed within
  have keeps (state : Registering) (event : RegisteringEvent) (sound : state.Sound)
      (settles : state.Settles event) : (Registering.step config state event).1.Sound :=
    sound.step settles
  have sound := Transducer.invariant_of_atEveryStep (Registering.step config) keeps
    (sound_start idle) (settles.of_prefix within)
  exact sound.consistent

/-- A session registers, then the engine goes idle, and the session registers anew. -/
theorem announce_consistent_once :
    let events : List RegisteringEvent :=
      .begin 1 5 :: List.replicate 5 (.move 0 .go) ++ .move 0 (.answered 0) ::
        List.replicate 3 (.move 0 .go) ++ .call .enter :: List.replicate 8 (.run 0) ++
        List.replicate 9 (.move 0 .go)
    Transducer.AtEveryStep (step ⟨2, 1000⟩) (start (afterReset 4)) events Settles ∧
      Transducer.Throughout (step ⟨2, 1000⟩) (start (afterReset 4)) events Consistent :=
  ⟨by decide, announce_consistent ⟨2, 1000⟩ (afterReset 4) _ (by decide)⟩

/-- The engine goes idle between a session's GETCONF and its first look at `ANNOUNCE`: the
session waits for the next announcement, registered with an offset that is not in force. -/
theorem announce_outdated :
    let events : List RegisteringEvent :=
      .begin 1 5 :: List.replicate 4 (.move 0 .go) ++ .call .enter :: List.replicate 8 (.run 0) ++
        .move 0 (.answered 0) :: List.replicate 3 (.move 0 .go)
    ¬ Transducer.Throughout (step ⟨2, 1000⟩) (start (afterReset 4)) events Consistent := by
  intro events consistent
  let waiting : Registrant := ⟨1, 5, .waiting, 1, [⟨5, 4, 0, 0⟩], [(0, ⟨5, 4, 0, 0⟩)]⟩
  obtain ⟨payload, last, offset, -⟩ := consistent events (List.prefix_refl events) (by decide)
    waiting (by decide) rfl (by decide)
  cases last
  exact absurd offset (by decide)

/-- All sessions noted the offsets that their payloads carried. -/
def Faithful (self : Registering) : Prop := ∀ session ∈ self.sessions, session.Faithful

/-- A session finds the offset as it was. -/
def Steady (self : Registering) : RegisteringEvent → Prop
  | .move index choice => ∀ session ∈ self.sessions[index]?, session.Steady self.idle choice
  | _ => True

instance : DecidableRel Steady := fun self event =>
  match event with
  | .move index _ => inferInstanceAs (Decidable (∀ session ∈ self.sessions[index]?, _))
  | .call _ => isTrue trivial
  | .run _ => isTrue trivial
  | .begin _ _ => isTrue trivial

def Remembers (self : Registering) : Prop :=
  ∀ session ∈ self.sessions, Registrant.RemembersAt session.point ∧ session.Faithful

theorem Remembers.step (remembers : self.Remembers) {event : RegisteringEvent}
    (steady : self.Steady event) : (Registering.step config self event).1.Remembers := by
  cases event with
  | call idleCall => exact remembers
  | run index =>
    simp only [Registering.step]
    split
    · exact remembers
    · exact remembers
  | begin worker base =>
    intro session mem
    obtain old | new := List.mem_append.mp mem
    · exact remembers session old
    · rw [List.mem_singleton.mp new]
      exact ⟨trivial, nofun⟩
  | move index choice =>
    simp only [Registering.step]
    split
    · exact remembers
    · next idle moved found =>
        obtain ⟨session, there, next⟩ := Option.bind_eq_some_iff.mp found
        obtain ⟨before, faithful⟩ := remembers session (List.mem_of_getElem? there)
        intro other inside
        obtain old | rfl := List.mem_or_eq_of_mem_set inside
        · exact remembers other old
        · exact Registrant.remembers_next before faithful (steady session there) next

/-- In every run whose steps are all steady, what a session notes is the offset that the
answered payload carried, or the one that it announced anew. -/
theorem joined_faithful (config : IdleConfig) (idle : Idle) (events : List RegisteringEvent)
    (steady : Transducer.AtEveryStep (Registering.step config) (start idle) events Steady) :
    Transducer.Throughout (Registering.step config) (start idle) events Faithful := by
  intro consumed within
  have keeps (state : Registering) (event : RegisteringEvent) (remembers : state.Remembers)
      (steady : state.Steady event) : (Registering.step config state event).1.Remembers :=
    remembers.step steady
  have initial : (start idle).Remembers := nofun
  have remembers := Transducer.invariant_of_atEveryStep (Registering.step config) keeps initial
    (steady.of_prefix within)
  exact fun session mem => (remembers session mem).2

/-- The engine goes idle after a session has registered, which then registers anew. -/
theorem joined_faithful_once :
    let events : List RegisteringEvent :=
      .begin 1 5 :: List.replicate 5 (.move 0 .go) ++ .move 0 (.answered 0) ::
        List.replicate 3 (.move 0 .go) ++ .call .enter :: List.replicate 8 (.run 0) ++
        List.replicate 9 (.move 0 .go)
    Transducer.AtEveryStep (step ⟨2, 1000⟩) (start (afterReset 4)) events Steady ∧
      Transducer.Throughout (step ⟨2, 1000⟩) (start (afterReset 4)) events Faithful :=
  ⟨by decide, joined_faithful ⟨2, 1000⟩ (afterReset 4) _ (by decide)⟩

/-- The engine goes idle between two attempts. The answer to the first is taken for one to
the second: the session notes an offset that the answered payload did not carry. -/
theorem joined_unfaithful :
    let events : List RegisteringEvent :=
      .begin 1 5 :: List.replicate 4 (.move 0 .go) ++ .call .enter :: List.replicate 8 (.run 0) ++
        .move 0 .timeout :: List.replicate 4 (.move 0 .go) ++ [.move 0 (.answered 0), .move 0 .go]
    ¬ Transducer.Throughout (step ⟨2, 1000⟩) (start (afterReset 4)) events Faithful := by
  intro events faithful
  let joined : Registrant :=
    ⟨1, 5, .capturing, 0, [⟨5, 4, 0, 0⟩, ⟨6, 2, 1, 1⟩], [(1, ⟨5, 4, 0, 0⟩)]⟩
  have noted := faithful events (List.prefix_refl events) joined (by decide) (1, ⟨5, 4, 0, 0⟩)
    (List.mem_singleton.mpr rfl)
  exact absurd noted (by decide)

end Registering

end Csqtt
