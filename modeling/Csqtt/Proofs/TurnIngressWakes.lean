/-
Module: Csqtt.Proofs.TurnIngressWakes
Purpose: The reader of a relay client's payloads does not sleep while there is one for it, and
  stops at a failure.
Trusted boundary: none
Main exports: Wakes, Prompt, Hears, Failed, ingress_wakes, ingress_fails
-/
import Csqtt.Engine.TurnIngress

namespace Csqtt

/-!
### Sleep and wake-ups
-/

/-- The reader is not on the list of the notifier, and has not looked at it yet. -/
def RecvPoint.apart : RecvPoint → Bool
  | .idle | .terminal | .popFirst | .announce | .popAgain _ | .claim _ | .enlist _ => true
  | _ => false

/-- The reader has found the stash empty and is about to look at the notifier. -/
def RecvPoint.asks : RecvPoint → Bool
  | .claim _ | .enlist _ => true
  | _ => false

/-- The reader looks at the reason to end before it waits again, or leaves. -/
def RecvPoint.looks : RecvPoint → Bool
  | .idle | .terminal | .leave _ => true
  | _ => false

/-- The reader is on the list of the notifier. -/
def RecvPoint.listens : RecvPoint → Bool
  | .state | .incoming | .parked | .woken => true
  | _ => false

namespace TurnIngress

variable {self : TurnIngress}

/-- There is something in the stash that the reader has been told of. -/
def Announced (self : TurnIngress) : Prop := self.stash.items ≠ [] ∧ self.locked = false

/-- Whatever the stash holds, the reader has yet to look there or has been told. -/
structure Wakes (ingress : TurnIngress) : Prop where
  absent : ingress.receiver.apart = true → ingress.notify.waiter = .absent
  listed : ingress.receiver.listens = true → ingress.notify.waiter ≠ .absent
  kept : ingress.receiver.asks = true → ingress.Announced → ingress.notify.permit = true
  told : ingress.receiver.listens = true → ingress.Announced → ingress.notify.waiter ≠ .waiting

theorem Wakes.start : start.Wakes where
  absent := fun _ => rfl
  listed := nofun
  kept := nofun
  told := nofun

/-- Whoever leaves the reader and the notifier alone, and announces nothing. -/
theorem Wakes.frame (wakes : self.Wakes) {later : TurnIngress}
    (receiver : later.receiver = self.receiver) (notify : later.notify = self.notify)
    (announced : later.Announced → self.Announced) : later.Wakes where
  absent := by
    rw [receiver, notify]
    exact wakes.absent
  listed := by
    rw [receiver, notify]
    exact wakes.listed
  kept := by
    rw [receiver, notify]
    exact fun asks told => wakes.kept asks (announced told)
  told := by
    rw [receiver, notify]
    exact fun listens told => wakes.told listens (announced told)

/-- The reader is off the list, and does not look at the notifier next. -/
theorem Wakes.of_apart {later : TurnIngress} (asks : later.receiver.asks = false)
    (listens : later.receiver.listens = false)
    (absent : later.receiver.apart = true → later.notify.waiter = .absent) : later.Wakes where
  absent := absent
  listed := by
    rw [listens]
    exact nofun
  kept := by
    rw [asks]
    exact nofun
  told := by
    rw [listens]
    exact nofun

/-- The reader stays on the list. -/
theorem Wakes.goOn (wakes : self.Wakes) {point : RecvPoint}
    (before : self.receiver.listens = true) (apart : point.apart = false)
    (asks : point.asks = false) : (self.goOn point).Wakes where
  absent := by
    change point.apart = true → _
    rw [apart]
    exact nofun
  listed := fun _ => wakes.listed before
  kept := by
    change point.asks = true → _
    rw [asks]
    exact nofun
  told := fun _ => wakes.told before

theorem Wakes.popProtected (wakes : self.Wakes) (before : self.receiver.apart = true)
    {otherwise : RecvPoint} (listens : otherwise.listens = false) :
    (self.popProtected otherwise).Wakes := by
  have absent := wakes.absent before
  rw [TurnIngress.popProtected]
  split
  · exact wakes
  · cases popped : self.stash.pop with
    | some taken => exact .of_apart rfl rfl fun _ => absent
    | none =>
        have empty : self.stash.items = [] := ArrayQueue.pop_eq_none.mp popped
        exact
          { absent := fun _ => absent
            listed := by
              change otherwise.listens = true → _
              rw [listens]
              exact nofun
            kept := fun _ announced => absurd empty announced.1
            told := by
              change otherwise.listens = true → _
              rw [listens]
              exact nofun }

theorem Wakes.poll (wakes : self.Wakes) : self.poll.Wakes := by
  have apart : self.receiver.apart = true → self.notify.waiter = .absent := wakes.absent
  rw [TurnIngress.poll]
  cases stands : self.receiver with
  | idle => exact wakes
  | terminal =>
      rw [stands] at apart
      cases self.terminalReason with
      | some reason => exact .of_apart rfl rfl fun _ => apart rfl
      | none => exact .of_apart rfl rfl fun _ => apart rfl
  | popFirst => exact wakes.popProtected (by rw [stands]; rfl) rfl
  | announce =>
      rw [stands] at apart
      exact .of_apart rfl rfl fun _ => apart rfl
  | popAgain seen => exact wakes.popProtected (by rw [stands]; rfl) rfl
  | claim seen =>
      rw [stands] at apart
      cases claimed : self.notify.claim with
      | some notify =>
          exact .of_apart rfl rfl fun _ => (Notify.waiter_claim claimed).trans (apart rfl)
      | none =>
          exact
            { absent := fun _ => apart rfl
              listed := by intro stood; cases stood
              kept := fun _ => wakes.kept (by rw [stands]; rfl)
              told := by intro stood; cases stood }
  | enlist seen =>
      rw [stands] at apart
      dsimp only
      cases ready : (self.notify.enlist seen).2 with
      | true =>
          rw [if_pos rfl]
          exact .of_apart rfl rfl fun _ => (Notify.waiter_enlist ready).trans (apart rfl)
      | false =>
          rw [if_neg (by decide)]
          obtain ⟨nothing, waiting⟩ := Notify.not_ready_of_enlist ready
          exact
            { absent := by intro stood; cases stood
              listed := by
                intro _
                change (self.notify.enlist seen).1.waiter ≠ .absent
                rw [waiting]
                intro none
                cases none
              kept := by intro stood; cases stood
              told := by
                intro _ announced
                have permit := wakes.kept (by rw [stands]; rfl) announced
                rw [Notify.ready, permit] at nothing
                cases nothing }
  | state =>
      have listens : self.receiver.listens = true := by
        rw [stands]
        rfl
      dsimp only
      split
      · exact .of_apart rfl rfl (by intro outside; cases outside)
      · exact wakes.goOn listens rfl rfl
  | incoming =>
      have listens : self.receiver.listens = true := by
        rw [stands]
        rfl
      cases self.incoming.pop with
      | some taken => exact .of_apart rfl rfl (by intro outside; cases outside)
      | none =>
          dsimp only
          cases self.senderClosed with
          | true => exact .of_apart rfl rfl (by intro outside; cases outside)
          | false => exact wakes.goOn listens rfl rfl
  | parked =>
      have listens : self.receiver.listens = true := by
        rw [stands]
        rfl
      dsimp only
      split
      · exact wakes.goOn listens rfl rfl
      · exact wakes
  | woken =>
      have listens : self.receiver.listens = true := by
        rw [stands]
        rfl
      cases polled : self.notify.poll with
      | some notify => exact .of_apart rfl rfl fun _ => Notify.waiter_of_poll polled
      | none => exact wakes.goOn listens rfl rfl
  | leave next =>
      have absent : self.leaveNotified.notify.waiter = .absent := Notify.waiter_leave self.notify
      cases next with
      | again => exact .of_apart rfl rfl fun _ => absent
      | taken packet => exact .of_apart rfl rfl fun _ => absent
      | closed => exact .of_apart rfl rfl fun _ => absent

theorem Wakes.drive (wakes : self.Wakes) : self.drive.Wakes := by
  rw [TurnIngress.drive]
  cases stands : self.driver with
  | idle => exact wakes
  | ended => exact wakes
  | stashing packet => exact wakes.frame rfl rfl fun announced => by cases announced.2
  | sending packet =>
      have free : self.locked = false := by
        rw [locked, stands]
      dsimp only
      rw [trySend]
      split
      · exact wakes.frame rfl rfl fun announced => ⟨announced.1, free⟩
      · cases self.incoming.push packet with
        | some incoming => exact wakes.frame rfl rfl fun announced => ⟨announced.1, free⟩
        | none =>
            dsimp only
            split
            · exact wakes.frame rfl rfl fun announced => ⟨announced.1, free⟩
            · exact wakes.frame rfl rfl fun announced => ⟨announced.1, free⟩
  | notifying =>
      exact
        { absent := by
            intro apart
            have absent := wakes.absent apart
            change self.notify.notifyOne.waiter = .absent
            rw [Notify.notifyOne, absent]
          listed := by
            intro listens
            have listed := wakes.listed listens
            change self.notify.notifyOne.waiter ≠ .absent
            rw [Notify.notifyOne]
            split
            · intro none
              cases none
            · exact listed
          kept := by
            intro asks _
            have absent : self.notify.waiter = .absent := by
              refine wakes.absent ?_
              change self.receiver.asks = true at asks
              cases point : self.receiver <;> rw [point] at asks <;> first | rfl | cases asks
            refine Notify.permit_notifyOne ?_
            rw [absent]
            intro none
            cases none
          told := fun _ _ => Notify.waiter_notifyOne self.notify }

theorem Wakes.step (wakes : self.Wakes) (event : IngressEvent) : (self.step event).1.Wakes := by
  have same : ∀ {next : TurnIngress}, next.receiver = self.receiver →
      next.notify = self.notify → next.stash = self.stash → self.locked = false →
        next.Wakes := by
    intro next receiver notify stash free
    refine wakes.frame receiver notify fun announced => ⟨?_, free⟩
    rw [← stash]
    exact announced.1
  have free : ∀ {next : TurnIngress}, (self.locked = false → next.Wakes) →
      (self.whenFree next).Wakes := by
    intro next later
    rw [whenFree]
    split
    · next stands =>
        refine later ?_
        rw [locked, stands]
    · exact wakes
  have idle : ∀ {next : TurnIngress}, (self.receiver = .idle → next.Wakes) →
      (self.whenIdle next).Wakes := by
    intro next later
    rw [whenIdle]
    split
    · next stands => exact later stands
    · exact wakes
  cases event with
  | packet wire =>
      refine free fun unlocked => ?_
      rw [TurnIngress.packet]
      split
      · exact same rfl rfl rfl unlocked
      · exact wakes
      · exact wakes
  | deficit wire =>
      refine free fun unlocked => ?_
      rw [processDeficitPacket]
      split
      · split
        · exact same rfl rfl rfl unlocked
        · exact wakes
      · exact wakes
  | drive => exact wakes.drive
  | driverEnds => exact free (same rfl rfl rfl)
  | bind channel => exact free (same rfl rfl rfl)
  | requestCleanup => exact wakes.frame rfl rfl id
  | publish reason => exact wakes.frame rfl rfl id
  | announce => exact wakes.frame rfl rfl id
  | modify => exact wakes.frame rfl rfl id
  | call =>
      refine idle fun stands => ?_
      split
      · exact wakes
      · refine .of_apart rfl rfl fun _ => wakes.absent ?_
        rw [stands]
        rfl
  | poll => exact wakes.poll
  | cancel =>
      dsimp only [TurnIngress.step]
      rw [whenParked]
      split
      · exact .of_apart rfl rfl fun _ => Notify.waiter_leave self.notify
      · exact wakes
  | dropReceiver => exact idle fun _ => wakes.frame rfl rfl id

/-- A reader that sleeps has nothing in the stash, or is about to be woken. -/
theorem Wakes.of_asleep (wakes : self.Wakes) (asleep : self.asleep) :
    self.stash.items = [] ∨ self.locked = true := by
  obtain ⟨parked, still⟩ := asleep
  have listens : self.receiver.listens = true := by
    rw [parked]
    rfl
  by_contra waits
  obtain ⟨some, unlocked⟩ := not_or.mp waits
  have told := wakes.told listens ⟨some, Bool.eq_false_iff.mpr unlocked⟩
  have listed := wakes.listed listens
  rw [awake] at still
  cases waiter : self.notify.waiter with
  | absent => exact listed waiter
  | waiting => exact told waiter
  | one =>
      rw [waiter] at still
      cases still
  | all =>
      rw [waiter] at still
      cases still

/-- Whatever was published, the reader has yet to look at the reason, or to see the change. -/
structure Hears (ingress : TurnIngress) : Prop where
  seen : ingress.seenVersion ≤ ingress.version
  told : ingress.terminal ≠ none →
    ingress.version ≠ ingress.seenVersion ∨ ingress.receiver.looks = true

/-- The reader does not look between the publication of a failure and its announcement. -/
def Prompt (self : TurnIngress) (event : IngressEvent) : Prop :=
  match event with
  | .poll => self.terminal ≠ none → self.terminalPresent = true
  | _ => True

theorem Hears.start : start.Hears where
  seen := Nat.le_refl 0
  told := fun failed => absurd rfl failed

/-- A step that leaves the view and the reader's look at it alone. -/
theorem Hears.frame (hears : self.Hears) {later : TurnIngress}
    (terminal : later.terminal = self.terminal) (version : later.version = self.version)
    (seen : later.seenVersion = self.seenVersion)
    (looks : self.terminal ≠ none → self.version = self.seenVersion →
      later.receiver.looks = true) : later.Hears where
  seen := by
    rw [seen, version]
    exact hears.seen
  told := by
    rw [terminal, version, seen]
    intro failed
    by_cases news : self.version = self.seenVersion
    · exact Or.inr (looks failed news)
    · exact Or.inl news

/-- A change of the view is news to the reader. -/
theorem Hears.changed (hears : self.Hears) {later : TurnIngress}
    (version : later.version = self.version + 1)
    (seen : later.seenVersion = self.seenVersion) : later.Hears where
  seen := by
    rw [seen, version]
    exact Nat.le_succ_of_le hears.seen
  told := by
    rw [version, seen]
    exact fun _ => Or.inl (Nat.ne_of_gt (Nat.lt_succ_of_le hears.seen))

theorem Hears.poll (hears : self.Hears)
    (prompt : self.terminal ≠ none → self.terminalPresent = true) : self.poll.Hears := by
  -- A reader that does not look next has been told by the change of the view.
  have past : self.receiver.looks = false → self.terminal ≠ none →
      self.version = self.seenVersion → ∀ point : RecvPoint, point.looks = true := by
    intro blind failed known
    rcases hears.told failed with news | looks
    · exact absurd known news
    · rw [blind] at looks
      cases looks
  have popped : ∀ otherwise, self.receiver.looks = false →
      (self.popProtected otherwise).Hears := by
    intro otherwise blind
    rw [popProtected]
    split
    · exact hears
    · cases self.stash.pop with
      | some taken => exact hears.frame rfl rfl rfl fun _ _ => rfl
      | none => exact hears.frame rfl rfl rfl fun failed known => past blind failed known _
  rw [TurnIngress.poll]
  cases stands : self.receiver with
  | idle => exact hears
  | terminal =>
      cases reason : self.terminalReason with
      | some reason => exact hears.frame rfl rfl rfl fun _ _ => rfl
      | none =>
          refine hears.frame rfl rfl rfl fun failed _ => absurd ?_ failed
          rwa [terminalReason, if_pos (prompt failed)] at reason
  | popFirst => exact popped _ (by rw [stands]; rfl)
  | announce =>
      exact hears.frame rfl rfl rfl fun failed known =>
        past (by rw [stands]; rfl) failed known _
  | popAgain seen => exact popped _ (by rw [stands]; rfl)
  | claim seen =>
      cases self.notify.claim with
      | some notify => exact hears.frame rfl rfl rfl fun _ _ => rfl
      | none =>
          exact hears.frame rfl rfl rfl fun failed known =>
            past (by rw [stands]; rfl) failed known _
  | enlist seen =>
      exact hears.frame rfl rfl rfl fun failed known =>
        past (by rw [stands]; rfl) failed known _
  | state =>
      dsimp only
      split
      · exact
          { seen := Nat.le_refl self.version
            told := fun _ => Or.inr rfl }
      · exact hears.frame rfl rfl rfl fun failed known =>
          past (by rw [stands]; rfl) failed known _
  | incoming =>
      cases self.incoming.pop with
      | some taken => exact hears.frame rfl rfl rfl fun _ _ => rfl
      | none =>
          exact hears.frame rfl rfl rfl fun failed known =>
            past (by rw [stands]; rfl) failed known _
  | parked =>
      dsimp only
      split
      · exact hears.frame rfl rfl rfl fun failed known =>
          past (by rw [stands]; rfl) failed known _
      · exact hears
  | woken =>
      cases self.notify.poll with
      | some notify => exact hears.frame rfl rfl rfl fun _ _ => rfl
      | none =>
          exact hears.frame rfl rfl rfl fun failed known =>
            past (by rw [stands]; rfl) failed known _
  | leave next => cases next <;> exact hears.frame rfl rfl rfl fun _ _ => rfl

/-- What the task does is nothing to the view, nor to where the reader stands. -/
theorem view_drive (self : TurnIngress) :
    self.drive.terminal = self.terminal ∧ self.drive.terminalPresent = self.terminalPresent ∧
      self.drive.version = self.version ∧ self.drive.seenVersion = self.seenVersion ∧
      self.drive.receiver = self.receiver ∧ self.drive.results = self.results := by
  rw [drive]
  cases self.driver with
  | idle => exact ⟨rfl, rfl, rfl, rfl, rfl, rfl⟩
  | ended => exact ⟨rfl, rfl, rfl, rfl, rfl, rfl⟩
  | stashing packet => exact ⟨rfl, rfl, rfl, rfl, rfl, rfl⟩
  | notifying => exact ⟨rfl, rfl, rfl, rfl, rfl, rfl⟩
  | sending packet =>
      dsimp only
      rw [trySend]
      split
      · exact ⟨rfl, rfl, rfl, rfl, rfl, rfl⟩
      · cases self.incoming.push packet with
        | some incoming => exact ⟨rfl, rfl, rfl, rfl, rfl, rfl⟩
        | none =>
            dsimp only
            split <;> exact ⟨rfl, rfl, rfl, rfl, rfl, rfl⟩

theorem Hears.step (hears : self.Hears) (event : IngressEvent) (prompt : self.Prompt event) :
    (self.step event).1.Hears := by
  have same : ∀ {later : TurnIngress}, later.terminal = self.terminal →
      later.version = self.version → later.seenVersion = self.seenVersion →
        later.receiver = self.receiver → later.Hears := by
    intro later terminal version seen receiver
    refine hears.frame terminal version seen fun failed known => ?_
    rw [receiver]
    exact (hears.told failed).resolve_left (absurd known)
  have free : ∀ {next : TurnIngress}, next.Hears → (self.whenFree next).Hears := by
    intro next later
    rw [whenFree]
    split
    · exact later
    · exact hears
  have idle : ∀ {next : TurnIngress}, next.Hears → (self.whenIdle next).Hears := by
    intro next later
    rw [whenIdle]
    split
    · exact later
    · exact hears
  cases event with
  | packet wire =>
      refine free ?_
      rw [TurnIngress.packet]
      split
      · exact same rfl rfl rfl rfl
      · exact hears
      · exact hears
  | deficit wire =>
      refine free ?_
      rw [processDeficitPacket]
      split
      · split
        · exact same rfl rfl rfl rfl
        · exact hears
      · exact hears
  | drive =>
      obtain ⟨terminal, _, version, seen, receiver, _⟩ := view_drive self
      exact same terminal version seen receiver
  | driverEnds => exact free (same rfl rfl rfl rfl)
  | bind channel => exact free (same rfl rfl rfl rfl)
  | requestCleanup => exact same rfl rfl rfl rfl
  | publish reason => exact hears.changed rfl rfl
  | announce => exact same rfl rfl rfl rfl
  | modify => exact hears.changed rfl rfl
  | call =>
      refine idle ?_
      split
      · exact hears
      · exact hears.frame rfl rfl rfl fun _ _ => rfl
  | poll => exact hears.poll prompt
  | cancel =>
      dsimp only [TurnIngress.step]
      rw [whenParked]
      split
      · exact hears.frame rfl rfl rfl fun _ _ => rfl
      · exact hears
  | dropReceiver => exact idle (same rfl rfl rfl rfl)

/-- A reader that sleeps has seen every change. -/
theorem seen_of_asleep (asleep : self.asleep) : self.version = self.seenVersion := by
  have still := asleep.2
  rw [awake, Bool.or_eq_false_iff, Bool.or_eq_false_iff, Bool.or_eq_false_iff] at still
  exact bne_eq_false_iff_eq.mp still.1.1.2

theorem Hears.of_asleep (hears : self.Hears) (asleep : self.asleep) : self.terminal = none := by
  by_contra failed
  rcases hears.told failed with news | looks
  · exact news (seen_of_asleep asleep)
  · rw [asleep.1] at looks
    cases looks

/-!
### After a failure
-/

/-- A failure has been announced, and since then nothing was returned, or no call hands out a
payload any more. -/
structure Failed (reason : String) (earlier : List (Except String (IngressLane × Numbered)))
    (ingress : TurnIngress) : Prop where
  present : ingress.terminalPresent = true
  terminal : ingress.terminal = some reason
  returned : ingress.results = earlier ∨
    (ingress.receiver = .idle ∨ ingress.receiver = .terminal) ∧
      ∃ (late : List (IngressLane × Numbered)) (count : Nat), late.length ≤ 1 ∧
        ingress.results = earlier ++ late.map .ok ++ List.replicate count (.error reason)

section Failed

variable {reason : String} {earlier : List (Except String (IngressLane × Numbered))}

theorem Failed.terminalReason (failed : Failed reason earlier self) :
    self.terminalReason = some reason := by
  rw [TurnIngress.terminalReason, if_pos failed.present, failed.terminal]

/-- A step that leaves the reason alone and returns nothing. -/
theorem Failed.frame (failed : Failed reason earlier self) {later : TurnIngress}
    (present : later.terminalPresent = self.terminalPresent)
    (terminal : later.terminal = self.terminal) (results : later.results = self.results)
    (receiver : later.receiver = self.receiver ∨ later.receiver = .idle ∨
      later.receiver = .terminal) : Failed reason earlier later where
  present := present.trans failed.present
  terminal := terminal.trans failed.terminal
  returned := by
    rw [results]
    rcases failed.returned with nothing | ⟨waits, some⟩
    · exact Or.inl nothing
    · refine Or.inr ⟨?_, some⟩
      rcases receiver with same | waits'
      · rwa [same]
      · exact waits'

/-- The call that was under way goes on. -/
theorem Failed.goOn (failed : Failed reason earlier self) (idle : self.receiver ≠ .idle)
    (terminal : self.receiver ≠ .terminal) {later : TurnIngress}
    (same : later.terminalPresent = self.terminalPresent ∧ later.terminal = self.terminal ∧
      later.results = self.results) : Failed reason earlier later where
  present := same.1.trans failed.present
  terminal := same.2.1.trans failed.terminal
  returned := by
    rw [same.2.2]
    rcases failed.returned with nothing | ⟨waits, _⟩
    · exact Or.inl nothing
    · exact absurd waits (not_or.mpr ⟨idle, terminal⟩)

/-- The call that was under way hands out a payload. -/
theorem Failed.hands (failed : Failed reason earlier self) (idle : self.receiver ≠ .idle)
    (terminal : self.receiver ≠ .terminal) (taken : IngressLane × Numbered) {later : TurnIngress}
    (same : later.terminalPresent = self.terminalPresent ∧ later.terminal = self.terminal ∧
      later.results = self.results ∧ later.receiver = self.receiver) :
    Failed reason earlier (later.returned (.ok taken)) where
  present := same.1.trans failed.present
  terminal := same.2.1.trans failed.terminal
  returned := by
    rcases failed.returned with nothing | ⟨waits, _⟩
    · refine Or.inr ⟨Or.inl rfl, [taken], 0, Nat.le_refl 1, ?_⟩
      change later.results ++ [.ok taken] = _
      rw [same.2.2.1, nothing, List.replicate_zero, List.append_nil]
      rfl
    · exact absurd waits (not_or.mpr ⟨idle, terminal⟩)

/-- A call ends with the reason. -/
theorem Failed.fails (failed : Failed reason earlier self) {later : TurnIngress}
    (same : later.terminalPresent = self.terminalPresent ∧ later.terminal = self.terminal ∧
      later.results = self.results) :
    Failed reason earlier (later.returned (.error reason)) where
  present := same.1.trans failed.present
  terminal := same.2.1.trans failed.terminal
  returned := by
    have one : (later.returned (.error reason)).results = self.results ++ [.error reason] := by
      rw [← same.2.2]
      rfl
    rw [one]
    rcases failed.returned with nothing | ⟨_, late, count, few, results⟩
    · refine Or.inr ⟨Or.inl rfl, [], 1, Nat.zero_le 1, ?_⟩
      rw [nothing, List.map_nil, List.append_nil]
      rfl
    · refine Or.inr ⟨Or.inl rfl, late, count + 1, few, ?_⟩
      rw [results, List.replicate_succ', ← List.append_assoc]

theorem Failed.poll (failed : Failed reason earlier self) : Failed reason earlier self.poll := by
  have known := failed.terminalReason
  have popped : ∀ otherwise, self.receiver ≠ .idle → self.receiver ≠ .terminal →
      Failed reason earlier (self.popProtected otherwise) := by
    intro otherwise idle terminal
    rw [popProtected]
    split
    · exact failed
    · cases self.stash.pop with
      | some taken => exact failed.hands idle terminal _ ⟨rfl, rfl, rfl, rfl⟩
      | none => exact failed.goOn idle terminal ⟨rfl, rfl, rfl⟩
  rw [TurnIngress.poll]
  cases stands : self.receiver with
  | idle => exact failed
  | terminal =>
      dsimp only
      rw [known]
      exact failed.fails ⟨rfl, rfl, rfl⟩
  | popFirst => exact popped _ (by rw [stands]; nofun) (by rw [stands]; nofun)
  | announce =>
      exact failed.goOn (by rw [stands]; nofun) (by rw [stands]; nofun) ⟨rfl, rfl, rfl⟩
  | popAgain seen => exact popped _ (by rw [stands]; nofun) (by rw [stands]; nofun)
  | claim seen =>
      cases self.notify.claim <;>
        exact failed.goOn (by rw [stands]; nofun) (by rw [stands]; nofun) ⟨rfl, rfl, rfl⟩
  | enlist seen =>
      exact failed.goOn (by rw [stands]; nofun) (by rw [stands]; nofun) ⟨rfl, rfl, rfl⟩
  | state =>
      dsimp only
      split <;>
        exact failed.goOn (by rw [stands]; nofun) (by rw [stands]; nofun) ⟨rfl, rfl, rfl⟩
  | incoming =>
      cases self.incoming.pop <;>
        exact failed.goOn (by rw [stands]; nofun) (by rw [stands]; nofun) ⟨rfl, rfl, rfl⟩
  | parked =>
      dsimp only
      split
      · exact failed.goOn (by rw [stands]; nofun) (by rw [stands]; nofun) ⟨rfl, rfl, rfl⟩
      · exact failed
  | woken =>
      cases self.notify.poll <;>
        exact failed.goOn (by rw [stands]; nofun) (by rw [stands]; nofun) ⟨rfl, rfl, rfl⟩
  | leave next =>
      cases next with
      | again => exact failed.frame rfl rfl rfl (Or.inr (Or.inr rfl))
      | taken packet =>
          exact @Failed.hands _ _ _ failed (by rw [stands]; nofun) (by rw [stands]; nofun)
            (.incoming, packet) self.leaveNotified ⟨rfl, rfl, rfl, rfl⟩
      | closed =>
          dsimp only
          rw [known]
          exact failed.fails ⟨rfl, rfl, rfl⟩

theorem Failed.step (failed : Failed reason earlier self) (event : IngressEvent) :
    Failed reason earlier (self.step event).1 := by
  have same : ∀ {later : TurnIngress}, later.terminalPresent = self.terminalPresent →
      later.terminal = self.terminal → later.results = self.results →
        later.receiver = self.receiver → Failed reason earlier later :=
    fun present terminal results receiver =>
      failed.frame present terminal results (Or.inl receiver)
  have free : ∀ {next : TurnIngress}, Failed reason earlier next →
      Failed reason earlier (self.whenFree next) := by
    intro next later
    rw [whenFree]
    split
    · exact later
    · exact failed
  have idle : ∀ {next : TurnIngress}, Failed reason earlier next →
      Failed reason earlier (self.whenIdle next) := by
    intro next later
    rw [whenIdle]
    split
    · exact later
    · exact failed
  cases event with
  | packet wire =>
      refine free ?_
      rw [TurnIngress.packet]
      split
      · exact same rfl rfl rfl rfl
      · exact failed
      · exact failed
  | deficit wire =>
      refine free ?_
      rw [processDeficitPacket]
      split
      · split
        · exact same rfl rfl rfl rfl
        · exact failed
      · exact failed
  | drive =>
      obtain ⟨terminal, present, _, _, receiver, results⟩ := view_drive self
      exact same present terminal results receiver
  | driverEnds => exact free (same rfl rfl rfl rfl)
  | bind channel => exact free (same rfl rfl rfl rfl)
  | requestCleanup => exact same rfl rfl rfl rfl
  | publish other =>
      refine same rfl ?_ rfl rfl
      change some (self.terminal.getD other) = self.terminal
      rw [failed.terminal]
      rfl
  | announce =>
      refine same ?_ rfl rfl rfl
      change self.terminal.isSome = self.terminalPresent
      rw [failed.terminal, failed.present]
      rfl
  | modify => exact same rfl rfl rfl rfl
  | call =>
      refine idle ?_
      split
      · exact failed
      · exact failed.frame rfl rfl rfl (Or.inr (Or.inr rfl))
  | poll => exact failed.poll
  | cancel =>
      dsimp only [TurnIngress.step]
      rw [whenParked]
      split
      · exact failed.frame rfl rfl rfl (Or.inr (Or.inl rfl))
      · exact failed
  | dropReceiver => exact idle (same rfl rfl rfl rfl)

end Failed

end TurnIngress

open TurnIngress

/-- A reader that sleeps has nothing left to read: the channel and the stash are empty, but for
what the task is about to tell of, and the task is still there. If the reader has never looked
between the publication of a failure and its announcement, none has been published either. -/
theorem ingress_wakes (events : List IngressEvent) :
    ((reached events).asleep →
      (reached events).incoming.items = [] ∧ (reached events).senderClosed = false ∧
        ((reached events).stash.items = [] ∨ (reached events).locked = true)) ∧
      (Transducer.AtEveryStep step start events Prompt → (reached events).asleep →
        (reached events).terminal = none) := by
  constructor
  · intro asleep
    have wakes : (reached events).Wakes :=
      @Transducer.run_invariant _ _ _ step Wakes (fun _ event wakes => wakes.step event) start
        events Wakes.start
    have still := asleep.2
    rw [awake, Bool.or_eq_false_iff, Bool.or_eq_false_iff] at still
    refine ⟨?_, still.2, wakes.of_asleep asleep⟩
    simpa using still.1.2
  · intro prompt asleep
    have hears : (reached events).Hears :=
      @Transducer.invariant_of_atEveryStep _ _ _ step Hears Prompt
        (fun _ event hears prompt => hears.step event prompt) start events Hears.start prompt
    exact hears.of_asleep asleep

-- A reader that looks between the two sleeps on, although the failure is announced.
example :
    (reached [.call, .poll, .poll, .poll, .poll, .poll, .poll, .publish "gone", .poll, .poll,
      .poll, .announce, .poll, .poll, .poll, .poll, .poll, .poll, .poll, .poll]).asleep ∧
    (reached [.call, .poll, .poll, .poll, .poll, .poll, .poll, .publish "gone", .poll, .poll,
      .poll, .announce]).terminalReason = some "gone" := ⟨⟨rfl, rfl⟩, rfl⟩

/-- Once a failure has been announced, the call that is under way may still hand out one payload;
every other call fails with that failure's reason. -/
theorem ingress_fails (events later : List IngressEvent) {reason : String}
    (announced : (reached events).terminalReason = some reason) :
    ∃ (late : List (IngressLane × Numbered)) (count : Nat), late.length ≤ 1 ∧
      (reached (events ++ later)).results =
        (reached events).results ++ late.map .ok ++ List.replicate count (.error reason) := by
  have initial : Failed reason (reached events).results (reached events) := by
    rw [terminalReason] at announced
    split at announced
    · next present =>
        exact
          { present := present
            terminal := announced
            returned := Or.inl rfl }
    · cases announced
  have failed : Failed reason (reached events).results (reached (events ++ later)) := by
    have split : reached (events ++ later) = (Transducer.run step (reached events) later).1 :=
      Transducer.run_append_fst step start events later
    rw [split]
    exact @Transducer.run_invariant _ _ _ step (Failed reason (reached events).results)
      (fun _ event failed => failed.step event) _ later initial
  rcases failed.returned with nothing | ⟨_, some⟩
  · refine ⟨[], 0, Nat.zero_le 1, ?_⟩
    rw [nothing, List.map_nil, List.append_nil]
    exact (List.append_nil _).symm
  · exact some

/-- The task fails while the reader is about to look into the stash for the second time. -/
theorem ingress_fails_twice :
    ∃ (late : List (IngressLane × Numbered)) (count : Nat), late.length ≤ 1 ∧
      (reached ([.call, .poll, .poll, .poll, .publish "gone", .announce] ++
        [.poll, .poll, .poll, .poll, .poll, .poll, .call, .poll])).results =
        [] ++ late.map .ok ++ List.replicate count (.error "gone") :=
  ingress_fails [.call, .poll, .poll, .poll, .publish "gone", .announce]
    [.poll, .poll, .poll, .poll, .poll, .poll, .call, .poll] rfl

end Csqtt
