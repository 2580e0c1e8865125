/-
Module: Csqtt.Proofs.QueueWake
Purpose: The receiver of a packet queue sleeps beside a packet only after two senders at
  once: what the length that a sender reads says about its own push.
Trusted boundary: none
Main exports: asleep, NeverStranded, lets, Sound, receiver_woken
-/
import Csqtt.Engine.QueueRun

namespace Csqtt

namespace QueuePoint

variable {Mark : Type*}

/-- Between the push and the test of the length. -/
def measures : QueuePoint Mark → Bool
  | .sendLength => true
  | _ => false

/-- About to wake the receiver. -/
def notifies : QueuePoint Mark → Bool
  | .sendNotify => true
  | _ => false

end QueuePoint

namespace ReceiverPoint

variable {Mark : Type*}

def waits : ReceiverPoint Mark → Bool
  | .waiting => true
  | _ => false

/-- The receiver has announced that it will wait, and since found the queue empty. -/
def announced : ReceiverPoint Mark → Option Nat
  | .senders (.after seen) => some seen
  | .selectCancelled seen => some seen
  | .claim seen => some seen
  | .enlist seen => some seen
  | _ => none

/-- The receiver has announced that it will wait. -/
def noted : ReceiverPoint Mark → Option Nat
  | .pop (.after seen) => some seen
  | .epoch (.after seen) _ => some seen
  | point => point.announced

end ReceiverPoint

namespace QueueRun

variable {Mark : Type*}

/-- The receiver has found the queue empty for the last time before it waits, or waits, and
no wake-up is stored for it. -/
def asleep (self : QueueRun Mark) : Bool :=
  (self.receiver.waits && !self.shared.notify.wakes) ||
    self.receiver.announced.any (!self.shared.notify.ready ·)

/-- There are packets in an active queue, no sender is between its push and its
notification, and the receiver is parked with no wake-up stored. -/
def Stranded (self : QueueRun Mark) : Prop :=
  0 < self.shared.queued ∧ self.shared.isActive = true ∧
    (∀ task ∈ self.tasks, task.point.measures = false ∧ task.point.notifies = false) ∧
    self.receiver.waits = true ∧ self.shared.notify.wakes = false

instance (self : QueueRun Mark) : Decidable self.Stranded :=
  inferInstanceAs (Decidable (0 < self.shared.queued ∧ self.shared.isActive = true ∧
    (∀ task ∈ self.tasks, task.point.measures = false ∧ task.point.notifies = false) ∧
    self.receiver.waits = true ∧ self.shared.notify.wakes = false))

/-- A step after which the receiver will still be woken: a sender does not push onto a
packet that another sender has pushed and not yet measured, while the receiver is
asleep and no sender is about to wake it. -/
def lets (self : QueueRun Mark) : QueueEvent Mark → Bool
  | .run index =>
      match self.tasks[index]? with
      | none => true
      | some current =>
          match current.point with
          | .sendPush _ false =>
              !(self.asleep && decide (0 < self.shared.queued) &&
                decide (self.shared.queued < self.shared.capacity) &&
                self.tasks.all (!·.point.notifies) && self.tasks.any (·.point.measures))
          | _ => true
  | _ => true

/-- Somebody will wake the receiver, if there is a packet for it. -/
def Covered (self : QueueRun Mark) : Prop :=
  self.shared.queued = 0 ∨ (∃ task ∈ self.tasks, task.point.notifies = true) ∨
    (self.shared.queued = 1 ∧ ∃ task ∈ self.tasks, task.point.measures = true)

/-- The waiter is on the list while the receiver waits, no announcement is ahead of the
count of calls, and the receiver sleeps only beside an empty queue or one that somebody
will wake it for. -/
structure Sound (now : QueueRun Mark) : Prop where
  listed : now.shared.notify.waiter = .waiting → now.receiver.waits = true
  earlier : ∀ seen, now.receiver.noted = some seen → seen ≤ now.shared.notify.calls
  covered : now.asleep = true → now.Covered

theorem noted_of_announced {receiver : ReceiverPoint Mark} {seen : Nat}
    (announced : receiver.announced = some seen) : receiver.noted = some seen := by
  cases receiver with
  | pop looking => cases announced
  | epoch looking queued => cases announced
  | _ => exact announced

theorem announced_of_waits {receiver : ReceiverPoint Mark} (waits : receiver.waits = true) :
    receiver.announced = none := by
  cases receiver with
  | waiting => rfl
  | _ => cases waits

theorem asleep_iff {now : QueueRun Mark} :
    now.asleep = true ↔ (now.receiver.waits = true ∧ now.shared.notify.wakes = false) ∨
      ∃ seen, now.receiver.announced = some seen ∧ now.shared.notify.ready seen = false := by
  simp [asleep, Option.any_eq_true]

section Senders

variable {now : QueueRun Mark} {index : Nat} {current : QueueTask Mark}

/-- Another thread than the one that moved is still where it was, and so is that one if it
did not move from such a point. -/
theorem exists_ran {property : QueuePoint Mark → Bool} (here : now.tasks[index]? = some current)
    (off : property current.point = false)
    (some : ∃ task ∈ now.tasks, property task.point = true) :
    ∃ task ∈ (now.ran index current).tasks, property task.point = true := by
  apply Interleaving.exists_advance here some
  intro on
  rw [off] at on
  cases on

theorem exists_moved {property : QueuePoint Mark → Bool}
    (here : now.tasks[index]? = some current)
    (on : property (now.shared.perform current.point).2 = true) :
    ∃ task ∈ (now.ran index current).tasks, property task.point = true :=
  ⟨_, List.mem_of_getElem? (Interleaving.getElem?_advance_self here _ _), on⟩

/-- Who covered the receiver still does, if the queue has at most lost packets. -/
theorem Covered.ran (covered : now.Covered) (here : now.tasks[index]? = some current)
    (fewer : (now.shared.perform current.point).1.queued ≤ now.shared.queued)
    (silent : current.point.measures = false ∧ current.point.notifies = false) :
    (now.ran index current).Covered := by
  rcases covered with empty | notified | ⟨one, measured⟩
  · exact Or.inl (Nat.le_zero.mp (empty ▸ fewer))
  · exact Or.inr (Or.inl (exists_ran here silent.2 notified))
  · rcases Nat.le_one_iff_eq_zero_or_eq_one.mp (one ▸ fewer) with none | same
    · exact Or.inl none
    · exact Or.inr (Or.inr ⟨same, exists_ran here silent.1 measured⟩)

theorem Sound.of_notify_eq (sound : now.Sound)
    (same : (now.shared.perform current.point).1.notify = now.shared.notify)
    (covered : now.asleep = true → (now.ran index current).Covered) :
    (now.ran index current).Sound := by
  constructor
  · rw [QueueRun.ran, same]
    exact sound.listed
  · rw [QueueRun.ran, same]
    exact sound.earlier
  · intro asleep
    apply covered
    rw [QueueRun.asleep, QueueRun.ran, same] at asleep
    exact asleep

/-- A wake-up for one reaches the receiver, wherever it is. -/
theorem Sound.of_notifyOne (sound : now.Sound)
    (woken : (now.shared.perform current.point).1.notify = now.shared.notify.notifyOne) :
    (now.ran index current).Sound := by
  constructor
  · intro listed
    rw [QueueRun.ran, woken] at listed
    exact absurd listed now.shared.notify.waiter_notifyOne
  · rw [QueueRun.ran, woken, Notify.calls_notifyOne]
    exact sound.earlier
  · intro asleep
    exfalso
    rcases asleep_iff.mp asleep with ⟨-, unwoken⟩ | ⟨seen, announced, unready⟩
    · rw [QueueRun.ran, woken, Notify.wakes_notifyOne] at unwoken
      cases unwoken
    · have nobody : now.shared.notify.waiter ≠ .waiting := fun listed => by
        have none := announced_of_waits (sound.listed listed)
        rw [QueueRun.ran] at announced
        rw [none] at announced
        cases announced
      rw [QueueRun.ran, woken, Notify.ready_notifyOne nobody] at unready
      cases unready

/-- A wake-up for all leaves the receiver asleep at most if it was so before. -/
theorem Sound.of_notifyWaiters (sound : now.Sound)
    (woken : (now.shared.perform current.point).1.notify = now.shared.notify.notifyWaiters)
    (covered : now.asleep = true → (now.ran index current).Covered) :
    (now.ran index current).Sound := by
  constructor
  · intro listed
    rw [QueueRun.ran, woken] at listed
    exact absurd listed now.shared.notify.waiter_notifyWaiters
  · intro seen noted
    rw [QueueRun.ran, woken]
    exact Nat.le_succ_of_le (sound.earlier seen noted)
  · intro asleep
    apply covered
    rw [asleep_iff, QueueRun.ran, woken] at asleep
    rcases asleep with ⟨waits, unwoken⟩ | ⟨seen, announced, unready⟩
    · refine asleep_iff.mpr (Or.inl ⟨waits, ?_⟩)
      by_contra wakes
      rw [Notify.wakes_notifyWaiters (Bool.of_not_eq_false wakes)] at unwoken
      cases unwoken
    · have earlier := sound.earlier seen (noted_of_announced announced)
      rw [Notify.ready_notifyWaiters earlier] at unready
      cases unready

/-- All that neither pushes, measures nor notifies one may take packets and wake all. -/
theorem perform_other (shared : SharedQueue Mark) {point : QueuePoint Mark}
    (measured : point.measures = false) (notified : point.notifies = false)
    (pushes : ∀ queued force, point ≠ .sendPush queued force) :
    (shared.perform point).1.queued ≤ shared.queued ∧
      ((shared.perform point).1.notify = shared.notify ∨
        (shared.perform point).1.notify = shared.notify.notifyWaiters) := by
  have popped {first : QueuedPacket Mark} {rest : ArrayQueue (QueuedPacket Mark) shared.capacity}
      (taken : shared.queue.pop = some (first, rest)) :
      rest.items.length ≤ shared.queue.items.length := by
    rw [ArrayQueue.pop_spec taken]
    exact Nat.le_succ _
  cases point with
  | sendLength => cases measured
  | sendNotify => cases notified
  | sendPush queued force => exact absurd rfl (pushes queued force)
  | stealPop taken =>
      rw [SharedQueue.perform]
      split
      · next some => exact ⟨popped some, Or.inl rfl⟩
      · exact ⟨Nat.le_refl _, Or.inl rfl⟩
  | resumePurge epoch =>
      rw [SharedQueue.perform]
      split
      · next some => exact ⟨popped some, Or.inl rfl⟩
      · exact ⟨Nat.le_refl _, Or.inl rfl⟩
  | suspendPurge =>
      rw [SharedQueue.perform]
      split
      · next some => exact ⟨popped some, Or.inl rfl⟩
      · exact ⟨Nat.le_refl _, Or.inl rfl⟩
  | dropNotify => exact ⟨Nat.le_refl _, Or.inr rfl⟩
  | resumeNotify => exact ⟨Nat.le_refl _, Or.inr rfl⟩
  | suspendNotify => exact ⟨Nat.le_refl _, Or.inr rfl⟩
  | _ => exact ⟨Nat.le_refl _, Or.inl rfl⟩

theorem Sound.run_other (sound : now.Sound) (here : now.tasks[index]? = some current)
    (measured : current.point.measures = false) (notified : current.point.notifies = false)
    (pushes : ∀ queued force, current.point ≠ .sendPush queued force) :
    (now.ran index current).Sound := by
  obtain ⟨fewer, same | woken⟩ := perform_other now.shared measured notified pushes
  · exact sound.of_notify_eq same fun asleep =>
      (sound.covered asleep).ran here fewer ⟨measured, notified⟩
  · exact sound.of_notifyWaiters woken fun asleep =>
      (sound.covered asleep).ran here fewer ⟨measured, notified⟩

/-- A forced push is always followed by a wake-up; another one onto an empty queue is
measured as the first. -/
theorem Sound.run_push (sound : now.Sound) (here : now.tasks[index]? = some current)
    {queued : QueuedPacket Mark} {force : Bool} (point : current.point = .sendPush queued force)
    (lets : now.lets (.run index) = true) : (now.ran index current).Sound := by
  have unmoved : (now.shared.perform current.point).1.notify = now.shared.notify := by
    rw [point, SharedQueue.perform]
    split
    · rfl
    · split
      · rfl
      · rfl
  apply sound.of_notify_eq unmoved
  intro asleep
  have covered := sound.covered asleep
  cases force with
  | true =>
      refine Or.inr (Or.inl (exists_moved here ?_))
      rw [point]
      rfl
  | false =>
      cases pushed : now.shared.queue.push queued with
      | none =>
          have same : (now.ran index current).shared = now.shared := by
            simp [ran, point, SharedQueue.perform, pushed]
          apply covered.ran here
          · exact (congrArg (·.queued) same).le
          · rw [point]
            exact ⟨rfl, rfl⟩
      | some queue =>
          have next : now.shared.perform current.point =
              ({ now.shared with queue := queue }, .sendLength) := by
            simp [point, SharedQueue.perform, pushed]
          have longer : (now.ran index current).shared.queued = now.shared.queued + 1 := by
            rw [ran, next]
            exact (congrArg List.length (ArrayQueue.push_spec pushed)).trans List.length_append
          have still (some : ∃ task ∈ now.tasks, task.point.notifies = true) :
              ∃ task ∈ (now.ran index current).tasks, task.point.notifies = true :=
            exists_ran here (by rw [point]; rfl) some
          rcases covered with empty | notified | ⟨one, measured⟩
          · refine Or.inr (Or.inr ⟨by rw [longer, empty], exists_moved here ?_⟩)
            rw [next]
            rfl
          · exact Or.inr (Or.inl (still notified))
          · refine Or.inr (Or.inl (still ?_))
            have room : now.shared.queued < now.shared.capacity := ArrayQueue.room_of_push pushed
            rw [one] at room
            have among : now.tasks.any (·.point.measures) = true := List.any_eq_true.mpr measured
            simp only [QueueRun.lets, here, point, asleep, one, room, among, Nat.one_pos,
              decide_true, Bool.true_and, Bool.and_true, Bool.not_eq_true', List.all_eq_false]
              at lets
            obtain ⟨task, mem, on⟩ := lets
            exact ⟨task, mem, by simpa using on⟩

theorem Sound.run (sound : now.Sound) (here : now.tasks[index]? = some current)
    (lets : now.lets (.run index) = true) : (now.ran index current).Sound := by
  cases point : current.point with
  | sendNotify => exact sound.of_notifyOne (by rw [point]; rfl)
  | sendLength =>
      apply sound.of_notify_eq (by rw [point]; rfl)
      intro asleep
      by_cases one : now.shared.queued = 1
      · refine Or.inr (Or.inl (exists_moved here ?_))
        rw [point, SharedQueue.perform, if_pos one]
        rfl
      · have same : (now.ran index current).shared = now.shared := by rw [ran, point]; rfl
        rcases sound.covered asleep with empty | notified | ⟨measured, -⟩
        · exact Or.inl (by rw [same]; exact empty)
        · exact Or.inr (Or.inl (exists_ran here (by rw [point]; rfl) notified))
        · exact absurd measured one
  | sendPush queued force => exact sound.run_push here point lets
  | _ =>
      apply sound.run_other here
      · rw [point]
        rfl
      · rw [point]
        rfl
      · intro queued force pushes
        rw [point] at pushes
        cases pushes

end Senders

section Receiver

variable {now : QueueRun Mark}

theorem Sound.not_listed (sound : now.Sound) (off : now.receiver.waits = false) :
    now.shared.notify.waiter ≠ .waiting := by
  intro listed
  rw [sound.listed listed] at off
  cases off

/-- A receiver that neither waits nor is about to is not asleep. -/
theorem sound_of_awake (listed : now.shared.notify.waiter ≠ .waiting)
    (off : now.receiver.waits = false) (announced : now.receiver.announced = none)
    (earlier : ∀ seen, now.receiver.noted = some seen → seen ≤ now.shared.notify.calls) :
    now.Sound := by
  refine ⟨fun waiting => absurd waiting listed, earlier, ?_⟩
  intro asleep
  rw [QueueRun.asleep, off, announced] at asleep
  cases asleep

/-- What the receiver does keeps it sound. -/
theorem Sound.received (sound : now.Sound) : now.received.Sound := by
  have earlier := sound.earlier
  have covered := sound.covered
  rw [QueueRun.asleep] at covered
  obtain ⟨shared, tasks, receiver, cancelled⟩ := now
  cases receiver with
  | returned result => exact sound
  | dropped => exact sound
  | cancelled =>
      have quiet := sound.not_listed rfl
      cases cancelled with
      | true => exact sound_of_awake quiet rfl rfl fun seen noted => by cases noted
      | false => exact sound_of_awake quiet rfl rfl fun seen noted => by cases noted
  | pop looking =>
      rw [QueueRun.received, SharedQueue.receive]
      cases popped : shared.queue.pop with
      | some pair =>
          refine sound_of_awake (sound.not_listed rfl) rfl rfl fun seen noted => ?_
          cases looking with
          | after seen' => exact earlier seen noted
          | _ => cases noted
      | none =>
          cases looking with
          | once => exact sound_of_awake (sound.not_listed rfl) rfl rfl fun seen noted => by cases noted
          | before =>
              exact sound_of_awake (sound.not_listed rfl) rfl rfl fun seen noted => by cases noted
          | after seen =>
              refine ⟨sound.listed, earlier, fun _ => Or.inl ?_⟩
              exact congrArg List.length (ArrayQueue.pop_eq_none.mp popped)
  | epoch looking queued =>
      rw [QueueRun.received, SharedQueue.receive]
      split
      · exact sound_of_awake (sound.not_listed rfl) rfl rfl fun seen noted => by cases noted
      · refine sound_of_awake (sound.not_listed rfl) rfl rfl fun seen noted => ?_
        cases looking with
        | after seen' => exact earlier seen noted
        | _ => cases noted
  | senders looking =>
      rw [QueueRun.received, SharedQueue.receive]
      split
      · exact sound_of_awake (sound.not_listed rfl) rfl rfl fun seen noted => by cases noted
      · cases looking with
        | after seen => exact ⟨sound.listed, earlier, covered⟩
        | once => exact sound_of_awake (sound.not_listed rfl) rfl rfl fun seen noted => by cases noted
        | before =>
            exact sound_of_awake (sound.not_listed rfl) rfl rfl fun seen noted => by cases noted
  | notified =>
      exact sound_of_awake (sound.not_listed rfl) rfl rfl fun seen noted => by
        cases noted
        exact Nat.le_refl _
  | selectCancelled seen =>
      cases cancelled with
      | true => exact sound_of_awake (sound.not_listed rfl) rfl rfl fun seen noted => by cases noted
      | false => exact ⟨sound.listed, earlier, covered⟩
  | claim seen =>
      rw [QueueRun.received, SharedQueue.receive]
      cases claimed : shared.notify.claim with
      | some notify =>
          refine sound_of_awake ?_ rfl rfl fun seen noted => by cases noted
          exact fun listed => sound.not_listed rfl ((Notify.waiter_claim claimed).symm.trans listed)
      | none => exact ⟨sound.listed, earlier, covered⟩
  | enlist seen =>
      rw [QueueRun.received, SharedQueue.receive]
      cases woken : (shared.notify.enlist seen).2 with
      | true =>
          refine sound_of_awake ?_ rfl rfl fun seen noted => by cases noted
          exact fun listed => sound.not_listed rfl ((Notify.waiter_enlist woken).symm.trans listed)
      | false =>
          obtain ⟨unready, listed⟩ := Notify.not_ready_of_enlist woken
          refine ⟨fun _ => rfl, fun seen noted => (by cases noted), fun _ => ?_⟩
          exact covered (Bool.or_eq_true_iff.mpr (Or.inr (congrArg Bool.not unready)))
  | waiting =>
      rw [QueueRun.received, SharedQueue.receive]
      split
      · refine sound_of_awake ?_ rfl rfl fun seen noted => by cases noted
        exact fun listed => by cases (Notify.waiter_leave _).symm.trans listed
      · cases polled : shared.notify.poll with
        | some notify =>
            refine sound_of_awake ?_ rfl rfl fun seen noted => by cases noted
            exact fun listed => by cases (Notify.waiter_of_poll polled).symm.trans listed
        | none => exact sound
  | close => exact sound_of_awake (sound.not_listed rfl) rfl rfl fun seen noted => by cases noted
  | closeNotify =>
      exact sound_of_awake (Notify.waiter_notifyWaiters _) rfl rfl fun seen noted => by cases noted

end Receiver

theorem Sound.step {now : QueueRun Mark} (sound : now.Sound) (event : QueueEvent Mark)
    (lets : now.lets event = true) : (now.step event).1.Sound := by
  cases event with
  | begin operation =>
      have kept {property : QueuePoint Mark → Bool}
          (some : ∃ task ∈ now.tasks, property task.point = true) :
          ∃ task ∈ now.tasks ++ [{ point := operation.point, tag := operation }],
            property task.point = true := by
        obtain ⟨task, mem, on⟩ := some
        exact ⟨task, List.mem_append_left _ mem, on⟩
      refine ⟨sound.listed, sound.earlier, fun asleep => ?_⟩
      exact (sound.covered asleep).imp_right
        (Or.imp kept fun measured => ⟨measured.1, kept measured.2⟩)
  | run index =>
      rw [QueueRun.step]
      split
      · exact sound
      · next current here => exact sound.run here lets
  | call receiverCall =>
      rw [QueueRun.step, QueueRun.called]
      split
      · next result receiver =>
          have quiet : now.shared.notify.waiter ≠ .waiting :=
            sound.not_listed (by rw [receiver]; rfl)
          cases receiverCall with
          | recv => exact sound_of_awake quiet rfl rfl fun seen noted => by cases noted
          | tryRecv => exact sound_of_awake quiet rfl rfl fun seen noted => by cases noted
          | close => exact sound_of_awake quiet rfl rfl fun seen noted => by cases noted
      · exact sound
  | receive => exact sound.received
  | abandon =>
      rw [QueueRun.step, QueueRun.abandoned]
      split
      · refine sound_of_awake ?_ rfl rfl fun seen noted => by cases noted
        exact fun listed => by cases (Notify.waiter_leave _).symm.trans listed
      · exact sound
  | cancel => exact ⟨sound.listed, sound.earlier, sound.covered⟩

theorem Sound.not_stranded {now : QueueRun Mark} (sound : now.Sound) : ¬ now.Stranded := by
  rintro ⟨some, -, quiet, waits, unwoken⟩
  rcases sound.covered (asleep_iff.mpr (Or.inl ⟨waits, unwoken⟩)) with
    empty | ⟨task, mem, notifies⟩ | ⟨-, task, mem, measures⟩
  · exact Nat.ne_of_gt some empty
  · rw [(quiet task mem).2] at notifies
    cases notifies
  · rw [(quiet task mem).1] at measures
    cases measures

/-- In every run whose steps all let the receiver be woken, it is never stranded. -/
theorem receiver_woken (capacity : Nat) (active : Bool) (events : List (QueueEvent Mark))
    (lets : Transducer.AtEveryStep step (start capacity active) events
      fun now event => now.lets event = true) :
    Transducer.Throughout step (start capacity active) events fun now => ¬ now.Stranded := by
  intro consumed within
  have initial : (start capacity active : QueueRun Mark).Sound :=
    sound_of_awake Waiter.noConfusion rfl rfl fun seen noted => by cases noted
  have sound : (Transducer.run step (start capacity active) consumed).1.Sound :=
    Transducer.invariant_of_atEveryStep step (fun now event sound lets => sound.step event lets)
      initial (lets.of_prefix within)
  exact sound.not_stranded

def emptyPacket : PacketBuf :=
  .acquired (List.replicate packetCapacity 0) length_zeros

/-- The receiver waits, and a sender wakes it. -/
theorem receiver_woken_once :
    Transducer.Throughout step (start 4 true)
      [.call .recv, .receive, .receive, .receive, .receive, .receive, .receive, .receive, .receive,
        .receive, .begin (.trySend ((), emptyPacket)), .run 0, .run 0, .run 0, .run 0, .run 0,
        .receive, .receive, .receive, .receive] fun now => ¬ now.Stranded :=
  receiver_woken 4 true _ (by decide +kernel)

/-- The receiver waits, two senders push, and then each reads the length two. -/
theorem receiver_stranded :
    ¬ Transducer.Throughout step (start 4 true)
      [.call .recv, .receive, .receive, .receive, .receive, .receive, .receive, .receive, .receive,
        .receive, .begin (.trySend ((), emptyPacket)), .begin (.trySend ((), emptyPacket)),
        .run 0, .run 0, .run 0, .run 1, .run 1, .run 1, .run 0, .run 1]
      fun now => ¬ now.Stranded :=
  fun throughout => throughout _ (List.prefix_refl _) (by decide +kernel)

end QueueRun

end Csqtt
