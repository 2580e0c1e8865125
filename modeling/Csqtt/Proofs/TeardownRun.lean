/-
Module: Csqtt.Proofs.TeardownRun
Purpose: When no packet is lost with a session's queues, over all interleavings of senders,
  writer and teardown.
Trusted boundary: none
Main exports: LaneRun.Balanced, TeardownRun.Kept, TeardownRun.InTime, TeardownRun.teardown_kept,
  TeardownRun.teardown_loses
-/
import Csqtt.Engine.TeardownRun
import Csqtt.Proofs.QueueWake

namespace Csqtt

open scoped List

variable {Mark : Type*}

/-- The packet that the receiver has popped but not handed out yet. -/
def ReceiverPoint.hand : ReceiverPoint Mark → List (Mark × PacketBuf)
  | .epoch _ queued => [queued.packet]
  | _ => []

/-- A point of a send, with the epoch of a queue that was never resumed. -/
def QueuePoint.Sends : QueuePoint Mark → Prop
  | .returned _ => True
  | .sendOpen _ _ => True
  | .sendState _ _ => True
  | .sendPush queued _ => queued.epoch = queueActive >>> 1
  | .sendLength => True
  | .sendNotify => True
  | _ => False

/-- Of the functions that run beside the receiver only sends begin. -/
def QueueEvent.Plain : QueueEvent Mark → Prop
  | .begin (.trySend _) => True
  | .begin (.forceSend _) => True
  | .begin _ => False
  | _ => True

namespace LaneRun

/-- The packets that went in and did not come out. -/
def remaining (self : LaneRun Mark) : List (Mark × PacketBuf) :=
  self.receiver.hand ++ self.shared.items.map (·.packet)

/-- Every packet that went in came out once, in one of the three ways, or is still there. -/
def Balanced (self : LaneRun Mark) : Prop :=
  self.accepted ~ self.taken ++ self.evicted ++ self.drained ++ self.remaining

/-- The queue takes packets, and all are of its only epoch. -/
structure Plain (lane : LaneRun Mark) : Prop where
  state : lane.shared.state = queueActive
  items : ∀ queued ∈ lane.shared.items, queued.epoch = queueActive >>> 1
  hand : ∀ looking queued, lane.receiver = .epoch looking queued →
    queued.epoch = queueActive >>> 1
  tasks : ∀ task ∈ lane.tasks, task.point.Sends

variable {self : LaneRun Mark} {event : QueueEvent Mark}

theorem plain_start (capacity : Nat) : (start capacity : LaneRun Mark).Plain where
  state := rfl
  items _ mem := by cases mem
  hand _ _ there := by cases there
  tasks _ mem := by cases mem

theorem balanced_start (capacity : Nat) : (start capacity : LaneRun Mark).Balanced :=
  List.Perm.refl _

theorem Plain.isActive (plain : self.Plain) : self.shared.isActive = true := by
  rw [PacketQueue.isActive, plain.state]
  rfl

/-- What was popped is handed out. -/
theorem Plain.current (plain : self.Plain) {looking : Looking} {queued : QueuedPacket Mark}
    (there : self.receiver = .epoch looking queued) :
    (self.shared.isActive && queued.epoch == self.shared.state >>> 1) = true := by
  rw [plain.isActive, plain.hand looking queued there, plain.state]
  simp

end LaneRun

/-!
### One operation of a sender
-/

namespace SharedQueue

/-- What an operation of a sender does to the queued packets. -/
inductive Effect (shared : SharedQueue Mark) : QueuePoint Mark → SharedQueue Mark → Prop
  | still {point : QueuePoint Mark} {after : SharedQueue Mark}
      (queue : after.toPacketQueue = shared.toPacketQueue)
      (waits : ∀ queued force, point = .sendPush queued force →
        ¬ (force = true ∨ shared.queued < shared.capacity)) :
      Effect shared point after
  | pushes {queued : QueuedPacket Mark} {after : SharedQueue Mark} {force : Bool}
      (state : after.state = shared.state)
      (goes : force = true ∨ shared.queued < shared.capacity)
      (items : after.items = shared.items.drop
        (if force then shared.queued + 1 - shared.capacity else 0) ++ [queued]) :
      Effect shared (.sendPush queued force) after

theorem perform_effect (shared : SharedQueue Mark) {point : QueuePoint Mark}
    (sends : point.Sends) : Effect shared point (shared.perform point).1 := by
  cases point with
  | sendPush queued force =>
    cases force with
    | true => exact .pushes rfl (Or.inl rfl) rfl
    | false =>
      cases pushed : shared.queue.push queued with
      | some queue =>
        have room := ArrayQueue.room_of_push pushed
        have after : (shared.perform (.sendPush queued false)).1 = { shared with queue := queue } := by
          simp only [perform, pushed, Bool.false_eq_true, if_false]
        rw [after]
        exact .pushes rfl (Or.inr room) (ArrayQueue.push_spec pushed)
      | none =>
        have after : (shared.perform (.sendPush queued false)).1 = shared := by
          simp only [perform, pushed, Bool.false_eq_true, if_false]
        rw [after]
        refine .still rfl ?_
        intro queued force push goes
        cases push
        rcases goes with force | room
        · cases force
        · exact ArrayQueue.full_of_push pushed room
  | returned | sendOpen | sendState | sendLength | sendNotify =>
    refine .still rfl ?_
    intro queued force push
    cases push
  | stealPop | stolen | cloneCount | dropCount | dropNotify | resumeState | resumeEpoch
  | resumePurge | resumeActive | resumeNotify | suspendState | suspendStore | suspendPurge
  | suspendNotify => cases sends

/-- A send goes on as a send. -/
theorem sends_perform {shared : SharedQueue Mark} (active : shared.state = queueActive)
    {point : QueuePoint Mark} (sends : point.Sends) : (shared.perform point).2.Sends := by
  cases point with
  | returned | sendNotify => trivial
  | sendOpen packet force =>
    simp only [perform]
    split
    · trivial
    · trivial
  | sendState packet force =>
    simp only [perform]
    split
    · show shared.state >>> 1 = queueActive >>> 1
      rw [active]
    · trivial
  | sendPush queued force =>
    simp only [perform]
    split
    · trivial
    · split
      · trivial
      · trivial
  | sendLength =>
    simp only [perform]
    split
    · trivial
    · trivial
  | stealPop | stolen | cloneCount | dropCount | dropNotify | resumeState | resumeEpoch
  | resumePurge | resumeActive | resumeNotify | suspendState | suspendStore | suspendPurge
  | suspendNotify => cases sends

/-- What an operation of the receiver does to the queued packets: nothing, a pop, or the
handing out of what was popped. -/
inductive ReceiverEffect (shared : SharedQueue Mark) :
    ReceiverPoint Mark → SharedQueue Mark × ReceiverPoint Mark → Prop
  | still {point after : ReceiverPoint Mark} {later : SharedQueue Mark}
      (state : later.state = shared.state) (items : later.items = shared.items)
      (hand : point.hand = []) (hand' : after.hand = []) :
      ReceiverEffect shared point (later, after)
  | pops {looking : Looking} {queued : QueuedPacket Mark} {later : SharedQueue Mark}
      (state : later.state = shared.state) (items : shared.items = queued :: later.items) :
      ReceiverEffect shared (.pop looking) (later, .epoch looking queued)
  | hands {looking : Looking} {queued : QueuedPacket Mark} :
      ReceiverEffect shared (.epoch looking queued) (shared, .returned (some queued.packet))

theorem hand_empty (looking : Looking) : (looking.empty : ReceiverPoint Mark).hand = [] := by
  cases looking <;> rfl

theorem hand_stays (looking : Looking) : (looking.stays : ReceiverPoint Mark).hand = [] := by
  cases looking <;> rfl

theorem receive_effect (shared : SharedQueue Mark) (cancelled : Bool)
    {point : ReceiverPoint Mark}
    (current : ∀ looking queued, point = .epoch looking queued →
      (shared.isActive && queued.epoch == shared.state >>> 1) = true) :
    ReceiverEffect shared point (shared.receive cancelled point) := by
  cases point with
  | returned | closeNotify | dropped | notified | close => exact .still rfl rfl rfl rfl
  | cancelled | selectCancelled seen =>
    cases cancelled with
    | true => exact .still rfl rfl rfl rfl
    | false => exact .still rfl rfl rfl rfl
  | pop looking =>
    cases popped : shared.queue.pop with
    | some taken =>
      simp only [receive, popped]
      exact .pops rfl (ArrayQueue.pop_spec popped)
    | none =>
      simp only [receive, popped]
      exact .still rfl rfl rfl (hand_empty looking)
  | epoch looking queued =>
    simp only [receive, current looking queued rfl, if_true]
    exact .hands
  | senders looking =>
    simp only [receive]
    split
    · exact .still rfl rfl rfl rfl
    · exact .still rfl rfl rfl (hand_stays looking)
  | claim seen =>
    simp only [receive]
    split
    · exact .still rfl rfl rfl rfl
    · exact .still rfl rfl rfl rfl
  | enlist seen =>
    simp only [receive]
    split
    · exact .still rfl rfl rfl rfl
    · exact .still rfl rfl rfl rfl
  | waiting =>
    simp only [receive]
    split
    · exact .still rfl rfl rfl rfl
    · split
      · exact .still rfl rfl rfl rfl
      · exact .still rfl rfl rfl rfl

end SharedQueue

/-!
### One step of a queue
-/

namespace LaneRun

variable {self : LaneRun Mark} {event : QueueEvent Mark}

/-- A step of a queue without a push or a pop. -/
theorem Balanced.still (balanced : self.Balanced) {after : LaneRun Mark}
    (accepted : after.accepted = self.accepted) (taken : after.taken = self.taken)
    (evicted : after.evicted = self.evicted) (drained : after.drained = self.drained)
    (remaining : after.remaining = self.remaining) : after.Balanced := by
  rw [Balanced, accepted, taken, evicted, drained, remaining]
  exact balanced

/-- What a running send does. -/
theorem run_effect (plain : self.Plain) {index : Nat} {current : QueueTask Mark}
    (found : self.tasks[index]? = some current) :
    SharedQueue.Effect self.shared current.point (self.step (.run index)).shared := by
  have effect := self.shared.perform_effect (plain.tasks current (List.mem_of_getElem? found))
  simp only [step, QueueRun.step, found, QueueRun.ran]
  exact effect

theorem receiver_run (index : Nat) : (self.step (.run index)).receiver = self.receiver := by
  simp only [step, QueueRun.step]
  split
  · rfl
  · rfl

/-- A run of a thread that pushes nothing. -/
theorem run_still {index : Nat} {current : QueueTask Mark}
    (found : self.tasks[index]? = some current)
    (waits : ∀ queued force, current.point = .sendPush queued force →
      ¬ (force = true ∨ self.shared.queued < self.shared.capacity)) :
    self.accepts (.run index) = [] ∧ self.evicts (.run index) = [] := by
  obtain ⟨point, tag⟩ := current
  simp only [accepts, evicts, found]
  cases point with
  | sendPush queued force =>
    have refused := waits queued force rfl
    refine ⟨if_neg refused, ?_⟩
    cases force with
    | true => exact absurd (Or.inl rfl) refused
    | false => rfl
  | _ => exact ⟨rfl, rfl⟩

/-- A run of a thread that pushes. -/
theorem run_pushes {index : Nat} {tag : QueueOperation Mark} {queued : QueuedPacket Mark}
    {force : Bool} (found : self.tasks[index]? = some ⟨.sendPush queued force, tag⟩)
    (goes : force = true ∨ self.shared.queued < self.shared.capacity) :
    self.accepts (.run index) = [queued.packet] ∧
      self.evicts (.run index) = (self.shared.items.take
        (if force then self.shared.queued + 1 - self.shared.capacity else 0)).map (·.packet) := by
  simp only [accepts, evicts, found]
  refine ⟨if_pos goes, ?_⟩
  cases force with
  | true => rfl
  | false => rfl

theorem plain_run (plain : self.Plain) (index : Nat) : (self.step (.run index)).Plain := by
  cases found : self.tasks[index]? with
  | none =>
    simp only [step, QueueRun.step, found]
    exact ⟨plain.state, plain.items, plain.hand, plain.tasks⟩
  | some current =>
    have sends := plain.tasks current (List.mem_of_getElem? found)
    have effect := run_effect plain found
    constructor
    · generalize current.point = point at effect
      cases effect with
      | still queue => exact (congrArg PacketQueue.state queue).trans plain.state
      | pushes state => exact state.trans plain.state
    · intro queued mem
      generalize current.point = point at effect sends
      cases effect with
      | still queue =>
        rw [queue] at mem
        exact plain.items queued mem
      | pushes _ _ items =>
        rw [items] at mem
        obtain old | new := List.mem_append.mp mem
        · exact plain.items queued (List.mem_of_mem_drop old)
        · rw [List.mem_singleton.mp new]
          exact sends
    · rw [receiver_run]
      exact plain.hand
    · intro task mem
      simp only [step, QueueRun.step, found, QueueRun.ran] at mem
      rcases Interleaving.mem_advance mem with rfl | started | other
      · exact SharedQueue.sends_perform plain.state sends
      · cases started
      · exact plain.tasks task (List.mem_of_mem_eraseIdx other)

theorem balanced_run (plain : self.Plain) (balanced : self.Balanced) (index : Nat) :
    (self.step (.run index)).Balanced := by
  cases found : self.tasks[index]? with
  | none =>
    refine balanced.still ?_ ?_ ?_ rfl ?_
    · simp [step, accepts, found]
    · simp [step, takes]
    · simp [step, evicts, found]
    · simp [step, QueueRun.step, found, remaining]
  | some current =>
    have effect := run_effect plain found
    obtain ⟨point, tag⟩ := current
    have remains : (self.step (.run index)).remaining =
        self.receiver.hand ++ (self.step (.run index)).shared.items.map (·.packet) := by
      rw [remaining, receiver_run]
    generalize after : self.step (.run index) = stepped at effect remains ⊢
    have accepted : stepped.accepted = self.accepted ++ self.accepts (.run index) := by rw [← after]; rfl
    have evicted : stepped.evicted = self.evicted ++ self.evicts (.run index) := by rw [← after]; rfl
    have taken : stepped.taken = self.taken := by
      rw [← after]
      exact List.append_nil _
    have drained : stepped.drained = self.drained := by rw [← after]; rfl
    cases effect with
    | still queue waits =>
      obtain ⟨accepts, evicts⟩ := run_still found waits
      rw [accepts, List.append_nil] at accepted
      rw [evicts, List.append_nil] at evicted
      exact balanced.still accepted taken evicted drained (by rw [remains, queue]; rfl)
    | @pushes _ _ force state goes items =>
      obtain ⟨accepts, evicts⟩ := run_pushes found goes
      rw [Balanced, accepted, taken, evicted, drained, remains, accepts, evicts, items]
      generalize (if force = true then self.shared.queued + 1 - self.shared.capacity else 0) =
        dropped
      rw [Balanced, remaining, ← List.take_append_drop dropped self.shared.items] at balanced
      classical
      simp only [List.perm_iff_count, List.count_append, List.map_append,
        List.map_singleton] at balanced ⊢
      intro item
      have before := balanced item
      omega

/-- A step that touches neither the queued packets nor the one popped. -/
structure Quiet (lane after : LaneRun Mark) : Prop where
  state : after.shared.state = lane.shared.state
  items : after.shared.items = lane.shared.items
  receiver : after.receiver = lane.receiver ∨
    after.receiver.hand = [] ∧ lane.receiver.hand = []
  tasks : ∀ task ∈ after.tasks, task ∈ lane.tasks ∨ task.point.Sends
  accepted : after.accepted = lane.accepted
  taken : after.taken = lane.taken
  evicted : after.evicted = lane.evicted
  drained : after.drained = lane.drained

section Quiet

variable {after : LaneRun Mark}

theorem Quiet.remaining (quiet : self.Quiet after) : after.remaining = self.remaining := by
  have hand : after.receiver.hand = self.receiver.hand := by
    rcases quiet.receiver with same | ⟨none, none'⟩
    · rw [same]
    · rw [none, none']
  rw [LaneRun.remaining, hand, quiet.items]
  rfl

theorem Quiet.balanced (quiet : self.Quiet after) (balanced : self.Balanced) : after.Balanced :=
  balanced.still quiet.accepted quiet.taken quiet.evicted quiet.drained quiet.remaining

theorem Quiet.plain (quiet : self.Quiet after) (plain : self.Plain) : after.Plain where
  state := quiet.state.trans plain.state
  items := by
    rw [quiet.items]
    exact plain.items
  hand looking queued there := by
    rcases quiet.receiver with same | ⟨none, -⟩
    · exact plain.hand looking queued (same.symm.trans there)
    · rw [there] at none
      cases none
  tasks task mem := by
    rcases quiet.tasks task mem with old | sends
    · exact plain.tasks task old
    · exact sends

end Quiet

theorem quiet_begin {operation : QueueOperation Mark}
    (allowed : (QueueEvent.begin operation).Plain) : self.Quiet (self.step (.begin operation)) where
  state := rfl
  items := rfl
  receiver := Or.inl rfl
  tasks task mem := by
    obtain old | new := List.mem_append.mp mem
    · exact Or.inl old
    · rw [List.mem_singleton.mp new]
      cases operation with
      | trySend | forceSend => exact Or.inr trivial
      | _ => cases allowed
  accepted := List.append_nil _
  taken := List.append_nil _
  evicted := List.append_nil _
  drained := rfl

theorem quiet_call (receiverCall : ReceiverCall) :
    self.Quiet (self.step (.call receiverCall)) := by
  have same : (self.toQueueRun.step (.call receiverCall)).1.shared = self.shared ∧
      (self.toQueueRun.step (.call receiverCall)).1.tasks = self.tasks ∧
      ((self.toQueueRun.step (.call receiverCall)).1.receiver = self.receiver ∨
        (self.toQueueRun.step (.call receiverCall)).1.receiver.hand = [] ∧
          self.receiver.hand = []) := by
    simp only [QueueRun.step, QueueRun.called]
    split
    · next there =>
        refine ⟨rfl, rfl, Or.inr ⟨?_, congrArg _ there⟩⟩
        cases receiverCall <;> rfl
    · exact ⟨rfl, rfl, Or.inl rfl⟩
  obtain ⟨shared, tasks, receiver⟩ := same
  exact ⟨congrArg (·.state) shared, congrArg (·.items) shared, receiver,
    fun task mem => Or.inl (tasks ▸ mem), List.append_nil _, List.append_nil _, List.append_nil _,
    rfl⟩

theorem quiet_abandon : self.Quiet (self.step .abandon) := by
  have same : (self.toQueueRun.step .abandon).1.shared.toPacketQueue = self.shared.toPacketQueue ∧
      (self.toQueueRun.step .abandon).1.tasks = self.tasks ∧
      ((self.toQueueRun.step .abandon).1.receiver = self.receiver ∨
        (self.toQueueRun.step .abandon).1.receiver.hand = [] ∧ self.receiver.hand = []) := by
    simp only [QueueRun.step, QueueRun.abandoned]
    split
    · next there => exact ⟨rfl, rfl, Or.inr ⟨rfl, congrArg _ there⟩⟩
    · exact ⟨rfl, rfl, Or.inl rfl⟩
  obtain ⟨shared, tasks, receiver⟩ := same
  exact ⟨congrArg (·.state) shared, congrArg (·.items) shared, receiver,
    fun task mem => Or.inl (tasks ▸ mem), List.append_nil _, List.append_nil _, List.append_nil _,
    rfl⟩

theorem quiet_cancel : self.Quiet (self.step .cancel) where
  state := rfl
  items := rfl
  receiver := Or.inl rfl
  tasks _ mem := Or.inl mem
  accepted := List.append_nil _
  taken := List.append_nil _
  evicted := List.append_nil _
  drained := rfl

/-- The writer takes nothing while no packet is popped for it. -/
theorem takes_receive (none : self.receiver.hand = []) : self.takes .receive = [] := by
  simp only [takes]
  split
  · next there =>
      rw [there] at none
      cases none
  · rfl

theorem plain_balanced_receive (plain : self.Plain) (balanced : self.Balanced) :
    (self.step .receive).Plain ∧ (self.step .receive).Balanced := by
  have effect : self.shared.ReceiverEffect self.receiver
      (self.shared.receive self.cancelled self.receiver) :=
    self.shared.receive_effect self.cancelled fun _ _ there => plain.current there
  have result : self.step .receive =
      { self with
        shared := (self.shared.receive self.cancelled self.receiver).1
        receiver := (self.shared.receive self.cancelled self.receiver).2
        taken := self.taken ++ self.takes .receive } := by
    simp only [step, QueueRun.step, QueueRun.received, accepts, evicts, List.append_nil]
  rw [result]
  generalize self.shared.receive self.cancelled self.receiver = received at effect
  generalize there : self.receiver = point at effect
  cases effect with
  | still state items hand hand' =>
    have hand : self.receiver.hand = [] := by rw [there, hand]
    rw [takes_receive hand, List.append_nil]
    have quiet : self.Quiet { self with shared := _, receiver := _ } :=
      ⟨state, items, Or.inr ⟨hand', hand⟩, fun _ mem => Or.inl mem, rfl, rfl, rfl, rfl⟩
    exact ⟨quiet.plain plain, quiet.balanced balanced⟩
  | @pops looking queued later state items =>
    have hand : self.receiver.hand = [] := by rw [there]; rfl
    rw [takes_receive hand, List.append_nil]
    have old (other : QueuedPacket Mark) (mem : other ∈ queued :: later.items) :
        other.epoch = queueActive >>> 1 := plain.items other (items ▸ mem)
    refine ⟨⟨state.trans plain.state, fun other mem => old other (List.mem_cons_of_mem _ mem),
      fun _ _ same => ?_, plain.tasks⟩, ?_⟩
    · cases same
      exact old queued List.mem_cons_self
    · rw [Balanced, remaining, hand, items] at balanced
      exact balanced
  | @hands looking queued =>
    have takes : self.takes .receive = [queued.packet] := by
      simp only [LaneRun.takes, there, plain.current there, if_true]
    rw [takes]
    refine ⟨⟨plain.state, plain.items, fun _ _ looks => (by cases looks), plain.tasks⟩, ?_⟩
    rw [Balanced, remaining, there] at balanced
    rw [Balanced, remaining]
    classical
    simp only [List.perm_iff_count, List.count_append, ReceiverPoint.hand,
      List.count_nil] at balanced ⊢
    intro item
    have before := balanced item
    omega

/-- The step lemma: packets are neither lost nor doubled. -/
theorem plain_balanced_step (plain : self.Plain) (balanced : self.Balanced)
    (allowed : event.Plain) : (self.step event).Plain ∧ (self.step event).Balanced := by
  cases event with
  | begin operation =>
    have quiet : self.Quiet _ := quiet_begin allowed
    exact ⟨quiet.plain plain, quiet.balanced balanced⟩
  | run index => exact ⟨plain_run plain index, balanced_run plain balanced index⟩
  | call receiverCall =>
    have quiet : self.Quiet _ := quiet_call receiverCall
    exact ⟨quiet.plain plain, quiet.balanced balanced⟩
  | receive => exact plain_balanced_receive plain balanced
  | abandon =>
    have quiet : self.Quiet _ := quiet_abandon
    exact ⟨quiet.plain plain, quiet.balanced balanced⟩
  | cancel =>
    have quiet : self.Quiet _ := quiet_cancel
    exact ⟨quiet.plain plain, quiet.balanced balanced⟩

/-- One turn of the drain. -/
theorem plain_balanced_steal (plain : self.Plain) (balanced : self.Balanced)
    {packet : Mark × PacketBuf} {after : LaneRun Mark} (steals : self.steal = some (packet, after)) :
    after.Plain ∧ after.Balanced := by
  rw [steal] at steals
  split at steals
  · next queued queue popped =>
      cases steals
      have items : self.shared.items = queued :: queue.items := ArrayQueue.pop_spec popped
      refine ⟨⟨plain.state, fun other mem => ?_, plain.hand, plain.tasks⟩, ?_⟩
      · exact plain.items other (items ▸ List.mem_cons_of_mem _ mem)
      · have later : ({ self.shared with queue := queue } : SharedQueue Mark).items =
            queue.items := rfl
        rw [Balanced, remaining, items] at balanced
        rw [Balanced, remaining, later]
        classical
        simp only [List.perm_iff_count, List.count_append, List.map_cons, List.count_cons,
          List.count_nil] at balanced ⊢
        intro item
        have before := balanced item
        omega
  · cases steals

theorem receiver_of_closed (closed : self.closed = true) : self.receiver = .dropped := by
  rw [LaneRun.closed] at closed
  split at closed
  · assumption
  · cases closed

theorem closed_step (closed : self.closed = true) (event : QueueEvent Mark) :
    (self.step event).closed = true := by
  have there := receiver_of_closed closed
  have receiver : (self.step event).receiver = .dropped := by
    cases event with
    | run index => exact (receiver_run index).trans there
    | begin | cancel => exact there
    | call receiverCall => simp only [step, QueueRun.step, QueueRun.called, there]
    | receive => simp only [step, QueueRun.step, QueueRun.received, SharedQueue.receive, there]
    | abandon => simp only [step, QueueRun.step, QueueRun.abandoned, there]
  rw [LaneRun.closed, receiver]

/-- The drain ends when nothing remains. -/
theorem remaining_of_steal (closed : self.closed = true) (none : self.steal = none) :
    self.remaining = [] := by
  rw [steal] at none
  split at none
  · cases none
  · next empty =>
      rw [remaining, receiver_of_closed closed]
      exact congrArg (List.map _) (ArrayQueue.pop_eq_none.mp empty)

theorem receiver_steal {packet : Mark × PacketBuf} {after : LaneRun Mark}
    (steals : self.steal = some (packet, after)) : after.receiver = self.receiver := by
  rw [steal] at steals
  split at steals
  · cases steals
    rfl
  · cases steals

/-- Behind the end of its receiver a queue changes by the pushes of senders alone. -/
theorem remaining_step (plain : self.Plain) (closed : self.closed = true)
    (allowed : event.Plain) (idle : self.accepts event = []) :
    (self.step event).remaining = self.remaining := by
  cases event with
  | begin operation => exact (quiet_begin allowed : self.Quiet _).remaining
  | call receiverCall => exact (quiet_call receiverCall : self.Quiet _).remaining
  | abandon => exact (quiet_abandon : self.Quiet _).remaining
  | cancel => exact (quiet_cancel : self.Quiet _).remaining
  | receive =>
    have there := receiver_of_closed closed
    simp only [remaining, step, QueueRun.step, QueueRun.received, SharedQueue.receive, there]
  | run index =>
    rw [remaining, receiver_run]
    cases found : self.tasks[index]? with
    | none =>
      simp only [step, QueueRun.step, found]
      rfl
    | some current =>
      have effect := run_effect plain found
      obtain ⟨point, tag⟩ := current
      generalize self.step (.run index) = after at effect
      cases effect with
      | still queue =>
        rw [queue]
        rfl
      | pushes state goes items =>
        rw [(run_pushes found goes).1] at idle
        cases idle

/-- What a sender pushes stays behind. -/
theorem remaining_run_ne_nil (plain : self.Plain) {index : Nat}
    (pushes : self.accepts (.run index) ≠ []) : (self.step (.run index)).remaining ≠ [] := by
  cases found : self.tasks[index]? with
  | none => exact absurd (by simp only [accepts, found]) pushes
  | some current =>
    have effect := run_effect plain found
    obtain ⟨point, tag⟩ := current
    rw [remaining]
    generalize self.step (.run index) = after at effect ⊢
    cases effect with
    | still queue waits => exact absurd (run_still found waits).1 pushes
    | pushes state goes items =>
      rw [items]
      simp

/-- All that went in came out exactly if nothing remains. -/
theorem Balanced.out_iff (balanced : self.Balanced) :
    self.accepted ~ self.taken ++ self.evicted ++ self.drained ↔ self.remaining = [] := by
  constructor
  · intro out
    have lengths := (out.symm.trans balanced).length_eq
    simp only [List.length_append] at lengths
    exact List.eq_nil_of_length_eq_zero (by omega)
  · intro none
    rw [Balanced, none, List.append_nil] at balanced
    exact balanced

end LaneRun

namespace TeardownRun

/-- Every packet for which a send returned `Ok` came out exactly once, received by the
writer, pushed out by a forced send or drained, or is still in its queue, and none is in a
queue that the drain has found empty. -/
def Kept (self : TeardownRun Mark) : Prop :=
  ∀ lane, (self.lanes lane).Balanced ∧
    (self.stage.emptied lane = true →
      (self.lanes lane).accepted ~
        (self.lanes lane).taken ++ (self.lanes lane).evicted ++ (self.lanes lane).drained)

/-- No packet goes into a queue that the drain has found empty. -/
def InTime (self : TeardownRun Mark) (event : TeardownEvent Mark) : Prop :=
  ∀ lane index, event = .run lane index → (self.lanes lane).accepts (.run index) ≠ [] →
    self.stage.emptied lane = false

/-- What holds always. The drain begins when the receivers are gone. -/
structure Sound (run : TeardownRun Mark) : Prop where
  plain : ∀ lane, (run.lanes lane).Plain
  balanced : ∀ lane, (run.lanes lane).Balanced
  closed : run.stage.drains = true → ∀ lane, (run.lanes lane).closed = true

variable {self : TeardownRun Mark}

theorem sound_start : (start : TeardownRun Mark).Sound where
  plain lane := LaneRun.plain_start lane.capacity
  balanced lane := LaneRun.balanced_start lane.capacity
  closed begun := by cases begun

/-- A queue that was found empty is still empty. -/
def Clear (self : TeardownRun Mark) : Prop :=
  ∀ lane, self.stage.emptied lane = true → (self.lanes lane).remaining = []

theorem Sound.kept_iff (sound : self.Sound) : self.Kept ↔ self.Clear := by
  constructor
  · intro kept lane emptied
    exact (sound.balanced lane).out_iff.mp ((kept lane).2 emptied)
  · intro clear lane
    exact ⟨sound.balanced lane, fun emptied => (sound.balanced lane).out_iff.mpr (clear lane emptied)⟩

theorem drains_of_emptied {stage : TeardownStage Mark} {lane : Lane}
    (emptied : stage.emptied lane = true) : stage.drains = true := by
  cases stage with
  | draining | redispatching | done => rfl
  | running | unhealthy | stopping => cases emptied

theorem lanes_onLane (self : TeardownRun Mark) (lane other : Lane) (event : QueueEvent Mark) :
    (self.onLane lane event).lanes other =
      if other = lane then (self.lanes lane).step event else self.lanes other :=
  Function.update_apply ..

theorem sound_onLane (sound : self.Sound) (lane : Lane) {event : QueueEvent Mark}
    (allowed : event.Plain) : (self.onLane lane event).Sound := by
  have both := LaneRun.plain_balanced_step (sound.plain lane) (sound.balanced lane) allowed
  refine ⟨fun other => ?_, fun other => ?_, fun begun other => ?_⟩
  all_goals
    rw [lanes_onLane]
    split
  · exact both.1
  · exact sound.plain other
  · exact both.2
  · exact sound.balanced other
  · exact LaneRun.closed_step (sound.closed begun lane) event
  · exact sound.closed begun other

/-- A step on one queue leaves the emptied ones empty, exactly if it pushes onto none. -/
theorem clear_onLane_iff (sound : self.Sound) (clear : self.Clear) (lane : Lane)
    {event : QueueEvent Mark} (allowed : event.Plain)
    (runs : (self.lanes lane).accepts event ≠ [] → ∃ index, event = .run index) :
    (self.onLane lane event).Clear ↔
      ((self.lanes lane).accepts event ≠ [] → self.stage.emptied lane = false) := by
  constructor
  · intro after pushes
    obtain ⟨index, rfl⟩ := runs pushes
    by_contra emptied
    have none := after lane (Bool.of_not_eq_false emptied)
    rw [lanes_onLane, if_pos rfl] at none
    exact LaneRun.remaining_run_ne_nil (sound.plain lane) pushes none
  · intro inTime other emptied
    rw [lanes_onLane]
    split
    · next same =>
        subst same
        have closed := sound.closed (drains_of_emptied emptied) other
        have idle : (self.lanes other).accepts event = [] := by
          by_contra pushes
          exact Bool.false_ne_true ((inTime pushes).symm.trans emptied)
        rw [LaneRun.remaining_step (sound.plain other) closed allowed idle]
        exact clear other emptied
    · exact clear other emptied

theorem clear_onLane (sound : self.Sound) (clear : self.Clear) (lane : Lane)
    (event : QueueEvent Mark) (allowed : event.Plain)
    (idle : (self.lanes lane).accepts event = []) : (self.onLane lane event).Clear :=
  (clear_onLane_iff sound clear lane allowed fun pushes => absurd idle pushes).mpr
    fun pushes => absurd idle pushes

/-- A step of the session's end. -/
theorem sound_tearDown (sound : self.Sound) : self.tearDown.Sound := by
  cases stage : self.stage with
  | running =>
    simp only [tearDown, stage]
    exact ⟨sound.plain, sound.balanced, nofun⟩
  | unhealthy =>
    simp only [tearDown, stage]
    refine ⟨fun lane => ?_, fun lane => ?_, nofun⟩
    · exact (LaneRun.quiet_cancel : (self.lanes lane).Quiet _).plain (sound.plain lane)
    · exact (LaneRun.quiet_cancel : (self.lanes lane).Quiet _).balanced (sound.balanced lane)
  | stopping =>
    simp only [tearDown, stage]
    split
    · next closed =>
        simp only [Bool.and_eq_true] at closed
        refine ⟨sound.plain, sound.balanced, fun _ lane => ?_⟩
        cases lane with
        | latency => exact closed.1.1
        | priority => exact closed.1.2
        | bulk => exact closed.2
    · exact sound
  | draining lane packets =>
    have begun : self.stage.drains = true := by rw [stage]; rfl
    cases steals : (self.lanes lane).steal with
    | none =>
      simp only [tearDown, stage, steals]
      exact ⟨sound.plain, sound.balanced, fun _ => sound.closed begun⟩
    | some stolen =>
      obtain ⟨packet, after⟩ := stolen
      have both := LaneRun.plain_balanced_steal (sound.plain lane) (sound.balanced lane) steals
      have closed : after.closed = true := by
        rw [LaneRun.closed, LaneRun.receiver_steal steals]
        exact sound.closed begun lane
      simp only [tearDown, stage, steals]
      refine ⟨fun other => ?_, fun other => ?_, fun _ other => ?_⟩
      all_goals
        dsimp only
        rw [Function.update_apply]
        split
      · exact both.1
      · exact sound.plain other
      · exact both.2
      · exact sound.balanced other
      · exact closed
      · exact sound.closed begun other
  | redispatching packets =>
    have begun : self.stage.drains = true := by rw [stage]; rfl
    simp only [tearDown, stage]
    exact ⟨sound.plain, sound.balanced, fun _ => sound.closed begun⟩
  | done =>
    simp only [tearDown, stage]
    exact sound

theorem clear_of_not_drains (none : self.stage.drains = false) : self.Clear := by
  intro lane emptied
  have begun := drains_of_emptied emptied
  rw [none] at begun
  cases begun

/-- Behind a queue that was found empty the drain goes on with the next. -/
theorem emptied_next {lane other : Lane} {packets : List (Mark × PacketBuf)}
    (emptied : TeardownStage.emptied other
      (lane.next?.elim (.redispatching packets) fun next => .draining next packets) = true) :
    other = lane ∨ TeardownStage.emptied other (.draining lane packets) = true := by
  cases lane <;> cases other <;> simp_all [Lane.next?, TeardownStage.emptied]

theorem clear_tearDown (sound : self.Sound) (clear : self.Clear) : self.tearDown.Clear := by
  cases stage : self.stage with
  | running | unhealthy =>
    apply clear_of_not_drains
    simp only [tearDown, stage]
    rfl
  | stopping =>
    simp only [tearDown, stage]
    split
    · exact nofun
    · exact clear
  | draining lane packets =>
    have begun : self.stage.drains = true := by rw [stage]; rfl
    cases steals : (self.lanes lane).steal with
    | none =>
      simp only [tearDown, stage, steals]
      intro other emptied
      rcases emptied_next emptied with rfl | before
      · exact LaneRun.remaining_of_steal (sound.closed begun other) steals
      · exact clear other (by rw [stage]; exact before)
    | some stolen =>
      obtain ⟨packet, after⟩ := stolen
      simp only [tearDown, stage, steals]
      intro other emptied
      have apart : other ≠ lane := by
        rintro rfl
        cases other <;> cases emptied
      have same : TeardownStage.emptied other (.draining lane (packets ++ [packet])) =
          TeardownStage.emptied other (.draining lane packets) := by
        cases lane <;> rfl
      dsimp only
      rw [Function.update_apply, if_neg apart]
      exact clear other (by rw [stage, ← same]; exact emptied)
  | redispatching packets =>
    simp only [tearDown, stage]
    exact fun other _ => clear other (by rw [stage]; rfl)
  | done =>
    simp only [tearDown, stage]
    exact clear

/-- The writer is stopped, which takes nothing from a queue. -/
theorem sound_stopped (sound : self.Sound) :
    ({ self with
      lanes := fun lane => (self.lanes lane).step .abandon
      writerStopped := true } : TeardownRun Mark).Sound where
  plain lane := (LaneRun.quiet_abandon : (self.lanes lane).Quiet _).plain (sound.plain lane)
  balanced lane :=
    (LaneRun.quiet_abandon : (self.lanes lane).Quiet _).balanced (sound.balanced lane)
  closed begun lane := LaneRun.closed_step (sound.closed begun lane) .abandon

/-- One step: the emptied queues stay empty exactly if nothing is pushed onto them. -/
theorem sound_clear_step (sound : self.Sound) (clear : self.Clear) (event : TeardownEvent Mark) :
    (self.step event).1.Sound ∧ ((self.step event).1.Clear ↔ self.InTime event) := by
  have idle : (∀ lane index, event ≠ .run lane index) → self.InTime event :=
    fun other lane index same => absurd same (other lane index)
  cases event with
  | send lane packet force =>
    have allowed : (QueueEvent.begin
        (if force then .forceSend packet else .trySend packet)).Plain := by
      cases force <;> trivial
    exact ⟨sound_onLane sound lane allowed,
      iff_of_true (clear_onLane sound clear lane _ allowed rfl) (idle nofun)⟩
  | run lane index =>
    refine ⟨sound_onLane sound lane trivial, ?_⟩
    have allowed : (QueueEvent.run index : QueueEvent Mark).Plain := trivial
    rw [step, clear_onLane_iff sound clear lane allowed fun _ => ⟨index, rfl⟩]
    constructor
    · intro inTime _ _ same
      cases same
      exact inTime
    · intro inTime
      exact inTime lane index rfl
  | call lane receiverCall =>
    simp only [step]
    split
    · exact ⟨sound_onLane sound lane trivial,
        iff_of_true (clear_onLane sound clear lane _ trivial rfl) (idle nofun)⟩
    · exact ⟨sound, iff_of_true clear (idle nofun)⟩
  | receive lane | abandon lane =>
    exact ⟨sound_onLane sound lane trivial,
      iff_of_true (clear_onLane sound clear lane _ trivial rfl) (idle nofun)⟩
  | stopWriter =>
    simp only [step]
    split
    · refine ⟨sound_stopped sound, iff_of_true (fun lane emptied => ?_) (idle nofun)⟩
      exact (LaneRun.quiet_abandon : (self.lanes lane).Quiet _).remaining.trans (clear lane emptied)
    · exact ⟨sound, iff_of_true clear (idle nofun)⟩
  | teardown =>
    exact ⟨sound_tearDown sound, iff_of_true (clear_tearDown sound clear) (idle nofun)⟩

/-- In every interleaving every packet for which a send returned `Ok` comes out of its queue
exactly once, exactly if no sender pushes onto a queue that the drain has found empty. -/
theorem teardown_kept (events : List (TeardownEvent Mark)) :
    Transducer.Throughout step start events Kept ↔
      Transducer.AtEveryStep step start events InTime := by
  have initial : (start : TeardownRun Mark).Clear := clear_of_not_drains rfl
  exact Transducer.throughout_iff_atEveryStep step sound_start (sound_start.kept_iff.mpr initial)
    (fun state event sound kept => (sound_clear_step sound (sound.kept_iff.mp kept) event).1)
    fun state event sound kept => by
      have after := sound_clear_step sound (sound.kept_iff.mp kept) event
      rw [after.1.kept_iff]
      exact after.2

/-- A sender finds the receiver open, the session ends and drains its queues, and then the
sender pushes. -/
def lateSend : List (TeardownEvent Unit) :=
  [.send .bulk ((), QueueRun.emptyPacket) false, .run .bulk 0, .run .bulk 0, .teardown, .teardown,
    .stopWriter, .call .latency .close, .receive .latency, .receive .latency,
    .call .priority .close, .receive .priority, .receive .priority, .call .bulk .close,
    .receive .bulk, .receive .bulk, .teardown, .teardown, .teardown, .teardown, .teardown,
    .run .bulk 0, .run .bulk 0, .run .bulk 0]

/-- The send returns `Ok`, and its packet stays in the queue that nobody owns any more. -/
theorem teardown_loses :
    ¬ Transducer.Throughout step start lateSend Kept := by
  intro kept
  have last := ((kept _ (List.prefix_refl _)) .bulk).2 (by decide +kernel)
  have lengths := last.length_eq
  revert lengths
  decide +kernel

end TeardownRun

end Csqtt
