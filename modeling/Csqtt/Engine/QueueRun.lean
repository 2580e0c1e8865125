/-
Module: Csqtt.Engine.QueueRun
Purpose: The packet queue with any number of senders at once and one receiver, and a resume beside
  them: each step is one atomic operation of one of them.
Trusted boundary: the order of atomic operations is one for all threads
Main exports: SharedQueue, QueuePoint, ReceiverPoint, perform, receive, QueueEvent, QueueRun, step,
  ResumeRun, ResumeEvent, hasRead, resumed, Fresh
-/
import Csqtt.Core.Interleaving
import Csqtt.Core.Notify
import Csqtt.Core.Transducer
import Csqtt.Engine.PacketQueue
import Mathlib.Logic.Function.Iterate

namespace Csqtt

/-- The queue, the number of its senders, and the receiver's wake-ups. -/
structure SharedQueue (Mark : Type*) extends PacketQueue Mark where
  senders : Nat
  notify : Notify

/-- The points of the functions that a sender calls, or the receiver's owner apart from
receiving. A call of `send` ends with the packet if it was not taken. -/
inductive QueuePoint (Mark : Type*) where
  | returned (refused : Option (Mark × PacketBuf))
  | sendOpen (packet : Mark × PacketBuf) (force : Bool)
  | sendState (packet : Mark × PacketBuf) (force : Bool)
  | sendPush (queued : QueuedPacket Mark) (force : Bool)
  | sendLength
  | sendNotify
  | stealPop (taken : List (Mark × PacketBuf))
  | stolen (taken : List (Mark × PacketBuf))
  | cloneCount
  | dropCount
  | dropNotify
  | resumeState
  | resumeEpoch (epoch : U64)
  | resumePurge (epoch : U64)
  | resumeActive (epoch : U64)
  | resumeNotify
  | suspendState
  | suspendStore (state : U64)
  | suspendPurge
  | suspendNotify

/-- What the receiver looks into the queue for: a single try, or a `recv` that has yet to
announce itself, or has done so. -/
inductive Looking where
  | once
  | before
  | after (seen : Nat)
deriving DecidableEq, Repr

/-- The points of the receiver. -/
inductive ReceiverPoint (Mark : Type*) where
  | returned (received : Option (Mark × PacketBuf))
  | cancelled
  | pop (looking : Looking)
  | epoch (looking : Looking) (queued : QueuedPacket Mark)
  | senders (looking : Looking)
  | notified
  | selectCancelled (seen : Nat)
  | claim (seen : Nat)
  | enlist (seen : Nat)
  | waiting
  | close
  | closeNotify
  | dropped

namespace Looking

variable {Mark : Type*}

/-- Where an empty queue leads the receiver. -/
def empty : Looking → ReceiverPoint Mark
  | .once => .returned none
  | .before => .senders .before
  | .after seen => .senders (.after seen)

/-- Where the receiver goes from an empty queue that still has senders. -/
def stays : Looking → ReceiverPoint Mark
  | .after seen => .selectCancelled seen
  | _ => .notified

end Looking

namespace SharedQueue

variable {Mark : Type*}

/-- One atomic operation of a sender. -/
def perform (self : SharedQueue Mark) : QueuePoint Mark → SharedQueue Mark × QueuePoint Mark
  | .returned refused => (self, .returned refused)
  | .sendOpen packet force =>
      (self, if self.receiverOpen then .sendState packet force else .returned (some packet))
  | .sendState packet force =>
      (self,
        if self.isActive then .sendPush { packet := packet, epoch := self.state >>> 1 } force
        else .returned (some packet))
  | .sendPush queued force =>
      if force then
        ({ self with queue := self.queue.forcePush self.positive queued }, .sendNotify)
      else
        match self.queue.push queued with
        | some queue => ({ self with queue := queue }, .sendLength)
        | none => (self, .returned (some queued.packet))
  | .sendLength => (self, if self.queued = 1 then .sendNotify else .returned none)
  | .sendNotify => ({ self with notify := self.notify.notifyOne }, .returned none)
  | .stealPop taken =>
      match self.queue.pop with
      | some (queued, queue) => ({ self with queue := queue }, .stealPop (taken ++ [queued.packet]))
      | none => (self, .stolen taken)
  | .stolen taken => (self, .stolen taken)
  | .cloneCount => ({ self with senders := self.senders + 1 }, .returned none)
  | .dropCount =>
      ({ self with senders := self.senders - 1 },
        if self.senders = 1 then .dropNotify else .returned none)
  | .dropNotify => ({ self with notify := self.notify.notifyWaiters }, .returned none)
  | .resumeState => (self, .resumeEpoch (saturatingAdd (self.state >>> 1) 1#64))
  | .resumeEpoch epoch => ({ self with state := epoch <<< 1 }, .resumePurge epoch)
  | .resumePurge epoch =>
      match self.queue.pop with
      | some (_, queue) => ({ self with queue := queue }, .resumePurge epoch)
      | none => (self, .resumeActive epoch)
  | .resumeActive epoch => ({ self with state := (epoch <<< 1) ||| queueActive }, .resumeNotify)
  | .resumeNotify => ({ self with notify := self.notify.notifyWaiters }, .returned none)
  | .suspendState => (self, .suspendStore self.state)
  | .suspendStore state => ({ self with state := state &&& ~~~queueActive }, .suspendPurge)
  | .suspendPurge =>
      match self.queue.pop with
      | some (_, queue) => ({ self with queue := queue }, .suspendPurge)
      | none => (self, .suspendNotify)
  | .suspendNotify => ({ self with notify := self.notify.notifyWaiters }, .returned none)

/-- One atomic operation of the receiver. -/
def receive (self : SharedQueue Mark) (cancelled : Bool) :
    ReceiverPoint Mark → SharedQueue Mark × ReceiverPoint Mark
  | .returned received => (self, .returned received)
  | .cancelled => (self, if cancelled then .returned none else .pop .before)
  | .pop looking =>
      match self.queue.pop with
      | some (queued, queue) => ({ self with queue := queue }, .epoch looking queued)
      | none => (self, looking.empty)
  | .epoch looking queued =>
      (self,
        if self.isActive && queued.epoch == self.state >>> 1 then .returned (some queued.packet)
        else .pop looking)
  | .senders looking => (self, if self.senders = 0 then .returned none else looking.stays)
  | .notified => (self, .pop (.after self.notify.notified))
  | .selectCancelled seen => (self, if cancelled then .returned none else .claim seen)
  | .claim seen =>
      match self.notify.claim with
      | some notify => ({ self with notify := notify }, .cancelled)
      | none => (self, .enlist seen)
  | .enlist seen =>
      let listed := self.notify.enlist seen
      ({ self with notify := listed.1 }, if listed.2 then .cancelled else .waiting)
  | .waiting =>
      if cancelled then ({ self with notify := self.notify.leave }, .returned none)
      else
        match self.notify.poll with
        | some notify => ({ self with notify := notify }, .cancelled)
        | none => (self, .waiting)
  | .close => ({ self with receiverOpen := false }, .closeNotify)
  | .closeNotify => ({ self with notify := self.notify.notifyWaiters }, .dropped)
  | .dropped => (self, .dropped)

end SharedQueue

/-!
### A function that nobody interrupts
-/

namespace SharedQueue

variable {Mark : Type*}

/-- One operation of a sender after the other. -/
def turn (found : SharedQueue Mark × QueuePoint Mark) : SharedQueue Mark × QueuePoint Mark :=
  found.1.perform found.2

theorem send_alone (self : SharedQueue Mark) (packet : Mark × PacketBuf) (force : Bool) :
    ∃ turns shared refused, turn^[turns] (self, .sendOpen packet force) =
        (shared, .returned refused) ∧
      self.send packet force =
        match refused with
        | none => .ok shared.toPacketQueue
        | some refused => .error refused := by
  by_cases reachable : self.receiverOpen = true
  · by_cases active : self.isActive = true
    · cases force with
      | true =>
          refine ⟨4, { self with
            queue := self.queue.forcePush self.positive
              { packet := packet, epoch := self.state >>> 1 }
            notify := self.notify.notifyOne }, none, ?_, ?_⟩
          · simp [turn, perform, reachable, active]
          · simp [PacketQueue.send, reachable, active]
      | false =>
          cases pushed : self.queue.push { packet := packet, epoch := self.state >>> 1 } with
          | none =>
              refine ⟨3, self, some packet, ?_, ?_⟩
              · simp [turn, perform, reachable, active, pushed]
              · simp [PacketQueue.send, reachable, active, pushed]
          | some queue =>
              have placed : turn^[3] (self, .sendOpen packet false) =
                  ({ self with queue := queue }, .sendLength) := by
                simp [turn, perform, reachable, active, pushed]
              have taken : self.send packet false =
                  .ok { self.toPacketQueue with queue := queue } := by
                simp [PacketQueue.send, reachable, active, pushed]
              by_cases first : queue.items.length = 1
              · refine ⟨2 + 3, { self with queue := queue, notify := self.notify.notifyOne }, none,
                  ?_, taken⟩
                rw [Function.iterate_add_apply, placed]
                simp [turn, perform, PacketQueue.queued, PacketQueue.items, first]
              · refine ⟨1 + 3, { self with queue := queue }, none, ?_, taken⟩
                rw [Function.iterate_add_apply, placed]
                simp [turn, perform, PacketQueue.queued, PacketQueue.items, first]
    · refine ⟨2, self, some packet, ?_, ?_⟩
      · simp [turn, perform, reachable, active]
      · simp [PacketQueue.send, reachable, active]
  · refine ⟨1, self, some packet, ?_, ?_⟩
    · simp [turn, perform, reachable]
    · simp [PacketQueue.send, reachable]

/-- To take packet after packet empties the queue. -/
theorem steal_alone (self : SharedQueue Mark) (taken : List (Mark × PacketBuf)) :
    ∃ turns, turn^[turns] (self, .stealPop taken) =
      ({ self with toPacketQueue := self.steal.1 }, .stolen (taken ++ self.steal.2)) := by
  obtain ⟨packets, same⟩ : ∃ packets, self.queue.items = packets := ⟨_, rfl⟩
  induction packets generalizing self taken with
  | nil =>
      refine ⟨1, ?_⟩
      have none : self.queue.pop = none := ArrayQueue.pop_eq_none.mpr same
      have empty : self.queue = .empty := ArrayQueue.ext same
      simp [turn, perform, none, PacketQueue.steal, PacketQueue.items, same, ← empty]
  | cons first packets inductionHypothesis =>
      obtain ⟨queue, popped, rest⟩ := ArrayQueue.pop_of_cons same
      obtain ⟨turns, whole⟩ := inductionHypothesis { self with queue := queue }
        (taken ++ [first.packet]) rest
      refine ⟨turns + 1, ?_⟩
      rw [Function.iterate_add_apply]
      have begun : turn^[1] (self, .stealPop taken) =
          ({ self with queue := queue }, .stealPop (taken ++ [first.packet])) := by
        simp [turn, perform, popped]
      rw [begun, whole]
      simp [PacketQueue.steal, PacketQueue.items, same, rest]

/-- A purge empties the queue, and goes on to what comes after it. -/
theorem purge_alone {purging after : QueuePoint Mark}
    (purges : ∀ self : SharedQueue Mark, self.perform purging =
      match self.queue.pop with
      | some (_, queue) => ({ self with queue := queue }, purging)
      | none => (self, after))
    (self : SharedQueue Mark) :
    ∃ turns, turn^[turns] (self, purging) = ({ self with queue := .empty }, after) := by
  obtain ⟨packets, same⟩ : ∃ packets, self.queue.items = packets := ⟨_, rfl⟩
  induction packets generalizing self with
  | nil =>
      refine ⟨1, ?_⟩
      have none : self.queue.pop = none := ArrayQueue.pop_eq_none.mpr same
      have empty : self.queue = .empty := ArrayQueue.ext same
      simp [turn, purges, none, ← empty]
  | cons first packets inductionHypothesis =>
      obtain ⟨queue, popped, rest⟩ := ArrayQueue.pop_of_cons same
      obtain ⟨turns, whole⟩ := inductionHypothesis { self with queue := queue } rest
      refine ⟨turns + 1, ?_⟩
      rw [Function.iterate_add_apply, ← whole]
      simp [turn, purges, popped]

theorem resume_alone (self : SharedQueue Mark) :
    ∃ turns, turn^[turns] (self, .resumeState) =
      ({ self with
          toPacketQueue := self.resume
          notify := self.notify.notifyWaiters }, .returned none) := by
  obtain ⟨purge, purged⟩ := @purge_alone Mark
    (.resumePurge (saturatingAdd (self.state >>> 1) 1#64)) _ (fun _ => rfl)
    { self with state := saturatingAdd (self.state >>> 1) 1#64 <<< 1 }
  refine ⟨2 + (purge + 2), ?_⟩
  rw [Function.iterate_add_apply, Function.iterate_add_apply]
  have begun : turn^[2] (self, .resumeState) =
      ({ self with state := saturatingAdd (self.state >>> 1) 1#64 <<< 1 },
        .resumePurge (saturatingAdd (self.state >>> 1) 1#64)) := rfl
  rw [begun, purged]
  rfl

theorem suspend_alone (self : SharedQueue Mark) :
    ∃ turns, turn^[turns] (self, .suspendState) =
      ({ self with
          toPacketQueue := self.suspend
          notify := self.notify.notifyWaiters }, .returned none) := by
  obtain ⟨purge, purged⟩ := @purge_alone Mark .suspendPurge _ (fun _ => rfl)
    { self with state := self.state &&& ~~~queueActive }
  refine ⟨1 + (purge + 2), ?_⟩
  rw [Function.iterate_add_apply, Function.iterate_add_apply]
  have begun : turn^[2] (self, .suspendState) =
      ({ self with state := self.state &&& ~~~queueActive }, .suspendPurge) := rfl
  rw [begun, purged]
  rfl

/-- One operation of the receiver after the other. -/
def receiveTurn (cancelled : Bool) (found : SharedQueue Mark × ReceiverPoint Mark) :
    SharedQueue Mark × ReceiverPoint Mark :=
  found.1.receive cancelled found.2

theorem tryRecv_alone (self : SharedQueue Mark) (cancelled : Bool) :
    ∃ turns, (receiveTurn cancelled)^[turns] (self, .pop .once) =
      ({ self with toPacketQueue := self.tryRecv.1 }, .returned self.tryRecv.2) := by
  obtain ⟨packets, same⟩ : ∃ packets, self.queue.items = packets := ⟨_, rfl⟩
  induction packets generalizing self with
  | nil =>
      refine ⟨1, ?_⟩
      have none : self.queue.pop = none := ArrayQueue.pop_eq_none.mpr same
      rw [PacketQueue.tryRecv_of_empty same]
      simp [receiveTurn, receive, none, Looking.empty]
  | cons first packets inductionHypothesis =>
      obtain ⟨queue, popped, rest⟩ := ArrayQueue.pop_of_cons same
      have begun : (receiveTurn cancelled)^[2] (self, .pop .once) =
          ({ self with queue := queue },
            if self.isActive && first.epoch == self.state >>> 1 then
              .returned (some first.packet)
            else .pop .once) := by
        simp [receiveTurn, receive, popped, PacketQueue.isActive]
      rw [PacketQueue.tryRecv_of_cons popped]
      by_cases current : (self.isActive && first.epoch == self.state >>> 1) = true
      · refine ⟨2, ?_⟩
        rw [begun, if_pos current, if_pos current]
      · obtain ⟨turns, whole⟩ := inductionHypothesis { self with queue := queue } rest
        refine ⟨turns + 2, ?_⟩
        rw [Function.iterate_add_apply, begun, if_neg current, if_neg current, whole]

end SharedQueue

/-- The functions that are called at any time, by any number of threads at once. -/
inductive QueueOperation (Mark : Type*) where
  | trySend (packet : Mark × PacketBuf)
  | forceSend (packet : Mark × PacketBuf)
  | steal
  | clone
  | drop
  | resume
  | suspend

def QueueOperation.point {Mark : Type*} : QueueOperation Mark → QueuePoint Mark
  | .trySend packet => .sendOpen packet false
  | .forceSend packet => .sendOpen packet true
  | .steal => .stealPop []
  | .clone => .cloneCount
  | .drop => .dropCount
  | .resume => .resumeState
  | .suspend => .suspendState

/-- What the receiver is called for, one call at a time. -/
inductive ReceiverCall where
  | recv
  | tryRecv
  | close
deriving DecidableEq, Repr

def ReceiverCall.point {Mark : Type*} : ReceiverCall → ReceiverPoint Mark
  | .recv => .cancelled
  | .tryRecv => .pop .once
  | .close => .close

/-- A thread begins or makes a step, the receiver is called or makes a step, a `recv` that
waits is given up by its caller, or the session is cancelled. -/
inductive QueueEvent (Mark : Type*) where
  | begin (operation : QueueOperation Mark)
  | run (index : Nat)
  | call (receiverCall : ReceiverCall)
  | receive
  | abandon
  | cancel

/-- A thread, with the operation it was begun for. -/
abbrev QueueTask (Mark : Type*) := Thread (QueuePoint Mark) (QueueOperation Mark)

structure QueueRun (Mark : Type*) where
  shared : SharedQueue Mark
  tasks : List (QueueTask Mark)
  receiver : ReceiverPoint Mark
  cancelled : Bool

namespace QueueRun

variable {Mark : Type*}

def start (capacity : Nat) (active : Bool) : QueueRun Mark where
  shared := { packetChannel capacity active with senders := 1, notify := .new }
  tasks := []
  receiver := .returned none
  cancelled := false

def ran (self : QueueRun Mark) (index : Nat) (current : QueueTask Mark) : QueueRun Mark :=
  let after := self.shared.perform current.point
  { self with
    shared := after.1
    tasks := Interleaving.advance self.tasks index { current with point := after.2 } [] }

/-- Between two calls of the receiver. -/
def called (self : QueueRun Mark) (receiverCall : ReceiverCall) : QueueRun Mark :=
  match self.receiver with
  | .returned _ => { self with receiver := receiverCall.point }
  | _ => self

def abandoned (self : QueueRun Mark) : QueueRun Mark :=
  match self.receiver with
  | .waiting =>
      { self with
        shared := { self.shared with notify := self.shared.notify.leave }
        receiver := .returned none }
  | _ => self

def received (self : QueueRun Mark) : QueueRun Mark :=
  let after := self.shared.receive self.cancelled self.receiver
  { self with shared := after.1, receiver := after.2 }

def step (self : QueueRun Mark) : QueueEvent Mark → QueueRun Mark × Unit
  | .begin operation =>
      ({ self with tasks := self.tasks ++ [{ point := operation.point, tag := operation }] }, ())
  | .run index =>
      match self.tasks[index]? with
      | none => (self, ())
      | some current => (self.ran index current, ())
  | .call receiverCall => (self.called receiverCall, ())
  | .receive => (self.received, ())
  | .abandon => (self.abandoned, ())
  | .cancel => ({ self with cancelled := true }, ())

end QueueRun

/-- The packet of a send is marked with the send's number, what was queued before with none. -/
structure ResumeRun where
  shared : SharedQueue (Option Nat)
  sends : List (QueuePoint (Option Nat))
  resume : QueuePoint (Option Nat)
  receiver : ReceiverPoint (Option Nat)

inductive ResumeEvent where
  | send (packet : PacketBuf) (force : Bool)
  | run (call : Nat)
  | resume
  | tryRecv
  | receive

/-- The point of a send is behind its reading of the queue's state. -/
def QueuePoint.behindState {Mark : Type*} : QueuePoint Mark → Bool
  | .sendOpen _ _ => false
  | .sendState _ _ => false
  | _ => true

namespace ResumeRun

/-- Nothing runs; the resume is yet to begin. -/
def start (queue : PacketQueue (Option Nat)) : ResumeRun where
  shared := { queue with senders := 1, notify := .new }
  sends := []
  resume := .resumeState
  receiver := .returned none

/-- A step, with the packet that a try of the receiver returns in it. -/
def step (self : ResumeRun) : ResumeEvent → ResumeRun × Option (Option Nat × PacketBuf)
  | .send packet force =>
      let point := .sendOpen (some self.sends.length, packet) force
      ({ self with sends := self.sends ++ [point] }, none)
  | .run call =>
      match self.sends[call]? with
      | none => (self, none)
      | some point =>
          let after := self.shared.perform point
          ({ self with shared := after.1, sends := self.sends.set call after.2 }, none)
  | .resume =>
      let after := self.shared.perform self.resume
      ({ self with shared := after.1, resume := after.2 }, none)
  | .tryRecv =>
      match self.receiver with
      | .returned _ => ({ self with receiver := .pop .once }, none)
      | _ => (self, none)
  | .receive =>
      let after := self.shared.receive false self.receiver
      ({ self with shared := after.1, receiver := after.2 },
        match self.receiver, after.2 with
        | .epoch _ _, .returned received => received
        | _, _ => none)

/-- The send has read the queue's state. -/
def hasRead (self : ResumeRun) (call : Nat) : Bool :=
  self.sends[call]?.any QueuePoint.behindState

/-- The resume has made the queue active again. -/
def resumed (self : ResumeRun) : Bool :=
  match self.resume with
  | .resumeNotify => true
  | .returned _ => true
  | _ => false

/-- Whatever the events are that follow a state before the end of the resume, a try of the
receiver that reads the queue's state behind it returns no packet that was queued before, nor one
whose send had read that state. -/
def Fresh (self : ResumeRun) (later : List ResumeEvent) : Prop :=
  self.resumed = false →
    Transducer.AtEveryStep step self later fun current event =>
      current.resumed = true → ∀ packet ∈ (current.step event).2,
        ∃ call, packet.1 = some call ∧ self.hasRead call = false

end ResumeRun

end Csqtt
