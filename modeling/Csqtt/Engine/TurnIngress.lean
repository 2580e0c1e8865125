/-
Module: Csqtt.Engine.TurnIngress
Purpose: The way of a payload from the task that owns a relay client to the reader of a session:
  a bounded channel, a stash beside it for what is to be kept under pressure, and the reader's
  waiting for either, one atomic operation at a time.
Trusted boundary: the order of atomic operations is one for all tasks; the channel's and the
  published view's own operations are atomic
Main exports: DriverPoint, RecvPoint, TurnIngress, drive, poll, IngressEvent, step, reached, asleep
-/
import Csqtt.Core.Notify
import Csqtt.Core.Transducer
import Csqtt.Engine.ChannelDataWire
import Csqtt.Engine.PacketPool

namespace Csqtt

def incomingQueueCapacity : Nat := packetPoolPerWorker
def protectedIncoming : Nat := 32

/-- A payload with the number that it has among those that came. -/
abbrev Numbered := PacketBuf × Nat

/-- The two ways to the reader. -/
inductive IngressLane where
  | incoming
  | stash
deriving DecidableEq, Repr

/-- Why a payload is not handed on: the channel was full and it is not to be kept, a later one
took its place in the stash, or nobody reads any more. -/
inductive IngressLoss where
  | full
  | evicted
  | closed
deriving DecidableEq, Repr

/-- Where the task stands with a payload. While it is about to notify it holds the lock of the
stash. -/
inductive DriverPoint where
  | idle
  | sending (packet : Numbered)
  | stashing (packet : Numbered)
  | notifying
  | ended

/-- What a branch of the reader's selection leads to. -/
inductive RecvNext where
  | again
  | taken (packet : Numbered)
  | closed

/-- Where a call of the reader stands; `seen` is what it remembers from announcing itself. -/
inductive RecvPoint where
  | idle
  | terminal
  | popFirst
  | announce
  | popAgain (seen : Nat)
  | claim (seen : Nat)
  | enlist (seen : Nat)
  | state
  | incoming
  | parked
  | woken
  | leave (next : RecvNext)

/-- What the task, the reader and those who report failures share, with the payloads that came,
those that were lost and what the calls of the reader have returned. The published view is no more
here than the number of its changes and its reason to end. -/
structure TurnIngress where
  channel : U16
  closing : Bool
  incoming : ArrayQueue Numbered incomingQueueCapacity
  ownerGone : Bool
  stash : ArrayQueue Numbered protectedIncoming
  notify : Notify
  version : Nat
  seenVersion : Nat
  terminal : Option String
  terminalPresent : Bool
  queueFullDrops : Nat
  poolDeficitDrops : Nat
  driver : DriverPoint
  receiver : RecvPoint
  arrived : List PacketBuf
  lost : List (Numbered × IngressLoss)
  results : List (Except String (IngressLane × Numbered))

namespace TurnIngress

def start : TurnIngress where
  channel := 0
  closing := false
  incoming := .empty
  ownerGone := false
  stash := .empty
  notify := .new
  version := 0
  seenVersion := 0
  terminal := none
  terminalPresent := false
  queueFullDrops := 0
  poolDeficitDrops := 0
  driver := .idle
  receiver := .idle
  arrived := []
  lost := []
  results := []

def requestCleanup (self : TurnIngress) : TurnIngress :=
  { self with
    closing := true
    channel := 0 }

/-- A datagram that was read into a buffer of the pool. -/
def packet (self : TurnIngress) (wire : PacketBuf) : TurnIngress :=
  match processPacket self.channel wire with
  | .deliver payload =>
      { self with
        driver := .sending (payload, self.arrived.length)
        arrived := self.arrived ++ [payload] }
  | .control | .dropped => self

/-- A datagram for which the pool had no buffer. -/
def processDeficitPacket (self : TurnIngress) (wire : List U8) : TurnIngress :=
  match channelDataHeader wire with
  | some (channel, _) =>
      if channel = self.channel then
        { self with poolDeficitDrops := self.poolDeficitDrops + 1 }
      else self
  | none => self

def lose (self : TurnIngress) (packet : Numbered) (loss : IngressLoss) : TurnIngress :=
  { self with
    driver := .idle
    lost := self.lost ++ [(packet, loss)] }

def trySend (self : TurnIngress) (packet : Numbered) : TurnIngress :=
  if self.ownerGone then (self.lose packet .closed).requestCleanup
  else
    match self.incoming.push packet with
    | some incoming =>
        { self with
          driver := .idle
          incoming := incoming }
    | none =>
        if keepUnderPressure packet.1.asSlice then { self with driver := .stashing packet }
        else { self.lose packet .full with queueFullDrops := self.queueFullDrops + 1 }

/-- What gives up its place when one more comes into the stash. -/
def evicted (self : TurnIngress) : List Numbered :=
  self.stash.items.take (self.stash.items.length + 1 - protectedIncoming)

def stashProtected (self : TurnIngress) (packet : Numbered) : TurnIngress :=
  { self with
    driver := .notifying
    stash := self.stash.forcePush (by decide) packet
    lost := self.lost ++ self.evicted.map fun packet => (packet, .evicted) }

/-- The next step of the task with the payload that it has. -/
def drive (self : TurnIngress) : TurnIngress :=
  match self.driver with
  | .idle | .ended => self
  | .sending packet => self.trySend packet
  | .stashing packet => self.stashProtected packet
  | .notifying =>
      { self with
        driver := .idle
        notify := self.notify.notifyOne }

/-- The lock of the stash is the task's. -/
def locked (self : TurnIngress) : Bool :=
  match self.driver with
  | .notifying => true
  | _ => false

def terminalReason (self : TurnIngress) : Option String :=
  if self.terminalPresent then self.terminal else none

/-- The reader's call returns. -/
def returned (self : TurnIngress) (result : Except String (IngressLane × Numbered)) :
    TurnIngress :=
  { self with
    receiver := .idle
    results := self.results ++ [result] }

def goOn (self : TurnIngress) (point : RecvPoint) : TurnIngress := { self with receiver := point }

/-- Take the oldest payload of the stash, or go on. -/
def popProtected (self : TurnIngress) (otherwise : RecvPoint) : TurnIngress :=
  if self.locked then self
  else
    match self.stash.pop with
    | some (packet, stash) => { self with stash := stash }.returned (.ok (.stash, packet))
    | none => self.goOn otherwise

/-- The task has ended, and with it the sending side of the channel. -/
def senderClosed (self : TurnIngress) : Bool :=
  match self.driver with
  | .ended => true
  | _ => false

/-- Something has happened since a parked reader looked last. -/
def awake (self : TurnIngress) : Bool :=
  self.notify.waiter == .one || self.notify.waiter == .all || self.version != self.seenVersion ||
    !self.incoming.items.isEmpty || self.senderClosed

def leaveNotified (self : TurnIngress) : TurnIngress := { self with notify := self.notify.leave }

/-- The next step of the reader's call. -/
def poll (self : TurnIngress) : TurnIngress :=
  match self.receiver with
  | .idle => self
  | .terminal =>
      match self.terminalReason with
      | some reason => self.returned (.error reason)
      | none => self.goOn .popFirst
  | .popFirst => self.popProtected .announce
  | .announce => self.goOn (.popAgain self.notify.notified)
  | .popAgain seen => self.popProtected (.claim seen)
  | .claim seen =>
      match self.notify.claim with
      | some notify => { self with notify := notify }.goOn .terminal
      | none => self.goOn (.enlist seen)
  | .enlist seen =>
      let enlisted := self.notify.enlist seen
      { self with notify := enlisted.1 }.goOn (if enlisted.2 then .terminal else .state)
  | .state =>
      if self.version ≠ self.seenVersion then
        { self with seenVersion := self.version }.goOn (.leave .again)
      else self.goOn .incoming
  | .incoming =>
      match self.incoming.pop with
      | some (packet, incoming) => { self with incoming := incoming }.goOn (.leave (.taken packet))
      | none => self.goOn (if self.senderClosed then .leave .closed else .parked)
  | .parked => if self.awake then self.goOn .woken else self
  | .woken =>
      match self.notify.poll with
      | some notify => { self with notify := notify }.goOn .terminal
      | none => self.goOn .state
  | .leave next =>
      match next with
      | .again => self.leaveNotified.goOn .terminal
      | .taken packet => self.leaveNotified.returned (.ok (.incoming, packet))
      | .closed =>
          self.leaveNotified.returned
            (.error (self.terminalReason.getD "TURN allocation closed"))

/-- Whoever publishes a failure has seen before that no cleanup had been asked for. The first
reason stays; whoever looks at the view is told of the change in any case. -/
def publish (self : TurnIngress) (reason : String) : TurnIngress :=
  { self with
    terminal := some (self.terminal.getD reason)
    version := self.version + 1 }

/-- The owner drops the reader between two calls, and with it what the channel holds. -/
def dropReceiver (self : TurnIngress) : TurnIngress :=
  { self with
    ownerGone := true
    incoming := .empty
    lost := self.lost ++ self.incoming.items.map fun packet => (packet, .closed) }

/-- The state that follows if the task has no payload at hand. -/
def whenFree (self next : TurnIngress) : TurnIngress :=
  match self.driver with
  | .idle => next
  | _ => self

/-- The state that follows if no call of the reader is under way. -/
def whenIdle (self next : TurnIngress) : TurnIngress :=
  match self.receiver with
  | .idle => next
  | _ => self

/-- The state that follows if the reader is parked. -/
def whenParked (self next : TurnIngress) : TurnIngress :=
  match self.receiver with
  | .parked => next
  | _ => self

end TurnIngress

/-- A datagram comes, with a buffer or without; the task goes on, or ends; a channel is bound; a
cleanup is asked for; a failure is published and, later, announced; the view changes; the reader is
called, goes on, is given up while it is parked, or dropped. -/
inductive IngressEvent where
  | packet (wire : PacketBuf)
  | deficit (wire : List U8)
  | drive
  | driverEnds
  | bind (channel : U16)
  | requestCleanup
  | publish (reason : String)
  | announce
  | modify
  | call
  | poll
  | cancel
  | dropReceiver

namespace TurnIngress

/-- An event at a time at which it cannot come changes nothing. -/
def step (self : TurnIngress) : IngressEvent → TurnIngress × Unit
  | .packet wire => (self.whenFree (self.packet wire), ())
  | .deficit wire => (self.whenFree (self.processDeficitPacket wire), ())
  | .drive => (self.drive, ())
  | .driverEnds => (self.whenFree { self with driver := .ended }, ())
  | .bind channel => (self.whenFree { self with channel := channel }, ())
  | .requestCleanup => (self.requestCleanup, ())
  | .publish reason => (self.publish reason, ())
  | .announce => ({ self with terminalPresent := self.terminal.isSome }, ())
  | .modify => ({ self with version := self.version + 1 }, ())
  | .call => (self.whenIdle (if self.ownerGone then self else self.goOn .terminal), ())
  | .poll => (self.poll, ())
  | .cancel => (self.whenParked (self.leaveNotified.goOn .idle), ())
  | .dropReceiver => (self.whenIdle self.dropReceiver, ())

/-- The state after a run from the allocation's begin. -/
def reached (events : List IngressEvent) : TurnIngress :=
  (Transducer.run step start events).1

/-- The reader waits and nothing has been done that would wake it. -/
def asleep (self : TurnIngress) : Prop := self.receiver = .parked ∧ self.awake = false

end TurnIngress

end Csqtt
