/-
Module: Csqtt.Engine.TeardownRun
Purpose: The queues of a session while dispatchers send to them and the session is torn down.
Trusted boundary: the order of atomic operations is one for all threads; the writer is
  stopped where it waits or between two receptions
Main exports: Lane, LaneRun, TeardownStage, TeardownRun, step
-/
import Csqtt.Engine.QueueRun

namespace Csqtt

/-- The queues of a session, in the order in which they are drained. -/
inductive Lane where
  | latency
  | priority
  | bulk
deriving DecidableEq, Repr

namespace Lane

/-- `SMALL_DATAGRAM_BATCH`, `MEDIUM_DATAGRAM_BATCH` and `BULK_DATAGRAM_BATCH`. -/
def capacity : Lane → Nat
  | .latency => 16
  | .priority => 64
  | .bulk => 128

def next? : Lane → Option Lane
  | .latency => some .priority
  | .priority => some .bulk
  | .bulk => none

end Lane

/-- A queue, with the packets that went in by a send that returns `Ok`, those that the
writer received, those that a forced send pushed out, and those that were drained. -/
structure LaneRun (Mark : Type*) extends QueueRun Mark where
  accepted : List (Mark × PacketBuf)
  taken : List (Mark × PacketBuf)
  evicted : List (Mark × PacketBuf)
  drained : List (Mark × PacketBuf)

namespace LaneRun

variable {Mark : Type*}

def start (capacity : Nat) : LaneRun Mark where
  toQueueRun := .start capacity true
  accepted := []
  taken := []
  evicted := []
  drained := []

/-- The packet that a step puts into the queue. -/
def accepts (self : LaneRun Mark) : QueueEvent Mark → List (Mark × PacketBuf)
  | .run index =>
      match self.tasks[index]? with
      | some ⟨.sendPush queued force, _⟩ =>
          if force ∨ self.shared.queued < self.shared.capacity then [queued.packet] else []
      | _ => []
  | _ => []

/-- The oldest packet, if a step pushes it out. -/
def evicts (self : LaneRun Mark) : QueueEvent Mark → List (Mark × PacketBuf)
  | .run index =>
      match self.tasks[index]? with
      | some ⟨.sendPush _ true, _⟩ =>
          (self.shared.items.take (self.shared.queued + 1 - self.shared.capacity)).map (·.packet)
      | _ => []
  | _ => []

/-- The packet that a step hands to the writer. -/
def takes (self : LaneRun Mark) : QueueEvent Mark → List (Mark × PacketBuf)
  | .receive =>
      match self.receiver with
      | .epoch _ queued =>
          if self.shared.isActive && queued.epoch == self.shared.state >>> 1 then [queued.packet]
          else []
      | _ => []
  | _ => []

def step (self : LaneRun Mark) (event : QueueEvent Mark) : LaneRun Mark where
  toQueueRun := (self.toQueueRun.step event).1
  accepted := self.accepted ++ self.accepts event
  taken := self.taken ++ self.takes event
  evicted := self.evicted ++ self.evicts event
  drained := self.drained

/-- One turn of the loop of `steal`; `none` when the queue is empty. -/
def steal (self : LaneRun Mark) : Option ((Mark × PacketBuf) × LaneRun Mark) :=
  match self.shared.queue.pop with
  | some (queued, queue) =>
      some (queued.packet,
        { self with
          shared := { self.shared with queue := queue }
          drained := self.drained ++ [queued.packet] })
  | none => none

/-- The writer is at a point where it can be stopped. -/
def rests (self : LaneRun Mark) : Bool :=
  match self.receiver with
  | .returned _ => true
  | .waiting => true
  | _ => false

def closed (self : LaneRun Mark) : Bool :=
  match self.receiver with
  | .dropped => true
  | _ => false

end LaneRun

/-- How far the session that ends has come. `draining` holds what it has drained so far. -/
inductive TeardownStage (Mark : Type*) where
  | running
  | unhealthy
  | stopping
  | draining (lane : Lane) (packets : List (Mark × PacketBuf))
  | redispatching (packets : List (Mark × PacketBuf))
  | done

/-- The drain has found the queue empty. -/
def TeardownStage.emptied {Mark : Type*} (lane : Lane) : TeardownStage Mark → Bool
  | .draining .latency _ => false
  | .draining .priority _ => lane = .latency
  | .draining .bulk _ => lane ≠ .bulk
  | .redispatching _ => true
  | .done => true
  | _ => false

/-- The drain has begun. -/
def TeardownStage.drains {Mark : Type*} : TeardownStage Mark → Bool
  | .draining _ _ => true
  | .redispatching _ => true
  | .done => true
  | _ => false

structure TeardownRun (Mark : Type*) where
  lanes : Lane → LaneRun Mark
  healthy : Bool
  writerStopped : Bool
  stage : TeardownStage Mark

/-- A dispatcher begins a send or goes on with one; the writer receives from a queue; the
writer is stopped, or ends by itself; the session goes on with its end. -/
inductive TeardownEvent (Mark : Type*) where
  | send (lane : Lane) (packet : Mark × PacketBuf) (force : Bool)
  | run (lane : Lane) (index : Nat)
  | call (lane : Lane) (receiverCall : ReceiverCall)
  | receive (lane : Lane)
  | abandon (lane : Lane)
  | stopWriter
  | teardown

namespace TeardownRun

variable {Mark : Type*}

def start : TeardownRun Mark where
  lanes lane := .start lane.capacity
  healthy := true
  writerStopped := false
  stage := .running

def onLane (self : TeardownRun Mark) (lane : Lane) (event : QueueEvent Mark) : TeardownRun Mark :=
  { self with lanes := Function.update self.lanes lane ((self.lanes lane).step event) }

/-- The end of the session: its packets are drained once its writer has dropped all three
receivers. -/
def tearDown (self : TeardownRun Mark) : TeardownRun Mark :=
  match self.stage with
  | .running => { self with healthy := false, stage := .unhealthy }
  | .unhealthy =>
      { self with lanes := fun lane => (self.lanes lane).step .cancel, stage := .stopping }
  | .stopping =>
      if (self.lanes .latency).closed && (self.lanes .priority).closed &&
          (self.lanes .bulk).closed then
        { self with stage := .draining .latency [] }
      else self
  | .draining lane packets =>
      match (self.lanes lane).steal with
      | some (packet, after) =>
          { self with
            lanes := Function.update self.lanes lane after
            stage := .draining lane (packets ++ [packet]) }
      | none =>
          { self with
            stage := lane.next?.elim (.redispatching packets) fun next => .draining next packets }
  | .redispatching _ => { self with stage := .done }
  | .done => self

/-- A step that cannot be taken leaves the state as it is. -/
def step (self : TeardownRun Mark) : TeardownEvent Mark → TeardownRun Mark × Unit
  | .send lane packet force =>
      (self.onLane lane (.begin (if force then .forceSend packet else .trySend packet)), ())
  | .run lane index => (self.onLane lane (.run index), ())
  | .call lane receiverCall =>
      (if (receiverCall == .close) == self.writerStopped then
        self.onLane lane (.call receiverCall) else self, ())
  | .receive lane => (self.onLane lane .receive, ())
  | .abandon lane => (self.onLane lane .abandon, ())
  | .stopWriter =>
      (if (self.lanes .latency).rests && (self.lanes .priority).rests &&
          (self.lanes .bulk).rests then
        { self with
          lanes := fun lane => (self.lanes lane).step .abandon
          writerStopped := true }
      else self, ())
  | .teardown => (self.tearDown, ())

end TeardownRun

end Csqtt
