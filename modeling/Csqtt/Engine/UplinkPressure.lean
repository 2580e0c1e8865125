/-
Module: Csqtt.Engine.UplinkPressure
Purpose: The buffers of the uplink: injecting calls, the bridge, the dispatcher's hands, the
  queues and batches of the workers, and whoever else holds some.
Trusted boundary: the worker that a packet is offered to is any; other holders use the pool's
  operations only
Main exports: workerCapacity, writerBatchLimit, UplinkWorker, UplinkPressure, step, Protected
-/
import Csqtt.Core.ArrayQueue
import Csqtt.Engine.ActivePaths
import Csqtt.Engine.BridgeRun
import Csqtt.Engine.Dispatcher

namespace Csqtt

def PacketClass.datagramBatch : PacketClass → Nat
  | .small => 16
  | .medium => 64
  | .bulk => 128

/-- The room of a worker's queue. -/
def workerCapacity (ofClass : PacketClass) : Nat := ofClass.datagramBatch

def writerBatchLimit (ofClass : PacketClass) : Nat := ofClass.datagramBatch

/-- A writer tries its queues in order, extends the batch from the queue that had a packet, and
sends the batch. -/
inductive BatchPoint where
  | next (ofClass : PacketClass)
  | extending (ofClass : PacketClass)
  | flushing
deriving DecidableEq, Repr

/-- The queues of a worker, one for each class, and its writer with the batch in progress. -/
structure UplinkWorker where
  queue : PacketClass → BoundedFifo (Unit × PacketBuf)
  batch : List (Unit × PacketBuf)
  point : BatchPoint

namespace UplinkWorker

def new : UplinkWorker where
  queue ofClass := { capacity := workerCapacity ofClass, active := true, items := [] }
  batch := []
  point := .next .small

def setQueue (self : UplinkWorker) (ofClass : PacketClass)
    (queue : BoundedFifo (Unit × PacketBuf)) : UplinkWorker :=
  { self with queue := Function.update self.queue ofClass queue }

def canExtend (self : UplinkWorker) : PacketClass → Bool
  | .small => true
  | .medium => (self.queue .small).items.isEmpty
  | .bulk => (self.queue .small).items.isEmpty && (self.queue .medium).items.isEmpty

/-- Where the writer looks after an empty queue. -/
def following : PacketClass → PacketClass
  | .small => .medium
  | .medium => .bulk
  | .bulk => .small

/-- A step of the writer, with the packet that it has sent and drops. -/
def write (self : UplinkWorker) : UplinkWorker × List (Unit × PacketBuf) :=
  match self.point with
  | .next ofClass =>
      match (self.queue ofClass).call .tryRecv with
      | (queue, .received (some packet)) =>
          ({ self.setQueue ofClass queue with
              batch := self.batch ++ [packet]
              point := .extending ofClass }, [])
      | (queue, _) => ({ self.setQueue ofClass queue with point := .next (following ofClass) }, [])
  | .extending ofClass =>
      if self.batch.length < writerBatchLimit ofClass ∧ self.canExtend ofClass then
        match (self.queue ofClass).call .tryRecv with
        | (queue, .received (some packet)) =>
            ({ self.setQueue ofClass queue with batch := self.batch ++ [packet] }, [])
        | (queue, _) => ({ self.setQueue ofClass queue with point := .flushing }, [])
      else ({ self with point := .flushing }, [])
  | .flushing =>
      match self.batch with
      | [] => ({ self with point := .next .small }, [])
      | packet :: rest => ({ self with batch := rest }, [packet])

/-- A packet is offered to the queue of its class. It may be handed back; a forced one may drive
out the oldest. -/
def offer (self : UplinkWorker) (packet : Unit × PacketBuf) (force : Bool) :
    UplinkWorker × Option (Unit × PacketBuf) × List (Unit × PacketBuf) :=
  let ofClass := packetClass packet.2.asSlice
  let queue := self.queue ofClass
  match queue.call (if force then .forceSend packet else .trySend packet) with
  | (after, .sent) =>
      (self.setQueue ofClass after, none,
        if queue.items.length < queue.capacity then [] else queue.items.take 1)
  | (after, _) => (self.setQueue ofClass after, some packet, [])

end UplinkWorker

/-- A call, and whether it has found the bridge down. -/
structure UplinkCall where
  call : InjectCall Unit
  point : InjectPoint Unit
  foundDown : Bool

/-- What is in the dispatcher's hands: packets that the bridge's reader has framed, copies, and
packets of a worker that has ended. -/
structure UplinkPressure where
  shared : SharedBridge Unit
  calls : List UplinkCall
  reader : ReaderPoint Unit
  sequences : FlowSequencer
  carried : List (Unit × PacketBuf)
  workers : List UplinkWorker
  others : List PoolTask

/-- A packet is injected and the calls and the reader make steps; a packet in the dispatcher's
hands is offered to a worker, copied into a buffer that one of the others holds, or dropped; a
writer makes a step, a worker's packets are taken back; the others use the pool. -/
inductive PressureEvent where
  | inject (call : InjectCall Unit)
  | run (index : Nat) (fresh : Storage)
  | read
  | stop
  | cancel
  | install (installed : Bool)
  | offer (index worker : Nat) (force : Bool)
  | spare (index other : Nat)
  | abandon (index : Nat)
  | write (worker : Nat)
  | steal (worker : Nat)
  | pool (event : PoolEvent)

namespace UplinkPressure

def start (workers : Nat) : UplinkPressure where
  shared :=
    { bridge := .new, installed := true, notify := .new, pool := .new (packetPoolSize workers) }
  calls := []
  reader := .popLatency
  sequences := .withSenderId 0
  carried := []
  workers := List.replicate workers .new
  others := []

/-- Packets are dropped; their buffers go back to the pool one by one. -/
def dropped (self : UplinkPressure) (packets : List (Unit × PacketBuf)) : UplinkPressure :=
  { self with
    others := self.others ++
      packets.map fun packet => { point := .release packet.2.storage, tag := () } }

/-- The call reads that the bridge is not there, or cancelled. -/
def isDown (self : UplinkPressure) : InjectPoint Unit → Bool
  | .slot _ => !self.shared.installed
  | .cancelled _ => self.shared.bridge.cancelled
  | _ => false

/-- A packet that the reader has is framed, or dropped. -/
def framed (self : UplinkPressure) : UplinkPressure :=
  match self.reader with
  | .reading packet =>
      let framed := frameOutboundPacket self.sequences packet.2
      if framed.2.2 then
        { self with
          sequences := framed.1
          carried := self.carried ++ [(packet.1, framed.2.1)] }
      else { self with sequences := framed.1 }.dropped [(packet.1, framed.2.1)]
  | _ => self

def step (self : UplinkPressure) : PressureEvent → UplinkPressure × Unit
  | .inject call =>
      let point := call.point
      ({ self with calls := self.calls ++ [{ call := call, point := point, foundDown := false }] },
        ())
  | .run index fresh =>
      match self.calls[index]? with
      | none => (self, ())
      | some call =>
          let after := self.shared.perform fresh call.point
          let foundDown := call.foundDown || self.isDown call.point
          ({ self with
              shared := after.1
              calls := self.calls.set index
                { call with point := after.2, foundDown := foundDown } }, ())
  | .read =>
      let after := self.shared.read self.reader
      ({ self with shared := after.1, reader := after.2 }.framed, ())
  | .stop =>
      if self.shared.bridge.cancelled then
        let after := self.shared.stop self.reader
        ({ self with shared := after.1, reader := after.2 }, ())
      else (self, ())
  | .cancel =>
      ({ self with
          shared := { self.shared with bridge := { self.shared.bridge with cancelled := true } } },
        ())
  | .install installed => ({ self with shared := { self.shared with installed := installed } }, ())
  | .offer index worker force =>
      match self.carried[index]?, self.workers[worker]? with
      | some packet, some target =>
          let after := target.offer packet force
          let carried :=
            match after.2.1 with
            | some _ => self.carried
            | none => self.carried.eraseIdx index
          ({ self with carried := carried, workers := self.workers.set worker after.1 }.dropped
            after.2.2, ())
      | _, _ => (self, ())
  | .spare index other =>
      match self.carried[index]?, self.others[other]? with
      | some packet, some ⟨.holding storage, _⟩ =>
          if sized : storage.length = packetCapacity then
            match readInto ⟨storage, sized⟩ packet.2.asSlice with
            | some copy =>
                ({ self with
                    carried := self.carried ++ [((), copy)]
                    others := self.others.set other { point := .ended, tag := () } }, ())
            | none => (self, ())
          else (self, ())
      | _, _ => (self, ())
  | .abandon index =>
      match self.carried[index]? with
      | some packet => ({ self with carried := self.carried.eraseIdx index }.dropped [packet], ())
      | none => (self, ())
  | .write worker =>
      match self.workers[worker]? with
      | some writer =>
          let after := writer.write
          ({ self with workers := self.workers.set worker after.1 }.dropped after.2, ())
      | none => (self, ())
  | .steal worker =>
      match self.workers[worker]? with
      | some ended =>
          let stolen := [PacketClass.small, .medium, .bulk].flatMap fun c => (ended.queue c).items
          ({ self with
              carried := self.carried ++ stolen
              workers := self.workers.set worker
                { ended with queue := fun c => ((ended.queue c).call .steal).1 } }, ())
      | none => (self, ())
  | .pool event =>
      let after := (PoolRun.step { pool := self.shared.pool, tasks := self.others } event).1
      ({ self with shared := { self.shared with pool := after.pool }, others := after.tasks }, ())

/-- A single packet that is to be kept under pressure is refused only where its call has found
the bridge down, or where its length is invalid. -/
def Protected (self : UplinkPressure) : Prop :=
  ∀ call ∈ self.calls, ∀ mark data, call.call = .packet mark data → keepUnderPressure data = true →
    ∀ code, call.point = .returned code →
      code = 0 ∨ code = -1 ∧ call.foundDown = true ∨
        code = -3 ∧ (data = [] ∨ packetCapacity - packetHeadroom < data.length)

end UplinkPressure

end Csqtt
