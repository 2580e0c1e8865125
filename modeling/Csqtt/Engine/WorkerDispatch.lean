/-
Module: Csqtt.Engine.WorkerDispatch
Purpose: A packet on its way to a worker: the search for a queue that takes it, the
  queue that gives up its oldest packet for it, and the spare copy.
Trusted boundary: the pool, which may have no buffer for the copy
Main exports: Shared, enqueueSelectedWorker, replaceOldestInSelectedQueue, Dispatcher,
  dispatchNow, redispatchAll
-/
import Csqtt.Engine.WorkerChannels
import Csqtt.Engine.PacketQueue
import Csqtt.Engine.SelectiveFec
import Mathlib.Data.List.MinMax

namespace Csqtt

/-- What stands behind the handles: the queues and the health flags. -/
structure Shared (Mark : Type*) where
  queue : PacketSender → PacketQueue Mark
  flag : Nat → Bool

namespace Shared

variable {Mark : Type*}

def isHealthy (self : Shared Mark) (worker : WorkerChannels) : Bool :=
  self.flag worker.healthy

def storeHealthy (self : Shared Mark) (worker : WorkerChannels) (value : Bool) : Shared Mark :=
  { self with flag := Function.update self.flag worker.healthy value }

def markUnhealthy (self : Shared Mark) (worker : WorkerChannels) : Shared Mark :=
  self.storeHealthy worker false

def setQueue (self : Shared Mark) (sender : PacketSender) (queue : PacketQueue Mark) :
    Shared Mark :=
  { self with queue := Function.update self.queue sender queue }

@[simp] theorem setQueue_queue (self : Shared Mark) (sender : PacketSender)
    (queue : PacketQueue Mark) : (self.setQueue sender queue).queue sender = queue :=
  Function.update_self _ _ _

theorem setQueue_queue_of_ne (self : Shared Mark) {sender other : PacketSender}
    (queue : PacketQueue Mark) (apart : other ≠ sender) :
    (self.setQueue sender queue).queue other = self.queue other :=
  Function.update_of_ne apart _ _

def trySend (self : Shared Mark) (sender : PacketSender) (packet : Mark × PacketBuf) :
    Except (Mark × PacketBuf) (Shared Mark) :=
  ((self.queue sender).trySend packet).map (self.setQueue sender)

def forceSend (self : Shared Mark) (sender : PacketSender) (packet : Mark × PacketBuf) :
    Except (Mark × PacketBuf) (Shared Mark) :=
  ((self.queue sender).forceSend packet).map (self.setQueue sender)

/-- The packets in one queue, which is left empty. -/
def steal (self : Shared Mark) (sender : PacketSender) :
    Shared Mark × List (Mark × PacketBuf) :=
  let stolen := (self.queue sender).steal
  (self.setQueue sender stolen.1, stolen.2)

def drainUplink (self : Shared Mark) (worker : WorkerChannels) :
    Shared Mark × List (Mark × PacketBuf) :=
  let latency := self.steal worker.latency
  let priority := latency.1.steal worker.priority
  let bulk := priority.1.steal worker.bulk
  (bulk.1, latency.2 ++ priority.2 ++ bulk.2)

end Shared

variable {Mark : Type*}

/-- One round over the workers of a search: the first healthy one whose queue takes
the packet. Congested queues are passed over while clear ones are preferred. -/
def offerPacket (shared : Shared Mark) (ofClass : PacketClass) (preferClear : Bool) :
    List WorkerChannels → Mark × PacketBuf → Except (Mark × PacketBuf) (Shared Mark)
  | [], packet => .error packet
  | worker :: workers, packet =>
      let sender := queueForClass worker ofClass
      if !shared.isHealthy worker then offerPacket shared ofClass preferClear workers packet
      else if preferClear && (shared.queue sender).isCongested then
        offerPacket shared ofClass preferClear workers packet
      else
        match shared.trySend sender packet with
        | .ok shared => .ok shared
        | .error returned => offerPacket shared ofClass preferClear workers returned

/-- The workers from a slot on, around the list. -/
def workersFrom (workers : List WorkerChannels) (startSlot search : Nat) : List WorkerChannels :=
  (List.range search).filterMap fun offset => workers[(startSlot + offset) % workers.length]?

/-- Offer a packet to the ticket's worker and its next two neighbours, or to all
workers when that worker is not healthy. -/
def enqueueSelectedWorker (shared : Shared Mark) (workers : List WorkerChannels)
    (ticket : DispatchTicket) (packet : Mark × PacketBuf) :
    Except (Mark × PacketBuf) (Shared Mark) :=
  let n := workers.length
  if n = 0 then .error packet
  else
    let primaryHealthy := workers[ticket.startSlot]?.any shared.isHealthy
    let search := if primaryHealthy then 1 + min 2 (n - 1) else n
    let searched := workersFrom workers ticket.startSlot search
    match offerPacket shared ticket.ofClass true searched packet with
    | .ok shared => .ok shared
    | .error returned => offerPacket shared ticket.ofClass false searched returned

/-- Put a packet into the shortest queue of a healthy worker, whatever its room. -/
def replaceOldestInSelectedQueue (shared : Shared Mark) (workers : List WorkerChannels)
    (ticket : DispatchTicket) (packet : Mark × PacketBuf) :
    Except (Mark × PacketBuf) (Shared Mark) :=
  if workers.length = 0 then .error packet
  else
    let queued (worker : WorkerChannels) : Nat :=
      (shared.queue (queueForClass worker ticket.ofClass)).queued
    match (workers.filter shared.isHealthy).argmin queued with
    | none => .error packet
    | some worker => shared.forceSend (queueForClass worker ticket.ofClass) packet

/-- The queues and flags after a call that may have handed the packet back. -/
def orUnchanged (shared : Shared Mark) :
    Except (Mark × PacketBuf) (Shared Mark) → Shared Mark
  | .ok changed => changed
  | .error _ => shared

/-- Enqueue a packet over a list of workers, by replacement if need be. -/
def placePacket (shared : Shared Mark) (workers : List WorkerChannels)
    (ticket : DispatchTicket) (packet : Mark × PacketBuf) : Shared Mark :=
  match enqueueSelectedWorker shared workers ticket packet with
  | .ok shared => shared
  | .error returned =>
      orUnchanged shared (replaceOldestInSelectedQueue shared workers ticket returned)

/-- Offer the spare copy, if there is one, to the worker half the list away. -/
def placeSpare (shared : Shared Mark) (workers : List WorkerChannels) (ticket : DispatchTicket)
    (spare : Option (Mark × PacketBuf)) : Shared Mark :=
  match spare with
  | none => shared
  | some spare =>
      let workerCount := workers.length
      if 1 < workerCount then
        let alt :=
          { startSlot := (ticket.startSlot + workerCount / 2) % workerCount
            ofClass := ticket.ofClass }
        orUnchanged shared (enqueueSelectedWorker shared workers alt spare)
      else shared

/-- The dispatcher, with the scheduler of the task that reads for it. -/
structure Dispatcher (Mark : Type*) where
  workers : List WorkerChannels
  scheduler : FastPathScheduler
  shared : Shared Mark
  tracker : HashTable U64 U8

namespace Dispatcher

def register (self : Dispatcher Mark) (channels : WorkerChannels) : Dispatcher Mark :=
  { self with workers := registerWorker self.workers channels }

def unregister (self : Dispatcher Mark) (id : Nat) (incarnationId : U64) : Dispatcher Mark :=
  { self with workers := unregisterWorker self.workers id incarnationId }

/-- A packet without a ticket is dropped. The spare copy has a mark of its own. -/
def dispatchNow (self : Dispatcher Mark) (mark spareMark : Mark) (packet : PacketBuf)
    (storage : Option Storage) : Dispatcher Mark × Option DispatchTicket :=
  match self.scheduler.begin self.workers packet.asSlice with
  | (scheduler, none) => ({ self with scheduler := scheduler }, none)
  | (scheduler, some ticket) =>
      let spare := udpSpare self.tracker packet storage
      let workers := scheduler.workers
      let placed := placePacket self.shared workers ticket (mark, packet)
      ({ self with
          scheduler := scheduler
          shared := placeSpare placed workers ticket (spare.2.map (spareMark, ·))
          tracker := spare.1 }, some ticket)

/-- Dispatch a packet of a worker that ended, over the list as it is now. -/
def redispatch (self : Dispatcher Mark) (packet : Mark × PacketBuf) : Dispatcher Mark :=
  if self.workers.isEmpty then self
  else
    let ticket := { startSlot := 0, ofClass := packetClass packet.2.asSlice }
    { self with shared := placePacket self.shared self.workers ticket packet }

def redispatchAll (self : Dispatcher Mark) (packets : List (Mark × PacketBuf)) :
    Dispatcher Mark :=
  packets.foldl redispatch self

end Dispatcher

end Csqtt
