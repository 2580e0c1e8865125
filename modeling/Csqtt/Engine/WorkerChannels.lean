/-
Module: Csqtt.Engine.WorkerChannels
Purpose: The workers the dispatcher sends to: the list it keeps of them, one entry per worker
  and the TURN paths interleaved, and the reading task's choice of one for a chunk of packets.
Trusted boundary: none
Main exports: PacketSender, WorkerChannels, queueForClass, interleaveTurnPaths, registerWorker,
  unregisterWorker, RegistryCall, registered, RoundRobinCursor, FastPathScheduler, begin
-/
import Csqtt.Engine.StripedScheduler
import Mathlib.Data.List.Sort
import Mathlib.Logic.Function.Basic

namespace Csqtt

/-- Handle of a shared queue. Clones of a sender have the same handle. -/
structure PacketSender where
  shared : Nat
deriving DecidableEq, Repr

/-- One incarnation of a worker. Its health flag, like its queues, is shared by all
clones and stands behind a handle. -/
structure WorkerChannels where
  id : Nat
  incarnationId : U64
  turnPath : List U8
  latency : PacketSender
  priority : PacketSender
  bulk : PacketSender
  healthy : Nat
deriving DecidableEq

def queueForClass (worker : WorkerChannels) : PacketClass → PacketSender
  | .small => worker.latency
  | .medium => worker.priority
  | .bulk => worker.bulk

/-- Order by path, then by id. The ids of a list are distinct, so it does not matter
that the sort of the source is unstable. -/
def pathOrder (left right : WorkerChannels) : Bool :=
  decide (left.turnPath < right.turnPath) ||
    (left.turnPath == right.turnPath && decide (left.id ≤ right.id))

/-- Put a worker at the end of the last group if it has that group's path. -/
def groupByPath (groups : List (List WorkerChannels)) (worker : WorkerChannels) :
    List (List WorkerChannels) :=
  match groups.getLast? with
  | some group =>
      if group.head?.any (·.turnPath == worker.turnPath) then
        groups.dropLast ++ [group ++ [worker]]
      else groups ++ [[worker]]
  | none => groups ++ [[worker]]

/-- Take the workers at one offset of every group, then those at the next, until an
offset adds none. Every offset that is followed by another adds one at least, so
there are at most as many rounds as workers. -/
def takeByOffset (groups : List (List WorkerChannels)) : Nat → Nat → List WorkerChannels
  | 0, _ => []
  | rounds + 1, offset =>
      match groups.filterMap (·[offset]?) with
      | [] => []
      | added => added ++ takeByOffset groups rounds (offset + 1)

def interleaveTurnPaths (workers : List WorkerChannels) : List WorkerChannels :=
  let sorted := workers.insertionSort fun left right => pathOrder left right
  takeByOffset (sorted.foldl groupByPath []) workers.length 0

/-- The dispatcher's list after a registration: the worker's earlier incarnation
is replaced. -/
def registerWorker (workers : List WorkerChannels) (channels : WorkerChannels) :
    List WorkerChannels :=
  interleaveTurnPaths (workers.filter (·.id != channels.id) ++ [channels])

/-- The dispatcher's list after an incarnation is unregistered. A later incarnation
of the same worker stays. -/
def unregisterWorker (workers : List WorkerChannels) (id : Nat) (incarnationId : U64) :
    List WorkerChannels :=
  interleaveTurnPaths
    (workers.filter fun worker => worker.id != id || worker.incarnationId != incarnationId)

/-- The calls that change the dispatcher's list. Each replaces the list it has read in
one step. -/
inductive RegistryCall where
  | register (channels : WorkerChannels)
  | unregister (id : Nat) (incarnationId : U64)

def RegistryCall.perform (workers : List WorkerChannels) : RegistryCall → List WorkerChannels
  | .register channels => registerWorker workers channels
  | .unregister id incarnationId => unregisterWorker workers id incarnationId

/-- The list of a new dispatcher after calls. -/
def registered (calls : List RegistryCall) : List WorkerChannels :=
  calls.foldl RegistryCall.perform []

theorem registered_concat (calls : List RegistryCall) (call : RegistryCall) :
    registered (calls ++ [call]) = call.perform (registered calls) := by
  rw [registered, List.foldl_append, List.foldl_cons, List.foldl_nil, registered]

structure RoundRobinCursor where
  currentWorker : Nat
  remaining : Nat
deriving DecidableEq, Repr

def RoundRobinCursor.default : RoundRobinCursor where
  currentWorker := 0
  remaining := 0

/-- The list of workers as it was last loaded, and a cursor into it for every class. -/
structure FastPathScheduler where
  workers : List WorkerChannels
  workerCount : Nat
  cursors : PacketClass → RoundRobinCursor

namespace FastPathScheduler

def new : FastPathScheduler where
  workers := []
  workerCount := 0
  cursors := fun _ => .default

/-- A list of another length starts all classes over. -/
def syncWorkerCount (self : FastPathScheduler) (workerCount : Nat) : FastPathScheduler :=
  if self.workerCount ≠ workerCount then
    { self with workerCount := workerCount, cursors := fun _ => .default }
  else self

/-- The ticket that a cursor gives, and the cursor after it. -/
def advance (cursor : RoundRobinCursor) (workerCount : Nat) (ofClass : PacketClass) :
    RoundRobinCursor × DispatchTicket :=
  let remaining := (if cursor.remaining = 0 then ofClass.streamChunk else cursor.remaining) - 1
  let startSlot := cursor.currentWorker
  let next := if startSlot + 1 = workerCount then 0 else startSlot + 1
  ({ currentWorker := if remaining = 0 then next else startSlot, remaining := remaining },
    { startSlot := startSlot, ofClass := ofClass })

def beginForClass (self : FastPathScheduler) (workerCount : Nat) (ofClass : PacketClass) :
    FastPathScheduler × Option DispatchTicket :=
  if workerCount = 0 then (self, none)
  else
    let self := self.syncWorkerCount workerCount
    let advanced := advance (self.cursors ofClass) workerCount ofClass
    ({ self with cursors := Function.update self.cursors ofClass advanced.1 }, some advanced.2)

/-- The source's list is loaded where a chunk of the packet's class begins. -/
def begin (self : FastPathScheduler) (source : List WorkerChannels) (packet : List U8) :
    FastPathScheduler × Option DispatchTicket :=
  let ofClass := packetClass packet
  let self :=
    if (self.cursors ofClass).remaining = 0 then
      { self with workers := source }.syncWorkerCount source.length
    else self
  self.beginForClass self.workerCount ofClass

end FastPathScheduler

end Csqtt
