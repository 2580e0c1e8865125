/-
Module: Csqtt.Engine.PacketPool
Purpose: The pool of packet buffers, with any number of holders at once: each step is one
  atomic operation of one of them.
Trusted boundary: the order of atomic operations is one for all threads
Main exports: packetPoolSize, PacketPool, PoolPoint, perform, PoolEvent, PoolRun, step
-/
import Csqtt.Core.ArrayQueue
import Csqtt.Core.Interleaving
import Csqtt.Core.Transducer
import Csqtt.Engine.Packet

namespace Csqtt

def packetPoolPerWorker : Nat := 256
def packetPoolShared : Nat := 512
def packetPoolRetainedMax : Nat := 2048

def packetPoolSize (workers : Nat) : Nat := workers * packetPoolPerWorker + packetPoolShared

/-- The free list, the number of buffers there are, and how many there may be. -/
structure PacketPool where
  retainedLimit : Nat
  queue : ArrayQueue Storage retainedLimit
  allocated : Nat
  allocationLimit : Nat

namespace PacketPool

def new (buffers : Nat) : PacketPool where
  retainedLimit := min (max buffers 1) packetPoolRetainedMax
  queue := .empty
  allocated := 0
  allocationLimit := max buffers 1

/-- Put a buffer back into the free list, if there is room. -/
def push (self : PacketPool) (storage : Storage) : Option PacketPool :=
  (self.queue.push storage).map fun queue => { self with queue := queue }

def pop (self : PacketPool) : Option (Storage × PacketPool) :=
  self.queue.pop.map fun popped => (popped.1, { self with queue := popped.2 })

/-- One buffer fewer. -/
def discount (self : PacketPool) : PacketPool :=
  { self with allocated := self.allocated - 1 }

/-- One buffer more, if the count has not changed since it was read. -/
def reserve (self : PacketPool) (previous : Nat) : Option PacketPool :=
  if self.allocated = previous then some { self with allocated := previous + 1 } else none

end PacketPool

/-- The points of a holder: it asks for a buffer, maybe for a copy of some bytes, holds it
and gives it back. -/
inductive PoolPoint where
  | pop (copied : Option (List U8))
  | count (copied : Option (List U8))
  | reserve (copied : Option (List U8)) (previous : Nat)
  | refused
  | holding (storage : List U8)
  | release (storage : List U8)
  | discount
  | ended
deriving DecidableEq, Repr

/-- A buffer just acquired. Bytes that do not fit behind the headroom are not copied, and
the buffer is dropped. -/
def PoolPoint.acquired (storage : Storage) : Option (List U8) → PoolPoint
  | none => .holding storage.val
  | some bytes =>
      if packetCapacity - packetHeadroom < bytes.length then .release storage.val
      else .holding (storage.val.take packetHeadroom ++ bytes ++
        storage.val.drop (packetHeadroom + bytes.length))

namespace PacketPool

/-- What the count says to one who wants one more. -/
def counted (self : PacketPool) (copied : Option (List U8)) : PoolPoint :=
  if self.allocated < self.allocationLimit then .reserve copied self.allocated else .refused

/-- One atomic operation. The bytes of a fresh buffer are whatever they are. -/
def perform (self : PacketPool) (fresh : Storage) : PoolPoint → PacketPool × PoolPoint
  | .pop copied =>
      match self.pop with
      | some (storage, pool) => (pool, .acquired storage copied)
      | none => (self, .count copied)
  | .count copied => (self, self.counted copied)
  | .reserve copied previous =>
      match self.reserve previous with
      | some pool => (pool, .acquired fresh copied)
      | none => (self, self.counted copied)
  | .refused => (self, .refused)
  | .holding storage => (self, .holding storage)
  | .release storage =>
      if sized : storage.length = packetCapacity then
        match self.push ⟨storage, sized⟩ with
        | some pool => (pool, .ended)
        | none => (self, .discount)
      else (self.discount, .ended)
  | .discount => (self.discount, .ended)
  | .ended => (self, .ended)

end PacketPool

/-- A holder comes, makes a step, writes into its buffer, is asked for a copy of the bytes
in use, or drops the buffer. -/
inductive PoolEvent where
  | acquire
  | run (index : Nat) (fresh : Storage)
  | write (index : Nat) (storage : List U8)
  | duplicate (index : Nat) (bytes : List U8)
  | drop (index : Nat)

abbrev PoolTask := Thread PoolPoint Unit

structure PoolRun where
  pool : PacketPool
  tasks : List PoolTask

namespace PoolRun

def start (buffers : Nat) : PoolRun where
  pool := .new buffers
  tasks := []

def moved (self : PoolRun) (index : Nat) (pool : PacketPool) (point : PoolPoint)
    (started : List PoolTask) : PoolRun where
  pool := pool
  tasks := Interleaving.advance self.tasks index { point := point, tag := () } started

/-- The point at an index. -/
def at? (self : PoolRun) (index : Nat) : Option PoolPoint :=
  (self.tasks[index]?).map (·.point)

def step (self : PoolRun) : PoolEvent → PoolRun × Unit
  | .acquire => ({ self with tasks := self.tasks ++ [{ point := .pop none, tag := () }] }, ())
  | .run index fresh =>
      match self.at? index with
      | none => (self, ())
      | some point =>
          let after := self.pool.perform fresh point
          (self.moved index after.1 after.2 [], ())
  | .write index storage =>
      match self.at? index with
      | some (.holding _) => (self.moved index self.pool (.holding storage) [], ())
      | _ => (self, ())
  | .duplicate index bytes =>
      match self.at? index with
      | some (.holding storage) =>
          (self.moved index self.pool (.holding storage)
            [{ point := .pop (some bytes), tag := () }], ())
      | _ => (self, ())
  | .drop index =>
      match self.at? index with
      | some (.holding storage) => (self.moved index self.pool (.release storage) [], ())
      | _ => (self, ())

end PoolRun

end Csqtt
