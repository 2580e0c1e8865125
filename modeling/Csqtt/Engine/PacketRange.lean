/-
Module: Csqtt.Engine.PacketRange
Purpose: The range operations of the packet buffer on machine words, step by step.
Trusted boundary: words are of 64 bits
Main exports: RawPacket, RangeAction, RangeOperation, perform, PacketEvent, RawPacket.step
-/
import Csqtt.Engine.Packet

namespace Csqtt

/-- The buffer without a promise about its range. -/
structure RawPacket where
  storage : List U8
  start : U64
  stop : U64
deriving DecidableEq, Repr

namespace RawPacket

/-- The length of a range; an inverted one is empty. -/
def len (self : RawPacket) : U64 := if self.start < self.stop then self.stop - self.start else 0

def bytes (self : RawPacket) : List U8 := self.storage.extract self.start.toNat self.stop.toNat

/-- Write bytes into the storage from an offset on; what does not fit is cut off. -/
def write (self : RawPacket) (offset : Nat) (bytes : List U8) : RawPacket :=
  { self with
    storage := self.storage.take offset ++ bytes.take (self.storage.length - offset) ++
      self.storage.drop (offset + bytes.length) }

end RawPacket

/-- What changes the buffer and may fail midway. -/
abbrev RangeAction := ExceptT String (StateM RawPacket)

/-- The area of the storage that an operation hands out. -/
structure Area where
  start : U64
  stop : U64
deriving DecidableEq, Repr

namespace RangeAction

variable {Value : Type}

def exec (action : RangeAction Value) (packet : RawPacket) : Except String Value × RawPacket :=
  action.run.run packet

def setReadLen (len : U64) : RangeAction Unit := do
  if len > BitVec.ofNat 64 (packetCapacity - packetHeadroom) then
    throw "packet read length exceeds capacity"
  modify fun self => { self with
    start := BitVec.ofNat 64 packetHeadroom
    stop := BitVec.ofNat 64 packetHeadroom + len }

def prepend (len : U64) : RangeAction Area := do
  if len > (← get).start then
    throw "packet prepend exceeds headroom"
  modify fun self => { self with start := self.start - len }
  let self ← get
  return { start := self.start, stop := self.start + len }

def extendTail (len : U64) : RangeAction Area := do
  let self ← get
  if 2 ^ 64 ≤ self.stop.toNat + len.toNat then
    throw "packet tail length overflow"
  let stop := self.stop + len
  if stop > BitVec.ofNat 64 packetCapacity then
    throw "packet tail exceeds capacity"
  let start := self.stop
  modify fun self => { self with stop := stop }
  return { start := start, stop := stop }

def trimFront (len : U64) : RangeAction Unit := do
  if len > (← get).len then
    throw "packet trim exceeds length"
  modify fun self => { self with start := self.start + len }

def truncate (len : U64) : RangeAction Unit := do
  if len > (← get).len then
    throw "packet truncate exceeds length"
  modify fun self => { self with stop := self.start + len }

def setRange (start stop : U64) : RangeAction Unit := do
  if start > stop ∨ stop > BitVec.ofNat 64 packetCapacity then
    throw "packet range is invalid"
  modify fun self => { self with start := start, stop := stop }

end RangeAction

inductive RangeOperation where
  | setReadLen (len : U64)
  | prepend (len : U64)
  | extendTail (len : U64)
  | trimFront (len : U64)
  | truncate (len : U64)
  | setRange (start stop : U64)
deriving DecidableEq, Repr

/-- An operation, with the area that it hands out, if it does. -/
def RangeOperation.perform : RangeOperation → RangeAction (Option Area)
  | .setReadLen len => do RangeAction.setReadLen len; return none
  | .prepend len => return some (← RangeAction.prepend len)
  | .extendTail len => return some (← RangeAction.extendTail len)
  | .trimFront len => do RangeAction.trimFront len; return none
  | .truncate len => do RangeAction.truncate len; return none
  | .setRange start stop => do RangeAction.setRange start stop; return none

/-- What a stage does to the buffer: an operation, or a write through a slice of the storage. -/
inductive PacketEvent where
  | operate (operation : RangeOperation)
  | write (offset : Nat) (bytes : List U8)
deriving DecidableEq, Repr

def RawPacket.step (self : RawPacket) : PacketEvent → RawPacket × Except String (Option Area)
  | .operate operation => (operation.perform.exec self).swap
  | .write offset bytes => (self.write offset bytes, .ok none)

end Csqtt
