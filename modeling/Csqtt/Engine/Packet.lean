/-
Module: Csqtt.Engine.Packet
Purpose: The pooled packet buffer: fixed storage with headroom and the range of
  bytes in use.
Trusted boundary: none
Main exports: PacketBuf, prepend, extendTail, trimFront, setReadLen, setRange, write
-/
import Csqtt.Core.Word

namespace Csqtt

def packetHeadroom : Nat := 64
def packetCapacity : Nat := 2304

/-- Storage of a pooled buffer. -/
def Storage : Type := { bytes : List U8 // bytes.length = packetCapacity }

theorem length_zeros : (List.replicate packetCapacity (0 : U8)).length = packetCapacity :=
  List.length_replicate

/-- A buffer of zeros. -/
def Storage.zero : Storage := ⟨List.replicate packetCapacity 0, length_zeros⟩

/-- A packet buffer. The range in use never leaves the storage, whose size is
fixed. The pool handle of the source is not part of the value. -/
structure PacketBuf where
  storage : List U8
  start : Nat
  stop : Nat
  sized : storage.length = packetCapacity
  ordered : start ≤ stop
  bounded : stop ≤ packetCapacity

namespace PacketBuf

/-- A buffer as the pool hands it out: an empty range after the headroom. -/
def acquired (storage : List U8) (sized : storage.length = packetCapacity) : PacketBuf where
  storage := storage
  start := packetHeadroom
  stop := packetHeadroom
  sized := sized
  ordered := Nat.le_refl _
  bounded := by decide

def len (self : PacketBuf) : Nat :=
  self.stop - self.start

def isEmpty (self : PacketBuf) : Bool :=
  self.len == 0

def asSlice (self : PacketBuf) : List U8 :=
  self.storage.extract self.start self.stop

/-- Copy bytes into the storage from an offset on. No caller's bytes reach beyond it. -/
def write (self : PacketBuf) (offset : Nat) (bytes : List U8) : PacketBuf :=
  { self with
    storage := self.storage.take offset ++ bytes.take (packetCapacity - offset) ++
      self.storage.drop (offset + bytes.length)
    sized := by
      simp only [List.length_append, List.length_take, List.length_drop, self.sized]
      omega }

def setReadLen (self : PacketBuf) (len : Nat) : Option PacketBuf :=
  if fits : len ≤ packetCapacity - packetHeadroom then
    some
      { self with
        start := packetHeadroom
        stop := packetHeadroom + len
        ordered := Nat.le_add_right _ _
        bounded := by simp only [packetCapacity, packetHeadroom] at fits ⊢; omega }
  else none

def prepend (self : PacketBuf) (len : Nat) : Option PacketBuf :=
  if len ≤ self.start then
    some
      { self with
        start := self.start - len
        ordered := Nat.le_trans (Nat.sub_le _ _) self.ordered }
  else none

def extendTail (self : PacketBuf) (len : Nat) : Option PacketBuf :=
  if fits : self.stop + len ≤ packetCapacity then
    some
      { self with
        stop := self.stop + len
        ordered := Nat.le_trans self.ordered (Nat.le_add_right _ _)
        bounded := fits }
  else none

def trimFront (self : PacketBuf) (len : Nat) : Option PacketBuf :=
  if fits : len ≤ self.len then
    some
      { self with
        start := self.start + len
        ordered := by
          have := self.ordered
          simp only [PacketBuf.len] at fits
          omega }
  else none

def setRange (self : PacketBuf) (start stop : Nat) : Option PacketBuf :=
  if fits : start ≤ stop ∧ stop ≤ packetCapacity then
    some
      { self with
        start := start
        stop := stop
        ordered := fits.1
        bounded := fits.2 }
  else none

theorem length_asSlice (self : PacketBuf) : self.asSlice.length = self.len := by
  have := self.bounded
  simp only [asSlice, len, List.extract_eq_take_drop, List.length_take, List.length_drop,
    self.sized]
  omega

theorem getElem?_asSlice (self : PacketBuf) (index : Nat) :
    self.asSlice[index]? =
      if index < self.len then self.storage[self.start + index]? else none := by
  simp only [asSlice, len, List.extract_eq_take_drop, List.getElem?_take, List.getElem?_drop]
  rfl

@[simp] theorem write_start (self : PacketBuf) (offset : Nat) (bytes : List U8) :
    (self.write offset bytes).start = self.start := rfl

@[simp] theorem write_stop (self : PacketBuf) (offset : Nat) (bytes : List U8) :
    (self.write offset bytes).stop = self.stop := rfl

@[simp] theorem write_len (self : PacketBuf) (offset : Nat) (bytes : List U8) :
    (self.write offset bytes).len = self.len := rfl

theorem getElem?_write {index : Nat} (self : PacketBuf) (offset : Nat) (bytes : List U8)
    (inside : index < packetCapacity) :
    (self.write offset bytes).storage[index]? =
      if offset ≤ index ∧ index < offset + bytes.length then bytes[index - offset]?
      else self.storage[index]? := by
  have front : (self.storage.take offset).length = min offset packetCapacity := by
    rw [List.length_take, self.sized]
  have middle : (bytes.take (packetCapacity - offset)).length =
      min (packetCapacity - offset) bytes.length := List.length_take
  simp only [write, List.append_assoc, List.getElem?_append, front, middle]
  by_cases before : index < offset
  · rw [if_pos (by omega), if_neg (by omega), List.getElem?_take_of_lt before]
  · rw [if_neg (by omega)]
    by_cases covered : index < offset + bytes.length
    · rw [if_pos (by omega), if_pos ⟨by omega, covered⟩, Nat.min_eq_left (by omega),
        List.getElem?_take_of_lt (by omega)]
    · rw [if_neg (by omega), if_neg (by omega), List.getElem?_drop]
      exact congrArg (self.storage[·]?) (by omega)

end PacketBuf

end Csqtt
