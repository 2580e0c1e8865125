/-
Module: Csqtt.Engine.PacketQueue
Purpose: The bounded queue between the dispatcher and a writer: a sender never waits,
  and a packet queued before the last resume is never received.
Trusted boundary: none
Main exports: PacketQueue, packetChannel, send, trySend, forceSend, tryRecv, resume,
  suspend, steal, closeReceiver, call
-/
import Csqtt.Core.ArrayQueue
import Csqtt.Engine.Packet

namespace Csqtt

def queueActive : U64 := 1#64

/-- A queued packet carries a mark that the code neither reads nor needs: it tells
the packets apart. -/
structure QueuedPacket (Mark : Type*) where
  packet : Mark × PacketBuf
  epoch : U64

/-- The shared part of a channel. The lowest bit of the state says whether the queue
takes packets, the others count its resumptions. -/
structure PacketQueue (Mark : Type*) where
  capacity : Nat
  queue : ArrayQueue (QueuedPacket Mark) capacity
  state : U64
  receiverOpen : Bool
  positive : 0 < capacity

def packetChannel {Mark : Type*} (capacity : Nat) (active : Bool) : PacketQueue Mark where
  capacity := max capacity 1
  queue := .empty
  state := if active then queueActive else 0#64
  receiverOpen := true
  positive := Nat.lt_of_lt_of_le Nat.one_pos (Nat.le_max_right _ _)

namespace PacketQueue

variable {Mark : Type*}

def isActive (self : PacketQueue Mark) : Bool :=
  self.state &&& queueActive != 0#64

/-- The queued packets, oldest first. -/
def items (self : PacketQueue Mark) : List (QueuedPacket Mark) :=
  self.queue.items

def queued (self : PacketQueue Mark) : Nat :=
  self.items.length

def isCongested (self : PacketQueue Mark) : Bool :=
  decide (0 < self.capacity ∧ self.capacity ≤ self.queued * 2)

/-- Queue a packet, or hand it back. -/
def send (self : PacketQueue Mark) (packet : Mark × PacketBuf) (force : Bool) :
    Except (Mark × PacketBuf) (PacketQueue Mark) :=
  if !self.receiverOpen then .error packet
  else if !self.isActive then .error packet
  else
    let queued := { packet := packet, epoch := self.state >>> 1 }
    if force then .ok { self with queue := self.queue.forcePush self.positive queued }
    else
      match self.queue.push queued with
      | some queue => .ok { self with queue := queue }
      | none => .error packet

def trySend (self : PacketQueue Mark) (packet : Mark × PacketBuf) :
    Except (Mark × PacketBuf) (PacketQueue Mark) :=
  self.send packet false

def forceSend (self : PacketQueue Mark) (packet : Mark × PacketBuf) :
    Except (Mark × PacketBuf) (PacketQueue Mark) :=
  self.send packet true

/-- Take the queued packets, whatever their epoch. -/
def steal (self : PacketQueue Mark) : PacketQueue Mark × List (Mark × PacketBuf) :=
  ({ self with queue := .empty }, self.items.map (·.packet))

/-- Take the oldest packet of the current epoch; older epochs are dropped on the way. -/
def tryRecv (self : PacketQueue Mark) : PacketQueue Mark × Option (Mark × PacketBuf) :=
  let current (queued : QueuedPacket Mark) : Bool :=
    self.isActive && queued.epoch == self.state >>> 1
  let live := self.queue.dropWhile (!current ·)
  match live.pop with
  | none => ({ self with queue := live }, none)
  | some (queued, queue) => ({ self with queue := queue }, some queued.packet)

theorem tryRecv_of_empty {self : PacketQueue Mark} (empty : self.queue.items = []) :
    self.tryRecv = (self, none) := by
  have same : self.queue = .empty := ArrayQueue.ext empty
  rw [tryRecv, same]
  have unchanged : { self with queue := .empty } = self := by rw [← same]
  exact congrArg (·, none) unchanged

/-- The oldest packet is received, or dropped on the way to the next one. -/
theorem tryRecv_of_cons {self : PacketQueue Mark} {first : QueuedPacket Mark}
    {rest : ArrayQueue (QueuedPacket Mark) self.capacity}
    (popped : self.queue.pop = some (first, rest)) :
    self.tryRecv =
      if self.isActive && first.epoch == self.state >>> 1 then
        ({ self with queue := rest }, some first.packet)
      else ({ self with queue := rest } : PacketQueue Mark).tryRecv := by
  have items := ArrayQueue.pop_spec popped
  by_cases current : (self.isActive && first.epoch == self.state >>> 1) = true
  · have live : (self.queue.dropWhile fun queued =>
        !(self.isActive && queued.epoch == self.state >>> 1)) = self.queue := by
      apply ArrayQueue.ext
      simp only [ArrayQueue.dropWhile, items, List.dropWhile_cons, current]
      rfl
    rw [if_pos current, tryRecv]
    simp only [live, popped]
  · have live : (self.queue.dropWhile fun queued =>
        !(self.isActive && queued.epoch == self.state >>> 1)) =
        rest.dropWhile fun queued => !(self.isActive && queued.epoch == self.state >>> 1) := by
      apply ArrayQueue.ext
      simp only [ArrayQueue.dropWhile, items, List.dropWhile_cons, current]
      rfl
    have active : ({ self with queue := rest } : PacketQueue Mark).isActive = self.isActive := rfl
    rw [if_neg current, tryRecv, tryRecv]
    simp only [live, active]
    cases (rest.dropWhile fun queued =>
        !(self.isActive && queued.epoch == self.state >>> 1)).pop with
    | none => rfl
    | some popped => rfl

def resume (self : PacketQueue Mark) : PacketQueue Mark :=
  let epoch := saturatingAdd (self.state >>> 1) 1#64
  { self with queue := .empty, state := (epoch <<< 1) ||| queueActive }

/-- Only tests suspend a queue. -/
def suspend (self : PacketQueue Mark) : PacketQueue Mark :=
  { self with queue := .empty, state := self.state &&& ~~~queueActive }

/-- What dropping the receiver leaves behind. -/
def closeReceiver (self : PacketQueue Mark) : PacketQueue Mark :=
  { self with receiverOpen := false }

/-- The queue takes packets when there is room. -/
def isOpen (self : PacketQueue Mark) : Bool :=
  self.receiverOpen && self.isActive

theorem trySend_eq (self : PacketQueue Mark) (packet : Mark × PacketBuf) :
    self.trySend packet =
      if room : self.isOpen = true ∧ self.queued < self.capacity then
        .ok { self with
          queue :=
            { items := self.queue.items ++ [{ packet := packet, epoch := self.state >>> 1 }]
              bounded := by
                rw [List.length_append, List.length_singleton]
                exact room.2 } }
      else .error packet := by
  by_cases reachable : self.receiverOpen = true
  · by_cases active : self.isActive = true
    · by_cases room : self.queue.items.length < self.capacity
      · simp [trySend, send, isOpen, queued, items, ArrayQueue.push, reachable, active, room]
      · simp [trySend, send, isOpen, queued, items, ArrayQueue.push, reachable, active, room]
    · simp [trySend, send, isOpen, reachable, active]
  · simp [trySend, send, isOpen, reachable]

theorem forceSend_eq (self : PacketQueue Mark) (packet : Mark × PacketBuf) :
    self.forceSend packet =
      if self.isOpen = true then
        .ok { self with
          queue := self.queue.forcePush self.positive
            { packet := packet, epoch := self.state >>> 1 } }
      else .error packet := by
  by_cases reachable : self.receiverOpen = true
  · by_cases active : self.isActive = true
    · simp [forceSend, send, isOpen, reachable, active]
    · simp [forceSend, send, isOpen, reachable, active]
  · simp [forceSend, send, isOpen, reachable]

/-- A call by itself, with what it returns. -/
def call (self : PacketQueue Mark) : FifoCall (Mark × PacketBuf) →
    PacketQueue Mark × FifoOutcome (Mark × PacketBuf)
  | .trySend packet =>
      match self.trySend packet with
      | .ok next => (next, .sent)
      | .error packet => (self, .refused packet)
  | .forceSend packet =>
      match self.forceSend packet with
      | .ok next => (next, .sent)
      | .error packet => (self, .refused packet)
  | .tryRecv => (self.tryRecv.1, .received self.tryRecv.2)
  | .steal => (self.steal.1, .stolen self.steal.2)
  | .suspend => (self.suspend, .done)
  | .resume => (self.resume, .done)

end PacketQueue

end Csqtt
