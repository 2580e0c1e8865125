/-
Module: Csqtt.Proofs.DispatchRun
Purpose: Runs of the dispatcher: packets to dispatch between registrations, health
  changes and whatever else is done to the queues of the workers.
Trusted boundary: none
Main exports: DispatchEvent, Dispatching, step, Issued, step_dispatch, step_scheduler,
  sound_step, dispatchNow_given, dispatchNow_refused
-/
import Csqtt.Core.Transducer
import Csqtt.Engine.WorkerDispatch
import Csqtt.Proofs.FastPathScheduler

namespace Csqtt

/-- What can happen between two packets of the reading task, and the packets. -/
inductive DispatchEvent where
  | register (channels : WorkerChannels)
  | unregister (id : Nat) (incarnationId : U64)
  | health (worker : WorkerChannels) (value : Bool)
  | receive (sender : PacketSender)
  | resume (sender : PacketSender)
  | closeReceiver (sender : PacketSender)
  | drain (worker : WorkerChannels)
  | redispatch (packet : PacketBuf)
  | dispatch (packet : PacketBuf) (storage : Option Storage)

theorem DispatchEvent.dispatch_or_other (event : DispatchEvent) :
    (∃ packet storage, event = .dispatch packet storage) ∨
      ∀ packet storage, event ≠ .dispatch packet storage := by
  by_cases packet : ∃ packet storage, event = .dispatch packet storage
  · exact Or.inl packet
  · push Not at packet
    exact Or.inr packet

/-- Mark of a packet: its number among those handed to the dispatcher, and whether it
is the spare copy. -/
structure PacketMark where
  serial : Nat
  spare : Bool
deriving DecidableEq, Repr

/-- A packet of so many zero bytes, as it is read from the device. -/
def zeroPacket (len : Nat) (fits : len + packetHeadroom ≤ packetCapacity) : PacketBuf where
  storage := List.replicate packetCapacity 0#8
  start := packetHeadroom
  stop := len + packetHeadroom
  sized := List.length_replicate
  ordered := Nat.le_add_left _ _
  bounded := fits

def smallPacket : PacketBuf := zeroPacket 1 (by decide)
def mediumPacket : PacketBuf := zeroPacket 165 (by decide)
def bulkPacket : PacketBuf := zeroPacket 1000 (by decide)

theorem exists_packet (ofClass : PacketClass) :
    ∃ packet : PacketBuf, packetClass packet.asSlice = ofClass := by
  cases ofClass with
  | small => exact ⟨smallPacket, by decide +kernel⟩
  | medium => exact ⟨mediumPacket, by decide +kernel⟩
  | bulk => exact ⟨bulkPacket, by decide +kernel⟩

/-- One worker, and the incarnation that takes its place. -/
def firstIncarnation : WorkerChannels where
  id := 1
  incarnationId := 1#64
  turnPath := []
  latency := { shared := 0 }
  priority := { shared := 1 }
  bulk := { shared := 2 }
  healthy := 0

def secondIncarnation : WorkerChannels where
  id := 1
  incarnationId := 2#64
  turnPath := []
  latency := { shared := 3 }
  priority := { shared := 4 }
  bulk := { shared := 5 }
  healthy := 1

/-- A ticket, the list its slot was read from, and the list registered just then. -/
structure Issued where
  ticket : DispatchTicket
  workers : List WorkerChannels
  registered : List WorkerChannels

/-- The dispatcher in a run, with what the run has seen so far. -/
structure Dispatching where
  dispatcher : Dispatcher PacketMark
  dispatched : Nat
  issued : List Issued

namespace Dispatching

/-- All channels that workers will ever bring along, each with its capacity, are
there from the start; nothing is queued and nobody is registered. -/
def start (channels : PacketSender → Nat × Bool) : Dispatching where
  dispatcher :=
    { workers := []
      scheduler := .new
      shared :=
        { queue := fun sender => packetChannel (channels sender).1 (channels sender).2
          flag := fun _ => true }
      tracker := ∅ }
  dispatched := 0
  issued := []

def withQueue (self : Dispatching) (sender : PacketSender) (queue : PacketQueue PacketMark) :
    Dispatching :=
  { self with
    dispatcher :=
      { self.dispatcher with shared := self.dispatcher.shared.setQueue sender queue } }

def drained (self : Dispatching) (worker : WorkerChannels) : Dispatching :=
  let drained := self.dispatcher.shared.drainUplink worker
  { self with
    dispatcher := ({ self.dispatcher with shared := drained.1 }).redispatchAll drained.2 }

def step (self : Dispatching) : DispatchEvent → Dispatching × Option DispatchTicket
  | .register channels =>
      ({ self with dispatcher := self.dispatcher.register channels }, none)
  | .unregister id incarnationId =>
      ({ self with dispatcher := self.dispatcher.unregister id incarnationId }, none)
  | .health worker value =>
      ({ self with
          dispatcher :=
            { self.dispatcher with
              shared := self.dispatcher.shared.storeHealthy worker value } }, none)
  | .receive sender =>
      (self.withQueue sender (self.dispatcher.shared.queue sender).tryRecv.1, none)
  | .resume sender =>
      (self.withQueue sender (self.dispatcher.shared.queue sender).resume, none)
  | .closeReceiver sender =>
      (self.withQueue sender (self.dispatcher.shared.queue sender).closeReceiver, none)
  | .drain worker => (self.drained worker, none)
  | .redispatch packet =>
      ({ self with
          dispatcher :=
            self.dispatcher.redispatch ({ serial := self.dispatched, spare := false }, packet)
          dispatched := self.dispatched + 1 }, none)
  | .dispatch packet storage =>
      let after := self.dispatcher.dispatchNow { serial := self.dispatched, spare := false }
        { serial := self.dispatched, spare := true } packet storage
      ({ dispatcher := after.1
         dispatched := self.dispatched + 1
         issued := self.issued ++ after.2.toList.map fun ticket =>
          { ticket := ticket
            workers := after.1.scheduler.workers
            registered := self.dispatcher.workers } }, after.2)

/-!
### What a step does to the worker list, the scheduler and the tickets
-/

theorem dispatchNow_scheduler {Mark : Type*} (self : Dispatcher Mark) (mark spareMark : Mark)
    (packet : PacketBuf) (storage : Option Storage) :
    (self.dispatchNow mark spareMark packet storage).1.workers = self.workers ∧
      ((self.dispatchNow mark spareMark packet storage).1.scheduler,
        (self.dispatchNow mark spareMark packet storage).2) =
        self.scheduler.begin self.workers packet.asSlice := by
  rw [Dispatcher.dispatchNow]
  split
  · next begun => exact ⟨rfl, begun.symm⟩
  · next begun => exact ⟨rfl, begun.symm⟩

theorem dispatchNow_refused {Mark : Type*} {self : Dispatcher Mark} {packet : PacketBuf}
    (refused : (self.scheduler.begin self.workers packet.asSlice).2 = none)
    (mark spareMark : Mark) (storage : Option Storage) :
    (self.dispatchNow mark spareMark packet storage).1.shared = self.shared := by
  rw [Dispatcher.dispatchNow]
  split
  · rfl
  · next begun =>
      rw [begun] at refused
      cases refused

/-- With a ticket, the packet is placed over the scheduler's list, then its copy. -/
theorem dispatchNow_given {Mark : Type*} {self : Dispatcher Mark} {packet : PacketBuf}
    {ticket : DispatchTicket}
    (given : (self.scheduler.begin self.workers packet.asSlice).2 = some ticket)
    (mark spareMark : Mark) (storage : Option Storage) :
    let workers := (self.scheduler.begin self.workers packet.asSlice).1.workers
    (self.dispatchNow mark spareMark packet storage).1.shared =
      placeSpare (placePacket self.shared workers ticket (mark, packet)) workers ticket
        ((udpSpare self.tracker packet storage).2.map (spareMark, ·)) := by
  intro workers
  rw [Dispatcher.dispatchNow]
  split
  · next begun =>
      rw [begun] at given
      cases given
  · next begun =>
      simp only [begun, Option.some.injEq] at given
      subst given
      simp only [workers, begun]

theorem redispatch_scheduler {Mark : Type*} (self : Dispatcher Mark)
    (packet : Mark × PacketBuf) :
    (self.redispatch packet).workers = self.workers ∧
      (self.redispatch packet).scheduler = self.scheduler := by
  rw [Dispatcher.redispatch]
  split
  · exact ⟨rfl, rfl⟩
  · exact ⟨rfl, rfl⟩

theorem redispatchAll_scheduler {Mark : Type*} (packets : List (Mark × PacketBuf))
    (self : Dispatcher Mark) :
    (self.redispatchAll packets).workers = self.workers ∧
      (self.redispatchAll packets).scheduler = self.scheduler := by
  induction packets generalizing self with
  | nil => exact ⟨rfl, rfl⟩
  | cons packet packets inductionHypothesis =>
      have first := redispatch_scheduler self packet
      have rest := inductionHypothesis (self.redispatch packet)
      exact ⟨rest.1.trans first.1, rest.2.trans first.2⟩

/-- The tickets, after what the scheduler answers to a packet. -/
def answered (self : Dispatching) (packet : PacketBuf) :
    FastPathScheduler × Option DispatchTicket :=
  self.dispatcher.scheduler.begin self.dispatcher.workers packet.asSlice

theorem step_dispatch (self : Dispatching) (packet : PacketBuf) (storage : Option Storage) :
    (step self (.dispatch packet storage)).1.dispatcher.workers = self.dispatcher.workers ∧
      (step self (.dispatch packet storage)).1.dispatcher.scheduler = (self.answered packet).1 ∧
      (step self (.dispatch packet storage)).2 = (self.answered packet).2 ∧
      (step self (.dispatch packet storage)).1.issued =
        self.issued ++ (self.answered packet).2.toList.map fun ticket =>
          { ticket := ticket
            workers := (self.answered packet).1.workers
            registered := self.dispatcher.workers } := by
  obtain ⟨workers, begun⟩ := dispatchNow_scheduler self.dispatcher
    { serial := self.dispatched, spare := false } { serial := self.dispatched, spare := true }
    packet storage
  rw [answered, ← begun]
  exact ⟨workers, rfl, rfl, rfl⟩

/-- Only a packet to dispatch reaches the scheduler. -/
theorem step_scheduler (self : Dispatching) (event : DispatchEvent)
    (other : ∀ packet storage, event ≠ .dispatch packet storage) :
    (step self event).1.dispatcher.scheduler = self.dispatcher.scheduler ∧
      (step self event).1.issued = self.issued := by
  cases event with
  | register channels => exact ⟨rfl, rfl⟩
  | unregister id incarnationId => exact ⟨rfl, rfl⟩
  | health worker value => exact ⟨rfl, rfl⟩
  | receive sender => exact ⟨rfl, rfl⟩
  | resume sender => exact ⟨rfl, rfl⟩
  | closeReceiver sender => exact ⟨rfl, rfl⟩
  | drain worker => exact ⟨(redispatchAll_scheduler _ _).2, rfl⟩
  | redispatch packet => exact ⟨(redispatch_scheduler _ _).2, rfl⟩
  | dispatch packet storage => exact absurd rfl (other packet storage)

theorem sound_step {self : Dispatching} (sound : self.dispatcher.scheduler.Sound)
    (event : DispatchEvent) :
    (step self event).1.dispatcher.scheduler.Sound := by
  rcases event.dispatch_or_other with ⟨packet, storage, rfl⟩ | other
  · rw [(step_dispatch self packet storage).2.1]
    exact FastPathScheduler.sound_begin sound _ _
  · rw [(step_scheduler self event other).1]
    exact sound

end Dispatching

end Csqtt
