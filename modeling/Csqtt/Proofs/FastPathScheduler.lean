/-
Module: Csqtt.Proofs.FastPathScheduler
Purpose: What the scheduler does with one packet: whether it loads the list, the
  ticket it gives, and the cursors after it.
Trusted boundary: none
Main exports: Sound, reloaded, begin_eq, begin_ticket, begin_refused, sound_begin
-/
import Csqtt.Engine.WorkerChannels

namespace Csqtt.FastPathScheduler

/-- The count is that of the list, the slots lie in the list, and no chunk has more
packets left than it can have after its first. -/
structure Sound (scheduler : FastPathScheduler) : Prop where
  counted : scheduler.workerCount = scheduler.workers.length
  inside : ∀ ofClass, (scheduler.cursors ofClass).currentWorker = 0 ∨
    (scheduler.cursors ofClass).currentWorker < scheduler.workerCount
  within : ∀ ofClass, (scheduler.cursors ofClass).remaining < ofClass.streamChunk

theorem sound_new : Sound .new where
  counted := rfl
  inside := fun _ => Or.inl rfl
  within := fun ofClass => ofClass.streamChunk_pos

/-- The scheduler after the load that a packet of a class may cause. -/
def reloaded (self : FastPathScheduler) (source : List WorkerChannels) (ofClass : PacketClass) :
    FastPathScheduler :=
  if (self.cursors ofClass).remaining = 0 then
    { self with workers := source }.syncWorkerCount source.length
  else self

variable {self : FastPathScheduler} {source : List WorkerChannels} {ofClass : PacketClass}

theorem reloaded_of_open (rest : (self.cursors ofClass).remaining ≠ 0) :
    self.reloaded source ofClass = self := if_neg rest

theorem reloaded_of_done (done : (self.cursors ofClass).remaining = 0) :
    self.reloaded source ofClass = { self with workers := source }.syncWorkerCount source.length :=
  if_pos done

theorem reloaded_workers (done : (self.cursors ofClass).remaining = 0) :
    (self.reloaded source ofClass).workers = source := by
  rw [reloaded_of_done done, syncWorkerCount]
  split
  · rfl
  · rfl

theorem reloaded_workerCount (done : (self.cursors ofClass).remaining = 0) :
    (self.reloaded source ofClass).workerCount = source.length := by
  rw [reloaded_of_done done, syncWorkerCount]
  split
  · rfl
  · next same => exact not_not.mp same

/-- A load keeps the cursors, or starts all of them over. -/
theorem reloaded_cursors (self : FastPathScheduler) (source : List WorkerChannels)
    (ofClass other : PacketClass) :
    (self.reloaded source ofClass).cursors other = self.cursors other ∨
      (self.reloaded source ofClass).cursors other = .default := by
  rw [reloaded]
  split
  · rw [syncWorkerCount]
    split
    · exact Or.inr rfl
    · exact Or.inl rfl
  · exact Or.inl rfl

theorem reloaded_of_longer (done : (self.cursors ofClass).remaining = 0)
    (changed : self.workerCount ≠ source.length) (other : PacketClass) :
    (self.reloaded source ofClass).cursors other = .default := by
  rw [reloaded_of_done done, syncWorkerCount, if_pos changed]

theorem reloaded_of_as_long (same : self.workerCount = source.length) (other : PacketClass) :
    (self.reloaded source ofClass).cursors other = self.cursors other := by
  rw [reloaded]
  split
  · rw [syncWorkerCount, if_neg (not_not_intro same)]
  · rfl

theorem reloaded_of_same (sound : self.Sound) (same : source = self.workers) :
    self.reloaded source ofClass = self := by
  rw [reloaded]
  split
  · rw [syncWorkerCount, if_neg (not_not_intro (by rw [sound.counted, same])), same]
  · rfl

/-- A class between two chunks is still between two chunks after a load. -/
theorem reloaded_done {other : PacketClass} (done : (self.cursors other).remaining = 0) :
    ((self.reloaded source ofClass).cursors other).remaining = 0 := by
  rcases reloaded_cursors self source ofClass other with kept | reset
  · rw [kept, done]
  · rw [reset]
    rfl

theorem sound_reloaded (sound : self.Sound) (source : List WorkerChannels)
    (ofClass : PacketClass) : (self.reloaded source ofClass).Sound := by
  rw [reloaded]
  split
  · rw [syncWorkerCount]
    split
    · exact
        { counted := rfl
          inside := fun _ => Or.inl rfl
          within := fun other => other.streamChunk_pos }
    · next same =>
        exact
          { counted := not_not.mp same
            inside := sound.inside
            within := sound.within }
  · exact sound

theorem begin_eq (self : FastPathScheduler) (source : List WorkerChannels) (packet : List U8) :
    self.begin source packet =
      let ofClass := packetClass packet
      let loaded := self.reloaded source ofClass
      let advanced := advance (loaded.cursors ofClass) loaded.workerCount ofClass
      if loaded.workerCount = 0 then (loaded, none)
      else ({ loaded with cursors := Function.update loaded.cursors ofClass advanced.1 },
        some advanced.2) := by
  simp only [begin, beginForClass, syncWorkerCount, reloaded, ne_eq, not_true_eq_false, if_false]

variable {packet : List U8} {ticket : DispatchTicket}

theorem begin_some
    (some : (self.reloaded source (packetClass packet)).workerCount ≠ 0) :
    let loaded := self.reloaded source (packetClass packet)
    let advanced := advance (loaded.cursors (packetClass packet)) loaded.workerCount
      (packetClass packet)
    self.begin source packet =
      ({ loaded with cursors := Function.update loaded.cursors (packetClass packet) advanced.1 },
        Option.some advanced.2) := by
  rw [begin_eq]
  exact if_neg some

theorem begin_workers (self : FastPathScheduler) (source : List WorkerChannels)
    (packet : List U8) :
    (self.begin source packet).1.workers =
      (self.reloaded source (packetClass packet)).workers := by
  simp only [begin_eq]
  split
  · rfl
  · rfl

theorem begin_cursors {other : PacketClass} (apart : other ≠ packetClass packet) :
    (self.begin source packet).1.cursors other =
      (self.reloaded source (packetClass packet)).cursors other := by
  simp only [begin_eq]
  split
  · rfl
  · exact Function.update_of_ne apart _ _

/-- A packet gets no ticket exactly if its list is empty. -/
theorem begin_refused (sound : self.Sound) :
    (self.begin source packet).2 = none ↔
      (self.reloaded source (packetClass packet)).workers = [] := by
  have counted := (sound_reloaded sound source (packetClass packet)).counted
  simp only [begin_eq]
  split
  · next none =>
      rw [none] at counted
      simp [List.length_eq_zero_iff.mp counted.symm]
  · next some =>
      constructor
      · intro impossible
        cases impossible
      · intro empty
        rw [empty] at counted
        exact absurd counted some

theorem begin_of_refused (refused : (self.begin source packet).2 = none) :
    (self.begin source packet).1 = self.reloaded source (packetClass packet) := by
  simp only [begin_eq] at refused ⊢
  split at refused
  · next none => rw [if_pos none]
  · cases refused

/-- The slot of a ticket lies in the list it was read from. -/
theorem begin_ticket (sound : self.Sound) (given : (self.begin source packet).2 = some ticket) :
    ticket.ofClass = packetClass packet ∧
      ticket.startSlot =
        ((self.reloaded source (packetClass packet)).cursors (packetClass packet)).currentWorker ∧
      ticket.startSlot < (self.begin source packet).1.workers.length := by
  have loaded := sound_reloaded sound source (packetClass packet)
  rw [begin_workers]
  simp only [begin_eq] at given
  split at given
  · cases given
  · next some =>
      cases given
      refine ⟨rfl, rfl, ?_⟩
      rw [← loaded.counted]
      rcases loaded.inside (packetClass packet) with first | inside
      · simp only [advance, first]
        exact Nat.pos_of_ne_zero some
      · exact inside

/-- Packets left in the chunk that a cursor is about to serve. -/
def RoundRobinCursor.left (cursor : RoundRobinCursor) (ofClass : PacketClass) : Nat :=
  if cursor.remaining = 0 then ofClass.streamChunk else cursor.remaining

/-- A ticket takes one packet off its class's chunk; the slot moves on with the last. -/
theorem begin_cursor (given : (self.begin source packet).2 = some ticket) :
    let cursor := (self.reloaded source (packetClass packet)).cursors (packetClass packet)
    let after := (self.begin source packet).1.cursors (packetClass packet)
    after.remaining = RoundRobinCursor.left cursor (packetClass packet) - 1 ∧
      (after.remaining ≠ 0 → after.currentWorker = cursor.currentWorker) := by
  simp only [begin_eq] at given ⊢
  split at given
  · cases given
  · next some =>
      rw [if_neg some]
      simp only [Function.update_self]
      exact ⟨rfl, fun rest => if_neg rest⟩

/-- What is left of a chunk is never the whole chunk. -/
theorem advance_within (cursor : RoundRobinCursor) (workerCount : Nat)
    (within : cursor.remaining < ofClass.streamChunk) :
    (advance cursor workerCount ofClass).1.remaining < ofClass.streamChunk := by
  have chunk := ofClass.streamChunk_pos
  simp only [advance]
  split
  · omega
  · omega

theorem advance_inside {cursor : RoundRobinCursor} {workerCount : Nat} (ofClass : PacketClass)
    (inside : cursor.currentWorker = 0 ∨ cursor.currentWorker < workerCount) :
    (advance cursor workerCount ofClass).1.currentWorker = 0 ∨
      (advance cursor workerCount ofClass).1.currentWorker < workerCount ∨ workerCount = 0 := by
  simp only [advance]
  generalize (if cursor.remaining = 0 then ofClass.streamChunk else cursor.remaining) = left
  by_cases last : left - 1 = 0
  · rw [if_pos last]
    split
    · exact Or.inl rfl
    · next more => omega
  · rw [if_neg last]
    omega

theorem sound_begin (sound : self.Sound) (source : List WorkerChannels) (packet : List U8) :
    (self.begin source packet).1.Sound := by
  have loaded := sound_reloaded sound source (packetClass packet)
  simp only [begin_eq]
  split
  · exact loaded
  · next some =>
      refine { counted := loaded.counted, inside := fun other => ?_, within := fun other => ?_ }
      · by_cases own : other = packetClass packet
        · subst own
          have inside := advance_inside (packetClass packet)
            (loaded.inside (packetClass packet))
          simp only [Function.update_self]
          tauto
        · simp only [Function.update_of_ne own]
          exact loaded.inside other
      · by_cases own : other = packetClass packet
        · subst own
          simp only [Function.update_self]
          exact advance_within _ _ (loaded.within (packetClass packet))
        · simp only [Function.update_of_ne own]
          exact loaded.within other

end Csqtt.FastPathScheduler
