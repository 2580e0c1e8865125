/-
Module: Csqtt.Core.ArrayQueue
Purpose: Bounded first-in first-out queues: one that carries its bound, and one that can be
  suspended, call by call.
Trusted boundary: none
Main exports: ArrayQueue, push, forcePush, pop, dropWhile, map, FifoCall, FifoOutcome,
  BoundedFifo, call
-/
import Mathlib.Data.List.Basic

namespace Csqtt

/-- A queue that never holds more than its capacity. -/
structure ArrayQueue (Item : Type*) (capacity : Nat) where
  items : List Item
  bounded : items.length ≤ capacity

namespace ArrayQueue

variable {Item Item' : Type*} {capacity : Nat}

def empty : ArrayQueue Item capacity where
  items := []
  bounded := Nat.zero_le _

/-- Append an item; `none` when the queue is full. -/
def push (self : ArrayQueue Item capacity) (item : Item) : Option (ArrayQueue Item capacity) :=
  if room : self.items.length < capacity then
    some
      { items := self.items ++ [item]
        bounded := by
          rw [List.length_append, List.length_singleton]
          exact room }
  else none

/-- Take the oldest item. -/
def pop (self : ArrayQueue Item capacity) : Option (Item × ArrayQueue Item capacity) :=
  match listed : self.items with
  | [] => none
  | item :: items =>
      some (item,
        { items := items
          bounded := by
            have bounded := self.bounded
            rw [listed, List.length_cons] at bounded
            exact Nat.le_of_succ_le bounded })

/-- Append an item; a full queue gives up its oldest one for it. -/
def forcePush (self : ArrayQueue Item capacity) (positive : 0 < capacity) (item : Item) :
    ArrayQueue Item capacity where
  items := self.items.drop (self.items.length + 1 - capacity) ++ [item]
  bounded := by
    have bounded := self.bounded
    rw [List.length_append, List.length_drop, List.length_singleton]
    omega

/-- Take the oldest items for as long as they meet a condition. -/
def dropWhile (self : ArrayQueue Item capacity) (condition : Item → Bool) :
    ArrayQueue Item capacity where
  items := self.items.dropWhile condition
  bounded := Nat.le_trans (List.dropWhile_suffix condition).length_le self.bounded

theorem push_spec {self pushed : ArrayQueue Item capacity} {item : Item}
    (accepted : self.push item = some pushed) : pushed.items = self.items ++ [item] := by
  rw [push] at accepted
  split at accepted
  · rw [← Option.some.inj accepted]
  · exact absurd accepted (by simp)

theorem room_of_push {self pushed : ArrayQueue Item capacity} {item : Item}
    (accepted : self.push item = some pushed) : self.items.length < capacity := by
  by_contra full
  rw [push, dif_neg full] at accepted
  cases accepted

theorem full_of_push {self : ArrayQueue Item capacity} {item : Item}
    (refused : self.push item = none) : ¬ self.items.length < capacity := by
  intro room
  rw [push, dif_pos room] at refused
  cases refused

theorem pop_eq_none {self : ArrayQueue Item capacity} : self.pop = none ↔ self.items = [] := by
  rw [pop]
  split
  · simp [*]
  · simp [*]

theorem pop_spec {self popped : ArrayQueue Item capacity} {item : Item}
    (taken : self.pop = some (item, popped)) : self.items = item :: popped.items := by
  rw [pop] at taken
  split at taken
  · exact absurd taken (by simp)
  · simp only [Option.some.injEq, Prod.mk.injEq] at taken
    rw [← taken.1, ← taken.2]
    assumption

@[ext] theorem ext {first second : ArrayQueue Item capacity} (same : first.items = second.items) :
    first = second := by
  cases first
  cases second
  cases same
  rfl

theorem pop_of_cons {self : ArrayQueue Item capacity} {item : Item} {rest : List Item}
    (items : self.items = item :: rest) :
    ∃ popped, self.pop = some (item, popped) ∧ popped.items = rest := by
  obtain ⟨listed, bounded⟩ := self
  cases items
  exact ⟨_, rfl, rfl⟩

def map (f : Item → Item') (self : ArrayQueue Item capacity) : ArrayQueue Item' capacity where
  items := self.items.map f
  bounded := by
    rw [List.length_map]
    exact self.bounded

theorem push_map (f : Item → Item') (self : ArrayQueue Item capacity) (item : Item) :
    (self.map f).push (f item) = (self.push item).map (map f) := by
  by_cases room : self.items.length < capacity
  · rw [push, dif_pos (by simpa [map] using room), push, dif_pos room]
    simp [map]
  · rw [push, dif_neg (by simpa [map] using room), push, dif_neg room]
    rfl

theorem pop_map (f : Item → Item') (self : ArrayQueue Item capacity) :
    (self.map f).pop = self.pop.map fun popped => (f popped.1, popped.2.map f) := by
  obtain ⟨items, bounded⟩ := self
  cases items with
  | nil => rfl
  | cons item items => rfl

end ArrayQueue

inductive FifoCall (Item : Type*) where
  | trySend (item : Item)
  | forceSend (item : Item)
  | tryRecv
  | steal
  | suspend
  | resume
deriving DecidableEq, Repr

inductive FifoOutcome (Item : Type*) where
  | sent
  | refused (item : Item)
  | received (item : Option Item)
  | stolen (items : List Item)
  | done
deriving DecidableEq, Repr

def FifoCall.map {Item Item' : Type*} (f : Item → Item') : FifoCall Item → FifoCall Item'
  | .trySend item => .trySend (f item)
  | .forceSend item => .forceSend (f item)
  | .tryRecv => .tryRecv
  | .steal => .steal
  | .suspend => .suspend
  | .resume => .resume

/-- The items are in the order they came in. -/
structure BoundedFifo (Item : Type*) where
  capacity : Nat
  active : Bool
  items : List Item
deriving DecidableEq, Repr

namespace BoundedFifo

variable {Item : Type*}

/-- A full queue rejects what is sent, or gives up its oldest item for what is forced; a
suspended one rejects both. -/
def call (self : BoundedFifo Item) : FifoCall Item → BoundedFifo Item × FifoOutcome Item
  | .trySend item =>
      if self.active ∧ self.items.length < self.capacity then
        ({ self with items := self.items ++ [item] }, .sent)
      else (self, .refused item)
  | .forceSend item =>
      if self.active then
        let kept := if self.items.length < self.capacity then self.items else self.items.tail
        ({ self with items := kept ++ [item] }, .sent)
      else (self, .refused item)
  | .tryRecv => ({ self with items := self.items.tail }, .received self.items.head?)
  | .steal => ({ self with items := [] }, .stolen self.items)
  | .suspend => ({ self with active := false, items := [] }, .done)
  | .resume => ({ self with active := true, items := [] }, .done)

end BoundedFifo

end Csqtt
