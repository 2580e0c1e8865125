/-
Module: Csqtt.Engine.RepairRun
Purpose: Repairs that come while sessions start and wait, with any number of threads at
  once: each step is one atomic operation of one of them.
Trusted boundary: the order of atomic operations is one for all threads
Main exports: RepairPoint, perform, RepairOperation, RepairEvent, Repairing, step
-/
import Csqtt.Core.Interleaving
import Csqtt.Engine.Repair
import Mathlib.Logic.Function.Iterate

namespace Csqtt

/-- The points of the functions. A session carries the generation in force when it became
ready, which the code does not know, and from its capture on the one it watches; `rest`
are the workers that a command has still to reach. -/
inductive RepairPoint where
  | ended
  | repairLast (sequence : U64) (worker : Nat) (rest : List U16)
  | repairExchange (sequence : U64) (worker : Nat) (current : U64) (rest : List U16)
  | repairReady (sequence : U64) (worker : Nat) (previous : U64) (rest : List U16)
  | repairCredential (sequence : U64) (worker : Nat) (rest : List U16)
  | repairRestart (sequence : U64) (worker : Nat) (rest : List U16)
  | repairNotify (sequence : U64) (worker : Nat) (rest : List U16)
  | aliveMax (sequence : U64) (worker : Nat) (rest : List U16)
  | markLast (worker : Nat)
  | markStore (worker : Nat) (sequence : U64)
  | capture (worker : Nat) (ready : U64)
  | check (worker : Nat) (ready observed : U64)
  | register (worker : Nat) (ready observed : U64)
  | parked (worker : Nat) (ready observed : U64) (calls : Nat)
deriving DecidableEq, Repr

/-- The next worker of a command. -/
def repairNext (sequence : U64) : List U16 → RepairPoint
  | [] => .ended
  | worker :: rest => .repairLast sequence worker.toNat rest

def aliveNext (sequence : U64) : List U16 → RepairPoint
  | [] => .ended
  | worker :: rest => .aliveMax sequence worker.toNat rest

/-- Behind the exchange that accepted the sequence. -/
def repairAccepted (sequence : U64) (worker : Nat) (previous : U64) (rest : List U16) :
    RepairPoint :=
  if previous ≠ 0 then .repairReady sequence worker previous rest
  else .repairRestart sequence worker rest

namespace RepairState

/-- One atomic operation. A worker without a slot is passed over, and a session of such a
worker waits for ever. -/
def perform (self : RepairState) : RepairPoint → RepairState × RepairPoint
  | .ended => (self, .ended)
  | .repairLast sequence worker rest =>
      match self.slot worker with
      | none => (self, repairNext sequence rest)
      | some slot =>
          (self,
            if sequence ≤ slot.lastSequence then repairNext sequence rest
            else .repairExchange sequence worker slot.lastSequence rest)
  | .repairExchange sequence worker current rest =>
      match self.slot worker with
      | none => (self, repairNext sequence rest)
      | some slot =>
          if slot.lastSequence = current then
            (self.update worker fun slot => { slot with lastSequence := sequence },
              repairAccepted sequence worker current rest)
          else
            (self,
              if sequence ≤ slot.lastSequence then repairNext sequence rest
              else .repairExchange sequence worker slot.lastSequence rest)
  | .repairReady sequence worker previous rest =>
      match self.slot worker with
      | none => (self, repairNext sequence rest)
      | some slot =>
          (self,
            if slot.readySequence < previous then .repairCredential sequence worker rest
            else .repairRestart sequence worker rest)
  | .repairCredential sequence worker rest =>
      (self.update worker (·.escalate), .repairRestart sequence worker rest)
  | .repairRestart sequence worker rest =>
      (self.update worker (·.restart), .repairNotify sequence worker rest)
  | .repairNotify sequence worker rest =>
      (self.update worker (·.notifyWaiters), repairNext sequence rest)
  | .aliveMax sequence worker rest =>
      (self.update worker (·.alive sequence), aliveNext sequence rest)
  | .markLast worker =>
      match self.slot worker with
      | none => (self, .capture worker (self.restartGeneration worker))
      | some slot => (self, .markStore worker slot.lastSequence)
  | .markStore worker sequence =>
      (self.update worker fun slot => { slot with readySequence := sequence },
        .capture worker (self.restartGeneration worker))
  | .capture worker ready => (self, .check worker ready (self.restartGeneration worker))
  | .check worker ready observed =>
      match self.slot worker with
      | none => (self, .check worker ready observed)
      | some slot =>
          (self,
            if slot.restartGeneration ≠ observed then .ended
            else .register worker ready observed)
  | .register worker ready observed =>
      match self.slot worker with
      | none => (self, .register worker ready observed)
      | some slot => (self, .parked worker ready observed slot.notifyCalls)
  | .parked worker ready observed calls =>
      match self.slot worker with
      | none => (self, .parked worker ready observed calls)
      | some slot =>
          (self,
            if slot.notifyCalls ≠ calls then .check worker ready observed
            else .parked worker ready observed calls)

end RepairState

/-!
### A function that nobody interrupts

Run alone, the operations come to what the function does in one go.
-/

namespace RepairState

-- The equations of `perform` are made here once, not by each proof that rewrites with them.
attribute [local simp] perform

/-- One operation after the other. -/
def turn (found : RepairState × RepairPoint) : RepairState × RepairPoint :=
  found.1.perform found.2

theorem update_update (self : RepairState) (worker : Nat)
    (first second : RepairSlot → RepairSlot) :
    (self.update worker first).update worker second = self.update worker (second ∘ first) := by
  by_cases zero : worker = 0
  · simp [update, zero]
  · simp [update, zero, List.modify_modify_eq]

theorem update_congr {self : RepairState} {worker : Nat} {slot : RepairSlot}
    {first second : RepairSlot → RepairSlot} (found : self.slot worker = some slot)
    (same : first slot = second slot) :
    self.update worker first = self.update worker second := by
  by_cases zero : worker = 0
  · simp [update, zero]
  · rw [RepairState.slot, if_pos zero] at found
    rw [update, update, if_pos zero, if_pos zero]
    congr 1
    apply List.ext_getElem?
    intro index
    rw [List.getElem?_modify, List.getElem?_modify]
    by_cases here : worker = index
    · subst here
      simp [found, same]
    · simp [here]

theorem update_absent {self : RepairState} {worker : Nat} {change : RepairSlot → RepairSlot}
    (absent : self.slot worker = none) : self.update worker change = self := by
  rw [update]
  split
  · next real =>
      rw [RepairState.slot, if_pos real] at absent
      rw [List.modify_eq_self (List.getElem?_eq_none_iff.mp absent)]
  · rfl

theorem update_id (self : RepairState) (worker : Nat) : self.update worker id = self := by
  rw [update]
  split
  · rw [List.modify_id]
  · rfl

/-- The operations of a repair on one worker. -/
theorem repair_worker_alone (self : RepairState) (sequence : U64) (worker : U16)
    (rest : List U16) (result : RepairApplyResult) :
    ∃ turns, turn^[turns] (self, .repairLast sequence worker.toNat rest) =
      ((applyRepairTo sequence (self, result) worker).1, repairNext sequence rest) := by
  cases found : self.slot worker.toNat with
  | none => exact ⟨1, by simp [turn, perform, applyRepairTo, found]⟩
  | some slot =>
      rw [applyRepairTo, found]
      have accepted : (self.update worker.toNat fun slot =>
          { slot with lastSequence := sequence }).slot worker.toNat =
          some { slot with lastSequence := sequence } := by
        rw [slot_update, if_pos rfl, found, Option.map_some]
      by_cases late : sequence ≤ slot.lastSequence
      · refine ⟨1, ?_⟩
        have same : (slot.repair sequence).1 = id slot := by rw [RepairSlot.repair, if_pos late]; rfl
        rw [update_congr found same, update_id]
        simp [turn, perform, found, late]
      · by_cases first : slot.lastSequence = 0
        · refine ⟨4, ?_⟩
          have positive : ¬ sequence ≤ 0 := first ▸ late
          simp only [Function.iterate_succ, Function.iterate_zero, Function.comp_apply, id, turn,
            perform, found, positive, if_false, if_true, repairAccepted, first, ne_eq, not_true,
            update_update]
          congr 1
          apply update_congr found
          rw [RepairSlot.repair, if_neg late, if_neg (by simp [RepairSlot.unresolved, first])]
          rfl
        · by_cases unresolved : slot.readySequence < slot.lastSequence
          · refine ⟨6, ?_⟩
            simp only [Function.iterate_succ, Function.iterate_zero, Function.comp_apply, id, turn,
              perform, found, accepted, late, if_false, if_true, repairAccepted, first, ne_eq,
              not_false_eq_true, unresolved, update_update]
            congr 1
            apply update_congr found
            have met : slot.unresolved slot.lastSequence = true :=
              Bool.and_eq_true_iff.mpr ⟨bne_iff_ne.mpr first, decide_eq_true unresolved⟩
            rw [RepairSlot.repair, if_neg late, if_pos met]
            rfl
          · refine ⟨5, ?_⟩
            simp only [Function.iterate_succ, Function.iterate_zero, Function.comp_apply, id, turn,
              perform, found, accepted, late, if_false, if_true, repairAccepted, first, ne_eq,
              not_false_eq_true, unresolved, update_update]
            congr 1
            apply update_congr found
            rw [RepairSlot.repair, if_neg late,
              if_neg (by simp [RepairSlot.unresolved, unresolved])]
            rfl

theorem repair_alone (sequence : U64) (workers : List U16) (self : RepairState)
    (result : RepairApplyResult) :
    ∃ turns, turn^[turns] (self, repairNext sequence workers) =
      ((workers.foldl (applyRepairTo sequence) (self, result)).1, .ended) := by
  induction workers generalizing self result with
  | nil => exact ⟨0, rfl⟩
  | cons worker workers inductionHypothesis =>
      obtain ⟨first, one⟩ := self.repair_worker_alone sequence worker workers result
      obtain ⟨later, rest⟩ := inductionHypothesis (applyRepairTo sequence (self, result) worker).1
        (applyRepairTo sequence (self, result) worker).2
      refine ⟨later + first, ?_⟩
      rw [Function.iterate_add_apply, repairNext, one, rest]
      rfl

theorem alive_alone (sequence : U64) (workers : List U16) (self : RepairState) (applied : Nat) :
    ∃ turns, turn^[turns] (self, aliveNext sequence workers) =
      ((workers.foldl (applyAliveTo sequence) (self, applied)).1, .ended) := by
  induction workers generalizing self applied with
  | nil => exact ⟨0, rfl⟩
  | cons worker workers inductionHypothesis =>
      obtain ⟨later, rest⟩ := inductionHypothesis (applyAliveTo sequence (self, applied) worker).1
        (applyAliveTo sequence (self, applied) worker).2
      have one : turn (self, .aliveMax sequence worker.toNat workers) =
          ((applyAliveTo sequence (self, applied) worker).1, aliveNext sequence workers) := by
        rw [applyAliveTo]
        split
        · next absent =>
            rw [turn, perform, update_absent absent]
        · rfl
      refine ⟨later + 1, ?_⟩
      rw [Function.iterate_add_apply, Function.iterate_one, aliveNext, one, rest]
      rfl

theorem mark_alone (self : RepairState) (worker : Nat) :
    turn^[2] (self, .markLast worker) =
      (self.markReady worker, .capture worker (self.restartGeneration worker)) ∨
    turn (self, .markLast worker) =
      (self.markReady worker, .capture worker (self.restartGeneration worker)) := by
  cases found : self.slot worker with
  | none =>
      right
      rw [turn, perform, found, markReady, update_absent found]
  | some slot =>
      left
      simp only [Function.iterate_succ, Function.iterate_zero, Function.comp_apply, id, turn,
        perform, found, markReady]
      exact congrArg (·, _) (update_congr found rfl)

end RepairState

/-- The functions that are called from outside. -/
inductive RepairOperation where
  | repair (command : StreamRepairCommand)
  | alive (command : StreamRepairCommand)
  | session (worker : Nat)
deriving DecidableEq, Repr

def RepairOperation.point : RepairOperation → RepairPoint
  | .repair command => repairNext command.sequence command.workerIds
  | .alive command => aliveNext command.sequence command.workerIds
  | .session worker => .markLast worker

/-- A session that waits may also go round its loop, since the mode was announced, or end
for another reason. -/
inductive RepairEvent where
  | begin (operation : RepairOperation)
  | run (index : Nat)
  | announce (index : Nat)
  | finish (index : Nat)
deriving DecidableEq, Repr

/-- Where another branch of the session's loop leads to. -/
def RepairPoint.announced : RepairPoint → RepairPoint
  | .parked worker ready observed _ => .check worker ready observed
  | point => point

def RepairPoint.finished : RepairPoint → RepairPoint
  | .check _ _ _ => .ended
  | .parked _ _ _ _ => .ended
  | point => point

/-- A thread, with the operation it was begun for. -/
abbrev RepairTask := Thread RepairPoint RepairOperation

structure Repairing where
  repair : RepairState
  tasks : List RepairTask
deriving DecidableEq, Repr

namespace Repairing

def start (desiredCount : Nat) : Repairing where
  repair := .new desiredCount
  tasks := []

def moved (self : Repairing) (index : Nat) (current : RepairTask) (repair : RepairState)
    (point : RepairPoint) : Repairing where
  repair := repair
  tasks := Interleaving.advance self.tasks index { current with point := point } []

/-- The output is the point that was left. -/
def step (self : Repairing) : RepairEvent → Repairing × Option RepairPoint
  | .begin operation =>
      ({ self with tasks := self.tasks ++ [{ point := operation.point, tag := operation }] }, none)
  | .run index =>
      match self.tasks[index]? with
      | none => (self, none)
      | some current =>
          let after := self.repair.perform current.point
          (self.moved index current after.1 after.2, some current.point)
  | .announce index =>
      match self.tasks[index]? with
      | none => (self, none)
      | some current =>
          (self.moved index current self.repair current.point.announced, some current.point)
  | .finish index =>
      match self.tasks[index]? with
      | none => (self, none)
      | some current =>
          (self.moved index current self.repair current.point.finished, some current.point)

end Repairing

end Csqtt
