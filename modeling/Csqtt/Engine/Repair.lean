/-
Module: Csqtt.Engine.Repair
Purpose: Repairs that the server asks for: per worker the sequences seen, the number of
  restarts, and when to ask for new credentials.
Trusted boundary: none
Main exports: StreamRepairCommand, RepairSlot, RepairState, applyRepair, applyAlive,
  markReady, RepairCall
-/
import Csqtt.Core.Transducer
import Csqtt.Core.Word

namespace Csqtt

/-- A parsed command. The parser takes no sequence zero. -/
structure StreamRepairCommand where
  sequence : U64
  desiredCount : U16
  workerIds : List U16
  numbered : sequence ≠ 0
deriving DecidableEq, Repr

structure RepairApplyResult where
  restarts : Nat
  credentialResets : Nat
deriving DecidableEq, Repr

/-- `notifyCalls` is what a `Notify` counts of the calls that wake all waiters: one that
waits remembers the count from when it began. -/
structure RepairSlot where
  restartGeneration : U64
  credentialGeneration : U64
  lastSequence : U64
  readySequence : U64
  notifyCalls : Nat
deriving DecidableEq, Repr

namespace RepairSlot

def new : RepairSlot where
  restartGeneration := 0
  credentialGeneration := 0
  lastSequence := 0
  readySequence := 0
  notifyCalls := 0

/-- The last accepted sequence was never confirmed. -/
def unresolved (self : RepairSlot) (previous : U64) : Bool :=
  previous != 0 && decide (self.readySequence < previous)

def escalate (self : RepairSlot) : RepairSlot :=
  { self with credentialGeneration := self.credentialGeneration + 1 }

def restart (self : RepairSlot) : RepairSlot :=
  { self with restartGeneration := self.restartGeneration + 1 }

def notifyWaiters (self : RepairSlot) : RepairSlot :=
  { self with notifyCalls := self.notifyCalls + 1 }

def repair (self : RepairSlot) (sequence : U64) : RepairSlot × RepairApplyResult :=
  if sequence ≤ self.lastSequence then (self, { restarts := 0, credentialResets := 0 })
  else
    let accepted := { self with lastSequence := sequence }
    if self.unresolved self.lastSequence then
      (accepted.escalate.restart.notifyWaiters, { restarts := 1, credentialResets := 1 })
    else (accepted.restart.notifyWaiters, { restarts := 1, credentialResets := 0 })

def alive (self : RepairSlot) (sequence : U64) : RepairSlot :=
  { self with
    readySequence := if self.readySequence < sequence then sequence else self.readySequence }

def ready (self : RepairSlot) : RepairSlot :=
  { self with readySequence := self.lastSequence }

end RepairSlot

/-- One slot for every worker, and one at zero that no worker has. -/
structure RepairState where
  slots : List RepairSlot
deriving DecidableEq, Repr

namespace RepairState

def new (desiredCount : Nat) : RepairState where
  slots := List.replicate (desiredCount + 1) .new

def slot (self : RepairState) (worker : Nat) : Option RepairSlot :=
  if worker ≠ 0 then self.slots[worker]? else none

def restartGeneration (self : RepairState) (worker : Nat) : U64 :=
  ((self.slot worker).map (·.restartGeneration)).getD 0

def credentialGeneration (self : RepairState) (worker : Nat) : U64 :=
  ((self.slot worker).map (·.credentialGeneration)).getD 0

/-- Work on the worker's slot, if it has one. -/
def update (self : RepairState) (worker : Nat) (change : RepairSlot → RepairSlot) :
    RepairState :=
  if worker ≠ 0 then { slots := self.slots.modify worker change } else self

def markReady (self : RepairState) (worker : Nat) : RepairState :=
  self.update worker (·.ready)

def applyRepairTo (sequence : U64) :
    RepairState × RepairApplyResult → U16 → RepairState × RepairApplyResult
  | (state, result), worker =>
      match state.slot worker.toNat with
      | none => (state, result)
      | some slot =>
          let applied := (slot.repair sequence).2
          (state.update worker.toNat fun slot => (slot.repair sequence).1,
            { restarts := result.restarts + applied.restarts
              credentialResets := result.credentialResets + applied.credentialResets })

def applyRepair (self : RepairState) (command : StreamRepairCommand) :
    RepairState × RepairApplyResult :=
  command.workerIds.foldl (applyRepairTo command.sequence)
    (self, { restarts := 0, credentialResets := 0 })

def applyAliveTo (sequence : U64) : RepairState × Nat → U16 → RepairState × Nat
  | (state, applied), worker =>
      match state.slot worker.toNat with
      | none => (state, applied)
      | some _ => (state.update worker.toNat (·.alive sequence), applied + 1)

def applyAlive (self : RepairState) (command : StreamRepairCommand) : RepairState × Nat :=
  command.workerIds.foldl (applyAliveTo command.sequence) (self, 0)

theorem slot_update (self : RepairState) (worker other : Nat)
    (change : RepairSlot → RepairSlot) :
    (self.update worker change).slot other =
      if other = worker then (self.slot other).map change else self.slot other := by
  by_cases zero : worker = 0
  · subst zero
    by_cases same : other = 0
    · simp [slot, same]
    · simp [update, same]
  · by_cases same : other = worker
    · subst same
      simp [update, slot, zero]
    · simp [update, slot, zero, same, Ne.symm same]

end RepairState

/-- The calls into the repair state: commands from the server, and a worker's session
that became ready. -/
inductive RepairCall where
  | repair (command : StreamRepairCommand)
  | alive (command : StreamRepairCommand)
  | ready (worker : Nat)
deriving DecidableEq, Repr

namespace RepairState

def call (self : RepairState) : RepairCall → RepairState
  | .repair command => (self.applyRepair command).1
  | .alive command => (self.applyAlive command).1
  | .ready worker => self.markReady worker

/-- The state after some calls, from the start. -/
def after (desiredCount : Nat) (calls : List RepairCall) : RepairState :=
  calls.foldl call (new desiredCount)

end RepairState

end Csqtt
