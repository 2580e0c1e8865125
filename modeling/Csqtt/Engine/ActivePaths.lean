/-
Module: Csqtt.Engine.ActivePaths
Purpose: Engines of one process, started and stopped by the host while earlier ones still
  run, and the count of active paths that they share.
Trusted boundary: a worker has one session at a time
Main exports: normalizeWorkerCountForHashes, SessionPoint, Engine, Process, step,
  csqttEngineActivePaths
-/
import Csqtt.Core.Word

namespace Csqtt

abbrev I32 := BitVec 32

def workersPerGroup : Nat := 9
def groupsPerVkHash : Nat := 3
def maxVkHashes : Nat := 6
def maxWorkers : Nat := 126

def normalizeWorkerCount (requested : Nat) : Nat :=
  min (max requested workersPerGroup) maxWorkers / workersPerGroup * workersPerGroup

def normalizeWorkerCountForHashes (requested hashCount : Nat)
    (allowHashRedistribution : Bool) : Nat :=
  if allowHashRedistribution then normalizeWorkerCount requested
  else
    let maximum := min (max hashCount 1) maxVkHashes * groupsPerVkHash * workersPerGroup
    min (normalizeWorkerCount requested) maximum

theorem normalizeWorkerCount_le (requested : Nat) :
    normalizeWorkerCount requested ≤ maxWorkers :=
  Nat.le_trans (Nat.div_mul_le_self _ _) (Nat.min_le_right _ _)

/-- No engine has more workers than the process allows. -/
theorem normalizeWorkerCountForHashes_le (requested hashCount : Nat) (allow : Bool) :
    normalizeWorkerCountForHashes requested hashCount allow ≤ maxWorkers := by
  rw [normalizeWorkerCountForHashes]
  split
  · exact normalizeWorkerCount_le requested
  · exact Nat.le_trans (Nat.min_le_left _ _) (normalizeWorkerCount_le requested)

/-- Where the session of a worker is. Its `ActiveConnection` is counted twice, with the
engine and with the process, and lives from the second count to the first one taken back. -/
inductive SessionPoint where
  | idle
  | connecting
  | configuring
  | counted
  | active
  | leaving
deriving DecidableEq, Repr

inductive SessionStep where
  | connect
  | allocated
  | ended
  | count
  | enter
  | leave
  | uncount
deriving DecidableEq, Repr

/-- A session that began before the engine was cancelled may still become ready. -/
def SessionPoint.next (cancelled : Bool) : SessionPoint → SessionStep → Option SessionPoint
  | .idle, .connect => if cancelled then none else some .connecting
  | .connecting, .allocated => some .configuring
  | .connecting, .ended => some .idle
  | .configuring, .ended => some .idle
  | .configuring, .count => some .counted
  | .counted, .enter => some .active
  | .active, .leave => some .leaving
  | .leaving, .uncount => some .idle
  | _, _ => none

/-- What a step adds to the count of the process. -/
def SessionStep.paths : SessionStep → I32
  | .enter => 1
  | .leave => -1
  | _ => 0

/-- What it adds to that of the engine. -/
def SessionStep.connections : SessionStep → I32
  | .count => 1
  | .uncount => -1
  | _ => 0

inductive EnginePoint where
  | starting
  | published
  | zeroed
  | running
  | over
deriving DecidableEq, Repr

structure Engine where
  point : EnginePoint
  cancelled : Bool
  sessions : List SessionPoint
  activeConnections : I32
deriving DecidableEq, Repr

def Engine.spawned (workers : Nat) : Engine where
  point := .starting
  cancelled := false
  sessions := List.replicate workers .idle
  activeConnections := 0

/-- The engines in the order of their starts, whose token a stop finds, and the count.
`latest`, which the code does not keep, is the engine that zeroed the count last. -/
structure Process where
  engines : List Engine
  engineCancel : Option Nat
  activePaths : I32
  latest : Option Nat
deriving DecidableEq, Repr

namespace Process

def initial : Process where
  engines := []
  engineCancel := none
  activePaths := 0
  latest := none

end Process

inductive EngineStep where
  | publish
  | zero
  | fail
  | groups
  | cancel
  | session (worker : Nat) (step : SessionStep)
  | finish
deriving DecidableEq, Repr

inductive ProcessEvent where
  | start (requested hashCount : Nat) (allowHashRedistribution : Bool)
  | stop
  | engine (index : Nat) (step : EngineStep)
deriving DecidableEq, Repr

namespace Process

def csqttEngineActivePaths (self : Process) : Int := self.activePaths.toInt

def csqttEngineStart (self : Process) (workers : Nat) : Process :=
  { self with engines := self.engines ++ [Engine.spawned workers] }

/-- Only the engine that published its token last is cancelled, and nobody waits for it. -/
def csqttEngineStop (self : Process) : Process :=
  match self.engineCancel with
  | none => self
  | some index =>
      { self with
        engines := self.engines.modify index fun engine => { engine with cancelled := true } }

def moved (self : Process) (index : Nat) (engine : Engine) : Process :=
  { self with engines := self.engines.set index engine }

/-- A step of a session and what it does to the two counts. -/
def sessionStep (self : Process) (index : Nat) (engine : Engine) (worker : Nat)
    (step : SessionStep) : Process :=
  match engine.sessions[worker]? with
  | none => self
  | some point =>
      match point.next engine.cancelled step with
      | none => self
      | some next =>
          { self.moved index { engine with
              sessions := engine.sessions.set worker next
              activeConnections := engine.activeConnections + step.connections } with
            activePaths := self.activePaths + step.paths }

/-- One step of an engine. Start-up publishes the token, zeroes the count and, unless the
dispatcher fails, runs the workers; it is over when it was cancelled and all have ended. -/
def engineStep (self : Process) (index : Nat) (engine : Engine) : EngineStep → Process
  | .publish =>
      if engine.point = .starting then
        { self.moved index { engine with point := .published } with engineCancel := some index }
      else self
  | .zero =>
      if engine.point = .published then
        { self.moved index { engine with point := .zeroed } with
          activePaths := 0
          latest := some index }
      else self
  | .fail =>
      if engine.point = .starting ∨ engine.point = .zeroed then
        self.moved index { engine with point := .over }
      else self
  | .groups =>
      if engine.point = .zeroed then self.moved index { engine with point := .running } else self
  | .cancel =>
      if engine.point = .running then self.moved index { engine with cancelled := true } else self
  | .session worker step =>
      if engine.point = .running then self.sessionStep index engine worker step else self
  | .finish =>
      if engine.point = .running ∧ engine.cancelled = true ∧
          engine.sessions.all (· == .idle) = true then
        self.moved index { engine with point := .over }
      else self

def step (self : Process) : ProcessEvent → Process × Unit
  | .start requested hashCount allow =>
      (self.csqttEngineStart (normalizeWorkerCountForHashes requested hashCount allow), ())
  | .stop => (self.csqttEngineStop, ())
  | .engine index step =>
      match self.engines[index]? with
      | none => (self, ())
      | some engine => (self.engineStep index engine step, ())

end Process

end Csqtt
