/-
Module: Csqtt.Engine.WorkerGroups
Purpose: What the workers of an engine share: how they are dealt to call hashes and credentials,
  the pacer that spaces their starts, and the gate that merges their reports of a recovery, one
  atomic operation at a time.
Trusted boundary: the counts stay below the largest word; the order of atomic operations is one
  for all workers
Main exports: GroupDealing, dealGroup, runGroups, RecoveryLogGate, RecoveryLog, RecoveryLog.step,
  WorkerStartPacer, WorkerStarts, WorkerStarts.step
-/
import Csqtt.Core.Interleaving
import Csqtt.Core.Text
import Csqtt.Core.Word
import Csqtt.Engine.ActivePaths
import Csqtt.Engine.CredentialCache

namespace Csqtt

/-!
### Groups and credentials
-/

def groupsPerCredential : Nat := 2

/-- Groups are numbered from one. -/
def groupWorkerIds (groupId : Nat) : List Nat :=
  List.range' ((groupId - 1) * workersPerGroup + 1) workersPerGroup

def credentialStreamId (credentialId : Nat) : Nat := credentialId * 100

def groupHashIndex (groupIndex hashCount : Nat) : Nat := groupIndex % hashCount

def credentialCohortIndex (groupIndexForHash : Nat) : Nat :=
  groupIndexForHash / groupsPerCredential

structure GroupCredentials where
  credentialId : Nat
  hash : Text
deriving DecidableEq, Repr

/-- What `run_groups` has dealt so far. -/
structure GroupDealing where
  credentialsByHash : List (List GroupCredentials)
  groupsByHash : List Nat
  groupCredentials : List GroupCredentials
  nextCredentialId : Nat
deriving DecidableEq, Repr

namespace GroupDealing

def start (hashCount : Nat) : GroupDealing where
  credentialsByHash := List.replicate hashCount []
  groupsByHash := List.replicate hashCount 0
  groupCredentials := []
  nextCredentialId := 1

/-- One more group. An index that is out of bounds would be a panic. -/
def dealGroup (hashes : List Text) (self : GroupDealing) (groupIndex : Nat) :
    Option GroupDealing := do
  let hashIndex := groupHashIndex groupIndex hashes.length
  let groupIndexForHash ← self.groupsByHash[hashIndex]?
  let cohortIndex := credentialCohortIndex groupIndexForHash
  let credentials ← self.credentialsByHash[hashIndex]?
  let hash ← hashes[hashIndex]?
  let missing := credentials.length ≤ cohortIndex
  let known :=
    if missing then credentials ++ [{ credentialId := self.nextCredentialId, hash := hash }]
    else credentials
  let shared ← known[cohortIndex]?
  return {
    credentialsByHash := self.credentialsByHash.set hashIndex known
    groupsByHash := self.groupsByHash.set hashIndex (groupIndexForHash + 1)
    groupCredentials := self.groupCredentials ++ [shared]
    nextCredentialId := if missing then self.nextCredentialId + 1 else self.nextCredentialId }

end GroupDealing

/-- The workers that are started, each with the credentials of its group. -/
def runGroups (hashes : List Text) (groups : Nat) : Option (List (Nat × GroupCredentials)) :=
  if hashes = [] then some []
  else
    ((List.range groups).foldlM (GroupDealing.dealGroup hashes) (.start hashes.length)).map
      fun dealing => dealing.groupCredentials.zipIdx.flatMap fun group =>
        (groupWorkerIds (group.2 + 1)).map fun id => (id, group.1)

/-!
### Reports of a recovery
-/

def recoveryLogIntervalMs : Nat := 10_000

/-- Milliseconds; before the first report there is no deadline, which is zero. -/
structure RecoveryLogGate where
  pending : Nat
  nextReportMs : Nat
deriving DecidableEq, Repr

/-- `saturating_add` and `max`. -/
def nextReport (nowMs : U64) : Nat :=
  max (min (nowMs.toNat + recoveryLogIntervalMs) (2 ^ 64 - 1)) 1

/-- Where a call of `observe` stands. -/
inductive ObservePoint where
  | counting
  | loading
  | exchanging (deadline : Nat)
  | swapping
  | returned (report : Option Nat)
deriving DecidableEq, Repr

/-- The call took the report that was due. -/
def ObservePoint.won : ObservePoint → Bool
  | .swapping => true
  | .returned report => report.isSome
  | _ => false

/-- One atomic operation of a call with its time. -/
def RecoveryLogGate.observe (gate : RecoveryLogGate) (nowMs : U64) :
    ObservePoint → RecoveryLogGate × ObservePoint
  | .counting => ({ gate with pending := gate.pending + 1 }, .loading)
  | .loading =>
      (gate,
        if gate.nextReportMs ≠ 0 ∧ nowMs.toNat < gate.nextReportMs then .returned none
        else .exchanging gate.nextReportMs)
  | .exchanging deadline =>
      if gate.nextReportMs = deadline then
        ({ gate with nextReportMs := nextReport nowMs }, .swapping)
      else (gate, .loading)
  | .swapping => ({ gate with pending := 0 }, .returned (some gate.pending))
  | .returned report => (gate, .returned report)

/-- The calls of a gate; the time that a call was given is its tag. -/
structure RecoveryLog where
  gate : RecoveryLogGate
  calls : List (Thread ObservePoint U64)
deriving DecidableEq, Repr

inductive RecoveryLogEvent where
  | observe (nowMs : U64)
  | move (index : Nat)
deriving DecidableEq, Repr

namespace RecoveryLog

def start : RecoveryLog where
  gate := { pending := 0, nextReportMs := 0 }
  calls := []

def step (self : RecoveryLog) : RecoveryLogEvent → RecoveryLog
  | .observe nowMs => { self with calls := self.calls ++ [⟨.counting, nowMs⟩] }
  | .move index =>
      match self.calls[index]? with
      | none => self
      | some call =>
          let moved := self.gate.observe call.tag call.point
          { gate := moved.1
            calls := Interleaving.advance self.calls index ⟨moved.2, call.tag⟩ [] }

def run (events : List RecoveryLogEvent) : RecoveryLog := events.foldl step start

end RecoveryLog

/-!
### Starts
-/

/-- The next free slot, in milliseconds, and the call that has the lock. -/
structure WorkerStartPacer where
  next : Nat
  holder : Option Nat
deriving DecidableEq, Repr

/-- Where a call of `wait` stands, with the time at which it got the lock, its slot and the time
of its start. -/
inductive StartPoint where
  | waiting
  | sleeping (locked scheduled : Nat)
  | started (locked scheduled time : Nat)
  | cancelled
deriving DecidableEq, Repr

inductive StartEvent where
  | wait
  | lock (index : Nat)
  | wake (index : Nat)
  | cancel (index : Nat)
  | pass (time : Nat)
deriving DecidableEq, Repr

structure WorkerStarts where
  now : Nat
  pacer : WorkerStartPacer
  calls : List StartPoint
deriving DecidableEq, Repr

namespace WorkerStarts

def start : WorkerStarts where
  now := 0
  pacer := { next := 0, holder := none }
  calls := []

/-- The lock is free for a call that waits; the holder sleeps till its slot, and takes it unless
it was cancelled before. -/
def step (interval : Nat) (self : WorkerStarts) : StartEvent → WorkerStarts
  | .wait => { self with calls := self.calls ++ [.waiting] }
  | .lock index =>
      if self.calls[index]? = some .waiting ∧ self.pacer.holder = none then
        { self with
          pacer := { self.pacer with holder := some index }
          calls := self.calls.set index (.sleeping self.now (max self.pacer.next self.now)) }
      else self
  | .wake index =>
      match self.calls[index]? with
      | some (.sleeping locked scheduled) =>
          if scheduled ≤ self.now then
            { self with
              pacer := { next := scheduled + interval, holder := none }
              calls := self.calls.set index (.started locked scheduled self.now) }
          else self
      | _ => self
  | .cancel index =>
      match self.calls[index]? with
      | some .waiting => { self with calls := self.calls.set index .cancelled }
      | some (.sleeping _ _) =>
          { self with
            pacer := { self.pacer with holder := none }
            calls := self.calls.set index .cancelled }
      | _ => self
  | .pass time => { self with now := self.now + time }

def run (interval : Nat) (events : List StartEvent) : WorkerStarts :=
  events.foldl (step interval) start

end WorkerStarts

end Csqtt
