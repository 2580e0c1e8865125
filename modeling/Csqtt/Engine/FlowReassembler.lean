/-
Module: Csqtt.Engine.FlowReassembler
Purpose: The reorder buffer of the receiving side: per flow an expected sequence
  number, the frames that arrived early and a gap timer, all under one shared
  frame budget. Every function returns the values it pushes to the output queue,
  in order.
Trusted boundary: none
Main exports: FlowState, releaseLowest, drainContiguous, arrive, FlowReassembler, pushAt
-/
import Csqtt.Engine.FlowFrame
import Mathlib.Data.List.MinMax

namespace Csqtt

structure ReassemblyKey where
  senderId : U64
  flowId : U64
deriving DecidableEq, Repr

/-- The key a header belongs to. -/
def FrameHeader.key (self : FrameHeader) : ReassemblyKey where
  senderId := self.senderId
  flowId := self.flowId

structure Pending (T : Type*) where
  sequence : U32
  value : T
deriving DecidableEq, Repr

structure FlowState (T : Type*) where
  expected : U32
  gapStartedMs : Option Nat
  pending : List (Pending T)
deriving DecidableEq, Repr

structure FlowReassembler (T : Type*) where
  flows : HashTable ReassemblyKey (FlowState T)
  pendingTotal : Nat

/-- `Vec::swap_remove`: the last element takes the place of the removed one. -/
def swapRemove {T : Type*} (items : List T) (index : Nat) : List T :=
  match items.getLast? with
  | none => []
  | some last => (items.set index last).dropLast

def isForward (sequence expected : U32) : Bool :=
  sequence != expected && (sequence - expected).toNat < 1 <<< 31

namespace FlowState

variable {T : Type*}

/-- State of a flow that is seen for the first time. -/
def fresh : FlowState T where
  expected := 0
  gapStartedMs := none
  pending := []

@[simp] theorem fresh_expected : (fresh : FlowState T).expected = 0 := rfl
@[simp] theorem fresh_gapStartedMs : (fresh : FlowState T).gapStartedMs = none := rfl
@[simp] theorem fresh_pending : (fresh : FlowState T).pending = [] := rfl

/-- One round of the drain loop per unit of fuel; the loop removes a pending
frame in every round, so their number is fuel enough. -/
def drainLoop : Nat → FlowState T → FlowState T × List T
  | 0, state => (state, [])
  | fuel + 1, state =>
      match state.pending.findIdx? fun pending => pending.sequence == state.expected with
      | none => (state, [])
      | some index =>
          match state.pending[index]? with
          | none => (state, [])
          | some pending =>
              let rest := drainLoop fuel
                { state with
                  pending := swapRemove state.pending index
                  expected := state.expected + 1 }
              (rest.1, pending.value :: rest.2)

def drainContiguous (state : FlowState T) : FlowState T × List T :=
  drainLoop state.pending.length state

/-- Index and distance of the pending frame closest in front of the expected
sequence; the first one when several are equally close. -/
def lowestForward (state : FlowState T) : Option (Nat × U32) :=
  (state.pending.zipIdx.filterMap fun (pending, index) =>
    if isForward pending.sequence state.expected then
      some (index, pending.sequence - state.expected)
    else none).argmin fun candidate => candidate.2.toNat

def releaseLowest (state : FlowState T) (nowMs : Nat) : FlowState T × List T :=
  match state.lowestForward with
  | none => ({ state with gapStartedMs := none }, [])
  | some (index, _) =>
      match state.pending[index]? with
      | none => (state, [])
      | some pending =>
          let drained := drainContiguous
            { expected := pending.sequence + 1
              gapStartedMs := none
              pending := swapRemove state.pending index }
          let state :=
            if drained.1.pending.isEmpty then drained.1
            else { drained.1 with gapStartedMs := some nowMs }
          (state, pending.value :: drained.2)

def gapExpired (state : FlowState T) (nowMs : Nat) : Bool :=
  match state.gapStartedMs with
  | none => false
  | some started => decide (gapReleaseAfterMs ≤ nowMs - started)

def releaseExpired (state : FlowState T) (nowMs : Nat) : FlowState T × List T :=
  if state.gapExpired nowMs then state.releaseLowest nowMs else (state, [])

/-- The shared frame count after a release that left `after` of `before` frames,
with the saturating subtractions of the source. -/
def settle (pendingTotal before after : Nat) : Nat :=
  pendingTotal - (before - after)

/-- A release together with its effect on the shared frame count. -/
def accounted (release : FlowState T → FlowState T × List T) (state : FlowState T)
    (pendingTotal : Nat) : FlowState T × Nat × List T :=
  let released := release state
  (released.1, settle pendingTotal state.pending.length released.1.pending.length, released.2)

/-- Part of `push_at` that handles the frame the flow waits for. -/
def deliver (state : FlowState T) (pendingTotal : Nat) (value : T) :
    FlowState T × Nat × List T :=
  let state := { state with expected := state.expected + 1, gapStartedMs := none }
  let drained := accounted drainContiguous state pendingTotal
  (drained.1, drained.2.1, value :: drained.2.2)

/-- Whether `push_at` drops the frame: it is late, or a copy is pending. -/
def rejects (state : FlowState T) (sequence : U32) : Bool :=
  !isForward sequence state.expected ||
    state.pending.any fun pending => pending.sequence == sequence

def startTimer (state : FlowState T) (nowMs : Nat) : FlowState T :=
  if state.gapStartedMs.isNone then { state with gapStartedMs := some nowMs } else state

/-- Part of `push_at` behind the limits: keep the frame, release once more when
the shared budget is exceeded, start the gap timer, and honour it. -/
def keep (state : FlowState T) (pendingTotal : Nat) (sequence : U32) (value : T) (nowMs : Nat) :
    FlowState T × Nat × List T :=
  let kept :=
    { state with pending := state.pending ++ [{ sequence := sequence, value := value }] }
  let within :=
    if maxPendingTotal < pendingTotal + 1 then
      accounted (releaseLowest · nowMs) kept (pendingTotal + 1)
    else (kept, pendingTotal + 1, [])
  let expired := accounted (releaseExpired · nowMs) (within.1.startTimer nowMs) within.2.1
  (expired.1, expired.2.1, within.2.2 ++ expired.2.2)

/-- Part of `push_at` that makes room for an early frame and keeps it. -/
def buffer (state : FlowState T) (pendingTotal : Nat) (sequence : U32) (value : T)
    (nowMs : Nat) : FlowState T × Nat × List T :=
  let full :=
    if state.pending.length = maxPendingPerFlow then
      accounted (releaseLowest · nowMs) state pendingTotal
    else (state, pendingTotal, [])
  if full.2.1 = maxPendingTotal then
    if full.1.pending.isEmpty then
      ({ full.1 with expected := sequence + 1, gapStartedMs := none }, full.2.1,
        full.2.2 ++ [value])
    else
      let freed := accounted (releaseLowest · nowMs) full.1 full.2.1
      let kept := keep freed.1 freed.2.1 sequence value nowMs
      (kept.1, kept.2.1, full.2.2 ++ freed.2.2 ++ kept.2.2)
  else
    let kept := keep full.1 full.2.1 sequence value nowMs
    (kept.1, kept.2.1, full.2.2 ++ kept.2.2)

/-- `push_at` from the point on where the state of the flow is at hand. -/
def arrive (state : FlowState T) (pendingTotal : Nat) (sequence : U32) (value : T)
    (nowMs : Nat) : FlowState T × Nat × List T :=
  let expired := accounted (releaseExpired · nowMs) state pendingTotal
  if sequence = expired.1.expected then
    let delivered := deliver expired.1 expired.2.1 value
    (delivered.1, delivered.2.1, expired.2.2 ++ delivered.2.2)
  else if rejects expired.1 sequence then expired
  else
    let buffered := buffer expired.1 expired.2.1 sequence value nowMs
    (buffered.1, buffered.2.1, expired.2.2 ++ buffered.2.2)

end FlowState

namespace FlowReassembler

variable {T : Type*}

def new : FlowReassembler T where
  flows := ∅
  pendingTotal := 0

/-- Whether the push of a header empties the flow table: it is full and the key
is not in it. -/
def resets (self : FlowReassembler T) (key : ReassemblyKey) : Bool :=
  self.flows.size == maxTrackedFlows && !decide (key ∈ self.flows)

def makeRoom (self : FlowReassembler T) (key : ReassemblyKey) : FlowReassembler T :=
  if self.resets key then { flows := ∅, pendingTotal := 0 } else self

/-- State of a flow, created when the table does not know the key. -/
def flowState (self : FlowReassembler T) (key : ReassemblyKey) : FlowState T :=
  (self.flows.lookup key).getD FlowState.fresh

def pushAt (self : FlowReassembler T) (header : FrameHeader) (value : T) (nowMs : Nat) :
    FlowReassembler T × List T :=
  let self := self.makeRoom header.key
  let arrived :=
    (self.flowState header.key).arrive self.pendingTotal header.sequence value nowMs
  ({ flows := self.flows.insert header.key arrived.1, pendingTotal := arrived.2.1 },
    arrived.2.2)

end FlowReassembler

/-- One call of `push_at`. -/
structure Push (T : Type*) where
  header : FrameHeader
  value : T
  nowMs : Nat
deriving DecidableEq, Repr

/-- `push_at` as a step on the reassembler. -/
def FlowReassembler.push {T : Type*} (self : FlowReassembler T) (push : Push T) :
    FlowReassembler T × List T :=
  self.pushAt push.header push.value push.nowMs

end Csqtt
