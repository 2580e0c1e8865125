/-
Module: Csqtt.Engine.TurnTask
Purpose: The task that owns a relay client: its pump, which sends what the client queued and
  publishes what it reports, beside the other users of the client and of the published view.
Trusted boundary: the order of atomic operations is one for all threads; how a send turns out
  is from outside
Main exports: CoreSnapshot, DriverShared, Pump, PumpPoint, TurnTask, PumpReport, TurnTask.step
-/
import Csqtt.Engine.TurnCore

namespace Csqtt

open Tlv

def methodName (method : U32) : String :=
  if method = Operation.allocate.method then "Allocate"
  else if method = Operation.refresh.method then "Refresh"
  else if method = Operation.permission.method then "CreatePermission"
  else if method = Operation.channel.method then "ChannelBind"
  else "request"

def stunSuffix (stunCode : Nat) : String :=
  if stunCode = 0 then "" else "; STUN error " ++ toString stunCode

def isRetryableMaintenance (method : U32) : Bool :=
  [Operation.permission.method, Operation.channel.method, Operation.refresh.method].contains method

def isAllocationMismatchStun (method : U32) (stunCode : Nat) : Bool :=
  stunCode = 437 ∨ (method = Operation.channel.method ∧ stunCode = 400)

def NativeAddress.toSocketAddr (self : NativeAddress) : Except String SocketAddr :=
  if self.family = 4 then
    .ok { ip := .v4 (BitVec.ofNat 32 (beValue (self.ip.take 4))), port := self.port }
  else if self.family = 6 then
    .ok { ip := .v6 (BitVec.ofNat 128 (beValue self.ip)), port := self.port }
  else .error ("TURN core returned address family " ++ toString self.family.toNat)

structure Completion where
  sequence : U64
  status : Int
  stunCode : Nat
deriving DecidableEq, Repr

def Completion.initial : Completion where
  sequence := 0
  status := 0
  stunCode := 0

structure CoreSnapshot where
  state : TurnState
  relay : Option SocketAddr
  channel : Option U16
  allocate : Completion
  refresh : Completion
  permission : Completion
  channelBind : Completion
  terminal : Option String
deriving DecidableEq, Repr

namespace CoreSnapshot

def initial : CoreSnapshot where
  state := .null
  relay := none
  channel := none
  allocate := .initial
  refresh := .initial
  permission := .initial
  channelBind := .initial
  terminal := none

/-- Change the completion of a method, if it has one. -/
def completionMut (self : CoreSnapshot) (method : U32) (change : Completion → Completion) :
    CoreSnapshot :=
  if method = Operation.allocate.method then { self with allocate := change self.allocate }
  else if method = Operation.refresh.method then { self with refresh := change self.refresh }
  else if method = Operation.permission.method then
    { self with permission := change self.permission }
  else if method = Operation.channel.method then
    { self with channelBind := change self.channelBind }
  else self

def complete (self : CoreSnapshot) (event : NativeEvent) : CoreSnapshot :=
  self.completionMut event.method fun completion =>
    { sequence := completion.sequence + 1, status := event.status, stunCode := event.stunCode }

/-- The states from the end of the allocation on. -/
def isOver : TurnState → Bool
  | .deallocated => true
  | .destroying => true
  | _ => false

/-- What the report of a new state changes. -/
def enter (self : CoreSnapshot) (state : TurnState) : CoreSnapshot :=
  { self with
    state := state
    channel := if state ≠ .ready then none else self.channel
    relay := if isOver state then none else self.relay }

end CoreSnapshot

/-- What the task shares with the owner of the allocation and with the senders of data. -/
structure DriverShared where
  snapshot : CoreSnapshot
  closing : Bool
  controlSent : Bool
  channel : U16
deriving DecidableEq, Repr

namespace DriverShared

def initial : DriverShared where
  snapshot := .initial
  closing := false
  controlSent := false
  channel := 0

/-- The first reason stays. -/
def fail (self : DriverShared) (reason : String) : DriverShared :=
  if self.closing ∨ self.snapshot.terminal.isSome then self
  else { self with snapshot := { self.snapshot with terminal := some reason } }

def requestCleanup (self : DriverShared) : DriverShared :=
  { self with closing := true, channel := 0 }

def failTurnRequest (self : DriverShared) (event : NativeEvent) : DriverShared :=
  self.fail ("TURN " ++ methodName event.method ++ " failed: " ++ nativeStatusText event.status ++
    stunSuffix event.stunCode)

def failIf (self : DriverShared) (failed : Bool) (event : NativeEvent) : DriverShared :=
  if failed then self.failTurnRequest event else self

end DriverShared

/-- The local variables of a pump; the last one says whether it has seen an overflow. -/
structure Pump where
  nextTimer : Option Nat
  unexpectedDestroy : Bool
  channelRebindExhausted : Bool
  overflowed : Bool

def Pump.begun (nextTimer : Option Nat) : Pump where
  nextTimer := nextTimer
  unexpectedDestroy := false
  channelRebindExhausted := false
  overflowed := false

/-- The points of the task. A pulled event takes up to two operations on the shared state. -/
inductive PumpPoint where
  | idle
  | controls (nextTimer : Option Nat)
  | sending (nextTimer : Option Nat)
  | events (pump : Pump)
  | storing (pump : Pump) (event : NativeEvent)
  | modifying (pump : Pump) (event : NativeEvent)
  | failed (reason : String)
  | ended

namespace PumpPoint

def isIdle : PumpPoint → Bool
  | .idle => true
  | _ => false

def isOver : PumpPoint → Bool
  | .ended => true
  | _ => false

end PumpPoint

/-- The last field is history: all events that were pulled, in order. -/
structure TurnTask where
  server : SocketAddr
  peer : SocketAddr
  core : Inner
  shared : DriverShared
  point : PumpPoint
  pulled : List NativeEvent

/-- What a pump returns, whether it saw an overflow, and what it leaves. -/
structure PumpReport where
  result : Except String (Option Nat)
  overflowed : Bool
  task : TurnTask

/-- What happens: a call of the client outside the pump, what others do to the shared state,
and the steps of the task itself. -/
inductive TurnTaskEvent where
  | call (call : Call)
  | requestCleanup
  | fail (reason : String)
  | pump (now : Nat) (draw : Operation → Draw)
  | pullControl
  | sent (failure : Option String)
  | pullEvent
  | store
  | modify
  | recover
  | leave

namespace TurnTask

def start (core : Inner) : TurnTask where
  server := core.server
  peer := core.peer
  core := core
  shared := .initial
  point := .idle
  pulled := []

def goTo (self : TurnTask) (point : PumpPoint) : TurnTask := { self with point := point }

def share (self : TurnTask) (shared : DriverShared) : TurnTask := { self with shared := shared }

/-- Packets and wakes are looked at between two pumps. The client is destroyed by force after
a shutdown only, or when the task is over. -/
def allows (self : TurnTask) : Action → Bool
  | .startAllocation => true
  | .startChannel => true
  | .startPermission => true
  | .gracefulShutdown => true
  | .inputStun _ => self.point.isIdle
  | .resyncAfterSuspend _ => self.point.isIdle
  | .forceDestroy _ => self.core.shuttingDown || self.point.isOver
  | .poll => false
  | .pullControl => false
  | .pullEvent => false

/-- The pump returns. -/
def returns (self : TurnTask) (overflowed : Bool) (result : Except String (Option Nat)) :
    TurnTask × Option PumpReport :=
  let left := self.goTo (match result with
    | .ok _ => .idle
    | .error reason => .failed reason)
  (left, some { result := result, overflowed := overflowed, task := left })

/-- What the end of the events leads to. -/
def finish (self : TurnTask) (pump : Pump) : TurnTask × Option PumpReport :=
  let shared :=
    if pump.unexpectedDestroy ∧ self.shared.snapshot.terminal.isNone then
      self.shared.fail (if pump.channelRebindExhausted then "TURN channel rebind retry exhausted"
        else "TURN allocation entered DESTROYING unexpectedly")
    else self.shared
  (self.share shared).returns pump.overflowed (.ok pump.nextTimer)

/-- The first operation for a pulled event, and the only one for most. The texts leave out the
addresses that their source names. -/
def store (self : TurnTask) (pump : Pump) (event : NativeEvent) : TurnTask × Option PumpReport :=
  let shared := self.shared
  match event.kind with
  | .state =>
      ((self.share (if event.state ≠ .ready then { shared with channel := 0 } else shared)).goTo
        (.modifying pump event), none)
  | .requestComplete =>
      let refused := (event.status ≠ 0 ∨ event.stunCode ≠ 0) ∧
        (isRetryableMaintenance event.method = false ∨
          isAllocationMismatchStun event.method event.stunCode)
      ((self.share (({ shared with snapshot := shared.snapshot.complete event } :
        DriverShared).failIf refused event)).goTo (.events pump), none)
  | .stunResponseError =>
      ((self.share (shared.failIf (isAllocationMismatchStun event.method event.stunCode)
        event)).goTo (.events pump), none)
  | .channelBound =>
      match event.address.toSocketAddr with
      | .error reason => self.returns pump.overflowed (.error reason)
      | .ok eventPeer =>
          if eventPeer ≠ self.peer then
            ((self.share (shared.fail "TURN ChannelBind confirmed unexpected peer")).goTo
              (.events pump), none)
          else if ¬(0x4000 ≤ event.channel.toNat ∧ event.channel.toNat ≤ 0x7fff) then
            ((self.share (shared.fail ("TURN core returned invalid channel " ++
              toString event.channel.toNat))).goTo (.events pump), none)
          else
            ((self.share { shared with channel := event.channel }).goTo (.modifying pump event),
              none)
  | .relayAddress =>
      match event.address.toSocketAddr, self.core.relay with
      | .error reason, _ => self.returns pump.overflowed (.error reason)
      | .ok _, none => self.returns pump.overflowed (.error "TURN relay address: unavailable")
      | .ok relay, some queried =>
          if queried ≠ relay then
            self.returns pump.overflowed (.error "TURN core relay address event/getter mismatch")
          else
            ((self.share { shared with snapshot := { shared.snapshot with relay := relay } }).goTo
              (.events pump), none)
  | .controlOverflow =>
      ((self.share (shared.fail ("TURN control output ring overflow dropped " ++
        toString event.dropped ++ " datagrams"))).goTo (.events pump), none)
  | .forcedDestroy =>
      ((self.share (shared.fail "TURN core was force-destroyed")).goTo (.events pump), none)
  | .channelRebindExhausted =>
      (self.goTo (.events { pump with channelRebindExhausted := true }), none)
  | .eventOverflow =>
      ((self.share (shared.fail ("TURN event ring overflow dropped " ++
        toString event.dropped ++ " events"))).goTo
          (.events { pump with overflowed := true }), none)

/-- The second operation, on the snapshot. -/
def modify (self : TurnTask) (pump : Pump) (event : NativeEvent) : TurnTask :=
  let shared := self.shared
  match event.kind with
  | .state =>
      (self.share { shared with snapshot := shared.snapshot.enter event.state }).goTo
        (.events { pump with unexpectedDestroy := pump.unexpectedDestroy ∨
          (event.state = .destroying ∧ shared.closing = false) })
  | .channelBound =>
      (self.share { shared with snapshot := { shared.snapshot with
        channel := some event.channel } }).goTo (.events pump)
  | _ => self.goTo (.events pump)

/-- A step that cannot be taken leaves the state as it is. -/
def step (crypto : StunCrypto) (self : TurnTask) :
    TurnTaskEvent → TurnTask × Option PumpReport
  | .call call =>
      if self.allows call.action then ({ self with core := (self.core.step crypto call).1 }, none)
      else (self, none)
  | .requestCleanup => (self.share self.shared.requestCleanup, none)
  | .fail reason => (self.share (self.shared.fail reason), none)
  | .pump now draw =>
      match self.point with
      | .idle =>
          let polled := self.core.poll crypto now draw
          let self : TurnTask := { self with core := polled.1 }
          match polled.2 with
          | .error reason => self.returns false (.error reason)
          | .ok nextTimer => (self.goTo (.controls nextTimer), none)
      | _ => (self, none)
  | .pullControl =>
      match self.point with
      | .controls nextTimer =>
          let pulled := self.core.pullControl
          let self : TurnTask := { self with core := pulled.1 }
          match pulled.2 with
          | .error reason => self.returns false (.error reason)
          | .ok none => (self.goTo (.events (.begun nextTimer)), none)
          | .ok (some (_, destination)) =>
              if destination ≠ self.server then
                self.returns false
                  (.error "TURN core attempted control send to unexpected destination")
              else (self.goTo (.sending nextTimer), none)
      | _ => (self, none)
  | .sent failure =>
      match self.point with
      | .sending nextTimer =>
          match failure with
          | some reason => self.returns false (.error reason)
          | none =>
              ((self.share { self.shared with controlSent := true }).goTo (.controls nextTimer),
                none)
      | _ => (self, none)
  | .pullEvent =>
      match self.point with
      | .events pump =>
          let pulled := self.core.pullEvent
          let self : TurnTask := { self with core := pulled.1 }
          match pulled.2 with
          | none => self.finish pump
          | some event =>
              ({ self.goTo (.storing pump event) with pulled := self.pulled ++ [event] }, none)
      | _ => (self, none)
  | .store =>
      match self.point with
      | .storing pump event => self.store pump event
      | _ => (self, none)
  | .modify =>
      match self.point with
      | .modifying pump event => (self.modify pump event, none)
      | _ => (self, none)
  | .recover =>
      match self.point with
      | .failed reason => ((self.share (self.shared.fail reason).requestCleanup).goTo .idle, none)
      | _ => (self, none)
  | .leave => (self.goTo .ended, none)

end TurnTask

end Csqtt
