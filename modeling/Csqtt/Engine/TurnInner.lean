/-
Module: Csqtt.Engine.TurnInner
Purpose: The state of the relay client: its credentials, timers, pending transactions and
  output queues, and the updates its operations are made of.
Trusted boundary: the hash functions, transaction identifiers and clock readings are parameters
Main exports: TurnState, Operation, PendingTransaction, NativeEvent, Entry, Inner, startOperation,
  expireTransactions, completeSuccess, completeFailure, destroyAllocation, nextDeadline
-/
import Csqtt.Engine.StunMessage

namespace Csqtt

open Tlv

/-!
Readings of the monotonic clock and durations are numbers of nanoseconds.
-/

def millis (count : Nat) : Nat := count * 1000000
def seconds (count : Nat) : Nat := count * 1000000000

def resultEmpty : Int := -1
def resultBufferTooSmall : Int := -2
def resultInvalidArgument : Int := -3
def resultClosed : Int := -4
def resultNotControl : Int := -5
def resultTimeout : Int := -6
def resultAuthentication : Int := -7
def resultProtocol : Int := -8

def nativeStatusText (status : Int) : String :=
  let known (text : String) : String := text ++ " (" ++ toString status ++ ")"
  if status = 0 then known "success"
  else if status = resultEmpty then known "empty"
  else if status = resultBufferTooSmall then known "buffer too small"
  else if status = resultInvalidArgument then known "invalid argument"
  else if status = resultClosed then known "closed"
  else if status = resultNotControl then known "not a TURN control response"
  else if status = resultTimeout then known "request timeout"
  else if status = resultAuthentication then known "response authentication failed"
  else if status = resultProtocol then known "TURN protocol error"
  else "TURN status " ++ toString status

inductive EventKind where
  | state
  | requestComplete
  | channelBound
  | relayAddress
  | controlOverflow
  | forcedDestroy
  | eventOverflow
  | stunResponseError
  | channelRebindExhausted
deriving DecidableEq, Repr

inductive TurnState where
  | null
  | allocating
  | ready
  | deallocating
  | deallocated
  | destroying
deriving DecidableEq, Repr

def controlCapacity : Nat := 16
def eventCapacity : Nat := 64
def initialRto : Nat := millis 200
def maxRto : Nat := millis 1600
def maxTransmissions : Nat := 7
def streamTransactionTimeout : Nat := seconds 12
def requestedAllocationLifetimeSecs : U32 := 600
def maintenanceRetryBase : Nat := seconds 1
def maintenanceRetryMax : Nat := seconds 30
def maxChannelMaintenanceFailures : Nat := 4
def channelNumber : U16 := 0x4000

inductive TurnControlTransport where
  | datagram
  | stream
deriving DecidableEq, Repr

structure CsqttTurnProfile where
  allocationRefresh : Nat
  maintenanceRefresh : Nat
  keepaliveInterval : Nat
  maxNonceRetries : Nat

def CsqttTurnProfile.pjnathCompat : CsqttTurnProfile where
  allocationRefresh := seconds 300
  maintenanceRefresh := seconds 175
  keepaliveInterval := seconds 10
  maxNonceRetries := 3

structure NativeAddress where
  family : U8
  port : U16
  ip : List U8
deriving DecidableEq, Repr

def NativeAddress.default : NativeAddress :=
  { family := 0, port := 0, ip := List.replicate 16 0 }

def NativeAddress.fromSocketAddr (address : SocketAddr) : NativeAddress :=
  match address.ip with
  | .v4 ip => { family := 4, port := address.port, ip := beBytes 4 ip.toNat ++ List.replicate 12 0 }
  | .v6 ip => { family := 6, port := address.port, ip := beBytes 16 ip.toNat }

/-- An event, with the defaults its source leaves untouched. -/
structure NativeEvent where
  kind : EventKind
  method : U32 := 0
  status : Int := 0
  stunCode : Nat := 0
  state : TurnState := .null
  previousState : TurnState := .null
  dropped : Nat := 0
  channel : U16 := 0
  address : NativeAddress := .default
deriving DecidableEq, Repr

inductive Operation where
  | allocate
  | refresh
  | deallocate
  | permission
  | channel
deriving DecidableEq, Repr

def Operation.method : Operation → U32
  | .allocate => 3
  | .refresh => 4
  | .deallocate => 4
  | .permission => 8
  | .channel => 9

/-- What starting a transaction takes from outside: its identifier and the clock. -/
structure Draw where
  transaction : Transaction
  now : Nat

/-- A transaction that waits for its response. Its serial number is history: no function
reads it. -/
structure PendingTransaction where
  operation : Operation
  transaction : Transaction
  packet : List U8
  nextAttempt : Nat
  rto : Nat
  transmissions : Nat
  nonceRetries : Nat
  authenticated : Bool
  serial : Nat

structure Control where
  packet : List U8
  destination : SocketAddr

/-- Why a packet was queued: for a transaction, at some time, for an explicit request that
found its transaction already pending, or to keep the path alive. -/
inductive Cause where
  | transmission (serial : Nat) (time : Nat)
  | again
  | keepalive
deriving DecidableEq

/-- What happened: a packet was queued, an event was pushed while some others were waiting,
or a transaction ran out of attempts. -/
inductive Entry where
  | queued (cause : Cause) (packet : List U8)
  | pushed (event : NativeEvent) (waiting : Nat)
  | timedOut (serial : Nat) (time : Nat)
deriving DecidableEq

/-- The state of the client. The last two fields are history: how many transactions were
started and all that happened, in order. No function reads the second, and the first only
numbers transactions. -/
structure Inner where
  server : SocketAddr
  peer : SocketAddr
  username : List U8
  password : List U8
  realm : Option (List U8)
  nonce : Option (List U8)
  key : Option (List U8)
  state : TurnState
  relay : Option SocketAddr
  channel : Option U16
  controls : List Control
  events : List NativeEvent
  pending : List PendingTransaction
  allocationRefresh : Option Nat
  allocationExpiresAt : Option Nat
  maintenanceRefresh : Option Nat
  permissionRetry : Option Nat
  channelRetry : Option Nat
  refreshFailures : Nat
  permissionFailures : Nat
  channelFailures : Nat
  keepalive : Option Nat
  shuttingDown : Bool
  destroyed : Bool
  profile : CsqttTurnProfile
  transport : TurnControlTransport
  started : Nat
  history : List Entry

namespace Inner

/-!
### Queues
-/

/-- An event that finds the queue full is lost, and so is the oldest one; the marker that
takes their place counts one. -/
def pushEvent (inner : Inner) (event : NativeEvent) : Inner :=
  { inner with
    events := if inner.events.length = eventCapacity then
        inner.events.drop 1 ++
          [{ kind := .eventOverflow, status := resultBufferTooSmall, dropped := 1 }]
      else inner.events ++ [event]
    history := inner.history ++ [.pushed event inner.events.length] }

/-- Room for one more packet: when the queue is full the oldest packet is given up. -/
def dropOldestControl (inner : Inner) : Inner :=
  if inner.controls.length = controlCapacity then
    ({ inner with controls := inner.controls.drop 1 } : Inner).pushEvent
      { kind := .controlOverflow, status := resultBufferTooSmall, dropped := 1 }
  else inner

def queuePacket (inner : Inner) (cause : Cause) (packet : List U8) : Inner :=
  let inner := inner.dropOldestControl
  { inner with
    controls := inner.controls ++ [{ packet := packet, destination := inner.server }]
    history := inner.history ++ [.queued cause packet] }

def removeQueuedTransaction (inner : Inner) (transaction : Transaction) : Inner :=
  { inner with
    controls := inner.controls.filter fun control =>
      slice control.packet 8 12 ≠ beBytes 12 transaction.toNat }

def queueKeepalive (inner : Inner) : Inner :=
  match inner.channel with
  | none => inner
  | some channel =>
      inner.queuePacket .keepalive (beBytes 2 channel.toNat ++ beBytes 2 1 ++ [0xff, 0, 0, 0])

/-!
### State and credentials
-/

def setState (inner : Inner) (state : TurnState) : Inner :=
  if inner.state = state then inner
  else
    ({ inner with state := state } : Inner).pushEvent
      { kind := .state, state := state, previousState := inner.state }

def colon : List U8 := [0x3a]

def setAuth (crypto : StunCrypto) (inner : Inner) (realm nonce : List U8) : Inner :=
  { inner with
    key := some (crypto.md5 (inner.username ++ colon ++ realm ++ colon ++ inner.password))
    realm := some realm
    nonce := some nonce }

def requireOpen (inner : Inner) (operation : String) : Except String Unit :=
  if inner.destroyed ∨ inner.shuttingDown then
    .error (operation ++ ": " ++ nativeStatusText resultClosed)
  else .ok ()

def requireReady (inner : Inner) (operation : String) : Except String Unit := do
  inner.requireOpen operation
  if inner.state ≠ .ready then .error (operation ++ ": " ++ nativeStatusText resultInvalidArgument)
  else .ok ()

/-!
### Transactions
-/

def hasOperation (inner : Inner) (operation : Operation) : Bool :=
  inner.pending.any fun pending => pending.operation = operation

def transactionTimeout (inner : Inner) : Nat :=
  match inner.transport with
  | .datagram => initialRto
  | .stream => streamTransactionTimeout

/-- The attributes of a request, before those that prove who sent it. -/
def requestBuilder (inner : Inner) (operation : Operation) (transaction : Transaction) :
    MessageBuilder :=
  let builder := MessageBuilder.withTransaction (operation.method.setWidth 16) transaction
  match operation with
  | .allocate =>
      let family : U8 := if inner.peer.isIpv4 then 1 else 2
      ((builder.attribute attrRequestedTransport [17, 0, 0, 0]).attribute
        attrRequestedAddressFamily [family, 0, 0, 0]).attribute
          attrLifetime (beBytes 4 requestedAllocationLifetimeSecs.toNat)
  | .refresh => builder.attribute attrLifetime (beBytes 4 requestedAllocationLifetimeSecs.toNat)
  | .deallocate => builder.attribute attrLifetime (beBytes 4 0)
  | .permission => builder.xorAddress attrXorPeerAddress inner.peer
  | .channel =>
      (builder.attribute attrChannelNumber [0x40, 0, 0, 0]).xorAddress attrXorPeerAddress inner.peer

def buildRequest (crypto : StunCrypto) (inner : Inner) (operation : Operation)
    (transaction : Transaction) (authenticated : Bool) : Except String (List U8) :=
  let builder := inner.requestBuilder operation transaction
  if authenticated then
    let builder := ((builder.attribute attrUsername inner.username).attribute
      attrRealm (inner.realm.getD [])).attribute attrNonce (inner.nonce.getD [])
    match inner.key with
    | none => .error "TURN authentication key missing"
    | some key => builder.finishAuthenticated crypto key
  else builder.finish crypto

/-- Start a transaction, unless one of its kind is pending. -/
def startOperation (crypto : StunCrypto) (draw : Draw) (operation : Operation)
    (authenticated : Bool) (nonceRetries : Nat) (inner : Inner) : Inner × Except String Unit :=
  if inner.hasOperation operation then
    if operation = .channel then
      match inner.pending.find? (·.operation = operation) with
      | some pending => (inner.queuePacket .again pending.packet, .ok ())
      | none => (inner, .ok ())
    else (inner, .ok ())
  else if authenticated ∧ (inner.realm.isNone ∨ inner.nonce.isNone ∨ inner.key.isNone) then
    (inner, .error "TURN authentication state is incomplete")
  else
    match inner.buildRequest crypto operation draw.transaction authenticated with
    | .error reason => (inner, .error reason)
    | .ok packet =>
        let inner := inner.queuePacket (.transmission inner.started draw.now) packet
        ({ inner with
            pending := inner.pending ++ [{
              operation := operation
              transaction := draw.transaction
              packet := packet
              nextAttempt := draw.now + inner.transactionTimeout
              rto := initialRto
              transmissions := 1
              nonceRetries := nonceRetries
              authenticated := authenticated
              serial := inner.started }]
            started := inner.started + 1 },
          .ok ())

/-!
### Completion
-/

def complete (inner : Inner) (operation : Operation) (status : Int) (stunCode : Nat) : Inner :=
  inner.pushEvent {
    kind := .requestComplete
    method := operation.method
    status := status
    stunCode := stunCode
    state := inner.state
    channel := inner.channel.getD 0
    address := (inner.relay.map NativeAddress.fromSocketAddr).getD .default }

def destroyAllocation (inner : Inner) (operation : Operation) (status : Int) (stunCode : Nat) :
    Inner :=
  let inner := inner.complete operation status stunCode
  ({ inner with
    controls := []
    pending := []
    channel := none
    allocationRefresh := none
    allocationExpiresAt := none
    maintenanceRefresh := none
    permissionRetry := none
    channelRetry := none
    keepalive := none
    relay := none } : Inner).setState
      (if operation = .deallocate then .deallocated else .destroying)

def destroyAfterChannelRebindExhausted (inner : Inner) : Inner :=
  (({ inner with
    controls := []
    pending := []
    channel := none
    maintenanceRefresh := none
    permissionRetry := none
    channelRetry := none
    keepalive := none } : Inner).pushEvent {
      kind := .channelRebindExhausted
      status := resultTimeout
      state := .destroying }).setState .destroying

/-- Delay before the next attempt, after some failures in a row. -/
def maintenanceDelay (failures : Nat) : Nat :=
  min (maintenanceRetryBase * 2 ^ min (failures - 1) 5) maintenanceRetryMax

def scheduleMaintenanceRetry (inner : Inner) (operation : Operation) (now : Nat) :
    Inner × Bool :=
  match operation with
  | .refresh =>
      let failures := min (inner.refreshFailures + 1) 255
      ({ inner with
          refreshFailures := failures
          allocationRefresh := some (now + maintenanceDelay failures) }, true)
  | .permission =>
      let failures := min (inner.permissionFailures + 1) 255
      ({ inner with
          permissionFailures := failures
          permissionRetry := some (now + maintenanceDelay failures) }, true)
  | .channel =>
      let failures := min (inner.channelFailures + 1) 255
      let inner := { inner with channelFailures := failures }
      if maxChannelMaintenanceFailures ≤ failures then (inner, false)
      else ({ inner with channelRetry := some (now + maintenanceDelay failures) }, true)
  | .allocate => (inner, true)
  | .deallocate => (inner, true)

/-- Whether the failure of an operation leaves the allocation in use. -/
def keepsAllocation (inner : Inner) (operation : Operation) (now : Nat) : Bool :=
  operation ∈ [.refresh, .permission, .channel] ∧ inner.state = .ready ∧
    inner.allocationExpiresAt.any (now < ·)

def completeFailure (inner : Inner) (operation : Operation) (status : Int) (stunCode : Nat)
    (now : Nat) : Inner :=
  if inner.keepsAllocation operation now then
    let scheduled := (inner.complete operation status stunCode).scheduleMaintenanceRetry operation now
    if scheduled.2 then scheduled.1 else scheduled.1.destroyAfterChannelRebindExhausted
  else inner.destroyAllocation operation status stunCode

def allocationRefreshDeadline (now : Nat) (lifetime : Option U32) (interval : Nat) : Nat :=
  let lifetime := seconds (lifetime.getD requestedAllocationLifetimeSecs).toNat
  now + max (min interval (lifetime / 2)) (millis 500)

def keepaliveMix (relay : SocketAddr) : U64 :=
  match relay.ip with
  | .v4 ip => relay.port.setWidth 64 ^^^ ip.setWidth 64
  | .v6 ip => relay.port.setWidth 64 ^^^ ip.setWidth 64

/-- The first keep-alive of a client is spread by its relay address. -/
def firstKeepaliveDeadline (now : Nat) (interval : Nat) (relay : SocketAddr) : Nat :=
  let intervalMs := interval / 1000000
  let spanMs := max (intervalMs / 5) 1
  now + millis (intervalMs - spanMs + (keepaliveMix relay).toNat % (spanMs * 2 + 1))

/-- The relay address and the lifetime that the answer to an Allocate carries. -/
def grantOf (inner : Inner) (message : Message) : Except String (SocketAddr × U32) := do
  match message.attribute attrXorRelayedAddress with
  | none => .error "TURN Allocate response has no relayed address"
  | some found =>
      let relay ← decodeXorAddress found.value message.transaction
      if relay.isIpv4 ≠ inner.peer.isIpv4 ∨ relay.port = 0 then
        .error "TURN Allocate response has invalid relayed address"
      else
        let lifetime := (attributeU32 message attrLifetime).getD requestedAllocationLifetimeSecs
        if lifetime = 0 then .error "TURN Allocate response lifetime is zero"
        else .ok (relay, lifetime)

/-- The timers and the address of a new allocation. -/
def allocated (inner : Inner) (relay : SocketAddr) (returnedLifetime : Option U32)
    (lifetime : U32) (now : Nat) : Inner :=
  ({ inner with
    relay := some relay
    allocationRefresh := some
      (allocationRefreshDeadline now returnedLifetime inner.profile.allocationRefresh)
    allocationExpiresAt := some (now + seconds lifetime.toNat)
    refreshFailures := 0
    maintenanceRefresh := some (now + inner.profile.maintenanceRefresh)
    keepalive := some (firstKeepaliveDeadline now inner.profile.keepaliveInterval relay) } :
      Inner).pushEvent { kind := .relayAddress, address := .fromSocketAddr relay }

def completeSuccess (crypto : StunCrypto) (draw : Draw) (inner : Inner) (operation : Operation)
    (message : Message) (now : Nat) : Inner × Except String Unit :=
  let returnedLifetime := attributeU32 message attrLifetime
  match operation with
  | .allocate =>
      match inner.grantOf message with
      | .error reason => (inner, .error reason)
      | .ok granted =>
          let inner := inner.allocated granted.1 returnedLifetime granted.2 now
          if inner.shuttingDown then
            (inner.setState .deallocating).startOperation crypto draw .deallocate true 0
          else ((inner.setState .ready).complete operation 0 0, .ok ())
  | .refresh =>
      let lifetime := returnedLifetime.getD requestedAllocationLifetimeSecs
      if lifetime = 0 then (inner, .error "TURN Refresh response lifetime is zero")
      else
        (({ inner with
          allocationRefresh := some
            (allocationRefreshDeadline now returnedLifetime inner.profile.allocationRefresh)
          allocationExpiresAt := some (now + seconds lifetime.toNat)
          refreshFailures := 0 } : Inner).complete operation 0 0, .ok ())
  | .deallocate =>
      if returnedLifetime.getD 0 ≠ 0 then
        (inner, .error "TURN deallocation response lifetime is not zero")
      else
        ((({ inner with
          relay := none
          allocationRefresh := none
          allocationExpiresAt := none } : Inner).complete operation 0 0).setState .deallocated,
          .ok ())
  | .permission =>
      (({ inner with permissionFailures := 0 } : Inner).complete operation 0 0, .ok ())
  | .channel =>
      ((({ inner with
        channel := some channelNumber
        channelFailures := 0 } : Inner).pushEvent {
          kind := .channelBound
          channel := channelNumber
          address := .fromSocketAddr inner.peer }).complete operation 0 0, .ok ())

/-!
### Expiry
-/

/-- Whether a transaction that is due has no further attempt. -/
def outOfAttempts (inner : Inner) (pending : PendingTransaction) : Bool :=
  maxTransmissions ≤ pending.transmissions ∨ inner.transport = .stream

def timeOut (inner : Inner) (index : Nat) (pending : PendingTransaction) (now : Nat) : Inner :=
  (({ inner with
    pending := inner.pending.eraseIdx index
    history := inner.history ++ [.timedOut pending.serial now] } : Inner).removeQueuedTransaction
      pending.transaction).completeFailure pending.operation resultTimeout 0 now

def PendingTransaction.transmitted (pending : PendingTransaction) (now : Nat) : PendingTransaction :=
  let rto := min (pending.rto * 2) maxRto
  { pending with
    transmissions := pending.transmissions + 1
    rto := rto
    nextAttempt := now + rto }

def retransmit (inner : Inner) (index : Nat) (pending : PendingTransaction) (now : Nat) : Inner :=
  let inner := inner.queuePacket (.transmission pending.serial now) pending.packet
  { inner with pending := inner.pending.set index (PendingTransaction.transmitted pending now) }

/-- The walk over the pending transactions. Each turn moves on or leaves one fewer. -/
def expireLoop (now : Nat) : Nat → Nat → Inner → Nat × Inner
  | 0, index, inner => (index, inner)
  | fuel + 1, index, inner =>
      match inner.pending[index]? with
      | none => (index, inner)
      | some pending =>
          if now < pending.nextAttempt then expireLoop now fuel (index + 1) inner
          else if inner.outOfAttempts pending then
            expireLoop now fuel index (inner.timeOut index pending now)
          else expireLoop now fuel (index + 1) (inner.retransmit index pending now)

def expireTransactions (inner : Inner) (now : Nat) : Inner :=
  (expireLoop now inner.pending.length 0 inner).2

/-- Everything the client waits for. -/
def deadlines (inner : Inner) : List Nat :=
  inner.pending.map (·.nextAttempt) ++ inner.allocationRefresh.toList ++
    inner.maintenanceRefresh.toList ++ inner.permissionRetry.toList ++
    inner.channelRetry.toList ++ inner.keepalive.toList

def nextDeadline (inner : Inner) : Option Nat :=
  inner.deadlines.min?

end Inner

end Csqtt
