/-
Module: Csqtt.Engine.TurnCore
Purpose: The operations of the relay client and the runs they make up.
Trusted boundary: the hash functions, transaction identifiers and clock readings are parameters
Main exports: create, startAllocation, inputStun, poll, resyncAfterSuspend, gracefulShutdown,
  forceDestroy, Call, step
-/
import Csqtt.Engine.TurnInner

namespace Csqtt

open Tlv

/-- Whether a timer has run out. -/
def isDue (deadline : Option Nat) (now : Nat) : Bool :=
  deadline.any (· ≤ now)

/-- Go on after a fallible step, unless it failed. -/
def andThen (result : Inner × Except String Unit)
    (next : Inner → Inner × Except String Unit) : Inner × Except String Unit :=
  match result.2 with
  | .error reason => (result.1, .error reason)
  | .ok () => next result.1

namespace Inner

/-- A client that has done nothing yet. -/
def initial (server : SocketAddr) (username password : List U8) (peer : SocketAddr)
    (profile : CsqttTurnProfile) (transport : TurnControlTransport) : Inner where
  server := server
  peer := peer
  username := username
  password := password
  realm := none
  nonce := none
  key := none
  state := .null
  relay := none
  channel := none
  controls := []
  events := []
  pending := []
  allocationRefresh := none
  allocationExpiresAt := none
  maintenanceRefresh := none
  permissionRetry := none
  channelRetry := none
  refreshFailures := 0
  permissionFailures := 0
  channelFailures := 0
  keepalive := none
  shuttingDown := false
  destroyed := false
  profile := profile
  transport := transport
  started := 0
  history := []

def create (server : SocketAddr) (username password : List U8) (peer : SocketAddr)
    (profile : CsqttTurnProfile) (transport : TurnControlTransport) : Except String Inner :=
  let refused := "TURN core create: " ++ nativeStatusText resultInvalidArgument
  if server.port = 0 ∨ peer.port = 0 then .error refused
  else if username = [] ∨ 512 < username.length ∨ password = [] ∨ 512 < password.length then
    .error refused
  else .ok (initial server username password peer profile transport)

def createWithTransport (server : SocketAddr) (username password : List U8) (peer : SocketAddr)
    (transport : TurnControlTransport) : Except String Inner :=
  create server username password peer .pjnathCompat transport

def startAllocation (crypto : StunCrypto) (draw : Operation → Draw) (inner : Inner) :
    Inner × Except String Unit :=
  match inner.requireOpen "TURN Allocate start" with
  | .error reason => (inner, .error reason)
  | .ok () =>
      if inner.state ≠ .null then
        (inner, .error ("TURN Allocate start: " ++ nativeStatusText resultInvalidArgument))
      else (inner.setState .allocating).startOperation crypto (draw .allocate) .allocate false 0

def startChannel (crypto : StunCrypto) (draw : Operation → Draw) (inner : Inner) :
    Inner × Except String Unit :=
  match inner.requireReady "TURN ChannelBind start" with
  | .error reason => (inner, .error reason)
  | .ok () => inner.startOperation crypto (draw .channel) .channel true 0

def startPermission (crypto : StunCrypto) (draw : Operation → Draw) (inner : Inner) :
    Inner × Except String Unit :=
  match inner.requireReady "TURN CreatePermission start" with
  | .error reason => (inner, .error reason)
  | .ok () => inner.startOperation crypto (draw .permission) .permission true 0

/-!
### Responses
-/

def requiresAllocationRecreate (operation : Operation) (code : Nat) : Bool :=
  code = 437 ∨ (operation = .channel ∧ code = 400)

/-- The event that reports an error response. -/
def pushResponseError (inner : Inner) (operation : Operation) (status : Int) (code : Nat)
    (state : TurnState) : Inner :=
  inner.pushEvent {
    kind := .stunResponseError
    method := operation.method
    status := status
    stunCode := code
    state := state }

/-- Whether a response to an authenticated request fails to prove who sent it. -/
def unverified (crypto : StunCrypto) (inner : Inner) (message : Message)
    (pending : PendingTransaction) :
    Bool :=
  pending.authenticated && responseRequiresIntegrity message &&
    !verifyIntegrity crypto message.raw message inner.key &&
    !isFingerprintedAllocationMismatch crypto message

/-- A response that is not believed leaves its transaction pending. -/
def rejectUnverified (inner : Inner) (operation : Operation) (message : Message) : Inner :=
  match message.class, errorCode message with
  | .error, some code =>
      inner.pushResponseError operation resultAuthentication code inner.state
  | _, _ => inner

/-- Take a transaction off the list, with what is queued of it. -/
def takePending (inner : Inner) (index : Nat) (pending : PendingTransaction) : Inner :=
  ({ inner with pending := inner.pending.eraseIdx index } : Inner).removeQueuedTransaction
    pending.transaction

/-- The credentials that an error response carries. A stale nonce may leave the realm out. -/
def challenge (inner : Inner) (message : Message) (code : Nat) :
    Option (List U8 × List U8) :=
  let realm := ((message.attribute attrRealm).map (·.value)).or
    (if code = 438 then inner.realm else none)
  match realm, (message.attribute attrNonce).map (·.value) with
  | some realm, some nonce => some (realm, nonce)
  | _, _ => none

/-- The credentials to try again with, if the response asks for that and tries are left. -/
def retryCredentials (inner : Inner) (message : Message) (code : Nat)
    (pending : PendingTransaction) :
    Option (List U8 × List U8) :=
  if (code = 401 ∨ code = 438) ∧ pending.nonceRetries < inner.profile.maxNonceRetries then
    inner.challenge message code
  else none

def reportFailure (inner : Inner) (operation : Operation) (code : Nat) (state : TurnState)
    (now : Nat) : Inner :=
  (inner.pushResponseError operation 0 code state).completeFailure operation resultProtocol code now

/-- An error response to a transaction that was taken off the list. -/
def answerError (crypto : StunCrypto) (now : Nat) (draw : Operation → Draw) (inner : Inner)
    (message : Message) (pending : PendingTransaction) : Inner :=
  let operation := pending.operation
  let state := inner.state
  match (errorCode message).getD 0 with
  | 0 =>
      (inner.pushResponseError operation resultProtocol 0 state).completeFailure operation
        resultProtocol 0 now
  | code =>
      if requiresAllocationRecreate operation code then
        (inner.pushResponseError operation 0 code state).destroyAllocation operation
          resultProtocol code
      else
        match inner.retryCredentials message code pending with
        | none => inner.reportFailure operation code state now
        | some credentials =>
            let inner := inner.setAuth crypto credentials.1 credentials.2
            let retried := inner.startOperation crypto (draw operation) operation true
              (pending.nonceRetries + 1)
            match retried.2 with
            | .ok () => retried.1
            | .error _ => retried.1.reportFailure operation code state now

/-- A success response to a transaction that was taken off the list. -/
def answerSuccess (crypto : StunCrypto) (now : Nat) (draw : Operation → Draw) (inner : Inner)
    (message : Message) (pending : PendingTransaction) : Inner × Int :=
  let completed := inner.completeSuccess crypto (draw .deallocate) pending.operation message now
  match completed.2 with
  | .ok () => (completed.1, 0)
  | .error _ =>
      (completed.1.completeFailure pending.operation resultProtocol 0 now, resultProtocol)

/-- A response to the pending transaction at an index. -/
def answer (crypto : StunCrypto) (now : Nat) (draw : Operation → Draw) (inner : Inner)
    (message : Message) (index : Nat) (pending : PendingTransaction) : Inner × Int :=
  if inner.unverified crypto message pending then
    (inner.rejectUnverified pending.operation message, resultAuthentication)
  else
    let inner := inner.takePending index pending
    if message.class = .success ∧ pending.authenticated = false then
      (inner.completeFailure pending.operation resultAuthentication 0 now, resultAuthentication)
    else if message.class = .error then
      (inner.answerError crypto now draw message pending, 0)
    else inner.answerSuccess crypto now draw message pending

/-- The pending transaction that a message answers. -/
def answered (inner : Inner) (message : Message) : Option Nat :=
  inner.pending.findIdx? fun pending =>
    pending.transaction = message.transaction ∧
      pending.operation.method = message.method.setWidth 32

def inputStun (crypto : StunCrypto) (now : Nat) (draw : Operation → Draw) (packet : List U8)
    (inner : Inner) : Inner × Int :=
  match Message.decode packet with
  | .error _ => (inner, resultInvalidArgument)
  | .ok message =>
      if ¬(message.class = .success ∨ message.class = .error) then (inner, resultNotControl)
      else if message.fingerprintValid crypto.crc32 = some false then (inner, resultInvalidArgument)
      else
        match inner.answered message with
        | none => (inner, resultNotControl)
        | some index =>
            match inner.pending[index]? with
            | none => (inner, resultNotControl)
            | some pending => inner.answer crypto now draw message index pending

/-!
### Timers
-/

/-- Start an operation whose time has come, unless one of its kind is pending. -/
def startDue (crypto : StunCrypto) (draw : Operation → Draw) (operation : Operation) (due : Bool)
    (clear : Inner → Inner) (inner : Inner) : Inner × Except String Unit :=
  if due ∧ inner.hasOperation operation = false then
    (clear inner).startOperation crypto (draw operation) operation true 0
  else (inner, .ok ())

/-- The allocation is given up once its lifetime has passed. -/
def expireAllocation (inner : Inner) (now : Nat) : Inner :=
  if inner.shuttingDown = false ∧ inner.state = .ready ∧ isDue inner.allocationExpiresAt now then
    inner.destroyAllocation .refresh resultTimeout 0
  else inner

def rearmMaintenance (due : Bool) (now : Nat) (inner : Inner) : Inner :=
  if due then { inner with maintenanceRefresh := some (now + inner.profile.maintenanceRefresh) }
  else inner

def keepPathAlive (now : Nat) (inner : Inner) : Inner :=
  if isDue inner.keepalive now then
    ({ inner with keepalive := some (now + inner.profile.keepaliveInterval) } : Inner).queueKeepalive
  else inner

/-- What a poll does for an allocation in use. -/
def maintain (crypto : StunCrypto) (now : Nat) (draw : Operation → Draw) (inner : Inner) :
    Inner × Except String Unit :=
  let maintenanceDue := isDue inner.maintenanceRefresh now
  let permissionDue := maintenanceDue || isDue inner.permissionRetry now
  let channelDue := maintenanceDue || isDue inner.channelRetry now
  andThen
    (inner.startDue crypto draw .refresh (isDue inner.allocationRefresh now)
      ({ · with allocationRefresh := none }))
    fun inner =>
      andThen
        ((inner.rearmMaintenance maintenanceDue now).startDue crypto draw .permission permissionDue
          ({ · with permissionRetry := none }))
        fun inner =>
          andThen
            (inner.startDue crypto draw .channel channelDue ({ · with channelRetry := none }))
            fun inner => (inner.keepPathAlive now, .ok ())

def poll (crypto : StunCrypto) (now : Nat) (draw : Operation → Draw) (inner : Inner) :
    Inner × Except String (Option Nat) :=
  if inner.destroyed then (inner, .ok none)
  else
    let inner := (inner.expireTransactions now).expireAllocation now
    let maintained :=
      if inner.shuttingDown = false ∧ inner.state = .ready then inner.maintain crypto now draw
      else (inner, .ok ())
    match maintained.2 with
    | .error reason => (maintained.1, .error reason)
    | .ok () =>
        (maintained.1,
          .ok (maintained.1.nextDeadline.map fun deadline => max (deadline - now) (millis 1)))

/-- After a suspend of some length the allocation has aged by it. -/
def resyncAfterSuspend (now : Nat) (gap : Nat) (inner : Inner) : Inner × Bool :=
  if inner.destroyed ∨ inner.shuttingDown ∨ inner.state ≠ .ready then (inner, false)
  else
    let probed (inner : Inner) : Inner :=
      { inner with
        allocationRefresh := some now
        maintenanceRefresh := some now
        keepalive := some now }
    match inner.allocationExpiresAt with
    | none => (probed inner, false)
    | some expires =>
        if now < expires - gap then
          (probed { inner with allocationExpiresAt := some (expires - gap) }, false)
        else (inner.destroyAllocation .refresh resultTimeout 0, true)

/-!
### Outputs and shutdown
-/

def pullControl (inner : Inner) : Inner × Except String (Option (List U8 × SocketAddr)) :=
  match inner.controls with
  | [] => (inner, .ok none)
  | control :: controls =>
      let inner := { inner with controls := controls }
      if 1024 < control.packet.length then
        (inner, .error ("TURN control dequeue: " ++ nativeStatusText resultBufferTooSmall))
      else (inner, .ok (some (control.packet, control.destination)))

def pullEvent (inner : Inner) : Inner × Option NativeEvent :=
  ({ inner with events := inner.events.drop 1 }, inner.events.head?)

/-- Stop keeping the allocation alive. -/
def beginShutdown (inner : Inner) : Inner :=
  { inner with
    shuttingDown := true
    channel := none
    maintenanceRefresh := none
    permissionRetry := none
    channelRetry := none
    keepalive := none
    controls := [] }

def gracefulShutdown (crypto : StunCrypto) (draw : Operation → Draw) (inner : Inner) :
    Inner × Except String Unit :=
  if inner.destroyed ∨ inner.shuttingDown then (inner, .ok ())
  else
    let inner := inner.beginShutdown
    if inner.state = .ready ∨ (inner.state = .destroying ∧ inner.allocationExpiresAt.isSome) then
      (({ inner with pending := [] } : Inner).setState .deallocating).startOperation crypto
        (draw .deallocate) .deallocate true 0
    else if inner.state ≠ .allocating then ({ inner with pending := [] }, .ok ())
    else (inner, .ok ())

def forceDestroy (status : Int) (inner : Inner) : Inner :=
  if inner.destroyed then inner
  else
    (({ inner with
      destroyed := true
      controls := []
      pending := [] } : Inner).setState .destroying).pushEvent {
        kind := .forcedDestroy
        status := status
        state := .destroying }

end Inner

/-!
### Runs
-/

inductive Action where
  | startAllocation
  | startChannel
  | startPermission
  | inputStun (packet : List U8)
  | poll
  | resyncAfterSuspend (gap : Nat)
  | pullControl
  | pullEvent
  | gracefulShutdown
  | forceDestroy (status : Int)

/-- A call of an operation: when it reads the clock, and what it draws for the transaction
of each kind that it may start. -/
structure Call where
  action : Action
  now : Nat
  draw : Operation → Draw

inductive Reply where
  | done (result : Except String Unit)
  | status (code : Int)
  | wait (result : Except String (Option Nat))
  | tornDown (result : Bool)
  | control (result : Except String (Option (List U8 × SocketAddr)))
  | event (result : Option NativeEvent)

/-- One operation, under the lock. -/
def Inner.step (crypto : StunCrypto) (inner : Inner) (call : Call) : Inner × Reply :=
  match call.action with
  | .startAllocation =>
      let result := inner.startAllocation crypto call.draw
      (result.1, .done result.2)
  | .startChannel =>
      let result := inner.startChannel crypto call.draw
      (result.1, .done result.2)
  | .startPermission =>
      let result := inner.startPermission crypto call.draw
      (result.1, .done result.2)
  | .inputStun packet =>
      let result := inner.inputStun crypto call.now call.draw packet
      (result.1, .status result.2)
  | .poll =>
      let result := inner.poll crypto call.now call.draw
      (result.1, .wait result.2)
  | .resyncAfterSuspend gap =>
      let result := inner.resyncAfterSuspend call.now gap
      (result.1, .tornDown result.2)
  | .pullControl =>
      let result := inner.pullControl
      (result.1, .control result.2)
  | .pullEvent =>
      let result := inner.pullEvent
      (result.1, .event result.2)
  | .gracefulShutdown =>
      let result := inner.gracefulShutdown crypto call.draw
      (result.1, .done result.2)
  | .forceDestroy status => (inner.forceDestroy status, .done (.ok ()))

end Csqtt
