/-
Module: Csqtt.Proofs.TurnControl
Purpose: How large the packets are that the relay client queues, from the size of the
  credentials it takes over, and when each fits the buffer of its owner.
Trusted boundary: none
Main exports: requestRoom, RoomFor, takenOver, LeavesRoom, Contained, fits_step,
  control_packets_fit
-/
import Csqtt.Engine.StunMessage
import Csqtt.Proofs.TurnLifecycle

namespace Csqtt

open Tlv Inner

/-- The size of the buffer that the owner passes to `pullControl`. -/
def controlMax : Nat := 1024

namespace Inner

/-- Bytes that the attributes of a ChannelBind take. -/
def channelRoom (inner : Inner) : Nat := if inner.peer.isIpv4 then 20 else 32

/-- The most that the attributes of a request take, of those that may still be sent. -/
def requestRoom (inner : Inner) : Nat :=
  match inner.state with
  | .null => if inner.shuttingDown then 24 else max 24 inner.channelRoom
  | .allocating => if inner.shuttingDown then 24 else max 24 inner.channelRoom
  | .ready => inner.channelRoom
  | _ => 8

/-- A realm and a nonce leave room for these requests: beside them there are the header, the
headers of the three attributes that name the user and the challenge, the MAC and the
fingerprint. -/
def RoomFor (inner : Inner) (credentials : List U8 × List U8) : Prop :=
  20 + inner.requestRoom + 12 + padded inner.username.length + padded credentials.1.length +
    padded credentials.2.length + 24 + 8 ≤ controlMax

instance (inner : Inner) : DecidablePred inner.RoomFor := fun _ =>
  inferInstanceAs (Decidable (_ ≤ controlMax))

/-- The realm and the nonce that the client takes over from a packet, if it does. -/
def takenOver (crypto : StunCrypto) (inner : Inner) : Action → Option (List U8 × List U8)
  | .inputStun packet =>
      match Message.decode packet with
      | .error _ => none
      | .ok message =>
          if message.class ≠ .error ∨ message.fingerprintValid crypto.crc32 = some false then none
          else
            (inner.answered message).bind fun index =>
              inner.pending[index]?.bind fun pending =>
                inner.retryCredentials message ((errorCode message).getD 0) pending
  | _ => none

end Inner

/-- Whatever is taken over leaves room. -/
def LeavesRoom (crypto : StunCrypto) (inner : Inner) (call : Call) : Prop :=
  ∀ credentials ∈ inner.takenOver crypto call.action, inner.RoomFor credentials

instance (crypto : StunCrypto) : DecidableRel (LeavesRoom crypto) := fun inner call =>
  Option.decidableForallMem (inner.takenOver crypto call.action)

/-- Every packet that waits to be sent fits the buffer. -/
def ControlsFit (inner : Inner) : Prop :=
  ∀ control ∈ inner.controls, control.packet.length ≤ controlMax

/-- A poll or the removal of a packet failed, which ends the transport loop. -/
def Reply.failed : Reply → Bool
  | .control (.error _) => true
  | .wait (.error _) => true
  | _ => false

/-- The packets that wait for sending or for an answer fit, and so will those of the requests
that may follow. -/
structure Contained (inner : Inner) : Prop where
  controls : ControlsFit inner
  pending : ∀ pending ∈ inner.pending, pending.packet.length ≤ controlMax
  room : ∀ realm nonce, inner.realm = some realm → inner.nonce = some nonce →
    inner.RoomFor (realm, nonce)

/-!
### The size of a request
-/

section Size

variable {crypto : StunCrypto} {inner : Inner} {operation : Operation} {transaction : Transaction}
  {packet : List U8}

theorem length_xorAddress (inner : Inner) (transaction : Transaction) :
    (encodeXorAddress inner.peer transaction).length = if inner.peer.isIpv4 then 8 else 20 := by
  unfold encodeXorAddress SocketAddr.isIpv4
  cases inner.peer.ip with
  | v4 address => rfl
  | v6 address => simp [xorMask]

theorem size_allocateRecords (inner : Inner) (transaction : Transaction) :
    sizeAll (requestRecords inner .allocate transaction) = 24 := by
  simp only [requestRecords, sizeAll_cons, sizeAll_nil, Record.size, length_beBytes,
    List.length_cons, List.length_nil]
  rfl

theorem size_channelRecords (inner : Inner) (transaction : Transaction) :
    sizeAll (requestRecords inner .channel transaction) = inner.channelRoom := by
  simp only [requestRecords, sizeAll_cons, sizeAll_nil, Record.size, length_xorAddress,
    channelRoom]
  cases inner.peer.isIpv4 with
  | false => rfl
  | true => rfl

theorem size_permissionRecords (inner : Inner) (transaction : Transaction) :
    sizeAll (requestRecords inner .permission transaction) ≤ inner.channelRoom := by
  simp only [requestRecords, sizeAll_cons, sizeAll_nil, Record.size, length_xorAddress,
    channelRoom]
  cases inner.peer.isIpv4 with
  | false => decide
  | true => decide

theorem le_channelRoom (inner : Inner) : 20 ≤ inner.channelRoom := by
  unfold channelRoom
  split
  · exact Nat.le_refl 20
  · decide

theorem channelRoom_le (inner : Inner) : inner.channelRoom ≤ 32 := by
  unfold channelRoom
  split
  · decide
  · exact Nat.le_refl 32

theorem le_requestRoom (inner : Inner) : 8 ≤ inner.requestRoom := by
  have channel : 8 ≤ inner.channelRoom := Nat.le_trans (by decide) (le_channelRoom inner)
  have allocate : 8 ≤ if inner.shuttingDown then 24 else max 24 inner.channelRoom := by
    split
    · decide
    · exact Nat.le_trans (by decide) (Nat.le_max_left 24 _)
  cases state : inner.state with
  | null | allocating =>
    simp only [requestRoom, state]
    exact allocate
  | ready =>
    simp only [requestRoom, state]
    exact channel
  | deallocating | deallocated | destroying =>
    simp only [requestRoom, state]
    exact Nat.le_refl 8

/-- An operation that may be pending asks for no more room than there is. -/
theorem size_le_requestRoom (permitted : inner.Permits operation) (transaction : Transaction) :
    sizeAll (requestRecords inner operation transaction) ≤ inner.requestRoom := by
  cases operation with
  | allocate =>
    have waiting : inner.state = .allocating := permitted.2
    simp only [requestRoom, waiting, size_allocateRecords]
    split
    · exact Nat.le_refl 24
    · exact Nat.le_max_left 24 _
  | refresh => exact le_requestRoom inner
  | deallocate => exact le_requestRoom inner
  | permission =>
    have ready : inner.state = .ready := permitted.2.1
    simp only [requestRoom, ready]
    exact size_permissionRecords inner transaction
  | channel =>
    have ready : inner.state = .ready := permitted.2.1
    simp only [requestRoom, ready]
    exact Nat.le_of_eq (size_channelRecords inner transaction)

theorem size_credentialRecords (inner : Inner) :
    sizeAll (credentialRecords inner) = 12 + padded inner.username.length +
      padded (inner.realm.getD []).length + padded (inner.nonce.getD []).length := by
  simp only [credentialRecords, sizeAll_cons, sizeAll_nil, Record.size]
  omega

theorem length_of_buildRequest
    (built : inner.buildRequest crypto operation transaction true = .ok packet) :
    packet.length = 20 + (sizeAll (requestRecords inner operation transaction) +
      sizeAll (credentialRecords inner)) + 32 := by
  unfold buildRequest at built
  simp only [if_true] at built
  split at built
  · cases built
  · next key known =>
      have fits := finishAuthenticated_ok holds_credentialBuilder built
      rw [finishAuthenticated_wire key holds_credentialBuilder fits] at built
      cases built
      rw [length_wire, sizeAll_sealed, sizeAll_signed, sizeAll_append]
      omega

theorem length_of_buildRequest_plain
    (built : inner.buildRequest crypto operation transaction false = .ok packet) :
    packet.length = 20 + sizeAll (requestRecords inner operation transaction) + 8 := by
  have done : (inner.requestBuilder operation transaction).finish crypto = .ok packet := built
  have fits := finish_ok holds_requestBuilder done
  rw [finish_wire holds_requestBuilder fits] at done
  cases done
  rw [length_wire, sizeAll_sealed]
  omega

/-- With the key at hand and room there is a request. -/
theorem buildRequest_of_room (known : inner.key.isSome)
    (room : sizeAll (requestRecords inner operation transaction) +
      sizeAll (credentialRecords inner) + 32 < 65536) :
    ∃ packet, inner.buildRequest crypto operation transaction true = .ok packet := by
  obtain ⟨key, same⟩ := Option.isSome_iff_exists.mp known
  have fits : sizeAll (requestRecords inner operation transaction ++ credentialRecords inner) +
      32 < 65536 := by
    rw [sizeAll_append]
    exact room
  simp only [buildRequest, if_true, same]
  exact ⟨_, finishAuthenticated_wire key holds_credentialBuilder fits⟩

end Size

/-!
### What the operations keep
-/

section Fitting

variable {crypto : StunCrypto} {inner inner' : Inner}

/-- A change that queues nothing and asks for no more room. -/
theorem Contained.change (fits : Contained inner) (controls : inner'.controls ⊆ inner.controls)
    (pending : inner'.pending ⊆ inner.pending) (username : inner'.username = inner.username)
    (realm : inner'.realm = inner.realm) (nonce : inner'.nonce = inner.nonce)
    (room : inner'.requestRoom ≤ inner.requestRoom) : Contained inner' := by
  constructor
  case controls => exact fun control member => fits.controls control (controls member)
  case pending => exact fun other member => fits.pending other (pending member)
  case room =>
    intro realm' nonce' known given
    have before := fits.room realm' nonce' (realm ▸ known) (nonce ▸ given)
    unfold RoomFor at before ⊢
    rw [username]
    omega

/-- A change of what does not matter here. -/
theorem Contained.same (fits : Contained inner) (controls : inner'.controls = inner.controls)
    (pending : inner'.pending = inner.pending) (username : inner'.username = inner.username)
    (realm : inner'.realm = inner.realm) (nonce : inner'.nonce = inner.nonce)
    (room : inner'.requestRoom = inner.requestRoom) : Contained inner' :=
  fits.change (controls ▸ List.Subset.refl _) (pending ▸ List.Subset.refl _) username realm nonce
    (Nat.le_of_eq room)

theorem fits_pushEvent (fits : Contained inner) (event : NativeEvent) :
    Contained (inner.pushEvent event) :=
  fits.same rfl rfl rfl rfl rfl rfl

theorem fits_dropOldestControl (fits : Contained inner) : Contained inner.dropOldestControl := by
  unfold dropOldestControl
  split
  · apply fits_pushEvent
    exact fits.change (List.drop_subset 1 _) (List.Subset.refl _) rfl rfl rfl (Nat.le_refl _)
  · exact fits

theorem fits_queuePacket (fits : Contained inner) (cause : Cause) {packet : List U8}
    (small : packet.length ≤ controlMax) : Contained (inner.queuePacket cause packet) := by
  have room := fits_dropOldestControl fits
  refine ⟨fun control member => ?_, room.pending, room.room⟩
  rcases List.mem_append.mp member with old | last
  · exact room.controls control old
  · rw [List.mem_singleton.mp last]
    exact small

theorem fits_setState (fits : Contained inner) {state : TurnState}
    (room : Inner.requestRoom { inner with state := state } ≤ inner.requestRoom) :
    Contained (inner.setState state) := by
  have entered : Contained { inner with state := state } :=
    fits.change (List.Subset.refl _) (List.Subset.refl _) rfl rfl rfl room
  unfold setState
  split
  · exact fits
  · exact fits_pushEvent entered _

theorem requestRoom_le (inner : Inner) : inner.requestRoom ≤ 32 := by
  have channel := channelRoom_le inner
  have allocate : (if inner.shuttingDown then 24 else max 24 inner.channelRoom) ≤ 32 := by
    split
    · decide
    · exact Nat.max_le.mpr ⟨by decide, channel⟩
  cases state : inner.state with
  | null | allocating =>
    simp only [requestRoom, state]
    exact allocate
  | ready =>
    simp only [requestRoom, state]
    exact channel
  | deallocating | deallocated | destroying =>
    simp only [requestRoom, state]
    decide

/-- A request that is built while it may be pending fits. -/
theorem length_le_of_build (fits : Contained inner) {operation : Operation} {authenticated : Bool}
    {transaction : Transaction} {packet : List U8} (permitted : inner.Permits operation)
    (credentialed : authenticated = true → inner.Credentialed)
    (built : inner.buildRequest crypto operation transaction authenticated = .ok packet) :
    packet.length ≤ controlMax := by
  have request := size_le_requestRoom permitted transaction
  cases authenticated with
  | false =>
    have small := requestRoom_le inner
    rw [length_of_buildRequest_plain built, controlMax]
    omega
  | true =>
    obtain ⟨hasRealm, hasNonce, -⟩ := credentialed rfl
    obtain ⟨realm, known⟩ := Option.isSome_iff_exists.mp hasRealm
    obtain ⟨nonce, given⟩ := Option.isSome_iff_exists.mp hasNonce
    have room := fits.room realm nonce known given
    rw [length_of_buildRequest built, size_credentialRecords, known, given, Option.getD_some,
      Option.getD_some]
    simp only [RoomFor] at room
    omega

theorem fits_startOperation (fits : Contained inner) {operation : Operation}
    (permitted : inner.Permits operation) (draw : Draw) (authenticated : Bool)
    (nonceRetries : Nat) :
    Contained (inner.startOperation crypto draw operation authenticated nonceRetries).1 := by
  unfold startOperation
  split
  · split
    · split
      · next pending found =>
          have member := List.mem_of_find?_eq_some found
          exact fits_queuePacket fits .again (fits.pending pending member)
      · exact fits
    · exact fits
  · split
    · exact fits
    · next complete =>
        split
        · exact fits
        · next packet built =>
            have credentialed : authenticated = true → inner.Credentialed := by
              intro proves
              simp only [proves, true_and, not_or, Bool.not_eq_true, Option.isNone_eq_false_iff]
                at complete
              exact complete
            have small := length_le_of_build fits permitted credentialed built
            have queued := fits_queuePacket fits (.transmission inner.started draw.now) small
            refine ⟨queued.controls, fun other member => ?_, queued.room⟩
            rcases List.mem_append.mp member with old | last
            · exact queued.pending other old
            · rw [List.mem_singleton.mp last]
              exact small

/-- With credentials that leave room a request can be sent. -/
theorem startOperation_succeeds (fits : Contained inner) {operation : Operation}
    (permitted : inner.Permits operation) (credentialed : inner.Credentialed) (draw : Draw)
    (nonceRetries : Nat) :
    (inner.startOperation crypto draw operation true nonceRetries).2 = .ok () := by
  obtain ⟨realm, known⟩ := Option.isSome_iff_exists.mp credentialed.1
  obtain ⟨nonce, given⟩ := Option.isSome_iff_exists.mp credentialed.2.1
  have request := size_le_requestRoom permitted draw.transaction
  have room := fits.room realm nonce known given
  obtain ⟨packet, built⟩ := @buildRequest_of_room crypto inner operation draw.transaction
    credentialed.2.2 (by
      rw [size_credentialRecords, known, given, Option.getD_some, Option.getD_some]
      simp only [RoomFor, controlMax] at room
      omega)
  have complete : ¬(inner.realm.isNone ∨ inner.nonce.isNone ∨ inner.key.isNone) := by
    simp only [← Option.not_isSome, credentialed.1, credentialed.2.1, credentialed.2.2]
    decide
  unfold startOperation
  simp only [complete, and_false, if_false, built]
  split
  · split
    · split <;> rfl
    · rfl
  · rfl

/-- In a state that sends nothing but the last request there is room. -/
theorem requestRoom_ended {state : TurnState} (final : state = .destroying ∨ state = .deallocated ∨
    state = .deallocating) : Inner.requestRoom { inner with state := state } = 8 := by
  rcases final with rfl | rfl | rfl <;> rfl

/-- A change that ends with nothing queued or pending. -/
theorem Contained.emptied (fits : Contained inner) (controls : inner'.controls = [])
    (pending : inner'.pending = []) (username : inner'.username = inner.username)
    (realm : inner'.realm = inner.realm) (nonce : inner'.nonce = inner.nonce)
    (room : inner'.requestRoom ≤ inner.requestRoom) : Contained inner' :=
  fits.change (controls ▸ List.nil_subset _) (pending ▸ List.nil_subset _) username realm nonce room

theorem fits_setState_ended (fits : Contained inner) {state : TurnState}
    (final : state = .destroying ∨ state = .deallocated ∨ state = .deallocating) :
    Contained (inner.setState state) := by
  apply fits_setState fits
  rw [requestRoom_ended final]
  exact le_requestRoom inner

theorem fits_destroyAllocation (fits : Contained inner) (operation : Operation) (status : Int)
    (stunCode : Nat) : Contained (inner.destroyAllocation operation status stunCode) := by
  unfold destroyAllocation
  apply fits_setState_ended
  · exact fits.emptied rfl rfl rfl rfl rfl (Nat.le_refl _)
  · split
    · exact Or.inr (Or.inl rfl)
    · exact Or.inl rfl

theorem fits_destroyAfterChannelRebindExhausted (fits : Contained inner) :
    Contained inner.destroyAfterChannelRebindExhausted := by
  unfold destroyAfterChannelRebindExhausted
  apply fits_setState_ended
  · apply fits_pushEvent
    exact fits.emptied rfl rfl rfl rfl rfl (Nat.le_refl _)
  · exact Or.inl rfl

theorem fits_scheduleMaintenanceRetry (fits : Contained inner) (operation : Operation) (now : Nat) :
    Contained (inner.scheduleMaintenanceRetry operation now).1 := by
  cases operation with
  | allocate | deallocate => exact fits
  | refresh | permission => exact fits.same rfl rfl rfl rfl rfl rfl
  | channel =>
    unfold scheduleMaintenanceRetry
    simp only
    split <;> exact fits.same rfl rfl rfl rfl rfl rfl

theorem fits_completeFailure (fits : Contained inner) (operation : Operation) (status : Int)
    (stunCode : Nat) (now : Nat) : Contained (inner.completeFailure operation status stunCode now) := by
  have completed : Contained (inner.complete operation status stunCode) := fits_pushEvent fits _
  have scheduled := fits_scheduleMaintenanceRetry completed operation now
  unfold completeFailure
  split
  · simp only
    split
    · exact scheduled
    · exact fits_destroyAfterChannelRebindExhausted scheduled
  · exact fits_destroyAllocation fits operation status stunCode

theorem fits_allocated (fits : Contained inner) (relay : SocketAddr) (returned : Option U32)
    (lifetime : U32) (now : Nat) : Contained (inner.allocated relay returned lifetime now) := by
  apply fits_pushEvent
  exact fits.same rfl rfl rfl rfl rfl rfl

theorem fits_completeSuccess (fits : Contained inner) {operation : Operation}
    (permitted : inner.Permits operation) (draw : Draw) (message : Message) (now : Nat) :
    Contained (inner.completeSuccess crypto draw operation message now).1 := by
  cases operation with
  | allocate =>
    have waiting : inner.state = .allocating := permitted.2
    cases granted : inner.grantOf message with
    | error reason =>
      simp only [completeSuccess, granted]
      exact fits
    | ok found =>
      have taken := fits_allocated fits found.1 (attributeU32 message attrLifetime) found.2 now
      simp only [completeSuccess, granted]
      split
      · next closing =>
          apply fits_startOperation (fits_setState_ended taken (Or.inr (Or.inr rfl)))
          obtain ⟨events, history, same⟩ := setState_same
            (inner.allocated found.1 (attributeU32 message attrLifetime) found.2 now) .deallocating
          rw [same]
          exact ⟨permitted.1, rfl, closing⟩
      · next serving =>
          apply fits_pushEvent
          apply fits_setState taken
          have open' : inner.shuttingDown = false := Bool.eq_false_of_not_eq_true serving
          have before : Inner.requestRoom
              (inner.allocated found.1 (attributeU32 message attrLifetime) found.2 now) =
              max 24 inner.channelRoom := by
            simp only [requestRoom, allocated, pushEvent, waiting, open', Bool.false_eq_true,
              if_false]
            rfl
          rw [before]
          exact Nat.le_max_right 24 _
  | refresh =>
    simp only [completeSuccess]
    split
    · exact fits
    · apply fits_pushEvent
      exact fits.same rfl rfl rfl rfl rfl rfl
  | deallocate =>
    simp only [completeSuccess]
    split
    · exact fits
    · apply fits_setState_ended
      · apply fits_pushEvent
        exact fits.same rfl rfl rfl rfl rfl rfl
      · exact Or.inr (Or.inl rfl)
  | permission =>
    apply fits_pushEvent
    exact fits.same rfl rfl rfl rfl rfl rfl
  | channel =>
    apply fits_pushEvent
    apply fits_pushEvent
    exact fits.same rfl rfl rfl rfl rfl rfl

theorem fits_timeOut (fits : Contained inner) (index : Nat) (pending : PendingTransaction) (now : Nat) :
    Contained (inner.timeOut index pending now) := by
  apply fits_completeFailure
  exact fits.change List.filter_sublist.subset List.eraseIdx_subset rfl rfl rfl (Nat.le_refl _)

theorem fits_retransmit (fits : Contained inner) {index : Nat} {pending : PendingTransaction}
    (found : inner.pending[index]? = some pending) (now : Nat) :
    Contained (inner.retransmit index pending now) := by
  have small := fits.pending pending (List.mem_of_getElem? found)
  have queued := fits_queuePacket fits (.transmission pending.serial now) small
  refine ⟨queued.controls, fun other member => ?_, queued.room⟩
  rcases List.mem_or_eq_of_mem_set member with old | rfl
  · exact queued.pending other old
  · exact small

theorem fits_expireLoop (now fuel index : Nat) (fits : Contained inner) :
    Contained (expireLoop now fuel index inner).2 := by
  induction fuel generalizing index inner with
  | zero => exact fits
  | succ fuel inductionHypothesis =>
    unfold expireLoop
    split
    · exact fits
    · next pending found =>
        split
        · exact inductionHypothesis _ fits
        · split
          · exact inductionHypothesis _ (fits_timeOut fits index pending now)
          · exact inductionHypothesis _ (fits_retransmit fits found now)

/-- An allocation in use, with credentials that leave room. -/
structure Serving (inner : Inner) : Prop where
  fits : Contained inner
  running : Running inner
  credentialed : inner.Credentialed

/-- A step of the upkeep does not fail. -/
structure Upkept (result : Inner × Except String Unit) : Prop where
  serving : Serving result.1
  done : result.2 = .ok ()

theorem upkept_andThen {result : Inner × Except String Unit}
    {next : Inner → Inner × Except String Unit} (first : Upkept result)
    (second : ∀ middle, Serving middle → Upkept (next middle)) : Upkept (andThen result next) := by
  simp only [andThen, first.done]
  exact second result.1 first.serving

theorem upkept_startDue (serving : Serving inner) (draw : Operation → Draw) {operation : Operation}
    (due : Bool) {clear : Inner → Inner}
    (upkeep : operation = .refresh ∨ operation = .permission ∨ operation = .channel)
    (cleared : Serving (clear inner)) :
    Upkept (inner.startDue crypto draw operation due clear) := by
  have permitted := permits_of_running cleared.running upkeep
  unfold startDue
  split
  · constructor
    · exact ⟨fits_startOperation cleared.fits permitted (draw operation) true 0,
        running_startOperation cleared.running (draw operation) operation true 0,
        credentialed_startOperation cleared.credentialed (draw operation) operation true 0⟩
    · exact startOperation_succeeds cleared.fits permitted cleared.credentialed (draw operation) 0
  · exact ⟨serving, rfl⟩

theorem serving_rearmMaintenance (serving : Serving inner) (due : Bool) (now : Nat) :
    Serving (inner.rearmMaintenance due now) := by
  obtain ⟨fits, running, credentialed⟩ := serving
  unfold rearmMaintenance
  split
  · exact ⟨fits.same rfl rfl rfl rfl rfl rfl, ⟨running.ready, running.serving, running.live⟩,
      credentialed⟩
  · exact ⟨fits, running, credentialed⟩

theorem fits_queueKeepalive (fits : Contained inner) : Contained inner.queueKeepalive := by
  unfold queueKeepalive
  split
  · exact fits
  · exact fits_queuePacket fits .keepalive (by simp [controlMax])

theorem fits_keepPathAlive (fits : Contained inner) (now : Nat) : Contained (inner.keepPathAlive now) := by
  unfold keepPathAlive
  split
  · apply fits_queueKeepalive
    exact fits.same rfl rfl rfl rfl rfl rfl
  · exact fits

theorem upkept_maintain (serving : Serving inner) (now : Nat) (draw : Operation → Draw) :
    Upkept (inner.maintain crypto now draw) := by
  have timed {inner : Inner} (serving : Serving inner)
      (allocationRefresh permissionRetry channelRetry : Option Nat) :
      Serving { inner with
        allocationRefresh := allocationRefresh
        permissionRetry := permissionRetry
        channelRetry := channelRetry } :=
    ⟨serving.fits.same rfl rfl rfl rfl rfl rfl,
      ⟨serving.running.ready, serving.running.serving, serving.running.live⟩, serving.credentialed⟩
  unfold maintain
  apply upkept_andThen
  · exact upkept_startDue serving draw _ (Or.inl rfl) (timed serving none _ _)
  · intro refreshed serving
    have rearmed := serving_rearmMaintenance serving (isDue inner.maintenanceRefresh now) now
    apply upkept_andThen
    · exact upkept_startDue rearmed draw _ (Or.inr (Or.inl rfl)) (timed rearmed _ none _)
    · intro permitted serving
      apply upkept_andThen
      · exact upkept_startDue serving draw _ (Or.inr (Or.inr rfl)) (timed serving _ _ none)
      · intro bound serving
        obtain ⟨fits, running, credentialed⟩ := serving
        exact ⟨⟨fits_keepPathAlive fits now, (@moves_keepPathAlive crypto False _ running now).2,
          credentialed_keepPathAlive credentialed now⟩, rfl⟩

/-- A poll keeps everything within bounds, and does not fail. -/
theorem fits_poll (sound : Sound inner) (fits : Contained inner) (now : Nat) (draw : Operation → Draw) :
    Contained (inner.poll crypto now draw).1 ∧
      ∀ reason, (inner.poll crypto now draw).2 ≠ .error reason := by
  have expired : Contained ((inner.expireTransactions now).expireAllocation now) := by
    have swept : Contained (inner.expireTransactions now) := fits_expireLoop now _ 0 fits
    unfold expireAllocation
    split
    · exact fits_destroyAllocation swept _ _ _
    · exact swept
  have moves : Moves crypto False inner ((inner.expireTransactions now).expireAllocation now) :=
    (moves_expireTransactions now).trans (moves_expireAllocation now)
  have later := sound_moves moves sound
  unfold poll
  split
  · exact ⟨fits, fun reason => nofun⟩
  · simp only
    generalize (inner.expireTransactions now).expireAllocation now = middle at expired later
    by_cases serves : middle.shuttingDown = false ∧ middle.state = .ready
    · have held := later.held serves.2
      have upkept := @upkept_maintain crypto middle
        ⟨expired, ⟨serves.2, serves.1, held.2.2.2⟩, later.known held.2.1⟩ now draw
      simp only [serves, and_self, if_true, upkept.done]
      exact ⟨upkept.serving.fits, fun reason => nofun⟩
    · simp only [serves, if_false]
      exact ⟨expired, fun reason => nofun⟩

/-!
### Responses
-/

theorem fits_pushResponseError (fits : Contained inner) (operation : Operation) (status : Int)
    (code : Nat) (state : TurnState) :
    Contained (inner.pushResponseError operation status code state) :=
  fits_pushEvent fits _

theorem fits_reportFailure (fits : Contained inner) (operation : Operation) (code : Nat)
    (state : TurnState) (now : Nat) : Contained (inner.reportFailure operation code state now) :=
  fits_completeFailure (fits_pushResponseError fits operation 0 code state) _ _ _ _

/-- New credentials that leave room. -/
theorem fits_setAuth (fits : Contained inner) {realm nonce : List U8}
    (room : inner.RoomFor (realm, nonce)) : Contained (inner.setAuth crypto realm nonce) := by
  refine ⟨fits.controls, fits.pending, fun realm' nonce' known given => ?_⟩
  cases known
  cases given
  exact room

theorem fits_answerError (fits : Contained inner) {message : Message} {pending : PendingTransaction}
    (permitted : inner.Permits pending.operation)
    (room : ∀ credentials ∈ inner.retryCredentials message ((errorCode message).getD 0) pending,
      inner.RoomFor credentials) (now : Nat) (draw : Operation → Draw) :
    Contained (inner.answerError crypto now draw message pending) := by
  unfold answerError
  simp only
  generalize (errorCode message).getD 0 = code at room
  split
  · exact fits_completeFailure (fits_pushResponseError fits _ _ _ _) _ _ _ _
  · next code _ =>
      split
      · exact fits_destroyAllocation (fits_pushResponseError fits _ _ _ _) _ _ _
      · split
        · exact fits_reportFailure fits _ _ _ _
        · next credentials taken =>
            have learned : Contained (inner.setAuth crypto credentials.1 credentials.2) :=
              fits_setAuth fits (room credentials taken)
            have retried : Contained ((inner.setAuth crypto credentials.1
                credentials.2).startOperation crypto _ _ _ _).1 :=
              fits_startOperation learned permitted (draw pending.operation) true
                (pending.nonceRetries + 1)
            split
            · exact retried
            · exact fits_reportFailure retried _ _ _ _

theorem fits_answer (sound : Sound inner) (fits : Contained inner) {message : Message} {index : Nat}
    {pending : PendingTransaction} (found : inner.pending[index]? = some pending)
    (room : message.class = .error →
      ∀ credentials ∈ inner.retryCredentials message ((errorCode message).getD 0) pending,
        inner.RoomFor credentials) (now : Nat) (draw : Operation → Draw) :
    Contained (inner.answer crypto now draw message index pending).1 := by
  have permitted := sound.fits pending (List.mem_of_getElem? found)
  have taken : Contained (inner.takePending index pending) :=
    fits.change List.filter_sublist.subset List.eraseIdx_subset rfl rfl rfl (Nat.le_refl _)
  unfold answer
  split
  · unfold rejectUnverified
    simp only
    split
    · exact fits_pushResponseError fits _ _ _ _
    · exact fits
  · simp only
    split
    · exact fits_completeFailure taken _ _ _ _
    · split
      · next error => exact fits_answerError taken permitted (room error) now draw
      · have completed : Contained ((inner.takePending index pending).completeSuccess crypto
            _ _ _ _).1 :=
          fits_completeSuccess taken permitted (draw .deallocate) message now
        unfold answerSuccess
        simp only
        split
        · exact completed
        · exact fits_completeFailure completed _ _ _ _

/-!
### Steps and runs
-/

theorem fits_inputStun (sound : Sound inner) (fits : Contained inner) {packet : List U8}
    (room : ∀ credentials ∈ inner.takenOver crypto (.inputStun packet),
      inner.RoomFor credentials) (now : Nat) (draw : Operation → Draw) :
    Contained (inner.inputStun crypto now draw packet).1 := by
  rcases @inputStun_cases crypto now draw packet inner with same | answered
  · rw [same]
    exact fits
  · obtain ⟨message, index, pending, decoded, -, valid, answers, found, -, same⟩ := answered
    rw [same]
    refine fits_answer sound fits found (fun error credentials taken => ?_) now draw
    apply room credentials
    simp only [takenOver, decoded, error, ne_eq, not_true_eq_false, false_or, valid, if_false,
      answers, Option.bind_some, found]
    exact taken

theorem fits_gracefulShutdown (fits : Contained inner) (draw : Operation → Draw) :
    Contained (inner.gracefulShutdown crypto draw).1 := by
  unfold gracefulShutdown
  split
  · exact fits
  · next running =>
      have live : inner.destroyed = false := by
        simp only [not_or, Bool.not_eq_true] at running
        exact running.1
      have stopped : Inner.requestRoom inner.beginShutdown ≤ inner.requestRoom := by
        unfold requestRoom beginShutdown
        cases inner.state with
        | null | allocating =>
          simp only [if_true]
          split
          · exact Nat.le_refl 24
          · exact Nat.le_max_left 24 _
        | _ => exact Nat.le_refl _
      have emptied : Contained { inner.beginShutdown with pending := [] } :=
        fits.emptied rfl rfl rfl rfl rfl stopped
      simp only
      split
      · apply fits_startOperation (fits_setState_ended emptied (Or.inr (Or.inr rfl)))
        obtain ⟨events, history, same⟩ :=
          setState_same { inner.beginShutdown with pending := [] } .deallocating
        rw [same]
        exact ⟨live, rfl, rfl⟩
      · split
        · exact emptied
        · exact fits.change (List.nil_subset _) (List.Subset.refl _) rfl rfl rfl stopped

theorem fits_startAllocation (fits : Contained inner) (draw : Operation → Draw) :
    Contained (inner.startAllocation crypto draw).1 := by
  unfold startAllocation
  split
  · exact fits
  · next opened =>
      split
      · exact fits
      · next idle =>
          have live := (live_of_requireOpen opened).1
          have begun : Contained (inner.setState .allocating) := by
            apply fits_setState fits
            simp only [requestRoom, not_not.mp idle]
            exact Nat.le_refl _
          apply fits_startOperation begun
          obtain ⟨events, history, same⟩ := setState_same inner .allocating
          rw [same]
          exact ⟨live, rfl⟩

theorem fits_resyncAfterSuspend (fits : Contained inner) (now gap : Nat) :
    Contained (inner.resyncAfterSuspend now gap).1 := by
  unfold resyncAfterSuspend
  split
  · exact fits
  · simp only
    split
    · exact fits.same rfl rfl rfl rfl rfl rfl
    · split
      · exact fits.same rfl rfl rfl rfl rfl rfl
      · exact fits_destroyAllocation fits _ _ _

theorem fits_forceDestroy (fits : Contained inner) (status : Int) :
    Contained (inner.forceDestroy status) := by
  unfold forceDestroy
  split
  · exact fits
  · apply fits_pushEvent
    apply fits_setState_ended
    · exact fits.emptied rfl rfl rfl rfl rfl (Nat.le_refl _)
    · exact Or.inl rfl

/-- A packet that fits the buffer is handed out. -/
theorem fits_pullControl (fits : Contained inner) :
    Contained inner.pullControl.1 ∧ ∀ reason, inner.pullControl.2 ≠ .error reason := by
  unfold pullControl
  split
  · exact ⟨fits, fun reason => nofun⟩
  · next control controls waiting =>
      have rest : Contained { inner with controls := controls } := by
        refine fits.change ?_ (List.Subset.refl _) rfl rfl rfl (Nat.le_refl _)
        rw [waiting]
        exact List.subset_cons_self control controls
      have small : ¬1024 < control.packet.length := by
        apply Nat.not_lt.mpr
        apply fits.controls control
        rw [waiting]
        exact List.mem_cons_self
      simp only [small, if_false]
      exact ⟨rest, fun reason => nofun⟩

theorem fits_step (sound : Sound inner) (fits : Contained inner) {call : Call}
    (room : LeavesRoom crypto inner call) :
    Contained (inner.step crypto call).1 ∧ (inner.step crypto call).2.failed = false := by
  cases action : call.action with
  | startAllocation =>
    simp only [step, action]
    exact ⟨fits_startAllocation fits call.draw, rfl⟩
  | startChannel =>
    simp only [step, action, startChannel]
    split
    · exact ⟨fits, rfl⟩
    · next passed =>
        have permitted := permits_of_running (running_of_requireReady passed) (Or.inr (Or.inr rfl))
        exact ⟨fits_startOperation fits permitted _ _ _, rfl⟩
  | startPermission =>
    simp only [step, action, startPermission]
    split
    · exact ⟨fits, rfl⟩
    · next passed =>
        have permitted := permits_of_running (running_of_requireReady passed) (Or.inr (Or.inl rfl))
        exact ⟨fits_startOperation fits permitted _ _ _, rfl⟩
  | inputStun packet =>
    rw [LeavesRoom, action] at room
    simp only [step, action]
    exact ⟨fits_inputStun sound fits room call.now call.draw, rfl⟩
  | poll =>
    have polled := @fits_poll crypto inner sound fits call.now call.draw
    simp only [step, action]
    refine ⟨polled.1, ?_⟩
    cases reply : (inner.poll crypto call.now call.draw).2 with
    | ok wait => rfl
    | error reason => exact absurd reply (polled.2 reason)
  | resyncAfterSuspend gap =>
    simp only [step, action]
    exact ⟨fits_resyncAfterSuspend fits call.now gap, rfl⟩
  | pullControl =>
    have pulled := fits_pullControl fits
    simp only [step, action]
    refine ⟨pulled.1, ?_⟩
    cases reply : inner.pullControl.2 with
    | ok control => rfl
    | error reason => exact absurd reply (pulled.2 reason)
  | pullEvent =>
    simp only [step, action]
    exact ⟨fits.same rfl rfl rfl rfl rfl rfl, rfl⟩
  | gracefulShutdown =>
    simp only [step, action]
    exact ⟨fits_gracefulShutdown fits call.draw, rfl⟩
  | forceDestroy status =>
    simp only [step, action]
    exact ⟨fits_forceDestroy fits status, rfl⟩

theorem fits_fresh (fresh : Fresh inner) : Contained inner := by
  obtain ⟨server, username, password, peer, transport, created⟩ := fresh
  unfold createWithTransport create at created
  simp only at created
  split at created
  · cases created
  · split at created
    · cases created
    · cases created
      exact ⟨nofun, nofun, fun realm nonce => nofun⟩

end Fitting

/-- In every run in which what the client takes over leaves room, every packet that is queued
fits the buffer of its owner, and neither a poll nor the removal of a packet fails. -/
theorem control_packets_fit (crypto : StunCrypto) {inner : Inner} (fresh : Fresh inner)
    (calls : List Call)
    (room : Transducer.AtEveryStep (Inner.step crypto) inner calls (LeavesRoom crypto)) :
    Transducer.Throughout (Inner.step crypto) inner calls ControlsFit ∧
      ∀ reply ∈ (Transducer.run (Inner.step crypto) inner calls).2, reply.failed = false := by
  have keeps (state : Inner) (call : Call) (both : Sound state ∧ Contained state)
      (room : LeavesRoom crypto state call) :
      Sound (state.step crypto call).1 ∧ Contained (state.step crypto call).1 :=
    ⟨sound_step call both.1, (fits_step both.1 both.2 room).1⟩
  have kept : ∀ consumed, consumed <+: calls →
      Sound (after crypto inner consumed) ∧ Contained (after crypto inner consumed) :=
    fun consumed within => Transducer.invariant_of_atEveryStep (Inner.step crypto) keeps
      ⟨sound_fresh fresh, fits_fresh fresh⟩ (room.of_prefix within)
  refine ⟨fun consumed within => (kept consumed within).2.controls, fun reply member => ?_⟩
  obtain ⟨index, found⟩ := List.getElem?_of_mem member
  rw [Transducer.getElem?_run] at found
  obtain ⟨call, there, rfl⟩ := Option.map_eq_some_iff.mp found
  have within : calls.take index ++ [call] <+: calls := by
    have next := List.take_prefix (index + 1) calls
    rwa [List.take_add_one, there] at next
  obtain ⟨sound, fits⟩ := kept (calls.take index) (List.take_prefix index calls)
  exact (fits_step sound fits (room _ _ within)).2

/-- An error response to the first Allocate of a local client, with the code 401, a realm of
five bytes and a nonce of some length. -/
def nonceChallenge (nonce : List U8) : List U8 :=
  [0x01, 0x13] ++ beBytes 2 (24 + padded nonce.length) ++
    [0x21, 0x12, 0xa4, 0x42, 0, 0, 0, 0, 0, 0, 0, 0, 0, 0, 0, 3,
      0, 0x09, 0, 4, 0, 0, 4, 1,
      0, 0x14, 0, 5, 0x72, 0x65, 0x61, 0x6c, 0x6d, 0, 0, 0,
      0, 0x15] ++ beBytes 2 nonce.length ++ nonce ++
    List.replicate (padded nonce.length - nonce.length) 0

/-- The client asks for an allocation, is challenged and sends what it queued. -/
def nonceCalls (nonce : List U8) : List Call := [
  { action := .startAllocation, now := 0, draw := drawAt 0 },
  { action := .pullControl, now := 0, draw := drawAt 0 },
  { action := .inputStun (nonceChallenge nonce), now := 1, draw := drawAt 1 },
  { action := .poll, now := 1, draw := drawAt 1 },
  { action := .pullControl, now := 1, draw := drawAt 1 }]

/-- A nonce of one byte leaves room. -/
theorem short_nonce_fits :
    let calls := nonceCalls [0x6e]
    Transducer.AtEveryStep (Inner.step StunCrypto.standard) (localClient .datagram) calls
        (LeavesRoom StunCrypto.standard) ∧
      Transducer.Throughout (Inner.step StunCrypto.standard) (localClient .datagram) calls
        ControlsFit ∧
      ∀ reply ∈ (Transducer.run (Inner.step StunCrypto.standard) (localClient .datagram) calls).2,
        reply.failed = false := by
  have room : Transducer.AtEveryStep (Inner.step StunCrypto.standard) (localClient .datagram)
      (nonceCalls [0x6e]) (LeavesRoom StunCrypto.standard) := by
    decide +kernel
  exact ⟨room, control_packets_fit StunCrypto.standard (fresh_localClient .datagram) _ room⟩

/-- With a nonce of a thousand bytes the answer to the challenge has 1100, and its removal
from the queue fails. -/
theorem long_nonce_overflows :
    let calls := nonceCalls (List.replicate 1000 0x6e)
    ¬ Transducer.Throughout (Inner.step StunCrypto.standard) (localClient .datagram) calls
        ControlsFit ∧
      ∃ reply ∈ (Transducer.run (Inner.step StunCrypto.standard) (localClient .datagram) calls).2,
        reply.failed = true := by
  intro calls
  constructor
  · intro fits
    have large : (Transducer.run (Inner.step StunCrypto.standard) (localClient .datagram)
        (calls.take 4)).1.controls.any
        (fun control => decide (controlMax < control.packet.length)) = true := by
      decide +kernel
    obtain ⟨control, member, size⟩ := List.any_eq_true.mp large
    have small := fits (calls.take 4) (List.take_prefix 4 calls) control member
    exact Nat.not_lt.mpr small (of_decide_eq_true size)
  · exact List.any_eq_true.mp (by decide +kernel)

end Csqtt
