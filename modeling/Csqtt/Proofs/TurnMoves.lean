/-
Module: Csqtt.Proofs.TurnMoves
Purpose: The elementary moves that every operation of the relay client is made of, and
  the invariant that each of them keeps.
Trusted boundary: none
Main exports: Inner.Credentialed, Inner.Permits, Move, Moves, Sound, sound_move, sound_moves
-/
import Csqtt.Engine.TurnCore
import Mathlib.Logic.Relation

namespace Csqtt

namespace Inner

/-- Realm, nonce and key are all known. -/
def Credentialed (inner : Inner) : Prop :=
  inner.realm.isSome ∧ inner.nonce.isSome ∧ inner.key.isSome

/-- The state an operation needs for its transaction to be pending. -/
def Permits (inner : Inner) (operation : Operation) : Prop :=
  inner.destroyed = false ∧
    match operation with
    | .allocate => inner.state = .allocating
    | .deallocate => inner.state = .deallocating ∧ inner.shuttingDown = true
    | _ => inner.state = .ready ∧ inner.shuttingDown = false

end Inner

/-- The elementary changes of state. Entering the state in which an allocation is held needs
a permission that only the processing of a granted allocation can give. -/
inductive Move (crypto : StunCrypto) (grant : Prop) : Inner → Inner → Prop where
  | event {inner : Inner} (event : NativeEvent) (real : event.kind ≠ .eventOverflow) :
      Move crypto grant inner (inner.pushEvent event)
  | discard {inner : Inner} (controls : List Control) :
      Move crypto grant inner { inner with controls := controls }
  | begin {inner : Inner} (idle : inner.state = .null) (serving : inner.shuttingDown = false) :
      Move crypto grant inner { inner with state := .allocating }
  | start {inner : Inner} (operation : Operation) (transaction : Transaction) (time : Nat)
      (authenticated : Bool) (nonceRetries : Nat) (packet : List U8)
      (absent : inner.hasOperation operation = false) (permitted : inner.Permits operation)
      (credentialed : authenticated = true → inner.Credentialed)
      (proves : operation ≠ .allocate → authenticated = true)
      (tries : nonceRetries ≤ inner.profile.maxNonceRetries)
      (built : inner.buildRequest crypto operation transaction authenticated = .ok packet) :
      Move crypto grant inner { inner with
        controls := inner.controls ++ [{ packet := packet, destination := inner.server }]
        history := inner.history ++ [.queued (.transmission inner.started time) packet]
        pending := inner.pending ++ [{
          operation := operation
          transaction := transaction
          packet := packet
          nextAttempt := time + inner.transactionTimeout
          rto := initialRto
          transmissions := 1
          nonceRetries := nonceRetries
          authenticated := authenticated
          serial := inner.started }]
        started := inner.started + 1 }
  | again {inner : Inner} (pending : PendingTransaction) (member : pending ∈ inner.pending)
      (channel : pending.operation = .channel) :
      Move crypto grant inner { inner with
        controls := inner.controls ++ [{ packet := pending.packet, destination := inner.server }]
        history := inner.history ++ [.queued .again pending.packet] }
  | keepAlive {inner : Inner} (packet : List U8) (live : inner.destroyed = false)
      (running : inner.shuttingDown = false) :
      Move crypto grant inner { inner with
        controls := inner.controls ++ [{ packet := packet, destination := inner.server }]
        history := inner.history ++ [.queued .keepalive packet] }
  | take {inner : Inner} (index : Nat) :
      Move crypto grant inner { inner with pending := inner.pending.eraseIdx index }
  | timeOut {inner : Inner} (index : Nat) (pending : PendingTransaction) (now : Nat)
      (found : inner.pending[index]? = some pending) (due : pending.nextAttempt ≤ now)
      (last : inner.outOfAttempts pending = true) :
      Move crypto grant inner { inner with
        pending := inner.pending.eraseIdx index
        history := inner.history ++ [.timedOut pending.serial now] }
  | retransmit {inner : Inner} (index : Nat) (pending : PendingTransaction) (now : Nat)
      (found : inner.pending[index]? = some pending) (due : pending.nextAttempt ≤ now)
      (left : inner.outOfAttempts pending = false) :
      Move crypto grant inner { inner with
        controls := inner.controls ++ [{ packet := pending.packet, destination := inner.server }]
        history := inner.history ++ [.queued (.transmission pending.serial now) pending.packet]
        pending := inner.pending.set index (Inner.PendingTransaction.transmitted pending now) }
  | learn {inner : Inner} (realm nonce : List U8)
      (settled : inner.hasOperation .allocate = false) :
      Move crypto grant inner (inner.setAuth crypto realm nonce)
  | schedule {inner : Inner} (channel : Option U16)
      (allocationRefresh maintenanceRefresh permissionRetry channelRetry keepalive : Option Nat)
      (refreshFailures permissionFailures channelFailures : Nat) :
      Move crypto grant inner { inner with
        channel := channel
        allocationRefresh := allocationRefresh
        maintenanceRefresh := maintenanceRefresh
        permissionRetry := permissionRetry
        channelRetry := channelRetry
        keepalive := keepalive
        refreshFailures := refreshFailures
        permissionFailures := permissionFailures
        channelFailures := channelFailures }
  | extend {inner : Inner} (expires : Nat) (ready : inner.state = .ready) :
      Move crypto grant inner { inner with allocationExpiresAt := some expires }
  | destroy {inner : Inner} (state : TurnState)
      (final : state = .deallocated ∨ state = .destroying) :
      Move crypto grant inner { inner with
        pending := []
        allocationExpiresAt := none
        relay := none
        state := state }
  | exhaust {inner : Inner} :
      Move crypto grant inner { inner with
        pending := []
        state := .destroying }
  | granted {inner : Inner} (relay : SocketAddr) (expires : Nat) (allowed : grant)
      (live : inner.destroyed = false) (waiting : inner.state = .allocating)
      (quiet : inner.pending = []) (credentialed : inner.Credentialed) :
      Move crypto grant inner { inner with
        relay := some relay
        allocationExpiresAt := some expires
        state := if inner.shuttingDown then .deallocating else .ready }
  | shutdownHeld {inner : Inner} (held : inner.state = .ready ∨ inner.state = .destroying) :
      Move crypto grant inner { inner with
        shuttingDown := true
        pending := []
        state := .deallocating }
  | shutdownIdle {inner : Inner} (notReady : inner.state ≠ .ready) :
      Move crypto grant inner { inner with
        shuttingDown := true
        pending := [] }
  | shutdownAllocating {inner : Inner} (waiting : inner.state = .allocating) :
      Move crypto grant inner { inner with shuttingDown := true }
  | force {inner : Inner} :
      Move crypto grant inner { inner with
        destroyed := true
        pending := []
        state := .destroying }

def Moves (crypto : StunCrypto) (grant : Prop) : Inner → Inner → Prop :=
  Relation.ReflTransGen (Move crypto grant)

/-!
### The invariant
-/

/-- What holds between the operations, and after each move of one. -/
structure Sound (inner : Inner) : Prop where
  fits : ∀ pending ∈ inner.pending, inner.Permits pending.operation
  single : (inner.pending.map (·.operation)).Nodup
  proven : ∀ pending ∈ inner.pending, pending.authenticated = true → inner.Credentialed
  proves : ∀ pending ∈ inner.pending, pending.operation ≠ .allocate → pending.authenticated = true
  tries : ∀ pending ∈ inner.pending, pending.nonceRetries ≤ inner.profile.maxNonceRetries
  held : inner.state = .ready →
    inner.relay.isSome ∧ inner.allocationExpiresAt.isSome ∧ inner.shuttingDown = false ∧
      inner.destroyed = false
  known : inner.allocationExpiresAt.isSome → inner.Credentialed

section Preservation

variable {crypto : StunCrypto} {grant : Prop} {inner inner' : Inner}

/-- The invariant looks at some fields only. -/
theorem sound_congr (sound : Sound inner) (pending : inner'.pending = inner.pending)
    (state : inner'.state = inner.state)
    (destroyed : inner'.destroyed = inner.destroyed)
    (shuttingDown : inner'.shuttingDown = inner.shuttingDown) (realm : inner'.realm = inner.realm)
    (nonce : inner'.nonce = inner.nonce) (key : inner'.key = inner.key)
    (profile : inner'.profile = inner.profile) (relay : inner'.relay = inner.relay)
    (expires : inner'.allocationExpiresAt = inner.allocationExpiresAt) : Sound inner' := by
  cases sound with
  | mk fits single proven proves tries held known =>
      constructor <;>
        simp only [Inner.Permits, Inner.Credentialed, pending, state, destroyed, shuttingDown,
          realm, nonce, key, profile, relay, expires] at *
      all_goals assumption

/-- With nothing pending, only the allocation is left to describe. -/
theorem sound_idle (idle : inner.pending = [])
    (held : inner.state = .ready →
      inner.relay.isSome ∧ inner.allocationExpiresAt.isSome ∧ inner.shuttingDown = false ∧
        inner.destroyed = false)
    (known : inner.allocationExpiresAt.isSome → inner.Credentialed) : Sound inner := by
  constructor
  case held => exact held
  case known => exact known
  all_goals simp [idle]

theorem permits_of_hasOperation {operation : Operation}
    (absent : inner.hasOperation operation = false) {pending : PendingTransaction}
    (member : pending ∈ inner.pending) : pending.operation ≠ operation := by
  simp only [Inner.hasOperation, List.any_eq_false, decide_eq_true_eq] at absent
  exact absent pending member

/-- Starting a transaction adds one entry, of a kind not yet pending. -/
theorem sound_start (sound : Sound inner) (pending : PendingTransaction)
    (absent : inner.hasOperation pending.operation = false)
    (permitted : inner.Permits pending.operation)
    (credentialed : pending.authenticated = true → inner.Credentialed)
    (proves : pending.operation ≠ .allocate → pending.authenticated = true)
    (tries : pending.nonceRetries ≤ inner.profile.maxNonceRetries) :
    Sound { inner with pending := inner.pending ++ [pending] } := by
  have extended {property : PendingTransaction → Prop}
      (before : ∀ other ∈ inner.pending, property other)
      (new : property pending) : ∀ other ∈ inner.pending ++ [pending], property other := by
    intro other member
    rcases List.mem_append.mp member with old | last
    · exact before other old
    · rw [List.mem_singleton.mp last]
      exact new
  constructor
  case fits => exact extended sound.fits permitted
  case proven => exact extended sound.proven credentialed
  case proves => exact extended sound.proves proves
  case tries => exact extended sound.tries tries
  case held => exact sound.held
  case known => exact sound.known
  case single =>
    rw [List.map_append, List.nodup_append]
    refine ⟨sound.single, by simp, ?_⟩
    intro operation before last after
    rcases List.mem_map.mp before with ⟨other, member, rfl⟩
    rw [List.map_singleton, List.mem_singleton] at after
    rw [after]
    exact permits_of_hasOperation absent member

/-- Giving up a transaction leaves the others as they were. -/
theorem sound_eraseIdx (sound : Sound inner) (index : Nat) :
    Sound { inner with pending := inner.pending.eraseIdx index } := by
  have remaining {property : PendingTransaction → Prop}
      (before : ∀ other ∈ inner.pending, property other) :
      ∀ other ∈ inner.pending.eraseIdx index, property other :=
    fun other member => before other (List.mem_of_mem_eraseIdx member)
  constructor
  case fits => exact remaining sound.fits
  case proven => exact remaining sound.proven
  case proves => exact remaining sound.proves
  case tries => exact remaining sound.tries
  case held => exact sound.held
  case known => exact sound.known
  case single => exact sound.single.sublist ((List.eraseIdx_sublist _ _).map _)

theorem map_operation_set {pending : PendingTransaction} {index : Nat} {now : Nat}
    (found : inner.pending[index]? = some pending) :
    (inner.pending.set index (Inner.PendingTransaction.transmitted pending now)).map (·.operation) =
      inner.pending.map (·.operation) := by
  apply List.ext_getElem?
  intro other
  rw [List.getElem?_map, List.getElem?_map, List.getElem?_set]
  split
  · next same =>
      subst same
      split
      · rw [found]
        rfl
      · next outside =>
          rw [List.getElem?_eq_none (Nat.le_of_not_lt outside)]
  · rfl

/-- Transmitting again changes neither the kind nor the rights of a transaction. -/
theorem sound_set (sound : Sound inner) {index : Nat} {pending : PendingTransaction} (now : Nat)
    (found : inner.pending[index]? = some pending) :
    Sound { inner with
      pending := inner.pending.set index (Inner.PendingTransaction.transmitted pending now) } := by
  have member : pending ∈ inner.pending := List.mem_of_getElem? found
  have updated {property : PendingTransaction → Prop}
      (before : ∀ other ∈ inner.pending, property other)
      (new : property (Inner.PendingTransaction.transmitted pending now)) :
      ∀ other ∈ inner.pending.set index (Inner.PendingTransaction.transmitted pending now),
        property other := by
    intro other inside
    rcases List.mem_or_eq_of_mem_set inside with old | rfl
    · exact before other old
    · exact new
  constructor
  case fits => exact updated sound.fits (sound.fits pending member)
  case proven => exact updated sound.proven (sound.proven pending member)
  case proves => exact updated sound.proves (sound.proves pending member)
  case tries => exact updated sound.tries (sound.tries pending member)
  case held => exact sound.held
  case known => exact sound.known
  case single =>
    rw [map_operation_set found]
    exact sound.single

/-- Every move keeps the invariant. -/
theorem sound_move (move : Move crypto grant inner inner') (sound : Sound inner) :
    Sound inner' := by
  cases move with
  | event event real => exact sound_congr sound rfl rfl rfl rfl rfl rfl rfl rfl rfl rfl
  | discard controls => exact sound_congr sound rfl rfl rfl rfl rfl rfl rfl rfl rfl rfl
  | begin idle serving =>
      -- Nothing may be pending in the initial state, so the new state fits everything.
      have none : inner.pending = [] := by
        apply List.eq_nil_iff_forall_not_mem.mpr
        intro pending member
        have fits := sound.fits pending member
        cases operation : pending.operation <;> simp_all [Inner.Permits]
      exact sound_idle none (fun impossible => by cases impossible) sound.known
  | start operation transaction time authenticated nonceRetries packet absent permitted
      credentialed proves tries built =>
      have started := sound_start sound {
          operation := operation
          transaction := transaction
          packet := packet
          nextAttempt := time + inner.transactionTimeout
          rto := initialRto
          transmissions := 1
          nonceRetries := nonceRetries
          authenticated := authenticated
          serial := inner.started } absent permitted credentialed proves tries
      exact sound_congr started rfl rfl rfl rfl rfl rfl rfl rfl rfl rfl
  | again pending member channel =>
      exact sound_congr sound rfl rfl rfl rfl rfl rfl rfl rfl rfl rfl
  | keepAlive packet live running =>
      exact sound_congr sound rfl rfl rfl rfl rfl rfl rfl rfl rfl rfl
  | take index => exact sound_eraseIdx sound index
  | timeOut index pending now found due last =>
      exact sound_congr (sound_eraseIdx sound index) rfl rfl rfl rfl rfl rfl rfl rfl rfl rfl
  | retransmit index pending now found due left =>
      exact sound_congr (sound_set sound now found) rfl rfl rfl rfl rfl rfl rfl rfl rfl rfl
  | learn realm nonce settled =>
      have known : Inner.Credentialed (inner.setAuth crypto realm nonce) := ⟨rfl, rfl, rfl⟩
      exact ⟨sound.fits, sound.single, fun _ _ _ => known, sound.proves, sound.tries, sound.held,
        fun _ => known⟩
  | schedule channel allocationRefresh maintenanceRefresh permissionRetry channelRetry keepalive
      refreshFailures permissionFailures channelFailures =>
      exact sound_congr sound rfl rfl rfl rfl rfl rfl rfl rfl rfl rfl
  | extend expires ready =>
      have before := sound.held ready
      exact ⟨sound.fits, sound.single, sound.proven, sound.proves, sound.tries,
        fun _ => ⟨before.1, rfl, before.2.2⟩, fun _ => sound.known before.2.1⟩
  | destroy state final =>
      apply sound_idle rfl
      · rintro rfl
        rcases final with impossible | impossible <;> cases impossible
      · intro impossible
        cases impossible
  | exhaust => exact sound_idle rfl (fun impossible => by cases impossible) sound.known
  | granted relay expires allowed live waiting quiet credentialed =>
      apply sound_idle
      · exact quiet
      · intro entered
        cases running : inner.shuttingDown with
        | true => simp [running] at entered
        | false => exact ⟨rfl, rfl, rfl, live⟩
      · exact fun _ => credentialed
  | shutdownHeld held =>
      exact sound_idle rfl (fun impossible => by cases impossible) sound.known
  | shutdownIdle notReady =>
      exact sound_idle rfl (fun ready => absurd ready notReady) sound.known
  | shutdownAllocating waiting =>
      have notReady : inner.state ≠ .ready := by simp [waiting]
      refine ⟨?_, sound.single, sound.proven, sound.proves, sound.tries,
        fun ready => absurd ready notReady, sound.known⟩
      intro pending member
      have fits := sound.fits pending member
      cases operation : pending.operation <;> simp_all [Inner.Permits]
  | force => exact sound_idle rfl (fun impossible => by cases impossible) sound.known

theorem sound_moves (moves : Moves crypto grant inner inner') (sound : Sound inner) :
    Sound inner' := by
  induction moves with
  | refl => exact sound
  | tail _ move inductionHypothesis => exact sound_move move inductionHypothesis

end Preservation

end Csqtt
