/-
Module: Csqtt.Proofs.TurnLease
Purpose: What the relay server still holds for the client, told from what the client
  processed, and when a shutdown gives it up.
Trusted boundary: none
Main exports: processed, leaseStep, Held, Keeps, LeakFree, KeepsTrack, allocation_released_iff
-/
import Csqtt.Proofs.TurnIntegrity

namespace Csqtt

open Tlv Inner

/-!
### The lease

The server's side of an allocation, as far as the responses tell: until when it lasts.
-/

/-- The response that an input is processed as, with the transaction it answers. -/
def processed (crypto : StunCrypto) (inner : Inner) (packet : List U8) :
    Option (Message × PendingTransaction) :=
  match Message.decode packet with
  | .error _ => none
  | .ok message =>
      if ¬(message.class = .success ∨ message.class = .error) then none
      else if message.fingerprintValid crypto.crc32 = some false then none
      else
        match (inner.answered message).bind (inner.pending[·]?) with
        | none => none
        | some pending =>
            if inner.unverified crypto message pending then none else some (message, pending)

/-- What a response says about the lease. -/
def leaseAfterResponse (inner : Inner) (lease : Option Nat) (now : Nat) (message : Message)
    (pending : PendingTransaction) : Option Nat :=
  match message.class with
  | .success =>
      let returned := attributeU32 message attrLifetime
      match pending.operation with
      | .allocate =>
          match inner.grantOf message with
          | .error _ => lease
          | .ok granted =>
              if pending.authenticated then some (now + seconds granted.2.toNat) else lease
      | .refresh =>
          let lifetime := returned.getD requestedAllocationLifetimeSecs
          if lifetime = 0 then lease else lease.map fun _ => now + seconds lifetime.toNat
      | .deallocate => if returned.getD 0 ≠ 0 then lease else none
      | .permission => lease
      | .channel => lease
  | _ => if errorCode message = some 437 then none else lease

/-- The lease after a call: granted, extended, given up or reported gone by a response, aged
by a suspend, and over once its time has come. -/
def leaseStep (crypto : StunCrypto) (inner : Inner) (lease : Option Nat) (call : Call) :
    Option Nat :=
  let told :=
    match call.action with
    | .inputStun packet =>
        match processed crypto inner packet with
        | none => lease
        | some response => leaseAfterResponse inner lease call.now response.1 response.2
    | .resyncAfterSuspend gap => lease.map (· - gap)
    | _ => lease
  told.filter (call.now < ·)

/-- A call, with the lease kept along. -/
def leasedStep (crypto : StunCrypto) (state : Inner × Option Nat) (call : Call) :
    (Inner × Option Nat) × Reply :=
  let result := state.1.step crypto call
  ((result.1, leaseStep crypto state.1 state.2 call), result.2)

/-- A shutdown releases the lease, if there is one; and a grant that arrives while shutting
down is released at once. -/
structure LeakFree (crypto : StunCrypto) (inner : Inner) (lease : Option Nat) : Prop where
  shutdown : inner.destroyed = false → inner.shuttingDown = false → lease.isSome →
    ∀ draw, Releases (inner.gracefulShutdown crypto draw).1
  late : inner.shuttingDown = true → ∀ now draw packet message pending granted,
    processed crypto inner packet = some (message, pending) → message.class = .success →
    pending.operation = .allocate → pending.authenticated = true →
    inner.grantOf message = .ok granted → Releases (inner.inputStun crypto now draw packet).1

/-- An error response that neither refuses a ChannelBind with the code 400 nor brings
credentials that leave no room for the request that gives the allocation up. -/
def Spares (crypto : StunCrypto) (inner : Inner) (message : Message)
    (pending : PendingTransaction) : Prop :=
  ¬(pending.operation = .channel ∧ errorCode message = some 400) ∧
    ∀ credentials,
      inner.retryCredentials message ((errorCode message).getD 0) pending = some credentials →
      Affords (inner.setAuth crypto credentials.1 credentials.2)

/-- While there is a lease that the client may have to release, every error response spares
what it knows. -/
def KeepsTrack (crypto : StunCrypto) (state : Inner × Option Nat) (call : Call) : Prop :=
  state.1.destroyed = false → state.1.shuttingDown = false →
  (leaseStep crypto state.1 state.2 call).isSome →
  ∀ packet message pending, call.action = .inputStun packet →
    processed crypto state.1 packet = some (message, pending) → message.class = .error →
    Spares crypto state.1 message pending

/-!
### What the client knows
-/

/-- The client knows of a lease: it holds the allocation at least as long, or it still has
its expiry after giving up on the channel. -/
def Held (lease : Nat) (inner : Inner) : Prop :=
  (inner.state = .ready ∧ ∃ expires, inner.allocationExpiresAt = some expires ∧ lease ≤ expires) ∨
    (inner.state = .destroying ∧ inner.allocationExpiresAt.isSome)

/-- What the knowledge of a lease and the means to release it depend on. -/
def Inner.standing (inner : Inner) :
    (TurnState × Option Nat) × (Bool × Bool) × List Record × Option (List U8) :=
  ((inner.state, inner.allocationExpiresAt), (inner.destroyed, inner.shuttingDown),
    credentialRecords inner, inner.key)

/-- From one state to a later one, at some time, no lease that still runs is forgotten. -/
structure Keeps (now : Nat) (inner inner' : Inner) : Prop where
  destroyed : inner'.destroyed = inner.destroyed
  shuttingDown : inner'.shuttingDown = inner.shuttingDown
  credentials : credentialRecords inner' = credentialRecords inner
  key : inner'.key = inner.key
  held : ∀ lease, now < lease → Held lease inner → Held lease inner'

section Keeping

variable {crypto : StunCrypto} {now : Nat} {inner inner' inner'' : Inner}

theorem Keeps.refl : Keeps now inner inner :=
  ⟨rfl, rfl, rfl, rfl, fun _ _ => id⟩

theorem Keeps.trans (first : Keeps now inner inner') (second : Keeps now inner' inner'') :
    Keeps now inner inner'' :=
  ⟨second.destroyed.trans first.destroyed, second.shuttingDown.trans first.shuttingDown,
    second.credentials.trans first.credentials, second.key.trans first.key,
    fun lease runs held => second.held lease runs (first.held lease runs held)⟩

theorem keeps_of_standing (same : inner'.standing = inner.standing) : Keeps now inner inner' := by
  simp only [Inner.standing, Prod.mk.injEq] at same
  rcases same with ⟨⟨state, expires⟩, ⟨destroyed, shuttingDown⟩, credentials, key⟩
  refine ⟨destroyed, shuttingDown, credentials, key, ?_⟩
  intro lease runs held
  rw [Held, state, expires]
  exact held

theorem affords_of_keeps (keeps : Keeps now inner inner') : Affords inner' ↔ Affords inner := by
  rw [Affords, Affords, keeps.credentials, keeps.key]

theorem standing_queuePacket (cause : Cause) (packet : List U8) :
    (inner.queuePacket cause packet).standing = inner.standing := by
  rcases dropOldestControl_same inner with ⟨controls, events, history, same⟩
  simp only [queuePacket, same]
  rfl

theorem standing_startOperation (draw : Draw) (operation : Operation) (authenticated : Bool)
    (nonceRetries : Nat) :
    (inner.startOperation crypto draw operation authenticated nonceRetries).1.standing =
      inner.standing := by
  rcases @startOperation_same crypto draw operation authenticated nonceRetries inner with
    ⟨controls, events, history, pending, started, same⟩
  rw [same]
  rfl

theorem standing_scheduleMaintenanceRetry (operation : Operation) (now : Nat) :
    (inner.scheduleMaintenanceRetry operation now).1.standing = inner.standing := by
  cases operation with
  | channel =>
      unfold scheduleMaintenanceRetry
      simp only
      split <;> rfl
  | _ => rfl

theorem keeps_destroyAfterChannelRebindExhausted :
    Keeps now inner inner.destroyAfterChannelRebindExhausted := by
  rcases destroyAfterChannelRebindExhausted_same inner with ⟨events, history, same⟩
  rw [same]
  refine ⟨rfl, rfl, rfl, rfl, ?_⟩
  intro lease runs held
  right
  refine ⟨rfl, ?_⟩
  -- The expiry stays, so that a later shutdown can tell what to release.
  rcases held with ⟨-, expires, known, -⟩ | ⟨-, known⟩
  · exact Option.isSome_iff_exists.mpr ⟨expires, known⟩
  · exact known

/-- Who holds an allocation that a transaction may be pending for has its expiry ahead. -/
theorem held_of_permits {lease : Nat} {operation : Operation} (runs : now < lease)
    (held : Held lease inner) (permitted : inner.Permits operation) :
    inner.keepsAllocation operation now = true := by
  have ahead : inner.state = .ready → inner.allocationExpiresAt.any (now < ·) = true := by
    intro ready
    rcases held with ⟨-, expires, known, later⟩ | ⟨gone, -⟩
    · rw [known]
      exact decide_eq_true (Nat.lt_of_lt_of_le runs later)
    · rw [ready] at gone
      cases gone
  have state : inner.state = .ready ∨ inner.state = .destroying :=
    held.imp And.left And.left
  cases operation with
  | allocate =>
      rw [show inner.state = .allocating from permitted.2] at state
      simp at state
  | deallocate =>
      rw [show inner.state = .deallocating from permitted.2.1] at state
      simp at state
  | refresh => simpa [keepsAllocation, permitted.2.1] using ahead permitted.2.1
  | permission => simpa [keepsAllocation, permitted.2.1] using ahead permitted.2.1
  | channel => simpa [keepsAllocation, permitted.2.1] using ahead permitted.2.1

/-- Giving the allocation up forgets nothing that is still held. -/
theorem keeps_destroyAllocation (operation : Operation) (status : Int) (stunCode : Nat)
    (ended : ∀ lease, now < lease → ¬Held lease inner) :
    Keeps now inner (inner.destroyAllocation operation status stunCode) := by
  rcases destroyAllocation_same operation status stunCode inner with
    ⟨events, history, state, -, same⟩
  rw [same]
  exact ⟨rfl, rfl, rfl, rfl, fun lease runs held => absurd held (ended lease runs)⟩

/-- A failure forgets no lease that still runs. -/
theorem keeps_completeFailure {operation : Operation} (permitted : inner.Permits operation)
    (status : Int) (stunCode : Nat) :
    Keeps now inner (inner.completeFailure operation status stunCode now) := by
  unfold completeFailure
  split
  · have scheduled : Keeps now inner
        ((inner.complete operation status stunCode).scheduleMaintenanceRetry operation now).1 :=
      keeps_of_standing (standing_scheduleMaintenanceRetry operation now)
    simp only
    split
    · exact scheduled
    · exact scheduled.trans keeps_destroyAfterChannelRebindExhausted
  · next released =>
      apply keeps_destroyAllocation
      intro lease runs held
      exact absurd (held_of_permits runs held permitted) released

theorem keeps_timeOut (sound : Sound inner) {index : Nat} {pending : PendingTransaction}
    (found : inner.pending[index]? = some pending) :
    Keeps now inner (inner.timeOut index pending now) := by
  have permitted := sound.fits pending (List.mem_of_getElem? found)
  have taken : Keeps now inner (({ inner with
      pending := inner.pending.eraseIdx index
      history := inner.history ++ [.timedOut pending.serial now] } :
        Inner).removeQueuedTransaction pending.transaction) := keeps_of_standing rfl
  apply taken.trans
  apply keeps_completeFailure
  exact permitted

theorem keeps_retransmit (index : Nat) (pending : PendingTransaction) :
    Keeps now inner (inner.retransmit index pending now) := by
  apply keeps_of_standing
  exact standing_queuePacket (.transmission pending.serial now) pending.packet

theorem keeps_expireLoop (crypto : StunCrypto) (fuel index : Nat) (sound : Sound inner) :
    Keeps now inner (expireLoop now fuel index inner).2 := by
  induction fuel generalizing index inner with
  | zero => exact .refl
  | succ fuel inductionHypothesis =>
      unfold expireLoop
      split
      · exact .refl
      · next pending found =>
          split
          · exact inductionHypothesis (index + 1) sound
          · next due =>
              have reached := Nat.le_of_not_lt due
              split
              · next last =>
                  have moves : Moves crypto False inner _ := moves_timeOut found reached last
                  exact (keeps_timeOut sound found).trans
                    (inductionHypothesis index (sound_moves moves sound))
              · next left =>
                  have moves : Moves crypto False inner _ :=
                    moves_retransmit found reached (Bool.eq_false_of_not_eq_true left)
                  exact (keeps_retransmit index pending).trans
                    (inductionHypothesis (index + 1) (sound_moves moves sound))

theorem keeps_expireAllocation : Keeps now inner (inner.expireAllocation now) := by
  unfold expireAllocation
  split
  · next expired =>
      apply keeps_destroyAllocation
      intro lease runs held
      rcases held with ⟨-, expires, known, later⟩ | ⟨gone, -⟩
      · have due := expired.2.2
        rw [known] at due
        have passed : expires ≤ now := of_decide_eq_true due
        omega
      · rw [expired.2.1] at gone
        cases gone
  · exact .refl

theorem standing_startDue (draw : Operation → Draw) (operation : Operation) (due : Bool)
    {clear : Inner → Inner} (cleared : (clear inner).standing = inner.standing) :
    (inner.startDue crypto draw operation due clear).1.standing = inner.standing := by
  unfold startDue
  split
  · exact (standing_startOperation _ _ _ _).trans cleared
  · rfl

theorem standing_andThen {result : Inner × Except String Unit}
    {next : Inner → Inner × Except String Unit} (first : result.1.standing = inner.standing)
    (second : ∀ middle : Inner, (next middle).1.standing = middle.standing) :
    (andThen result next).1.standing = inner.standing := by
  unfold andThen
  split
  · exact first
  · exact (second result.1).trans first

theorem standing_rearmMaintenance (due : Bool) :
    (inner.rearmMaintenance due now).standing = inner.standing := by
  unfold rearmMaintenance
  split <;> rfl

theorem standing_keepPathAlive : (inner.keepPathAlive now).standing = inner.standing := by
  unfold keepPathAlive queueKeepalive
  split
  · split
    · rfl
    · exact standing_queuePacket .keepalive _
  · rfl

theorem standing_maintain (draw : Operation → Draw) :
    (inner.maintain crypto now draw).1.standing = inner.standing := by
  unfold maintain
  apply standing_andThen
  · exact standing_startDue draw _ _ rfl
  · intro refreshed
    apply standing_andThen
    · exact (standing_startDue draw _ _ rfl).trans (standing_rearmMaintenance _)
    · intro permitted
      apply standing_andThen
      · exact standing_startDue draw _ _ rfl
      · exact fun bound => standing_keepPathAlive

/-- A poll forgets no lease that still runs. -/
theorem keeps_poll (sound : Sound inner) (draw : Operation → Draw) :
    Keeps now inner (inner.poll crypto now draw).1 := by
  unfold poll
  split
  · exact .refl
  · have expired : Keeps now inner ((inner.expireTransactions now).expireAllocation now) :=
      (keeps_expireLoop crypto inner.pending.length 0 sound).trans
        keeps_expireAllocation
    have maintained : Keeps now inner
        (if ((inner.expireTransactions now).expireAllocation now).shuttingDown = false ∧
            ((inner.expireTransactions now).expireAllocation now).state = .ready then
          ((inner.expireTransactions now).expireAllocation now).maintain crypto now draw
        else ((inner.expireTransactions now).expireAllocation now, .ok ())).1 := by
      split
      · exact expired.trans (keeps_of_standing (standing_maintain draw))
      · exact expired
    simp only
    split <;> exact maintained

theorem keeps_rejectUnverified (operation : Operation) (message : Message) :
    Keeps now inner (inner.rejectUnverified operation message) := by
  unfold rejectUnverified
  split
  · exact keeps_of_standing rfl
  · exact .refl

/-- An input that is not processed as a response forgets nothing; otherwise it does what the
answer to its transaction does. -/
theorem inputStun_processed (draw : Operation → Draw) (packet : List U8) :
    (processed crypto inner packet = none ∧
      Keeps now inner (inner.inputStun crypto now draw packet).1) ∨
    ∃ message index pending, processed crypto inner packet = some (message, pending) ∧
      (message.class = .success ∨ message.class = .error) ∧
      inner.pending[index]? = some pending ∧ inner.unverified crypto message pending = false ∧
      inner.inputStun crypto now draw packet =
        inner.answer crypto now draw message index pending := by
  cases decoded : Message.decode packet with
  | error reason =>
      left
      simp only [inputStun, processed, decoded]
      exact ⟨trivial, .refl⟩
  | ok message =>
      by_cases responds : message.class = .success ∨ message.class = .error
      · by_cases invalid : message.fingerprintValid crypto.crc32 = some false
        · left
          simp only [inputStun, processed, decoded, responds, not_true, if_false, invalid, if_true]
          exact ⟨trivial, .refl⟩
        · simp only [inputStun, processed, decoded, responds, not_true, if_false, invalid]
          cases answered : inner.answered message with
          | none => exact Or.inl ⟨rfl, .refl⟩
          | some index =>
              simp only [Option.bind_some]
              cases found : inner.pending[index]? with
              | none => exact Or.inl ⟨rfl, .refl⟩
              | some pending =>
                  cases refused : inner.unverified crypto message pending with
                  | true =>
                      left
                      simp only [answer, refused, if_true]
                      exact ⟨trivial, keeps_rejectUnverified pending.operation message⟩
                  | false =>
                      right
                      exact
                        ⟨message, index, pending, by simp [refused], responds, found, refused, rfl⟩
      · left
        simp only [inputStun, processed, decoded, responds, not_false_eq_true, if_true]
        exact ⟨trivial, .refl⟩

/-!
### Shutdown
-/

/-- The client can tell that it holds an allocation, and can release it. -/
def Known (inner : Inner) : Prop :=
  (inner.state = .ready ∨ (inner.state = .destroying ∧ inner.allocationExpiresAt.isSome)) ∧
    Affords inner

theorem known_of_held {lease : Nat} (held : Held lease inner) (affords : Affords inner) :
    Known inner :=
  ⟨held.imp_left And.left, affords⟩

theorem not_releases_of_empty (empty : inner.controls = []) : ¬Releases inner := by
  rintro ⟨control, member, -⟩
  rw [empty] at member
  cases member

/-- The request that gives an allocation up is queued exactly if it fits. -/
theorem startOperation_releases (idle : inner.pending = []) (empty : inner.controls = [])
    (credentialed : inner.Credentialed) (draw : Draw) :
    Releases (inner.startOperation crypto draw .deallocate true 0).1 ↔ Affords inner := by
  constructor
  · intro releases
    have absent : inner.hasOperation .deallocate = false := by
      rw [hasOperation, idle]
      rfl
    unfold startOperation at releases
    simp only [absent, Bool.false_eq_true, if_false] at releases
    split at releases
    · exact absurd releases (not_releases_of_empty empty)
    · split at releases
      · exact absurd releases (not_releases_of_empty empty)
      · next packet built => exact affords_of_buildRequest built
  · exact fun affords => (startOperation_deallocate idle credentialed affords draw).2

theorem gracefulShutdown_releases (sound : Sound inner) (live : inner.destroyed = false)
    (serving : inner.shuttingDown = false) (draw : Operation → Draw) :
    Releases (inner.gracefulShutdown crypto draw).1 ↔ Known inner := by
  have running : ¬(inner.destroyed = true ∨ inner.shuttingDown = true) := by simp [live, serving]
  unfold gracefulShutdown
  simp only [running, if_false]
  by_cases held : inner.state = .ready ∨
      (inner.state = .destroying ∧ inner.allocationExpiresAt.isSome)
  · have here : inner.beginShutdown.state = .ready ∨
        (inner.beginShutdown.state = .destroying ∧ inner.beginShutdown.allocationExpiresAt.isSome) :=
      held
    have credentialed : inner.Credentialed := by
      rcases held with ready | gone
      · exact sound.known (sound.held ready).2.1
      · exact sound.known gone.2
    have known : Known inner ↔ Affords inner := and_iff_right held
    simp only [here, if_true]
    rcases setState_same { inner.beginShutdown with pending := [] } .deallocating with
      ⟨events, history, final⟩
    rw [final, known]
    apply startOperation_releases
    · rfl
    · rfl
    · exact credentialed
  · have here : ¬(inner.beginShutdown.state = .ready ∨
        (inner.beginShutdown.state = .destroying ∧
          inner.beginShutdown.allocationExpiresAt.isSome)) := held
    simp only [here, if_false]
    constructor
    · intro releases
      split at releases
      · exact absurd releases (not_releases_of_empty rfl)
      · exact absurd releases (not_releases_of_empty rfl)
    · exact fun known => absurd known.1 held

end Keeping

/-!
### Responses
-/

section Responses

variable {crypto : StunCrypto} {now : Nat} {inner inner' : Inner} {lease : Option Nat}
  {message : Message} {pending : PendingTransaction} {draw : Operation → Draw}

/-- While it serves, the client knows of the lease and can release it. -/
def Tracks (inner : Inner) (lease : Option Nat) : Prop :=
  inner.destroyed = false → inner.shuttingDown = false → ∀ limit, lease = some limit →
    Held limit inner ∧ Affords inner

theorem tracks_of_keeps (keeps : Keeps now inner inner') (tracks : Tracks inner lease) :
    Tracks inner' (lease.filter (now < ·)) := by
  intro live serving limit left
  rcases Option.filter_eq_some_iff.mp left with ⟨leased, runs⟩
  have before := tracks (keeps.destroyed.symm.trans live) (keeps.shuttingDown.symm.trans serving)
    limit leased
  exact ⟨keeps.held limit (of_decide_eq_true runs) before.1,
    (affords_of_keeps keeps).mpr before.2⟩

/-- What an error response leaves: the allocation given up for good, or everything known that
was known, with the credentials of the response if it is answered by another try. -/
theorem answerError_cases (permitted : inner.Permits pending.operation) :
    let final := inner.answerError crypto now draw message pending
    let code := (errorCode message).getD 0
    (requiresAllocationRecreate pending.operation code = true ∧
      final.destroyed = inner.destroyed ∧ final.shuttingDown = inner.shuttingDown ∧
      final.allocationExpiresAt = none ∧ final.state ≠ .ready) ∨
    (requiresAllocationRecreate pending.operation code = false ∧
      ((inner.retryCredentials message code pending = none ∧ Keeps now inner final) ∨
        ∃ credentials, inner.retryCredentials message code pending = some credentials ∧
          Keeps now (inner.setAuth crypto credentials.1 credentials.2) final)) := by
  intro final code
  have reported {inner : Inner} (permitted : inner.Permits pending.operation) (status : Int)
      (number : Nat) (state : TurnState) :
      Keeps now inner ((inner.pushResponseError pending.operation status number
        state).completeFailure pending.operation resultProtocol number now) := by
    have pushed : Keeps now inner (inner.pushResponseError pending.operation status number state) :=
      keeps_of_standing rfl
    apply pushed.trans
    apply keeps_completeFailure
    exact permitted
  have same : final = inner.answerError crypto now draw message pending := rfl
  unfold answerError at same
  simp only at same
  split at same
  · next zero =>
      right
      have none_ : code = 0 := zero
      rw [none_, same]
      refine ⟨by simp [requiresAllocationRecreate], Or.inl ⟨?_, reported permitted _ _ _⟩⟩
      simp [retryCredentials]
  · cases recreate : requiresAllocationRecreate pending.operation code with
    | true =>
        left
        rw [if_pos recreate] at same
        rcases destroyAllocation_same pending.operation resultProtocol code
          (inner.pushResponseError pending.operation 0 code inner.state) with
          ⟨events, history, state, notReady, shape⟩
        rw [same, shape]
        exact ⟨rfl, rfl, rfl, rfl, notReady⟩
    | false =>
        right
        rw [if_neg (by rw [recreate]; exact Bool.false_ne_true)] at same
        refine ⟨rfl, ?_⟩
        cases retry : inner.retryCredentials message code pending with
        | none =>
            left
            rw [same, show inner.retryCredentials message ((errorCode message).getD 0) pending = none
              from retry]
            exact ⟨rfl, reported permitted _ _ _⟩
        | some credentials =>
            right
            refine ⟨credentials, rfl, ?_⟩
            rw [same, show inner.retryCredentials message ((errorCode message).getD 0) pending =
              some credentials from retry]
            simp only
            have started : Keeps now (inner.setAuth crypto credentials.1 credentials.2) _ :=
              keeps_of_standing (@standing_startOperation crypto
                (inner.setAuth crypto credentials.1 credentials.2) (draw pending.operation)
                pending.operation true (pending.nonceRetries + 1))
            split
            · exact started
            · apply started.trans
              apply reported
              rcases @startOperation_same crypto (draw pending.operation) pending.operation true
                (pending.nonceRetries + 1) (inner.setAuth crypto credentials.1 credentials.2) with
                ⟨controls, events, history, pendings, number, shape⟩
              rw [shape]
              exact permitted

/-- A success response is tracked. -/
theorem tracks_answerSuccess (idle : pending.operation = .allocate → inner.pending = [])
    (permitted : inner.Permits pending.operation) (credentialed : inner.Credentialed)
    (affords : pending.operation = .allocate → Affords inner)
    (success : message.class = .success) (authenticated : pending.authenticated = true)
    (tracks : Tracks inner lease) :
    Tracks (inner.answerSuccess crypto now draw message pending).1
      ((leaseAfterResponse inner lease now message pending).filter (now < ·)) := by
  have failed (operation : Operation) (same : pending.operation = operation) :
      Tracks (inner.completeFailure operation resultProtocol 0 now) (lease.filter (now < ·)) :=
    tracks_of_keeps (keeps_completeFailure (same ▸ permitted) resultProtocol 0) tracks
  cases operation : pending.operation with
  | allocate =>
      rw [operation] at permitted
      cases usable : inner.grantOf message with
      | error reason =>
          simp only [answerSuccess, operation, completeSuccess_error usable, leaseAfterResponse,
            success, usable]
          exact failed .allocate operation
      | ok granted =>
          have completed := @completeSuccess_allocate crypto inner (idle operation) credentialed
            (affords operation) message granted usable (draw .deallocate) now
          simp only [answerSuccess, operation, completed.1, leaseAfterResponse, success, usable,
            authenticated, if_true]
          intro live serving limit left
          rcases Option.filter_eq_some_iff.mp left with ⟨leased, runs⟩
          rw [← Option.some.inj leased]
          have before : inner.shuttingDown = false := completed.2.shuttingDown.symm.trans serving
          refine ⟨Or.inl ⟨completed.2.ready before, _, completed.2.expires, Nat.le_refl _⟩, ?_⟩
          have room := affords operation
          rwa [Affords, ← completed.2.credentials, ← completed.2.key] at room
  | refresh =>
      rw [operation] at permitted
      by_cases zero : (attributeU32 message attrLifetime).getD requestedAllocationLifetimeSecs = 0
      · simp only [answerSuccess, operation, completeSuccess, zero, if_true, leaseAfterResponse,
          success]
        exact failed .refresh operation
      · simp only [answerSuccess, operation, completeSuccess, zero, if_false, leaseAfterResponse,
          success]
        intro live serving limit left
        rcases Option.filter_eq_some_iff.mp left with ⟨extended, runs⟩
        rcases Option.map_eq_some_iff.mp extended with ⟨former, leased, rfl⟩
        have before := tracks live serving former leased
        exact ⟨Or.inl ⟨permitted.2.1, _, rfl, Nat.le_refl _⟩, before.2⟩
  | deallocate =>
      rw [operation] at permitted
      by_cases zero : (attributeU32 message attrLifetime).getD 0 = 0
      · simp only [answerSuccess, operation, completeSuccess, zero, ne_eq, not_true, if_false,
          leaseAfterResponse, success]
        exact fun live serving limit left => by cases left
      · simp only [answerSuccess, operation, completeSuccess, zero, ne_eq, not_false_eq_true,
          if_true, leaseAfterResponse, success]
        exact failed .deallocate operation
  | permission =>
      simp only [answerSuccess, operation, completeSuccess, leaseAfterResponse, success]
      exact tracks_of_keeps (keeps_of_standing rfl) tracks
  | channel =>
      simp only [answerSuccess, operation, completeSuccess, leaseAfterResponse, success]
      exact tracks_of_keeps (keeps_of_standing rfl) tracks

end Responses

/-!
### Steps
-/

section Steps

variable {crypto : StunCrypto} {inner inner' : Inner} {lease : Option Nat} {call : Call}

/-- A client in use holds its allocation at least as long as the lease. -/
def Covers (inner : Inner) (lease : Option Nat) : Prop :=
  ∀ limit, lease = some limit → inner.state = .ready → Held limit inner

theorem covers_of_tracks (sound : Sound inner) (tracks : Tracks inner lease) :
    Covers inner lease := by
  intro limit leased ready
  have held := sound.held ready
  exact (tracks held.2.2.2 held.2.2.1 limit leased).1

/-- The lease stays tracked exactly under a condition. -/
def TrackedIf (inner' : Inner) (lease' : Option Nat) (condition : Prop) : Prop :=
  (Tracks inner' lease' ∧ condition) ∨ (¬Tracks inner' lease' ∧ ¬condition ∧ Covers inner' lease')

/-- Nothing is left to keep track of. -/
theorem trackedIf_vacuous {lease' : Option Nat} {condition : Prop}
    (gone : inner'.destroyed = inner.destroyed)
    (closing : inner'.shuttingDown = inner.shuttingDown)
    (idle : ¬(inner.destroyed = false ∧ inner.shuttingDown = false ∧ lease'.isSome)) :
    TrackedIf inner' lease'
      (inner.destroyed = false → inner.shuttingDown = false → lease'.isSome → condition) := by
  left
  constructor
  · intro live serving limit leased
    have some_ : lease'.isSome := by
      rw [leased]
      rfl
    exact absurd ⟨gone.symm.trans live, closing.symm.trans serving, some_⟩ idle
  · exact fun live serving some_ => absurd ⟨live, serving, some_⟩ idle

/-- An error response leaves the lease tracked exactly if it spares what is known. -/
theorem tracked_answerError {message : Message} {pending : PendingTransaction} (now : Nat)
    (draw : Operation → Draw) (permitted : inner.Permits pending.operation)
    (tracks : Tracks inner lease) {lease' : Option Nat}
    (told : lease' = (if errorCode message = some 437 then none else lease).filter (now < ·)) :
    TrackedIf (inner.answerError crypto now draw message pending) lease'
      (inner.destroyed = false → inner.shuttingDown = false → lease'.isSome →
        Spares crypto inner message pending) := by
  rcases @answerError_cases crypto now inner message pending draw permitted with
    ⟨recreate, gone, closing, forgotten, notReady⟩ |
      ⟨usual, ⟨noRetry, keeps⟩ | ⟨credentials, retry, keeps⟩⟩
  · by_cases live : inner.destroyed = false ∧ inner.shuttingDown = false ∧ lease'.isSome
    · right
      rcases Option.isSome_iff_exists.mp live.2.2 with ⟨limit, leased⟩
      refine ⟨?_, ?_, fun _ _ ready => absurd ready notReady⟩
      · intro later
        have held := (later (gone.trans live.1) (closing.trans live.2.1) limit leased).1
        rcases held with ⟨ready, -⟩ | ⟨-, known⟩
        · exact notReady ready
        · rw [forgotten] at known
          cases known
      · intro condition
        have present : errorCode message ≠ some 437 := by
          intro reported
          rw [told, if_pos reported] at leased
          cases leased
        apply (condition live.1 live.2.1 live.2.2).1
        cases number : errorCode message with
        | none => simp [requiresAllocationRecreate, number] at recreate
        | some code =>
            rw [number] at present
            have other : code ≠ 437 := fun equal => present (congrArg some equal)
            simpa [requiresAllocationRecreate, number, other] using recreate
    · exact trackedIf_vacuous gone closing live
  · left
    have other : errorCode message ≠ some 437 := by
      intro reported
      simp [requiresAllocationRecreate, reported] at usual
    constructor
    · rw [told, if_neg other]
      exact tracks_of_keeps keeps tracks
    · intro live serving some_
      constructor
      · rintro ⟨channel, refused⟩
        simp [requiresAllocationRecreate, refused, channel] at usual
      · intro credentials retry
        rw [noRetry] at retry
        cases retry
  · by_cases live : inner.destroyed = false ∧ inner.shuttingDown = false ∧ lease'.isSome
    · rcases Option.isSome_iff_exists.mp live.2.2 with ⟨limit, leased⟩
      have other : errorCode message ≠ some 437 := by
        intro reported
        simp [requiresAllocationRecreate, reported] at usual
      have held (limit' : Nat) (leased' : lease' = some limit') :
          Held limit' (inner.answerError crypto now draw message pending) := by
        rw [told, if_neg other] at leased'
        rcases Option.filter_eq_some_iff.mp leased' with ⟨former, runs⟩
        exact keeps.held limit' (of_decide_eq_true runs)
          (tracks live.1 live.2.1 limit' former).1
      have room := affords_of_keeps keeps
      by_cases affords : Affords (inner.setAuth crypto credentials.1 credentials.2)
      · left
        refine ⟨fun _ _ limit' leased' => ⟨held limit' leased', room.mpr affords⟩, fun _ _ _ => ?_⟩
        constructor
        · rintro ⟨channel, refused⟩
          simp [requiresAllocationRecreate, refused, channel] at usual
        · intro credentials' retry'
          rw [retry] at retry'
          rw [← Option.some.inj retry']
          exact affords
      · right
        refine ⟨?_, ?_, fun limit' leased' _ => held limit' leased'⟩
        · intro later
          exact affords (room.mp (later (keeps.destroyed.trans live.1)
            (keeps.shuttingDown.trans live.2.1) limit leased).2)
        · intro condition
          exact affords ((condition live.1 live.2.1 live.2.2).2 credentials retry)
    · exact trackedIf_vacuous keeps.destroyed keeps.shuttingDown live

/-- A success response leaves the lease tracked. -/
theorem tracks_answer (sound : Sound inner) (affordable : Affordable inner)
    (tracks : Tracks inner lease) {message : Message} {index : Nat} {pending : PendingTransaction}
    (now : Nat) (draw : Operation → Draw) (found : inner.pending[index]? = some pending)
    (believed : inner.unverified crypto message pending = false)
    (success : message.class = .success) :
    Tracks (inner.answer crypto now draw message index pending).1
      ((leaseAfterResponse inner lease now message pending).filter (now < ·)) := by
  have member : pending ∈ inner.pending := List.mem_of_getElem? found
  have permitted : (inner.takePending index pending).Permits pending.operation :=
    sound.fits pending member
  have taken : Tracks (inner.takePending index pending) lease := tracks
  unfold answer
  cases authenticated : pending.authenticated with
  | true =>
      simp only [believed, Bool.false_eq_true, if_false, success, Bool.true_eq_false, and_false,
        reduceCtorEq]
      exact tracks_answerSuccess (fun allocate => alone sound found (Or.inl allocate)) permitted
        (sound.proven pending member authenticated)
        (fun allocate => affordable pending member allocate authenticated) success authenticated
        taken
  | false =>
      have allocate : pending.operation = .allocate := by
        by_contra other
        rw [sound.proves pending member other] at authenticated
        cases authenticated
      have unchanged : leaseAfterResponse inner lease now message pending = lease := by
        simp only [leaseAfterResponse, success, allocate, authenticated, Bool.false_eq_true,
          if_false]
        split <;> rfl
      rw [unchanged]
      simp only [believed, Bool.false_eq_true, if_false, success, and_self, if_true]
      exact tracks_of_keeps (keeps_completeFailure permitted _ _) taken

theorem tracked_inputStun (sound : Sound inner) (affordable : Affordable inner)
    (tracks : Tracks inner lease) {packet : List U8} (action : call.action = .inputStun packet) :
    TrackedIf (inner.inputStun crypto call.now call.draw packet).1
      (leaseStep crypto inner lease call) (KeepsTrack crypto (inner, lease) call) := by
  have only {packet' : List U8} (action' : call.action = .inputStun packet') : packet' = packet := by
    rw [action] at action'
    exact (Action.inputStun.inj action').symm
  rcases @inputStun_processed crypto call.now inner call.draw packet with
    ⟨ignored, keeps⟩ | ⟨message, index, pending, response, responds, found, believed, same⟩
  · left
    constructor
    · simp only [leaseStep, action, ignored]
      exact tracks_of_keeps keeps tracks
    · intro live serving some_ packet' message pending action' response
      rw [only action', ignored] at response
      cases response
  · rw [same]
    cases kind : message.class with
    | request => simp [kind] at responds
    | indication => simp [kind] at responds
    | success =>
        left
        constructor
        · simp only [leaseStep, action, response]
          exact tracks_answer sound affordable tracks call.now call.draw found believed kind
        · intro live serving some_ packet' message' pending' action' response' failed
          rw [only action', response] at response'
          cases response'
          rw [kind] at failed
          cases failed
    | error =>
        have final : (inner.answer crypto call.now call.draw message index pending).1 =
            (inner.takePending index pending).answerError crypto call.now call.draw message
              pending := by
          simp only [answer, believed, Bool.false_eq_true, if_false, kind, reduceCtorEq, false_and,
            if_true]
        have told : leaseStep crypto inner lease call =
            (if errorCode message = some 437 then none else lease).filter (call.now < ·) := by
          simp only [leaseStep, action, response, leaseAfterResponse, kind]
        have condition : KeepsTrack crypto (inner, lease) call ↔
            (inner.destroyed = false → inner.shuttingDown = false →
              (leaseStep crypto inner lease call).isSome → Spares crypto inner message pending) := by
          constructor
          · exact fun keeps live serving some_ =>
              keeps live serving some_ packet message pending action response kind
          · intro spares live serving some_ packet' message' pending' action' response' failed
            rw [only action', response] at response'
            cases response'
            exact spares live serving some_
        have permitted : (inner.takePending index pending).Permits pending.operation :=
          sound.fits pending (List.mem_of_getElem? found)
        rw [final, condition]
        exact tracked_answerError call.now call.draw permitted tracks told

/-- A client that does not serve afterwards has nothing to track. -/
theorem tracks_of_not_serving (stopped : inner'.destroyed = true ∨ inner'.shuttingDown = true) :
    Tracks inner' lease := by
  intro live serving
  rcases stopped with gone | closing
  · rw [gone] at live
    cases live
  · rw [closing] at serving
    cases serving

/-- A suspend ages the lease and what the client knows of it alike. -/
theorem tracks_resyncAfterSuspend (now gap : Nat) (tracks : Tracks inner lease) :
    Tracks (inner.resyncAfterSuspend now gap).1 ((lease.map (· - gap)).filter (now < ·)) := by
  unfold resyncAfterSuspend
  by_cases idle : inner.destroyed ∨ inner.shuttingDown ∨ inner.state ≠ .ready
  · simp only [idle, if_true]
    intro live serving limit left
    rcases Option.filter_eq_some_iff.mp left with ⟨aged, runs⟩
    rcases Option.map_eq_some_iff.mp aged with ⟨former, leased, rfl⟩
    have before := tracks live serving former leased
    refine ⟨?_, before.2⟩
    rcases before.1 with ⟨ready, -⟩ | gone
    · simp [live, serving, ready] at idle
    · exact Or.inr gone
  · simp only [idle, if_false]
    have running : inner.destroyed = false ∧ inner.shuttingDown = false ∧ inner.state = .ready := by
      simpa using idle
    intro live serving limit left
    rcases Option.filter_eq_some_iff.mp left with ⟨aged, runs⟩
    rcases Option.map_eq_some_iff.mp aged with ⟨former, leased, rfl⟩
    have before := tracks running.1 running.2.1 former leased
    rcases before.1 with ⟨ready, expires, known, later⟩ | ⟨gone, -⟩
    · have runs' : now < former - gap := of_decide_eq_true runs
      have ahead : now < expires - gap := by omega
      simp only [known, ahead, if_true]
      exact ⟨Or.inl ⟨ready, _, rfl, Nat.sub_le_sub_right later gap⟩, before.2⟩
    · rw [running.2.2] at gone
      cases gone

theorem gracefulShutdown_stops (draw : Operation → Draw) :
    (inner.gracefulShutdown crypto draw).1.destroyed = true ∨
      (inner.gracefulShutdown crypto draw).1.shuttingDown = true := by
  unfold gracefulShutdown
  split
  · next already => exact already
  · right
    simp only
    split
    · rcases setState_same { inner.beginShutdown with pending := [] } .deallocating with
        ⟨events, history, final⟩
      rw [final]
      have same := @standing_startOperation crypto
        { { inner.beginShutdown with pending := [] } with
          state := .deallocating, events := events, history := history }
        (draw .deallocate) .deallocate true 0
      exact congrArg (·.2.1.2) same
    · split <;> rfl

theorem forceDestroy_stops (status : Int) (inner : Inner) :
    (inner.forceDestroy status).destroyed = true := by
  unfold forceDestroy
  split
  · next gone => exact gone
  · rcases setState_same { inner with destroyed := true, controls := [], pending := [] }
      .destroying with ⟨events, history, final⟩
    rw [final]
    rfl

theorem standing_pullControl : inner.pullControl.1.standing = inner.standing := by
  unfold pullControl
  split
  · rfl
  · simp only
    split <;> rfl

/-- A call that hands in nothing keeps track of the lease. -/
theorem tracks_step (sound : Sound inner) (tracks : Tracks inner lease)
    (other : ∀ packet, call.action ≠ .inputStun packet) :
    Tracks (inner.step crypto call).1 (leaseStep crypto inner lease call) := by
  cases action : call.action with
  | startAllocation =>
      simp only [leaseStep, step, action]
      unfold startAllocation
      split
      · exact tracks_of_keeps .refl tracks
      · next opened =>
          split
          · exact tracks_of_keeps .refl tracks
          · next idle =>
              -- Before the first Allocate there is no lease.
              have live := live_of_requireOpen opened
              have none_ : lease = none := by
                cases lease with
                | none => rfl
                | some limit =>
                    rcases (tracks live.1 live.2 limit rfl).1 with ⟨ready, -⟩ | ⟨gone, -⟩
                    · simp [ready] at idle
                    · simp [gone] at idle
              rw [none_]
              exact fun _ _ limit impossible => by cases impossible
  | startChannel =>
      simp only [leaseStep, step, action]
      unfold startChannel
      split
      · exact tracks_of_keeps .refl tracks
      · exact tracks_of_keeps (keeps_of_standing (standing_startOperation _ _ _ _)) tracks
  | startPermission =>
      simp only [leaseStep, step, action]
      unfold startPermission
      split
      · exact tracks_of_keeps .refl tracks
      · exact tracks_of_keeps (keeps_of_standing (standing_startOperation _ _ _ _)) tracks
  | inputStun packet => exact absurd action (other packet)
  | poll =>
      simp only [leaseStep, step, action]
      exact tracks_of_keeps (keeps_poll sound call.draw) tracks
  | resyncAfterSuspend gap =>
      simp only [leaseStep, step, action]
      exact tracks_resyncAfterSuspend call.now gap tracks
  | pullControl =>
      simp only [leaseStep, step, action]
      exact tracks_of_keeps (keeps_of_standing standing_pullControl) tracks
  | pullEvent =>
      simp only [leaseStep, step, action]
      exact tracks_of_keeps (keeps_of_standing rfl) tracks
  | gracefulShutdown =>
      simp only [leaseStep, step, action]
      exact tracks_of_not_serving (gracefulShutdown_stops call.draw)
  | forceDestroy status =>
      simp only [leaseStep, step, action]
      exact tracks_of_not_serving (Or.inl (forceDestroy_stops status inner))

/-- A grant that arrives while shutting down is released at once. -/
theorem late_grant_released (sound : Sound inner) (affordable : Affordable inner)
    (closing : inner.shuttingDown = true) (now : Nat) (draw : Operation → Draw)
    {packet : List U8} {message : Message} {pending : PendingTransaction}
    {granted : SocketAddr × U32} (response : processed crypto inner packet = some (message, pending))
    (success : message.class = .success) (allocate : pending.operation = .allocate)
    (authenticated : pending.authenticated = true) (usable : inner.grantOf message = .ok granted) :
    Releases (inner.inputStun crypto now draw packet).1 := by
  rcases @inputStun_processed crypto now inner draw packet with
    ⟨ignored, -⟩ | ⟨message', index, pending', response', -, found, believed, same⟩
  · rw [ignored] at response
    cases response
  · rw [response] at response'
    cases response'
    have member : pending ∈ inner.pending := List.mem_of_getElem? found
    have credentialed : (inner.takePending index pending).Credentialed :=
      sound.proven pending member authenticated
    have affords : Affords (inner.takePending index pending) :=
      affordable pending member allocate authenticated
    have completed := @completeSuccess_allocate crypto (inner.takePending index pending)
      (alone sound found (Or.inl allocate)) credentialed affords message granted usable
      (draw .deallocate) now
    have final : (inner.answer crypto now draw message index pending).1 =
        ((inner.takePending index pending).completeSuccess crypto (draw .deallocate) .allocate
          message now).1 := by
      simp only [answer, believed, Bool.false_eq_true, if_false, success, authenticated,
        Bool.true_eq_false, and_false, reduceCtorEq, answerSuccess, allocate, completed.1]
    rw [same, final]
    exact completed.2.released closing

end Steps

/-!
### Runs
-/

section Runs

variable {crypto : StunCrypto} {inner : Inner} {lease : Option Nat}

/-- What holds of the client and the lease whatever responses arrive. -/
structure Leased (inner : Inner) (lease : Option Nat) : Prop where
  sound : Sound inner
  affordable : Affordable inner
  covers : Covers inner lease

/-- A lease that is tracked is one that a shutdown releases. -/
theorem leakFree_iff_tracks (leased : Leased inner lease) :
    LeakFree crypto inner lease ↔ Tracks inner lease := by
  constructor
  · intro free live serving limit until_
    have known : Known inner :=
      (@gracefulShutdown_releases crypto inner leased.sound live serving (drawAt 0)).mp
        (free.shutdown live serving (until_ ▸ rfl) (drawAt 0))
    refine ⟨?_, known.2⟩
    rcases known.1 with ready | gone
    · exact leased.covers limit until_ ready
    · exact Or.inr gone
  · intro tracks
    constructor
    · intro live serving some_ draw
      rcases Option.isSome_iff_exists.mp some_ with ⟨limit, until_⟩
      have held := tracks live serving limit until_
      exact (gracefulShutdown_releases leased.sound live serving draw).mpr
        (known_of_held held.1 held.2)
    · exact fun closing now draw packet message pending granted response success allocate
        authenticated usable => late_grant_released leased.sound leased.affordable closing now draw
          response success allocate authenticated usable

theorem tracked_step (sound : Sound inner) (affordable : Affordable inner)
    (tracks : Tracks inner lease) (call : Call) :
    TrackedIf (inner.step crypto call).1 (leaseStep crypto inner lease call)
      (KeepsTrack crypto (inner, lease) call) := by
  cases action : call.action with
  | inputStun packet =>
      have tracked : TrackedIf _ _ (KeepsTrack crypto (inner, lease) call) :=
        tracked_inputStun sound affordable tracks action
      simpa only [step, action] using tracked
  | _ =>
      have other : ∀ packet, call.action ≠ .inputStun packet := by simp [action]
      left
      constructor
      · exact tracks_step sound tracks other
      · exact fun _ _ _ packet _ _ input => absurd input (other packet)

theorem leased_step (leased : Leased inner lease) (tracks : Tracks inner lease) (call : Call) :
    Leased (inner.step crypto call).1 (leaseStep crypto inner lease call) := by
  have sound := @sound_step crypto inner call leased.sound
  refine ⟨sound, affordable_step leased.sound call leased.affordable, ?_⟩
  rcases @tracked_step crypto inner lease leased.sound leased.affordable tracks call with
    ⟨tracks', -⟩ | ⟨-, -, covers⟩
  · exact covers_of_tracks sound tracks'
  · exact covers

theorem leased_fresh (fresh : Fresh inner) : Leased inner none :=
  ⟨sound_fresh fresh, affordable_fresh fresh, fun _ impossible => by cases impossible⟩

/-- The lease is told along a run of the client itself. -/
theorem leasedStep_run (calls : List Call) (lease : Option Nat) :
    (Transducer.run (leasedStep crypto) (inner, lease) calls).1.1 = after crypto inner calls := by
  induction calls generalizing inner lease with
  | nil => rfl
  | cons call calls inductionHypothesis => exact inductionHypothesis _

end Runs

/-- Throughout a run a shutdown releases whatever the server still holds for the client, and a
grant that arrives while shutting down is released at once, exactly if no error response of
the run takes the client's knowledge of the lease or the room for the request. -/
theorem allocation_released_iff (crypto : StunCrypto) (inner : Inner) (fresh : Fresh inner)
    (calls : List Call) :
    Transducer.Throughout (leasedStep crypto) (inner, none) calls
        (fun state => LeakFree crypto state.1 state.2) ↔
      Transducer.AtEveryStep (leasedStep crypto) (inner, none) calls (KeepsTrack crypto) := by
  apply @Transducer.throughout_iff_atEveryStep _ _ _ (leasedStep crypto)
    (fun state => Leased state.1 state.2)
  · exact leased_fresh fresh
  · apply (leakFree_iff_tracks (leased_fresh fresh)).mpr
    exact fun _ _ _ impossible => by cases impossible
  · intro state call leased free
    exact leased_step leased ((leakFree_iff_tracks leased).mp free) call
  · intro state call leased free
    have tracks := (leakFree_iff_tracks leased).mp free
    have after_ : LeakFree crypto (state.1.step crypto call).1
        (leaseStep crypto state.1 state.2 call) ↔
          Tracks (state.1.step crypto call).1 (leaseStep crypto state.1 state.2 call) :=
      leakFree_iff_tracks (leased_step leased tracks call)
    rcases @tracked_step crypto state.1 state.2 leased.sound leased.affordable tracks call with
      ⟨tracks', condition⟩ | ⟨lost, violated, -⟩
    · exact iff_of_true (after_.mpr tracks') condition
    · exact iff_of_false (fun free' => lost (after_.mp free')) violated

/-- An allocation that is obtained and given up. -/
def obtainedCalls : List Call := challengedCalls ++ [
  { action := .inputStun (grantBytes 0x2c tenMinutes), now := 5, draw := drawAt 5 },
  { action := .gracefulShutdown, now := 6, draw := drawAt 6 }]

theorem obtained_allocation_is_released :
    Transducer.Throughout (leasedStep StunCrypto.standard) (localClient .datagram, none)
        obtainedCalls (fun state => LeakFree StunCrypto.standard state.1 state.2) ↔
      Transducer.AtEveryStep (leasedStep StunCrypto.standard) (localClient .datagram, none)
        obtainedCalls (KeepsTrack StunCrypto.standard) :=
  allocation_released_iff StunCrypto.standard (localClient .datagram)
    (fresh_localClient .datagram) obtainedCalls

/-!
### A refused ChannelBind
-/

/-- An error response to a ChannelBind, with the code 400. -/
def refusedBytes : List U8 :=
  [0x01, 0x19, 0, 0x08, 0x21, 0x12, 0xa4, 0x42, 0, 0, 0, 0, 0, 0, 0, 0, 0, 0, 0, 9,
    0, 0x09, 0, 4, 0, 0, 4, 0]

def refusedCalls : List Call := challengedCalls ++ [
  { action := .inputStun (grantBytes 0x2c tenMinutes), now := 5, draw := drawAt 5 },
  { action := .startChannel, now := 6, draw := drawAt 6 },
  { action := .inputStun refusedBytes, now := 7, draw := drawAt 7 }]

/-- The server holds the allocation for ten minutes more, and a shutdown sends nothing. -/
theorem refused_channel_leaks_the_allocation :
    let state := (Transducer.run (leasedStep StunCrypto.standard) (localClient .datagram, none)
      refusedCalls).1
    state.2 = some (5 + seconds 600) ∧ state.1.destroyed = false ∧
      state.1.shuttingDown = false ∧
      (state.1.gracefulShutdown StunCrypto.standard (drawAt 8)).1.controls.length = 0 ∧
      ¬Transducer.Throughout (leasedStep StunCrypto.standard) (localClient .datagram, none)
        refusedCalls (fun state => LeakFree StunCrypto.standard state.1 state.2) := by
  intro state
  have observed : state.2 = some (5 + seconds 600) ∧ state.1.destroyed = false ∧
      state.1.shuttingDown = false ∧
      (state.1.gracefulShutdown StunCrypto.standard (drawAt 8)).1.controls.length = 0 := by
    decide +kernel
  refine ⟨observed.1, observed.2.1, observed.2.2.1, observed.2.2.2, ?_⟩
  intro free
  have last := free refusedCalls (List.prefix_refl _)
  have releases := last.shutdown observed.2.1 observed.2.2.1
    (Option.isSome_iff_exists.mpr ⟨_, observed.1⟩) (drawAt 8)
  exact not_releases_of_empty (List.length_eq_zero_iff.mp observed.2.2.2) releases

end Csqtt
