/-
Module: Csqtt.Proofs.TurnSteps
Purpose: Every operation of the relay client is a sequence of elementary moves, so that
  what each move keeps holds in every state a run reaches.
Trusted boundary: none
Main exports: moves_setState, moves_startOperation, moves_completeFailure,
  moves_expireTransactions, moves_inputStun, moves_poll, moves_step, sound_step, sound_run
-/
import Csqtt.Proofs.TurnMoves
import Csqtt.Core.Transducer

namespace Csqtt

open Inner

section Operations

variable {crypto : StunCrypto} {grant : Prop} {inner inner' inner'' : Inner}

theorem Moves.refl : Moves crypto grant inner inner :=
  Relation.ReflTransGen.refl

theorem Moves.one (move : Move crypto grant inner inner') : Moves crypto grant inner inner' :=
  Relation.ReflTransGen.single move

theorem Moves.then (moves : Moves crypto grant inner inner')
    (move : Move crypto grant inner' inner'') : Moves crypto grant inner inner'' :=
  Relation.ReflTransGen.tail moves move

theorem Moves.trans (first : Moves crypto grant inner inner')
    (second : Moves crypto grant inner' inner'') : Moves crypto grant inner inner'' :=
  Relation.ReflTransGen.trans first second

/-- Entering a state reports it, unless it is the current one. -/
theorem moves_setState {state : TurnState}
    (moves : Moves crypto grant inner { inner' with state := state }) :
    Moves crypto grant inner (inner'.setState state) := by
  unfold setState
  split
  · next same =>
      subst same
      exact moves
  · exact moves.then (.event _ (by simp))

theorem setState_same (inner : Inner) (state : TurnState) :
    ∃ events history, inner.setState state =
      { inner with state := state, events := events, history := history } := by
  unfold setState
  split
  · next same =>
      exists inner.events, inner.history
      rw [← same]
  · exact ⟨_, _, rfl⟩

theorem moves_complete (operation : Operation) (status : Int) (stunCode : Nat) :
    Moves crypto grant inner (inner.complete operation status stunCode) :=
  .one (.event _ (by simp))

theorem moves_dropOldestControl : Moves crypto grant inner inner.dropOldestControl := by
  unfold dropOldestControl
  split
  · exact (Moves.one (.discard _)).then (.event _ (by simp))
  · exact .refl

theorem dropOldestControl_same (inner : Inner) :
    ∃ controls events history, inner.dropOldestControl =
      { inner with controls := controls, events := events, history := history } := by
  unfold dropOldestControl
  split
  · exact ⟨_, _, _, rfl⟩
  · exact ⟨_, _, _, rfl⟩

theorem moves_removeQueuedTransaction (transaction : Transaction) :
    Moves crypto grant inner (inner.removeQueuedTransaction transaction) :=
  .one (.discard _)

theorem hasOperation_channel {inner : Inner} (present : inner.hasOperation .channel = true) :
    ∃ pending, inner.pending.find? (·.operation = .channel) = some pending ∧
      pending ∈ inner.pending ∧ pending.operation = .channel := by
  simp only [hasOperation, List.any_eq_true, decide_eq_true_eq] at present
  cases found : inner.pending.find? (·.operation = .channel) with
  | none =>
      rcases present with ⟨pending, member, channel⟩
      exact absurd (decide_eq_true channel) (List.find?_eq_none.mp found pending member)
  | some pending =>
      have matching := List.find?_some found
      exact ⟨pending, rfl, List.mem_of_find?_eq_some found, of_decide_eq_true matching⟩

/-- Starting an operation is at most the start of one transaction. -/
theorem moves_startOperation (draw : Draw) (operation : Operation) (authenticated : Bool)
    (nonceRetries : Nat) (permitted : inner.Permits operation)
    (proves : operation ≠ .allocate → authenticated = true)
    (tries : nonceRetries ≤ inner.profile.maxNonceRetries) :
    Moves crypto grant inner
      (inner.startOperation crypto draw operation authenticated nonceRetries).1 := by
  unfold startOperation
  split
  · next present =>
      split
      · next channel =>
          subst channel
          rcases hasOperation_channel present with ⟨pending, found, member, channel⟩
          rw [found]
          rcases dropOldestControl_same inner with ⟨controls, events, history, same⟩
          have room : Moves crypto grant inner inner.dropOldestControl := moves_dropOldestControl
          rw [same] at room
          simp only [queuePacket, same]
          exact room.then (.again pending member channel)
      · exact .refl
  · next absent =>
      split
      · exact .refl
      · next complete =>
          have credentialed : authenticated = true → inner.Credentialed := by
            intro proven
            simpa [proven, Credentialed, Option.isNone_iff_eq_none, Option.isSome_iff_ne_none]
              using complete
          split
          · exact .refl
          · next packet built =>
              rcases dropOldestControl_same inner with ⟨controls, events, history, same⟩
              have room : Moves crypto grant inner inner.dropOldestControl :=
                moves_dropOldestControl
              rw [same] at room
              simp only [queuePacket, same]
              exact room.then (.start operation draw.transaction draw.now authenticated
                nonceRetries packet (Bool.eq_false_of_not_eq_true absent) permitted credentialed
                proves tries built)

theorem startOperation_same (draw : Draw) (operation : Operation) (authenticated : Bool)
    (nonceRetries : Nat) (inner : Inner) :
    ∃ controls events history pending started,
      (inner.startOperation crypto draw operation authenticated nonceRetries).1 =
        { inner with
          controls := controls
          events := events
          history := history
          pending := pending
          started := started } := by
  rcases dropOldestControl_same inner with ⟨controls, events, history, same⟩
  unfold startOperation
  split
  · split
    · split
      · simp only [queuePacket, same]
        exact ⟨_, _, _, _, _, rfl⟩
      · exact ⟨_, _, _, _, _, rfl⟩
    · exact ⟨_, _, _, _, _, rfl⟩
  · split
    · exact ⟨_, _, _, _, _, rfl⟩
    · split
      · exact ⟨_, _, _, _, _, rfl⟩
      · simp only [queuePacket, same]
        exact ⟨_, _, _, _, _, rfl⟩

/-!
### Failures
-/

/-- What is left of a client that has given its allocation up. -/
theorem destroyAllocation_same (operation : Operation) (status : Int) (stunCode : Nat)
    (inner : Inner) :
    ∃ events history state, state ≠ .ready ∧
      inner.destroyAllocation operation status stunCode = { inner with
        state := state
        relay := none
        channel := none
        controls := []
        events := events
        pending := []
        allocationRefresh := none
        allocationExpiresAt := none
        maintenanceRefresh := none
        permissionRetry := none
        channelRetry := none
        keepalive := none
        history := history } := by
  have final : (if operation = .deallocate then TurnState.deallocated else .destroying) ≠
      .ready := by
    split <;> decide
  rcases setState_same ({ inner.complete operation status stunCode with
    controls := []
    pending := []
    channel := none
    allocationRefresh := none
    allocationExpiresAt := none
    maintenanceRefresh := none
    permissionRetry := none
    channelRetry := none
    keepalive := none
    relay := none } : Inner) (if operation = .deallocate then .deallocated else .destroying) with
    ⟨events, history, same⟩
  exact ⟨events, history, _, final, same⟩

/-- Giving up on the channel leaves the expiry of the allocation and the time of its refresh. -/
theorem destroyAfterChannelRebindExhausted_same (inner : Inner) :
    ∃ events history, inner.destroyAfterChannelRebindExhausted = { inner with
      state := .destroying
      channel := none
      controls := []
      events := events
      pending := []
      maintenanceRefresh := none
      permissionRetry := none
      channelRetry := none
      keepalive := none
      history := history } := by
  rcases setState_same (({ inner with
    controls := []
    pending := []
    channel := none
    maintenanceRefresh := none
    permissionRetry := none
    channelRetry := none
    keepalive := none } : Inner).pushEvent {
      kind := .channelRebindExhausted
      status := resultTimeout
      state := .destroying }) .destroying with ⟨events, history, same⟩
  exact ⟨events, history, same⟩

theorem moves_destroyAllocation (operation : Operation) (status : Int) (stunCode : Nat) :
    Moves crypto grant inner (inner.destroyAllocation operation status stunCode) := by
  unfold destroyAllocation
  apply moves_setState
  have reported : Moves crypto grant inner (inner.complete operation status stunCode) :=
    moves_complete operation status stunCode
  have cleared := (reported.then (.discard [])).then
    (.schedule none none none none none none inner.refreshFailures inner.permissionFailures
      inner.channelFailures)
  apply cleared.then
  apply Move.destroy
  split
  · exact Or.inl rfl
  · exact Or.inr rfl

theorem moves_destroyAfterChannelRebindExhausted :
    Moves crypto grant inner inner.destroyAfterChannelRebindExhausted := by
  unfold destroyAfterChannelRebindExhausted
  apply moves_setState
  have emptied : Moves crypto grant inner { inner with controls := [] } := .one (.discard [])
  have cleared := (emptied.then
    (.schedule none inner.allocationRefresh none none none none inner.refreshFailures
      inner.permissionFailures inner.channelFailures)).then .exhaust
  exact cleared.then (.event _ (by simp))

theorem moves_scheduleMaintenanceRetry (operation : Operation) (now : Nat) :
    Moves crypto grant inner (inner.scheduleMaintenanceRetry operation now).1 := by
  cases operation with
  | allocate => exact .refl
  | deallocate => exact .refl
  | refresh => exact .one (.schedule _ _ _ _ _ _ _ _ _)
  | permission => exact .one (.schedule _ _ _ _ _ _ _ _ _)
  | channel =>
      unfold scheduleMaintenanceRetry
      simp only
      split
      · exact .one (.schedule _ _ _ _ _ _ _ _ _)
      · exact .one (.schedule _ _ _ _ _ _ _ _ _)

theorem moves_completeFailure (operation : Operation) (status : Int) (stunCode : Nat)
    (now : Nat) :
    Moves crypto grant inner (inner.completeFailure operation status stunCode now) := by
  unfold completeFailure
  split
  · have reported : Moves crypto grant inner (inner.complete operation status stunCode) :=
      moves_complete operation status stunCode
    have scheduled := reported.trans (moves_scheduleMaintenanceRetry operation now)
    simp only
    split
    · exact scheduled
    · exact scheduled.trans moves_destroyAfterChannelRebindExhausted
  · exact moves_destroyAllocation operation status stunCode

/-!
### Expiry
-/

theorem moves_timeOut {index : Nat} {pending : PendingTransaction} {now : Nat}
    (found : inner.pending[index]? = some pending) (due : pending.nextAttempt ≤ now)
    (last : inner.outOfAttempts pending = true) :
    Moves crypto grant inner (inner.timeOut index pending now) := by
  unfold timeOut
  have gone : Moves crypto grant inner _ := .one (.timeOut index pending now found due last)
  exact (gone.trans (moves_removeQueuedTransaction pending.transaction)).trans
    (moves_completeFailure pending.operation resultTimeout 0 now)

theorem moves_retransmit {index : Nat} {pending : PendingTransaction} {now : Nat}
    (found : inner.pending[index]? = some pending) (due : pending.nextAttempt ≤ now)
    (left : inner.outOfAttempts pending = false) :
    Moves crypto grant inner (inner.retransmit index pending now) := by
  rcases dropOldestControl_same inner with ⟨controls, events, history, same⟩
  have room : Moves crypto grant inner inner.dropOldestControl := moves_dropOldestControl
  rw [same] at room
  simp only [retransmit, queuePacket, same]
  exact room.then (.retransmit index pending now found due left)

theorem moves_expireLoop (now : Nat) (fuel index : Nat) (inner : Inner) :
    Moves crypto grant inner (expireLoop now fuel index inner).2 := by
  induction fuel generalizing index inner with
  | zero => exact .refl
  | succ fuel inductionHypothesis =>
      unfold expireLoop
      split
      · exact .refl
      · next pending found =>
          split
          · exact inductionHypothesis (index + 1) inner
          · next due =>
              have reached := Nat.le_of_not_lt due
              split
              · next last =>
                  exact (moves_timeOut found reached last).trans (inductionHypothesis index _)
              · next left =>
                  exact (moves_retransmit found reached (Bool.eq_false_of_not_eq_true left)).trans
                    (inductionHypothesis (index + 1) _)

theorem moves_expireTransactions (now : Nat) :
    Moves crypto grant inner (inner.expireTransactions now) :=
  moves_expireLoop now inner.pending.length 0 inner

/-!
### Responses
-/

/-- A transaction of one of these kinds is the only one pending. -/
theorem alone (sound : Sound inner) {index : Nat} {pending : PendingTransaction}
    (found : inner.pending[index]? = some pending)
    (exclusive : pending.operation = .allocate ∨ pending.operation = .deallocate) :
    inner.pending.eraseIdx index = [] := by
  have member : pending ∈ inner.pending := List.mem_of_getElem? found
  have here := sound.fits pending member
  have same : ∀ other ∈ inner.pending, other.operation = pending.operation := by
    intro other inside
    have there := sound.fits other inside
    rcases exclusive with kind | kind <;>
      cases operation : other.operation <;> simp_all [Permits]
  have few : inner.pending.length ≤ 1 := by
    have distinct := sound.single
    have constant : inner.pending.map (·.operation) =
        List.replicate inner.pending.length pending.operation :=
      List.eq_replicate_iff.mpr ⟨by simp, by simpa using same⟩
    rw [constant, List.nodup_replicate] at distinct
    exact distinct
  have within : index < inner.pending.length := by
    apply Nat.lt_of_not_le
    intro outside
    rw [List.getElem?_eq_none outside] at found
    cases found
  apply List.eq_nil_of_length_eq_zero
  rw [List.length_eraseIdx_of_lt within]
  omega

/-- Once a transaction is taken off the list, no Allocate is pending. -/
theorem settled_takePending (sound : Sound inner) {index : Nat} {pending : PendingTransaction}
    (found : inner.pending[index]? = some pending) :
    (inner.takePending index pending).hasOperation .allocate = false := by
  have member : pending ∈ inner.pending := List.mem_of_getElem? found
  simp only [takePending, removeQueuedTransaction, hasOperation, List.any_eq_false,
    decide_eq_true_eq]
  by_cases kind : pending.operation = .allocate
  · rw [alone sound found (Or.inl kind)]
    exact fun other member => by cases member
  · intro other rest allocate
    have here := sound.fits pending member
    have there := sound.fits other (List.mem_of_mem_eraseIdx rest)
    rw [allocate] at there
    cases operation : pending.operation <;> simp_all [Permits]

theorem moves_takePending (index : Nat) (pending : PendingTransaction) :
    Moves crypto grant inner (inner.takePending index pending) :=
  (Moves.one (.take index)).then (.discard _)

theorem moves_release (quiet : inner.pending = []) :
    Moves crypto grant inner { inner with
      allocationExpiresAt := none
      relay := none
      state := .deallocated } := by
  have cleared : Moves crypto grant inner _ := .one (.destroy .deallocated (Or.inl rfl))
  rwa [← quiet] at cleared

theorem moves_allocated (relay : SocketAddr) (returnedLifetime : Option U32) (lifetime : U32)
    (now : Nat) (allowed : grant) (live : inner.destroyed = false)
    (waiting : inner.state = .allocating) (quiet : inner.pending = [])
    (credentialed : inner.Credentialed) :
    Moves crypto grant inner { inner.allocated relay returnedLifetime lifetime now with
      state := if inner.shuttingDown then .deallocating else .ready } := by
  have timed : Moves crypto grant inner _ := .one (.schedule inner.channel
    (some (allocationRefreshDeadline now returnedLifetime inner.profile.allocationRefresh))
    (some (now + inner.profile.maintenanceRefresh)) inner.permissionRetry inner.channelRetry
    (some (firstKeepaliveDeadline now inner.profile.keepaliveInterval relay)) 0
    inner.permissionFailures inner.channelFailures)
  have reported := timed.then
    (.event { kind := .relayAddress, address := .fromSocketAddr relay } (by simp))
  exact reported.then
    (.granted relay (now + seconds lifetime.toNat) allowed live waiting quiet credentialed)

theorem moves_completeSuccess (draw : Draw) (operation : Operation) (message : Message)
    (now : Nat) (allowed : operation = .allocate → grant)
    (permitted : inner.Permits operation)
    (quiet : operation = .allocate ∨ operation = .deallocate → inner.pending = [])
    (credentialed : inner.Credentialed) :
    Moves crypto grant inner (inner.completeSuccess crypto draw operation message now).1 := by
  cases operation with
  | allocate =>
      unfold completeSuccess
      simp only
      split
      · exact .refl
      · next granted _ =>
          have entered : Moves crypto grant inner _ :=
            moves_allocated granted.1 (attributeU32 message attrLifetime) granted.2 now
              (allowed rfl) permitted.1 permitted.2 (quiet (Or.inl rfl)) credentialed
          have same : (inner.allocated granted.1 (attributeU32 message attrLifetime) granted.2
            now).shuttingDown = inner.shuttingDown := rfl
          simp only [same]
          cases closing : inner.shuttingDown with
          | true =>
              simp only [closing, if_true] at entered ⊢
              apply (moves_setState entered).trans
              apply moves_startOperation
              · rcases setState_same (inner.allocated granted.1
                  (attributeU32 message attrLifetime) granted.2 now) .deallocating with
                  ⟨events, history, final⟩
                rw [final]
                exact ⟨permitted.1, rfl, closing⟩
              · exact fun _ => rfl
              · exact Nat.zero_le _
          | false =>
              simp only [closing, Bool.false_eq_true, if_false] at entered ⊢
              exact (moves_setState entered).trans (moves_complete .allocate 0 0)
  | refresh =>
      unfold completeSuccess
      simp only
      split
      · exact .refl
      · have timed : Moves crypto grant inner _ := .one (.schedule inner.channel
          (some (allocationRefreshDeadline now (attributeU32 message attrLifetime)
            inner.profile.allocationRefresh)) inner.maintenanceRefresh inner.permissionRetry
          inner.channelRetry inner.keepalive 0 inner.permissionFailures inner.channelFailures)
        exact (timed.then (.extend _ permitted.2.1)).trans (moves_complete .refresh 0 0)
  | deallocate =>
      unfold completeSuccess
      simp only
      split
      · exact .refl
      · have idle := quiet (Or.inr rfl)
        have timed : Moves crypto grant inner _ := .one (.schedule inner.channel none
          inner.maintenanceRefresh inner.permissionRetry inner.channelRetry inner.keepalive
          inner.refreshFailures inner.permissionFailures inner.channelFailures)
        apply moves_setState
        have reported := timed.then (.event {
          kind := .requestComplete
          method := Operation.deallocate.method
          status := 0
          state := inner.state
          channel := inner.channel.getD 0 } (by simp))
        exact reported.trans (moves_release idle)
  | permission =>
      have timed : Moves crypto grant inner _ := .one (.schedule inner.channel
        inner.allocationRefresh inner.maintenanceRefresh inner.permissionRetry inner.channelRetry
        inner.keepalive inner.refreshFailures 0 inner.channelFailures)
      exact timed.trans (moves_complete .permission 0 0)
  | channel =>
      have bound : Moves crypto grant inner _ := .one (.schedule (some channelNumber)
        inner.allocationRefresh inner.maintenanceRefresh inner.permissionRetry inner.channelRetry
        inner.keepalive inner.refreshFailures inner.permissionFailures 0)
      exact (bound.then (.event _ (by simp))).trans (moves_complete .channel 0 0)

theorem moves_pushResponseError (operation : Operation) (status : Int) (code : Nat)
    (state : TurnState) :
    Moves crypto grant inner (inner.pushResponseError operation status code state) :=
  .one (.event _ (by simp))

theorem moves_reportFailure (operation : Operation) (code : Nat) (state : TurnState)
    (now : Nat) :
    Moves crypto grant inner (inner.reportFailure operation code state now) :=
  (moves_pushResponseError operation 0 code state).trans
    (moves_completeFailure operation resultProtocol code now)

/-- Credentials are only tried while tries are left. -/
theorem tries_of_retryCredentials {message : Message} {code : Nat} {pending : PendingTransaction}
    {credentials : List U8 × List U8}
    (retry : inner.retryCredentials message code pending = some credentials) :
    pending.nonceRetries + 1 ≤ inner.profile.maxNonceRetries := by
  unfold retryCredentials at retry
  split at retry
  · next permitted => exact permitted.2
  · cases retry

theorem moves_answerError (now : Nat) (draw : Operation → Draw) (message : Message)
    (pending : PendingTransaction) (permitted : inner.Permits pending.operation)
    (settled : inner.hasOperation .allocate = false) :
    Moves crypto grant inner (inner.answerError crypto now draw message pending) := by
  unfold answerError
  simp only
  split
  · exact (moves_pushResponseError _ _ _ _).trans (moves_completeFailure _ _ _ _)
  · split
    · exact (moves_pushResponseError _ _ _ _).trans (moves_destroyAllocation _ _ _)
    · split
      · exact moves_reportFailure _ _ _ _
      · next credentials retry =>
          have tries := tries_of_retryCredentials retry
          have learnt : Moves crypto grant inner _ :=
            .one (.learn credentials.1 credentials.2 settled)
          have started := learnt.trans (moves_startOperation (draw pending.operation)
            pending.operation true (pending.nonceRetries + 1) permitted (fun _ => rfl) tries)
          split
          · exact started
          · exact started.trans (moves_reportFailure _ _ _ _)

theorem moves_rejectUnverified (operation : Operation) (message : Message) :
    Moves crypto grant inner (inner.rejectUnverified operation message) := by
  unfold rejectUnverified
  split
  · exact moves_pushResponseError _ _ _ _
  · exact .refl

/-- The processing of a message that grants the allocation: a verified success that answers
an authenticated Allocate. -/
structure Grants (crypto : StunCrypto) (inner : Inner) (message : Message) (index : Nat)
    (pending : PendingTransaction) : Prop where
  success : message.class = .success
  found : inner.pending[index]? = some pending
  answers : pending.transaction = message.transaction
  allocate : pending.operation = .allocate
  authenticated : pending.authenticated = true
  verified : verifyIntegrity crypto message.raw message inner.key = true

theorem verified_of_success {message : Message} {pending : PendingTransaction}
    (success : message.class = .success) (authenticated : pending.authenticated = true)
    (believed : inner.unverified crypto message pending = false) :
    verifyIntegrity crypto message.raw message inner.key = true := by
  have required : responseRequiresIntegrity message = true := by
    rw [responseRequiresIntegrity, success]
  have mismatch : isFingerprintedAllocationMismatch crypto message = false := by
    simp [isFingerprintedAllocationMismatch, success]
  simpa [unverified, authenticated, required, mismatch] using believed

theorem moves_answer (sound : Sound inner) (now : Nat) (draw : Operation → Draw)
    (message : Message) {index : Nat} {pending : PendingTransaction}
    (found : inner.pending[index]? = some pending)
    (answers : pending.transaction = message.transaction)
    (responds : message.class = .success ∨ message.class = .error) :
    Moves crypto (Grants crypto inner message index pending) inner
      (inner.answer crypto now draw message index pending).1 := by
  have member : pending ∈ inner.pending := List.mem_of_getElem? found
  have permitted := sound.fits pending member
  unfold answer
  split
  · exact moves_rejectUnverified _ _
  · next believed =>
      have taken : Moves crypto (Grants crypto inner message index pending) inner _ :=
        moves_takePending index pending
      simp only
      split
      · exact taken.trans (moves_completeFailure _ _ _ _)
      · next proven =>
          split
          · exact taken.trans (moves_answerError now draw message pending permitted
              (settled_takePending sound found))
          · next notError =>
              have success : message.class = .success :=
                responds.resolve_right notError
              have authenticated : pending.authenticated = true := by
                simpa [success] using proven
              have completed := taken.trans (moves_completeSuccess (draw .deallocate)
                pending.operation message now
                (fun allocate => ⟨success, found, answers, allocate, authenticated,
                  verified_of_success success authenticated
                    (Bool.eq_false_of_not_eq_true believed)⟩)
                permitted (alone sound found)
                (sound.proven pending member authenticated))
              unfold answerSuccess
              simp only
              split
              · exact completed
              · exact completed.trans (moves_completeFailure _ _ _ _)

/-- What an input does is what the answer to one pending transaction does, if anything. -/
theorem inputStun_cases (now : Nat) (draw : Operation → Draw) (packet : List U8)
    (inner : Inner) :
    (inner.inputStun crypto now draw packet).1 = inner ∨
    ∃ message index pending,
      Message.decode packet = .ok message ∧
      (message.class = .success ∨ message.class = .error) ∧
      message.fingerprintValid crypto.crc32 ≠ some false ∧
      inner.answered message = some index ∧
      inner.pending[index]? = some pending ∧
      pending.transaction = message.transaction ∧
      inner.inputStun crypto now draw packet = inner.answer crypto now draw message index pending := by
  unfold inputStun
  split
  · exact Or.inl rfl
  · next message decoded =>
      split
      · exact Or.inl rfl
      · next responds =>
          split
          · exact Or.inl rfl
          · next valid =>
              split
              · exact Or.inl rfl
              · next index answered =>
                  split
                  · exact Or.inl rfl
                  · next pending found =>
                      right
                      refine ⟨message, index, pending, decoded, not_not.mp responds, valid, answered,
                        found, ?_, rfl⟩
                      have matching := List.findIdx?_eq_some_iff_getElem.mp answered
                      rcases matching with ⟨within, matches_, _⟩
                      rw [List.getElem?_eq_getElem within, Option.some.injEq] at found
                      rw [found] at matches_
                      exact (of_decide_eq_true matches_).1

/-!
### Timers and shutdown
-/

/-- An allocation in use. -/
structure Running (inner : Inner) : Prop where
  ready : inner.state = .ready
  serving : inner.shuttingDown = false
  live : inner.destroyed = false

/-- Going on after a step keeps what both steps keep. -/
theorem moves_andThen {property : Inner → Prop} {result : Inner × Except String Unit}
    {next : Inner → Inner × Except String Unit}
    (first : Moves crypto grant inner result.1 ∧ property result.1)
    (second : ∀ middle, property middle →
      Moves crypto grant middle (next middle).1 ∧ property (next middle).1) :
    Moves crypto grant inner (andThen result next).1 ∧ property (andThen result next).1 := by
  unfold andThen
  split
  · exact first
  · have rest := second result.1 first.2
    exact ⟨first.1.trans rest.1, rest.2⟩

theorem running_startOperation (running : Running inner) (draw : Draw) (operation : Operation)
    (authenticated : Bool) (nonceRetries : Nat) :
    Running (inner.startOperation crypto draw operation authenticated nonceRetries).1 := by
  rcases @startOperation_same crypto draw operation authenticated nonceRetries inner with
    ⟨controls, events, history, pending, started, same⟩
  rw [same]
  exact ⟨running.ready, running.serving, running.live⟩

/-- The operations that keep an allocation usable. -/
theorem permits_of_running (running : Running inner) {operation : Operation}
    (upkeep : operation = .refresh ∨ operation = .permission ∨ operation = .channel) :
    inner.Permits operation := by
  rcases upkeep with rfl | rfl | rfl <;>
    exact ⟨running.live, running.ready, running.serving⟩

theorem moves_startDue (running : Running inner) (draw : Operation → Draw) {operation : Operation}
    (due : Bool) (clear : Inner → Inner)
    (upkeep : operation = .refresh ∨ operation = .permission ∨ operation = .channel)
    (cleared : Moves crypto grant inner (clear inner) ∧ Running (clear inner)) :
    Moves crypto grant inner (inner.startDue crypto draw operation due clear).1 ∧
      Running (inner.startDue crypto draw operation due clear).1 := by
  unfold startDue
  split
  · constructor
    · exact cleared.1.trans (moves_startOperation _ _ true 0 (permits_of_running cleared.2 upkeep)
        (fun _ => rfl) (Nat.zero_le _))
    · exact running_startOperation cleared.2 _ _ _ _
  · exact ⟨.refl, running⟩

/-- Setting a timer anew. -/
theorem moves_timer (running : Running inner)
    (allocationRefresh maintenanceRefresh permissionRetry channelRetry keepalive :
      Option Nat) :
    Moves crypto grant inner { inner with
      allocationRefresh := allocationRefresh
      maintenanceRefresh := maintenanceRefresh
      permissionRetry := permissionRetry
      channelRetry := channelRetry
      keepalive := keepalive } ∧
    Running { inner with
      allocationRefresh := allocationRefresh
      maintenanceRefresh := maintenanceRefresh
      permissionRetry := permissionRetry
      channelRetry := channelRetry
      keepalive := keepalive } :=
  ⟨.one (.schedule inner.channel allocationRefresh maintenanceRefresh permissionRetry channelRetry
    keepalive inner.refreshFailures inner.permissionFailures inner.channelFailures),
    ⟨running.ready, running.serving, running.live⟩⟩

theorem moves_queueKeepalive (running : Running inner) :
    Moves crypto grant inner inner.queueKeepalive ∧ Running inner.queueKeepalive := by
  unfold queueKeepalive
  split
  · exact ⟨.refl, running⟩
  · next channel _ =>
      rcases dropOldestControl_same inner with ⟨controls, events, history, same⟩
      have room : Moves crypto grant inner inner.dropOldestControl := moves_dropOldestControl
      rw [same] at room
      simp only [queuePacket, same]
      exact ⟨room.then (.keepAlive _ running.live running.serving),
        ⟨running.ready, running.serving, running.live⟩⟩

theorem moves_rearmMaintenance (running : Running inner) (due : Bool) (now : Nat) :
    Moves crypto grant inner (inner.rearmMaintenance due now) ∧
      Running (inner.rearmMaintenance due now) := by
  unfold rearmMaintenance
  split
  · exact moves_timer running _ _ _ _ _
  · exact ⟨.refl, running⟩

theorem moves_keepPathAlive (running : Running inner) (now : Nat) :
    Moves crypto grant inner (inner.keepPathAlive now) ∧ Running (inner.keepPathAlive now) := by
  unfold keepPathAlive
  split
  · have timed : Moves crypto grant inner _ ∧ Running _ := moves_timer running
      inner.allocationRefresh inner.maintenanceRefresh inner.permissionRetry inner.channelRetry
      (some (now + inner.profile.keepaliveInterval))
    have queued : Moves crypto grant _ _ ∧ Running _ := moves_queueKeepalive timed.2
    exact ⟨timed.1.trans queued.1, queued.2⟩
  · exact ⟨.refl, running⟩

theorem moves_maintain (running : Running inner) (now : Nat) (draw : Operation → Draw) :
    Moves crypto grant inner (inner.maintain crypto now draw).1 ∧
      Running (inner.maintain crypto now draw).1 := by
  unfold maintain
  apply moves_andThen
  · exact moves_startDue running draw _ _ (Or.inl rfl) (moves_timer running _ _ _ _ _)
  · intro refreshed running
    have rearmed : Moves crypto grant refreshed _ ∧ Running _ :=
      moves_rearmMaintenance running (isDue inner.maintenanceRefresh now) now
    apply moves_andThen
    · have started : Moves crypto grant _ _ ∧ Running _ := moves_startDue rearmed.2 draw
        (isDue inner.maintenanceRefresh now || isDue inner.permissionRetry now)
        ({ · with permissionRetry := none }) (Or.inr (Or.inl rfl))
        (moves_timer rearmed.2 _ _ none _ _)
      exact ⟨rearmed.1.trans started.1, started.2⟩
    · intro permitted running
      apply moves_andThen
      · exact moves_startDue running draw _ _ (Or.inr (Or.inr rfl)) (moves_timer running _ _ _ _ _)
      · exact fun bound running => moves_keepPathAlive running now

theorem moves_expireAllocation (now : Nat) :
    Moves crypto grant inner (inner.expireAllocation now) := by
  unfold expireAllocation
  split
  · exact moves_destroyAllocation _ _ _
  · exact .refl

theorem moves_poll (sound : Sound inner) (now : Nat) (draw : Operation → Draw) :
    Moves crypto grant inner (inner.poll crypto now draw).1 := by
  unfold poll
  split
  · exact .refl
  · have expired : Moves crypto grant inner
        ((inner.expireTransactions now).expireAllocation now) :=
      (moves_expireTransactions now).trans (moves_expireAllocation now)
    have maintained : Moves crypto grant inner
        (if ((inner.expireTransactions now).expireAllocation now).shuttingDown = false ∧
            ((inner.expireTransactions now).expireAllocation now).state = .ready then
          ((inner.expireTransactions now).expireAllocation now).maintain crypto now draw
        else ((inner.expireTransactions now).expireAllocation now, .ok ())).1 := by
      split
      · next serving =>
          have held := (sound_moves expired sound).held serving.2
          exact expired.trans (moves_maintain ⟨serving.2, serving.1, held.2.2.2⟩ now draw).1
      · exact expired
    simp only
    split <;> exact maintained

theorem moves_resyncAfterSuspend (now : Nat) (gap : Nat) :
    Moves crypto grant inner (inner.resyncAfterSuspend now gap).1 := by
  unfold resyncAfterSuspend
  split
  · exact .refl
  · next running =>
      have ready : inner.state = .ready := by
        simp only [not_or, not_not] at running
        exact running.2.2
      simp only
      split
      · exact .one (.schedule inner.channel (some now) (some now) inner.permissionRetry
          inner.channelRetry (some now) inner.refreshFailures inner.permissionFailures
          inner.channelFailures)
      · next expires _ =>
          split
          · have aged : Moves crypto grant inner _ := .one (.extend (expires - gap) ready)
            exact aged.then (.schedule inner.channel (some now) (some now) inner.permissionRetry
              inner.channelRetry (some now) inner.refreshFailures inner.permissionFailures
              inner.channelFailures)
          · exact moves_destroyAllocation _ _ _

theorem moves_beginShutdown :
    Moves crypto grant inner { inner.beginShutdown with shuttingDown := inner.shuttingDown } :=
  (Moves.one (.discard [])).then (.schedule none inner.allocationRefresh none none none none
    inner.refreshFailures inner.permissionFailures inner.channelFailures)

/-- A shutdown that is not one already first stops everything, then is a sequence of moves. -/
theorem gracefulShutdown_begins (draw : Operation → Draw) (inner : Inner) :
    ((inner.destroyed = true ∨ inner.shuttingDown = true) ∧
      (inner.gracefulShutdown crypto draw).1 = inner) ∨
    ∃ begun, Moves crypto grant inner begun ∧ begun.history = inner.history ∧
      begun.shuttingDown = true ∧ (begun.state = .allocating → inner.state = .allocating) ∧
      Moves crypto grant begun (inner.gracefulShutdown crypto draw).1 := by
  have stopped : Moves crypto grant inner _ := moves_beginShutdown
  unfold gracefulShutdown
  split
  · next already => exact Or.inl ⟨already, rfl⟩
  · next running =>
      right
      have live : inner.destroyed = false := by
        simp only [not_or, Bool.not_eq_true] at running
        exact running.1
      simp only
      split
      · next held =>
          have either : inner.state = .ready ∨ inner.state = .destroying :=
            held.imp_right And.left
          have begun : Moves crypto grant inner
              { ({ inner.beginShutdown with pending := [] } : Inner) with
                state := .deallocating } :=
            stopped.then (.shutdownHeld either)
          refine ⟨_, begun, rfl, rfl, (fun waiting => by cases waiting), ?_⟩
          have entered : Moves crypto grant
              { ({ inner.beginShutdown with pending := [] } : Inner) with
                state := .deallocating }
              (({ inner.beginShutdown with pending := [] } : Inner).setState .deallocating) :=
            moves_setState .refl
          apply entered.trans
          apply moves_startOperation
          · rcases setState_same { inner.beginShutdown with pending := [] } .deallocating with
              ⟨events, history, final⟩
            rw [final]
            exact ⟨live, rfl, rfl⟩
          · exact fun _ => rfl
          · exact Nat.zero_le _
      · next notHeld =>
          have notReady : inner.state ≠ .ready := fun ready => notHeld (Or.inl ready)
          split
          · exact ⟨_, stopped.then (.shutdownIdle notReady), rfl, rfl, id, .refl⟩
          · next waiting =>
              exact ⟨_, stopped.then (.shutdownAllocating (not_not.mp waiting)), rfl, rfl, id, .refl⟩

theorem moves_gracefulShutdown (draw : Operation → Draw) :
    Moves crypto grant inner (inner.gracefulShutdown crypto draw).1 := by
  rcases @gracefulShutdown_begins crypto grant draw inner with
    ⟨-, same⟩ | ⟨begun, moves, -, -, -, rest⟩
  · rw [same]
    exact .refl
  · exact moves.trans rest

/-- So does a forced end. -/
theorem forceDestroy_begins (status : Int) (inner : Inner) :
    ∃ begun, Moves crypto grant inner begun ∧ begun.history = inner.history ∧
      begun.destroyed = true ∧ Moves crypto grant begun (inner.forceDestroy status) := by
  unfold forceDestroy
  split
  · next gone => exact ⟨inner, .refl, rfl, gone, .refl⟩
  · have emptied : Moves crypto grant inner { inner with controls := [] } := .one (.discard [])
    have begun : Moves crypto grant inner
        { ({ inner with destroyed := true, controls := [], pending := [] } : Inner) with
          state := .destroying } :=
      emptied.then .force
    have entered : Moves crypto grant
        { ({ inner with destroyed := true, controls := [], pending := [] } : Inner) with
          state := .destroying }
        (({ inner with destroyed := true, controls := [], pending := [] } : Inner).setState
          .destroying) :=
      moves_setState .refl
    exact ⟨_, begun, rfl, rfl, entered.then (.event _ (by simp))⟩

theorem moves_forceDestroy (status : Int) :
    Moves crypto grant inner (inner.forceDestroy status) := by
  rcases @forceDestroy_begins crypto grant status inner with
    ⟨begun, moves, -, -, rest⟩
  exact moves.trans rest

theorem live_of_requireOpen {reason : String} (passed : inner.requireOpen reason = .ok ()) :
    inner.destroyed = false ∧ inner.shuttingDown = false := by
  unfold requireOpen at passed
  split at passed
  · cases passed
  · next running => simpa using running

theorem running_of_requireReady {reason : String} (passed : inner.requireReady reason = .ok ()) :
    Running inner := by
  cases opened : inner.requireOpen reason with
  | error text =>
      simp only [requireReady, opened] at passed
      cases passed
  | ok passing =>
      have live := live_of_requireOpen opened
      simp only [requireReady, opened, bind, Except.bind] at passed
      split at passed
      · cases passed
      · next ready => exact ⟨not_not.mp ready, live.2, live.1⟩

theorem moves_startAllocation (draw : Operation → Draw) :
    Moves crypto grant inner (inner.startAllocation crypto draw).1 := by
  unfold startAllocation
  split
  · exact .refl
  · next opened =>
      have live := live_of_requireOpen opened
      split
      · exact .refl
      · next idle =>
          have begun : Moves crypto grant inner { inner with state := .allocating } :=
            .one (.begin (not_not.mp idle) live.2)
          apply (moves_setState begun).trans
          apply moves_startOperation
          · rcases setState_same inner .allocating with ⟨events, history, final⟩
            rw [final]
            exact ⟨live.1, rfl⟩
          · exact fun other => absurd rfl other
          · exact Nat.zero_le _

theorem moves_startUpkeep (running : Running inner) (draw : Draw) {operation : Operation}
    (upkeep : operation = .refresh ∨ operation = .permission ∨ operation = .channel) :
    Moves crypto grant inner (inner.startOperation crypto draw operation true 0).1 :=
  moves_startOperation draw operation true 0 (permits_of_running running upkeep) (fun _ => rfl)
    (Nat.zero_le _)

theorem moves_pullControl : Moves crypto grant inner inner.pullControl.1 := by
  unfold pullControl
  split
  · exact .refl
  · simp only
    split <;> exact .one (.discard _)

/-- A move that needs no permission is a move under any. -/
theorem Move.mono {grant' : Prop} (implies : grant → grant')
    (move : Move crypto grant inner inner') : Move crypto grant' inner inner' := by
  cases move
  case granted relay expires allowed live waiting quiet credentialed =>
    exact .granted relay expires (implies allowed) live waiting quiet credentialed
  all_goals constructor
  all_goals assumption

theorem Moves.mono {grant' : Prop} (implies : grant → grant')
    (moves : Moves crypto grant inner inner') : Moves crypto grant' inner inner' := by
  induction moves with
  | refl => exact .refl
  | tail _ move inductionHypothesis => exact inductionHypothesis.then (move.mono implies)

end Operations

/-!
### Steps and runs
-/

section Runs

variable {crypto : StunCrypto} {inner : Inner}

/-- The call hands in a message that grants the allocation. -/
def GrantedBy (crypto : StunCrypto) (inner : Inner) (call : Call) : Prop :=
  ∃ packet message index pending, call.action = .inputStun packet ∧
    Message.decode packet = .ok message ∧ message.fingerprintValid crypto.crc32 ≠ some false ∧
    Grants crypto inner message index pending

theorem moves_inputStun (sound : Sound inner) (call : Call) {packet : List U8}
    (action : call.action = .inputStun packet) :
    Moves crypto (GrantedBy crypto inner call) inner
      (inner.inputStun crypto call.now call.draw packet).1 := by
  rcases @inputStun_cases crypto call.now call.draw packet inner with same | answered
  · rw [same]
    exact .refl
  · rcases answered with ⟨message, index, pending, decoded, responds, valid, -, found, answers, same⟩
    rw [same]
    exact (moves_answer sound call.now call.draw message found answers responds).mono
      fun grants => ⟨packet, message, index, pending, action, decoded, valid, grants⟩

/-- Every call but the removal of an event is a sequence of moves. -/
theorem moves_step (sound : Sound inner) (call : Call) (other : call.action ≠ .pullEvent) :
    Moves crypto (GrantedBy crypto inner call) inner (inner.step crypto call).1 := by
  cases action : call.action with
  | startAllocation => simpa only [step, action] using moves_startAllocation call.draw
  | startChannel =>
      simp only [step, action, startChannel]
      split
      · exact .refl
      · next passed =>
          exact moves_startUpkeep (running_of_requireReady passed) _ (Or.inr (Or.inr rfl))
  | startPermission =>
      simp only [step, action, startPermission]
      split
      · exact .refl
      · next passed =>
          exact moves_startUpkeep (running_of_requireReady passed) _ (Or.inr (Or.inl rfl))
  | inputStun packet => simpa only [step, action] using moves_inputStun sound call action
  | poll => simpa only [step, action] using moves_poll sound call.now call.draw
  | resyncAfterSuspend gap => simpa only [step, action] using moves_resyncAfterSuspend call.now gap
  | pullControl => simpa only [step, action] using moves_pullControl
  | pullEvent => exact absurd action other
  | gracefulShutdown => simpa only [step, action] using moves_gracefulShutdown call.draw
  | forceDestroy status => simpa only [step, action] using moves_forceDestroy status

theorem step_pullEvent {call : Call} (action : call.action = .pullEvent) :
    (inner.step crypto call).1 = { inner with events := inner.events.drop 1 } := by
  simp only [step, action, pullEvent]

theorem sound_step (call : Call) (sound : Sound inner) : Sound (inner.step crypto call).1 := by
  by_cases action : call.action = .pullEvent
  · rw [step_pullEvent action]
    exact sound_congr sound rfl rfl rfl rfl rfl rfl rfl rfl rfl rfl
  · exact sound_moves (moves_step sound call action) sound

/-- A client that was just made. -/
def Fresh (inner : Inner) : Prop :=
  ∃ server username password peer transport,
    createWithTransport server username password peer transport = .ok inner

/-- The client of a user with a relay server and a peer on the local host. -/
def localClient (transport : TurnControlTransport) : Inner :=
  initial { ip := .v4 0x7f000001, port := 3478 } [0x75, 0x73, 0x65, 0x72] [0x70, 0x61, 0x73, 0x73]
    { ip := .v4 0x7f000001, port := 9000 } .pjnathCompat transport

theorem fresh_localClient (transport : TurnControlTransport) : Fresh (localClient transport) := by
  exists { ip := .v4 0x7f000001, port := 3478 }, [0x75, 0x73, 0x65, 0x72],
    [0x70, 0x61, 0x73, 0x73], { ip := .v4 0x7f000001, port := 9000 }, transport

/-- What a client starts with. -/
structure Blank (inner : Inner) : Prop where
  state : inner.state = .null
  pending : inner.pending = []
  expires : inner.allocationExpiresAt = none
  history : inner.history = []
  events : inner.events = []
  started : inner.started = 0
  running : inner.shuttingDown = false
  live : inner.destroyed = false
  profile : inner.profile = .pjnathCompat
  timers : inner.deadlines = []

theorem blank_of_fresh (fresh : Fresh inner) : Blank inner := by
  rcases fresh with ⟨server, username, password, peer, transport, created⟩
  unfold createWithTransport create at created
  simp only at created
  split at created
  · cases created
  · split at created
    · cases created
    · cases created
      exact ⟨rfl, rfl, rfl, rfl, rfl, rfl, rfl, rfl, rfl, rfl⟩

theorem sound_fresh (fresh : Fresh inner) : Sound inner := by
  have blank := blank_of_fresh fresh
  apply sound_idle blank.pending
  · intro ready
    rw [blank.state] at ready
    cases ready
  · intro known
    rw [blank.expires] at known
    cases known

/-- The state after some calls. -/
def after (crypto : StunCrypto) (inner : Inner) (calls : List Call) : Inner :=
  (Transducer.run (Inner.step crypto) inner calls).1

theorem sound_run (fresh : Fresh inner) (calls : List Call) : Sound (after crypto inner calls) :=
  Transducer.run_invariant _ (fun _ call => sound_step call) inner calls (sound_fresh fresh)

end Runs

end Csqtt
