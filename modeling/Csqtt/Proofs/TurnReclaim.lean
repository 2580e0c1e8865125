/-
Module: Csqtt.Proofs.TurnReclaim
Purpose: Credentials that were good for a request are good for the request that gives the
  allocation up, so an allocation that was obtained can be given up.
Trusted boundary: none
Main exports: Affords, affords_of_buildRequest, buildRequest_deallocate, Affordable,
  affordable_run, Releases, startOperation_deallocate, TakesOver, completeSuccess_allocate
-/
import Csqtt.Proofs.TurnRequests
import Csqtt.Proofs.TurnSteps

namespace Csqtt

open Tlv Inner

section Size

variable {crypto : StunCrypto} {inner : Inner} {operation : Operation} {transaction : Transaction}
  {packet : List U8}

/-- The credentials at hand leave room for the request that gives an allocation up. -/
def Affords (inner : Inner) : Prop :=
  inner.key.isSome ∧ sizeAll (credentialRecords inner) + 40 < 65536

theorem size_of_value {record : Record} (value : 4 ≤ record.value.length) : 8 ≤ record.size := by
  have room := le_padded record.value.length
  unfold Record.size
  omega

theorem length_encodeXorAddress (address : SocketAddr) (transaction : Transaction) :
    4 ≤ (encodeXorAddress address transaction).length := by
  unfold encodeXorAddress
  cases address.ip <;> simp

/-- No request asks for less than the one that gives an allocation up. -/
theorem size_requestRecords (inner : Inner) (operation : Operation) (transaction : Transaction) :
    8 ≤ sizeAll (requestRecords inner operation transaction) := by
  have first (record : Record) (records : List Record) (value : 4 ≤ record.value.length) :
      8 ≤ sizeAll (record :: records) := by
    have size := size_of_value value
    rw [sizeAll_cons]
    omega
  cases operation with
  | permission => exact first _ _ (length_encodeXorAddress inner.peer transaction)
  | _ => exact first _ _ (Nat.le_refl 4)

theorem affords_of_buildRequest
    (built : inner.buildRequest crypto operation transaction true = .ok packet) : Affords inner := by
  unfold buildRequest at built
  simp only [if_true] at built
  split at built
  · cases built
  · next key known =>
      have fits := finishAuthenticated_ok holds_credentialBuilder built
      have request := size_requestRecords inner operation transaction
      rw [sizeAll_append] at fits
      constructor
      · rw [known]
        rfl
      · omega

theorem buildRequest_deallocate (affords : Affords inner) (transaction : Transaction) :
    ∃ packet, inner.buildRequest crypto .deallocate transaction true = .ok packet := by
  rcases Option.isSome_iff_exists.mp affords.1 with ⟨key, known⟩
  have size : sizeAll (requestRecords inner .deallocate transaction) = 8 := rfl
  have fits : sizeAll (requestRecords inner .deallocate transaction ++ credentialRecords inner) +
      32 < 65536 := by
    have room := affords.2
    rw [sizeAll_append, size]
    omega
  simp only [buildRequest, if_true, known]
  exact ⟨_, finishAuthenticated_wire key holds_credentialBuilder fits⟩

end Size

section Pending

variable {crypto : StunCrypto} {grant : Prop} {inner inner' : Inner}

/-- Whoever asks for an allocation with credentials could give it up with them. -/
def Affordable (inner : Inner) : Prop :=
  ∀ pending ∈ inner.pending, pending.operation = .allocate → pending.authenticated = true →
    Affords inner

theorem affordable_move (move : Move crypto grant inner inner') (affordable : Affordable inner) :
    Affordable inner' := by
  cases move with
  | start operation transaction time authenticated nonceRetries packet absent permitted
      credentialed proves tries built =>
      intro pending member allocate proven
      rcases List.mem_append.mp member with old | last
      · exact affordable pending old allocate proven
      · rw [List.mem_singleton.mp last] at proven
        rw [show authenticated = true from proven] at built
        exact affords_of_buildRequest built
  | learn realm nonce settled =>
      -- New credentials are learnt only while no Allocate waits for its answer.
      intro pending member allocate
      exact absurd allocate (permits_of_hasOperation settled member)
  | take index =>
      exact fun pending member => affordable pending (List.mem_of_mem_eraseIdx member)
  | timeOut index gone now found due last =>
      exact fun pending member => affordable pending (List.mem_of_mem_eraseIdx member)
  | retransmit index again now found due left =>
      intro pending member allocate proven
      rcases List.mem_or_eq_of_mem_set member with old | rfl
      · exact affordable pending old allocate proven
      · exact affordable again (List.mem_of_getElem? found) allocate proven
  | destroy state final => exact fun pending member => by cases member
  | exhaust => exact fun pending member => by cases member
  | shutdownHeld held => exact fun pending member => by cases member
  | shutdownIdle notReady => exact fun pending member => by cases member
  | force => exact fun pending member => by cases member
  | _ => exact affordable

theorem affordable_moves (moves : Moves crypto grant inner inner')
    (affordable : Affordable inner) : Affordable inner' := by
  induction moves with
  | refl => exact affordable
  | tail _ move inductionHypothesis => exact affordable_move move inductionHypothesis

theorem affordable_step (sound : Sound inner) (call : Call) (affordable : Affordable inner) :
    Affordable (inner.step crypto call).1 := by
  by_cases action : call.action = .pullEvent
  · rw [step_pullEvent action]
    exact affordable
  · exact affordable_moves (moves_step sound call action) affordable

theorem affordable_fresh (fresh : Fresh inner) : Affordable inner := by
  intro pending member
  rw [(blank_of_fresh fresh).pending] at member
  cases member

theorem affordable_run (fresh : Fresh inner) (calls : List Call) :
    Affordable (after crypto inner calls) := by
  have kept : Sound (after crypto inner calls) ∧ Affordable (after crypto inner calls) :=
    Transducer.run_invariant _
      (fun state call (both : Sound state ∧ Affordable state) =>
        ⟨sound_step call both.1, affordable_step both.1 call both.2⟩)
      inner calls ⟨sound_fresh fresh, affordable_fresh fresh⟩
  exact kept.2

/-- A request that gives the allocation up waits to be sent. -/
def Releases (inner : Inner) : Prop :=
  ∃ control ∈ inner.controls, IsRequest .deallocate control.packet

/-- With nothing pending and credentials that leave room, the request that gives an allocation
up is queued. -/
theorem startOperation_deallocate (idle : inner.pending = []) (credentialed : inner.Credentialed)
    (affords : Affords inner) (draw : Draw) :
    (inner.startOperation crypto draw .deallocate true 0).2 = .ok () ∧
      Releases (inner.startOperation crypto draw .deallocate true 0).1 := by
  rcases @buildRequest_deallocate crypto inner affords draw.transaction with ⟨packet, built⟩
  have known : ¬(inner.realm.isNone ∨ inner.nonce.isNone ∨ inner.key.isNone) := by
    simp only [← Option.not_isSome, credentialed.1, credentialed.2.1, credentialed.2.2]
    decide
  have absent : inner.hasOperation .deallocate = false := by
    rw [hasOperation, idle]
    rfl
  unfold startOperation
  simp only [absent, Bool.false_eq_true, if_false, known, and_false, built]
  refine ⟨trivial, { packet := packet, destination := inner.dropOldestControl.server }, ?_,
    isRequest_of_build built⟩
  exact List.mem_append_right _ (List.mem_singleton_self _)

/-- What taking over a usable grant leads to. -/
structure TakesOver (inner inner' : Inner) (granted : SocketAddr × U32) (now : Nat) : Prop where
  relay : inner'.relay = some granted.1
  expires : inner'.allocationExpiresAt = some (now + seconds granted.2.toNat)
  destroyed : inner'.destroyed = inner.destroyed
  shuttingDown : inner'.shuttingDown = inner.shuttingDown
  credentials : credentialRecords inner' = credentialRecords inner
  key : inner'.key = inner.key
  ready : inner.shuttingDown = false → inner'.state = .ready
  released : inner.shuttingDown = true → Releases inner'

theorem completeSuccess_allocate (idle : inner.pending = []) (credentialed : inner.Credentialed)
    (affords : Affords inner) {message : Message} {granted : SocketAddr × U32}
    (usable : inner.grantOf message = .ok granted) (draw : Draw) (now : Nat) :
    let completed := inner.completeSuccess crypto draw .allocate message now
    completed.2 = .ok () ∧ TakesOver inner completed.1 granted now := by
  unfold completeSuccess
  simp only [usable]
  split
  · next closing =>
      rcases setState_same (inner.allocated granted.1 (attributeU32 message attrLifetime)
        granted.2 now) .deallocating with ⟨events, history, final⟩
      rw [final]
      rcases @startOperation_same crypto draw .deallocate true 0 {
          inner.allocated granted.1 (attributeU32 message attrLifetime) granted.2 now with
          state := .deallocating, events := events, history := history } with
        ⟨controls, events', history', pending, started, same⟩
      have queued := @startOperation_deallocate crypto {
          inner.allocated granted.1 (attributeU32 message attrLifetime) granted.2 now with
          state := .deallocating, events := events, history := history } idle credentialed affords
            draw
      refine ⟨queued.1, ?_⟩
      constructor
      case ready => exact fun serving => absurd closing (by simp [allocated, pushEvent, serving])
      case released => exact fun _ => queued.2
      all_goals
        rw [same]
        rfl
  · next serving =>
      rcases setState_same (inner.allocated granted.1 (attributeU32 message attrLifetime)
        granted.2 now) .ready with ⟨events, history, final⟩
      rw [final]
      exact ⟨rfl, ⟨rfl, rfl, rfl, rfl, rfl, rfl, fun _ => rfl, fun closing => absurd closing serving⟩⟩

theorem completeSuccess_error {message : Message} {reason : String}
    (unusable : inner.grantOf message = .error reason) (draw : Draw) (now : Nat) :
    inner.completeSuccess crypto draw .allocate message now = (inner, .error reason) := by
  simp only [completeSuccess, unusable]

end Pending

end Csqtt
