/-
Module: Csqtt.Proofs.TurnIntegrity
Purpose: What the MAC of a response covers, and when two responses with the same covered
  part are processed alike.
Trusted boundary: none
Main exports: AgreeThroughIntegrity, attribute_agree, verifyIntegrity_agree, SameReadings,
  uncovered_bytes_ignored_iff
-/
import Csqtt.Proofs.StunBounds
import Csqtt.Proofs.TurnReclaim
import Csqtt.Proofs.TurnEvents

namespace Csqtt

open Tlv Inner

section Walk

variable {raw first second : List U8} {stop stop' count : Nat} {target : U16} {found : Attribute}

/-- The attributes of a checked message lie within it, and are as long as they say. -/
theorem collect_within (whole : stop ≤ raw.length) (fuel position : Nat)
    (checked : checkAttributes raw stop fuel position = .ok ()) :
    ∀ item ∈ Attributes.collect fuel { raw := raw, position := position, stop := stop },
      position ≤ item.headerStart ∧ item.value.length = u16At raw (item.headerStart + 2) ∧
        item.headerStart + 4 + item.value.length ≤ stop := by
  induction fuel generalizing position with
  | zero => exact fun item member => by cases member
  | succ fuel inductionHypothesis =>
      intro item member
      unfold checkAttributes at checked
      unfold Attributes.collect Attributes.next at member
      by_cases more : position < stop
      · simp only [more, if_true] at checked member
        split at checked
        · cases checked
        · split at checked
          · cases checked
          · next inside =>
              have room := le_padded (u16At raw (position + 2))
              simp only [not_or, Nat.not_lt] at inside
              rcases List.mem_cons.mp member with rfl | rest
              · have size : (slice raw (position + 4) (u16At raw (position + 2))).length =
                    u16At raw (position + 2) := by
                  rw [length_slice]
                  omega
                exact ⟨Nat.le_refl _, size, by rw [size]; exact inside.2⟩
              · have later := inductionHypothesis _ checked item rest
                exact ⟨by omega, later.2⟩
      · simp only [more, if_false] at member
        cases member

theorem le_headerStart (fuel position : Nat) (item : Attribute)
    (member : item ∈ Attributes.collect fuel { raw := raw, position := position, stop := stop }) :
    position ≤ item.headerStart := by
  induction fuel generalizing position with
  | zero => cases member
  | succ fuel inductionHypothesis =>
      unfold Attributes.collect Attributes.next at member
      by_cases more : position < stop
      · simp only [more, if_true] at member
        rcases List.mem_cons.mp member with rfl | rest
        · exact Nat.le_refl _
        · have later := inductionHypothesis _ rest
          omega
      · simp only [more, if_false] at member
        cases member

/-- An attribute within the part that two messages share is found in both. -/
theorem find_collect_agree (same : slice first 4 count = slice second 4 count)
    (size : found.value.length = u16At first (found.headerStart + 2))
    (covered : found.headerStart + found.value.length ≤ count)
    (inside : found.headerStart < stop') (fuel fuel' position : Nat) (begins : 4 ≤ position)
    (enough : found.headerStart < position + fuel')
    (located : (Attributes.collect fuel
      { raw := first, position := position, stop := stop }).find? (·.kind = target) = some found) :
    (Attributes.collect fuel'
      { raw := second, position := position, stop := stop' }).find? (·.kind = target) =
        some found := by
  induction fuel generalizing fuel' position with
  | zero => cases located
  | succ fuel inductionHypothesis =>
      have start := le_headerStart _ _ found (List.mem_of_find?_eq_some located)
      cases fuel' with
      | zero => omega
      | succ fuel' =>
          have kinds : u16At first position = u16At second position :=
            congrArg beValue (slice_within same begins (by omega))
          have lengths : u16At first (position + 2) = u16At second (position + 2) :=
            congrArg beValue (slice_within same (by omega) (by omega))
          have more' : position < stop' := by omega
          unfold Attributes.collect Attributes.next at located ⊢
          by_cases more : position < stop
          · simp only [more, more', if_true, List.find?_cons] at located ⊢
            rw [← kinds, ← lengths]
            split at located
            · next matching =>
                cases located
                have values : slice first (position + 4) (u16At first (position + 2)) =
                    slice second (position + 4) (u16At first (position + 2)) :=
                  slice_within same (by omega) (by rw [← size]; omega)
                rw [matching, ← values]
            · next different =>
                rw [different]
                exact inductionHypothesis fuel' _ (by omega) (by omega) located
          · simp only [more, if_false] at located
            cases located

end Walk

/-- Two messages with the same bytes up to the end of the MAC, the length in the header
apart. -/
structure AgreeThroughIntegrity (first second : Message) : Prop where
  type : first.raw.take 2 = second.raw.take 2
  covered : ∃ integrity, first.attribute attrMessageIntegrity = some integrity ∧
    slice first.raw 4 (integrity.headerStart + integrity.value.length) =
      slice second.raw 4 (integrity.headerStart + integrity.value.length)

section Agreement

variable {crypto : StunCrypto} {packet packet' : List U8} {first second : Message}
  {integrity : Attribute}

/-- An attribute of a decoded message lies behind the header and within the message. -/
theorem attribute_within {target : U16} {found : Attribute} (decoded : Decoded packet first)
    (located : first.attribute target = some found) :
    20 ≤ found.headerStart ∧ found.value.length = u16At first.raw (found.headerStart + 2) ∧
      found.headerStart + 4 + found.value.length ≤ first.raw.length := by
  have member := List.mem_of_find?_eq_some located
  rw [Message.attributes, decoded.stop, decoded.bytes] at member
  rw [decoded.bytes]
  exact collect_within (Nat.le_refl _) _ _ decoded.checked found member

/-- What is found in one of them no later than the MAC is found in the other. -/
theorem attribute_agree {target : U16} {found : Attribute} (decoded : Decoded packet first)
    (decoded' : Decoded packet' second) (agree : AgreeThroughIntegrity first second)
    (signed : first.attribute attrMessageIntegrity = some integrity)
    (located : first.attribute target = some found)
    (covered : found.headerStart + found.value.length ≤
      integrity.headerStart + integrity.value.length) :
    second.attribute target = some found := by
  rcases agree.covered with ⟨other, same, shared⟩
  rw [signed, Option.some.injEq] at same
  subst same
  have here := attribute_within decoded located
  have whole := attribute_within decoded signed
  have size : integrity.headerStart + integrity.value.length ≤ second.raw.length - 4 := by
    have lengths := congrArg List.length shared
    rw [length_slice, length_slice] at lengths
    omega
  have inside : found.headerStart < second.stop := by
    rw [decoded'.stop, ← decoded'.bytes]
    omega
  exact find_collect_agree shared here.2.1 covered inside first.stop second.stop headerSize
    (by decide) (by omega) located

theorem kind_agree (decoded : Decoded packet first) (decoded' : Decoded packet' second)
    (agree : AgreeThroughIntegrity first second) : first.kind = second.kind := by
  have front : u16At packet 0 = u16At packet' 0 := by
    rw [← decoded.bytes, ← decoded'.bytes]
    exact u16At_congr agree.type
  rw [decoded.kind, decoded'.kind, front]

theorem transaction_agree (decoded : Decoded packet first) (decoded' : Decoded packet' second)
    (agree : AgreeThroughIntegrity first second) : first.transaction = second.transaction := by
  rcases agree.covered with ⟨integrity, signed, shared⟩
  have place := attribute_within decoded signed
  have identifiers : slice packet 8 12 = slice packet' 8 12 := by
    rw [← decoded.bytes, ← decoded'.bytes]
    exact slice_within shared (by omega) (by omega)
  rw [decoded.transaction, decoded'.transaction, identifiers]

/-- The part that the MAC covers, its length field set. -/
theorem overwrite_agree (agree : AgreeThroughIntegrity first second)
    (signed : first.attribute attrMessageIntegrity = some integrity) {length : Nat}
    (behind : 20 ≤ integrity.headerStart) :
    overwrite (first.raw.take integrity.headerStart) 2 (beBytes 2 length) =
      overwrite (second.raw.take integrity.headerStart) 2 (beBytes 2 length) := by
  rcases agree.covered with ⟨other, same, shared⟩
  rw [signed, Option.some.injEq] at same
  subst same
  have front : (first.raw.take integrity.headerStart).take 2 =
      (second.raw.take integrity.headerStart).take 2 := by
    rw [List.take_take, List.take_take, Nat.min_eq_left (by omega)]
    exact agree.type
  have rest : (first.raw.take integrity.headerStart).drop 4 =
      (second.raw.take integrity.headerStart).drop 4 := by
    rw [List.drop_take, List.drop_take]
    exact slice_within shared (Nat.le_refl 4) (by omega)
  rw [overwrite, overwrite, length_beBytes, front, rest]

/-- Messages with the same covered part pass or fail the check of their integrity alike. -/
theorem verifyIntegrity_agree (decoded : Decoded packet first)
    (decoded' : Decoded packet' second) (agree : AgreeThroughIntegrity first second)
    (key : Option (List U8)) :
    verifyIntegrity crypto first.raw first key = verifyIntegrity crypto second.raw second key := by
  rcases agree.covered with ⟨integrity, signed, shared⟩
  have signed' := attribute_agree decoded decoded' agree signed signed (Nat.le_refl _)
  have behind := (attribute_within decoded signed).1
  unfold verifyIntegrity
  cases key with
  | none => rfl
  | some key => simp only [signed, signed', overwrite_agree agree signed behind]

end Agreement

/-!
### Successes
-/

/-- What a success takes from the attributes of its message is the same in both: for an
Allocate the usable relay address and the lifetime, if it has them; for a Refresh the
lifetime; for the end of an allocation whether the lifetime is zero. -/
def SameReadings (inner : Inner) (operation : Operation) (first second : Message) : Prop :=
  match operation with
  | .allocate => (inner.grantOf first).toOption = (inner.grantOf second).toOption
  | .refresh =>
      (attributeU32 first attrLifetime).getD requestedAllocationLifetimeSecs =
        (attributeU32 second attrLifetime).getD requestedAllocationLifetimeSecs
  | .deallocate =>
      (attributeU32 first attrLifetime).getD 0 = 0 ↔ (attributeU32 second attrLifetime).getD 0 = 0
  | .permission => True
  | .channel => True

section Successes

variable {crypto : StunCrypto} {inner : Inner} {first second message : Message} {now : Nat}
  {draw : Operation → Draw} {pending : PendingTransaction}

theorem lifetime_of_grant {granted : SocketAddr × U32}
    (usable : inner.grantOf message = .ok granted) :
    granted.2 = (attributeU32 message attrLifetime).getD requestedAllocationLifetimeSecs := by
  unfold grantOf at usable
  split at usable
  · cases usable
  · next found _ =>
      cases decoded : decodeXorAddress found.value message.transaction with
      | error reason =>
          rw [decoded] at usable
          cases usable
      | ok relay =>
          rw [decoded] at usable
          simp only [bind, Except.bind] at usable
          split at usable
          · cases usable
          · split at usable
            · cases usable
            · rw [← Except.ok.inj usable]

theorem deadline_congr {returned returned' : Option U32} {interval : Nat}
    (same : returned.getD requestedAllocationLifetimeSecs =
      returned'.getD requestedAllocationLifetimeSecs) :
    allocationRefreshDeadline now returned interval =
      allocationRefreshDeadline now returned' interval := by
  rw [allocationRefreshDeadline, allocationRefreshDeadline, same]

theorem allocated_congr {returned returned' : Option U32} {relay : SocketAddr} {lifetime : U32}
    (same : returned.getD requestedAllocationLifetimeSecs =
      returned'.getD requestedAllocationLifetimeSecs) :
    inner.allocated relay returned lifetime now = inner.allocated relay returned' lifetime now := by
  rw [allocated, allocated, deadline_congr same]

theorem seconds_inj {first second : U32}
    (same : some (now + seconds first.toNat) = some (now + seconds second.toNat)) :
    first = second := by
  have sums := Option.some.inj same
  unfold seconds at sums
  apply BitVec.eq_of_toNat_eq
  omega

theorem answerSuccess_allocate (idle : inner.pending = []) (credentialed : inner.Credentialed)
    (affords : Affords inner) (allocate : pending.operation = .allocate) :
    inner.answerSuccess crypto now draw first pending =
        inner.answerSuccess crypto now draw second pending ↔
      (inner.grantOf first).toOption = (inner.grantOf second).toOption := by
  cases usable : inner.grantOf first with
  | error reason =>
      cases usable' : inner.grantOf second with
      | error reason' =>
          simp only [answerSuccess, allocate, completeSuccess_error usable,
            completeSuccess_error usable', Except.toOption]
      | ok granted' =>
          have completed' := @completeSuccess_allocate crypto inner idle credentialed affords
            second granted' usable' (draw .deallocate) now
          simp only [answerSuccess, allocate, completeSuccess_error usable, completed'.1,
            Except.toOption, Prod.mk.injEq, reduceCtorEq, iff_false, not_and]
          exact fun _ => by decide
  | ok granted =>
      have completed := @completeSuccess_allocate crypto inner idle credentialed affords first
        granted usable (draw .deallocate) now
      cases usable' : inner.grantOf second with
      | error reason' =>
          simp only [answerSuccess, allocate, completeSuccess_error usable', completed.1,
            Except.toOption, Prod.mk.injEq, reduceCtorEq, iff_false, not_and]
          exact fun _ => by decide
      | ok granted' =>
          have completed' := @completeSuccess_allocate crypto inner idle credentialed affords
            second granted' usable' (draw .deallocate) now
          simp only [answerSuccess, allocate, completed.1, completed'.1, Except.toOption,
            Prod.mk.injEq, and_true, Option.some.injEq]
          constructor
          · intro same
            have relays := completed.2.relay.symm.trans
              ((congrArg Inner.relay same).trans completed'.2.relay)
            have expiries := completed.2.expires.symm.trans
              ((congrArg Inner.allocationExpiresAt same).trans completed'.2.expires)
            exact Prod.ext (Option.some.inj relays) (seconds_inj expiries)
          · intro same
            have lifetimes : (attributeU32 first attrLifetime).getD
                requestedAllocationLifetimeSecs =
                (attributeU32 second attrLifetime).getD requestedAllocationLifetimeSecs := by
              rw [← lifetime_of_grant usable, ← lifetime_of_grant usable', same]
            simp only [completeSuccess, usable, usable', same, allocated_congr lifetimes]

theorem answerSuccess_refresh (refresh : pending.operation = .refresh) :
    inner.answerSuccess crypto now draw first pending =
        inner.answerSuccess crypto now draw second pending ↔
      (attributeU32 first attrLifetime).getD requestedAllocationLifetimeSecs =
        (attributeU32 second attrLifetime).getD requestedAllocationLifetimeSecs := by
  constructor
  · intro same
    by_cases zero : (attributeU32 first attrLifetime).getD requestedAllocationLifetimeSecs = 0
    · by_cases zero' : (attributeU32 second attrLifetime).getD requestedAllocationLifetimeSecs = 0
      · rw [zero, zero']
      · simp only [answerSuccess, refresh, completeSuccess, zero, zero', if_true, if_false,
          Prod.mk.injEq] at same
        exact absurd same.2 (by decide)
    · by_cases zero' : (attributeU32 second attrLifetime).getD requestedAllocationLifetimeSecs = 0
      · simp only [answerSuccess, refresh, completeSuccess, zero, zero', if_true, if_false,
          Prod.mk.injEq] at same
        exact absurd same.2 (by decide)
      · simp only [answerSuccess, refresh, completeSuccess, zero, zero', if_false, Prod.mk.injEq,
          and_true] at same
        exact seconds_inj (congrArg Inner.allocationExpiresAt same)
  · intro same
    simp only [answerSuccess, refresh, completeSuccess, same, deadline_congr same]

theorem answerSuccess_deallocate (deallocate : pending.operation = .deallocate) :
    inner.answerSuccess crypto now draw first pending =
        inner.answerSuccess crypto now draw second pending ↔
      ((attributeU32 first attrLifetime).getD 0 = 0 ↔
        (attributeU32 second attrLifetime).getD 0 = 0) := by
  by_cases zero : (attributeU32 first attrLifetime).getD 0 = 0
  · by_cases zero' : (attributeU32 second attrLifetime).getD 0 = 0
    · simp only [answerSuccess, deallocate, completeSuccess, zero, zero']
    · simp only [answerSuccess, deallocate, completeSuccess, zero, zero', ne_eq, not_true,
        not_false_eq_true, if_true, if_false, Prod.mk.injEq, iff_false, not_and]
      exact fun _ => by decide
  · by_cases zero' : (attributeU32 second attrLifetime).getD 0 = 0
    · simp only [answerSuccess, deallocate, completeSuccess, zero, zero', ne_eq, not_true,
        not_false_eq_true, if_true, if_false, Prod.mk.injEq, iff_true, iff_false, not_and]
      exact fun _ => by decide
    · simp only [answerSuccess, deallocate, completeSuccess, zero, zero', ne_eq,
        not_false_eq_true, if_true]

/-- Two successes of a transaction do the same exactly if they read the same. -/
theorem answerSuccess_eq_iff
    (idle : pending.operation = .allocate → inner.pending = [])
    (credentialed : inner.Credentialed)
    (affords : pending.operation = .allocate → Affords inner) :
    inner.answerSuccess crypto now draw first pending =
        inner.answerSuccess crypto now draw second pending ↔
      SameReadings inner pending.operation first second := by
  cases operation : pending.operation with
  | allocate =>
      exact answerSuccess_allocate (idle operation) credentialed (affords operation) operation
  | refresh => exact answerSuccess_refresh operation
  | deallocate => exact answerSuccess_deallocate operation
  | permission => simp only [answerSuccess, operation, completeSuccess, SameReadings]
  | channel => simp only [answerSuccess, operation, completeSuccess, SameReadings]

end Successes

/-!
### Two responses
-/

/-- The reply to a message that is not believed. -/
def Rejected (reply : Int) : Prop :=
  reply = resultInvalidArgument ∨ reply = resultAuthentication

/-- Nothing speaks against a response: it has no wrong fingerprint, and its MAC is right. -/
def Believed (crypto : StunCrypto) (inner : Inner) (message : Message) : Prop :=
  message.fingerprintValid crypto.crc32 ≠ some false ∧
    verifyIntegrity crypto message.raw message inner.key = true

section Outcome

variable {crypto : StunCrypto} {inner : Inner} {message : Message} {packet : List U8} {now : Nat}
  {draw : Operation → Draw} {index : Nat} {pending : PendingTransaction}

/-- What becomes of a success response to an authenticated request. -/
theorem inputStun_success (decoded : Message.decode packet = .ok message)
    (success : message.class = .success) (answered : inner.answered message = some index)
    (found : inner.pending[index]? = some pending) (authenticated : pending.authenticated = true) :
    (Believed crypto inner message ∧
      inner.inputStun crypto now draw packet =
        (inner.takePending index pending).answerSuccess crypto now draw message pending) ∨
    (¬Believed crypto inner message ∧ Rejected (inner.inputStun crypto now draw packet).2) := by
  have responds : message.class = .success ∨ message.class = .error := Or.inl success
  have required : responseRequiresIntegrity message = true := by
    rw [responseRequiresIntegrity, success]
  have mismatch : isFingerprintedAllocationMismatch crypto message = false := by
    simp [isFingerprintedAllocationMismatch, success]
  by_cases valid : message.fingerprintValid crypto.crc32 = some false
  · right
    simp only [inputStun, decoded, responds, not_true, if_false, valid, if_true]
    exact ⟨fun believed => believed.1 valid, Or.inl rfl⟩
  · cases verified : verifyIntegrity crypto message.raw message inner.key with
    | false =>
        right
        simp only [inputStun, decoded, responds, not_true, if_false, valid, answered, found, answer,
          unverified, authenticated, required, verified, mismatch]
        exact ⟨fun believed => Bool.noConfusion (verified.symm.trans believed.2), Or.inr rfl⟩
    | true =>
        left
        have believed : inner.unverified crypto message pending = false := by
          simp [unverified, verified]
        refine ⟨⟨valid, verified⟩, ?_⟩
        simp only [inputStun, decoded, success, true_or, not_true, if_false, valid, answered, found,
          answer, believed, Bool.false_eq_true, authenticated, Bool.true_eq_false, and_false,
          reduceCtorEq]

theorem not_rejected_answerSuccess : ¬Rejected
    (inner.answerSuccess crypto now draw message pending).2 := by
  unfold answerSuccess
  simp only
  split
  · exact (by decide : ¬(0 = resultInvalidArgument ∨ 0 = resultAuthentication))
  · exact (by decide :
      ¬(resultProtocol = resultInvalidArgument ∨ resultProtocol = resultAuthentication))

end Outcome

/-- Nothing behind the MAC counts if all that a success reads is found before it. -/
theorem sameReadings_of_covered {packet packet' : List U8} {first second : Message}
    {integrity : Attribute} (decoded : Decoded packet first) (decoded' : Decoded packet' second)
    (agree : AgreeThroughIntegrity first second)
    (signed : first.attribute attrMessageIntegrity = some integrity)
    (covered : ∀ target, target = attrLifetime ∨ target = attrXorRelayedAddress →
      ∃ found, first.attribute target = some found ∧
        found.headerStart + found.value.length ≤ integrity.headerStart + integrity.value.length)
    (inner : Inner) (operation : Operation) : SameReadings inner operation first second := by
  have shared (target : U16) (read : target = attrLifetime ∨ target = attrXorRelayedAddress) :
      second.attribute target = first.attribute target := by
    rcases covered target read with ⟨found, located, before⟩
    rw [located]
    exact attribute_agree decoded decoded' agree signed located before
  have lifetimes : attributeU32 first attrLifetime = attributeU32 second attrLifetime := by
    rw [attributeU32, attributeU32, shared attrLifetime (Or.inl rfl)]
  cases operation with
  | allocate =>
      have grants : inner.grantOf first = inner.grantOf second := by
        rw [grantOf, grantOf, shared attrXorRelayedAddress (Or.inr rfl), lifetimes,
          transaction_agree decoded decoded' agree]
      exact congrArg Except.toOption grants
  | refresh => exact congrArg (·.getD requestedAllocationLifetimeSecs) lifetimes
  | deallocate => exact iff_of_eq (congrArg (fun lifetime => lifetime.getD 0 = 0) lifetimes)
  | permission => exact trivial
  | channel => exact trivial

/-- In every state that a run reaches, two successes for one authenticated transaction that
agree up to their MAC leave the client in the same state, or one of them is rejected, exactly
if those that are believed read the same: a lifetime or a relay address behind the MAC counts
as much as one before it. -/
theorem uncovered_bytes_ignored_iff (crypto : StunCrypto) (inner : Inner) (fresh : Fresh inner)
    (calls : List Call) (now : Nat) (draw : Operation → Draw) (packet packet' : List U8)
    (first second : Message) (index : Nat) (pending : PendingTransaction)
    (found : (after crypto inner calls).pending[index]? = some pending)
    (authenticated : pending.authenticated = true)
    (decoded : Message.decode packet = .ok first) (decoded' : Message.decode packet' = .ok second)
    (success : first.class = .success)
    (answered : (after crypto inner calls).answered first = some index)
    (agree : AgreeThroughIntegrity first second) :
    let reached := after crypto inner calls
    let outcome := reached.inputStun crypto now draw packet
    let outcome' := reached.inputStun crypto now draw packet'
    outcome = outcome' ∨ Rejected outcome.2 ∨ Rejected outcome'.2 ↔
      (Believed crypto reached first → Believed crypto reached second →
        SameReadings reached pending.operation first second) := by
  intro reached outcome outcome'
  have sound : Sound reached := sound_run fresh calls
  have affordable : Affordable reached := affordable_run fresh calls
  have member : pending ∈ reached.pending := List.mem_of_getElem? found
  have whole := decoded_of_decode decoded
  have whole' := decoded_of_decode decoded'
  have kinds := kind_agree whole whole' agree
  have success' : second.class = .success := by
    rw [← success, Message.class, Message.class, kinds]
  have answered' : reached.answered second = some index := by
    rw [← answered, Inner.answered, Inner.answered, Message.method, Message.method, kinds,
      transaction_agree whole whole' agree]
  rcases @inputStun_success crypto reached first packet now draw index pending decoded success
    answered found authenticated with ⟨believed, processed⟩ | ⟨disbelieved, rejected⟩
  · rcases @inputStun_success crypto reached second packet' now draw index pending decoded' success'
      answered' found authenticated with ⟨believed', processed'⟩ | ⟨disbelieved', rejected'⟩
    · have accepted : ¬Rejected outcome.2 := by
        rw [show outcome = _ from processed]
        exact not_rejected_answerSuccess
      have accepted' : ¬Rejected outcome'.2 := by
        rw [show outcome' = _ from processed']
        exact not_rejected_answerSuccess
      have exact_ := @answerSuccess_eq_iff crypto (reached.takePending index pending) first second
        now draw pending (fun allocate => alone sound found (Or.inl allocate))
        (sound.proven pending member authenticated)
        (fun allocate => affordable pending member allocate authenticated)
      have same : outcome = outcome' ↔ SameReadings reached pending.operation first second := by
        rw [show outcome = _ from processed, show outcome' = _ from processed', exact_]
        rfl
      simp only [accepted, accepted', or_false, same, believed, believed', forall_const]
    · constructor
      · exact fun _ _ believed' => absurd believed' disbelieved'
      · exact fun _ => Or.inr (Or.inr rejected')
  · constructor
    · exact fun _ believed => absurd believed disbelieved
    · exact fun _ => Or.inr (Or.inl rejected)

/-!
### Grants with a lifetime behind the MAC
-/

/-- A grant whose MAC covers the relay address only. -/
def grantBytes (length : U8) (uncovered : List U8) : List U8 :=
  [0x01, 0x03, 0x00, length, 0x21, 0x12, 0xa4, 0x42, 0, 0, 0, 0, 0, 0, 0, 0, 0, 0, 0, 3,
    0x00, 0x16, 0x00, 0x08, 0x00, 0x01, 0xe2, 0x42, 0x5e, 0x12, 0xa4, 0x43,
    0x00, 0x08, 0x00, 0x14, 0x40, 0xce, 0x0f, 0x9e, 0x49, 0x8e, 0x2e, 0x78, 0x39, 0x1b, 0x8c, 0x9b,
    0x2e, 0x33, 0x05, 0x71, 0x1f, 0xed, 0x55, 0x55] ++ uncovered

def tenMinutes : List U8 := [0x00, 0x0d, 0x00, 0x04, 0x00, 0x00, 0x02, 0x58]
def twentyMinutes : List U8 := [0x00, 0x0d, 0x00, 0x04, 0x00, 0x00, 0x04, 0xb0]
def softwareName : List U8 := [0x80, 0x22, 0x00, 0x04, 0x63, 0x6f, 0x72, 0x65]

def grantMessage (length : U8) (uncovered : List U8) : Message :=
  { raw := grantBytes length uncovered
    kind := 0x0103
    transaction := 3
    stop := 56 + uncovered.length }

/-- An Allocate, and the challenge that makes the client send it again with credentials. -/
def challengedCalls : List Call := [
  { action := .startAllocation, now := 0, draw := drawAt 0 },
  { action := .inputStun challengeBytes, now := 1, draw := drawAt 1 }]

theorem agree_grantMessage (length length' : U8) (uncovered uncovered' : List U8)
    (signed : (grantMessage length uncovered).attribute attrMessageIntegrity = some {
      kind := attrMessageIntegrity
      value := slice (grantBytes length uncovered) 36 20
      headerStart := 32 }) :
    AgreeThroughIntegrity (grantMessage length uncovered) (grantMessage length' uncovered') :=
  ⟨rfl, _, signed, rfl⟩

theorem software_behind_integrity_is_ignored :
    let reached := after StunCrypto.standard (localClient .datagram) challengedCalls
    let outcome := reached.inputStun StunCrypto.standard 5 (drawAt 5) (grantBytes 0x2c tenMinutes)
    let outcome' := reached.inputStun StunCrypto.standard 5 (drawAt 5)
      (grantBytes 0x34 (tenMinutes ++ softwareName))
    outcome = outcome' ∨ Rejected outcome.2 ∨ Rejected outcome'.2 := by
  intro reached
  cases found : reached.pending[0]? with
  | none =>
      have present : reached.pending[0]?.isSome = true := by decide +kernel
      rw [found] at present
      cases present
  | some pending =>
      have authenticated : reached.pending[0]?.any (·.authenticated) = true := by decide +kernel
      have allocate : reached.pending[0]?.any (·.operation = .allocate) = true := by decide +kernel
      rw [found] at authenticated allocate
      have exactly := uncovered_bytes_ignored_iff StunCrypto.standard (localClient .datagram)
        (fresh_localClient .datagram) challengedCalls 5 (drawAt 5) (grantBytes 0x2c tenMinutes)
        (grantBytes 0x34 (tenMinutes ++ softwareName)) (grantMessage 0x2c tenMinutes)
        (grantMessage 0x34 (tenMinutes ++ softwareName)) 0 pending found authenticated
        (by decide +kernel) (by decide +kernel) (by decide) (by decide +kernel)
        (agree_grantMessage _ _ _ _ (by decide +kernel))
      apply exactly.mpr
      intro believed believed'
      rw [of_decide_eq_true allocate]
      rfl

/-- A lifetime behind the MAC decides how long the client takes the allocation to live. -/
theorem lifetime_behind_integrity_counts :
    let reached := after StunCrypto.standard (localClient .datagram) challengedCalls
    let outcome := reached.inputStun StunCrypto.standard 5 (drawAt 5) (grantBytes 0x2c tenMinutes)
    let outcome' := reached.inputStun StunCrypto.standard 5 (drawAt 5)
      (grantBytes 0x2c twentyMinutes)
    AgreeThroughIntegrity (grantMessage 0x2c tenMinutes) (grantMessage 0x2c twentyMinutes) ∧
      reached.pending.any (·.authenticated) = true ∧
      ¬(outcome = outcome' ∨ Rejected outcome.2 ∨ Rejected outcome'.2) := by
  intro reached outcome outcome'
  have observed : outcome.2 = 0 ∧ outcome'.2 = 0 ∧
      outcome.1.allocationExpiresAt ≠ outcome'.1.allocationExpiresAt ∧
      reached.pending.any (·.authenticated) = true := by decide +kernel
  have accepted : ¬Rejected 0 := by
    exact (by decide : ¬(0 = resultInvalidArgument ∨ 0 = resultAuthentication))
  refine ⟨agree_grantMessage _ _ _ _ (by decide +kernel), observed.2.2.2, ?_⟩
  rw [observed.1, observed.2.1]
  rintro (same | rejected | rejected)
  · exact observed.2.2.1 (congrArg (·.1.allocationExpiresAt) same)
  · exact accepted rejected
  · exact accepted rejected

end Csqtt
