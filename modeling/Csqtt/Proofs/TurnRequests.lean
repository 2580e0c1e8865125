/-
Module: Csqtt.Proofs.TurnRequests
Purpose: What the requests of the relay client are as messages: each decodes to a request
  of its operation, and whether one can be built depends on the size of the credentials.
Trusted boundary: none
Main exports: requestRecords, credentialRecords, IsRequest, isRequest_of_build,
  buildRequest_error
-/
import Csqtt.Engine.TurnCore
import Csqtt.Proofs.StunCodec

namespace Csqtt

open Tlv Inner

/-- The attributes of a request, before those that prove who sent it. -/
def requestRecords (inner : Inner) (operation : Operation) (transaction : Transaction) :
    List Record :=
  match operation with
  | .allocate => [
      { kind := attrRequestedTransport, value := [17, 0, 0, 0] },
      { kind := attrRequestedAddressFamily,
        value := [if inner.peer.isIpv4 then 1 else 2, 0, 0, 0] },
      { kind := attrLifetime, value := beBytes 4 requestedAllocationLifetimeSecs.toNat }]
  | .refresh => [{ kind := attrLifetime, value := beBytes 4 requestedAllocationLifetimeSecs.toNat }]
  | .deallocate => [{ kind := attrLifetime, value := beBytes 4 0 }]
  | .permission => [
      { kind := attrXorPeerAddress, value := encodeXorAddress inner.peer transaction }]
  | .channel => [
      { kind := attrChannelNumber, value := [0x40, 0, 0, 0] },
      { kind := attrXorPeerAddress, value := encodeXorAddress inner.peer transaction }]

/-- The attributes that name the user and the challenge. -/
def credentialRecords (inner : Inner) : List Record := [
  { kind := attrUsername, value := inner.username },
  { kind := attrRealm, value := inner.realm.getD [] },
  { kind := attrNonce, value := inner.nonce.getD [] }]

/-- The type of the request of an operation. -/
def requestKind (operation : Operation) : U16 :=
  operation.method.setWidth 16

theorem withAttributes_append (builder : MessageBuilder) (first second : List Record) :
    builder.withAttributes (first ++ second) =
      (builder.withAttributes first).withAttributes second :=
  List.foldl_append

theorem requestBuilder_eq (inner : Inner) (operation : Operation) (transaction : Transaction) :
    inner.requestBuilder operation transaction =
      (MessageBuilder.withTransaction (requestKind operation) transaction).withAttributes
        (requestRecords inner operation transaction) := by
  cases operation <;> rfl

section Requests

variable {crypto : StunCrypto} {inner : Inner} {operation : Operation} {transaction : Transaction}
  {packet : List U8}

theorem holds_requestBuilder :
    (inner.requestBuilder operation transaction).Holds (requestKind operation) transaction
      (requestRecords inner operation transaction) := by
  rw [requestBuilder_eq]
  exact holds_withAttributes _ _ _

theorem holds_credentialBuilder :
    (((inner.requestBuilder operation transaction).attribute attrUsername
      inner.username).attribute attrRealm (inner.realm.getD [])).attribute attrNonce
        (inner.nonce.getD []) |>.Holds (requestKind operation) transaction
          (requestRecords inner operation transaction ++ credentialRecords inner) := by
  have whole := holds_withAttributes (requestKind operation) transaction
    (requestRecords inner operation transaction ++ credentialRecords inner)
  rw [withAttributes_append, ← requestBuilder_eq] at whole
  exact whole

theorem setMessageLength_ok {bytes patched : List U8} {trailing : Nat}
    (done : setMessageLength bytes trailing = .ok patched) :
    bytes.length - 20 + trailing < 65536 := by
  unfold setMessageLength at done
  simp only at done
  split at done
  · assumption
  · cases done

theorem finish_ok {builder : MessageBuilder} {kind : U16} {records : List Record}
    (holds : builder.Holds kind transaction records) (done : builder.finish crypto = .ok packet) :
    sizeAll records + 8 < 65536 := by
  rcases holds with ⟨length, bytes⟩
  cases patched : setMessageLength builder.bytes 8 with
  | error reason =>
      rw [MessageBuilder.finish, patched] at done
      cases done
  | ok whole =>
      have fits := setMessageLength_ok patched
      rwa [bytes, length_wire, Nat.add_sub_cancel_left] at fits

theorem finishAuthenticated_ok {builder : MessageBuilder} {kind : U16} {records : List Record}
    {key : List U8} (holds : builder.Holds kind transaction records)
    (done : builder.finishAuthenticated crypto key = .ok packet) :
    sizeAll records + 32 < 65536 := by
  rcases holds with ⟨length, bytes⟩
  cases patched : setMessageLength builder.bytes 24 with
  | error reason =>
      rw [MessageBuilder.finishAuthenticated, patched] at done
      cases done
  | ok whole =>
      have fits := setMessageLength_ok patched
      rw [bytes, length_wire, Nat.add_sub_cancel_left] at fits
      have rewritten := setMessageLength_wire kind length 24 transaction fits
      rw [← bytes] at rewritten
      rw [finishAuthenticated_patched key rewritten] at done
      have room := finish_ok (holds_signed key) done
      rw [sizeAll_signed] at room
      omega

/-- A packet that is the request of an operation; a deallocation asks for lifetime 0. -/
def IsRequest (operation : Operation) (packet : List U8) : Prop :=
  ∃ message, Message.decode packet = .ok message ∧ message.class = .request ∧
    message.method.setWidth 32 = operation.method ∧
    (operation = .deallocate → attributeU32 message attrLifetime = some 0)

theorem requestKind_clear (operation : Operation) : requestKind operation &&& 0xc000 = 0 := by
  cases operation <;> decide

theorem requestKind_nonzero (operation : Operation) : requestKind operation ≠ 0 := by
  cases operation <;> decide

theorem class_wireMessage (records : List Record) :
    (wireMessage (requestKind operation) transaction records).class = .request := by
  simp only [Message.class, wireMessage]
  cases operation <;> decide

theorem method_wireMessage (records : List Record) :
    (wireMessage (requestKind operation) transaction records).method.setWidth 32 =
      operation.method := by
  simp only [Message.method, wireMessage]
  cases operation <;> decide

/-- Whatever follows them, the attributes of a request make it one. -/
theorem isRequest_wire {rest : List Record}
    (fits : sizeAll (requestRecords inner operation transaction ++ rest) < 65536) :
    IsRequest operation (wire (requestKind operation)
      (sizeAll (requestRecords inner operation transaction ++ rest)) transaction
      (requestRecords inner operation transaction ++ rest)) := by
  refine ⟨_, decode_wire transaction (requestKind_clear operation) (requestKind_nonzero operation)
    fits, class_wireMessage _, method_wireMessage _, ?_⟩
  rintro rfl
  have found : (wireMessage (requestKind .deallocate) transaction
      (requestRecords inner .deallocate transaction ++ rest)).attribute attrLifetime = some {
        kind := attrLifetime, value := beBytes 4 0, headerStart := 20 } :=
    @attribute_wire_first _ _ [] rest { kind := attrLifetime, value := beBytes 4 0 } attrLifetime
      fits rfl (by simp) (by decide) (by decide)
  simp only [attributeU32, found, length_beBytes, if_true]
  rfl

/-- Every request that can be built is one of its operation. -/
theorem isRequest_of_build {authenticated : Bool}
    (built : inner.buildRequest crypto operation transaction authenticated = .ok packet) :
    IsRequest operation packet := by
  unfold buildRequest at built
  cases authenticated with
  | false =>
      have done : (inner.requestBuilder operation transaction).finish crypto = .ok packet := built
      have fits := finish_ok holds_requestBuilder done
      rw [finish_wire holds_requestBuilder fits] at done
      cases done
      apply isRequest_wire
      rw [← sealed, sizeAll_sealed]
      exact fits
  | true =>
      simp only [if_true] at built
      split at built
      · cases built
      · next key _ =>
          have fits := finishAuthenticated_ok holds_credentialBuilder built
          rw [finishAuthenticated_wire key holds_credentialBuilder fits] at built
          cases built
          have room : sizeAll (sealed crypto (requestKind operation) transaction
              (signed crypto key (requestKind operation) transaction
                (requestRecords inner operation transaction ++ credentialRecords inner))) <
              65536 := by
            rw [sizeAll_sealed, sizeAll_signed]
            exact fits
          rw [sealed, signed, List.append_assoc, List.append_assoc] at room ⊢
          exact isRequest_wire room

/-- The only reason why a message cannot be finished. -/
theorem setMessageLength_error {bytes : List U8} {trailing : Nat} {reason : String}
    (failed : setMessageLength bytes trailing = .error reason) :
    reason = "STUN message too large for u16 length" := by
  unfold setMessageLength at failed
  simp only at failed
  split at failed
  · cases failed
  · exact (Except.error.inj failed).symm

theorem finish_error {builder : MessageBuilder} {reason : String}
    (failed : builder.finish crypto = .error reason) :
    reason = "STUN message too large for u16 length" := by
  cases patched : setMessageLength builder.bytes 8 with
  | error text =>
      rw [MessageBuilder.finish, patched] at failed
      rw [← Except.error.inj failed]
      exact setMessageLength_error patched
  | ok whole =>
      rw [MessageBuilder.finish, patched] at failed
      cases failed

theorem finishAuthenticated_error {builder : MessageBuilder} {key : List U8} {reason : String}
    (failed : builder.finishAuthenticated crypto key = .error reason) :
    reason = "STUN message too large for u16 length" := by
  cases patched : setMessageLength builder.bytes 24 with
  | error text =>
      rw [MessageBuilder.finishAuthenticated, patched] at failed
      rw [← Except.error.inj failed]
      exact setMessageLength_error patched
  | ok whole =>
      rw [MessageBuilder.finishAuthenticated, patched] at failed
      exact finish_error failed

theorem buildRequest_error {authenticated : Bool} {reason : String} (known : inner.key.isSome)
    (failed : inner.buildRequest crypto operation transaction authenticated = .error reason) :
    reason = "STUN message too large for u16 length" := by
  unfold buildRequest at failed
  rcases Option.isSome_iff_exists.mp known with ⟨key, same⟩
  cases authenticated with
  | false => exact finish_error failed
  | true =>
      simp only [if_true, same] at failed
      exact finishAuthenticated_error failed

end Requests

end Csqtt
