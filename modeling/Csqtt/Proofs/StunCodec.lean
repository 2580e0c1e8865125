/-
Module: Csqtt.Proofs.StunCodec
Purpose: What the builder writes is accepted by the decoder, which finds the same
  attributes, a valid fingerprint and a valid MAC.
Trusted boundary: none
Main exports: wire, decode_wire, attributes_wire, finish_wire, finishAuthenticated_wire,
  verifyIntegrity_signed, built_message_decodes
-/
import Csqtt.Engine.StunMessage

namespace Csqtt

open Tlv

/-- The twenty bytes in front of the attributes. -/
def wireHeader (kind : U16) (length : Nat) (transaction : Transaction) : List U8 :=
  beBytes 2 kind.toNat ++ beBytes 2 length ++ beBytes 4 magicCookie.toNat ++
    beBytes 12 transaction.toNat

/-- A message with some attributes, under some length. -/
def wire (kind : U16) (length : Nat) (transaction : Transaction) (records : List Record) :
    List U8 :=
  wireHeader kind length transaction ++ encodeAll records

@[simp] theorem length_wireHeader (kind : U16) (length : Nat) (transaction : Transaction) :
    (wireHeader kind length transaction).length = 20 := by
  simp [wireHeader]

@[simp] theorem length_wire (kind : U16) (length : Nat) (transaction : Transaction)
    (records : List Record) :
    (wire kind length transaction records).length = 20 + sizeAll records := by
  simp [wire]

/-- The kind under which the walk reports an attribute. -/
def normalKind (kind : U16) : U16 :=
  if kind = 0x8020 then 0x0020 else kind

/-- The attributes that stand for records written from a position on. -/
def located : Nat → List Record → List Attribute
  | _, [] => []
  | position, record :: records =>
      { kind := normalKind record.kind, value := record.value, headerStart := position } ::
        located (position + record.size) records

theorem located_append (position : Nat) (first second : List Record) :
    located position (first ++ second) =
      located position first ++ located (position + sizeAll first) second := by
  induction first generalizing position with
  | nil => simp [located]
  | cons record records inductionHypothesis =>
      simp [located, inductionHypothesis, Nat.add_assoc]

/-- What a reader sees of an attribute, its place in the message left out. -/
def Attribute.record (item : Attribute) : Record :=
  { kind := item.kind, value := item.value }

/-- A record as the walk reports it. -/
def normalRecord (record : Record) : Record :=
  { record with kind := normalKind record.kind }

theorem record_located (position : Nat) (records : List Record) :
    (located position records).map Attribute.record = records.map normalRecord := by
  induction records generalizing position with
  | nil => rfl
  | cons record records inductionHypothesis =>
      simp [located, inductionHypothesis, Attribute.record, normalRecord]

theorem normalKind_ne {kind target : U16} (other : kind ≠ target) (plain : target ≠ 0x0020) :
    normalKind kind ≠ target := by
  unfold normalKind
  split
  · exact plain.symm
  · exact other

/-- Records of other kinds do not answer a lookup. -/
theorem find_located_none {records : List Record} {target : U16} (position : Nat)
    (plain : target ≠ 0x0020) (others : ∀ record ∈ records, record.kind ≠ target) :
    (located position records).find? (fun item => decide (item.kind = target)) = none := by
  induction records generalizing position with
  | nil => rfl
  | cons record records inductionHypothesis =>
      have head := normalKind_ne (others record List.mem_cons_self) plain
      have rest := inductionHypothesis (position + record.size)
        fun other member => others other (List.mem_cons_of_mem _ member)
      simp [located, head, rest]

/-!
### Decoding
-/

section Decoding

variable {front : List U8} {record : Record} {records : List Record}

private theorem checkAttributes_encoded (fuel : Nat) (records : List Record) (front : List U8)
    (short : ∀ record ∈ records, record.value.length < 65536) :
    checkAttributes (front ++ encodeAll records) (front.length + sizeAll records) fuel
      front.length = .ok () := by
  induction records generalizing fuel front with
  | nil => cases fuel <;> simp [checkAttributes]
  | cons record records inductionHypothesis =>
      cases fuel with
      | zero => rfl
      | succ fuel =>
          have lengthRead : u16At (front ++ encodeAll (record :: records)) (front.length + 2) =
              record.value.length := by
            rw [encodeAll_cons, ← List.append_assoc]
            exact u16At_length rfl (short record List.mem_cons_self)
          have room := le_padded record.value.length
          have rest := inductionHypothesis fuel (front ++ record.encode)
            fun other member => short other (List.mem_cons_of_mem _ member)
          have next : (front ++ record.encode).length =
              front.length + 4 + padded record.value.length := by
            simp [Record.size, Nat.add_assoc]
          have last : (front ++ record.encode).length + sizeAll records =
              front.length + sizeAll (record :: records) := by
            simp [Nat.add_assoc]
          have bytes : front ++ record.encode ++ encodeAll records =
              front ++ encodeAll (record :: records) := by simp
          rw [next] at rest last
          rw [bytes, last] at rest
          have within : front.length < front.length + sizeAll (record :: records) := by omega
          have header : ¬front.length + sizeAll (record :: records) - front.length < 4 := by omega
          have value : ¬(front.length + sizeAll (record :: records) <
                front.length + 4 + padded record.value.length ∨
              front.length + sizeAll (record :: records) <
                front.length + 4 + record.value.length) := by omega
          simp only [checkAttributes, lengthRead, within, if_true, header, value, if_false, rest]

private theorem collect_encoded (fuel : Nat) (records : List Record) (front : List U8)
    (short : ∀ record ∈ records, record.value.length < 65536) (enough : sizeAll records ≤ fuel) :
    Attributes.collect fuel
        { raw := front ++ encodeAll records, position := front.length,
          stop := front.length + sizeAll records } =
      located front.length records := by
  induction records generalizing fuel front with
  | nil => cases fuel <;> simp [Attributes.collect, Attributes.next, located]
  | cons record records inductionHypothesis =>
      cases fuel with
      | zero => simp [Record.size] at enough
      | succ fuel =>
          have kindRead : u16At (front ++ encodeAll (record :: records)) front.length =
              record.kind.toNat := by
            rw [encodeAll_cons, ← List.append_assoc]
            exact u16At_kind rfl
          have lengthRead : u16At (front ++ encodeAll (record :: records)) (front.length + 2) =
              record.value.length := by
            rw [encodeAll_cons, ← List.append_assoc]
            exact u16At_length rfl (short record List.mem_cons_self)
          have valueRead : slice (front ++ encodeAll (record :: records)) (front.length + 4)
              record.value.length = record.value := by
            rw [encodeAll_cons, ← List.append_assoc]
            exact slice_value rfl
          have fewer : sizeAll records ≤ fuel := by
            simp only [sizeAll_cons, Record.size] at enough
            omega
          have rest := inductionHypothesis fuel (front ++ record.encode)
            (fun other member => short other (List.mem_cons_of_mem _ member)) fewer
          have next : (front ++ record.encode).length =
              front.length + 4 + padded record.value.length := by
            simp [Record.size, Nat.add_assoc]
          have last : (front ++ record.encode).length + sizeAll records =
              front.length + sizeAll (record :: records) := by
            simp [Nat.add_assoc]
          have bytes : front ++ record.encode ++ encodeAll records =
              front ++ encodeAll (record :: records) := by simp
          have step : front.length + record.size =
              front.length + 4 + padded record.value.length := by
            simp [Record.size, Nat.add_assoc]
          rw [next] at rest last
          rw [bytes, last] at rest
          have within : front.length < front.length + sizeAll (record :: records) := by
            simp only [sizeAll_cons, Record.size]
            omega
          simp only [Attributes.collect, Attributes.next, within, if_true, kindRead, lengthRead,
            valueRead, rest, located, step, BitVec.ofNat_toNat, BitVec.setWidth_eq, normalKind]

theorem wire_kind (kind : U16) (length : Nat) (transaction : Transaction) (records : List Record) :
    BitVec.ofNat 16 (u16At (wire kind length transaction records) 0) = kind := by
  have read : slice (wire kind length transaction records) 0 2 = beBytes 2 kind.toNat := by
    have split : wire kind length transaction records = [] ++ beBytes 2 kind.toNat ++
        (beBytes 2 length ++ beBytes 4 magicCookie.toNat ++ beBytes 12 transaction.toNat ++
          encodeAll records) := by
      simp [wire, wireHeader]
    rw [split]
    exact slice_append rfl (length_beBytes 2 _)
  rw [u16At, read]
  exact ofNat_beValue_beBytes kind rfl

theorem wire_length (kind : U16) {length : Nat} (transaction : Transaction)
    (records : List Record) (fits : length < 65536) :
    u16At (wire kind length transaction records) 2 = length := by
  have read : slice (wire kind length transaction records) 2 2 = beBytes 2 length := by
    have split : wire kind length transaction records = beBytes 2 kind.toNat ++ beBytes 2 length ++
        (beBytes 4 magicCookie.toNat ++ beBytes 12 transaction.toNat ++ encodeAll records) := by
      simp [wire, wireHeader]
    rw [split]
    exact slice_append (length_beBytes 2 _) (length_beBytes 2 _)
  rw [u16At, read, beValue_beBytes]
  exact Nat.mod_eq_of_lt fits

theorem wire_cookie (kind : U16) (length : Nat) (transaction : Transaction)
    (records : List Record) :
    slice (wire kind length transaction records) 4 4 = beBytes 4 magicCookie.toNat := by
  have split : wire kind length transaction records =
      (beBytes 2 kind.toNat ++ beBytes 2 length) ++ beBytes 4 magicCookie.toNat ++
        (beBytes 12 transaction.toNat ++ encodeAll records) := by
    simp [wire, wireHeader]
  rw [split]
  exact slice_append (by simp) (length_beBytes 4 _)

theorem wire_transaction (kind : U16) (length : Nat) (transaction : Transaction)
    (records : List Record) :
    BitVec.ofNat 96 (beValue (slice (wire kind length transaction records) 8 12)) =
      transaction := by
  have read : slice (wire kind length transaction records) 8 12 =
      beBytes 12 transaction.toNat := by
    have split : wire kind length transaction records =
        (beBytes 2 kind.toNat ++ beBytes 2 length ++ beBytes 4 magicCookie.toNat) ++
          beBytes 12 transaction.toNat ++ encodeAll records := by
      simp [wire, wireHeader]
    rw [split]
    exact slice_append (by simp) (length_beBytes 12 _)
  rw [read]
  exact ofNat_beValue_beBytes transaction rfl

/-- The message that a datagram decodes to. -/
def wireMessage (kind : U16) (transaction : Transaction) (records : List Record) : Message :=
  { raw := wire kind (sizeAll records) transaction records
    kind := kind
    transaction := transaction
    stop := 20 + sizeAll records }

theorem decode_wire {kind : U16} (transaction : Transaction) {records : List Record}
    (clear : kind &&& 0xc000 = 0) (nonzero : kind ≠ 0) (fits : sizeAll records < 65536) :
    Message.decode (wire kind (sizeAll records) transaction records) =
      .ok (wireMessage kind transaction records) := by
  have short : ∀ record ∈ records, record.value.length < 65536 :=
    fun record member => (length_value_le member).trans_lt fits
  have checked := checkAttributes_encoded
    (wire kind (sizeAll records) transaction records).length records
    (wireHeader kind (sizeAll records) transaction) short
  rw [length_wireHeader] at checked
  rw [← wire] at checked
  have whole : ¬20 + sizeAll records < 20 := by omega
  simp only [length_wire] at checked
  simp only [Message.decode, headerSize, length_wire, whole, if_false, wire_kind, clear, ne_eq,
    not_true, nonzero, wire_cookie, wire_length kind transaction records fits, sizeAll_mod,
    checked, wire_transaction, wireMessage]

theorem attributes_wire {kind : U16} {transaction : Transaction} {records : List Record}
    (fits : sizeAll records < 65536) :
    (wireMessage kind transaction records).attributes = located 20 records := by
  have short : ∀ record ∈ records, record.value.length < 65536 :=
    fun record member => (length_value_le member).trans_lt fits
  have collected := collect_encoded (20 + sizeAll records) records
    (wireHeader kind (sizeAll records) transaction) short (Nat.le_add_left _ _)
  rw [length_wireHeader] at collected
  exact collected

end Decoding

/-!
### Building
-/

/-- Append attributes one after the other. -/
def MessageBuilder.withAttributes (builder : MessageBuilder) (records : List Record) :
    MessageBuilder :=
  records.foldl (fun builder record => builder.attribute record.kind record.value) builder

theorem attribute_bytes {builder : MessageBuilder} (kind : U16) (value : List U8)
    (aligned : builder.bytes.length % 4 = 0) :
    (builder.attribute kind value).bytes =
      builder.bytes ++ Record.encode { kind := kind, value := value } := by
  have padding : (4 - (builder.bytes ++ beBytes 2 kind.toNat ++ beBytes 2 value.length ++
      value).length % 4) % 4 = padded value.length - value.length := by
    simp only [List.length_append, length_beBytes, padded]
    omega
  simp only [MessageBuilder.attribute, padding, Record.encode]
  simp only [List.append_assoc]

@[simp] theorem attribute_transaction (builder : MessageBuilder) (kind : U16) (value : List U8) :
    (builder.attribute kind value).transaction = builder.transaction := rfl

theorem withAttributes_bytes {builder : MessageBuilder} (records : List Record)
    (aligned : builder.bytes.length % 4 = 0) :
    (builder.withAttributes records).bytes = builder.bytes ++ encodeAll records := by
  induction records generalizing builder with
  | nil => simp [MessageBuilder.withAttributes]
  | cons record records inductionHypothesis =>
      have head := attribute_bytes record.kind record.value aligned
      have still : (builder.attribute record.kind record.value).bytes.length % 4 = 0 := by
        have size := size_mod record
        simp only [head, List.length_append, length_encode]
        exact (Nat.add_mod _ _ _).trans (by rw [aligned, size])
      have rest := inductionHypothesis still
      rw [head, List.append_assoc] at rest
      exact rest

/-- A builder that holds a message with some attributes, whatever its length field says. -/
def MessageBuilder.Holds (builder : MessageBuilder) (kind : U16) (transaction : Transaction)
    (records : List Record) : Prop :=
  ∃ length, builder.bytes = wire kind length transaction records

theorem holds_withAttributes (kind : U16) (transaction : Transaction) (records : List Record) :
    ((MessageBuilder.withTransaction kind transaction).withAttributes records).Holds kind
      transaction records := by
  exists 0
  apply withAttributes_bytes
  exact congrArg (· % 4) (length_wireHeader kind 0 transaction)

theorem overwrite_wire (kind : U16) (length new : Nat) (transaction : Transaction)
    (records : List Record) :
    overwrite (wire kind length transaction records) 2 (beBytes 2 new) =
      wire kind new transaction records := by
  simp [overwrite, wire, wireHeader, beBytes]

theorem setMessageLength_wire (kind : U16) (length trailing : Nat) (transaction : Transaction)
    {records : List Record} (fits : sizeAll records + trailing < 65536) :
    setMessageLength (wire kind length transaction records) trailing =
      .ok (wire kind (sizeAll records + trailing) transaction records) := by
  have size : (wire kind length transaction records).length - 20 + trailing =
      sizeAll records + trailing := by
    rw [length_wire, Nat.add_sub_cancel_left]
  simp only [setMessageLength, size, fits, if_true, overwrite_wire]

/-- The record of the checksum of a message. -/
def fingerprintRecord (crypto : StunCrypto) (bytes : List U8) : Record :=
  { kind := attrFingerprint, value := beBytes 4 (crypto.crc32 bytes ^^^ fingerprintXor).toNat }

/-- The record of the MAC of a message. -/
def integrityRecord (crypto : StunCrypto) (key bytes : List U8) : Record :=
  { kind := attrMessageIntegrity, value := crypto.hmacSha1 key bytes }

@[simp] theorem size_fingerprintRecord (crypto : StunCrypto) (bytes : List U8) :
    (fingerprintRecord crypto bytes).size = 8 := by
  simp [fingerprintRecord, Record.size, padded]

@[simp] theorem size_integrityRecord (crypto : StunCrypto) (key bytes : List U8) :
    (integrityRecord crypto key bytes).size = 24 := by
  simp [integrityRecord, Record.size, padded, crypto.length_hmacSha1]

theorem attribute_wire {builder : MessageBuilder} {kind : U16} {length : Nat}
    {transaction : Transaction} {records : List Record}
    (holds : builder.bytes = wire kind length transaction records) (record : Record) :
    (builder.attribute record.kind record.value).bytes =
      wire kind length transaction (records ++ [record]) := by
  have aligned : builder.bytes.length % 4 = 0 := by
    have size := sizeAll_mod records
    rw [holds, length_wire]
    omega
  rw [attribute_bytes record.kind record.value aligned, holds]
  simp [wire]

section Finish

variable {crypto : StunCrypto} {builder : MessageBuilder} {kind : U16} {transaction : Transaction}
  {records : List Record}

/-- The attributes of a finished message. -/
def sealed (crypto : StunCrypto) (kind : U16) (transaction : Transaction)
    (records : List Record) : List Record :=
  records ++ [fingerprintRecord crypto (wire kind (sizeAll records + 8) transaction records)]

/-- The attributes of a finished message that carries a MAC. -/
def signed (crypto : StunCrypto) (key : List U8) (kind : U16) (transaction : Transaction)
    (records : List Record) : List Record :=
  records ++ [integrityRecord crypto key (wire kind (sizeAll records + 24) transaction records)]

@[simp] theorem sizeAll_sealed : sizeAll (sealed crypto kind transaction records) =
    sizeAll records + 8 := by
  simp [sealed]

@[simp] theorem sizeAll_signed (key : List U8) :
    sizeAll (signed crypto key kind transaction records) = sizeAll records + 24 := by
  simp [signed]

theorem finish_wire (holds : builder.Holds kind transaction records)
    (fits : sizeAll records + 8 < 65536) :
    builder.finish crypto = .ok (wire kind (sizeAll (sealed crypto kind transaction records))
      transaction (sealed crypto kind transaction records)) := by
  rcases holds with ⟨length, bytes⟩
  have patched := setMessageLength_wire kind length 8 transaction fits
  rw [MessageBuilder.finish, bytes, patched, sizeAll_sealed]
  apply congrArg Except.ok
  exact attribute_wire rfl
    (fingerprintRecord crypto (wire kind (sizeAll records + 8) transaction records))

theorem finishAuthenticated_patched {bytes : List U8} (key : List U8)
    (patched : setMessageLength builder.bytes 24 = .ok bytes) :
    builder.finishAuthenticated crypto key =
      (({ builder with bytes := bytes } : MessageBuilder).attribute attrMessageIntegrity
        (crypto.hmacSha1 key bytes)).finish crypto := by
  rw [MessageBuilder.finishAuthenticated, patched]
  rfl

/-- The MAC is written over the message with the length it will have. -/
theorem holds_signed (key : List U8) :
    (({ builder with bytes := wire kind (sizeAll records + 24) transaction records } :
      MessageBuilder).attribute attrMessageIntegrity
        (crypto.hmacSha1 key (wire kind (sizeAll records + 24) transaction records))).Holds
      kind transaction (signed crypto key kind transaction records) := by
  exists sizeAll records + 24
  exact attribute_wire rfl
    (integrityRecord crypto key (wire kind (sizeAll records + 24) transaction records))

theorem finishAuthenticated_wire (key : List U8) (holds : builder.Holds kind transaction records)
    (fits : sizeAll records + 32 < 65536) :
    builder.finishAuthenticated crypto key =
      .ok (wire kind
        (sizeAll (sealed crypto kind transaction (signed crypto key kind transaction records)))
        transaction
        (sealed crypto kind transaction (signed crypto key kind transaction records))) := by
  rcases holds with ⟨length, bytes⟩
  have patched := setMessageLength_wire kind length 24 transaction
    (show sizeAll records + 24 < 65536 by omega)
  rw [← bytes] at patched
  rw [finishAuthenticated_patched key patched]
  apply finish_wire
  · exact holds_signed key
  · rw [sizeAll_signed]
    omega

/-- The first record of a kind is the one a lookup finds. -/
theorem attribute_wire_first {front back : List Record} {record : Record} {target : U16}
    (fits : sizeAll (front ++ record :: back) < 65536) (matching : record.kind = target)
    (others : ∀ other ∈ front, other.kind ≠ target)
    (plain : target ≠ 0x0020) (usual : target ≠ 0x8020) :
    (wireMessage kind transaction (front ++ record :: back)).attribute target =
      some { kind := target, value := record.value, headerStart := 20 + sizeAll front } := by
  have absent := find_located_none 20 plain others
  have same : normalKind record.kind = target := by rw [matching, normalKind, if_neg usual]
  rw [Message.attribute, attributes_wire fits, located_append, List.find?_append, absent]
  simp [located, same]

/-- A finished message has a valid fingerprint. -/
theorem fingerprintValid_sealed (fits : sizeAll records + 8 < 65536)
    (plain : ∀ record ∈ records, record.kind ≠ attrFingerprint) :
    (wireMessage kind transaction (sealed crypto kind transaction records)).fingerprintValid
      crypto.crc32 = some true := by
  have room : sizeAll (sealed crypto kind transaction records) < 65536 := by
    rw [sizeAll_sealed]
    exact fits
  have found : (wireMessage kind transaction (sealed crypto kind transaction records)).attribute
      attrFingerprint = some {
        kind := attrFingerprint
        value := (fingerprintRecord crypto
          (wire kind (sizeAll records + 8) transaction records)).value
        headerStart := 20 + sizeAll records } :=
    attribute_wire_first room rfl plain (by decide) (by decide)
  have covered : (wire kind (sizeAll (sealed crypto kind transaction records)) transaction
      (sealed crypto kind transaction records)).take (20 + sizeAll records) =
        wire kind (sizeAll records + 8) transaction records := by
    rw [sizeAll_sealed, sealed, wire, encodeAll_append, ← List.append_assoc]
    exact List.take_left' (length_wire kind (sizeAll records + 8) transaction records)
  have value := @ofNat_beValue_beBytes 32 4
    (crypto.crc32 (wire kind (sizeAll records + 8) transaction records) ^^^ fingerprintXor) rfl
  have last : 20 + sizeAll records + 8 =
      (wireMessage kind transaction (sealed crypto kind transaction records)).stop := by
    simp [wireMessage, Nat.add_assoc]
  simp only [Message.fingerprintValid, found, Option.map_some, fingerprintRecord, length_beBytes,
    ← last, ne_eq, not_true, or_self, if_false, value]
  rw [wireMessage, covered]
  exact congrArg some (beq_self_eq_true _)

/-- A finished message that carries a MAC passes the check of its integrity. -/
theorem verifyIntegrity_signed (key : List U8) (fits : sizeAll records + 32 < 65536)
    (plain : ∀ record ∈ records, record.kind ≠ attrMessageIntegrity) :
    verifyIntegrity crypto
      (wire kind
        (sizeAll (sealed crypto kind transaction (signed crypto key kind transaction records)))
        transaction
        (sealed crypto kind transaction (signed crypto key kind transaction records)))
      (wireMessage kind transaction
        (sealed crypto kind transaction (signed crypto key kind transaction records)))
      (some key) = true := by
  have room : sizeAll (sealed crypto kind transaction
      (signed crypto key kind transaction records)) < 65536 := by
    rw [sizeAll_sealed, sizeAll_signed]
    exact fits
  have split : sealed crypto kind transaction (signed crypto key kind transaction records) =
      records ++ integrityRecord crypto key
        (wire kind (sizeAll records + 24) transaction records) ::
          [fingerprintRecord crypto (wire kind
            (sizeAll (signed crypto key kind transaction records) + 8) transaction
            (signed crypto key kind transaction records))] := by
    simp [sealed, signed]
  have found : (wireMessage kind transaction (sealed crypto kind transaction
      (signed crypto key kind transaction records))).attribute attrMessageIntegrity = some {
        kind := attrMessageIntegrity
        value := (integrityRecord crypto key
          (wire kind (sizeAll records + 24) transaction records)).value
        headerStart := 20 + sizeAll records } := by
    rw [split] at room ⊢
    exact attribute_wire_first room rfl plain (by decide) (by decide)
  have covered (length : Nat) : (wire kind length transaction (sealed crypto kind transaction
      (signed crypto key kind transaction records))).take (20 + sizeAll records) =
        wire kind length transaction records := by
    rw [split, wire, encodeAll_append, ← List.append_assoc]
    exact List.take_left' (length_wire kind length transaction records)
  have small : ¬65536 ≤ sizeAll records + 24 := by omega
  have length : 20 + sizeAll records + 24 - 20 = sizeAll records + 24 := by omega
  have header : ¬20 + sizeAll records < 20 := by omega
  simp only [verifyIntegrity, found, integrityRecord, crypto.length_hmacSha1, covered, length,
    small, if_false, header, ne_eq, not_true, or_self, overwrite_wire, beq_self_eq_true]

end Finish

/-- Whatever attributes a message is built from, finishing it gives bytes that decode to a
message of the same type and transaction, with the same attributes in the same order, then
those that finishing adds; its fingerprint is valid, and so is its MAC if it has one. -/
theorem built_message_decodes (crypto : StunCrypto) (kind : U16) (transaction : Transaction)
    (records : List Record) (key : List U8) (clear : kind &&& 0xc000 = 0) (nonzero : kind ≠ 0)
    (plain : ∀ record ∈ records,
      record.kind ≠ attrMessageIntegrity ∧ record.kind ≠ attrFingerprint) :
    let builder := (MessageBuilder.withTransaction kind transaction).withAttributes records
    (sizeAll records + 8 < 65536 → ∃ bytes message fingerprint,
      builder.finish crypto = .ok bytes ∧ Message.decode bytes = .ok message ∧
      message.kind = kind ∧ message.transaction = transaction ∧
      message.attributes.map Attribute.record = records.map normalRecord ++
        [{ kind := attrFingerprint, value := fingerprint }] ∧
      message.fingerprintValid crypto.crc32 = some true) ∧
    (sizeAll records + 32 < 65536 → ∃ bytes message integrity fingerprint,
      builder.finishAuthenticated crypto key = .ok bytes ∧ Message.decode bytes = .ok message ∧
      message.kind = kind ∧ message.transaction = transaction ∧
      message.attributes.map Attribute.record = records.map normalRecord ++
        [{ kind := attrMessageIntegrity, value := integrity },
          { kind := attrFingerprint, value := fingerprint }] ∧
      message.fingerprintValid crypto.crc32 = some true ∧
      verifyIntegrity crypto bytes message (some key) = true) := by
  intro builder
  have holds : builder.Holds kind transaction records :=
    holds_withAttributes kind transaction records
  constructor
  · intro fits
    have room : sizeAll (sealed crypto kind transaction records) < 65536 := by
      rw [sizeAll_sealed]
      exact fits
    exists wire kind (sizeAll (sealed crypto kind transaction records)) transaction
        (sealed crypto kind transaction records),
      wireMessage kind transaction (sealed crypto kind transaction records),
      (fingerprintRecord crypto (wire kind (sizeAll records + 8) transaction records)).value
    have same : (wireMessage kind transaction
        (sealed crypto kind transaction records)).attributes.map Attribute.record =
          records.map normalRecord ++ [fingerprintRecord crypto
            (wire kind (sizeAll records + 8) transaction records)] := by
      rw [attributes_wire room, record_located, sealed, List.map_append]
      rfl
    exact ⟨finish_wire holds fits, decode_wire transaction clear nonzero room, rfl, rfl, same,
      fingerprintValid_sealed fits fun record member => (plain record member).2⟩
  · intro fits
    have room : sizeAll (sealed crypto kind transaction
        (signed crypto key kind transaction records)) < 65536 := by
      rw [sizeAll_sealed, sizeAll_signed]
      exact fits
    have unsealed : ∀ record ∈ signed crypto key kind transaction records,
        record.kind ≠ attrFingerprint := by
      intro record member
      rcases List.mem_append.mp member with inside | last
      · exact (plain record inside).2
      · rw [List.mem_singleton.mp last]
        exact (by decide : attrMessageIntegrity ≠ attrFingerprint)
    exists wire kind
        (sizeAll (sealed crypto kind transaction (signed crypto key kind transaction records)))
        transaction (sealed crypto kind transaction (signed crypto key kind transaction records)),
      wireMessage kind transaction
        (sealed crypto kind transaction (signed crypto key kind transaction records)),
      (integrityRecord crypto key (wire kind (sizeAll records + 24) transaction records)).value,
      (fingerprintRecord crypto (wire kind
        (sizeAll (signed crypto key kind transaction records) + 8) transaction
        (signed crypto key kind transaction records))).value
    have same : (wireMessage kind transaction (sealed crypto kind transaction
        (signed crypto key kind transaction records))).attributes.map Attribute.record =
          records.map normalRecord ++
            [integrityRecord crypto key (wire kind (sizeAll records + 24) transaction records),
              fingerprintRecord crypto (wire kind
                (sizeAll (signed crypto key kind transaction records) + 8) transaction
                (signed crypto key kind transaction records))] := by
      rw [attributes_wire room, record_located, sealed, signed, List.append_assoc,
        List.map_append]
      rfl
    exact ⟨finishAuthenticated_wire key holds fits, decode_wire transaction clear nonzero room,
      rfl, rfl, same, fingerprintValid_sealed (by rw [sizeAll_signed]; omega) unsealed,
      verifyIntegrity_signed key fits fun record member => (plain record member).1⟩

theorem request_with_alternate_address_decodes :
    let records : List Record := [
      { kind := attrRequestedTransport, value := [17, 0, 0, 0] },
      { kind := 0x8020, value := [0, 1, 2, 3, 4] }]
    let builder := (MessageBuilder.withTransaction 0x0003 7).withAttributes records
    (∃ bytes message fingerprint,
      builder.finish StunCrypto.standard = .ok bytes ∧ Message.decode bytes = .ok message ∧
      message.kind = 0x0003 ∧ message.transaction = 7 ∧
      message.attributes.map Attribute.record = records.map normalRecord ++
        [{ kind := attrFingerprint, value := fingerprint }] ∧
      message.fingerprintValid StunCrypto.standard.crc32 = some true) ∧
    (∃ bytes message integrity fingerprint,
      builder.finishAuthenticated StunCrypto.standard [1, 2, 3] = .ok bytes ∧
      Message.decode bytes = .ok message ∧
      message.kind = 0x0003 ∧ message.transaction = 7 ∧
      message.attributes.map Attribute.record = records.map normalRecord ++
        [{ kind := attrMessageIntegrity, value := integrity },
          { kind := attrFingerprint, value := fingerprint }] ∧
      message.fingerprintValid StunCrypto.standard.crc32 = some true ∧
      verifyIntegrity StunCrypto.standard bytes message (some [1, 2, 3]) = true) := by
  intro records builder
  have both := built_message_decodes StunCrypto.standard 0x0003 7 records [1, 2, 3] (by decide)
    (by decide) (by simp [records, attrRequestedTransport, attrMessageIntegrity, attrFingerprint])
  exact ⟨both.1 (by decide), both.2 (by decide)⟩

end Csqtt
