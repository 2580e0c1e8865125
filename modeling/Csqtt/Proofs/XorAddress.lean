/-
Module: Csqtt.Proofs.XorAddress
Purpose: A masked address is read back as it was written, and no other bytes are read as one.
Trusted boundary: none
Main exports: unmaskChecked_eq, decodeXorAddressChecked_eq, encode_of_decodeXorAddress,
  xor_address_round_trip
-/
import Csqtt.Engine.StunBounds

namespace Csqtt

open Tlv

variable {value : List U8} {transaction : Transaction}

/-!
### Reading
-/

theorem unmaskChecked_eq {mask : List U8} {count index : Nat}
    (inside : index + 4 + count ≤ value.length) (covered : index + count ≤ mask.length) :
    unmaskChecked value mask count index =
      .read (List.zipWith (· ^^^ ·) (slice value (index + 4) count) (slice mask index count)) := by
  induction count generalizing index with
  | zero => simp [unmaskChecked, slice, pure]
  | succ count inductionHypothesis =>
    have here : index + 4 < value.length := by omega
    have there : index < mask.length := by omega
    have later := @inductionHypothesis (index + 1) (by omega) (by omega)
    rw [unmaskChecked, byteChecked_of_lt here, byteChecked_of_lt there, Access.read_bind,
      Access.read_bind, later, Access.read_bind, slice, slice, slice, slice,
      List.drop_eq_getElem_cons here, List.drop_eq_getElem_cons there, List.take_succ_cons,
      List.take_succ_cons, List.zipWith_cons_cons, Nat.add_right_comm index 4 1]
    rfl

theorem length_xorMask : (xorMask transaction).length = 16 := by
  rw [xorMask, List.length_append, length_beBytes, length_beBytes]

theorem decodeXorAddress_zero (family high low : U8) (rest : List U8) :
    decodeXorAddress (0 :: family :: high :: low :: rest) transaction =
      if family = 1 ∧ rest.length + 4 = 8 then
        .ok {
          ip := .v4 (BitVec.ofNat 32 (beValue rest) ^^^ magicCookie)
          port := BitVec.ofNat 16 (beValue [high, low]) ^^^ (magicCookie >>> 16).setWidth 16 }
      else if family = 2 ∧ rest.length + 4 = 20 then
        .ok {
          ip := .v6 (BitVec.ofNat 128
            (beValue (List.zipWith (· ^^^ ·) rest (xorMask transaction))))
          port := BitVec.ofNat 16 (beValue [high, low]) ^^^ (magicCookie >>> 16).setWidth 16 }
      else .error "TURN XOR address family is invalid" := rfl

/-- Less than four bytes, or a first byte that is not zero. -/
theorem decodeXorAddress_malformed
    (other : ∀ family high low rest, value ≠ 0 :: family :: high :: low :: rest) :
    decodeXorAddress value transaction = .error "TURN XOR address is malformed" := by
  rw [decodeXorAddress]
  exact other

/-- Every read lies inside the value. -/
theorem decodeXorAddressChecked_eq :
    decodeXorAddressChecked value transaction = .read (decodeXorAddress value transaction) := by
  by_cases short : value.length < 4
  · rw [decodeXorAddressChecked, if_pos short, decodeXorAddress_malformed]
    · rfl
    · rintro family high low rest rfl
      exact absurd short (Nat.not_lt.mpr (Nat.le_add_left 4 rest.length))
  · match value, short with
    | [], short => exact absurd (by decide) short
    | [_], short => exact absurd (Nat.lt_of_sub_pos (by decide : 0 < 4 - 1)) short
    | [_, _], short => exact absurd (Nat.lt_of_sub_pos (by decide : 0 < 4 - 2)) short
    | [_, _, _], short => exact absurd (Nat.lt_of_sub_pos (by decide : 0 < 4 - 3)) short
    | reserved :: family :: high :: low :: rest, short =>
      have first : byteChecked (reserved :: family :: high :: low :: rest) 0 =
          .read reserved := rfl
      rw [decodeXorAddressChecked, if_neg short, first, Access.read_bind]
      by_cases zero : reserved = 0
      · subst zero
        have port : u16Checked (0 :: family :: high :: low :: rest) 2 =
            .read (beValue [high, low]) := rfl
        have second : byteChecked (0 :: family :: high :: low :: rest) 1 = .read family := rfl
        have length : (0 :: family :: high :: low :: rest).length = rest.length + 4 := rfl
        rw [if_neg (not_not.mpr rfl), port, Access.read_bind, second, Access.read_bind,
          decodeXorAddress_zero, length]
        split
        · next four =>
            have whole : slice (0 :: family :: high :: low :: rest) 4 (8 - 4) = rest :=
              List.take_of_length_le (Nat.le_of_add_le_add_right four.2.le)
            rw [sliceChecked_of_le (by decide) four.2.ge, whole]
            rfl
        · split
          · next six =>
              have body : slice (0 :: family :: high :: low :: rest) (0 + 4) 16 = rest :=
                List.take_of_length_le (Nat.le_of_add_le_add_right six.2.le)
              have mask : slice (xorMask transaction) 0 16 = xorMask transaction :=
                List.take_of_length_le length_xorMask.le
              rw [unmaskChecked_eq six.2.ge length_xorMask.ge, body, mask]
              rfl
          · rfl
      · rw [if_pos zero, decodeXorAddress_malformed]
        · rfl
        · rintro _ _ _ _ same
          exact zero (List.cons.inj same).1

/-!
### Masks
-/

theorem xor_cancel {width : Nat} (word mask : BitVec width) : word ^^^ mask ^^^ mask = word := by
  rw [BitVec.xor_assoc, BitVec.xor_self, BitVec.xor_zero]

theorem zipWith_xor_cancel {bytes mask : List U8} (covered : bytes.length ≤ mask.length) :
    List.zipWith (· ^^^ ·) (List.zipWith (· ^^^ ·) bytes mask) mask = bytes := by
  induction bytes generalizing mask with
  | nil => rfl
  | cons byte bytes inductionHypothesis =>
    cases mask with
    | nil => exact absurd covered (Nat.not_succ_le_zero _)
    | cons cover mask =>
      rw [List.zipWith_cons_cons, List.zipWith_cons_cons, xor_cancel,
        inductionHypothesis (Nat.le_of_succ_le_succ covered)]

theorem exists_pair (word : U16) : ∃ high low, beBytes 2 word.toNat = [high, low] :=
  List.length_eq_two.mp (length_beBytes _ _)

theorem decode_encodeXorAddress (address : SocketAddr) :
    decodeXorAddress (encodeXorAddress address transaction) transaction = .ok address := by
  obtain ⟨ip, port⟩ := address
  have masked := @ofNat_beValue_beBytes 16 2 (port ^^^ (magicCookie >>> 16).setWidth 16) rfl
  rw [encodeXorAddress]
  obtain ⟨high, low, pair⟩ := exists_pair (port ^^^ (magicCookie >>> 16).setWidth 16)
  cases ip with
  | v4 ip =>
    dsimp only
    rw [pair] at masked ⊢
    have body := @ofNat_beValue_beBytes 32 4 (ip ^^^ magicCookie) rfl
    have length : (beBytes 4 (ip ^^^ magicCookie).toNat).length + 4 = 8 := by rw [length_beBytes]
    generalize beBytes 4 (ip ^^^ magicCookie).toNat = rest at body length ⊢
    refine (decodeXorAddress_zero 1 high low rest).trans ?_
    rw [if_pos ⟨rfl, length⟩, masked, body, xor_cancel, xor_cancel]
  | v6 ip =>
    dsimp only
    rw [pair] at masked ⊢
    have octets : (beBytes 16 ip.toNat).length = 16 := length_beBytes _ _
    have body := @zipWith_xor_cancel _ (xorMask transaction) (octets.trans_le length_xorMask.ge)
    have length : (List.zipWith (· ^^^ ·) (beBytes 16 ip.toNat) (xorMask transaction)).length + 4 =
        20 := by
      rw [List.length_zipWith, octets, length_xorMask, Nat.min_self]
    generalize List.zipWith (· ^^^ ·) (beBytes 16 ip.toNat) (xorMask transaction) = rest
      at body length ⊢
    have other : ¬ ((2 : U8) = 1 ∧ rest.length + 4 = 8) := fun four => absurd four.1 (by decide)
    refine (decodeXorAddress_zero 2 high low rest).trans ?_
    rw [if_neg other, if_pos ⟨rfl, length⟩, masked, xor_cancel, body,
      @ofNat_beValue_beBytes 128 16 ip rfl]

theorem encode_of_decodeXorAddress {address : SocketAddr}
    (decoded : decodeXorAddress value transaction = .ok address) :
    encodeXorAddress address transaction = value := by
  by_cases formed : ∃ family high low rest, value = 0 :: family :: high :: low :: rest
  · obtain ⟨family, high, low, rest, rfl⟩ := formed
    obtain ⟨port, pair⟩ := @exists_word_of_length 16 2 [high, low] rfl rfl
    rw [decodeXorAddress_zero, pair, @ofNat_beValue_beBytes 16 2 port rfl] at decoded
    split at decoded
    · next four =>
        obtain ⟨rfl, length⟩ := four
        obtain ⟨word, rfl⟩ := @exists_word_of_length 32 4 rest rfl (Nat.add_right_cancel length)
        rw [@ofNat_beValue_beBytes 32 4 word rfl] at decoded
        obtain rfl := Except.ok.inj decoded
        rw [encodeXorAddress]
        dsimp only
        rw [xor_cancel, xor_cancel, ← pair]
        rfl
    · split at decoded
      · next six =>
          obtain ⟨rfl, length⟩ := six
          have exact : rest.length = 16 := Nat.add_right_cancel length
          have plain : (List.zipWith (· ^^^ ·) rest (xorMask transaction)).length = 16 := by
            rw [List.length_zipWith, exact, length_xorMask, Nat.min_self]
          obtain ⟨word, octets⟩ := @exists_word_of_length 128 16 _ rfl plain
          rw [octets, @ofNat_beValue_beBytes 128 16 word rfl] at decoded
          obtain rfl := Except.ok.inj decoded
          rw [encodeXorAddress]
          dsimp only
          rw [xor_cancel, ← octets, zipWith_xor_cancel (exact.trans_le length_xorMask.ge), ← pair]
          rfl
      · cases decoded
  · rw [decodeXorAddress_malformed fun family high low rest same =>
      formed ⟨family, high, low, rest, same⟩] at decoded
    cases decoded

/-- What is encoded is decoded again, what is decoded is the encoding of what it is decoded to,
and nothing is read outside of the value. -/
theorem xor_address_round_trip (transaction : Transaction) :
    (∀ address, decodeXorAddressChecked (encodeXorAddress address transaction) transaction =
      .read (.ok address)) ∧
    (∀ value address, decodeXorAddressChecked value transaction = .read (.ok address) →
      encodeXorAddress address transaction = value) ∧
    ∀ value, ∃ result, decodeXorAddressChecked value transaction = .read result := by
  refine ⟨fun address => ?_, fun value address accepted => ?_,
    fun value => ⟨_, decodeXorAddressChecked_eq⟩⟩
  · rw [decodeXorAddressChecked_eq, decode_encodeXorAddress]
  · rw [decodeXorAddressChecked_eq] at accepted
    exact encode_of_decodeXorAddress (Access.read.inj accepted)

end Csqtt
