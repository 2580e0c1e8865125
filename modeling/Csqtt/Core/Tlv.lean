/-
Module: Csqtt.Core.Tlv
Purpose: Byte strings made of records, each a kind, a length and a value padded to a
  multiple of four bytes, and the reading of such a string by position.
Trusted boundary: none
Main exports: padded, Record, encodeAll, u16At, slice, slice_append, sizeAll_mod
-/
import Csqtt.Core.Word

namespace Csqtt.Tlv

/-- Length of a value together with its padding. -/
def padded (length : Nat) : Nat :=
  (length + 3) / 4 * 4

theorem le_padded (length : Nat) : length ≤ padded length := by
  unfold padded
  omega

theorem padded_mod (length : Nat) : padded length % 4 = 0 := by
  unfold padded
  omega

structure Record where
  kind : U16
  value : List U8
deriving DecidableEq, Repr

/-- Bytes a record takes, its four bytes of header and its padding included. -/
def Record.size (record : Record) : Nat :=
  4 + padded record.value.length

def Record.encode (record : Record) : List U8 :=
  beBytes 2 record.kind.toNat ++ beBytes 2 record.value.length ++ record.value ++
    List.replicate (padded record.value.length - record.value.length) 0

def encodeAll (records : List Record) : List U8 :=
  records.flatMap Record.encode

def sizeAll (records : List Record) : Nat :=
  (records.map Record.size).sum

@[simp] theorem encodeAll_nil : encodeAll [] = [] := rfl

@[simp] theorem encodeAll_cons (record : Record) (records : List Record) :
    encodeAll (record :: records) = record.encode ++ encodeAll records := rfl

@[simp] theorem encodeAll_append (first second : List Record) :
    encodeAll (first ++ second) = encodeAll first ++ encodeAll second := by
  simp [encodeAll]

@[simp] theorem sizeAll_nil : sizeAll [] = 0 := rfl

@[simp] theorem sizeAll_cons (record : Record) (records : List Record) :
    sizeAll (record :: records) = record.size + sizeAll records := rfl

@[simp] theorem sizeAll_append (first second : List Record) :
    sizeAll (first ++ second) = sizeAll first + sizeAll second := by
  simp [sizeAll]

@[simp] theorem length_encode (record : Record) : record.encode.length = record.size := by
  have room := le_padded record.value.length
  simp only [Record.encode, Record.size, List.length_append, length_beBytes, List.length_replicate]
  omega

@[simp] theorem length_encodeAll (records : List Record) :
    (encodeAll records).length = sizeAll records := by
  induction records with
  | nil => rfl
  | cons record records inductionHypothesis => simp [inductionHypothesis]

theorem size_mod (record : Record) : record.size % 4 = 0 := by
  have aligned := padded_mod record.value.length
  unfold Record.size
  omega

theorem sizeAll_mod (records : List Record) : sizeAll records % 4 = 0 := by
  induction records with
  | nil => rfl
  | cons record records inductionHypothesis =>
      have aligned := size_mod record
      rw [sizeAll_cons]
      omega

/-- No value is longer than all records together. -/
theorem length_value_le {record : Record} {records : List Record} (member : record ∈ records) :
    record.value.length ≤ sizeAll records := by
  have room := le_padded record.value.length
  induction member with
  | head records => simp only [sizeAll_cons, Record.size]; omega
  | tail other _ inductionHypothesis => simp only [sizeAll_cons]; omega

/-!
### Reading by position
-/

/-- The bytes of a string from a position on, at most `count` of them. -/
def slice (raw : List U8) (position count : Nat) : List U8 :=
  (raw.drop position).take count

/-- The two bytes at a position, as a number. -/
def u16At (raw : List U8) (position : Nat) : Nat :=
  beValue (slice raw position 2)

theorem slice_append {front middle back : List U8} {position count : Nat}
    (starts : front.length = position) (size : middle.length = count) :
    slice (front ++ middle ++ back) position count = middle := by
  subst starts size
  simp [slice]

/-- A slice looks at the bytes before its end only. -/
theorem slice_congr {first second : List U8} {position count : Nat}
    (same : first.take (position + count) = second.take (position + count)) :
    slice first position count = slice second position count := by
  have cut := congrArg (List.drop position) same
  simpa [slice, List.drop_take] using cut

theorem slice_slice (raw : List U8) (start : Nat) {count offset length : Nat}
    (within : offset + length ≤ count) :
    slice (slice raw start count) offset length = slice raw (start + offset) length := by
  have room : length ≤ count - offset := Nat.le_sub_of_add_le' within
  simp only [slice, List.drop_take, List.drop_drop, List.take_take, Nat.min_eq_left room]

/-- Strings that agree on a stretch agree on every part of it. -/
theorem slice_within {first second : List U8} {start count position length : Nat}
    (same : slice first start count = slice second start count) (after : start ≤ position)
    (before : position + length ≤ start + count) :
    slice first position length = slice second position length := by
  have within : position - start + length ≤ count := by omega
  have part := congrArg (slice · (position - start) length) same
  simp only [slice_slice _ start within, Nat.add_sub_cancel' after] at part
  exact part

theorem u16At_congr {first second : List U8} {position : Nat}
    (same : first.take (position + 2) = second.take (position + 2)) :
    u16At first position = u16At second position :=
  congrArg beValue (slice_congr same)

theorem length_slice (raw : List U8) (position count : Nat) :
    (slice raw position count).length = min count (raw.length - position) := by
  simp [slice]

section Encoded

variable {record : Record} {front back : List U8} {position : Nat}

/-- The kind of a record is at its start. -/
theorem u16At_kind (starts : front.length = position) :
    u16At (front ++ record.encode ++ back) position = record.kind.toNat := by
  have bound := record.kind.isLt
  have split : front ++ record.encode ++ back = front ++ beBytes 2 record.kind.toNat ++
      (beBytes 2 record.value.length ++ record.value ++
        List.replicate (padded record.value.length - record.value.length) 0 ++ back) := by
    simp [Record.encode]
  rw [u16At, split, slice_append starts (length_beBytes 2 _), beValue_beBytes]
  exact Nat.mod_eq_of_lt bound

/-- The length of the value follows the kind. -/
theorem u16At_length (starts : front.length = position) (short : record.value.length < 65536) :
    u16At (front ++ record.encode ++ back) (position + 2) = record.value.length := by
  have split : front ++ record.encode ++ back =
      (front ++ beBytes 2 record.kind.toNat) ++ beBytes 2 record.value.length ++
        (record.value ++
          List.replicate (padded record.value.length - record.value.length) 0 ++ back) := by
    simp [Record.encode]
  rw [u16At, split, slice_append (by simp [starts]) (length_beBytes 2 _), beValue_beBytes]
  exact Nat.mod_eq_of_lt short

/-- The value follows the header of four bytes. -/
theorem slice_value (starts : front.length = position) :
    slice (front ++ record.encode ++ back) (position + 4) record.value.length = record.value := by
  have split : front ++ record.encode ++ back =
      (front ++ beBytes 2 record.kind.toNat ++ beBytes 2 record.value.length) ++ record.value ++
        (List.replicate (padded record.value.length - record.value.length) 0 ++ back) := by
    simp [Record.encode]
  rw [split]
  exact slice_append (by simp [starts]) rfl

end Encoded

end Csqtt.Tlv
