/-
Module: Csqtt.Core.Access
Purpose: Reading of byte strings with every access checked and every loop cut off, so that a read
  outside the bytes and a loop that does not end are results of their own.
Trusted boundary: none
Main exports: Access, byteChecked, u16Checked, sliceChecked, byteChecked_append,
  sliceChecked_append
-/
import Csqtt.Core.Tlv

namespace Csqtt

open Tlv

/-- A value, a read outside the bytes, or a loop that was cut off. -/
inductive Access (Value : Type) where
  | read (value : Value)
  | outside
  | unfinished

namespace Access

def bind {First Second : Type} (access : Access First) (next : First → Access Second) :
    Access Second :=
  match access with
  | .read value => next value
  | .outside => .outside
  | .unfinished => .unfinished

instance : Monad Access where
  pure := .read
  bind := bind

@[simp] theorem read_bind {First Second : Type} (value : First)
    (next : First → Access Second) : (Access.read value >>= next) = next value := rfl

end Access

/-- An indexed byte. -/
def byteChecked (raw : List U8) (index : Nat) : Access U8 :=
  match raw[index]? with
  | some byte => .read byte
  | none => .outside

def u16Checked (raw : List U8) (position : Nat) : Access Nat := do
  let high ← byteChecked raw position
  let low ← byteChecked raw (position + 1)
  return beValue [high, low]

/-- The bytes of a range. -/
def sliceChecked (raw : List U8) (start stop : Nat) : Access (List U8) :=
  if start ≤ stop ∧ stop ≤ raw.length then .read (slice raw start (stop - start)) else .outside

variable {raw : List U8} {position stop : Nat}

theorem byteChecked_of_lt {index : Nat} (inside : index < raw.length) :
    byteChecked raw index = .read raw[index] := by
  rw [byteChecked, List.getElem?_eq_getElem inside]

theorem u16Checked_of_lt (inside : position + 1 < raw.length) :
    u16Checked raw position = .read (u16At raw position) := by
  have first : position < raw.length := Nat.lt_of_succ_lt inside
  have pair : slice raw position 2 = [raw[position], raw[position + 1]] := by
    rw [slice, List.drop_eq_getElem_cons first, List.drop_eq_getElem_cons inside]
    rfl
  rw [u16Checked, byteChecked_of_lt first, byteChecked_of_lt inside, u16At, pair]
  rfl

theorem sliceChecked_of_le {start : Nat} (ordered : start ≤ stop) (inside : stop ≤ raw.length) :
    sliceChecked raw start stop = .read (slice raw start (stop - start)) :=
  if_pos ⟨ordered, inside⟩

theorem byteChecked_append (front rest : List U8) (index : Nat) :
    byteChecked (front ++ rest) (front.length + index) = byteChecked rest index := by
  rw [byteChecked, byteChecked, List.getElem?_append_right (Nat.le_add_right _ _),
    Nat.add_sub_cancel_left]

theorem sliceChecked_append (front middle rest : List U8) :
    sliceChecked (front ++ (middle ++ rest)) front.length (front.length + middle.length) =
      .read middle := by
  rw [sliceChecked_of_le (Nat.le_add_right _ _) (by simp), Nat.add_sub_cancel_left, slice,
    List.drop_left, List.take_left]

end Csqtt
