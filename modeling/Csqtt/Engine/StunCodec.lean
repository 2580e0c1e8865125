/-
Module: Csqtt.Engine.StunCodec
Purpose: The reading of STUN messages: the check of a whole datagram, and the walk over
  the attributes of one that passed it.
Trusted boundary: the checksum of a fingerprint is a parameter
Main exports: Class, Attribute, Message, Message.decode, Attributes, Message.attribute,
  Message.fingerprintValid
-/
import Csqtt.Core.Tlv

namespace Csqtt

open Tlv

/-- Identifier of a transaction, the twelve bytes as one number. -/
abbrev Transaction := BitVec 96

def headerSize : Nat := 20
def magicCookie : U32 := 0x2112a442
def attrFingerprint : U16 := 0x8028
def fingerprintXor : U32 := 0x5354554e

inductive Class where
  | request
  | indication
  | success
  | error
deriving DecidableEq, Repr

structure Attribute where
  kind : U16
  value : List U8
  headerStart : Nat
deriving DecidableEq, Repr

structure Message where
  raw : List U8
  kind : U16
  transaction : Transaction
  stop : Nat
deriving DecidableEq

/-- The check that every attribute lies within the message. Each turn moves at least four
bytes on, so a message never has more attributes than the fuel that decoding gives it. -/
def checkAttributes (raw : List U8) (stop : Nat) : Nat → Nat → Except String Unit
  | 0, _ => .ok ()
  | fuel + 1, position =>
      if position < stop then
        if stop - position < 4 then .error "STUN attribute header truncated"
        else
          let length := u16At raw (position + 2)
          let valueStart := position + 4
          -- Lengths are two bytes wide, so none of the checked additions overflows.
          let next := valueStart + padded length
          if stop < next ∨ stop < valueStart + length then
            .error "STUN attribute value truncated"
          else checkAttributes raw stop fuel next
      else .ok ()

namespace Message

def decode (raw : List U8) : Except String Message :=
  if raw.length < headerSize then .error "STUN header truncated"
  else
    let kind := BitVec.ofNat 16 (u16At raw 0)
    if kind &&& 0xc000 ≠ 0 then .error "STUN type has non-zero leading bits"
    else if kind = 0 then .error "STUN type zero is reserved"
    else if slice raw 4 4 ≠ beBytes 4 magicCookie.toNat then .error "STUN magic cookie mismatch"
    else
      let declared := u16At raw 2
      if declared % 4 ≠ 0 then .error "STUN message length is not aligned"
      else
        let stop := headerSize + declared
        if raw.length ≠ stop then .error "STUN datagram length mismatch"
        else
          match checkAttributes raw stop raw.length headerSize with
          | .error reason => .error reason
          | .ok () =>
              .ok {
                raw := raw
                kind := kind
                transaction := BitVec.ofNat 96 (beValue (slice raw 8 12))
                stop := stop }

/-- The class of a message type: two bits within it. -/
def «class» (message : Message) : Class :=
  match (((message.kind >>> 4) &&& 1) ||| ((message.kind >>> 7) &&& 2)).toNat with
  | 0 => .request
  | 1 => .indication
  | 2 => .success
  | _ => .error

def method (message : Message) : U16 :=
  (message.kind &&& 0x000f) ||| ((message.kind >>> 1) &&& 0x0070) |||
    ((message.kind >>> 2) &&& 0x0f80)

end Message

/-- The walk over the attributes of a message. -/
structure Attributes where
  raw : List U8
  position : Nat
  stop : Nat

namespace Attributes

def next (attributes : Attributes) : Option (Attribute × Attributes) :=
  if attributes.position < attributes.stop then
    let kind := BitVec.ofNat 16 (u16At attributes.raw attributes.position)
    let length := u16At attributes.raw (attributes.position + 2)
    let valueStart := attributes.position + 4
    some ({
        kind := if kind = 0x8020 then 0x0020 else kind
        value := slice attributes.raw valueStart length
        headerStart := attributes.position },
      { attributes with position := valueStart + padded length })
  else none

/-- Everything the walk yields. Each turn moves at least four bytes on. -/
def collect : Nat → Attributes → List Attribute
  | 0, _ => []
  | fuel + 1, attributes =>
      match attributes.next with
      | none => []
      | some (item, rest) => item :: collect fuel rest

end Attributes

def Message.attributes (message : Message) : List Attribute :=
  Attributes.collect message.stop
    { raw := message.raw, position := headerSize, stop := message.stop }

def Message.attribute (message : Message) (target : U16) : Option Attribute :=
  message.attributes.find? (·.kind = target)

/-- Whether the fingerprint is the checksum of all that precedes it, if there is one. -/
def Message.fingerprintValid (crc32 : List U8 → U32) (message : Message) : Option Bool :=
  (message.attribute attrFingerprint).map fun fingerprint =>
    if fingerprint.value.length ≠ 4 ∨ fingerprint.headerStart + 8 ≠ message.stop then false
    else
      let expected := crc32 (message.raw.take fingerprint.headerStart) ^^^ fingerprintXor
      BitVec.ofNat 32 (beValue fingerprint.value) == expected

end Csqtt
