/-
Module: Csqtt.Engine.StunBounds
Purpose: The reading of STUN messages with every access to the bytes checked and every loop cut
  off, so that a read outside a message and a loop that does not end are results of their own.
Trusted boundary: none
Main exports: checkAttributesChecked, Message.decodeChecked, Attributes.nextChecked,
  Attributes.collectChecked, decodeXorAddressChecked
-/
import Csqtt.Core.Access
import Csqtt.Engine.StunMessage

namespace Csqtt

open Tlv

def checkAttributesChecked (raw : List U8) (stop : Nat) : Nat → Nat → Access (Except String Unit)
  | 0, _ => .unfinished
  | turns + 1, position =>
      if position < stop then
        if stop - position < 4 then return .error "STUN attribute header truncated"
        else do
          let length ← u16Checked raw (position + 2)
          let valueStart := position + 4
          let next := valueStart + padded length
          if stop < next ∨ stop < valueStart + length then
            return .error "STUN attribute value truncated"
          else checkAttributesChecked raw stop turns next
      else return .ok ()

def Message.decodeChecked (turns : Nat) (raw : List U8) : Access (Except String Message) :=
  if raw.length < headerSize then return .error "STUN header truncated"
  else do
    let kindRead ← u16Checked raw 0
    let kind := BitVec.ofNat 16 kindRead
    if kind &&& 0xc000 ≠ 0 then return .error "STUN type has non-zero leading bits"
    else if kind = 0 then return .error "STUN type zero is reserved"
    else
      let cookie ← sliceChecked raw 4 8
      if cookie ≠ beBytes 4 magicCookie.toNat then return .error "STUN magic cookie mismatch"
      else
        let declared ← u16Checked raw 2
        if declared % 4 ≠ 0 then return .error "STUN message length is not aligned"
        else
          let stop := headerSize + declared
          if raw.length ≠ stop then return .error "STUN datagram length mismatch"
          else
            let checked ← checkAttributesChecked raw stop turns headerSize
            match checked with
            | .error reason => return .error reason
            | .ok () =>
                let transaction ← sliceChecked raw 8 20
                return .ok {
                  raw := raw
                  kind := kind
                  transaction := BitVec.ofNat 96 (beValue transaction)
                  stop := stop }

namespace Attributes

def nextChecked (attributes : Attributes) : Access (Option (Attribute × Attributes)) :=
  if attributes.position < attributes.stop then do
    let kindRead ← u16Checked attributes.raw attributes.position
    let kind := BitVec.ofNat 16 kindRead
    let length ← u16Checked attributes.raw (attributes.position + 2)
    let valueStart := attributes.position + 4
    let value ← sliceChecked attributes.raw valueStart (valueStart + length)
    return some ({
        kind := if kind = 0x8020 then 0x0020 else kind
        value := value
        headerStart := attributes.position },
      { attributes with position := valueStart + padded length })
  else return none

/-- Everything the walk yields, if it ends in so many turns. -/
def collectChecked : Nat → Attributes → Access (List Attribute)
  | 0, _ => .unfinished
  | turns + 1, attributes => do
      let yielded ← attributes.nextChecked
      match yielded with
      | none => return []
      | some (item, rest) =>
          let items ← collectChecked turns rest
          return item :: items

end Attributes

/-- The walk over a message from its first attribute on. -/
def Message.walk (message : Message) : Attributes where
  raw := message.raw
  position := headerSize
  stop := message.stop

/-- So many octets from an index on, each without its mask. The address starts at byte four. -/
def unmaskChecked (value mask : List U8) : Nat → Nat → Access (List U8)
  | 0, _ => return []
  | count + 1, index => do
      let octet ← byteChecked value (index + 4)
      let cover ← byteChecked mask index
      let later ← unmaskChecked value mask count (index + 1)
      return (octet ^^^ cover) :: later

def decodeXorAddressChecked (value : List U8) (transaction : Transaction) :
    Access (Except String SocketAddr) :=
  if value.length < 4 then return .error "TURN XOR address is malformed"
  else do
    let reserved ← byteChecked value 0
    if reserved ≠ 0 then return .error "TURN XOR address is malformed"
    else
      let portRead ← u16Checked value 2
      let port := BitVec.ofNat 16 portRead ^^^ (magicCookie >>> 16).setWidth 16
      let family ← byteChecked value 1
      if family = 1 ∧ value.length = 8 then
        let encoded ← sliceChecked value 4 8
        return .ok { ip := .v4 (BitVec.ofNat 32 (beValue encoded) ^^^ magicCookie), port := port }
      else if family = 2 ∧ value.length = 20 then
        let octets ← unmaskChecked value (xorMask transaction) 16 0
        return .ok { ip := .v6 (BitVec.ofNat 128 (beValue octets)), port := port }
      else return .error "TURN XOR address family is invalid"

end Csqtt
