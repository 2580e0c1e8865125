/-
Module: Csqtt.Engine.StripedScheduler
Purpose: The class of a packet: its size, unless its transport makes it urgent; and
  how many packets of a class go to one worker in a row.
Trusted boundary: none
Main exports: PacketClass, streamChunk, DispatchTicket, packetClass, keepUnderPressure
-/
import Csqtt.Engine.FlowFrame

namespace Csqtt

def smallPacketMax : Nat := 164
def mediumPacketMax : Nat := 999
def smallStreamStripePacketChunk : Nat := 4
def mediumStreamStripePacketChunk : Nat := 16
def bulkStreamStripePacketChunk : Nat := 32

inductive PacketClass where
  | small
  | medium
  | bulk
deriving DecidableEq, Repr

def PacketClass.streamChunk : PacketClass → Nat
  | .small => smallStreamStripePacketChunk
  | .medium => mediumStreamStripePacketChunk
  | .bulk => bulkStreamStripePacketChunk

theorem PacketClass.streamChunk_pos (ofClass : PacketClass) : 0 < ofClass.streamChunk := by
  cases ofClass <;> decide

structure DispatchTicket where
  startSlot : Nat
  ofClass : PacketClass
deriving DecidableEq, Repr

/-- The bytes of a range, when the slice has them. -/
def getRange (bytes : List U8) (offset count : Nat) : Option (List U8) :=
  if offset + count ≤ bytes.length then some (bytes.extract offset (offset + count)) else none

/-- One extension header per round; the rest of the chain is left alone after
the last round. -/
def ipv6Headers (packet : List U8) : Nat → U8 → Nat → Option (U8 × Nat)
  | 0, protocol, offset => some (protocol, offset)
  | rounds + 1, protocol, offset =>
      match protocol.toNat with
      | 0 | 43 | 60 => do
          let header ← getRange packet offset 2
          let offset := offset + ((byteAt header 1).toNat + 1) * 8
          if packet.length < offset then none
          else ipv6Headers packet rounds (byteAt header 0) offset
      | 44 => do
          let header ← getRange packet offset 8
          if (BitVec.ofNat 16 (beValue (header.extract 2 4))) &&& 0xfff8#16 ≠ 0 then none
          else
            let offset := offset + 8
            if packet.length < offset then none
            else ipv6Headers packet rounds (byteAt header 0) offset
      | 51 => do
          let header ← getRange packet offset 2
          let offset := offset + ((byteAt header 1).toNat + 2) * 4
          if packet.length < offset then none
          else ipv6Headers packet rounds (byteAt header 0) offset
      | _ => some (protocol, offset)

def ipv6Transport (packet : List U8) : Option (U8 × Nat) :=
  ipv6Headers packet 8 (byteAt packet 6) 40

/-- Transport protocol of an IP packet and where its header begins. -/
def internetTransport (packet : List U8) : Option (U8 × Nat) := do
  let first ← packet.head?
  match (first >>> 4).toNat with
  | 4 =>
      let headerLen := (first &&& 0x0f#8).toNat * 4
      if 20 ≤ headerLen ∧ headerLen ≤ packet.length then some (byteAt packet 9, headerLen)
      else none
  | 6 => if 40 ≤ packet.length then ipv6Transport packet else none
  | _ => none

def sizeClass (length : Nat) : PacketClass :=
  if length ≤ smallPacketMax then .small
  else if length ≤ mediumPacketMax then .medium
  else .bulk

def isDns (packet : List U8) (transport : U8) (offset : Nat) : Bool :=
  (transport == 6#8 || transport == 17#8) &&
    match getRange packet offset 4 with
    | none => false
    | some ports => beValue (ports.extract 0 2) == 53 || beValue (ports.extract 2 4) == 53

def isTcpControl (packet : List U8) (offset : Nat) : Bool :=
  match getRange packet offset 14 with
  | none => false
  | some header =>
      let flags := byteAt header 13
      if flags &&& 0x07#8 ≠ 0 then true
      else if flags &&& 0x10#8 = 0 then false
      else
        let headerLen := (byteAt header 12 >>> 4).toNat * 4
        decide (20 ≤ headerLen ∧ packet.length ≤ offset + headerLen)

def packetClass (packet : List U8) : PacketClass :=
  let packet := payload packet
  match internetTransport packet with
  | none => sizeClass packet.length
  | some (transport, offset) =>
      if transport = 1 ∨ transport = 58 ∨ isDns packet transport offset then .small
      else if transport = 6 ∧ isTcpControl packet offset then .small
      else if transport = 17 then
        match sizeClass packet.length with
        | .bulk => .medium
        | smaller => smaller
      else sizeClass packet.length

/-- Whether a packet goes through the latency queue. -/
def keepUnderPressure (packet : List U8) : Bool :=
  let packet := payload packet
  if packetClass packet = .small then true
  else
    match internetTransport packet with
    | none => false
    | some (protocol, _) => protocol == 17#8

end Csqtt
