/-
Module: Csqtt.Engine.SelectiveFec
Purpose: Which packets are sent twice, the spare copy that goes to a second worker, and how the
  transport header of a packet is found for that.
Trusted boundary: the pool, which may have no buffer for the copy
Main exports: shouldDuplicate, isQuicInitialSized, quicInitialSpareAllow, udpSpare, extensionStep,
  extensionWalk, selectiveTransport
-/
import Csqtt.Core.HashTable
import Csqtt.Engine.BridgeRun

namespace Csqtt

def maxSmallUdpPayload : Nat := 256
def quicInitialUdpMin : Nat := 1200
def quicInitialUdpMax : Nat := 1280
def quicSparePerFlow : U8 := 2#8
def quicSpareFlowCap : Nat := 256

structure Transport where
  protocol : U8
  bytes : List U8

def ipv4Transport (packet : List U8) : Option Transport :=
  if packet.length < 20 ∨ byteAt packet 0 >>> 4 ≠ 4#8 then none
  else
    let headerLen := (byteAt packet 0 &&& 0x0f#8).toNat * 4
    if headerLen < 20 ∨ packet.length < headerLen then none
    else if (BitVec.ofNat 16 (beValue (packet.extract 6 8))) &&& 0x1fff#16 ≠ 0 then none
    else some { protocol := byteAt packet 9, bytes := packet.drop headerLen }

/-- The loop over the extension headers is that of the scheduler's classification. -/
def fecIpv6Transport (packet : List U8) : Option Transport :=
  if packet.length < 40 ∨ byteAt packet 0 >>> 4 ≠ 6#8 then none
  else
    match ipv6Headers packet 8 (byteAt packet 6) 40 with
    | none => none
    | some (protocol, offset) =>
        if offset ≤ packet.length then some { protocol := protocol, bytes := packet.drop offset }
        else none

/-- The transport of an IP packet, of the version that its first byte names. -/
def ipTransport (packet : List U8) : Option Transport :=
  match packet.head?.map fun first : U8 => (first >>> 4).toNat with
  | some 4 => ipv4Transport packet
  | some 6 => fecIpv6Transport packet
  | _ => none

def sourcePort (bytes : List U8) : Nat := beValue (bytes.extract 0 2)
def destinationPort (bytes : List U8) : Nat := beValue (bytes.extract 2 4)

def classifyTransport (transport : Transport) : Bool :=
  let dns := sourcePort transport.bytes == 53 || destinationPort transport.bytes == 53
  if transport.protocol = 6#8 ∧ 14 ≤ transport.bytes.length then
    dns || (byteAt transport.bytes 13 &&& 0x02#8 != 0)
  else if transport.protocol = 17#8 ∧ 8 ≤ transport.bytes.length then
    dns || decide (transport.bytes.length - 8 ≤ maxSmallUdpPayload)
  else false

def quicInitialTransport (transport : Transport) : Bool :=
  if transport.protocol ≠ 17#8 ∨ transport.bytes.length < 8 then false
  else if destinationPort transport.bytes ≠ 443 then false
  else
    let payload := transport.bytes.length - 8
    decide (quicInitialUdpMin ≤ payload ∧ payload ≤ quicInitialUdpMax)

/-- The bytes of a text of seven-bit characters. -/
def asciiBytes (text : String) : List U8 :=
  text.toList.map fun character => BitVec.ofNat 8 character.toNat

def isControl (packet : List U8) : Bool :=
  (asciiBytes "GETCONF:").isPrefixOf packet
    || (asciiBytes "TUNCONF:").isPrefixOf packet
    || packet == asciiBytes "READY"
    || packet == asciiBytes "READY_OK"
    || (asciiBytes "DENIED:").isPrefixOf packet
    || (asciiBytes "DISCONNECT:").isPrefixOf packet

def shouldDuplicate (packet : List U8) : Bool :=
  let packet := payload packet
  isControl packet || (ipTransport packet).any classifyTransport

def isQuicInitialSized (packet : List U8) : Bool :=
  (ipTransport (payload packet)).any quicInitialTransport

def ipv4UdpFlowKey (packet : List U8) : Option U64 :=
  if packet.length < 28 ∨ byteAt packet 0 >>> 4 ≠ 4#8 ∨ byteAt packet 9 ≠ 17#8 then none
  else
    let ihl := (byteAt packet 0 &&& 0x0f#8).toNat * 4
    if ihl < 20 ∨ packet.length < ihl + 4 then none
    else
      let srcIp : U64 := .ofNat 64 (beValue (packet.extract 12 16))
      let dstIp : U64 := .ofNat 64 (beValue (packet.extract 16 20))
      let srcPort : U64 := .ofNat 64 (beValue (packet.extract ihl (ihl + 2)))
      let dstPort : U64 := .ofNat 64 (beValue (packet.extract (ihl + 2) (ihl + 4)))
      some ((srcIp <<< 32) ^^^ (dstIp <<< 16) ^^^ (srcPort <<< 8) ^^^ dstPort)

/-- Count a first-flight datagram against its flow. -/
def quicInitialSpareAllow (tracker : HashTable U64 U8) (packet : List U8) :
    HashTable U64 U8 × Bool :=
  match ipv4UdpFlowKey packet with
  | none => (tracker, false)
  | some key =>
      let count := (tracker.lookup key).getD 0#8
      if quicSparePerFlow ≤ count then (tracker.insert key count, false)
      else
        let counted := tracker.insert key (saturatingAdd count 1#8)
        if quicSpareFlowCap < HashTable.size counted then
          let kept := HashTable.retain (fun spares => decide (spares < quicSparePerFlow)) counted
          if quicSpareFlowCap < HashTable.size kept then ((∅ : HashTable U64 U8).insert key 1#8, true)
          else (kept, true)
        else (counted, true)

/-- A copy of a packet, in the storage the pool gives, if any. -/
def PacketBuf.tryDuplicate (self : PacketBuf) (storage : Option Storage) : Option PacketBuf :=
  storage.bind fun storage => readInto storage self.asSlice

/-- The copy that goes to a second worker: of short UDP, and of the first datagrams
of a QUIC flow. -/
def udpSpare (tracker : HashTable U64 U8) (packet : PacketBuf) (storage : Option Storage) :
    HashTable U64 U8 × Option PacketBuf :=
  let bytes := packet.asSlice
  if bytes.length < 20 ∨ byteAt bytes 0 >>> 4 ≠ 4#8 ∨ byteAt bytes 9 ≠ 17#8 then (tracker, none)
  else if shouldDuplicate bytes then (tracker, packet.tryDuplicate storage)
  else if isQuicInitialSized bytes then
    let allowed := quicInitialSpareAllow tracker bytes
    (allowed.1, if allowed.2 then packet.tryDuplicate storage else none)
  else (tracker, none)

/-- One round of the walk: the next protocol and offset, none of them at a header that is
no extension. The walk fails where the packet ends within a header, or is a later
fragment. -/
def extensionStep (packet : List U8) (protocol : U8) (offset : Nat) :
    Option (Option (U8 × Nat)) :=
  match protocol.toNat with
  | 0 | 43 | 60 =>
      (getRange packet offset 2).map fun header =>
        some (byteAt header 0, offset + ((byteAt header 1).toNat + 1) * 8)
  | 44 =>
      (getRange packet offset 8).bind fun header =>
        if (BitVec.ofNat 16 (beValue (header.extract 2 4))) &&& 0xfff8#16 ≠ 0 then none
        else some (some (byteAt header 0, offset + 8))
  | 51 =>
      (getRange packet offset 2).map fun header =>
        some (byteAt header 0, offset + ((byteAt header 1).toNat + 2) * 4)
  | _ => some none

/-- The protocol and offset that a walk of so many rounds at most ends with. -/
def extensionWalk (packet : List U8) : Nat → U8 → Nat → Option (U8 × Nat)
  | 0, protocol, offset => some (protocol, offset)
  | rounds + 1, protocol, offset =>
      match extensionStep packet protocol offset with
      | none => none
      | some none => some (protocol, offset)
      | some (some (next, after)) =>
          if packet.length < after then none else extensionWalk packet rounds next after

def selectiveIpv6Transport (packet : List U8) : Option Transport :=
  if packet.length < 40 ∨ byteAt packet 0 >>> 4 ≠ 6#8 then none
  else
    match extensionWalk packet 8 (byteAt packet 6) 40 with
    | none => none
    | some (protocol, offset) =>
        if offset ≤ packet.length then some { protocol := protocol, bytes := packet.drop offset }
        else none

def selectiveTransport (packet : List U8) : Option Transport :=
  match packet.head?.map fun first : U8 => (first >>> 4).toNat with
  | some 4 => ipv4Transport packet
  | some 6 => selectiveIpv6Transport packet
  | _ => none

/-- Protocol of a transport header and where in the packet it begins. -/
def Transport.located (packet : List U8) (transport : Transport) : U8 × Nat :=
  (transport.protocol, packet.length - transport.bytes.length)

end Csqtt
