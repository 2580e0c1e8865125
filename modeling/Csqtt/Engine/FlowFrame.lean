/-
Module: Csqtt.Engine.FlowFrame
Purpose: The flow frame: its header and wire layout, the flow id of a TCP packet
  and the sender's sequence counters.
Trusted boundary: none
Main exports: FrameHeader, encode, decode, payload, tcpFlowId, FlowSequencer
-/
import Csqtt.Core.HashTable
import Csqtt.Core.Word

namespace Csqtt

def frameLen : Nat := 24
/-- The bytes of `CQF1`. -/
def frameMagic : List U8 := [0x43#8, 0x51#8, 0x46#8, 0x31#8]
def maxTrackedFlows : Nat := 4096
def maxPendingPerFlow : Nat := 96
def maxPendingTotal : Nat := 4096
def gapReleaseAfterMs : Nat := 12

structure FrameHeader where
  senderId : U64
  flowId : U64
  sequence : U32
deriving DecidableEq, Repr

namespace FrameHeader

/-- The bytes `encode` writes over the first `frameLen` bytes of its output. -/
def bytes (self : FrameHeader) : List U8 :=
  frameMagic ++ beBytes 8 self.senderId.toNat ++ beBytes 8 self.flowId.toNat ++
    beBytes 4 self.sequence.toNat

/-- Write the header into a byte slice; `none` when the slice is too short. -/
def encode (self : FrameHeader) (output : List U8) : Option (List U8) :=
  if output.length < frameLen then none
  else some (self.bytes ++ output.drop frameLen)

def decode (packet : List U8) : Option (FrameHeader × List U8) :=
  if packet.length < frameLen ∨ packet.take 4 ≠ frameMagic then none
  else
    some
      ({ senderId := BitVec.ofNat 64 (beValue (packet.extract 4 12))
         flowId := BitVec.ofNat 64 (beValue (packet.extract 12 20))
         sequence := BitVec.ofNat 32 (beValue (packet.extract 20 24)) },
        packet.drop frameLen)

@[simp] theorem length_bytes (self : FrameHeader) : self.bytes.length = frameLen := by
  simp [bytes, frameMagic, frameLen]

/-- Decoding a header followed by any payload gives both back. -/
theorem decode_bytes_append (self : FrameHeader) (payload : List U8) :
    decode (self.bytes ++ payload) = some (self, payload) := by
  have sender : (self.bytes ++ payload).extract 4 12 = beBytes 8 self.senderId.toNat := by
    simp [bytes, frameMagic]
  have flow : (self.bytes ++ payload).extract 12 20 = beBytes 8 self.flowId.toNat := by
    simp [bytes, frameMagic]
  have number : (self.bytes ++ payload).extract 20 24 = beBytes 4 self.sequence.toNat := by
    simp [bytes, frameMagic, List.take_append, List.drop_append]
  have magic : (self.bytes ++ payload).take 4 = frameMagic := by
    simp [bytes, frameMagic]
  have long : ¬ (self.bytes ++ payload).length < frameLen := by simp
  have rest : (self.bytes ++ payload).drop frameLen = payload := by
    rw [← self.length_bytes, List.drop_left]
  simp only [decode, long, magic, sender, flow, number, rest, not_true_eq_false, or_self,
    if_false, ne_eq]
  have senderBack := @ofNat_beValue_beBytes 64 8 self.senderId rfl
  have flowBack := @ofNat_beValue_beBytes 64 8 self.flowId rfl
  have numberBack := @ofNat_beValue_beBytes 32 4 self.sequence rfl
  rw [senderBack, flowBack, numberBack]

end FrameHeader

/-- The packet inside a frame, or the packet itself when it is not framed. -/
def payload (packet : List U8) : List U8 :=
  match FrameHeader.decode packet with
  | some (_, inner) => inner
  | none => packet

/-- A byte of a slice. Every use lies behind a length check of the source. -/
def byteAt (bytes : List U8) (index : Nat) : U8 :=
  bytes.getD index 0

def hashBytes (hash : U64) (bytes : List U8) : U64 :=
  bytes.foldl (fun hash byte => (hash ^^^ byte.setWidth 64) * 0x100000001b3#64) hash

def mix64 (value : U64) : U64 :=
  let value := value ^^^ (value >>> 30)
  let value := value * 0xbf58476d1ce4e5b9#64
  let value := value ^^^ (value >>> 27)
  let value := value * 0x94d049bb133111eb#64
  value ^^^ (value >>> 31)

/-- Header length, protocol, source and destination of an IP packet long enough
to hold a TCP header. -/
def tcpEndpoints (packet : List U8) : Option (Nat × U8 × List U8 × List U8) := do
  let first ← packet.head?
  match (first >>> 4).toNat with
  | 4 =>
      if packet.length < 20 then none
      else
        let headerLen := (byteAt packet 0 &&& 0x0f#8).toNat * 4
        if headerLen < 20 ∨ packet.length < headerLen + 20 then none
        else some (headerLen, byteAt packet 9, packet.extract 12 16, packet.extract 16 20)
  | 6 =>
      if packet.length < 60 then none
      else some (40, byteAt packet 6, packet.extract 8 24, packet.extract 24 40)
  | _ => none

/-- Flow id of a TCP packet that carries payload, SYN or FIN; any other packet
has none. -/
def tcpFlowId (packet : List U8) : Option U64 := do
  let (headerLen, protocol, source, destination) ← tcpEndpoints packet
  if protocol ≠ 6#8 then none
  else
    let tcp := packet.drop headerLen
    let dataOffset := (byteAt tcp 12 >>> 4).toNat * 4
    if dataOffset < 20 ∨ tcp.length < dataOffset then none
    else
      let flags := byteAt tcp 13
      if tcp.length = dataOffset ∧ flags &&& 0x03#8 = 0 then none
      else
        let hash := hashBytes 0xcbf29ce484222325#64 [protocol]
        let hash := hashBytes hash source
        let hash := hashBytes hash destination
        let hash := hashBytes hash (tcp.take 4)
        some (mix64 hash)

/-- `u64::max` with one, the smallest sender id in use. -/
def atLeastOne (value : U64) : U64 :=
  if value = 0 then 1 else value

/-- Next sequence number of every flow, under one sender id. -/
structure FlowSequencer where
  senderId : U64
  sequences : HashTable U64 U32

namespace FlowSequencer

def withSenderId (senderId : U64) : FlowSequencer where
  senderId := atLeastOne senderId
  sequences := ∅

/-- A sequencer seeded by the clock and a stack address. -/
def new (now address : U64) : FlowSequencer :=
  withSenderId (mix64 (now ^^^ address))

/-- Room for one more flow: a full table that does not know the flow is emptied
under a fresh sender id. -/
def makeRoom (self : FlowSequencer) (flowId : U64) : FlowSequencer :=
  if self.sequences.size = maxTrackedFlows ∧ flowId ∉ self.sequences then
    { senderId := atLeastOne (mix64 (self.senderId + 0x9e3779b97f4a7c15#64))
      sequences := ∅ }
  else self

/-- Header for the next packet of a flow. -/
def nextOfFlow (self : FlowSequencer) (flowId : U64) : FrameHeader × FlowSequencer :=
  let self := self.makeRoom flowId
  let sequence := (self.sequences.lookup flowId).getD 0
  ({ senderId := self.senderId, flowId := flowId, sequence := sequence },
    { self with sequences := self.sequences.insert flowId (sequence + 1) })

/-- Header for a packet; a packet without flow id is left alone. -/
def next (self : FlowSequencer) (packet : List U8) : Option FrameHeader × FlowSequencer :=
  match tcpFlowId packet with
  | none => (none, self)
  | some flowId =>
      let framed := self.nextOfFlow flowId
      (some framed.1, framed.2)

end FlowSequencer

end Csqtt
