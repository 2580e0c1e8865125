/-
Module: Csqtt.Proofs.SpareProtocol
Purpose: When the spare copy is one of a packet that is not UDP: the frame in front of a
  TCP packet can pass for an IPv4 header of protocol 17.
Trusted boundary: the pool, which may have no buffer for the copy
Main exports: NonUdp, Imitates, udpSpare_framed_none_iff, tcp_handshake_is_spared
-/
import Csqtt.Engine.SelectiveFec
import Csqtt.Proofs.OutboundFraming

namespace Csqtt

/-- An IPv4 or IPv6 packet of another transport protocol than UDP. -/
def NonUdp (packet : List U8) : Prop :=
  20 ≤ packet.length ∧ byteAt packet 0 >>> 4 = 4#8 ∧ byteAt packet 9 ≠ 17#8 ∨
    40 ≤ packet.length ∧ byteAt packet 0 >>> 4 = 6#8 ∧
      ∀ transport, fecIpv6Transport packet = some transport → transport.protocol ≠ 17#8

/-- The byte of a framed packet in the place of an IPv4 protocol: one of the sender id. -/
def FrameHeader.protocolByte (self : FrameHeader) : U8 :=
  (self.senderId >>> 16).setWidth 8

/-- The packet is framed under a sender id with 17 in that byte, it is one of those that
are sent twice, and a buffer of the pool has room for the frame and it. -/
def Imitates (sequencer : FlowSequencer) (packet : PacketBuf) : Prop :=
  ∃ flowId, tcpFlowId packet.asSlice = some flowId ∧ frameLen ≤ packet.start ∧
    (sequencer.nextOfFlow flowId).1.protocolByte = 17#8 ∧
    shouldDuplicate packet.asSlice = true ∧
    frameLen + packet.len ≤ packetCapacity - packetHeadroom

variable {packet : PacketBuf} {bytes : List U8} {flowId : U64}

/-!
### What a framed packet looks like
-/

theorem protocolByte_eq (header : FrameHeader) (rest : List U8) :
    byteAt (header.bytes ++ rest) 9 = header.protocolByte := by
  have digit : byteAt (header.bytes ++ rest) 9 =
      BitVec.ofNat 8 (header.senderId.toNat / 256 ^ 2) := rfl
  have scale : 256 ^ 2 = 2 ^ 16 := rfl
  rw [digit, FrameHeader.protocolByte, scale]
  apply BitVec.eq_of_toNat_eq
  rw [BitVec.toNat_ofNat, BitVec.toNat_setWidth, BitVec.toNat_ushiftRight,
    Nat.shiftRight_eq_div_pow]

theorem payload_framed (header : FrameHeader) (inner : List U8) :
    payload (header.bytes ++ inner) = inner := by
  rw [payload, FrameHeader.decode_bytes_append]

/-- A packet of a flow is TCP by the byte that names its protocol. -/
theorem protocol_of_tcpFlowId (flow : tcpFlowId bytes = some flowId) :
    ∃ first, bytes.head? = some first ∧
      ((first >>> 4).toNat = 4 ∧ byteAt bytes 9 = 6#8 ∧
          20 ≤ (byteAt bytes 0 &&& 0x0f#8).toNat * 4 ∨
        (first >>> 4).toNat = 6 ∧ byteAt bytes 6 = 6#8) := by
  simp only [tcpFlowId, tcpEndpoints, Option.bind_eq_bind, Option.bind_eq_some_iff] at flow
  obtain ⟨⟨headerLen, protocol, source, destination⟩, ⟨first, head, found⟩, tcp⟩ := flow
  have isTcp : protocol = 6#8 := by
    by_contra other
    rw [if_pos other] at tcp
    cases tcp
  subst isTcp
  refine ⟨first, head, ?_⟩
  split at found
  · next version =>
      split at found
      · cases found
      · split at found
        · cases found
        · next long =>
            simp only [Option.some.injEq, Prod.mk.injEq] at found
            exact Or.inl ⟨version, found.2.1, by omega⟩
  · next version =>
      split at found
      · cases found
      · simp only [Option.some.injEq, Prod.mk.injEq] at found
        exact Or.inr ⟨version, found.2.1⟩
  · cases found

theorem ipv6Headers_tcp (packet : List U8) (offset : Nat) :
    ipv6Headers packet 8 6#8 offset = some (6#8, offset) := rfl

/-- Where a packet of a flow has a transport header, it is that of TCP. -/
theorem ipTransport_of_tcpFlowId (flow : tcpFlowId bytes = some flowId)
    {transport : Transport} (found : ipTransport bytes = some transport) :
    transport.protocol = 6#8 := by
  obtain ⟨first, head, ⟨version, protocol, _⟩ | ⟨version, protocol⟩⟩ :=
    protocol_of_tcpFlowId flow
  · simp only [ipTransport, head, Option.map_some, version, ipv4Transport] at found
    split at found
    · cases found
    · split at found
      · cases found
      · split at found
        · cases found
        · cases found
          exact protocol
  · simp only [ipTransport, head, Option.map_some, version, fecIpv6Transport, protocol,
      ipv6Headers_tcp] at found
    split at found
    · cases found
    · split at found
      · cases found
        rfl
      · cases found

theorem quicInitial_of_tcpFlowId (flow : tcpFlowId bytes = some flowId) :
    (ipTransport bytes).any quicInitialTransport = false := by
  cases found : ipTransport bytes with
  | none => rfl
  | some transport =>
      rw [Option.any_some, quicInitialTransport, if_pos]
      rw [ipTransport_of_tcpFlowId flow found]
      exact Or.inl (by decide)

/-- A packet of a flow is not itself a frame. -/
theorem payload_of_tcpFlowId (flow : tcpFlowId bytes = some flowId) :
    payload bytes = bytes := by
  rw [payload, FrameHeader.decode]
  by_cases frame : bytes.length < frameLen ∨ bytes.take 4 ≠ frameMagic
  · rw [if_pos frame]
  · push Not at frame
    obtain ⟨first, head, kinds⟩ := protocol_of_tcpFlowId flow
    cases bytes with
    | nil => cases head
    | cons byte rest =>
        have magic : byte = 0x43#8 := (List.cons.inj frame.2).1
        cases head
        subst magic
        rcases kinds with ⟨_, _, short⟩ | ⟨version, _⟩
        · have leading : byteAt (0x43#8 :: rest) 0 = 0x43#8 := rfl
          rw [leading] at short
          exact absurd short (by decide)
        · cases version

/-!
### The spare copy
-/

theorem tryDuplicate_none_iff :
    (∀ storage, packet.tryDuplicate storage = none) ↔
      packetCapacity - packetHeadroom < packet.len := by
  constructor
  · intro never
    have refused := never (some Storage.zero)
    rw [PacketBuf.tryDuplicate, Option.bind_some, readInto, PacketBuf.setReadLen,
      PacketBuf.length_asSlice] at refused
    by_contra fits
    rw [dif_pos (Nat.le_of_not_lt fits)] at refused
    cases refused
  · intro long storage
    cases storage with
    | none => rfl
    | some storage =>
        rw [PacketBuf.tryDuplicate, Option.bind_some, readInto, PacketBuf.setReadLen,
          PacketBuf.length_asSlice, dif_neg (Nat.not_le_of_lt long)]

/-- Without a frame, the packet shows its own protocol. -/
theorem udpSpare_none_of_nonUdp (other : NonUdp packet.asSlice) (tracker : HashTable U64 U8)
    (storage : Option Storage) : (udpSpare tracker packet storage).2 = none := by
  have passed : packet.asSlice.length < 20 ∨ byteAt packet.asSlice 0 >>> 4 ≠ 4#8 ∨
      byteAt packet.asSlice 9 ≠ 17#8 := by
    rcases other with ⟨_, _, protocol⟩ | ⟨_, version, _⟩
    · exact Or.inr (Or.inr protocol)
    · refine Or.inr (Or.inl ?_)
      rw [version]
      decide
  simp only [udpSpare, if_pos passed]

/-- Framed, a packet of a flow is spared exactly if a byte of the sender id says UDP and
the packet is one of those that are sent twice. -/
theorem udpSpare_of_framed {framed : PacketBuf} {header : FrameHeader}
    (flow : tcpFlowId bytes = some flowId) (shape : framed.asSlice = header.bytes ++ bytes)
    (tracker : HashTable U64 U8) (storage : Option Storage) :
    (udpSpare tracker framed storage).2 =
      if header.protocolByte = 17#8 ∧ shouldDuplicate bytes = true then
        framed.tryDuplicate storage
      else none := by
  have long : ¬ (header.bytes ++ bytes).length < 20 := by
    rw [List.length_append, FrameHeader.length_bytes, frameLen]
    omega
  have first : byteAt (header.bytes ++ bytes) 0 = 0x43#8 := rfl
  have version : byteAt (header.bytes ++ bytes) 0 >>> 4 = 4#8 := by
    rw [first]
    decide
  have inner : shouldDuplicate (header.bytes ++ bytes) = shouldDuplicate bytes := by
    rw [shouldDuplicate, shouldDuplicate, payload_framed, payload_of_tcpFlowId flow]
  have noQuic : isQuicInitialSized (header.bytes ++ bytes) = false := by
    rw [isQuicInitialSized, payload_framed]
    exact quicInitial_of_tcpFlowId flow
  simp only [udpSpare, shape, long, version, protocolByte_eq, inner, noQuic, false_or, ne_eq,
    not_true_eq_false]
  by_cases udp : header.protocolByte = 17#8
  · rw [if_neg (not_not_intro udp)]
    by_cases twice : shouldDuplicate bytes = true
    · rw [if_pos twice, if_pos ⟨udp, twice⟩]
    · rw [if_neg twice, if_neg Bool.false_ne_true, if_neg fun both => twice both.2]
  · rw [if_pos udp, if_neg fun both => udp both.1]

/-- Whatever the sequencer, the tracker and the pool: no copy is made of a packet that is
not UDP, exactly if its frame does not imitate the header of one. -/
theorem udpSpare_framed_none_iff (sequencer : FlowSequencer) {packet : PacketBuf}
    (other : NonUdp packet.asSlice) (tracker : HashTable U64 U8) :
    (∀ storage,
        (udpSpare tracker (frameOutboundPacket sequencer packet).2.1 storage).2 = none) ↔
      ¬ Imitates sequencer packet := by
  cases flow : tcpFlowId packet.asSlice with
  | none =>
      rw [frameOutboundPacket_of_none flow]
      apply iff_of_true
      · exact udpSpare_none_of_nonUdp other tracker
      · rintro ⟨flowId, known, _⟩
        rw [flow] at known
        cases known
  | some flowId =>
      by_cases headroom : frameLen ≤ packet.start
      · obtain ⟨framed, framing, shape, start, stop⟩ :=
          @frameOutboundPacket_of_some sequencer packet flowId flow headroom
        have length : framed.len = frameLen + packet.len := by
          rw [← PacketBuf.length_asSlice, shape, List.length_append, FrameHeader.length_bytes,
            PacketBuf.length_asSlice]
        rw [framing]
        simp only [udpSpare_of_framed flow shape]
        by_cases spared : (sequencer.nextOfFlow flowId).1.protocolByte = 17#8 ∧
          shouldDuplicate packet.asSlice = true
        · simp only [if_pos spared, tryDuplicate_none_iff, length]
          constructor
          · rintro long ⟨_, _, _, _, _, fits⟩
            exact Nat.not_le_of_lt long fits
          · intro apart
            by_contra fits
            exact apart ⟨flowId, flow, headroom, spared.1, spared.2, Nat.le_of_not_lt fits⟩
        · simp only [if_neg spared]
          apply iff_of_true
          · exact fun _ => trivial
          · rintro ⟨same, known, _, udp, twice, _⟩
            rw [flow] at known
            cases known
            exact spared ⟨udp, twice⟩
      · have unframed : (frameOutboundPacket sequencer packet).2.1 = packet := by
          simp only [frameOutboundPacket, FlowSequencer.next, flow, PacketBuf.prepend,
            if_neg headroom]
        rw [unframed]
        apply iff_of_true
        · exact udpSpare_none_of_nonUdp other tracker
        · rintro ⟨_, _, room, _⟩
          exact headroom room

/-- The first segment of a TCP connection, as it is read from the device. -/
def handshake : PacketBuf where
  storage := List.replicate packetHeadroom 0#8 ++
    [0x45#8, 0#8, 0#8, 40#8, 0#8, 0#8, 0#8, 0#8, 64#8, 6#8, 0#8, 0#8, 10#8, 0#8, 0#8, 2#8,
      1#8, 1#8, 1#8, 1#8, 200#8, 1#8, 1#8, 0xbb#8, 0#8, 0#8, 0#8, 1#8, 0#8, 0#8, 0#8, 0#8,
      0x50#8, 0x02#8, 4#8, 0#8, 0#8, 0#8, 0#8, 0#8] ++
    List.replicate (packetCapacity - packetHeadroom - 40) 0#8
  start := packetHeadroom
  stop := packetHeadroom + 40
  sized := by
    rw [List.length_append, List.length_append, List.length_replicate, List.length_replicate]
    rfl
  ordered := by decide
  bounded := by decide

/-- A new sequencer has room for a flow. -/
theorem senderId_nextOfFlow_new (senderId flowId : U64) :
    ((FlowSequencer.withSenderId senderId).nextOfFlow flowId).1.senderId =
      atLeastOne senderId := by
  have room : (FlowSequencer.withSenderId senderId).makeRoom flowId =
      FlowSequencer.withSenderId senderId := by
    apply if_neg
    rintro ⟨full, _⟩
    cases full
  rw [FlowSequencer.nextOfFlow, room]
  rfl

theorem handshake_nonUdp : NonUdp handshake.asSlice :=
  Or.inl (by decide +kernel)

/-- Under the sender id 1 no copy of the segment is made. -/
theorem udpSpare_handshake_none :
    (udpSpare ∅ (frameOutboundPacket (.withSenderId 1#64) handshake).2.1
      (some Storage.zero)).2 = none := by
  refine (udpSpare_framed_none_iff (.withSenderId 1#64) handshake_nonUdp ∅).mpr ?_
    (some Storage.zero)
  rintro ⟨flowId, _, _, udp, _⟩
  rw [FrameHeader.protocolByte, senderId_nextOfFlow_new] at udp
  cases udp

/-- Under a sender id whose sixth byte is 17, a copy of it is made. -/
theorem tcp_handshake_is_spared :
    NonUdp handshake.asSlice ∧
      (udpSpare ∅ (frameOutboundPacket (.withSenderId 0x110000#64) handshake).2.1
        (some Storage.zero)).2 ≠ none := by
  constructor
  · exact Or.inl (by decide +kernel)
  · apply Option.isSome_iff_ne_none.mp
    decide +kernel

end Csqtt
