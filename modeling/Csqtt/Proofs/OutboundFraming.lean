/-
Module: Csqtt.Proofs.OutboundFraming
Purpose: What the sender puts on the wire: every packet of a flow behind a frame
  that carries the number of earlier packets of the same flow.
Trusted boundary: none
Main exports: asSlice_prepend_write, packetsOf, Counts, frameOutboundPacket_of_some, frame_run_spec
-/
import Csqtt.Core.Transducer
import Csqtt.Engine.Dispatcher
import Mathlib.Data.Finset.Card

namespace Csqtt

open Transducer

namespace PacketBuf

theorem prepend_spec {self framed : PacketBuf} {count : Nat}
    (prepended : self.prepend count = some framed) :
    framed.storage = self.storage ∧ framed.start + count = self.start ∧
      framed.len = count + self.len := by
  have ordered := self.ordered
  simp only [prepend] at prepended
  split at prepended
  · rename_i fits
    obtain rfl := Option.some.inj prepended
    refine ⟨rfl, Nat.sub_add_cancel fits, ?_⟩
    simp only [len]
    omega
  · simp at prepended

theorem prepend_stop {self framed : PacketBuf} {count : Nat}
    (prepended : self.prepend count = some framed) : framed.stop = self.stop := by
  rw [prepend] at prepended
  split at prepended
  · cases prepended
    rfl
  · cases prepended

theorem prepend_isSome {self : PacketBuf} {count : Nat} (fits : count ≤ self.start) :
    ∃ framed, self.prepend count = some framed := by
  rw [prepend, if_pos fits]
  exact ⟨_, rfl⟩

/-- Bytes written into the headroom come before the bytes already in use. -/
theorem asSlice_prepend_write {self framed : PacketBuf} {bytes : List U8}
    (prepended : self.prepend bytes.length = some framed) :
    (framed.write framed.start bytes).asSlice = bytes ++ self.asSlice := by
  obtain ⟨storage, start, whole⟩ := prepend_spec prepended
  have length : self.len = self.stop - self.start := rfl
  have ordered := self.ordered
  have bounded := self.bounded
  apply List.ext_getElem?
  intro index
  rw [getElem?_asSlice, write_len, write_start, whole, List.getElem?_append]
  by_cases early : index < bytes.length
  · rw [if_pos (by omega), if_pos early, getElem?_write _ _ _ (by omega),
      if_pos ⟨by omega, by omega⟩, Nat.add_sub_cancel_left]
  · rw [if_neg early, getElem?_asSlice]
    by_cases inside : index < bytes.length + self.len
    · rw [if_pos inside, getElem?_write _ _ _ (by omega), if_neg (by omega), if_pos (by omega),
        storage]
      exact congrArg (self.storage[·]?) (by omega)
    · rw [if_neg inside, if_neg (by omega)]

/-- Trimming the front drops bytes. -/
theorem asSlice_trimFront {self trimmed : PacketBuf} {count : Nat}
    (trims : self.trimFront count = some trimmed) : trimmed.asSlice = self.asSlice.drop count := by
  have facts : trimmed.storage = self.storage ∧ trimmed.start = self.start + count ∧
      trimmed.len = self.len - count := by
    simp only [trimFront] at trims
    split at trims
    · obtain rfl := Option.some.inj trims
      refine ⟨rfl, rfl, ?_⟩
      simp only [len]
      omega
    · simp at trims
  obtain ⟨storage, start, length⟩ := facts
  apply List.ext_getElem?
  intro index
  rw [List.getElem?_drop, getElem?_asSlice, getElem?_asSlice, storage, start, length]
  by_cases inside : index < self.len - count
  · rw [if_pos inside, if_pos (by omega), Nat.add_assoc]
  · rw [if_neg inside, if_neg (by omega)]

theorem trimFront_isSome {self : PacketBuf} {count : Nat} (fits : count ≤ self.len) :
    ∃ trimmed, self.trimFront count = some trimmed := by
  rw [trimFront, dif_pos fits]
  exact ⟨_, rfl⟩

end PacketBuf

namespace FlowSequencer

/-- Number of packets of a flow. -/
def packetsOf (flowId : U64) (packets : List PacketBuf) : Nat :=
  packets.countP fun packet => tcpFlowId packet.asSlice = some flowId

/-- The sequencer after it has numbered some packets, its table never emptied. -/
structure Counts (senderId : U64) (packets : List PacketBuf) (sequencer : FlowSequencer) :
    Prop where
  sender : sequencer.senderId = atLeastOne senderId
  sequence : ∀ flowId,
    (sequencer.sequences.lookup flowId).getD 0 = BitVec.ofNat 32 (packetsOf flowId packets)
  known : ∀ flowId ∈ sequencer.sequences, some flowId ∈ packets.map fun packet =>
    tcpFlowId packet.asSlice

theorem counts_withSenderId (senderId : U64) : Counts senderId [] (withSenderId senderId) where
  sender := rfl
  sequence _ := rfl
  known flowId member := absurd member (AList.notMem_empty flowId)

/-- With no more flows than the table has room for it is never emptied. -/
theorem Counts.makeRoom {senderId flowId : U64} {packets : List PacketBuf} {self : FlowSequencer}
    (counts : Counts senderId packets self)
    (few : (insert (some flowId) (packets.map fun packet =>
      tcpFlowId packet.asSlice).toFinset).card ≤ maxTrackedFlows) :
    self.makeRoom flowId = self := by
  rw [FlowSequencer.makeRoom, if_neg]
  rintro ⟨full, absent⟩
  have distinct : ((flowId :: self.sequences.keys).map some).Nodup :=
    (List.nodup_cons.mpr ⟨fun member => absent (AList.mem_keys.mpr member),
      AList.keys_nodup _⟩).map (Option.some_injective _)
  have inside : ((flowId :: self.sequences.keys).map some).toFinset ⊆
      insert (some flowId) (packets.map fun packet => tcpFlowId packet.asSlice).toFinset := by
    intro flow member
    obtain ⟨other, listed, rfl⟩ := List.mem_map.mp (List.mem_toFinset.mp member)
    rcases List.mem_cons.mp listed with rfl | old
    · exact Finset.mem_insert_self _ _
    · exact Finset.mem_insert_of_mem
        (List.mem_toFinset.mpr (counts.known other (AList.mem_keys.mpr old)))
  have counted := Finset.card_le_card inside
  rw [List.toFinset_card_of_nodup distinct, List.length_map, List.length_cons] at counted
  simp only [HashTable.size] at full
  omega

/-- The next packet of a flow gets the number of packets before it. -/
theorem Counts.next {senderId flowId : U64} {packets : List PacketBuf} {packet : PacketBuf}
    {self : FlowSequencer} (counts : Counts senderId packets self)
    (flow : tcpFlowId packet.asSlice = some flowId)
    (few : ((packets ++ [packet]).map fun packet => tcpFlowId packet.asSlice).toFinset.card ≤
      maxTrackedFlows) :
    (self.nextOfFlow flowId).1 =
        { senderId := atLeastOne senderId
          flowId := flowId
          sequence := BitVec.ofNat 32 (packetsOf flowId packets) } ∧
      Counts senderId (packets ++ [packet]) (self.nextOfFlow flowId).2 := by
  have spare : (insert (some flowId) (packets.map fun packet =>
      tcpFlowId packet.asSlice).toFinset).card ≤ maxTrackedFlows := by
    refine (Finset.card_le_card fun other member => ?_).trans few
    rw [List.mem_toFinset, List.map_append, List.mem_append]
    rcases Finset.mem_insert.mp member with rfl | old
    · exact .inr (by simp [flow])
    · exact .inl (List.mem_toFinset.mp old)
  simp only [nextOfFlow, counts.makeRoom spare, counts.sender, counts.sequence flowId]
  refine ⟨trivial, ⟨rfl, fun other => ?_, fun other member => ?_⟩⟩
  · simp only [packetsOf, List.countP_append, List.countP_singleton, flow]
    by_cases same : other = flowId
    · subst same
      rw [AList.lookup_insert, Option.getD_some, decide_eq_true rfl, if_pos rfl, BitVec.ofNat_add]
      rfl
    · have different : ¬ flowId = other := fun equal => same equal.symm
      simp only [AList.lookup_insert_ne same, Option.some.injEq, different, decide_false,
        Bool.false_eq_true, if_false, Nat.add_zero]
      exact counts.sequence other
  · rw [AList.mem_insert] at member
    rw [List.map_append, List.mem_append]
    rcases member with rfl | old
    · exact .inr (by simp [flow])
    · exact .inl (counts.known other old)

end FlowSequencer

open FlowSequencer

/-- A packet without flow passes unchanged. -/
theorem frameOutboundPacket_of_none {self : FlowSequencer} {packet : PacketBuf}
    (flow : tcpFlowId packet.asSlice = none) :
    frameOutboundPacket self packet = (self, packet, true) := by
  simp only [frameOutboundPacket, FlowSequencer.next, flow]

/-- The framed packet of a flow: the header, then the packet. -/
theorem frameOutboundPacket_of_some {self : FlowSequencer} {packet : PacketBuf} {flowId : U64}
    (flow : tcpFlowId packet.asSlice = some flowId) (headroom : frameLen ≤ packet.start) :
    ∃ framed, frameOutboundPacket self packet = ((self.nextOfFlow flowId).2, framed, true) ∧
      framed.asSlice = (self.nextOfFlow flowId).1.bytes ++ packet.asSlice ∧
      framed.start + frameLen = packet.start ∧ framed.stop = packet.stop := by
  obtain ⟨prefixed, prepended⟩ := PacketBuf.prepend_isSome headroom
  have long : frameLen ≤ prefixed.asSlice.length := by
    rw [PacketBuf.length_asSlice, (PacketBuf.prepend_spec prepended).2.2]
    exact Nat.le_add_right _ _
  have room : (prefixed.asSlice.take frameLen).length = frameLen := by
    rw [List.length_take, Nat.min_eq_left long]
  have encoded (header : FrameHeader) :
      header.encode (prefixed.asSlice.take frameLen) = some header.bytes := by
    rw [FrameHeader.encode, if_neg (by omega), List.drop_eq_nil_of_le (Nat.le_of_eq room),
      List.append_nil]
  have stop := PacketBuf.prepend_stop prepended
  refine ⟨prefixed.write prefixed.start (self.nextOfFlow flowId).1.bytes, ?_, ?_,
    (PacketBuf.prepend_spec prepended).2.1, stop⟩
  · simp only [frameOutboundPacket, FlowSequencer.next, flow, prepended, encoded]
  · refine PacketBuf.asSlice_prepend_write ?_
    rw [FrameHeader.length_bytes]
    exact prepended

/-- The sender's side of a run: every packet leaves framed, numbered within its flow. -/
theorem frame_run_spec {senderId : U64} {packets : List PacketBuf}
    (framed : ∀ packet ∈ packets, (tcpFlowId packet.asSlice).isSome)
    (few : (packets.map fun packet => tcpFlowId packet.asSlice).toFinset.card ≤ maxTrackedFlows)
    (headroom : ∀ packet ∈ packets, frameLen ≤ packet.start) {index : Nat}
    {packet : PacketBuf} (found : packets[index]? = some packet) :
    ∃ flowId sent, tcpFlowId packet.asSlice = some flowId ∧
      (run frameOutboundPacket (withSenderId senderId) packets).2[index]? = some (sent, true) ∧
      sent.asSlice =
        ({ senderId := atLeastOne senderId
           flowId := flowId
           sequence := BitVec.ofNat 32 (packetsOf flowId (packets.take index)) } :
          FrameHeader).bytes ++ packet.asSlice := by
  have history := @run_history _ _ _ frameOutboundPacket
    (fun consumed sequencer outputs => Counts senderId consumed sequencer ∧
      outputs.length = consumed.length ∧
      ∀ index packet, consumed[index]? = some packet →
        ∃ flowId sent, tcpFlowId packet.asSlice = some flowId ∧
          outputs[index]? = some (sent, true) ∧
          sent.asSlice =
            ({ senderId := atLeastOne senderId
               flowId := flowId
               sequence := BitVec.ofNat 32 (packetsOf flowId (consumed.take index)) } :
              FrameHeader).bytes ++ packet.asSlice)
    (withSenderId senderId) packets ⟨counts_withSenderId senderId, rfl, by simp⟩ ?_
  · exact history.2.2 index packet found
  · intro consumed last sequencer outputs within _ ⟨counts, sameLength, earlier⟩
    have member : last ∈ packets := within.subset (by simp)
    obtain ⟨flowId, flow⟩ := Option.isSome_iff_exists.mp (framed last member)
    have fewSoFar : ((consumed ++ [last]).map fun packet =>
        tcpFlowId packet.asSlice).toFinset.card ≤ maxTrackedFlows := by
      refine (Finset.card_le_card fun flow listed => ?_).trans few
      rw [List.mem_toFinset] at listed ⊢
      exact (within.map _).subset listed
    obtain ⟨header, counted⟩ := counts.next flow fewSoFar
    obtain ⟨sent, result, bytes, -⟩ :=
      @frameOutboundPacket_of_some sequencer last flowId flow (headroom last member)
    rw [header] at bytes
    rw [result]
    refine ⟨counted, by simp [sameLength], fun index packet found => ?_⟩
    by_cases early : index < consumed.length
    · rw [List.getElem?_append_left early] at found
      rw [List.getElem?_append_left (by omega), List.take_append_of_le_length (Nat.le_of_lt early)]
      exact earlier index packet found
    · rw [List.getElem?_append_right (by omega)] at found
      obtain ⟨atEnd, same⟩ : index - consumed.length = 0 ∧ last = packet := by
        simpa [List.getElem?_singleton] using found
      have isLast : index = consumed.length := by omega
      subst same isLast
      refine ⟨flowId, sent, flow, ?_, ?_⟩
      · rw [← sameLength, List.getElem?_concat_length]
      · rw [List.take_left]
        exact bytes

end Csqtt
