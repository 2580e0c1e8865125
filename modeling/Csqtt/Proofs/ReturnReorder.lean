/-
Module: Csqtt.Proofs.ReturnReorder
Purpose: End to end over the reordered path: framed by one sequencer and received
  in any order within the window, every flow comes out as it went in.
Trusted boundary: none
Main exports: run_calls, Received, Transmission, restores_every_flow
-/
import Csqtt.Proofs.OutboundFraming
import Csqtt.Proofs.ReassemblerWindow
import Mathlib.Algebra.Order.BigOperators.Group.Finset

namespace Csqtt

open Resequencing Transducer FlowSequencer
open scoped List

namespace ReturnReorder

/-- The push on the reorder buffer that a framed packet amounts to. -/
def asPush (packet : PacketBuf) (nowMs : Nat) : Option (Push PacketBuf) :=
  match FrameHeader.decode packet.asSlice, packet.trimFront frameLen with
  | some (header, _), some trimmed => some { header := header, value := trimmed, nowMs := nowMs }
  | _, _ => none

theorem push_of_asPush {self : ReturnReorder} {packet : PacketBuf} {nowMs : Nat}
    {push : Push PacketBuf} (framed : asPush packet nowMs = some push) :
    self.push packet nowMs =
      { reassembler := (self.reassembler.push push).1
        ready := self.ready ++ (self.reassembler.push push).2 } := by
  cases decoded : FrameHeader.decode packet.asSlice with
  | none => simp [asPush, decoded] at framed
  | some frame =>
      cases trimmed : packet.trimFront frameLen with
      | none => simp [asPush, decoded, trimmed] at framed
      | some inner =>
          obtain rfl : _ = push := by simpa [asPush, decoded, trimmed] using framed
          simp only [ReturnReorder.push, decoded, trimmed]
          rfl

/-- The pushes on the reorder buffer that some calls amount to. -/
def pushesOf (calls : List Call) : List (Push PacketBuf) :=
  (calls.filterMap Call.arrival?).filterMap fun arrival => asPush arrival.1 arrival.2

theorem pushesOf_concat_push (calls : List Call) {packet : PacketBuf} {nowMs : Nat}
    {push : Push PacketBuf} (framed : asPush packet nowMs = some push) :
    pushesOf (calls ++ [.push packet nowMs]) = pushesOf calls ++ [push] := by
  have last : ([.push packet nowMs] : List Call).filterMap Call.arrival? = [(packet, nowMs)] := rfl
  rw [pushesOf, List.filterMap_append, last, List.filterMap_append]
  simp [pushesOf, framed]

theorem pushesOf_concat_pop (calls : List Call) :
    pushesOf (calls ++ [.pop]) = pushesOf calls := by
  have last : ([.pop] : List Call).filterMap Call.arrival? = [] := rfl
  rw [pushesOf, List.filterMap_append, last, List.append_nil]
  rfl

/-- Whatever the receiver pops in between, what it has popped and what is ready is
what the reorder buffer handed on. -/
theorem run_calls (calls : List Call)
    (framed : ∀ arrival ∈ calls.filterMap Call.arrival?, (asPush arrival.1 arrival.2).isSome) :
    (run call new calls).1.reassembler = (run FlowReassembler.push .new (pushesOf calls)).1 ∧
      (run call new calls).2.flatten ++ (run call new calls).1.ready =
        (run FlowReassembler.push .new (pushesOf calls)).2.flatten := by
  induction calls using List.reverseRecOn with
  | nil => exact ⟨rfl, rfl⟩
  | append_singleton calls last inductionHypothesis =>
      rw [List.filterMap_append] at framed
      obtain ⟨reassembler, output⟩ := inductionHypothesis fun arrival member =>
        framed arrival (List.mem_append_left _ member)
      simp only [run_concat, List.flatten_append, List.flatten_singleton]
      cases last with
      | push packet nowMs =>
          have here := framed (packet, nowMs) (List.mem_append_right _ (by simp [Call.arrival?]))
          obtain ⟨push, isPush⟩ := Option.isSome_iff_exists.mp here
          simp only at isPush
          rw [pushesOf_concat_push calls isPush, run_concat, List.flatten_append,
            List.flatten_singleton, ← reassembler, ← output, call, push_of_asPush isPush,
            List.append_nil, List.append_assoc]
          exact ⟨rfl, rfl⟩
      | pop =>
          rw [pushesOf_concat_pop, ← reassembler, ← output]
          cases ready : (run call new calls).1.ready with
          | nil => simp [call, pop, ready]
          | cons first rest => simp [call, pop, ready]

end ReturnReorder

/-- One datagram at the receiver: which of the sent packets it is, the buffer it was
read into and the time of its push. -/
structure Received where
  index : Nat
  packet : PacketBuf
  nowMs : Nat

namespace Received

/-- Flow of a sent packet. -/
def flowOf (packets : List PacketBuf) (index : Nat) : Option U64 :=
  packets[index]?.bind fun packet => tcpFlowId packet.asSlice

/-- Numbers within one flow of the packets received so far. -/
def arrivedNumbers (packets : List PacketBuf) (flowId : U64) (received : List Received) :
    Finset Nat :=
  ((received.filter fun datagram => flowOf packets datagram.index = some flowId).map
    fun datagram => packetsOf flowId (packets.take datagram.index)).toFinset

end Received

open Received

/-- The flow ids in use. -/
def flowIds (packets : List PacketBuf) : Finset U64 :=
  (packets.filterMap fun packet => tcpFlowId packet.asSlice).toFinset

/-- Packets framed by one sequencer and received without loss, in any order and any
number of times, within the window of the reorder buffer. -/
structure Transmission (senderId : U64) (packets : List PacketBuf) (received : List Received) :
    Prop where
  framed : ∀ packet ∈ packets, (tcpFlowId packet.asSlice).isSome
  headroom : ∀ packet ∈ packets, frameLen ≤ packet.start
  fewFlows : (flowIds packets).card ≤ maxTrackedFlows
  fewPackets : ∀ flowId, packetsOf flowId packets ≤ 2 ^ 31
  /-- A datagram carries the bytes that were sent. -/
  carried : ∀ datagram ∈ received, ∃ sent,
    (run frameOutboundPacket (withSenderId senderId) packets).2[datagram.index]? =
      some (sent, true) ∧ datagram.packet.asSlice = sent.asSlice
  complete : ∀ index, index < packets.length → ∃ datagram ∈ received, datagram.index = index
  clock : received.Pairwise fun first second => first.nowMs ≤ second.nowMs
  /-- Never more than 96 numbers of a flow have arrived beyond its first missing one. -/
  perFlow : ∀ before, before <+: received → ∀ flowId,
    (beyond (arrivedNumbers packets flowId before)).card ≤ maxPendingPerFlow
  total : ∀ before, before <+: received →
    ∑ flowId ∈ flowIds packets, (beyond (arrivedNumbers packets flowId before)).card ≤
      maxPendingTotal
  /-- The datagram that closes a gap comes less than 12 ms after any moment at which
  the gap was open. -/
  prompt : ∀ early opener rest closer flowId, early ++ opener :: rest ++ [closer] <+: received →
    (beyond (arrivedNumbers packets flowId (early ++ [opener]))).Nonempty →
    firstMissing (arrivedNumbers packets flowId (early ++ opener :: rest)) =
      firstMissing (arrivedNumbers packets flowId (early ++ [opener])) →
    firstMissing (arrivedNumbers packets flowId (early ++ opener :: rest ++ [closer])) ≠
      firstMissing (arrivedNumbers packets flowId (early ++ [opener])) →
    closer.nowMs < opener.nowMs + gapReleaseAfterMs

namespace Transmission

variable {senderId : U64} {packets : List PacketBuf} {received : List Received}

/-- Header of a sent packet. -/
def header (senderId : U64) (packets : List PacketBuf) (index : Nat) : FrameHeader :=
  let flowId := (flowOf packets index).getD 0
  { senderId := atLeastOne senderId
    flowId := flowId
    sequence := BitVec.ofNat 32 (packetsOf flowId (packets.take index)) }

/-- The push that a datagram amounts to. -/
def pushOf (senderId : U64) (packets : List PacketBuf) (datagram : Received) : Push PacketBuf where
  header := header senderId packets datagram.index
  value := (datagram.packet.trimFront frameLen).getD datagram.packet
  nowMs := datagram.nowMs

theorem fewFlows_map (transmission : Transmission senderId packets received) :
    (packets.map fun packet => tcpFlowId packet.asSlice).toFinset.card ≤ maxTrackedFlows := by
  have inside : (packets.map fun packet => tcpFlowId packet.asSlice).toFinset ⊆
      (flowIds packets).image some := by
    intro flow member
    obtain ⟨packet, sent, rfl⟩ := List.mem_map.mp (List.mem_toFinset.mp member)
    obtain ⟨flowId, some⟩ := Option.isSome_iff_exists.mp (transmission.framed packet sent)
    rw [some]
    exact Finset.mem_image_of_mem _ (List.mem_toFinset.mpr
      (List.mem_filterMap.mpr ⟨packet, sent, some⟩))
  exact (Finset.card_le_card inside).trans (Finset.card_image_le.trans transmission.fewFlows)

/-- A received datagram is a sent packet behind its header. -/
theorem sent_packet (transmission : Transmission senderId packets received) {datagram : Received}
    (arrives : datagram ∈ received) :
    ∃ packet flowId, packets[datagram.index]? = some packet ∧
      tcpFlowId packet.asSlice = some flowId ∧
      flowOf packets datagram.index = some flowId ∧
      ReturnReorder.asPush datagram.packet datagram.nowMs =
        some (pushOf senderId packets datagram) ∧
      (pushOf senderId packets datagram).value.asSlice = packet.asSlice := by
  obtain ⟨sent, output, bytes⟩ := transmission.carried datagram arrives
  obtain ⟨inside, _⟩ := List.getElem?_eq_some_iff.mp output
  rw [length_run] at inside
  have found := List.getElem?_eq_getElem inside
  obtain ⟨flowId, sent', flow, output', framed⟩ := frame_run_spec transmission.framed
    transmission.fewFlows_map transmission.headroom found
  have same : sent' = sent := by
    rw [output] at output'
    simpa using output'.symm
  rw [same] at framed
  have flowHere : flowOf packets datagram.index = some flowId := by simp [flowOf, found, flow]
  have long : frameLen ≤ datagram.packet.len := by
    rw [← PacketBuf.length_asSlice, bytes, framed, List.length_append, FrameHeader.length_bytes]
    exact Nat.le_add_right _ _
  obtain ⟨trimmed, trims⟩ := PacketBuf.trimFront_isSome long
  refine ⟨_, flowId, found, flow, flowHere, ?_, ?_⟩
  · simp only [ReturnReorder.asPush, bytes, framed, FrameHeader.decode_bytes_append, trims, pushOf,
      header, flowHere, Option.getD_some]
  · simp only [pushOf, trims, Option.getD_some]
    rw [PacketBuf.asSlice_trimFront trims, bytes, framed, ← FrameHeader.length_bytes,
      List.drop_left]

theorem number_low (transmission : Transmission senderId packets received) {index : Nat}
    {packet : PacketBuf} {flowId : U64} (found : packets[index]? = some packet)
    (flow : tcpFlowId packet.asSlice = some flowId) :
    packetsOf flowId (packets.take index) < packetsOf flowId packets ∧
      packetsOf flowId (packets.take index) < 2 ^ 31 := by
  have below := countP_take_lt (fun packet => tcpFlowId packet.asSlice = some flowId) found
    (decide_eq_true flow)
  have most := transmission.fewPackets flowId
  simp only [packetsOf] at most ⊢
  omega

/-- Key and number of the push of a datagram. -/
theorem pushOf_key (transmission : Transmission senderId packets received) {datagram : Received}
    (arrives : datagram ∈ received) {flowId : U64}
    (flow : flowOf packets datagram.index = some flowId) :
    (pushOf senderId packets datagram).key =
        { senderId := atLeastOne senderId, flowId := flowId } ∧
      (pushOf senderId packets datagram).header.sequence.toNat =
        packetsOf flowId (packets.take datagram.index) := by
  obtain ⟨packet, other, found, isFlow, flowHere, _, _⟩ := transmission.sent_packet arrives
  obtain rfl : other = flowId := Option.some.inj (flowHere.symm.trans flow)
  have low := (transmission.number_low found isFlow).2
  simp only [pushOf, Push.key, FrameHeader.key, header, flow, Option.getD_some, true_and]
  rw [BitVec.toNat_ofNat, Nat.mod_eq_of_lt (by omega)]

/-- The pushes have brought the numbers of the datagrams. -/
theorem arrived_eq (transmission : Transmission senderId packets received)
    {before : List Received} (within : before <+: received) (flowId : U64) :
    FlowReassembler.arrived { senderId := atLeastOne senderId, flowId := flowId }
      (before.map (pushOf senderId packets)) = arrivedNumbers packets flowId before := by
  ext number
  simp only [FlowReassembler.arrived, arrivedNumbers, List.mem_toFinset, List.mem_map,
    List.mem_filter, decide_eq_true_eq]
  constructor
  · rintro ⟨_, ⟨⟨datagram, member, rfl⟩, sameKey⟩, rfl⟩
    obtain ⟨_, other, _, _, flow, _, _⟩ := transmission.sent_packet (within.subset member)
    obtain ⟨key, count⟩ := transmission.pushOf_key (within.subset member) flow
    rw [key] at sameKey
    obtain rfl : other = flowId := congrArg ReassemblyKey.flowId sameKey
    exact ⟨datagram, ⟨member, flow⟩, count.symm⟩
  · rintro ⟨datagram, ⟨member, flow⟩, rfl⟩
    obtain ⟨key, count⟩ := transmission.pushOf_key (within.subset member) flow
    exact ⟨_, ⟨⟨datagram, member, rfl⟩, key⟩, count⟩

theorem mem_arrivedNumbers {flowId : U64} {datagrams : List Received} {number : Nat} :
    number ∈ arrivedNumbers packets flowId datagrams ↔
      ∃ datagram ∈ datagrams, flowOf packets datagram.index = some flowId ∧
        packetsOf flowId (packets.take datagram.index) = number := by
  simp only [arrivedNumbers, List.mem_toFinset, List.mem_map, List.mem_filter, decide_eq_true_eq,
    and_assoc]

/-- Numbers that arrive are numbers of sent packets. -/
theorem arrived_lt (transmission : Transmission senderId packets received) {flowId : U64}
    {before : List Received} (within : before ⊆ received) :
    ∀ number ∈ arrivedNumbers packets flowId before, number < packetsOf flowId packets := by
  intro number member
  obtain ⟨datagram, arrives, flow, rfl⟩ := mem_arrivedNumbers.mp member
  obtain ⟨packet, other, found, isFlow, flowHere, _, _⟩ :=
    transmission.sent_packet (within arrives)
  obtain rfl : other = flowId := Option.some.inj (flowHere.symm.trans flow)
  exact (transmission.number_low found isFlow).1

/-- Every number of a sent packet arrives. -/
theorem exists_received (transmission : Transmission senderId packets received) {flowId : U64}
    {number : Nat} (below : number < packetsOf flowId packets) :
    ∃ datagram ∈ received, flowOf packets datagram.index = some flowId ∧
      packetsOf flowId (packets.take datagram.index) = number := by
  obtain ⟨index, packet, found, flow, count⟩ := exists_of_lt_countP _ below
  obtain ⟨inside, _⟩ := List.getElem?_eq_some_iff.mp found
  obtain ⟨datagram, arrives, rfl⟩ := transmission.complete index inside
  refine ⟨datagram, arrives, ?_, count⟩
  simpa [flowOf, found] using flow

theorem arrived_all (transmission : Transmission senderId packets received) (flowId : U64) :
    arrivedNumbers packets flowId received = Finset.range (packetsOf flowId packets) := by
  ext number
  rw [Finset.mem_range]
  constructor
  · exact transmission.arrived_lt (List.Subset.refl received) number
  · intro below
    exact mem_arrivedNumbers.mpr (transmission.exists_received below)

/-- While a gap stays open, less than 12 ms pass. -/
theorem open_gap_short (transmission : Transmission senderId packets received)
    {early rest : List Received} {opener later : Received} {flowId : U64}
    (within : early ++ opener :: rest ++ [later] <+: received)
    (opened : (beyond (arrivedNumbers packets flowId (early ++ [opener]))).Nonempty)
    (still : firstMissing (arrivedNumbers packets flowId (early ++ opener :: rest)) =
      firstMissing (arrivedNumbers packets flowId (early ++ [opener]))) :
    later.nowMs < opener.nowMs + gapReleaseAfterMs := by
  obtain ⟨rear, whole⟩ := within
  generalize gap : firstMissing (arrivedNumbers packets flowId (early ++ [opener])) = missing at *
  -- The missing number is the number of a sent packet, so it arrives in the end.
  have sent : missing < packetsOf flowId packets := by
    obtain ⟨number, past⟩ := opened
    rw [mem_beyond, gap] at past
    refine Nat.lt_trans past.2 (transmission.arrived_lt (fun datagram member => ?_) _ past.1)
    rw [← whole]
    rcases List.mem_append.mp member with old | last
    · simp [old]
    · simp [List.mem_singleton.mp last]
  obtain ⟨datagram, arrives, flow, count⟩ := transmission.exists_received sent
  have notYet : missing ∉ arrivedNumbers packets flowId (early ++ opener :: rest) := by
    rw [← still]
    exact firstMissing_notMem _
  have ahead : datagram ∈ later :: rear := by
    rw [← whole, List.append_assoc, List.mem_append] at arrives
    refine arrives.resolve_left fun old => notYet ?_
    exact mem_arrivedNumbers.mpr ⟨datagram, old, flow, count⟩
  -- The first datagram that brings it closes the gap.
  let brings (datagram : Received) : Bool :=
    decide (flowOf packets datagram.index = some flowId) &&
      decide (packetsOf flowId (packets.take datagram.index) = missing)
  obtain ⟨closer, first⟩ : ∃ closer, (later :: rear).find? brings = some closer :=
    Option.isSome_iff_exists.mp
      (List.find?_isSome.mpr ⟨datagram, ahead, by simp [brings, flow, count]⟩)
  obtain ⟨closes, between, after, split, before⟩ := List.find?_eq_some_iff_append.mp first
  have closerBrings : flowOf packets closer.index = some flowId ∧
      packetsOf flowId (packets.take closer.index) = missing := by
    simpa [brings] using closes
  have decomposed : early ++ opener :: (rest ++ between) ++ [closer] ++ after = received := by
    have joined : early ++ opener :: rest ++ (later :: rear) = received := by
      rw [← whole]
      simp
    rw [← joined, split]
    simp
  have soon := transmission.prompt early opener (rest ++ between) closer flowId ⟨after, decomposed⟩
    opened ?_ ?_
  · have ordered : later.nowMs ≤ closer.nowMs := by
      cases between with
      | nil =>
          obtain ⟨same, _⟩ := List.cons.inj split
          rw [same]
      | cons head tail =>
          obtain ⟨same, _⟩ := List.cons.inj split
          have clock := transmission.clock
          rw [← decomposed, same.symm] at clock
          simp only [List.append_assoc, List.cons_append, List.pairwise_append,
            List.pairwise_cons] at clock
          exact clock.2.1.2.2.1.1 closer (by simp)
    omega
  · rw [gap]
    refine firstMissing_eq (fun member => ?_) fun number below => ?_
    · obtain ⟨other, among, otherFlow, otherCount⟩ := mem_arrivedNumbers.mp member
      rw [← List.cons_append, ← List.append_assoc, List.mem_append] at among
      rcases among with old | new
      · exact notYet (mem_arrivedNumbers.mpr ⟨other, old, otherFlow, otherCount⟩)
      · have absent := before other new
        simp [brings, otherFlow, otherCount] at absent
    · rw [← still] at below
      obtain ⟨other, among, rest'⟩ := mem_arrivedNumbers.mp (mem_of_lt_firstMissing below)
      refine mem_arrivedNumbers.mpr ⟨other, ?_, rest'⟩
      rw [← List.cons_append, ← List.append_assoc]
      exact List.mem_append_left _ among
  · rw [gap]
    intro unchanged
    refine firstMissing_notMem (arrivedNumbers packets flowId
      (early ++ opener :: (rest ++ between) ++ [closer])) ?_
    rw [unchanged]
    exact mem_arrivedNumbers.mpr ⟨closer, by simp, closerBrings⟩

/-- Key of a flow at the receiver. -/
def keyOf (senderId flowId : U64) : ReassemblyKey where
  senderId := atLeastOne senderId
  flowId := flowId

theorem keyOf_injective (senderId : U64) : Function.Injective (keyOf senderId) :=
  fun _ _ same => congrArg ReassemblyKey.flowId same

/-- Every push has the key of a flow in use. -/
theorem pushOf_known (transmission : Transmission senderId packets received)
    {datagram : Received} (arrives : datagram ∈ received) :
    ∃ flowId ∈ flowIds packets, keyOf senderId flowId = (pushOf senderId packets datagram).key := by
  obtain ⟨packet, flowId, found, isFlow, flow, _, _⟩ := transmission.sent_packet arrives
  refine ⟨flowId, ?_, (transmission.pushOf_key arrives flow).1.symm⟩
  exact List.mem_toFinset.mpr (List.mem_filterMap.mpr ⟨packet, List.mem_of_getElem? found, isFlow⟩)

theorem keys_subset (transmission : Transmission senderId packets received) :
    ((received.map (pushOf senderId packets)).map Push.key).toFinset ⊆
      (flowIds packets).image (keyOf senderId) := by
  intro key member
  rw [List.mem_toFinset, List.map_map] at member
  obtain ⟨datagram, arrives, rfl⟩ := List.mem_map.mp member
  exact Finset.mem_image.mpr (transmission.pushOf_known arrives)

/-- Nothing arrives under a key of another sender. -/
theorem arrived_foreign {before : List Received} {key : ReassemblyKey}
    (foreign : key.senderId ≠ atLeastOne senderId) :
    FlowReassembler.arrived key (before.map (pushOf senderId packets)) = ∅ := by
  rw [Finset.eq_empty_iff_forall_notMem]
  intro number member
  simp only [FlowReassembler.arrived, List.mem_toFinset, List.mem_map, List.mem_filter,
    decide_eq_true_eq] at member
  obtain ⟨_, ⟨⟨datagram, _, rfl⟩, rfl⟩, _⟩ := member
  exact foreign rfl

/-- The numbers beyond the gap of a key, as those of its flow. -/
theorem beyond_card_le (transmission : Transmission senderId packets received)
    {before : List Received} (within : before <+: received) (key : ReassemblyKey) :
    (beyond (FlowReassembler.arrived key (before.map (pushOf senderId packets)))).card ≤
      (beyond (arrivedNumbers packets key.flowId before)).card := by
  by_cases own : key.senderId = atLeastOne senderId
  · rw [← transmission.arrived_eq within, ← own]
  · rw [arrived_foreign own, beyond_empty]
    exact Nat.zero_le _

private theorem exists_prefix_of_map {Item Item' : Type*} {f : Item → Item'} {items : List Item}
    {front : List Item'} (within : front <+: items.map f) :
    ∃ before, before <+: items ∧ front = before.map f := by
  obtain ⟨rear, whole⟩ := within
  obtain ⟨before, after, rfl, rfl, _⟩ := List.map_eq_append_iff.mp whole.symm
  exact ⟨before, List.prefix_append _ _, rfl⟩

/-- The pushes of a transmission stay within the window of the reorder buffer. -/
theorem withinWindow (transmission : Transmission senderId packets received) :
    FlowReassembler.WithinWindow (received.map (pushOf senderId packets)) where
  few := by
    calc ((received.map (pushOf senderId packets)).map Push.key).toFinset.card
      _ ≤ ((flowIds packets).image (keyOf senderId)).card :=
          Finset.card_le_card transmission.keys_subset
      _ ≤ (flowIds packets).card := Finset.card_image_le
      _ ≤ maxTrackedFlows := transmission.fewFlows
  low push member := by
    obtain ⟨datagram, arrives, rfl⟩ := List.mem_map.mp member
    obtain ⟨packet, flowId, found, isFlow, flow, _, _⟩ := transmission.sent_packet arrives
    rw [(transmission.pushOf_key arrives flow).2]
    exact (transmission.number_low found isFlow).2
  perFlow front within key := by
    obtain ⟨before, inside, rfl⟩ := exists_prefix_of_map within
    exact (transmission.beyond_card_le inside key).trans
      (transmission.perFlow before inside key.flowId)
  total front within := by
    obtain ⟨before, inside, rfl⟩ := exists_prefix_of_map within
    calc ∑ key ∈ ((received.map (pushOf senderId packets)).map Push.key).toFinset,
          (beyond (FlowReassembler.arrived key (before.map (pushOf senderId packets)))).card
      _ ≤ ∑ key ∈ (flowIds packets).image (keyOf senderId),
          (beyond (FlowReassembler.arrived key (before.map (pushOf senderId packets)))).card :=
          Finset.sum_le_sum_of_subset transmission.keys_subset
      _ = ∑ flowId ∈ flowIds packets, (beyond (arrivedNumbers packets flowId before)).card := by
          rw [Finset.sum_image fun _ _ _ _ same => keyOf_injective senderId same]
          refine Finset.sum_congr rfl fun flowId _ => ?_
          rw [← transmission.arrived_eq inside]
          rfl
      _ ≤ maxPendingTotal := transmission.total before inside
  prompt front first middle last within opened still := by
    obtain ⟨before, inside, whole⟩ := exists_prefix_of_map within
    obtain ⟨start, final, rfl, starts, finals⟩ := List.map_eq_append_iff.mp whole.symm
    obtain ⟨early, tail, rfl, rfl, tails⟩ := List.map_eq_append_iff.mp starts
    obtain ⟨opener, rest, rfl, rfl, rfl⟩ := List.map_eq_cons_iff.mp tails
    obtain ⟨later, rfl, rfl⟩ := List.map_eq_singleton_iff.mp finals
    have openerInside : early ++ [opener] <+: received :=
      List.IsPrefix.trans ⟨rest ++ [later], by simp⟩ inside
    have restInside : early ++ opener :: rest <+: received :=
      List.IsPrefix.trans (List.prefix_append _ [later]) inside
    obtain ⟨flowId, _, key⟩ := @pushOf_known _ _ _ transmission later (inside.subset (by simp))
    rw [← key, keyOf] at opened still
    have openerMap : early.map (pushOf senderId packets) ++ [pushOf senderId packets opener] =
        (early ++ [opener]).map (pushOf senderId packets) := by simp
    have restMap : early.map (pushOf senderId packets) ++
        pushOf senderId packets opener :: rest.map (pushOf senderId packets) =
        (early ++ opener :: rest).map (pushOf senderId packets) := by simp
    rw [openerMap, transmission.arrived_eq openerInside] at opened still
    rw [restMap, transmission.arrived_eq restInside] at still
    exact transmission.open_gap_short inside opened still

/-- A delivered frame is a sent packet of the flow in its header. -/
theorem delivered_packet (transmission : Transmission senderId packets received)
    {frame : FrameHeader × PacketBuf}
    (member : frame ∈ FlowReassembler.delivered (received.map (pushOf senderId packets))) :
    ∃ index packet flowId, packets[index]? = some packet ∧
      tcpFlowId packet.asSlice = some flowId ∧ frame.1.key = keyOf senderId flowId ∧
      frame.1.sequence.toNat = packetsOf flowId (packets.take index) ∧
      frame.2.asSlice = packet.asSlice := by
  obtain ⟨push, pushed, rfl⟩ :=
    FlowReassembler.mem_delivered transmission.withinWindow.few frame member
  obtain ⟨datagram, arrives, rfl⟩ := List.mem_map.mp pushed
  obtain ⟨packet, flowId, found, isFlow, flow, _, bytes⟩ := transmission.sent_packet arrives
  obtain ⟨key, number⟩ := transmission.pushOf_key arrives flow
  exact ⟨_, packet, flowId, found, isFlow, key, number, bytes⟩

/-- What a flow delivers are its packets, in order. -/
theorem flow_restored (transmission : Transmission senderId packets received) (flowId : U64) :
    (FlowReassembler.ofFlow (keyOf senderId flowId)
        (FlowReassembler.delivered (received.map (pushOf senderId packets)))).map
        (fun frame => frame.2.asSlice) =
      (packets.filter fun packet => tcpFlowId packet.asSlice = some flowId).map
        PacketBuf.asSlice := by
  have history := ((FlowReassembler.run_resequences transmission.withinWindow _
    (List.prefix_refl _)).1 (keyOf senderId flowId)).numbers
  have all : FlowReassembler.arrived (keyOf senderId flowId)
      (received.map (pushOf senderId packets)) = Finset.range (packetsOf flowId packets) := by
    rw [← transmission.arrived_all flowId]
    exact transmission.arrived_eq (List.prefix_refl _) flowId
  rw [all, firstMissing_range] at history
  generalize listed : FlowReassembler.ofFlow (keyOf senderId flowId)
    (FlowReassembler.delivered (received.map (pushOf senderId packets))) = frames at history
  have lengths := congrArg List.length history
  rw [List.length_map, List.length_range] at lengths
  have count : packetsOf flowId packets =
      (packets.filter fun packet => tcpFlowId packet.asSlice = some flowId).length :=
    List.countP_eq_length_filter
  refine List.ext_getElem (by rw [List.length_map, List.length_map, lengths, count]) ?_
  intro position inside inside'
  rw [List.length_map] at inside inside'
  have numbered : frames[position].1.sequence.toNat = position := by
    have here := congrArg (·[position]?) history
    simpa [inside, lengths ▸ inside] using here
  have member : frames[position] ∈ FlowReassembler.ofFlow (keyOf senderId flowId)
      (FlowReassembler.delivered (received.map (pushOf senderId packets))) :=
    listed ▸ List.getElem_mem inside
  obtain ⟨delivered, sameKey⟩ := List.mem_filter.mp member
  obtain ⟨index, packet, other, found, isFlow, key, number, bytes⟩ :=
    transmission.delivered_packet delivered
  obtain rfl : other = flowId :=
    keyOf_injective senderId (key.symm.trans (of_decide_eq_true sameKey))
  have original := getElem?_filter_countP_take
    (fun packet => tcpFlowId packet.asSlice = some other) found (decide_eq_true isFlow)
  have position' : (packets.take index).countP
      (fun packet => tcpFlowId packet.asSlice = some other) = position :=
    number.symm.trans numbered
  rw [position', List.getElem?_eq_getElem inside'] at original
  rw [List.getElem_map, List.getElem_map, bytes, Option.some.inj original]

end Transmission

namespace ReturnReorder

open Transmission

/-- Whatever the order and the copies of the arrivals and whenever the receiver
pops: within the window every flow comes out byte for byte as it went in, once each
and in order, and nothing stays behind. A packet without flow never comes out. -/
theorem restores_every_flow (senderId : U64) (packets : List PacketBuf)
    (received : List Received) (calls : List Call)
    (transmission : Transmission senderId packets received)
    (handed : calls.filterMap Call.arrival? =
      received.map fun datagram => (datagram.packet, datagram.nowMs)) :
    (∀ flow : Option U64,
      (((run call new calls).2.flatten ++ (run call new calls).1.ready).map
          PacketBuf.asSlice).filter (fun bytes => tcpFlowId bytes = flow) =
        (packets.map PacketBuf.asSlice).filter fun bytes => tcpFlowId bytes = flow) ∧
      (run call new calls).1.reassembler.frames = [] ∧
      (run call new calls).1.reassembler.pendingTotal = 0 := by
  have asPushes : ∀ datagram ∈ received,
      asPush datagram.packet datagram.nowMs = some (pushOf senderId packets datagram) :=
    fun datagram arrives => by
      obtain ⟨_, _, _, _, _, isPush, _⟩ := transmission.sent_packet arrives
      exact isPush
  have pushes : pushesOf calls = received.map (pushOf senderId packets) := by
    rw [pushesOf, handed, List.filterMap_map]
    refine (List.filterMap_congr fun datagram arrives => ?_).trans
      (congrFun List.filterMap_eq_map received)
    exact asPushes datagram arrives
  obtain ⟨reassembler, output⟩ := run_calls calls (by
    rw [handed]
    intro arrival member
    obtain ⟨datagram, arrives, rfl⟩ := List.mem_map.mp member
    rw [asPushes datagram arrives]
    rfl)
  rw [pushes] at reassembler output
  have values := FlowReassembler.delivered_values (received.map (pushOf senderId packets))
  rw [output, ← values, reassembler]
  refine ⟨fun flow => ?_, ?_⟩
  · rw [List.map_map, List.filter_map, List.filter_map]
    cases flow with
    | none =>
        have nothing : (FlowReassembler.delivered (received.map (pushOf senderId packets))).filter
            ((fun bytes => decide (tcpFlowId bytes = none)) ∘
              (PacketBuf.asSlice ∘ Prod.snd)) = [] := by
          refine List.filter_eq_nil_iff.mpr fun frame member => ?_
          obtain ⟨_, _, _, _, isFlow, _, _, bytes⟩ := transmission.delivered_packet member
          simp [bytes, isFlow]
        have nothing' : packets.filter ((fun bytes => decide (tcpFlowId bytes = none)) ∘
            PacketBuf.asSlice) = [] := by
          refine List.filter_eq_nil_iff.mpr fun packet member => ?_
          obtain ⟨flowId, isFlow⟩ := Option.isSome_iff_exists.mp (transmission.framed packet member)
          simp [isFlow]
        rw [nothing, nothing']
        rfl
    | some flowId =>
        have same : (FlowReassembler.delivered (received.map (pushOf senderId packets))).filter
            ((fun bytes => decide (tcpFlowId bytes = some flowId)) ∘
              (PacketBuf.asSlice ∘ Prod.snd)) =
            FlowReassembler.ofFlow (keyOf senderId flowId)
              (FlowReassembler.delivered (received.map (pushOf senderId packets))) := by
          refine List.filter_congr fun frame member => ?_
          obtain ⟨_, _, other, _, isFlow, key, _, bytes⟩ := transmission.delivered_packet member
          simp [bytes, isFlow, key, (keyOf_injective senderId).eq_iff]
        rw [same]
        exact transmission.flow_restored flowId
  · have resequenced := FlowReassembler.run_resequences transmission.withinWindow _
      (List.prefix_refl _)
    have total := FlowReassembler.pendingTotal_eq_beyond (FlowReassembler.run_sound _)
      resequenced.1 resequenced.2
    have emptied : (run FlowReassembler.push .new
        (received.map (pushOf senderId packets))).1.pendingTotal = 0 := by
      rw [(FlowReassembler.run_tagged (FlowReassembler.labelled_untagged _)).1]
      refine total.trans (Finset.sum_eq_zero fun key _ => ?_)
      have card := transmission.beyond_card_le (List.prefix_refl _) key
      rw [transmission.arrived_all, beyond_range, Finset.card_empty] at card
      exact Nat.le_zero.mp card
    have counted := (FlowReassembler.run_sound
      (received.map (pushOf senderId packets))).counted
    rw [emptied] at counted
    exact ⟨List.eq_nil_of_length_eq_zero counted.symm, emptied⟩

/-- A TCP segment with one byte of payload, as it is read into a pooled buffer. -/
def segment (payload : U8) : PacketBuf where
  storage := List.replicate 64 0 ++
    [0x45, 0, 0, 41, 0, 0, 0, 0, 64, 6, 0, 0, 10, 0, 0, 1, 10, 0, 0, 2,
      0x12, 0x34, 0, 80, 0, 0, 0, 1, 0, 0, 0, 0, 0x50, 0x10, 0, 0, 0, 0, 0, 0, payload] ++
    List.replicate 2199 0
  start := 64
  stop := 105
  sized := by
    rw [List.length_append, List.length_append, List.length_replicate, List.length_replicate]
    rfl
  ordered := by decide
  bounded := by decide

/-- What the sender makes of the segments of a run. -/
def wirePacket (index : Nat) : PacketBuf :=
  ((run frameOutboundPacket (withSenderId 5) [segment 1, segment 2]).2[index]?.map
    Prod.fst).getD (segment 0)

/-- Two segments, received in the wrong order and the second one twice. -/
def swappedReceived : List Received :=
  [1, 0, 1].map fun index => { index := index, packet := wirePacket index, nowMs := 0 }

private theorem segment_flow :
    ∀ packet ∈ [segment 1, segment 2],
      tcpFlowId packet.asSlice = some 13088708062335163145#64 := by
  decide +kernel

private theorem swappedReceived_nowMs : ∀ datagram ∈ swappedReceived, datagram.nowMs = 0 := by
  intro datagram member
  obtain ⟨_, _, rfl⟩ := List.mem_map.mp member
  rfl

private theorem swapped_transmission :
    Transmission 5 [segment 1, segment 2] swappedReceived := by
  have framed : ∀ packet ∈ [segment 1, segment 2], (tcpFlowId packet.asSlice).isSome :=
    fun packet member => by rw [segment_flow packet member]; rfl
  have headroom : ∀ packet ∈ [segment 1, segment 2], frameLen ≤ packet.start := by
    intro packet member
    rcases List.mem_pair.mp member with rfl | rfl <;> decide
  have short : ∀ flowId, packetsOf flowId [segment 1, segment 2] ≤ 2 := fun _ =>
    List.countP_le_length
  have single : flowIds [segment 1, segment 2] = {13088708062335163145#64} := by
    simp [flowIds, segment_flow]
  have few (before : List Received) (within : before <+: swappedReceived) (flowId : U64) :
      (beyond (arrivedNumbers [segment 1, segment 2] flowId before)).card ≤ 3 := by
    calc (beyond (arrivedNumbers [segment 1, segment 2] flowId before)).card
      _ ≤ (arrivedNumbers [segment 1, segment 2] flowId before).card :=
          Finset.card_filter_le _ _
      _ ≤ before.length := by
          refine (List.toFinset_card_le _).trans ?_
          rw [List.length_map]
          exact List.length_filter_le _ _
      _ ≤ 3 := within.length_le
  exact {
    framed := framed
    headroom := headroom
    fewFlows := by rw [single]; decide
    fewPackets := fun flowId => (short flowId).trans (by decide)
    carried := by
      intro datagram member
      obtain ⟨index, listed, rfl⟩ := List.mem_map.mp member
      have inside : index < 2 := by
        have all : ∀ index ∈ [1, 0, 1], index < 2 := by decide
        exact all index listed
      have fewFlows : ([segment 1, segment 2].map fun packet =>
          tcpFlowId packet.asSlice).toFinset.card ≤ maxTrackedFlows :=
        (List.toFinset_card_le _).trans (by decide)
      obtain ⟨_, sent, _, output, _⟩ := frame_run_spec framed fewFlows headroom
        (List.getElem?_eq_getElem inside)
      refine ⟨sent, output, ?_⟩
      simp only [wirePacket, output, Option.map_some, Option.getD_some]
    complete := by
      intro index inside
      refine ⟨_, List.mem_map_of_mem (a := index) ?_, rfl⟩
      change index < 2 at inside
      simp
      omega
    clock := List.pairwise_of_forall_mem_list fun first member second member' => by
      rw [swappedReceived_nowMs first member, swappedReceived_nowMs second member']
    perFlow := fun before within flowId => (few before within flowId).trans (by decide)
    total := fun before within => by
      rw [single, Finset.sum_singleton]
      exact (few before within _).trans (by decide)
    prompt := fun early opener rest closer flowId within _ _ _ => by
      rw [swappedReceived_nowMs closer (within.subset (by simp))]
      exact Nat.lt_of_lt_of_le (by decide) (Nat.le_add_left _ _) }

/-- The two segments come out in order, with pops before, between and after. -/
theorem restores_swapped_segments :
    (∀ flow : Option U64,
      (((run call new [.pop, .push (wirePacket 1) 0, .push (wirePacket 0) 0, .pop,
          .push (wirePacket 1) 0]).2.flatten ++
        (run call new [.pop, .push (wirePacket 1) 0, .push (wirePacket 0) 0, .pop,
          .push (wirePacket 1) 0]).1.ready).map
          PacketBuf.asSlice).filter (fun bytes => tcpFlowId bytes = flow) =
        ([segment 1, segment 2].map PacketBuf.asSlice).filter fun bytes =>
          tcpFlowId bytes = flow) ∧
      (run call new [.pop, .push (wirePacket 1) 0, .push (wirePacket 0) 0, .pop,
        .push (wirePacket 1) 0]).1.reassembler.frames = [] ∧
      (run call new [.pop, .push (wirePacket 1) 0, .push (wirePacket 0) 0, .pop,
        .push (wirePacket 1) 0]).1.reassembler.pendingTotal = 0 :=
  restores_every_flow 5 [segment 1, segment 2] swappedReceived _ swapped_transmission rfl

end ReturnReorder

end Csqtt
