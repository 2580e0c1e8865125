/-
Module: Csqtt.Proofs.QuicFlows
Purpose: When every QUIC flow gets its own spares: flows are told apart by a key of 64
  bits, which two of them can share.
Trusted boundary: none
Main exports: FourTuple, fourTuple, KeptApart, Collides, kept_apart_and_bounded,
  neighbours_share_a_key
-/
import Csqtt.Core.Transducer
import Csqtt.Engine.SelectiveFec
import Mathlib.Data.Finset.Card
import Mathlib.Data.Finset.Image

namespace Csqtt

open Transducer

/-- Addresses and ports of an IPv4 packet, as they stand in it. -/
structure FourTuple where
  srcIp : List U8
  dstIp : List U8
  srcPort : List U8
  dstPort : List U8
deriving DecidableEq

/-- The word that the code tells flows apart by. -/
def FourTuple.key (self : FourTuple) : U64 :=
  (BitVec.ofNat 64 (beValue self.srcIp) <<< 32) ^^^ (BitVec.ofNat 64 (beValue self.dstIp) <<< 16)
    ^^^ (BitVec.ofNat 64 (beValue self.srcPort) <<< 8) ^^^ BitVec.ofNat 64 (beValue self.dstPort)

/-- The flow of an IPv4 packet of protocol 17 that has a header and ports. -/
def fourTuple (packet : List U8) : Option FourTuple :=
  if packet.length < 28 ∨ byteAt packet 0 >>> 4 ≠ 4#8 ∨ byteAt packet 9 ≠ 17#8 then none
  else
    let ihl := (byteAt packet 0 &&& 0x0f#8).toNat * 4
    if ihl < 20 ∨ packet.length < ihl + 4 then none
    else
      some
        { srcIp := packet.extract 12 16
          dstIp := packet.extract 16 20
          srcPort := packet.extract ihl (ihl + 2)
          dstPort := packet.extract (ihl + 2) (ihl + 4) }

theorem ipv4UdpFlowKey_eq (packet : List U8) :
    ipv4UdpFlowKey packet = (fourTuple packet).map FourTuple.key := by
  rw [ipv4UdpFlowKey, fourTuple]
  split
  · rfl
  · by_cases short : (byteAt packet 0 &&& 0x0f#8).toNat * 4 < 20 ∨
      packet.length < (byteAt packet 0 &&& 0x0f#8).toNat * 4 + 4
    · simp only [if_pos short, Option.map_none]
    · simp only [if_neg short, Option.map_some]
      rfl

/-- The tracker after packets, from the empty one. -/
def trackerAfter (packets : List (List U8)) : HashTable U64 U8 :=
  (run quicInitialSpareAllow ∅ packets).1

/-- Whether a packet is allowed a spare after the packets before it. -/
def allowedAfter (before : List (List U8)) (packet : List U8) : Bool :=
  (quicInitialSpareAllow (trackerAfter before) packet).2

def flowsOf (packets : List (List U8)) : List FourTuple :=
  packets.filterMap fourTuple

def keysOf (packets : List (List U8)) : List U64 :=
  (flowsOf packets).map FourTuple.key

/-- Every flow is allowed spares for its first two packets, and for no other one,
whatever packets of other flows there are. -/
def KeptApart (packets : List (List U8)) : Prop :=
  ∀ before packet after flow, packets = before ++ packet :: after →
    fourTuple packet = some flow →
      allowedAfter before packet = decide ((flowsOf before).count flow < 2)

/-- Two flows have one key, and there are more than two packets of that key. -/
def Collides (packets : List (List U8)) : Prop :=
  ∃ first ∈ flowsOf packets, ∃ second ∈ flowsOf packets,
    first ≠ second ∧ first.key = second.key ∧ 2 < (keysOf packets).count first.key

variable {packets before after : List (List U8)} {packet : List U8} {flow : FourTuple}
  {tracker : HashTable U64 U8} {key : U64}

theorem trackerAfter_concat (before : List (List U8)) (packet : List U8) :
    trackerAfter (before ++ [packet]) = (quicInitialSpareAllow (trackerAfter before) packet).1 := by
  rw [trackerAfter, run_concat, trackerAfter]

theorem flowsOf_append (first second : List (List U8)) :
    flowsOf (first ++ second) = flowsOf first ++ flowsOf second :=
  List.filterMap_append

theorem keysOf_append (first second : List (List U8)) :
    keysOf (first ++ second) = keysOf first ++ keysOf second := by
  rw [keysOf, flowsOf_append, List.map_append, keysOf, keysOf]

/-!
### The size of the tracker
-/

theorem size_allow (small : HashTable.size tracker ≤ quicSpareFlowCap) (packet : List U8) :
    HashTable.size (quicInitialSpareAllow tracker packet).1 ≤ quicSpareFlowCap := by
  rw [quicInitialSpareAllow]
  cases ipv4UdpFlowKey packet with
  | none => exact small
  | some key =>
      simp only
      split
      · next spent =>
          -- Only a counted flow has spent its spares, so nothing is added.
          have known : key ∈ tracker := by
            by_contra absent
            rw [AList.lookup_eq_none.mpr absent] at spent
            exact absurd spent (by decide)
          rw [HashTable.size_insert_known _ known]
          exact small
      · split
        · split
          · rw [HashTable.size_insert_new _ (AList.notMem_empty key)]
            decide
          · next kept => exact Nat.le_of_not_lt kept
        · next fits => exact Nat.le_of_not_lt fits

theorem size_trackerAfter (packets : List (List U8)) :
    HashTable.size (trackerAfter packets) ≤ quicSpareFlowCap :=
  @run_invariant _ _ _ quicInitialSpareAllow
    (fun tracker => HashTable.size tracker ≤ quicSpareFlowCap)
    (fun _ packet small => size_allow small packet) ∅ packets (Nat.zero_le _)

/-!
### What the tracker counts
-/

/-- While there are few keys, the tracker has for each the number of its packets, up to
two. -/
def Counts (tracker : HashTable U64 U8) (keys : List U64) : Prop :=
  ∀ key, tracker.lookup key =
    if keys.count key = 0 then none else some (BitVec.ofNat 8 (min 2 (keys.count key)))

variable {keys : List U64}

theorem Counts.mem_iff (counts : Counts tracker keys) : key ∈ tracker ↔ key ∈ keys := by
  rw [← AList.lookup_isSome, counts key, ← List.count_pos_iff]
  split
  · next none => simp [none]
  · next some => simp [Nat.pos_of_ne_zero some]

theorem Counts.size_le (counts : Counts tracker keys) :
    HashTable.size tracker ≤ keys.toFinset.card := by
  have nodup : tracker.keys.Nodup := tracker.keys_nodup
  rw [HashTable.size, ← List.toFinset_card_of_nodup nodup]
  apply Finset.card_le_card
  intro key listed
  rw [List.mem_toFinset] at listed ⊢
  exact counts.mem_iff.mp (AList.mem_keys.mpr listed)

theorem Counts.getD (counts : Counts tracker keys) (key : U64) :
    (tracker.lookup key).getD 0#8 = BitVec.ofNat 8 (min 2 (keys.count key)) := by
  rw [counts key]
  split
  · next none =>
      rw [none]
      rfl
  · rfl

theorem Counts.insert (counts : Counts tracker keys) (key : U64) :
    Counts (tracker.insert key (BitVec.ofNat 8 (min 2 (keys.count key + 1)))) (keys ++ [key]) := by
  intro other
  rw [List.count_append]
  by_cases own : other = key
  · subst own
    rw [AList.lookup_insert, List.count_singleton_self, if_neg (Nat.succ_ne_zero _)]
  · have elsewhere : [key].count other = 0 := by
      rw [List.count_eq_zero, List.mem_singleton]
      exact own
    rw [AList.lookup_insert_ne own, counts other, elsewhere, Nat.add_zero]

/-- Below two spares the counter does not stop. -/
theorem spares_of_lt {count : Nat} (few : count < 2) :
    ¬ quicSparePerFlow ≤ BitVec.ofNat 8 (min 2 count) ∧
      saturatingAdd (BitVec.ofNat 8 (min 2 count)) 1#8 =
        BitVec.ofNat 8 (min 2 (count + 1)) := by
  rcases Nat.le_one_iff_eq_zero_or_eq_one.mp (Nat.le_of_lt_succ few) with rfl | rfl
  · decide
  · decide

/-- A packet of a key is allowed a spare if fewer than two of that key came before. -/
theorem Counts.allow (counts : Counts tracker keys) (keyed : ipv4UdpFlowKey packet = some key)
    (few : (keys ++ [key]).toFinset.card ≤ quicSpareFlowCap) :
    Counts (quicInitialSpareAllow tracker packet).1 (keys ++ [key]) ∧
      (quicInitialSpareAllow tracker packet).2 = decide (keys.count key < 2) := by
  have spares := counts.getD key
  have inserted := counts.insert key
  simp only [quicInitialSpareAllow, keyed, spares]
  by_cases spent : keys.count key < 2
  · obtain ⟨below, counted⟩ := spares_of_lt spent
    rw [if_neg below, counted, if_neg (Nat.not_lt_of_le (inserted.size_le.trans few))]
    exact ⟨inserted, (decide_eq_true spent).symm⟩
  · have two : min 2 (keys.count key) = 2 := Nat.min_eq_left (Nat.le_of_not_lt spent)
    have more : min 2 (keys.count key + 1) = 2 :=
      Nat.min_eq_left ((Nat.le_of_not_lt spent).trans (Nat.le_succ _))
    rw [more] at inserted
    rw [two, if_pos (by decide)]
    exact ⟨inserted, (decide_eq_false spent).symm⟩

/-- So many flows have as many keys at most. -/
theorem card_keysOf_le (packets : List (List U8)) :
    (keysOf packets).toFinset.card ≤ (flowsOf packets).toFinset.card := by
  have image : (keysOf packets).toFinset = (flowsOf packets).toFinset.image FourTuple.key := by
    ext key
    simp only [keysOf, List.mem_toFinset, List.mem_map, Finset.mem_image]
  rw [image]
  exact Finset.card_image_le

theorem flowsOf_concat_of_some (found : fourTuple packet = some flow) :
    flowsOf (before ++ [packet]) = flowsOf before ++ [flow] := by
  rw [flowsOf_append, flowsOf, flowsOf, List.filterMap_cons_some found, List.filterMap_nil]

theorem flowsOf_concat_of_none (other : fourTuple packet = none) :
    flowsOf (before ++ [packet]) = flowsOf before := by
  rw [flowsOf_append, flowsOf, flowsOf, List.filterMap_cons_none other, List.filterMap_nil,
    List.append_nil]

theorem keysOf_concat (found : fourTuple packet = some flow) :
    keysOf (before ++ [packet]) = keysOf before ++ [flow.key] := by
  rw [keysOf, flowsOf_concat_of_some found, List.map_append, keysOf, List.map_singleton]

theorem few_of_append (few : (flowsOf (before ++ after)).toFinset.card ≤ quicSpareFlowCap) :
    (flowsOf before).toFinset.card ≤ quicSpareFlowCap := by
  apply Nat.le_trans (Finset.card_le_card _) few
  intro flow listed
  rw [List.mem_toFinset] at listed ⊢
  rw [flowsOf_append]
  exact List.mem_append_left _ listed

theorem counts_trackerAfter (few : (flowsOf packets).toFinset.card ≤ quicSpareFlowCap) :
    Counts (trackerAfter packets) (keysOf packets) := by
  induction packets using List.reverseRecOn with
  | nil =>
      intro key
      rfl
  | append_singleton packets packet inductionHypothesis =>
      have counts := inductionHypothesis (few_of_append few)
      rw [trackerAfter_concat]
      cases found : fourTuple packet with
      | none =>
          have unkeyed : ipv4UdpFlowKey packet = none := by
            rw [ipv4UdpFlowKey_eq, found]
            rfl
          rw [keysOf, flowsOf_concat_of_none found, ← keysOf]
          simp only [quicInitialSpareAllow, unkeyed]
          exact counts
      | some flow =>
          have keyed : ipv4UdpFlowKey packet = some flow.key := by
            rw [ipv4UdpFlowKey_eq, found]
            rfl
          have keys : keysOf (packets ++ [packet]) = keysOf packets ++ [flow.key] :=
            keysOf_concat found
          rw [keys]
          apply (counts.allow keyed _).1
          rw [← keys]
          exact (card_keysOf_le _).trans few

/-- A packet is allowed a spare exactly if fewer than two with its flow's key came before. -/
theorem allowedAfter_eq (found : fourTuple packet = some flow)
    (few : (flowsOf (before ++ [packet])).toFinset.card ≤ quicSpareFlowCap) :
    allowedAfter before packet = decide ((keysOf before).count flow.key < 2) := by
  have keyed : ipv4UdpFlowKey packet = some flow.key := by
    rw [ipv4UdpFlowKey_eq, found]
    rfl
  apply ((counts_trackerAfter (few_of_append few)).allow keyed _).2
  rw [← keysOf_concat found]
  exact (card_keysOf_le _).trans few

/-!
### Flows that share a key
-/

/-- Packets of a flow have the flow's key. -/
theorem count_flow_le (flows : List FourTuple) (flow : FourTuple) :
    flows.count flow ≤ (flows.map FourTuple.key).count flow.key :=
  List.count_le_count_map

theorem KeptApart.earlier (apart : KeptApart (before ++ after)) : KeptApart before := by
  intro earlier packet later flow split
  apply apart earlier packet (later ++ after) flow
  rw [split, List.append_assoc, List.cons_append]

/-- Another flow with the same key adds to the packets of the key. -/
theorem count_flow_lt {flows : List FourTuple} {other : FourTuple} (listed : other ∈ flows)
    (apart : other ≠ flow) (same : other.key = flow.key) :
    flows.count flow < (flows.map FourTuple.key).count flow.key := by
  have split := ((List.perm_cons_erase listed).map FourTuple.key).count_eq flow.key
  have rest := count_flow_le (flows.erase other) flow
  rw [List.count_erase_of_ne apart.symm] at rest
  rw [split, List.map_cons, same, List.count_cons_self]
  exact Nat.lt_succ_of_le rest

theorem count_key_eq {flows : List FourTuple}
    (alone : ∀ other ∈ flows, other.key = flow.key → other = flow) :
    (flows.map FourTuple.key).count flow.key = flows.count flow := by
  rw [List.count_eq_countP, List.count_eq_countP, List.countP_map]
  apply List.countP_congr
  intro other listed
  rw [Function.comp_apply, beq_iff_eq, beq_iff_eq]
  constructor
  · exact alone other listed
  · rintro rfl
    rfl

/-- All packets of a key are of one flow. -/
def Alone (flows : List FourTuple) (key : U64) : Prop :=
  ∃ flow, ∀ other ∈ flows, other.key = key → other = flow

/-- Where flows are kept apart, a key with more than two packets has one flow. -/
theorem alone_of_keptApart (few : (flowsOf packets).toFinset.card ≤ quicSpareFlowCap)
    (apart : KeptApart packets) (many : 2 < (keysOf packets).count key) :
    Alone (flowsOf packets) key := by
  induction packets using List.reverseRecOn with
  | nil => exact absurd many (Nat.not_lt_zero 2)
  | append_singleton packets packet inductionHypothesis =>
      have earlier := inductionHypothesis (few_of_append few) apart.earlier
      cases found : fourTuple packet with
      | none =>
          rw [keysOf, flowsOf_concat_of_none found] at many
          rw [flowsOf_concat_of_none found]
          exact earlier many
      | some flow =>
          rw [keysOf_concat found, List.count_append] at many
          rw [flowsOf_concat_of_some found]
          by_cases own : flow.key = key
          · subst own
            rw [List.count_singleton_self] at many
            -- The packet is the third of its key at least, so it must be of its flow, too.
            have refused : ¬ (keysOf packets).count flow.key < 2 := by
              omega
            have answer := apart packets packet [] flow rfl found
            rw [allowedAfter_eq found few, decide_eq_false refused] at answer
            have third := of_decide_eq_false answer.symm
            have listed : flow ∈ flowsOf packets := List.count_pos_iff.mp (by omega)
            refine ⟨flow, ?_⟩
            intro other inside same
            rcases List.mem_append.mp inside with before | new
            · by_cases more : 2 < (keysOf packets).count flow.key
              · obtain ⟨single, alone⟩ := earlier more
                exact (alone other before same).trans (alone flow listed rfl).symm
              · by_contra different
                have fewer := count_flow_lt before different same
                rw [← keysOf] at fewer
                omega
            · exact List.mem_singleton.mp new
          · have none : [flow.key].count key = 0 := by
              rw [List.count_eq_zero, List.mem_singleton]
              exact fun same => own same.symm
            rw [none, Nat.add_zero] at many
            obtain ⟨single, alone⟩ := earlier many
            refine ⟨single, ?_⟩
            intro other inside same
            rcases List.mem_append.mp inside with before | new
            · exact alone other before same
            · rw [List.mem_singleton.mp new] at same
              exact absurd same own

theorem keptApart_iff (few : (flowsOf packets).toFinset.card ≤ quicSpareFlowCap) :
    KeptApart packets ↔ ¬ Collides packets := by
  constructor
  · rintro apart ⟨first, inside, second, insideToo, different, same, many⟩
    obtain ⟨flow, alone⟩ := alone_of_keptApart few apart many
    exact different ((alone first inside rfl).trans (alone second insideToo same.symm).symm)
  · intro distinct before packet after flow split found
    have joined : packets = (before ++ [packet]) ++ after := by
      rw [split, List.append_assoc, List.singleton_append]
    rw [joined] at few
    rw [allowedAfter_eq found (few_of_append few)]
    apply decide_eq_decide.mpr
    constructor
    · intro fewKeys
      exact Nat.lt_of_le_of_lt (count_flow_le _ flow) fewKeys
    · intro fewPackets
      by_contra spent
      apply distinct
      by_cases alone : ∀ other ∈ flowsOf before, other.key = flow.key → other = flow
      · rw [keysOf, count_key_eq alone] at spent
        exact absurd fewPackets spent
      · push Not at alone
        obtain ⟨other, listed, same, different⟩ := alone
        refine ⟨flow, ?_, other, ?_, different.symm, same.symm, ?_⟩
        · rw [joined, flowsOf_append, flowsOf_concat_of_some found]
          exact List.mem_append_left _ (List.mem_append_right _ (List.mem_singleton_self flow))
        · rw [joined, flowsOf_append, flowsOf_concat_of_some found]
          exact List.mem_append_left _ (List.mem_append_left _ listed)
        · rw [joined, keysOf_append, keysOf_concat found, List.count_append, List.count_append,
            List.count_singleton_self]
          omega

/-- The tracker never has more entries than its cap. And for packets of no more flows than
that, each flow gets its spares whatever the other flows do, exactly if no two flows share
a key of more than two packets. -/
theorem kept_apart_and_bounded (packets : List (List U8)) :
    HashTable.size (trackerAfter packets) ≤ quicSpareFlowCap ∧
      ((flowsOf packets).toFinset.card ≤ quicSpareFlowCap →
        (KeptApart packets ↔ ¬ Collides packets)) :=
  ⟨size_trackerAfter packets, fun few => keptApart_iff few⟩

/-- A datagram of the size of a first one, to the port of QUIC. -/
def initialDatagram (dstLast srcPortFirst : U8) : List U8 :=
  [0x45#8, 0#8, 4#8, 0xcc#8, 0#8, 0#8, 0#8, 0#8, 64#8, 17#8, 0#8, 0#8, 10#8, 0#8, 0#8, 2#8,
    1#8, 1#8, 1#8, dstLast, srcPortFirst, 1#8, 1#8, 0xbb#8, 4#8, 0xb8#8, 0#8, 0#8] ++
    List.replicate 1200 0#8

/-- Two flows to neighbouring addresses, from ports that differ in the same bit: the
first packet of the one is refused after two packets of the other. -/
theorem neighbours_share_a_key :
    let first := initialDatagram 0#8 0xc8#8
    let second := initialDatagram 1#8 0xc9#8
    isQuicInitialSized first = true ∧ isQuicInitialSized second = true ∧
      (flowsOf [first, first, second]).toFinset.card ≤ quicSpareFlowCap ∧
      ¬ KeptApart [first, first, second] := by
  intro first second
  refine ⟨by decide +kernel, by decide +kernel, by decide +kernel, ?_⟩
  intro apart
  have refused : allowedAfter [first, first] second = false := by decide +kernel
  have unseen : (fourTuple second).map ((flowsOf [first, first]).count ·) = some 0 := by
    decide +kernel
  obtain ⟨flow, found, none⟩ := Option.map_eq_some_iff.mp unseen
  have allowed := apart [first, first] second [] flow rfl found
  rw [refused, none] at allowed
  exact absurd allowed (by decide)

end Csqtt
