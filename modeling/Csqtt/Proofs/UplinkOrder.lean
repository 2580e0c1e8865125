/-
Module: Csqtt.Proofs.UplinkOrder
Purpose: The order of the uplink: frame numbers follow the order of dispatch, and the
  order of dispatch is that of injection as long as no pop takes a packet past an
  older one of the same flow in the other queue.
Trusted boundary: none
Main exports: Stored, InTurn, InInjectionOrder, Numbered, numbered_in_injection_order
-/
import Csqtt.Proofs.UplinkRun

namespace Csqtt

open Transducer
open scoped List

namespace Uplink

/-!
### What the queues hold
-/

/-- The two queues after some events: each in injection order, every packet as it was
injected, behind its headroom. -/
structure Stored (count : Nat) (latency queue : List (Injection × PacketBuf)) : Prop where
  latencyOrdered : latency.Pairwise fun first second => first.1.number < second.1.number
  queueOrdered : queue.Pairwise fun first second => first.1.number < second.1.number
  early : ∀ entry ∈ latency ++ queue, entry.1.number < count
  intact : ∀ entry ∈ latency ++ queue,
    entry.2.asSlice = entry.1.data ∧ entry.2.start = packetHeadroom

namespace Stored

variable {count : Nat} {latency queue : List (Injection × PacketBuf)}

theorem swap (stored : Stored count latency queue) : Stored count queue latency where
  latencyOrdered := stored.queueOrdered
  queueOrdered := stored.latencyOrdered
  early entry member := stored.early entry (List.mem_append.mpr (List.mem_append.mp member).symm)
  intact entry member := stored.intact entry (List.mem_append.mpr (List.mem_append.mp member).symm)

theorem later (stored : Stored count latency queue) : Stored (count + 1) latency queue where
  latencyOrdered := stored.latencyOrdered
  queueOrdered := stored.queueOrdered
  early entry member := Nat.lt_succ_of_lt (stored.early entry member)
  intact := stored.intact

/-- A queue may give up its oldest packets. -/
theorem drop (stored : Stored count latency queue) (dropped : Nat) :
    Stored count (latency.drop dropped) queue where
  latencyOrdered := stored.latencyOrdered.sublist (List.drop_sublist _ _)
  queueOrdered := stored.queueOrdered
  early entry member := stored.early entry
    (List.mem_append.mpr ((List.mem_append.mp member).imp_left List.mem_of_mem_drop))
  intact entry member := stored.intact entry
    (List.mem_append.mpr ((List.mem_append.mp member).imp_left List.mem_of_mem_drop))

/-- The packet injected by the next event goes to the end of a queue. -/
theorem append (stored : Stored count latency queue) {data : List U8} {packet : PacketBuf}
    (content : packet.asSlice = data) (start : packet.start = packetHeadroom) :
    Stored (count + 1) (latency ++ [({ number := count, data := data }, packet)]) queue where
  latencyOrdered := by
    refine List.pairwise_append.mpr
      ⟨stored.latencyOrdered, List.pairwise_singleton _ _, fun first member last isLast => ?_⟩
    rw [List.mem_singleton.mp isLast]
    exact stored.early first (List.mem_append_left _ member)
  queueOrdered := stored.queueOrdered
  early entry member := by
    simp only [List.mem_append, List.mem_singleton] at member
    rcases member with (old | rfl) | other
    · exact Nat.lt_succ_of_lt (stored.early entry (List.mem_append_left _ old))
    · exact Nat.lt_succ_self _
    · exact Nat.lt_succ_of_lt (stored.early entry (List.mem_append_right _ other))
  intact entry member := by
    simp only [List.mem_append, List.mem_singleton] at member
    rcases member with (old | rfl) | other
    · exact stored.intact entry (List.mem_append_left _ old)
    · exact ⟨content, start⟩
    · exact stored.intact entry (List.mem_append_right _ other)

end Stored

/-- The packets a step leaves in the queues were there before, or are the one it injects. -/
theorem mem_queued_injects {mark : Injection} {data : List U8}
    {before after : UplinkBridge Injection} (injected : Injects mark data before after)
    {entry : Injection × PacketBuf} (member : entry ∈ after.latency.items ++ after.queue.items) :
    entry ∈ before.latency.items ++ before.queue.items ∨ entry.1 = mark := by
  cases injected with
  | refused => exact .inl member
  | latency dropped content start appended other =>
      rw [appended, other] at member
      simp only [List.mem_append, List.mem_singleton] at member ⊢
      rcases member with (old | rfl) | waiting
      · exact .inl (.inl (List.mem_of_mem_drop old))
      · exact .inr rfl
      · exact .inl (.inr waiting)
  | bulk content start appended other =>
      rw [appended, other] at member
      simp only [List.mem_append, List.mem_singleton] at member ⊢
      rcases member with waiting | old | rfl
      · exact .inl (.inl waiting)
      · exact .inl (.inr old)
      · exact .inr rfl

/-!
### What a pop takes
-/

variable {Mark : Type*}

theorem queued_perm (self : Uplink Mark) : self.queued ~ self.next ++ self.waiting := by
  rw [queued, next, waiting]
  cases self.reader.latencyEmpty with
  | true => exact List.perm_append_comm
  | false => exact List.Perm.refl _

theorem stored_next {count : Nat} {self : Uplink Injection}
    (stored : Stored count self.bridge.latency.items self.bridge.queue.items) :
    Stored count self.next self.waiting := by
  rw [next, waiting]
  cases self.reader.latencyEmpty with
  | true => exact stored.swap
  | false => exact stored

/-- A packet behind its headroom is always dispatched. -/
theorem framed_of_headroom (sequencer : FlowSequencer) {packet : PacketBuf}
    (start : packet.start = packetHeadroom) :
    (frameOutboundPacket sequencer packet).2.2 = true := by
  cases flow : tcpFlowId packet.asSlice with
  | none => rw [frameOutboundPacket_of_none flow]
  | some flowId =>
      have headroom : frameLen ≤ packet.start := by
        rw [start]
        decide
      obtain ⟨_, framed, _⟩ := @frameOutboundPacket_of_some sequencer packet flowId flow headroom
      rw [framed]

/-- The two outcomes of a pop in a run: the phase changes, or the oldest packet of the
next queue is framed and dispatched. -/
inductive Pops (before : Uplink Injection) :
    Uplink Injection → List (Injection × PacketBuf) → Prop where
  | empty (nothing : before.next = []) :
      Pops before
        { before with
          reader := { before.reader with latencyEmpty := !before.reader.latencyEmpty } } []
  | takes {after : Uplink Injection} {mark : Injection} {packet sent : PacketBuf}
      {rest : List (Injection × PacketBuf)} (first : before.next = (mark, packet) :: rest)
      (remaining : after.queued ~ rest ++ before.waiting)
      (anew : after.reader.latencyEmpty = false)
      (framed : frameOutboundPacket before.reader.sequences packet =
        (after.reader.sequences, sent, true)) :
      Pops before after [(mark, sent)]

theorem pops_of_stored {count : Nat} {self : Uplink Injection}
    (stored : Stored count self.bridge.latency.items self.bridge.queue.items) :
    Pops self (self.step .read).1 (self.step .read).2 ∧
      Stored count (self.step .read).1.bridge.latency.items
        (self.step .read).1.bridge.queue.items := by
  have reads := read_spec self
  generalize (self.step .read).1 = after at reads ⊢
  generalize (self.step .read).2 = outputs at reads ⊢
  cases reads with
  | empty nothing => exact ⟨.empty nothing, stored⟩
  | @takes after mark packet rest first latency queue anew numbered =>
      have headroom : (frameOutboundPacket self.reader.sequences packet).2.2 = true :=
        framed_of_headroom _
          ((stored_next stored).intact (mark, packet) (by rw [first]; simp)).2
      rw [if_pos headroom]
      refine ⟨.takes first ?_ anew ?_, ?_⟩
      · rw [queued, latency, queue, waiting]
        cases self.reader.latencyEmpty with
        | true => exact List.perm_append_comm
        | false => exact List.Perm.refl _
      · rw [numbered, ← headroom]
      · have taken := (stored_next stored).drop 1
        rw [first] at taken
        rw [latency, queue]
        revert taken
        rw [waiting]
        cases self.reader.latencyEmpty with
        | true => exact Stored.swap
        | false => exact id

/-!
### The order of dispatch
-/

def SameFlow (first second : Injection) : Prop :=
  first.flow.isSome ∧ second.flow = first.flow

/-- Packets of one flow leave in the order in which they were injected. -/
def InInjectionOrder (outputs : List (Injection × PacketBuf)) : Prop :=
  outputs.Pairwise fun first second =>
    SameFlow first.1 second.1 → first.1.number < second.1.number

/-- A pop takes no packet past an older one of the same flow in the other queue. -/
def InTurn (self : Uplink Injection) : UplinkEvent Injection → Prop
  | .read => ∀ first ∈ self.next.head?, ∀ other ∈ self.waiting,
      SameFlow first.1 other.1 → first.1.number < other.1.number
  | _ => True

theorem numbered_concat (events : List (UplinkEvent Unit)) (event : UplinkEvent Unit) :
    numbered (events ++ [event]) = numbered events ++ [event.numbered events.length] := by
  simp [numbered, List.zipIdx_append]

/-- The uplink after a run. -/
def after (senderId : U64) (events : List (UplinkEvent Unit)) : Uplink Injection :=
  (run step (start senderId) (numbered events)).1

/-- What a run in turn keeps: its outputs are in order, and ahead of all that waits. -/
structure Ordered (count : Nat) (uplink : Uplink Injection)
    (outputs : List (Injection × PacketBuf)) : Prop where
  early : ∀ output ∈ outputs, output.1.number < count
  ahead : ∀ output ∈ outputs, ∀ entry ∈ uplink.queued, SameFlow output.1 entry.1 →
    output.1.number < entry.1.number
  ordered : InInjectionOrder outputs

theorem Ordered.step {count : Nat} {self : Uplink Injection}
    {outputs : List (Injection × PacketBuf)} (sound : Ordered count self outputs)
    (stored : Stored count self.bridge.latency.items self.bridge.queue.items)
    (event : UplinkEvent Unit) (turn : InTurn self (event.numbered count)) :
    Ordered (count + 1) (self.step (event.numbered count)).1
      (outputs ++ (self.step (event.numbered count)).2) := by
  have early : ∀ output ∈ outputs, output.1.number < count + 1 := fun output member =>
    Nat.lt_succ_of_lt (sound.early output member)
  cases event with
  | inject mark data storage =>
      obtain ⟨silent, _, injected⟩ := inject_spec self { number := count, data := data } data storage
      rw [UplinkEvent.numbered, silent, List.append_nil]
      refine ⟨early, fun output member entry held same => ?_, sound.ordered⟩
      rcases mem_queued_injects injected held with old | new
      · exact sound.ahead output member entry old same
      · rw [new]
        exact sound.early output member
  | cancel =>
      rw [UplinkEvent.numbered, Uplink.step, List.append_nil]
      exact ⟨early, sound.ahead, sound.ordered⟩
  | read =>
      have pops := (pops_of_stored stored).1
      rw [UplinkEvent.numbered] at turn ⊢
      generalize (self.step .read).1 = after at pops ⊢
      generalize (self.step .read).2 = sent at pops ⊢
      cases pops with
      | empty nothing =>
          rw [List.append_nil]
          exact ⟨early, sound.ahead, sound.ordered⟩
      | @takes after mark packet sent rest first remaining anew framed =>
          have taken : (mark, packet) ∈ self.queued :=
            (queued_perm self).mem_iff.mpr (by simp [first])
          refine ⟨fun output member => ?_, fun output member entry held same => ?_, ?_⟩
          · rcases List.mem_append.mp member with old | new
            · exact early output old
            · rw [List.mem_singleton.mp new]
              exact Nat.lt_succ_of_lt (stored.early (mark, packet) taken)
          · rcases List.mem_append.mp member with old | new
            · refine sound.ahead output old entry ?_ same
              rw [(queued_perm self).mem_iff, first]
              exact List.mem_cons_of_mem _ (remaining.mem_iff.mp held)
            · obtain rfl := List.mem_singleton.mp new
              rcases List.mem_append.mp (remaining.mem_iff.mp held) with behind | other
              · have ordered := (stored_next stored).latencyOrdered
                rw [first] at ordered
                exact List.rel_of_pairwise_cons ordered behind
              · exact turn (mark, packet) (by simp [first]) entry other same
          · refine List.pairwise_append.mpr
              ⟨sound.ordered, List.pairwise_singleton _ _, fun output old last isLast same => ?_⟩
            obtain rfl := List.mem_singleton.mp isLast
            exact sound.ahead output old (mark, packet) taken same

/-- Pops left until the queues are empty, an upper bound: three for every packet, and
what the phase costs. -/
def popsLeft (self : Uplink Injection) : Nat :=
  3 * self.queued.length +
    if self.reader.latencyEmpty then (if self.bridge.queue.items = [] then 2 else 0) else 1

theorem popsLeft_read {count : Nat} {self : Uplink Injection}
    (stored : Stored count self.bridge.latency.items self.bridge.queue.items)
    (busy : self.queued ≠ []) : popsLeft (self.step .read).1 < popsLeft self := by
  have pops := (pops_of_stored stored).1
  generalize (self.step .read).1 = after at pops ⊢
  generalize (self.step .read).2 = sent at pops
  cases pops with
  | empty nothing =>
      have same : ({ self with
          reader := { self.reader with latencyEmpty := !self.reader.latencyEmpty } } :
            Uplink Injection).queued = self.queued := rfl
      rw [popsLeft, popsLeft, same]
      rw [next] at nothing
      rw [queued] at busy
      cases phase : self.reader.latencyEmpty with
      | true =>
          rw [phase, if_pos rfl] at nothing
          simp [nothing]
      | false =>
          rw [phase, if_neg (by decide)] at nothing
          rw [nothing, List.nil_append] at busy
          simp [busy]
  | @takes after mark packet sent rest first remaining anew framed =>
      have fewer := remaining.length_eq
      have before := (queued_perm self).length_eq
      rw [first, List.cons_append, List.length_cons] at before
      rw [popsLeft, popsLeft, anew, if_neg (by decide)]
      omega

/-- A pop dispatches a waiting packet, or leaves it waiting. -/
theorem Pops.dispatched_or_queued {before after : Uplink Injection}
    {outputs : List (Injection × PacketBuf)} (pops : Pops before after outputs)
    {entry : Injection × PacketBuf} (held : entry ∈ before.queued) :
    entry.1 ∈ outputs.map Prod.fst ∨ entry ∈ after.queued := by
  cases pops with
  | empty nothing => exact .inr held
  | takes first remaining anew framed =>
      rw [(queued_perm before).mem_iff, first] at held
      rcases List.mem_cons.mp held with rfl | behind
      · exact .inl (by simp)
      · exact .inr (remaining.mem_iff.mpr behind)

/-- Whatever waits in a queue is dispatched after enough pops. -/
theorem drains {count : Nat} {self : Uplink Injection}
    (stored : Stored count self.bridge.latency.items self.bridge.queue.items)
    {entry : Injection × PacketBuf} (held : entry ∈ self.queued) :
    ∃ reads, entry.1 ∈
      (run step self (List.replicate reads .read)).2.flatten.map Prod.fst := by
  induction bound : popsLeft self using Nat.strongRecOn generalizing self with
  | ind left inductionHypothesis =>
      have fewer := popsLeft_read stored (List.ne_nil_of_mem held)
      obtain ⟨pops, storedAfter⟩ := pops_of_stored stored
      rcases pops.dispatched_or_queued held with now | stillHeld
      · refine ⟨1, ?_⟩
        rw [List.replicate_one, run_cons, List.flatten_cons, List.map_append]
        exact List.mem_append_left _ now
      · obtain ⟨reads, found⟩ :=
          inductionHypothesis _ (by rw [← bound]; exact fewer) storedAfter stillHeld rfl
        refine ⟨reads + 1, ?_⟩
        rw [List.replicate_succ, run_cons, List.flatten_cons, List.map_append]
        exact List.mem_append_right _ found

/-- Frame header of a dispatched packet. -/
def headerOf (entry : Injection × PacketBuf) : Option FrameHeader :=
  (FrameHeader.decode entry.2.asSlice).map Prod.fst

/-- Header of the last packet of a flow. -/
def lastHeader (flowId : U64) (outputs : List (Injection × PacketBuf)) : Option FrameHeader :=
  (outputs.filter fun entry => entry.1.flow = some flowId).getLast?.bind headerOf

/-- Number of flows among the dispatched packets. -/
def flowCount (outputs : List (Injection × PacketBuf)) : Nat :=
  (outputs.filterMap fun entry => entry.1.flow).toFinset.card

/-- How the header of a packet follows the last one of its flow, with so many flows
dispatched up to now: the numbers begin at zero, count on under the same sender, and
begin anew only when there were more flows than the table holds. -/
inductive Follows (flows : Nat) : Option FrameHeader → FrameHeader → Prop where
  | begins {header : FrameHeader} (zero : header.sequence = 0) : Follows flows none header
  | counts {earlier : FrameHeader} :
      Follows flows (some earlier) { earlier with sequence := earlier.sequence + 1 }
  | anew {earlier header : FrameHeader} (zero : header.sequence = 0)
      (crowded : maxTrackedFlows < flows) : Follows flows (some earlier) header

/-- Every packet of a flow is framed, its number following that of the packet of the
flow dispatched before it; any other packet is unchanged. -/
inductive Numbered : List (Injection × PacketBuf) → Prop where
  | nil : Numbered []
  | unframed {earlier : List (Injection × PacketBuf)} {entry : Injection × PacketBuf}
      (before : Numbered earlier) (flow : entry.1.flow = none)
      (content : entry.2.asSlice = entry.1.data) : Numbered (earlier ++ [entry])
  | framed {earlier : List (Injection × PacketBuf)} {entry : Injection × PacketBuf}
      {header : FrameHeader} (before : Numbered earlier)
      (flow : entry.1.flow = some header.flowId)
      (content : FrameHeader.decode entry.2.asSlice = some (header, entry.1.data))
      (follows : Follows (flowCount (earlier ++ [entry])) (lastHeader header.flowId earlier)
        header) :
      Numbered (earlier ++ [entry])

theorem lastHeader_concat (flowId : U64) (outputs : List (Injection × PacketBuf))
    (entry : Injection × PacketBuf) :
    lastHeader flowId (outputs ++ [entry]) =
      if entry.1.flow = some flowId then headerOf entry else lastHeader flowId outputs := by
  rw [lastHeader, List.filter_append]
  by_cases same : entry.1.flow = some flowId
  · simp [same]
  · simp [same, lastHeader]

theorem mem_flows_of_lastHeader {flowId : U64} {outputs : List (Injection × PacketBuf)}
    {header : FrameHeader} (last : lastHeader flowId outputs = some header) :
    flowId ∈ outputs.filterMap fun entry => entry.1.flow := by
  obtain ⟨entry, found, _⟩ := Option.bind_eq_some_iff.mp last
  have member := List.mem_of_getLast? found
  rw [List.mem_filter, decide_eq_true_eq] at member
  exact List.mem_filterMap.mpr ⟨entry, member⟩

theorem flowCount_le_concat (outputs : List (Injection × PacketBuf))
    (entry : Injection × PacketBuf) : flowCount outputs ≤ flowCount (outputs ++ [entry]) := by
  refine Finset.card_le_card fun flowId member => ?_
  rw [List.mem_toFinset, List.filterMap_append] at *
  exact List.mem_append_left _ member

/-- The sequencer knows of every flow in its table the last number given out, and of no
other flow anything, unless there were more flows than it holds. -/
structure Remembers (outputs : List (Injection × PacketBuf)) (sequencer : FlowSequencer) :
    Prop where
  known : ∀ flowId sequence, sequencer.sequences.lookup flowId = some sequence →
    ∃ header, lastHeader flowId outputs = some header ∧
      header.senderId = sequencer.senderId ∧ header.flowId = flowId ∧
      sequence = header.sequence + 1
  unknown : ∀ flowId, sequencer.sequences.lookup flowId = none →
    lastHeader flowId outputs = none ∨ maxTrackedFlows < flowCount outputs

/-- A full table that does not know the flow means too many flows. -/
theorem Remembers.crowded {outputs : List (Injection × PacketBuf)} {sequencer : FlowSequencer}
    (remembers : Remembers outputs sequencer) {entry : Injection × PacketBuf} {flowId : U64}
    (flow : entry.1.flow = some flowId) (full : sequencer.sequences.size = maxTrackedFlows)
    (absent : flowId ∉ sequencer.sequences) :
    maxTrackedFlows < flowCount (outputs ++ [entry]) := by
  have distinct : (flowId :: sequencer.sequences.keys).Nodup :=
    List.nodup_cons.mpr ⟨fun member => absent (AList.mem_keys.mpr member), AList.keys_nodup _⟩
  have inside : (flowId :: sequencer.sequences.keys).toFinset ⊆
      ((outputs ++ [entry]).filterMap fun entry => entry.1.flow).toFinset := by
    intro other member
    rw [List.mem_toFinset, List.filterMap_append, List.mem_append]
    rcases List.mem_cons.mp (List.mem_toFinset.mp member) with rfl | old
    · exact .inr (by simp [flow])
    · obtain ⟨sequence, found⟩ := AList.lookup_isSome.mpr (AList.mem_keys.mpr old) |>
        Option.isSome_iff_exists.mp
      obtain ⟨header, last, _⟩ := remembers.known other sequence found
      exact .inl (mem_flows_of_lastHeader last)
  have counted := Finset.card_le_card inside
  rw [List.toFinset_card_of_nodup distinct, List.length_cons] at counted
  simp only [HashTable.size] at full
  rw [flowCount]
  omega

/-- What the sequencer remembers once there is room for the flow of the next packet. -/
theorem Remembers.makeRoom {outputs : List (Injection × PacketBuf)} {sequencer : FlowSequencer}
    (remembers : Remembers outputs sequencer) {entry : Injection × PacketBuf} {flowId : U64}
    (flow : entry.1.flow = some flowId) :
    (∀ other sequence, (sequencer.makeRoom flowId).sequences.lookup other = some sequence →
      ∃ header, lastHeader other outputs = some header ∧
        header.senderId = (sequencer.makeRoom flowId).senderId ∧ header.flowId = other ∧
        sequence = header.sequence + 1) ∧
    (∀ other, (sequencer.makeRoom flowId).sequences.lookup other = none →
      lastHeader other outputs = none ∨ maxTrackedFlows < flowCount (outputs ++ [entry])) := by
  rw [FlowSequencer.makeRoom]
  split
  · rename_i crowded
    have many := remembers.crowded flow crowded.1 crowded.2
    refine ⟨fun other sequence found => ?_, fun other _ => .inr many⟩
    simp at found
  · exact ⟨remembers.known, fun other absent => (remembers.unknown other absent).imp_right
      fun many => Nat.lt_of_lt_of_le many (flowCount_le_concat outputs entry)⟩

/-- The next packet of a flow follows the last one, and is remembered in its place. -/
theorem Remembers.next {outputs : List (Injection × PacketBuf)} {sequencer : FlowSequencer}
    (remembers : Remembers outputs sequencer) {entry : Injection × PacketBuf} {flowId : U64}
    (flow : entry.1.flow = some flowId)
    (header : headerOf entry = some (sequencer.nextOfFlow flowId).1) :
    Follows (flowCount (outputs ++ [entry])) (lastHeader flowId outputs)
        (sequencer.nextOfFlow flowId).1 ∧
      Remembers (outputs ++ [entry]) (sequencer.nextOfFlow flowId).2 := by
  obtain ⟨known, unknown⟩ := remembers.makeRoom flow
  rw [FlowSequencer.nextOfFlow] at header ⊢
  generalize sequencer.makeRoom flowId = room at known unknown header ⊢
  dsimp only at header ⊢
  refine ⟨?_, fun other sequence found => ?_, fun other absent => ?_⟩
  · cases found : room.sequences.lookup flowId with
    | some sequence =>
        obtain ⟨earlier, last, sender, sameFlow, rfl⟩ := known flowId sequence found
        rw [last, Option.getD_some, ← sender, ← sameFlow]
        exact .counts
    | none =>
        cases last : lastHeader flowId outputs with
        | none => exact .begins rfl
        | some earlier =>
            refine .anew rfl ((unknown flowId found).resolve_left fun nothing => ?_)
            rw [last] at nothing
            exact absurd nothing (by simp)
  · by_cases same : other = flowId
    · subst same
      rw [AList.lookup_insert, Option.some.injEq] at found
      rw [lastHeader_concat, if_pos flow]
      exact ⟨_, header, rfl, rfl, found.symm⟩
    · rw [AList.lookup_insert_ne same] at found
      rw [lastHeader_concat, if_neg fun equal =>
        same (Option.some.inj (equal.symm.trans flow))]
      exact known other sequence found
  · have different : other ≠ flowId := by
      rintro rfl
      rw [AList.lookup_insert] at absent
      exact absurd absent (by simp)
    rw [AList.lookup_insert_ne different] at absent
    rw [lastHeader_concat, if_neg fun equal =>
      different (Option.some.inj (equal.symm.trans flow))]
    exact unknown other absent

/-- A packet of no flow changes nothing. -/
theorem Remembers.unframed {outputs : List (Injection × PacketBuf)} {sequencer : FlowSequencer}
    (remembers : Remembers outputs sequencer) {entry : Injection × PacketBuf}
    (flow : entry.1.flow = none) : Remembers (outputs ++ [entry]) sequencer := by
  have same (flowId : U64) : lastHeader flowId (outputs ++ [entry]) = lastHeader flowId outputs := by
    rw [lastHeader_concat, flow, if_neg (by simp)]
  refine ⟨fun flowId sequence found => ?_, fun flowId absent => ?_⟩
  · rw [same]
    exact remembers.known flowId sequence found
  · rw [same]
    exact (remembers.unknown flowId absent).imp_right
      fun many => Nat.lt_of_lt_of_le many (flowCount_le_concat outputs entry)

/-- Framing an intact packet numbers it. -/
theorem Numbered.step {outputs : List (Injection × PacketBuf)} {sequencer next : FlowSequencer}
    (numbered : Numbered outputs) (remembers : Remembers outputs sequencer) {mark : Injection}
    {packet sent : PacketBuf} (content : packet.asSlice = mark.data)
    (start : packet.start = packetHeadroom)
    (framed : frameOutboundPacket sequencer packet = (next, sent, true)) :
    Numbered (outputs ++ [(mark, sent)]) ∧ Remembers (outputs ++ [(mark, sent)]) next := by
  cases flow : tcpFlowId packet.asSlice with
  | none =>
      rw [frameOutboundPacket_of_none flow] at framed
      obtain ⟨rfl, rfl⟩ : sequencer = next ∧ packet = sent := by simpa using framed
      rw [content] at flow
      exact ⟨.unframed numbered flow content, remembers.unframed flow⟩
  | some flowId =>
      have headroom : frameLen ≤ packet.start := by
        rw [start]
        decide
      obtain ⟨wrapped, result, bytes, -⟩ := @frameOutboundPacket_of_some sequencer packet flowId flow
        headroom
      rw [framed] at result
      obtain ⟨rfl, rfl⟩ : next = (sequencer.nextOfFlow flowId).2 ∧ sent = wrapped := by
        simpa using result
      have decoded := (sequencer.nextOfFlow flowId).1.decode_bytes_append packet.asSlice
      rw [← bytes, content] at decoded
      rw [content] at flow
      have header : headerOf (mark, sent) = some (sequencer.nextOfFlow flowId).1 := by
        rw [headerOf, decoded]
        rfl
      have ofFlow : (mark, sent).1.flow = some flowId := flow
      obtain ⟨follows, remembered⟩ := remembers.next ofFlow header
      exact ⟨.framed numbered ofFlow decoded follows, remembered⟩

/-- A TCP segment from 10.0.0.1 to port 80 of 10.0.0.2. -/
def tcpSegment (payload : List U8) : List U8 :=
  [0x45, 0] ++ beBytes 2 (40 + payload.length) ++
    [0, 0, 0, 0, 64, 6, 0, 0, 10, 0, 0, 1, 10, 0, 0, 2] ++
    [0x12, 0x34, 0, 80, 0, 0, 0, 1, 0, 0, 0, 0, 0x50, 0x18, 0, 0, 0, 0, 0, 0] ++ payload

/-- A long segment goes to the bulk queue, the short one behind it to the latency
queue, which is popped first. -/
def overtakingRun : List (UplinkEvent Unit) :=
  let storage : Storage := .zero
  [.inject () (tcpSegment (List.replicate 128 1)) (some storage),
    .inject () (tcpSegment [2]) (some storage), .read, .read, .read]

end Uplink

end Csqtt
