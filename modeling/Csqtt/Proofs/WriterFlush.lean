/-
Module: Csqtt.Proofs.WriterFlush
Purpose: What one flush offers to the network: its packets in their order, the duplicate of a
  packet right behind it, and consecutive sequence numbers on them.
Trusted boundary: none
Main exports: Turn, preparedTurns, Transmits, preparedTurns_numbered, Flushed,
  flushQueuedData_flushed
-/
import Csqtt.Proofs.ChannelDataRoundTrip
import Csqtt.Proofs.SocketSends

namespace Csqtt

/-!
### The turn of a packet
-/

/-- A packet with what it is wrapped as, and whether it is chosen to be sent twice. -/
structure Turn where
  packet : PacketBuf
  wrapped : PacketBuf
  chosen : Bool

def Turn.datagram (turn : Turn) (channel : U16) : List U8 :=
  (encodeChannelData turn.wrapped channel).1.asSlice

/-- What is offered in a turn: the packet, which is taken, and right behind it the duplicate, if
there is to be one on a socket. -/
def Turn.tries (network : Network) (channel : U16) (turn : Turn) (taken : Bool) :
    List (List U8 × Bool) :=
  (turn.datagram channel, true) ::
    if turn.chosen = true ∧ network.outbound = .udp then [(turn.datagram channel, taken)] else []

section Turns

variable {Rng : Type*} {network : Network} {shared : TransportShared Rng} {channel : U16}
  {turns more waiting : List Turn} {first second tries : List (List U8 × Bool)} {whole : Bool}

/-- The turns of some packets, up to the first that cannot be wrapped. -/
def preparedTurns (shared : TransportShared Rng) :
    List (Reading × PacketBuf) → TransportWriter Rng → List Turn
  | [], _ => []
  | (reading, packet) :: pending, writer =>
      let prepared := writer.preparePacket shared reading packet
      match prepared.2 with
      | .error _ => []
      | .ok chosen =>
          { packet := packet, wrapped := prepared.1.2, chosen := chosen } ::
            preparedTurns shared pending prepared.1.1

/-- Some turns are offered in their order, each with its duplicate. Where the sending breaks off,
the last datagram offered may be the refused one of the next turn. -/
inductive Transmits (network : Network) (channel : U16) (turns : List Turn) :
    Bool → List (List U8 × Bool) → Prop where
  | whole (answers : List (Turn × Bool)) (all : answers.map (·.1) = turns) :
      Transmits network channel turns true
        (answers.flatMap fun answer => answer.1.tries network channel answer.2)
  | part (answers : List (Turn × Bool)) (refused : Option Turn)
      (begins : answers.map (·.1) ++ refused.toList <+: turns) :
      Transmits network channel turns false
        ((answers.flatMap fun answer => answer.1.tries network channel answer.2) ++
          refused.toList.map fun turn => (turn.datagram channel, false))

/-- Nothing at all has been offered. -/
theorem Transmits.nothing : Transmits network channel turns false [] :=
  .part [] none (List.nil_prefix)

theorem Transmits.nil : Transmits network channel [] true [] := .whole [] rfl

theorem Transmits.append (one : Transmits network channel turns true first)
    (other : Transmits network channel more whole second) :
    Transmits network channel (turns ++ more) whole (first ++ second) := by
  cases one with
  | whole answers all =>
      cases other with
      | whole answersToo allToo =>
          rw [← List.flatMap_append]
          refine .whole (answers ++ answersToo) ?_
          rw [List.map_append, all, allToo]
      | part answersToo refused begins =>
          rw [← List.append_assoc, ← List.flatMap_append]
          refine .part (answers ++ answersToo) refused ?_
          rw [List.map_append, all, List.append_assoc]
          exact (List.prefix_append_right_inj turns).mpr begins

theorem Transmits.fails (one : Transmits network channel turns false first) :
    Transmits network channel (turns ++ more) false first := by
  cases one with
  | part answers refused begins =>
      exact .part answers refused (begins.trans (List.prefix_append turns more))

/-- Turns without a duplicate are what their datagrams are. -/
theorem Fares.transmits (plain : ∀ turn ∈ waiting, turn.chosen = false)
    (fares : Fares (waiting.map (·.datagram channel)) whole tries) :
    Transmits network channel waiting whole tries := by
  have single : ∀ turns : List Turn, (∀ turn ∈ turns, turn.chosen = false) →
      ((turns.map (·, true)).flatMap fun answer => answer.1.tries network channel answer.2) =
        (turns.map (·.datagram channel)).map (·, true) := by
    intro turns plain
    induction turns with
    | nil => rfl
    | cons turn turns inductionHypothesis =>
        have here := plain turn List.mem_cons_self
        rw [List.map_cons, List.flatMap_cons,
          inductionHypothesis fun other inside => plain other (List.mem_cons_of_mem _ inside)]
        simp [Turn.tries, here]
  generalize offered : waiting.map (·.datagram channel) = datagrams at fares
  cases fares with
  | whole =>
      rw [← offered, ← single waiting plain]
      refine .whole (waiting.map (·, true)) ?_
      rw [List.map_map]
      exact List.map_id waiting
  | part before datagram behind =>
      obtain ⟨early, rest, rfl, rfl, others⟩ := List.map_eq_append_iff.mp offered
      obtain ⟨turn, late, rfl, rfl, _⟩ := List.map_eq_cons_iff.mp others
      rw [← single early fun turn inside => plain turn (List.mem_append_left _ inside)]
      refine .part (early.map (·, true)) (some turn) ?_
      rw [List.map_map]
      have same : early.map ((·.1) ∘ (·, true)) = early := List.map_id early
      rw [same]
      refine ⟨late, ?_⟩
      simp

end Turns

/-!
### Sequence numbers
-/

section Prepared

variable {Rng : Type*} {shared : TransportShared Rng}

/-- The sequence number in the header of a wrapped packet. -/
def rtpSequence (wire : List U8) : U16 :=
  BitVec.ofNat 16 (beValue (wire.extract 2 4))

theorem rtpSequence_of_nonce {wire : List U8} {ssrc : U32} {sequence : U16} {timestamp : U32}
    (carried : wireNonce wire = nonce ssrc sequence timestamp) : rtpSequence wire = sequence := by
  simp only [wireNonce, nonce, List.append_assoc] at carried
  obtain ⟨_, rest⟩ := List.append_inj carried (by simp)
  obtain ⟨numbers, _⟩ := List.append_inj rest (by simp)
  exact BitVec.eq_of_toNat_eq
    (beBytes_injective (BitVec.isLt _) sequence.isLt numbers)

/-- A wrapped packet is its packet under encryption, with the sequence number that is its turn's. -/
structure Turn.Numbered (shared : TransportShared Rng) (sequence : U16) (turn : Turn) : Prop where
  sequence_eq : rtpSequence turn.wrapped.asSlice = sequence
  encrypted : ProtectedUnder shared.cipher shared.config.mode turn.packet.asSlice
    turn.wrapped.asSlice
  chosen : turn.chosen = true → shared.fecEnabled = true ∧
    shouldDuplicate turn.packet.asSlice = true

theorem preparePacket_numbered {writer prepared : TransportWriter Rng} {reading : Reading}
    {packet wrapped : PacketBuf} {chosen : Bool}
    (prepares : writer.preparePacket shared reading packet = ((prepared, wrapped), .ok chosen)) :
    Turn.Numbered shared
        (writer.writeState.initialSequence + writer.writeState.count.setWidth 16)
        { packet := packet, wrapped := wrapped, chosen := chosen } ∧
      prepared.writeState.initialSequence = writer.writeState.initialSequence ∧
      prepared.writeState.count = writer.writeState.count + 1 := by
  obtain ⟨sequence, _, count⟩ := wrap_state shared.cipher shared.random shared.config
    writer.writeState reading.elapsed packet
  rw [TransportWriter.preparePacket] at prepares
  cases wraps : (wrap shared.cipher shared.random shared.config writer.writeState reading.elapsed
      packet).2 with
  | error error =>
      simp only [wraps] at prepares
      cases prepares
  | ok done =>
      obtain ⟨some, carried, encrypted⟩ := wrap_ok wraps
      simp only [wraps] at prepares
      cases prepares
      refine ⟨⟨rtpSequence_of_nonce carried, encrypted, ?_⟩, sequence, ?_⟩
      · intro chosen
        by_cases wanted : (shared.fecEnabled && shouldDuplicate packet.asSlice) = true
        · exact Bool.and_eq_true_iff.mp wanted
        · rw [if_neg wanted] at chosen
          cases chosen
      · rw [count, some]
        rfl

/-- The turns are those of the packets in their order, with consecutive sequence numbers. -/
theorem preparedTurns_numbered {pending : List (Reading × PacketBuf)}
    {writer : TransportWriter Rng} {index : Nat} {turn : Turn}
    (listed : (preparedTurns shared pending writer)[index]? = some turn) :
    (pending.map (·.2))[index]? = some turn.packet ∧
      turn.Numbered shared (writer.writeState.initialSequence +
        (writer.writeState.count + BitVec.ofNat 64 index).setWidth 16) := by
  induction pending generalizing writer index with
  | nil => cases listed
  | cons entry pending inductionHypothesis =>
      obtain ⟨reading, packet⟩ := entry
      rw [preparedTurns] at listed
      generalize made : writer.preparePacket shared reading packet = prepared at listed
      obtain ⟨⟨prepared, wrapped⟩, answer⟩ := prepared
      cases answer with
      | error error => cases listed
      | ok chosen =>
          obtain ⟨first, sequence, count⟩ := preparePacket_numbered made
          cases index with
          | zero =>
              cases listed
              refine ⟨rfl, ?_⟩
              rw [BitVec.add_zero]
              exact first
          | succ index =>
              obtain ⟨same, numbered⟩ := inductionHypothesis listed
              rw [sequence, count] at numbered
              refine ⟨same, ?_⟩
              rw [Nat.add_comm index 1, BitVec.ofNat_add, ← BitVec.add_assoc]
              exact numbered

/-- Nothing but the state and the budget of a writer decides how packets are prepared. -/
theorem preparedTurns_congr {writer other : TransportWriter Rng}
    (state : other.writeState = writer.writeState) (budget : other.fecBudget = writer.fecBudget)
    (pending : List (Reading × PacketBuf)) :
    preparedTurns shared pending other = preparedTurns shared pending writer := by
  induction pending generalizing writer other with
  | nil => rfl
  | cons entry pending inductionHypothesis =>
      obtain ⟨reading, packet⟩ := entry
      have wrapped : (other.preparePacket shared reading packet).1.2 =
          (writer.preparePacket shared reading packet).1.2 := by
        simp only [TransportWriter.preparePacket, state]
      have answer : (other.preparePacket shared reading packet).2 =
          (writer.preparePacket shared reading packet).2 := by
        simp only [TransportWriter.preparePacket, state, budget]
      have rest := @inductionHypothesis (writer.preparePacket shared reading packet).1.1
        (other.preparePacket shared reading packet).1.1
        (by simp only [TransportWriter.preparePacket, state])
        (by simp only [TransportWriter.preparePacket, budget])
      rw [preparedTurns, preparedTurns, wrapped, answer, rest]

end Prepared

/-!
### A flush
-/

section Flush

variable {Rng : Type*} {network : Network} {shared : TransportShared Rng}
  {start : SocketWriter Rng} {waiting : List Turn}

/-- What is offered for some turns, and that the writer has no error then. -/
def Flushed (network : Network) (shared : TransportShared Rng) (start : SocketWriter Rng)
    (turns : List Turn) (result : SocketWriter Rng × Except String Unit) : Prop :=
  ∃ tries, Transmits network shared.allocation.channel turns result.2.isOk tries ∧
    Puts network start result.1 tries

theorem Flushed.refused (error : String) (turns : List Turn) :
    Flushed network shared start turns (start, .error error) :=
  ⟨[], .nothing, .refl start⟩

theorem Flushed.then {turns more : List Turn} {middle : SocketWriter Rng}
    {result : SocketWriter Rng × Except String Unit}
    (one : Flushed network shared start turns (middle, .ok ()))
    (other : Flushed network shared middle more result) :
    Flushed network shared start (turns ++ more) result := by
  obtain ⟨first, transmits, puts⟩ := one
  obtain ⟨second, transmitsToo, putsToo⟩ := other
  exact ⟨first ++ second, transmits.append transmitsToo, puts.trans putsToo⟩

theorem Flushed.fails {turns more : List Turn} {middle : SocketWriter Rng} {error : String}
    (one : Flushed network shared start turns (middle, .error error)) :
    Flushed network shared start (turns ++ more) (middle, .error error) := by
  obtain ⟨first, transmits, puts⟩ := one
  exact ⟨first, transmits.fails, puts⟩

theorem SocketWriter.preparePacket_puts (reading : Reading) (packet : PacketBuf) :
    Puts network start (start.preparePacket shared reading packet).1.1 [] where
  offered := (List.append_nil _).symm
  sent := (List.append_nil _).symm
  later := Nat.le_refl _
  refused := by
    intro entry inside
    cases inside

theorem Flushed.prepared {turns : List Turn} {reading : Reading} {packet : PacketBuf}
    {result : SocketWriter Rng × Except String Unit}
    (flushed :
      Flushed network shared (start.preparePacket shared reading packet).1.1 turns result) :
    Flushed network shared start turns result := by
  obtain ⟨tries, transmits, puts⟩ := flushed
  exact ⟨tries, transmits, (SocketWriter.preparePacket_puts reading packet).trans puts⟩

/-- A batch that passes is the datagrams of its packets. -/
theorem sendDataBatchInPlace_datagrams {allocation : Allocation} {packets : List PacketBuf}
    {datagrams : List (List U8)}
    (passes : (allocation.sendDataBatchInPlace packets).2 = .ok datagrams) :
    datagrams = packets.map fun packet =>
      (encodeChannelData packet allocation.channel).1.asSlice := by
  rw [Allocation.sendDataBatchInPlace] at passes
  split at passes
  · next empty =>
      cases passes
      rw [List.isEmpty_iff.mp empty]
      rfl
  · cases bound : allocation.bound with
    | error error =>
        rw [bound] at passes
        cases passes
    | ok _ =>
        cases checked : validateBatch allocation.channel packets with
        | error error =>
            simp only [bound, checked] at passes
            cases passes
        | ok _ =>
            simp only [bound, checked,
              encodeInPlace_of_fits (validateBatch_ok_iff.mp checked)] at passes
            cases passes
            rw [List.map_map]
            rfl

theorem sendWithDuplicate_datagrams {allocation : Allocation} {packet : PacketBuf}
    {datagrams : List (List U8)}
    (passes : allocation.sendWithDuplicate packet false = .ok datagrams) :
    datagrams = [(encodeChannelData packet allocation.channel).1.asSlice] := by
  rw [Allocation.sendWithDuplicate, Allocation.encoded] at passes
  cases bound : allocation.bound with
  | error error =>
      rw [bound] at passes
      cases passes
  | ok _ =>
      rw [bound] at passes
      cases encoded : (encodeChannelData packet allocation.channel).2 with
      | error error =>
          simp only [encoded] at passes
          cases passes
      | ok _ =>
          simp only [encoded] at passes
          cases passes
          rfl

namespace SocketWriter

/-- The packets that wait go out in their order. -/
theorem flushMmsgData_flushed (network : Network)
    (data : start.mmsgData = waiting.map (·.wrapped))
    (plain : ∀ turn ∈ waiting, turn.chosen = false) :
    Flushed network shared start waiting (start.flushMmsgData network shared) ∧
      ((start.flushMmsgData network shared).2 = .ok () →
        (start.flushMmsgData network shared).1.mmsgData = []) ∧
      (start.flushMmsgData network shared).1.writeState = start.writeState ∧
      (start.flushMmsgData network shared).1.fecBudget = start.fecBudget := by
  rw [flushMmsgData]
  by_cases empty : start.mmsgData.isEmpty = true
  · rw [if_pos empty]
    have none := List.isEmpty_iff.mp empty
    rw [none, List.nil_eq, List.map_eq_nil_iff] at data
    rw [data]
    exact ⟨⟨[], .nil, .refl start⟩, fun _ => none, rfl, rfl⟩
  · rw [if_neg empty]
    cases passes : (shared.allocation.sendDataBatchInPlace start.mmsgData).2 with
    | error error =>
        have same := sendDataBatchInPlace_refused passes
        simp only [passes, same]
        refine ⟨.refused error waiting, ?_, trivial, trivial⟩
        intro impossible
        cases impossible
    | ok datagrams =>
        have offered := sendDataBatchInPlace_datagrams passes
        rw [data, List.map_map] at offered
        obtain ⟨tries, fares, puts, same⟩ := sendDatagrams_sends network datagrams start
        generalize sends : sendDatagrams network datagrams start = result at fares puts same
        obtain ⟨sent, taken⟩ := result
        rw [offered] at fares
        have transmits : Transmits network shared.allocation.channel waiting taken tries :=
          fares.transmits plain
        have kept : ∀ left, Puts network start { sent with mmsgData := left } tries :=
          fun _ => ⟨puts.offered, puts.sent, puts.later, puts.refused⟩
        cases taken with
        | true =>
            simp only [passes, sends]
            exact ⟨⟨tries, transmits, kept _⟩, fun _ => trivial, same.writeState, same.fecBudget⟩
        | false =>
            simp only [passes, sends]
            refine ⟨⟨tries, transmits, kept _⟩, ?_, same.writeState, same.fecBudget⟩
            intro impossible
            cases impossible

/-- A packet goes out, and its duplicate right behind it. -/
theorem sendWithDuplicate_flushed (network : Network) (turn : Turn) :
    Flushed network shared start [turn]
        (start.sendWithDuplicate network shared turn.wrapped turn.chosen) ∧
      SameState start (start.sendWithDuplicate network shared turn.wrapped turn.chosen).1 := by
  rw [sendWithDuplicate]
  cases passes : shared.allocation.sendWithDuplicate turn.wrapped false with
  | error error => exact ⟨.refused error [turn], .refl start⟩
  | ok datagrams =>
      obtain rfl := sendWithDuplicate_datagrams passes
      have datagram : (encodeChannelData turn.wrapped shared.allocation.channel).1.asSlice =
          turn.datagram shared.allocation.channel := rfl
      rw [datagram]
      have one := sendEach_sends network [turn.datagram shared.allocation.channel] start
      generalize sends : sendEach network [turn.datagram shared.allocation.channel] start = result
        at one
      obtain ⟨sent, taken⟩ := result
      obtain ⟨first, fares, puts, same⟩ := one
      obtain rfl := fares.single
      simp only [sends]
      cases taken with
      | false =>
          exact ⟨⟨_, .part [] (some turn) (List.prefix_refl [turn]), puts⟩, same⟩
      | true =>
          have alone : ∀ taken, turn.chosen = false ∨ network.outbound = .stream →
              turn.tries network shared.allocation.channel taken =
                [(turn.datagram shared.allocation.channel, true)] := by
            rintro taken (plain | stream)
            · simp [Turn.tries, plain]
            · simp [Turn.tries, stream]
          have once : turn.chosen = false ∨ network.outbound = .stream →
              Transmits network shared.allocation.channel [turn] true
                [(turn.datagram shared.allocation.channel, true)] := by
            intro single
            have whole := @Transmits.whole network shared.allocation.channel _ [(turn, true)] rfl
            rwa [List.flatMap_singleton, alone true single] at whole
          cases chosen : turn.chosen with
          | false => exact ⟨⟨_, once (.inl chosen), puts⟩, same⟩
          | true =>
              cases outbound : network.outbound with
              | stream => exact ⟨⟨_, once (.inr outbound), puts⟩, same⟩
              | udp =>
                  obtain ⟨second, faresToo, putsToo, sameToo⟩ :=
                    sendEach_sends network [turn.datagram shared.allocation.channel] sent
                  obtain rfl := faresToo.single
                  have whole := @Transmits.whole network shared.allocation.channel _
                    [(turn, (sendEach network [turn.datagram shared.allocation.channel] sent).2)]
                    rfl
                  rw [List.flatMap_singleton, Turn.tries, if_pos ⟨chosen, outbound⟩] at whole
                  exact ⟨⟨_, whole, puts.trans putsToo⟩, same.trans sameToo⟩

/-- A writer that has nothing waiting any more, or as many turns as it had packets. -/
def Done (shared : TransportShared Rng) (start : SocketWriter Rng)
    (pending : List (Reading × PacketBuf)) (result : SocketWriter Rng × Except String Unit) :
    Prop :=
  result.2 = .ok () → result.1.mmsgData = [] ∧
    (preparedTurns shared pending start.toTransportWriter).length = pending.length

theorem preparedTurns_of_ok {reading : Reading} {packet : PacketBuf} {chosen : Bool}
    (prepares : (start.preparePacket shared reading packet).2 = .ok chosen)
    (pending : List (Reading × PacketBuf)) :
    preparedTurns shared ((reading, packet) :: pending) start.toTransportWriter =
      ⟨packet, (start.preparePacket shared reading packet).1.2, chosen⟩ ::
        preparedTurns shared pending
          (start.preparePacket shared reading packet).1.1.toTransportWriter := by
  have answer : (start.toTransportWriter.preparePacket shared reading packet).2 = .ok chosen :=
    prepares
  rw [preparedTurns, answer]
  rfl

theorem preparedTurns_of_error {reading : Reading} {packet : PacketBuf} {error : String}
    (refuses : (start.preparePacket shared reading packet).2 = .error error)
    (pending : List (Reading × PacketBuf)) :
    preparedTurns shared ((reading, packet) :: pending) start.toTransportWriter = [] := by
  have answer : (start.toTransportWriter.preparePacket shared reading packet).2 = .error error :=
    refuses
  rw [preparedTurns, answer]

/-- Where a packet leaves the writer: some turns are gone, the rest waits. -/
structure Queued (prepared after : SocketWriter Rng) (left : List Turn) : Prop where
  data : after.mmsgData = left.map (·.wrapped)
  plain : ∀ turn ∈ left, turn.chosen = false
  writeState : after.writeState = prepared.writeState
  fecBudget : after.fecBudget = prepared.fecBudget

/-- What one packet of the loop comes to. -/
theorem flushPacket_flushed (network : Network) (limit : Nat) {reading : Reading}
    {packet : PacketBuf} {chosen : Bool}
    (prepares : (start.preparePacket shared reading packet).2 = .ok chosen)
    (data : start.mmsgData = waiting.map (·.wrapped))
    (plain : ∀ turn ∈ waiting, turn.chosen = false) {turn : Turn}
    (own : turn = ⟨packet, (start.preparePacket shared reading packet).1.2, chosen⟩) :
    ∃ gone left, waiting ++ [turn] = gone ++ left ∧
      Flushed network shared start gone
        (start.flushPacket network shared limit reading packet) ∧
      ((start.flushPacket network shared limit reading packet).2 = .ok () →
        Queued (start.preparePacket shared reading packet).1.1
          (start.flushPacket network shared limit reading packet).1 left) := by
  have ready : (start.preparePacket shared reading packet).1.1.mmsgData =
      waiting.map (·.wrapped) := data
  rw [flushPacket]
  cases chosen with
  | true =>
      obtain ⟨flushed, emptied, state, budget⟩ :=
        @flushMmsgData_flushed _ shared _ waiting network ready plain
      simp only [prepares]
      generalize flushMmsgData network shared (start.preparePacket shared reading packet).1.1 =
        result at flushed emptied state budget ⊢
      obtain ⟨middle, answer⟩ := result
      refine ⟨waiting ++ [turn], [], (List.append_nil _).symm, ?_, ?_⟩
      · cases answer with
        | error error => exact flushed.fails.prepared
        | ok _ =>
            obtain ⟨sends, _⟩ := @sendWithDuplicate_flushed _ shared middle network turn
            rw [own] at sends ⊢
            exact (flushed.then sends).prepared
      · cases answer with
        | error error =>
            intro impossible
            cases impossible
        | ok _ =>
            intro _
            obtain ⟨_, same⟩ := @sendWithDuplicate_flushed _ shared middle network turn
            rw [own] at same
            constructor
            · exact same.mmsgData.trans (emptied rfl)
            · intro turn inside
              cases inside
            · exact same.writeState.trans state
            · exact same.fecBudget.trans budget
  | false =>
      have longer : ∀ other ∈ waiting ++ [turn], other.chosen = false := by
        intro other inside
        rcases List.mem_append.mp inside with early | last
        · exact plain other early
        · rw [List.mem_singleton.mp last, own]
      have queued : (start.preparePacket shared reading packet).1.1.mmsgData ++
          [(start.preparePacket shared reading packet).1.2] =
            (waiting ++ [turn]).map (·.wrapped) := by
        rw [ready, List.map_append, own]
        rfl
      have puts : Puts network start (start.preparePacket shared reading packet).1.1 [] :=
        preparePacket_puts reading packet
      have still : Puts network start { (start.preparePacket shared reading packet).1.1 with
          mmsgData := (start.preparePacket shared reading packet).1.1.mmsgData ++
            [(start.preparePacket shared reading packet).1.2] } [] :=
        ⟨puts.offered, puts.sent, puts.later, puts.refused⟩
      simp only [prepares]
      split
      · obtain ⟨⟨tries, transmits, puts⟩, emptied, state, budget⟩ :=
          @flushMmsgData_flushed _ shared
            { (start.preparePacket shared reading packet).1.1 with
              mmsgData := (start.preparePacket shared reading packet).1.1.mmsgData ++
                [(start.preparePacket shared reading packet).1.2] }
            (waiting ++ [turn]) network queued longer
        refine ⟨waiting ++ [turn], [], (List.append_nil _).symm, ⟨tries, transmits, ?_⟩, ?_⟩
        · exact still.trans puts
        · intro passes
          constructor
          · exact emptied passes
          · intro turn inside
            cases inside
          · exact state
          · exact budget
      · exact ⟨[], waiting ++ [turn], rfl, ⟨[], .nil, still⟩, fun _ => ⟨queued, longer, rfl, rfl⟩⟩

/-- By induction on the packets: those that wait go in front of all that follow. -/
theorem flushLoop_flushed (network : Network) (limit : Nat) (pending : List (Reading × PacketBuf))
    (data : start.mmsgData = waiting.map (·.wrapped))
    (plain : ∀ turn ∈ waiting, turn.chosen = false) :
    Flushed network shared start
        (waiting ++ preparedTurns shared pending start.toTransportWriter)
        (flushLoop network shared limit pending start) ∧
      Done shared start pending (flushLoop network shared limit pending start) := by
  induction pending generalizing start waiting with
  | nil =>
      obtain ⟨flushed, emptied, _⟩ :=
        @flushMmsgData_flushed _ shared start waiting network data plain
      rw [flushLoop, preparedTurns, List.append_nil]
      exact ⟨flushed, fun done => ⟨emptied done, rfl⟩⟩
  | cons entry pending inductionHypothesis =>
      obtain ⟨reading, packet⟩ := entry
      rw [flushLoop]
      cases prepares : (start.preparePacket shared reading packet).2 with
      | error error =>
          rw [preparedTurns_of_error prepares, flushPacket]
          simp only [prepares]
          refine ⟨.prepared (.refused error _), ?_⟩
          intro impossible
          cases impossible
      | ok chosen =>
          obtain ⟨gone, left, split, flushed, queued⟩ :=
            flushPacket_flushed network limit prepares data plain rfl
          have turns := preparedTurns_of_ok prepares pending
          have order : waiting ++
              preparedTurns shared ((reading, packet) :: pending) start.toTransportWriter =
                gone ++ (left ++ preparedTurns shared pending
                  (start.preparePacket shared reading packet).1.1.toTransportWriter) := by
            rw [turns, ← List.append_assoc gone, ← split, List.append_assoc]
            rfl
          rw [order]
          generalize start.flushPacket network shared limit reading packet = result
            at flushed queued ⊢
          obtain ⟨after, answer⟩ := result
          cases answer with
          | error error =>
              refine ⟨flushed.fails, ?_⟩
              intro impossible
              cases impossible
          | ok _ =>
              obtain ⟨data, plain, state, budget⟩ := queued rfl
              have same := @preparedTurns_congr _ shared
                (start.preparePacket shared reading packet).1.1.toTransportWriter
                after.toTransportWriter state budget pending
              obtain ⟨rest, done⟩ := inductionHypothesis data plain
              rw [same] at rest
              refine ⟨flushed.then rest, ?_⟩
              intro passes
              obtain ⟨emptied, all⟩ := done passes
              rw [same] at all
              rw [turns, List.length_cons, List.length_cons, all]
              exact ⟨emptied, rfl⟩

theorem flushQueuedData_flushed (network : Network) (limit : Nat)
    (pending : List (Reading × PacketBuf)) (empty : start.mmsgData = []) :
    Flushed network shared start (preparedTurns shared pending start.toTransportWriter)
        (start.flushQueuedData network shared limit pending) ∧
      Done shared start pending (start.flushQueuedData network shared limit pending) := by
  have looped := @flushLoop_flushed _ shared start [] network limit pending empty (by
    intro turn inside
    cases inside)
  unfold flushQueuedData
  split
  · next reading packet =>
      rw [sendPacket]
      cases prepares : (start.preparePacket shared reading packet).2 with
      | error error =>
          rw [preparedTurns_of_error prepares]
          refine ⟨.prepared (.refused error _), ?_⟩
          intro impossible
          cases impossible
      | ok chosen =>
          obtain ⟨sends, same⟩ := @sendWithDuplicate_flushed _ shared
            (start.preparePacket shared reading packet).1.1 network
            ⟨packet, (start.preparePacket shared reading packet).1.2, chosen⟩
          rw [preparedTurns_of_ok prepares]
          refine ⟨sends.prepared, ?_⟩
          intro _
          refine ⟨same.mmsgData.trans empty, ?_⟩
          rw [preparedTurns_of_ok prepares]
          rfl
  · exact looped

end SocketWriter

end Flush

end Csqtt
