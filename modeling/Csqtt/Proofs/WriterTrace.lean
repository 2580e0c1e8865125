/-
Module: Csqtt.Proofs.WriterTrace
Purpose: All that a writer has put on the network in a run: datagrams of its packets in their
  order, under rising numbers, each of which is unwrapped to its packet again.
Trusted boundary: the ciphers are correct
Main exports: SentPacket, TrustedTransport, FlushSent, flush_sent, Spread, WriterTraced, traced_run
-/
import Csqtt.Proofs.RtpReplay
import Csqtt.Proofs.UplinkTotality
import Csqtt.Proofs.WriterRun
import Mathlib.Data.List.Chain

namespace Csqtt

open scoped List

/-!
### What the writer puts on the network
-/

/-- A packet that a writer has wrapped and sent: the number it was given, whether it came from a
queue or with a command, whether its duplicate was taken as well, and what it was wrapped as. -/
structure SentPacket where
  number : Nat
  queued : Bool
  twice : Bool
  packet : PacketBuf
  wrapped : PacketBuf

namespace SentPacket

def datagram (self : SentPacket) (channel : U16) : List U8 :=
  (encodeChannelData self.wrapped channel).1.asSlice

def datagrams (self : SentPacket) (channel : U16) : List (List U8) :=
  if self.twice then [self.datagram channel, self.datagram channel] else [self.datagram channel]

/-- The counter whose low bits a reader sees. -/
def counter (initialSequence : U16) (self : SentPacket) : U64 :=
  BitVec.ofNat 64 (initialSequence.toNat + self.number)

/-- Whatever arrives of it is unwrapped to the packet again, and it makes a message. -/
structure Opens (cipher : OpeningCipher) (mode : ObfsMode) (initialSequence : U16)
    (channel : U16) (written : SentPacket) : Prop where
  opens : ∀ received : PacketBuf, received.asSlice = written.wrapped.asSlice →
    ∃ opened, unwrap cipher received mode =
        (opened, .ok (ReplayWindow.sequenceOf (written.counter initialSequence))) ∧
      opened.asSlice = written.packet.asSlice
  fits : written.wrapped.Fits channel

end SentPacket

section Prepare

variable {Rng : Type*} {cipher : OpeningCipher} {mode : ObfsMode} {ssrc : U32}
  {shared : TransportShared Rng} {initialSequence : U16}

/-- The transport wraps under a correct cipher, and its allocation serves. -/
structure TrustedTransport (cipher : OpeningCipher) (mode : ObfsMode) (ssrc : U32)
    (shared : TransportShared Rng) : Prop where
  correct : cipher.Correct
  cipher_eq : shared.cipher = cipher.toObfsCipher
  config_eq : shared.config = .new mode ssrc
  serves : shared.allocation.Serves

theorem sequenceOf_counter (number : Nat) :
    ReplayWindow.sequenceOf (BitVec.ofNat 64 (initialSequence.toNat + number)) =
      initialSequence + (BitVec.ofNat 64 number).setWidth 16 := by
  apply BitVec.eq_of_toNat_eq
  rw [ReplayWindow.sequenceOf, BitVec.toNat_setWidth, BitVec.toNat_ofNat, BitVec.toNat_add,
    BitVec.toNat_setWidth, BitVec.toNat_ofNat]
  omega

/-- What a state says about the packets wrapped so far. -/
structure SendCounts (initialSequence : U16) (next : Nat) (state : ObfsState Rng) : Prop where
  initial : state.initialSequence = initialSequence
  count : state.count = BitVec.ofNat 64 next

theorem SendCounts.wrap {state : ObfsState Rng} {next : Nat}
    (counts : SendCounts initialSequence next state) (cipher : ObfsCipher)
    (random : RandomSource Rng) (config : ObfsConfig) (elapsed : Duration) {packet : PacketBuf}
    (some : packet.isEmpty = false) :
    SendCounts initialSequence (next + 1) (wrap cipher random config state elapsed packet).1.1 := by
  obtain ⟨initial, -, count⟩ := wrap_state cipher random config state elapsed packet
  constructor
  · exact initial.trans counts.initial
  · rw [count, some, counts.count, BitVec.ofNat_add]
    rfl

/-- A packet that is prepared is sent so that it can be read. -/
theorem preparePacket_opens (trusted : TrustedTransport cipher mode ssrc shared)
    {writer prepared : TransportWriter Rng} {reading : Reading} {packet wrapped : PacketBuf}
    {chosen : Bool}
    (prepares : writer.preparePacket shared reading packet = ((prepared, wrapped), .ok chosen))
    (ready : packet.Ready) {next : Nat}
    (counts : SendCounts initialSequence next writer.writeState) (queued twice : Bool) :
    SentPacket.Opens cipher mode initialSequence shared.allocation.channel
        ⟨next, queued, twice, packet, wrapped⟩ ∧
      SendCounts initialSequence (next + 1) prepared.writeState := by
  have counted := counts.wrap shared.cipher shared.random shared.config reading.elapsed ready.some
  rw [TransportWriter.preparePacket] at prepares
  cases wraps : (wrap shared.cipher shared.random shared.config writer.writeState reading.elapsed
      packet).2 with
  | error error =>
      simp only [wraps] at prepares
      cases prepares
  | ok done =>
      have fits : Fits shared.random shared.config writer.writeState packet := by
        by_contra large
        rw [wrap_of_not_fits shared.cipher reading.elapsed ready large] at wraps
        cases wraps
      obtain ⟨_, sendable⟩ := wrap_of_fits (trusted.cipher_eq ▸ trusted.correct.seals)
        reading.elapsed ready fits
      simp only [wraps] at prepares
      cases prepares
      refine ⟨⟨?_, ⟨_, trusted.serves.padding sendable⟩⟩, counted⟩
      rw [trusted.config_eq] at fits
      have opens := (unwrap_wrapped trusted.correct reading.elapsed ready.some fits).2
      rw [trusted.cipher_eq, trusted.config_eq]
      rw [SentPacket.counter, sequenceOf_counter, ← counts.count, ← counts.initial]
      exact opens

/-- The turns of some packets, numbered in their order. -/
theorem preparedTurns_opens (trusted : TrustedTransport cipher mode ssrc shared)
    {pending : List (Reading × PacketBuf)} (ready : ∀ entry ∈ pending, entry.2.Ready)
    {writer : TransportWriter Rng} {next : Nat}
    (counts : SendCounts initialSequence next writer.writeState) {index : Nat} {turn : Turn}
    (listed : (preparedTurns shared pending writer)[index]? = some turn) (queued twice : Bool) :
    SentPacket.Opens cipher mode initialSequence shared.allocation.channel
      ⟨next + index, queued, twice, turn.packet, turn.wrapped⟩ := by
  induction pending generalizing writer next index with
  | nil => cases listed
  | cons entry pending inductionHypothesis =>
      obtain ⟨reading, packet⟩ := entry
      have first : packet.Ready := ready (reading, packet) List.mem_cons_self
      have others := fun entry member => ready entry (List.mem_cons_of_mem _ member)
      rw [preparedTurns] at listed
      generalize made : writer.preparePacket shared reading packet = prepared at listed
      obtain ⟨⟨prepared, wrapped⟩, answer⟩ := prepared
      cases answer with
      | error error => cases listed
      | ok chosen =>
          obtain ⟨opens, counted⟩ := preparePacket_opens trusted made first counts queued twice
          cases index with
          | zero =>
              cases listed
              exact opens
          | succ index =>
              have later := inductionHypothesis others counted listed
              rw [Nat.add_right_comm] at later
              exact later

theorem preparedTurns_packets (shared : TransportShared Rng)
    (pending : List (Reading × PacketBuf)) (writer : TransportWriter Rng) :
    (preparedTurns shared pending writer).map (·.packet) <+: pending.map (·.2) := by
  induction pending generalizing writer with
  | nil => exact List.prefix_rfl
  | cons entry pending inductionHypothesis =>
      obtain ⟨reading, packet⟩ := entry
      rw [preparedTurns]
      cases (writer.preparePacket shared reading packet).2 with
      | error error => exact List.nil_prefix
      | ok chosen => exact (List.prefix_cons_inj packet).mpr (inductionHypothesis _)

end Prepare

section Offer

/-- Turns that were taken, numbered from a given number on. -/
def writtenOf (network : Network) (queued : Bool) : Nat → List (Turn × Bool) → List SentPacket
  | _, [] => []
  | next, (turn, taken) :: answers =>
      { number := next
        queued := queued
        twice := taken && decide (turn.chosen = true ∧ network.outbound = .udp)
        packet := turn.packet
        wrapped := turn.wrapped } :: writtenOf network queued (next + 1) answers

variable (network : Network) (queued : Bool) (channel : U16)

theorem writtenOf_datagrams (next : Nat) (answers : List (Turn × Bool)) :
    (writtenOf network queued next answers).flatMap (·.datagrams channel) =
      ((answers.flatMap fun answer =>
        answer.1.tries network channel answer.2).filter (·.2)).map (·.1) := by
  induction answers generalizing next with
  | nil => rfl
  | cons answer answers inductionHypothesis =>
      obtain ⟨turn, taken⟩ := answer
      rw [writtenOf, List.flatMap_cons, List.flatMap_cons, List.filter_append, List.map_append,
        inductionHypothesis]
      apply congrArg (· ++ _)
      rw [SentPacket.datagrams, Turn.tries]
      by_cases again : turn.chosen = true ∧ network.outbound = .udp
      · cases taken with
        | true => simp [again, SentPacket.datagram, Turn.datagram]
        | false => simp [again, SentPacket.datagram, Turn.datagram]
      · simp [again, SentPacket.datagram, Turn.datagram]

theorem writtenOf_packets (next : Nat) (answers : List (Turn × Bool)) :
    (writtenOf network queued next answers).map (·.packet) = answers.map (·.1.packet) := by
  induction answers generalizing next with
  | nil => rfl
  | cons answer answers inductionHypothesis =>
      rw [writtenOf, List.map_cons, List.map_cons, inductionHypothesis]

theorem writtenOf_numbers (next : Nat) (answers : List (Turn × Bool)) :
    (writtenOf network queued next answers).map (·.number) =
      List.range' next answers.length := by
  induction answers generalizing next with
  | nil => rfl
  | cons answer answers inductionHypothesis =>
      rw [writtenOf, List.map_cons, List.length_cons, List.range'_succ, inductionHypothesis]

theorem mem_writtenOf {next : Nat} {answers : List (Turn × Bool)} {written : SentPacket}
    (member : written ∈ writtenOf network queued next answers) :
    written.queued = queued ∧ (network.outbound = .stream → written.twice = false) ∧
      ∃ (index : Nat) (turn : Turn), (answers.map (·.1))[index]? = some turn ∧
        written = ⟨next + index, queued, written.twice, turn.packet, turn.wrapped⟩ := by
  induction answers generalizing next with
  | nil => cases member
  | cons answer answers inductionHypothesis =>
      obtain ⟨turn, taken⟩ := answer
      rw [writtenOf] at member
      rcases List.mem_cons.mp member with rfl | later
      · refine ⟨rfl, ?_, 0, turn, rfl, rfl⟩
        intro stream
        simp [stream]
      · obtain ⟨same, single, index, found, listed, equal⟩ := inductionHypothesis later
        refine ⟨same, single, index + 1, found, listed, ?_⟩
        rw [Nat.add_right_comm] at equal
        exact equal

end Offer

section Flush

open SocketWriter

variable {Rng : Type*} {cipher : OpeningCipher} {mode : ObfsMode} {ssrc : U32}
  {shared : TransportShared Rng} {initialSequence : U16} {next : Nat}
  {start : SocketWriter Rng}

theorem preparePacket_counts (counts : SendCounts initialSequence next start.writeState)
    (shared : TransportShared Rng) (reading : Reading) {packet : PacketBuf}
    (some : packet.isEmpty = false) :
    SendCounts initialSequence (next + 1)
      (start.preparePacket shared reading packet).1.1.writeState :=
  counts.wrap shared.cipher shared.random shared.config reading.elapsed some

theorem sendPacket_counts (counts : SendCounts initialSequence next start.writeState)
    (network : Network) (shared : TransportShared Rng) (reading : Reading) {packet : PacketBuf}
    (some : packet.isEmpty = false) :
    SendCounts initialSequence (next + 1)
      (start.sendPacket network shared reading packet).1.writeState := by
  have counted := preparePacket_counts counts shared reading some
  rw [sendPacket]
  cases prepares : (start.preparePacket shared reading packet).2 with
  | error error => exact counted
  | ok chosen =>
      obtain ⟨_, same⟩ := @sendWithDuplicate_flushed _ shared
        (start.preparePacket shared reading packet).1.1 network
        ⟨packet, (start.preparePacket shared reading packet).1.2, chosen⟩
      dsimp only at same ⊢
      rw [same.writeState]
      exact counted

/-- A loop without an error has counted every packet. -/
theorem flushLoop_counts (network : Network) (limit : Nat) {pending : List (Reading × PacketBuf)}
    (some : ∀ entry ∈ pending, entry.2.isEmpty = false) {waiting : List Turn}
    (data : start.mmsgData = waiting.map (·.wrapped))
    (plain : ∀ turn ∈ waiting, turn.chosen = false)
    (counts : SendCounts initialSequence next start.writeState)
    (passes : (flushLoop network shared limit pending start).2 = .ok ()) :
    SendCounts initialSequence (next + pending.length)
      (flushLoop network shared limit pending start).1.writeState := by
  induction pending generalizing start waiting next with
  | nil =>
      obtain ⟨-, -, state, -⟩ := @flushMmsgData_flushed _ shared start waiting network data plain
      rw [flushLoop, state]
      exact counts
  | cons entry pending inductionHypothesis =>
      obtain ⟨reading, packet⟩ := entry
      have here : packet.isEmpty = false := some (reading, packet) List.mem_cons_self
      have others := fun entry member => some entry (List.mem_cons_of_mem _ member)
      have counted := preparePacket_counts counts shared reading here
      rw [flushLoop] at passes ⊢
      cases prepares : (start.preparePacket shared reading packet).2 with
      | error error =>
          rw [flushPacket] at passes
          simp only [prepares] at passes
          cases passes
      | ok chosen =>
          obtain ⟨_, _, _, _, queued⟩ := flushPacket_flushed network limit prepares data plain rfl
          generalize start.flushPacket network shared limit reading packet = result
            at queued passes ⊢
          obtain ⟨after, answer⟩ := result
          cases answer with
          | error error => cases passes
          | ok _ =>
              obtain ⟨data, plain, state, -⟩ := queued rfl
              rw [← state] at counted
              have later := inductionHypothesis others data plain counted passes
              rw [Nat.add_right_comm] at later
              exact later

theorem flushQueuedData_counts (network : Network) (limit : Nat)
    {pending : List (Reading × PacketBuf)} (some : ∀ entry ∈ pending, entry.2.isEmpty = false)
    (empty : start.mmsgData = []) (counts : SendCounts initialSequence next start.writeState)
    (passes : (start.flushQueuedData network shared limit pending).2 = .ok ()) :
    SendCounts initialSequence (next + pending.length)
      (start.flushQueuedData network shared limit pending).1.writeState := by
  unfold flushQueuedData at passes ⊢
  split
  · next reading packet =>
      exact sendPacket_counts counts network shared reading
        (some (reading, packet) List.mem_cons_self)
  · next other =>
      split at passes
      · next reading packet => exact absurd rfl (other reading packet)
      · exact @flushLoop_counts _ _ _ _ start network limit _ some [] empty
          (fun turn member => absurd member List.not_mem_nil) counts passes

/-- The packets that a flush has sent: the first ones of those that it was given. -/
structure FlushSent (cipher : OpeningCipher) (mode : ObfsMode) (initialSequence : U16)
    (network : Network) (shared : TransportShared Rng) (queued : Bool) (next : Nat)
    (start after : SocketWriter Rng) (more : List SentPacket) : Prop where
  sent : after.sent = start.sent ++ more.flatMap (·.datagrams shared.allocation.channel)
  opens : ∀ written ∈ more,
    written.Opens cipher mode initialSequence shared.allocation.channel
  queued : ∀ written ∈ more, written.queued = queued
  single : network.outbound = .stream → ∀ written ∈ more, written.twice = false
  numbers : more.map (·.number) = List.range' next more.length

theorem flush_sent (trusted : TrustedTransport cipher mode ssrc shared) (network : Network)
    (limit : Nat)
    {pending : List (Reading × PacketBuf)} (ready : ∀ entry ∈ pending, entry.2.Ready)
    (empty : start.mmsgData = []) (counts : SendCounts initialSequence next start.writeState)
    (queued : Bool) :
    ∃ more, FlushSent cipher mode initialSequence network shared queued next start
        (start.flushQueuedData network shared limit pending).1 more ∧
      more.map (·.packet) <+: pending.map (·.2) ∧
      ((start.flushQueuedData network shared limit pending).2 = .ok () →
        more.map (·.packet) = pending.map (·.2)) := by
  obtain ⟨⟨tries, transmits, puts⟩, done⟩ :=
    @flushQueuedData_flushed _ shared start network limit pending empty
  have packets := preparedTurns_packets shared pending start.toTransportWriter
  -- The answers are those of a beginning of the turns, of all of them without an error.
  obtain ⟨answers, begins, taken, whole⟩ : ∃ answers : List (Turn × Bool),
      answers.map (·.1) <+: preparedTurns shared pending start.toTransportWriter ∧
      (tries.filter (·.2)).map (·.1) =
        ((answers.flatMap fun answer => answer.1.tries network shared.allocation.channel
          answer.2).filter (·.2)).map (·.1) ∧
      ((start.flushQueuedData network shared limit pending).2.isOk = true →
        answers.map (·.1) = preparedTurns shared pending start.toTransportWriter) := by
    generalize (start.flushQueuedData network shared limit pending).2.isOk = passes at transmits ⊢
    cases transmits with
    | whole answers all => exact ⟨answers, all ▸ List.prefix_rfl, rfl, fun _ => all⟩
    | part answers refused begins =>
        refine ⟨answers, (List.prefix_append _ _).trans begins, ?_, nofun⟩
        rw [List.filter_append, List.map_append]
        cases refused with
        | none => simp
        | some turn => simp
  have turnPackets : answers.map (·.1.packet) = (answers.map (·.1)).map (·.packet) := by
    rw [List.map_map]
    rfl
  refine ⟨writtenOf network queued next answers, ⟨?_, ?_, ?_, ?_, ?_⟩, ?_, ?_⟩
  · rw [puts.sent, taken, writtenOf_datagrams]
  · intro written member
    obtain ⟨-, -, index, turn, listed, equal⟩ := mem_writtenOf network queued member
    rw [equal]
    apply preparedTurns_opens trusted ready counts
    obtain ⟨rest, whole⟩ := begins
    rw [← whole, List.getElem?_append_left (List.getElem?_eq_some_iff.mp listed).1]
    exact listed
  · intro written member
    exact (mem_writtenOf network queued member).1
  · intro stream written member
    exact (mem_writtenOf network queued member).2.1 stream
  · rw [writtenOf_numbers, ← @List.length_map _ _ answers (·.1.packet),
      ← writtenOf_packets network queued next answers, List.length_map]
  · rw [writtenOf_packets, turnPackets]
    exact (begins.map _).trans packets
  · intro passes
    have all := whole (by rw [passes]; rfl)
    rw [writtenOf_packets, turnPackets, all]
    apply packets.eq_of_length
    rw [List.length_map, List.length_map]
    exact (done passes).2

end Flush

/-!
### A whole run of the writer
-/

/-- Packets under rising numbers below the next one, with no more than some slack between two of
them. -/
structure Spread (slack next : Nat) (source : List SentPacket) : Prop where
  rising : source.Pairwise fun one other => one.number < other.number
  below : ∀ written ∈ source, written.number < next
  close : source.IsChain fun one other => other.number ≤ one.number + 1 + slack

namespace Spread

variable {slack next : Nat} {source more : List SentPacket}

theorem mono {wider later : Nat} (spread : Spread slack next source) (wide : slack ≤ wider)
    (late : next ≤ later) : Spread wider later source where
  rising := spread.rising
  below := fun written member => Nat.lt_of_lt_of_le (spread.below written member) late
  close := spread.close.imp fun _ _ near => by omega

theorem mem_numbers (numbers : more.map (·.number) = List.range' next more.length) :
    ∀ written ∈ more, next ≤ written.number ∧ written.number < next + more.length := by
  intro written member
  have inside : written.number ∈ more.map (·.number) := List.mem_map_of_mem member
  rw [numbers, List.mem_range'_1] at inside
  exact inside

theorem numbered (slack : Nat) (numbers : more.map (·.number) = List.range' next more.length) :
    Spread slack (next + more.length) more where
  rising := by
    apply List.pairwise_map.mp
    rw [numbers]
    exact List.pairwise_lt_range'
  below := fun written member => (mem_numbers numbers written member).2
  close := by
    have chain : (more.map (·.number)).IsChain fun one other => other = one + 1 := by
      rw [numbers]
      exact List.isChain_range' next more.length 1
    exact ((List.isChain_map _).mp chain).imp fun one other follows => by omega

/-- Numbers that go on from the next one. -/
theorem append (spread : Spread slack next source)
    (last : ∀ written ∈ source.getLast?, next ≤ written.number + 1 + slack)
    (numbers : more.map (·.number) = List.range' next more.length) :
    Spread slack (next + more.length) (source ++ more) ∧
      ∀ written ∈ (source ++ more).getLast?,
        next + more.length ≤ written.number + 1 + slack := by
  have rest := numbered slack numbers
  refine ⟨⟨?_, ?_, ?_⟩, ?_⟩
  · refine List.pairwise_append.mpr ⟨spread.rising, rest.rising, fun one former other latter => ?_⟩
    exact Nat.lt_of_lt_of_le (spread.below one former) (mem_numbers numbers other latter).1
  · intro written member
    rcases List.mem_append.mp member with former | latter
    · exact Nat.lt_of_lt_of_le (spread.below written former) (Nat.le_add_right _ _)
    · exact rest.below written latter
  · refine List.isChain_append.mpr ⟨spread.close, rest.close, fun one ends other begins => ?_⟩
    have number : other.number = next := by
      cases more with
      | nil => cases begins
      | cons head more =>
          cases begins
          rw [List.map_cons, List.length_cons, List.range'_succ] at numbers
          exact (List.cons.inj numbers).1
    rw [number]
    exact last one ends
  · intro written ends
    cases more using List.reverseRecOn with
    | nil =>
        rw [List.append_nil] at ends
        exact last written ends
    | append_singleton more final =>
        rw [← List.append_assoc, List.getLast?_concat] at ends
        cases ends
        rw [List.map_append, List.length_append, List.length_singleton, List.range'_concat,
          List.map_singleton] at numbers
        have number := List.singleton_inj.mp
          (List.append_inj_right numbers (by rw [List.length_map, List.length_range']))
        rw [List.length_append, List.length_singleton]
        omega

end Spread

/-- The bytes of a command. -/
def WriterAction.data? : WriterAction → Option (List U8)
  | .command _ _ data => some data
  | .turn _ => none

/-- The bytes of the commands, in their order. -/
def commandsOf (actions : List WriterAction) : List (List U8) :=
  actions.filterMap WriterAction.data?

section Run

variable {Rng Mark : Type*} {cipher : OpeningCipher} {mode : ObfsMode} {ssrc : U32}
  {network : Network} {shared : TransportShared Rng} {limits : WriterLimits}
  {others : Nat → WriterQueues Mark → WriterQueues Mark} {initialSequence : U16}
  {first next : Nat} {actions : List WriterAction} {loop : WriterLoop Rng Mark}
  {source : List SentPacket}

/-- While the loop has no error: its state has counted the packets, nothing waits, and all that
was taken from the queues has been sent. -/
structure WriterAlive (initialSequence : U16) (slack next : Nat) (loop : WriterLoop Rng Mark)
    (source : List SentPacket) : Prop where
  counts : SendCounts initialSequence next loop.writer.writeState
  empty : loop.writer.mmsgData = []
  fetched : (source.filter (·.queued)).map (·.packet) = loop.view.dequeued
  last : ∀ written ∈ source.getLast?, next ≤ written.number + 1 + slack

/-- What the writer has sent so far is the datagrams of some packets: those from the queues in
their order, the commands in theirs, and all under rising numbers. -/
structure WriterTraced (cipher : OpeningCipher) (mode : ObfsMode) (initialSequence : U16)
    (network : Network) (shared : TransportShared Rng) (first next : Nat)
    (actions : List WriterAction) (loop : WriterLoop Rng Mark) (source : List SentPacket) :
    Prop where
  sent : loop.writer.sent = source.flatMap (·.datagrams shared.allocation.channel)
  opens : ∀ written ∈ source,
    written.Opens cipher mode initialSequence shared.allocation.channel
  single : network.outbound = .stream → ∀ written ∈ source, written.twice = false
  fetched : (source.filter (·.queued)).map (·.packet) <+: loop.view.dequeued
  ordered : ((source.filter fun written => !written.queued).map (·.packet.asSlice)) <+
    commandsOf actions
  spread : Spread (commandsOf actions).length next source
  bound : next ≤ first + loop.view.dequeued.length + (commandsOf actions).length
  alive : loop.failure = none →
    WriterAlive initialSequence (commandsOf actions).length next loop source

theorem commandsOf_concat (actions : List WriterAction) (action : WriterAction) :
    commandsOf (actions ++ [action]) = commandsOf actions ++ action.data?.toList := by
  rw [commandsOf, List.filterMap_append]
  cases action with
  | command reading storage data => rfl
  | turn clock => rfl

theorem filter_of_same {more : List SentPacket} {queued : Bool}
    (same : ∀ written ∈ more, written.queued = queued) :
    more.filter (·.queued) = (if queued then more else []) ∧
      more.filter (fun written => !written.queued) = if queued then [] else more := by
  cases queued with
  | true =>
      exact ⟨List.filter_eq_self.mpr same, List.filter_eq_nil_iff.mpr fun written member => by
        rw [same written member]
        exact Bool.noConfusion⟩
  | false =>
      exact ⟨List.filter_eq_nil_iff.mpr fun written member => by
        rw [same written member]
        exact Bool.noConfusion, List.filter_eq_self.mpr fun written member => by
        rw [same written member]
        rfl⟩

/-- A flush of packets from the queues. -/
theorem WriterTraced.batch (trusted : TrustedTransport cipher mode ssrc shared)
    (traced : WriterTraced cipher mode initialSequence network shared first next actions loop
      source)
    (running : loop.failure = none) {seen : QueueView Mark} {head : PacketClass × PacketBuf}
    (clock : Nat → Reading) (taken : seen.dequeued = loop.view.dequeued ++ [head.2])
    (ready : ∀ packet ∈ (sendWriterBatch network shared limits others
      { loop with view := seen } clock head).view.dequeued, packet.Ready) :
    ∃ next source, WriterTraced cipher mode initialSequence network shared first next actions
      (sendWriterBatch network shared limits others { loop with view := seen } clock head)
      source := by
  have more := seen.takeBatch_dequeued others head.1 (limits.of head.1 - 1)
  have alive := traced.alive running
  rw [sendWriterBatch] at ready ⊢
  dsimp only at ready ⊢
  rw [more, taken] at ready
  generalize seen.takeBatch others head.1 (limits.of head.1 - 1) = batch at more ready ⊢
  generalize stamps : ((head.2 :: batch.2).mapIdx fun index packet => (clock index, packet)) =
    pending
  have packets : pending.map (·.2) = head.2 :: batch.2 := by
    rw [← stamps]
    exact map_snd_stamped clock _
  have dequeued : batch.1.dequeued = loop.view.dequeued ++ pending.map (·.2) := by
    rw [more, taken, packets, List.append_assoc]
    rfl
  have readyAll : ∀ entry ∈ pending, entry.2.Ready := by
    intro entry member
    apply ready
    rw [List.append_assoc, List.singleton_append, ← packets]
    exact List.mem_append_right _ (List.mem_map_of_mem member)
  obtain ⟨written, sent, begins, all⟩ :=
    flush_sent trusted network limits.bulk readyAll alive.empty alive.counts true
  have done := (@SocketWriter.flushQueuedData_flushed _ shared loop.writer network limits.bulk
    pending alive.empty).2
  have counted := @flushQueuedData_counts _ shared _ _ loop.writer network limits.bulk pending
    (fun entry member => (readyAll entry member).some) alive.empty alive.counts
  obtain ⟨spread, last⟩ := traced.spread.append alive.last sent.numbers
  obtain ⟨filtered, nothing⟩ := filter_of_same sent.queued
  rw [SocketWriter.flush]
  generalize loop.writer.flushQueuedData network shared limits.bulk pending = result
    at sent all done counted ⊢
  have short : written.length ≤ pending.length := by
    have fits := begins.length_le
    rwa [List.length_map, List.length_map] at fits
  refine ⟨next + pending.length, source ++ written, ?_, ?_, ?_, ?_, ?_, ?_, ?_, ?_⟩
  · dsimp only
    rw [sent.sent, traced.sent, List.flatMap_append]
  · exact fun other member => (List.mem_append.mp member).elim (traced.opens other)
      (sent.opens other)
  · exact fun stream other member => (List.mem_append.mp member).elim
      (traced.single stream other) (sent.single stream other)
  · dsimp only
    rw [List.filter_append, List.map_append, filtered, alive.fetched, dequeued]
    exact (List.prefix_append_right_inj _).mpr begins
  · rw [List.filter_append, nothing, if_pos rfl, List.append_nil]
    exact traced.ordered
  · exact spread.mono (Nat.le_refl _) (Nat.add_le_add_left short next)
  · have bound := traced.bound
    dsimp only
    rw [dequeued, List.length_append, List.length_map]
    omega
  · dsimp only
    intro none
    have passes : result.2 = .ok () := by
      cases answer : result.2 with
      | error error =>
          rw [answer] at none
          cases none
      | ok _ => rfl
    have whole := all passes
    have same : written.length = pending.length := by
      have lengths := congrArg List.length whole
      rwa [List.length_map, List.length_map] at lengths
    rw [same] at last
    refine ⟨counted passes, (done passes).1, ?_, last⟩
    rw [List.filter_append, List.map_append, filtered, alive.fetched, dequeued, ← whole]
    rfl

theorem FlushSent.nothing (cipher : OpeningCipher) (mode : ObfsMode) (initialSequence : U16)
    (network : Network) (shared : TransportShared Rng) (queued : Bool) (next : Nat)
    {start after : SocketWriter Rng} (same : after.sent = start.sent) :
    FlushSent cipher mode initialSequence network shared queued next start after [] where
  sent := same.trans (List.append_nil _).symm
  opens := fun _ member => absurd member List.not_mem_nil
  queued := fun _ member => absurd member List.not_mem_nil
  single := fun _ _ member => absurd member List.not_mem_nil
  numbers := rfl

/-- What a command adds: one packet that is sent, or a number at most that is used up. -/
theorem WriterTraced.command
    (traced : WriterTraced cipher mode initialSequence network shared first next actions loop
      source)
    (running : loop.failure = none) {after : SocketWriter Rng} {written : List SentPacket}
    (sent : FlushSent cipher mode initialSequence network shared false next loop.writer after
      written)
    {counted : Nat} (few : written.length ≤ counted) (one : counted ≤ 1)
    (counts : SendCounts initialSequence (next + counted) after.writeState)
    (empty : after.mmsgData = []) {data : List U8}
    (carried : written.map (·.packet.asSlice) <+ [data]) (reading : Reading)
    (storage : Option Storage) :
    ∃ next source, WriterTraced cipher mode initialSequence network shared first next
      (actions ++ [.command reading storage data]) { loop with writer := after } source := by
  have alive := traced.alive running
  have commands : commandsOf (actions ++ [.command reading storage data]) =
      commandsOf actions ++ [data] := commandsOf_concat actions _
  have slack : (commandsOf (actions ++ [.command reading storage data])).length =
      (commandsOf actions).length + 1 := by
    rw [commands, List.length_append, List.length_singleton]
  obtain ⟨spread, last⟩ := traced.spread.append alive.last sent.numbers
  obtain ⟨nothing, filtered⟩ := filter_of_same sent.queued
  refine ⟨next + counted, source ++ written, ?_, ?_, ?_, ?_, ?_, ?_, ?_, ?_⟩
  · dsimp only
    rw [sent.sent, traced.sent, List.flatMap_append]
  · exact fun other member => (List.mem_append.mp member).elim (traced.opens other)
      (sent.opens other)
  · exact fun stream other member => (List.mem_append.mp member).elim
      (traced.single stream other) (sent.single stream other)
  · dsimp only
    rw [List.filter_append, nothing, if_neg Bool.false_ne_true, List.append_nil]
    exact traced.fetched
  · rw [List.filter_append, filtered, if_neg Bool.false_ne_true, List.map_append, commands]
    exact traced.ordered.append carried
  · rw [slack]
    exact spread.mono (Nat.le_succ _) (Nat.add_le_add_left few next)
  · have bound := traced.bound
    rw [slack]
    dsimp only
    omega
  · intro _
    refine ⟨counts, empty, ?_, ?_⟩
    · rw [List.filter_append, nothing, if_neg Bool.false_ne_true, List.append_nil]
      exact alive.fetched
    · intro other ends
      have near := last other ends
      rw [slack]
      omega

/-- The packet of a command without any bytes is not wrapped. -/
theorem sendPacket_of_isEmpty (shared : TransportShared Rng) (network : Network)
    (start : SocketWriter Rng) (reading : Reading)
    {packet : PacketBuf} (none : packet.isEmpty = true) :
    (start.sendPacket network shared reading packet).1.sent = start.sent ∧
      (start.sendPacket network shared reading packet).1.writeState = start.writeState := by
  have refuses : wrap shared.cipher shared.random shared.config start.writeState reading.elapsed
      packet = ((start.writeState, packet), .error "obfs: empty payload") := by
    rw [wrap, if_pos none]
  have prepares : start.preparePacket shared reading packet =
      (((start.preparePacket shared reading packet).1.1, packet),
        .error "obfs: empty payload") := by
    simp only [SocketWriter.preparePacket, TransportWriter.preparePacket, refuses]
    rfl
  have state : (start.preparePacket shared reading packet).1.1.writeState = start.writeState := by
    simp only [SocketWriter.preparePacket, TransportWriter.preparePacket, refuses]
  rw [SocketWriter.sendPacket, prepares]
  exact ⟨rfl, state⟩

/-- The bytes of a command are sent as one packet, if at all. -/
theorem sendBytes_sent (trusted : TrustedTransport cipher mode ssrc shared) (network : Network)
    {start : SocketWriter Rng} (empty : start.mmsgData = [])
    (counts : SendCounts initialSequence next start.writeState) (reading : Reading)
    (storage : Option Storage) (data : List U8) :
    ∃ written counted, FlushSent cipher mode initialSequence network shared false next start
        (start.sendBytes network shared reading storage data).1 written ∧
      written.length ≤ counted ∧ counted ≤ 1 ∧
      SendCounts initialSequence (next + counted)
        (start.sendBytes network shared reading storage data).1.writeState ∧
      written.map (·.packet.asSlice) <+ [data] := by
  unfold SocketWriter.sendBytes
  cases storage with
  | none =>
      exact ⟨[], 0, .nothing cipher mode initialSequence network shared false next rfl,
        Nat.le_refl 0, Nat.zero_le 1, counts, List.nil_sublist [data]⟩
  | some storage =>
      dsimp only
      cases read : readInto storage data with
      | none =>
          exact ⟨[], 0, .nothing cipher mode initialSequence network shared false next rfl,
            Nat.le_refl 0, Nat.zero_le 1, counts, List.nil_sublist [data]⟩
      | some packet =>
          dsimp only
          cases some : packet.isEmpty with
          | true =>
              obtain ⟨sent, state⟩ := sendPacket_of_isEmpty shared network start
                reading some
              refine ⟨[], 0, .nothing cipher mode initialSequence network shared false next sent,
                Nat.le_refl 0, Nat.zero_le 1, ?_, List.nil_sublist [data]⟩
              rw [state]
              exact counts
          | false =>
              obtain ⟨bytes, place⟩ := readInto_spec read
              have ready : packet.Ready := ⟨some, by rw [place]; decide, by rw [place]; rfl⟩
              obtain ⟨written, sent, begins, -⟩ :=
                @flush_sent _ _ _ _ shared _ next start trusted network 0 [(reading, packet)]
                  (List.forall_mem_singleton.mpr ready) empty counts false
              have few := begins.length_le
              rw [List.length_map] at few
              refine ⟨written, 1, sent, few, Nat.le_refl 1,
                sendPacket_counts counts network shared reading some, ?_⟩
              have slices := begins.sublist.map PacketBuf.asSlice
              rw [List.map_map, List.map_singleton, List.map_singleton, bytes] at slices
              exact slices

theorem writerStep_turn (running : loop.failure = none) (clock : Nat → Reading) :
    writerStep network shared limits others loop (.turn clock) =
      match loop.view.nextWriterPacket others with
      | (seen, none) => { loop with view := seen }
      | (seen, some head) =>
          sendWriterBatch network shared limits others { loop with view := seen } clock head := by
  unfold writerStep
  cases failed : loop.failure with
  | some error =>
      rw [running] at failed
      cases failed
  | none => rfl

theorem WriterTraced.step (trusted : TrustedTransport cipher mode ssrc shared)
    (traced : WriterTraced cipher mode initialSequence network shared first next actions loop
      source)
    (action : WriterAction)
    (ready : ∀ packet ∈ (writerStep network shared limits others loop action).view.dequeued,
      packet.Ready) :
    ∃ next source, WriterTraced cipher mode initialSequence network shared first next
      (actions ++ [action]) (writerStep network shared limits others loop action) source := by
  cases running : loop.failure with
  | some error =>
      have still : writerStep network shared limits others loop action = loop := by
        unfold writerStep
        rw [running]
      have more : commandsOf actions <+ commandsOf (actions ++ [action]) := by
        rw [commandsOf_concat]
        exact List.sublist_append_left _ _
      rw [still]
      refine ⟨next, source, traced.sent, traced.opens, traced.single, traced.fetched,
        traced.ordered.trans more, traced.spread.mono more.length_le (Nat.le_refl _), ?_, ?_⟩
      · exact traced.bound.trans (Nat.add_le_add_left more.length_le _)
      · intro none
        rw [running] at none
        cases none
  | none =>
      have alive := traced.alive running
      cases action with
      | command reading storage data =>
          have still : writerStep network shared limits others loop
              (.command reading storage data) =
                { loop with
                  writer := (loop.writer.sendBytes network shared reading storage data).1 } := by
            unfold writerStep
            rw [running]
          obtain ⟨written, counted, sent, few, one, counts, carried⟩ :=
            sendBytes_sent trusted network alive.empty alive.counts reading storage data
          rw [still]
          exact traced.command running sent few one counts
            ((sendBytes_mmsgData network loop.writer reading storage data).trans alive.empty)
            carried reading storage
      | turn clock =>
          have taken := loop.view.nextWriterPacket_dequeued others
          rw [writerStep_turn running clock] at ready ⊢
          have commands : commandsOf (actions ++ [.turn clock]) = commandsOf actions :=
            (commandsOf_concat actions _).trans (List.append_nil _)
          generalize loop.view.nextWriterPacket others = result at taken ready ⊢
          obtain ⟨seen, head⟩ := result
          cases head with
          | none =>
              have same : seen.dequeued = loop.view.dequeued := taken.trans (List.append_nil _)
              refine ⟨next, source, traced.sent, traced.opens, traced.single, ?_, ?_, ?_, ?_, ?_⟩
              · dsimp only
                rw [same]
                exact traced.fetched
              · rw [commands]
                exact traced.ordered
              · rw [commands]
                exact traced.spread
              · dsimp only
                rw [commands, same]
                exact traced.bound
              · intro _
                rw [commands]
                exact ⟨alive.counts, alive.empty, alive.fetched.trans same.symm, alive.last⟩
          | some head =>
              obtain ⟨next, source, after⟩ := traced.batch trusted running clock taken ready
              refine ⟨next, source, after.sent, after.opens, after.single, after.fetched, ?_, ?_,
                ?_, ?_⟩
              · rw [commands]
                exact after.ordered
              · rw [commands]
                exact after.spread
              · rw [commands]
                exact after.bound
              · rw [commands]
                exact after.alive

theorem WriterTraced.new (cipher : OpeningCipher) (mode : ObfsMode) (network : Network)
    (shared : TransportShared Rng) (state : ObfsState Rng) (now : Nat)
    (queues : WriterQueues Mark) :
    WriterTraced cipher mode state.initialSequence network shared state.count.toNat
      state.count.toNat [] (.new state now queues) [] where
  sent := rfl
  opens := fun _ member => absurd member List.not_mem_nil
  single := fun _ _ member => absurd member List.not_mem_nil
  fetched := List.nil_prefix
  ordered := List.nil_sublist _
  spread := ⟨.nil, fun _ member => absurd member List.not_mem_nil, .nil⟩
  bound := Nat.le_refl _
  alive := fun _ => ⟨⟨rfl, (BitVec.ofNat_toNat 64 state.count).symm⟩, rfl, rfl, nofun⟩

/-- What was taken from the queues stays taken. -/
theorem writerStep_dequeued (network : Network) (shared : TransportShared Rng)
    (limits : WriterLimits) (others : Nat → WriterQueues Mark → WriterQueues Mark)
    (loop : WriterLoop Rng Mark) (action : WriterAction) :
    loop.view.dequeued <+:
      (writerStep network shared limits others loop action).view.dequeued := by
  unfold writerStep
  cases loop.failure with
  | some error => exact List.prefix_rfl
  | none =>
      cases action with
      | command reading storage data => exact List.prefix_rfl
      | turn clock =>
          have taken := loop.view.nextWriterPacket_dequeued others
          dsimp only
          generalize loop.view.nextWriterPacket others = result at taken ⊢
          obtain ⟨seen, head⟩ := result
          cases head with
          | none => exact ⟨_, taken.symm⟩
          | some head =>
              have more := seen.takeBatch_dequeued others head.1 (limits.of head.1 - 1)
              dsimp only [sendWriterBatch] at taken more ⊢
              rw [more, taken, List.append_assoc]
              exact List.prefix_append _ _

theorem traced_run (trusted : TrustedTransport cipher mode ssrc shared) (network : Network)
    (limits : WriterLimits) (others : Nat → WriterQueues Mark → WriterQueues Mark)
    (state : ObfsState Rng) (now : Nat) (queues : WriterQueues Mark) {actions : List WriterAction}
    (ready : ∀ packet ∈
      (runWriter network shared limits others (.new state now queues) actions).view.dequeued,
      packet.Ready) :
    ∃ next source, WriterTraced cipher mode state.initialSequence network shared
      state.count.toNat next actions
      (runWriter network shared limits others (.new state now queues) actions) source := by
  induction actions using List.reverseRecOn with
  | nil => exact ⟨_, _, .new cipher mode network shared state now queues⟩
  | append_singleton actions action inductionHypothesis =>
      have last : runWriter network shared limits others (.new state now queues)
          (actions ++ [action]) = writerStep network shared limits others
            (runWriter network shared limits others (.new state now queues) actions) action := by
        rw [runWriter, List.foldl_append]
        rfl
      rw [last] at ready ⊢
      have before := writerStep_dequeued network shared limits others
        (runWriter network shared limits others (.new state now queues) actions) action
      obtain ⟨next, source, traced⟩ :=
        inductionHypothesis fun packet member => ready packet (before.subset member)
      exact traced.step trusted action ready

end Run

end Csqtt
