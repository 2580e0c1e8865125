/-
Module: Csqtt.Proofs.UplinkTotality
Purpose: Which injected packets the writer can wrap and send: their length and the drawn
  padding decide.
Trusted boundary: the AEAD seals every plaintext that is not too long
Main exports: Ready, UplinkPacket, AllFit, flush_ok_iff, uplink_exact
-/
import Csqtt.Engine.TransportWriter
import Csqtt.Proofs.ObfsRoundTrip
import Csqtt.Proofs.UplinkRun

namespace Csqtt

/-!
### Where a packet lies in its buffer
-/

namespace PacketBuf

/-- A packet that has room in front for the header of the obfuscation and that of the
message, and begins at a word. -/
structure Ready (packet : PacketBuf) : Prop where
  some : packet.isEmpty = false
  head : 28 ≤ packet.start
  aligned : packet.start % 4 = 0

/-- A wrapped packet. -/
structure Sendable (packet : PacketBuf) : Prop where
  head : 4 ≤ packet.start
  aligned : packet.start % 4 = 0

end PacketBuf

/-- Framing moves the start by the length of a frame at most. -/
theorem frameOutboundPacket_range (sequences : FlowSequencer) {packet : PacketBuf}
    (headroom : frameLen ≤ packet.start) :
    (frameOutboundPacket sequences packet).2.2 = true ∧
      (frameOutboundPacket sequences packet).2.1.stop = packet.stop ∧
      ((frameOutboundPacket sequences packet).2.1.start = packet.start ∨
        (frameOutboundPacket sequences packet).2.1.start + frameLen = packet.start) := by
  cases flow : tcpFlowId packet.asSlice with
  | none =>
      rw [frameOutboundPacket_of_none flow]
      exact ⟨rfl, rfl, Or.inl rfl⟩
  | some flowId =>
      obtain ⟨framed, framing, -, start, stop⟩ :=
        @frameOutboundPacket_of_some sequences _ _ flow headroom
      rw [framing]
      exact ⟨rfl, stop, Or.inr start⟩

/-- What can be injected is read into a buffer. -/
theorem readInto_isSome (storage : Storage) {data : List U8}
    (fits : data.length ≤ packetCapacity - packetHeadroom) :
    ∃ packet, readInto storage data = some packet := by
  rw [readInto, PacketBuf.setReadLen, dif_pos fits]
  exact ⟨_, rfl⟩

theorem readInto_range {storage : Storage} {data : List U8} {packet : PacketBuf}
    (read : readInto storage data = some packet) :
    packet.start = packetHeadroom ∧ packet.stop = packetHeadroom + data.length := by
  obtain ⟨bytes, start⟩ := readInto_spec read
  have length := packet.length_asSlice
  have ordered := packet.ordered
  rw [bytes, PacketBuf.len] at length
  exact ⟨start, by omega⟩

/-- A packet of the uplink as it comes to a writer: accepted, and framed if it belongs to a
flow; or the spare copy of one. -/
inductive UplinkPacket : PacketBuf → Prop
  | framed {data : List U8} {storage : Storage} {packet : PacketBuf} (sequences : FlowSequencer)
      (some : data.isEmpty = false) (accepted : readInto storage data = Option.some packet) :
      UplinkPacket (frameOutboundPacket sequences packet).2.1
  | spare {packet copy : PacketBuf} {storage : Option Storage} (original : UplinkPacket packet)
      (copied : packet.tryDuplicate storage = Option.some copy) : UplinkPacket copy

theorem UplinkPacket.ready {packet : PacketBuf} (uplink : UplinkPacket packet) : packet.Ready := by
  induction uplink with
  | @framed data storage packet sequences some accepted =>
      obtain ⟨start, stop⟩ := readInto_range accepted
      have headroom : frameLen ≤ packet.start := by
        rw [start]
        decide
      obtain ⟨-, sameStop, moved⟩ := frameOutboundPacket_range sequences headroom
      have long : 0 < data.length := List.length_pos_iff.mpr fun none => by
        rw [none] at some
        cases some
      simp only [packetHeadroom, frameLen] at start stop moved
      refine ⟨?_, by omega, by omega⟩
      rw [PacketBuf.isEmpty, PacketBuf.len, beq_eq_false_iff_ne]
      omega
  | @spare packet copy storage original copied inductionHypothesis =>
      obtain ⟨storage, -, copied⟩ := Option.bind_eq_some_iff.mp copied
      obtain ⟨start, stop⟩ := readInto_range copied
      have some := inductionHypothesis.some
      rw [PacketBuf.isEmpty, ← PacketBuf.length_asSlice, beq_eq_false_iff_ne] at some
      refine ⟨?_, by rw [start]; decide, by rw [start]; rfl⟩
      rw [PacketBuf.isEmpty, PacketBuf.len, beq_eq_false_iff_ne]
      omega

/-!
### Wrapping and sending
-/

section Wrap

variable {Rng : Type*} {cipher : ObfsCipher} {random : RandomSource Rng} {config : ObfsConfig}
  {state : ObfsState Rng} {packet : PacketBuf}

/-- The documented reach of the AEAD. -/
def Seals (cipher : ObfsCipher) : Prop :=
  ∀ nonce aad bytes, bytes.length ≤ maxPlaintext →
    (cipher.sealInPlace nonce aad bytes).isSome = true

theorem protect_start (sequence : U16) (timestamp : U32) (paddingRandom : Nat)
    (header payload : List U8) (rng : Rng) :
    (protect cipher random config sequence timestamp paddingRandom header payload rng
      packet).1.2.start = packet.start := by
  rw [protect]
  split
  · rfl
  · split
    · rfl
    · rfl

theorem protect_succeeds (seals : Seals cipher) (sequence : U16) (timestamp : U32)
    (paddingRandom : Nat) (header : List U8) {payload : List U8} (rng : Rng)
    (short : payload.length ≤ maxPlaintext) :
    (protect cipher random config sequence timestamp paddingRandom header payload rng
      packet).2 = .ok () := by
  rw [protect]
  split
  · rfl
  · obtain ⟨result, sealing⟩ := Option.isSome_iff_exists.mp
      (seals (nonce config.ssrc sequence timestamp) header payload short)
    rw [sealing]

theorem length_asSlice_short (packet : PacketBuf) : packet.asSlice.length ≤ maxPlaintext := by
  have bounded := packet.bounded
  rw [PacketBuf.length_asSlice, PacketBuf.len]
  exact Nat.le_trans (Nat.sub_le _ _) (Nat.le_trans bounded (by decide))

/-- A packet that fits is wrapped, and keeps room for the header of the message. -/
theorem wrap_of_fits (seals : Seals cipher) (elapsed : Duration) (ready : packet.Ready)
    (fits : Fits random config state packet) :
    (wrap cipher random config state elapsed packet).2 = .ok () ∧
      (wrap cipher random config state elapsed packet).1.2.Sendable := by
  obtain ⟨marker, absoluteSendTime, rng, extended, -, start, -, wrapped, result⟩ :=
    wrap_eq_protect cipher elapsed ready.some fits.1 fits.2
  have head := ready.head
  have aligned := ready.aligned
  rw [wrapped, result]
  refine ⟨protect_succeeds seals _ _ _ _ rng (length_asSlice_short packet), ?_, ?_⟩
  · rw [protect_start]
    omega
  · rw [protect_start]
    omega

theorem wrap_of_not_fits (cipher : ObfsCipher) (elapsed : Duration) (ready : packet.Ready)
    (large : ¬ Fits random config state packet) :
    (wrap cipher random config state elapsed packet).2 =
      .error "obfs: packet exceeds buffer capacity" := by
  have head := ready.head
  have tooLarge : packet.start < 24 ∨ packetCapacity < packet.stop +
      tailLen config.mode ((drawPadding random config state.rng).1 + 1) := by
    rw [Fits] at large
    omega
  simp [wrap, ready.some, ObfsState.next, tooLarge]

end Wrap

/-- The allocation is open and its channel bound. -/
structure Allocation.Serves (allocation : Allocation) : Prop where
  unclosed : allocation.closing = false
  alive : allocation.terminal = none
  valid : 0x4000 ≤ allocation.channel ∧ allocation.channel ≤ 0x7fff

namespace Allocation

variable {self : Allocation}

theorem Serves.bound (serves : self.Serves) : self.bound = .ok () := by
  have some : self.channel ≠ 0 := by
    intro none
    have valid := serves.valid.1
    rw [none] at valid
    exact absurd valid (by decide)
  rw [Allocation.bound, ensureOpen, serves.unclosed, serves.alive]
  exact if_neg some

/-- Wherever a wrapped packet ends, zeros up to a word still fit. -/
theorem Serves.padding (serves : self.Serves) {packet : PacketBuf}
    (sendable : packet.Sendable) :
    channelDataPadding packet self.channel = .ok ((4 - packet.len % 4) % 4) := by
  have head := sendable.head
  have aligned := sendable.aligned
  have bounded := packet.bounded
  have ordered := packet.ordered
  have long : packet.len = packet.stop - packet.start := rfl
  rw [packetCapacity] at bounded
  rw [channelDataPadding, if_neg (not_not.mpr serves.valid), if_neg (by omega)]
  exact if_neg (by rw [packetCapacity]; omega)

theorem Serves.encoded (serves : self.Serves) {packet : PacketBuf}
    (sendable : packet.Sendable) : ∃ datagram, self.encoded packet = .ok datagram := by
  have head := sendable.head
  have padding := serves.padding sendable
  have aligned := sendable.aligned
  have bounded := packet.bounded
  have ordered := packet.ordered
  have long : packet.len = packet.stop - packet.start := rfl
  rw [packetCapacity] at bounded
  have room : packet.stop + (4 - packet.len % 4) % 4 ≤ packetCapacity := by
    rw [packetCapacity]
    omega
  obtain ⟨extended, grown⟩ := PacketBuf.extendTail_isSome room
  obtain ⟨-, start, -⟩ := PacketBuf.extendTail_spec grown
  obtain ⟨headed, prepended⟩ := PacketBuf.prepend_isSome (show 4 ≤ (extended.write packet.stop
    (List.replicate ((4 - packet.len % 4) % 4) 0)).start from start.symm ▸ head)
  rw [Allocation.encoded, encodeChannelData, padding]
  simp only [grown, prepended]
  exact ⟨_, rfl⟩

theorem Serves.sendWithDuplicate (serves : self.Serves) {packet : PacketBuf}
    (sendable : packet.Sendable) (duplicate : Bool) :
    ∃ datagrams, self.sendWithDuplicate packet duplicate = .ok datagrams := by
  obtain ⟨datagram, encoded⟩ := serves.encoded sendable
  rw [Allocation.sendWithDuplicate, serves.bound, encoded]
  exact ⟨_, rfl⟩

theorem Serves.sendDataBatch (serves : self.Serves) {packets : List PacketBuf}
    (sendable : ∀ packet ∈ packets, packet.Sendable) :
    ∃ datagrams, self.sendDataBatch packets = .ok datagrams := by
  have looked : (forM packets fun packet =>
      (channelDataPadding packet self.channel).map fun _ => ()) = .ok () := by
    induction packets with
    | nil => rfl
    | cons packet packets inductionHypothesis =>
        rw [List.forM_cons, serves.padding (sendable packet List.mem_cons_self)]
        exact inductionHypothesis fun other mem => sendable other (List.mem_cons_of_mem _ mem)
  have changed : ∃ datagrams, packets.mapM self.encoded = .ok datagrams := by
    induction packets with
    | nil => exact ⟨[], rfl⟩
    | cons packet packets inductionHypothesis =>
        obtain ⟨datagram, encoded⟩ := serves.encoded (sendable packet List.mem_cons_self)
        have others := fun other mem => sendable other (List.mem_cons_of_mem packet mem)
        obtain ⟨datagrams, changed⟩ := inductionHypothesis others (by
          rw [List.forM_cons, serves.padding (sendable packet List.mem_cons_self)] at looked
          exact looked)
        rw [List.mapM_cons, encoded, changed]
        exact ⟨_, rfl⟩
  obtain ⟨datagrams, changed⟩ := changed
  rw [Allocation.sendDataBatch]
  split
  · exact ⟨_, rfl⟩
  · rw [serves.bound, looked, changed]
    exact ⟨_, rfl⟩

end Allocation

/-!
### The queue of a writer
-/

section Flush

variable {Rng : Type*} {shared : TransportShared Rng}

/-- Every packet fits with the padding that is drawn at its turn. -/
def AllFit (shared : TransportShared Rng) : ObfsState Rng → List (Reading × PacketBuf) → Prop
  | _, [] => True
  | state, (reading, packet) :: pending =>
      Fits shared.random shared.config state packet ∧
        AllFit shared (wrap shared.cipher shared.random shared.config state reading.elapsed
          packet).1.1 pending

namespace TransportWriter

variable {self : TransportWriter Rng} {reading : Reading} {packet : PacketBuf}

theorem preparePacket_of_fits (seals : Seals shared.cipher) (reading : Reading)
    (ready : packet.Ready) (fits : Fits shared.random shared.config self.writeState packet) :
    ∃ prepared wrapped duplicate, self.preparePacket shared reading packet =
        ((prepared, wrapped), .ok duplicate) ∧ wrapped.Sendable ∧
      prepared.mmsgData = self.mmsgData ∧
      prepared.writeState = (wrap shared.cipher shared.random shared.config self.writeState
        reading.elapsed packet).1.1 := by
  obtain ⟨succeeds, sendable⟩ := wrap_of_fits seals reading.elapsed ready fits
  rw [preparePacket, succeeds]
  exact ⟨_, _, _, rfl, sendable, rfl, rfl⟩

theorem preparePacket_of_not_fits (reading : Reading) (ready : packet.Ready)
    (large : ¬ Fits shared.random shared.config self.writeState packet) :
    (self.preparePacket shared reading packet).2 =
      .error "obfs: packet exceeds buffer capacity" := by
  rw [preparePacket, wrap_of_not_fits shared.cipher reading.elapsed ready large]
  rfl

theorem flushMmsgData_ok (serves : shared.allocation.Serves)
    (sendable : ∀ packet ∈ self.mmsgData, packet.Sendable) :
    ∃ flushed, self.flushMmsgData shared = (flushed, .ok ()) ∧ flushed.mmsgData = [] ∧
      flushed.writeState = self.writeState := by
  rw [flushMmsgData]
  split
  · next none => exact ⟨self, rfl, List.isEmpty_iff.mp none, rfl⟩
  · obtain ⟨datagrams, sent⟩ := serves.sendDataBatch sendable
    rw [sent]
    exact ⟨_, rfl, rfl, rfl⟩

theorem sendWithDuplicate_ok (serves : shared.allocation.Serves) (sendable : packet.Sendable)
    (duplicate : Bool) :
    ∃ sent, self.sendWithDuplicate shared packet duplicate = (sent, .ok ()) ∧
      sent.mmsgData = self.mmsgData ∧ sent.writeState = self.writeState := by
  obtain ⟨datagrams, sent⟩ := serves.sendWithDuplicate sendable duplicate
  rw [sendWithDuplicate, sent]
  exact ⟨_, rfl, rfl, rfl⟩

/-- A packet that fits is sent, or waits for the next batch. -/
theorem flushPacket_of_fits (seals : Seals shared.cipher) (serves : shared.allocation.Serves)
    (reading : Reading) (ready : packet.Ready)
    (fits : Fits shared.random shared.config self.writeState packet)
    (sendable : ∀ packet ∈ self.mmsgData, packet.Sendable) :
    ∃ flushed, self.flushPacket shared reading packet = (flushed, .ok ()) ∧
      (∀ packet ∈ flushed.mmsgData, packet.Sendable) ∧
      flushed.writeState = (wrap shared.cipher shared.random shared.config self.writeState
        reading.elapsed packet).1.1 := by
  obtain ⟨prepared, wrapped, duplicate, prepares, wrappedSendable, mmsgData, state⟩ :=
    preparePacket_of_fits seals reading ready fits
  rw [← mmsgData] at sendable
  rw [← state, flushPacket, prepares]
  cases duplicate with
  | true =>
      obtain ⟨flushed, flushes, none, flushedState⟩ := flushMmsgData_ok serves sendable
      obtain ⟨sent, sends, sentData, sentState⟩ :=
        @sendWithDuplicate_ok _ _ flushed _ serves wrappedSendable true
      refine ⟨sent, ?_, ?_, sentState.trans flushedState⟩
      · simp only [flushes, sends]
      · intro packet mem
        rw [sentData, none] at mem
        cases mem
  | false =>
      have longer : ∀ packet ∈ prepared.mmsgData ++ [wrapped], packet.Sendable := by
        intro packet mem
        rcases List.mem_append.mp mem with earlier | last
        · exact sendable packet earlier
        · rw [List.mem_singleton.mp last]
          exact wrappedSendable
      dsimp only
      split
      · obtain ⟨flushed, flushes, none, flushedState⟩ := @flushMmsgData_ok _ _
          { prepared with mmsgData := prepared.mmsgData ++ [wrapped] } serves longer
        refine ⟨flushed, flushes, ?_, flushedState⟩
        intro packet mem
        rw [none] at mem
        cases mem
      · exact ⟨_, rfl, longer, rfl⟩

theorem flushPacket_of_not_fits (reading : Reading) (ready : packet.Ready)
    (large : ¬ Fits shared.random shared.config self.writeState packet) :
    (self.flushPacket shared reading packet).2 =
      .error "obfs: packet exceeds buffer capacity" := by
  rw [flushPacket]
  simp only [preparePacket_of_not_fits reading ready large]

theorem flushLoop_ok_iff (seals : Seals shared.cipher) (serves : shared.allocation.Serves)
    {pending : List (Reading × PacketBuf)} (ready : ∀ entry ∈ pending, entry.2.Ready)
    (sendable : ∀ packet ∈ self.mmsgData, packet.Sendable) :
    (flushLoop shared pending self).2 = .ok () ↔ AllFit shared self.writeState pending := by
  induction pending generalizing self with
  | nil =>
      obtain ⟨flushed, flushes, -, -⟩ := flushMmsgData_ok serves sendable
      rw [flushLoop, flushes]
      exact ⟨fun _ => trivial, fun _ => rfl⟩
  | cons entry pending inductionHypothesis =>
      obtain ⟨reading, packet⟩ := entry
      have first : packet.Ready := ready (reading, packet) List.mem_cons_self
      by_cases fits : Fits shared.random shared.config self.writeState packet
      · obtain ⟨flushed, flushes, still, state⟩ :=
          flushPacket_of_fits seals serves reading first fits sendable
        have rest := inductionHypothesis (fun entry mem => ready entry (List.mem_cons_of_mem _ mem))
          still
        rw [flushLoop, flushes, AllFit, ← state]
        exact rest.trans (and_iff_right fits).symm
      · have fails := flushPacket_of_not_fits reading first fits
        rw [flushLoop, AllFit]
        generalize self.flushPacket shared reading packet = result at fails ⊢
        obtain ⟨flushed, result⟩ := result
        obtain rfl : result = _ := fails
        exact ⟨fun succeeds => (by cases succeeds), fun all => absurd all.1 fits⟩

/-- What is queued is all sent if and only if every packet fits. -/
theorem flushQueuedData_ok_iff (seals : Seals shared.cipher)
    (serves : shared.allocation.Serves) {pending : List (Reading × PacketBuf)}
    (ready : ∀ entry ∈ pending, entry.2.Ready) (flushed : self.mmsgData = []) :
    (self.flushQueuedData shared pending).2 = .ok () ↔
      AllFit shared self.writeState pending := by
  have sendable : ∀ packet ∈ self.mmsgData, packet.Sendable := by
    intro packet mem
    rw [flushed] at mem
    cases mem
  unfold flushQueuedData
  split
  · next reading packet =>
      have first : packet.Ready := ready (reading, packet) List.mem_cons_self
      rw [AllFit, AllFit, and_true, sendPacket]
      by_cases fits : Fits shared.random shared.config self.writeState packet
      · obtain ⟨prepared, wrapped, duplicate, prepares, wrappedSendable, -, -⟩ :=
          preparePacket_of_fits seals reading first fits
        obtain ⟨sent, sends, -, -⟩ :=
          @sendWithDuplicate_ok _ _ prepared _ serves wrappedSendable duplicate
        simp only [prepares, sends, fits]
      · simp only [preparePacket_of_not_fits reading first fits, fits, reduceCtorEq]
  · exact flushLoop_ok_iff seals serves ready sendable

end TransportWriter

end Flush

/-!
### Which lengths are safe
-/

/-- A length that `inject_packet` admits. -/
def Admitted (data : List U8) : Prop :=
  data.isEmpty = false ∧ data.length ≤ packetCapacity - packetHeadroom

theorem fits_framed_iff {Rng : Type*} {random : RandomSource Rng} {config : ObfsConfig}
    {state : ObfsState Rng} {data : List U8} {storage : Storage} {packet : PacketBuf}
    (sequences : FlowSequencer) (accepted : readInto storage data = some packet) :
    Fits random config state (frameOutboundPacket sequences packet).2.1 ↔
      data.length + tailLen config.mode ((drawPadding random config state.rng).1 + 1) ≤
        packetCapacity - packetHeadroom := by
  obtain ⟨start, stop⟩ := readInto_range accepted
  have headroom : frameLen ≤ packet.start := by
    rw [start]
    decide
  obtain ⟨-, sameStop, moved⟩ := frameOutboundPacket_range sequences headroom
  simp only [packetHeadroom, frameLen] at start stop moved
  rw [Fits, sameStop, stop, packetCapacity, packetHeadroom]
  omega

/-- The longest packet that fits with every padding. -/
def safeLength : ObfsMode → Nat
  | .audio => 2200
  | .video => 2170

theorem fits_every_padding_iff (mode : ObfsMode) (ssrc : U32) (length : Nat) :
    (∀ (random : RandomSource Nat) (rng : Nat),
      length + tailLen mode ((drawPadding random (.new mode ssrc) rng).1 + 1) ≤
        packetCapacity - packetHeadroom) ↔ length ≤ safeLength mode := by
  constructor
  · intro every
    cases mode with
    | audio => exact Nat.le_of_add_le_add_right (every .counting 23)
    | video => exact Nat.le_of_add_le_add_right (every .counting 59)
  · intro short random rng
    have drawn := drawPadding_lt random mode ssrc rng
    cases mode with
    | audio =>
        simp only [safeLength, ObfsConfig.new, tailLen, packetCapacity, packetHeadroom]
          at short drawn ⊢
        omega
    | video =>
        simp only [safeLength, ObfsConfig.new, tailLen, packetCapacity, packetHeadroom]
          at short drawn ⊢
        omega

/-- Every admitted packet is framed. A writer sends what it has queued exactly if every
packet fits with the padding drawn for it, and a framed packet fits exactly if its length and
the tail stay below the room behind the headroom. -/
theorem uplink_exact {Rng : Type*} (shared : TransportShared Rng) (seals : Seals shared.cipher)
    (serves : shared.allocation.Serves) :
    (∀ (data : List U8) (storage : Storage) (sequences : FlowSequencer), Admitted data →
      ∃ packet, readInto storage data = some packet ∧
        (frameOutboundPacket sequences packet).2.2 = true ∧
        UplinkPacket (frameOutboundPacket sequences packet).2.1 ∧
        ∀ (writer : TransportWriter Rng) (reading : Reading), writer.mmsgData = [] →
          ((writer.flushQueuedData shared
              [(reading, (frameOutboundPacket sequences packet).2.1)]).2 = .ok () ↔
            data.length + tailLen shared.config.mode
                ((drawPadding shared.random shared.config writer.writeState.rng).1 + 1) ≤
              packetCapacity - packetHeadroom)) ∧
    ∀ (writer : TransportWriter Rng) (pending : List (Reading × PacketBuf)),
      writer.mmsgData = [] → (∀ entry ∈ pending, UplinkPacket entry.2) →
        ((writer.flushQueuedData shared pending).2 = .ok () ↔
          AllFit shared writer.writeState pending) := by
  constructor
  · intro data storage sequences admitted
    obtain ⟨packet, accepted⟩ := readInto_isSome storage admitted.2
    have headroom : frameLen ≤ packet.start := by
      rw [(readInto_range accepted).1]
      decide
    have uplink : UplinkPacket (frameOutboundPacket sequences packet).2.1 :=
      .framed sequences admitted.1 accepted
    refine ⟨packet, accepted, (frameOutboundPacket_range sequences headroom).1, uplink, ?_⟩
    intro writer reading flushed
    rw [TransportWriter.flushQueuedData_ok_iff seals serves _ flushed, AllFit, AllFit, and_true,
      fits_framed_iff sequences accepted]
    intro entry mem
    rw [List.mem_singleton.mp mem]
    exact uplink.ready
  · intro writer pending flushed uplink
    exact TransportWriter.flushQueuedData_ok_iff seals serves
      (fun entry mem => (uplink entry mem).ready) flushed

/-- An audio transport with a bound channel. -/
def audioShared : TransportShared Nat where
  cipher := (OpeningCipher.standard (List.replicate 32 7)).toObfsCipher
  random := .counting
  config := .new .audio 7
  allocation := { closing := false, terminal := none, channel := 0x4000 }
  fecEnabled := true

/-- Before the first packet. -/
def freshWriter : TransportWriter Nat where
  writeState := ⟨5, 6, 7, 8, 9, 23⟩
  fecBudget := { tokens := duplicateBurst, updated := 0 }
  mmsgData := []
  sent := []

def firstReading : Reading where
  elapsed := ⟨1, 0, Duration.whole⟩
  now := 0

theorem uplink_exact_short :
    ∃ packet, readInto .zero [7] = some packet ∧
      (freshWriter.flushQueuedData audioShared
        [(firstReading, (frameOutboundPacket (.withSenderId 1) packet).2.1)]).2 = .ok () := by
  obtain ⟨packet, accepted, -, -, sends⟩ := (uplink_exact audioShared
    (standard_correct (List.replicate 32 7)).seals ⟨rfl, rfl, by decide⟩).1 [7] .zero
      (.withSenderId 1) ⟨rfl, by decide⟩
  exact ⟨packet, accepted, (sends freshWriter firstReading rfl).mpr (by decide)⟩

/-- The longest admitted packet is accepted, and the writer fails on it. -/
theorem uplink_too_long :
    (injectPacket (some (.new : UplinkBridge Unit)) () (List.replicate 2240 0)
        (some .zero)).2 = 0 ∧
      ∃ packet, readInto .zero (List.replicate 2240 0) = some packet ∧
        (frameOutboundPacket (.withSenderId 1) packet).2.2 = true ∧
        (freshWriter.flushQueuedData audioShared
          [(firstReading, (frameOutboundPacket (.withSenderId 1) packet).2.1)]).2 =
            .error "obfs: packet exceeds buffer capacity" := by
  refine ⟨by decide +kernel, ?_⟩
  have length : (List.replicate 2240 0 : List U8).length = 2240 := List.length_replicate
  obtain ⟨packet, accepted⟩ := readInto_isSome .zero (length.trans_le (by decide))
  have headroom : frameLen ≤ packet.start := by
    rw [(readInto_range accepted).1]
    decide
  have uplink : UplinkPacket (frameOutboundPacket (.withSenderId 1) packet).2.1 :=
    .framed (.withSenderId 1) rfl accepted
  refine ⟨packet, accepted, (frameOutboundPacket_range _ headroom).1, ?_⟩
  have large : ¬ Fits audioShared.random audioShared.config freshWriter.writeState
      (frameOutboundPacket (.withSenderId 1) packet).2.1 := by
    rw [fits_framed_iff _ accepted, length]
    decide
  unfold TransportWriter.flushQueuedData
  simp only [TransportWriter.sendPacket,
    TransportWriter.preparePacket_of_not_fits firstReading uplink.ready large]

end Csqtt
