/-
Module: Csqtt.Proofs.NonceUse
Purpose: What a wrapped packet looks like, under which nonce it is encrypted, and when
  two packets of one stream share their nonce.
Trusted boundary: none
Main exports: wireNonce, ProtectedUnder, wrap_ok, wrapCall, nonces_distinct_iff
-/
import Csqtt.Engine.Obfs
import Csqtt.Proofs.OutboundFraming

namespace Csqtt

open Transducer

/-!
### Bytes of a packet
-/

namespace PacketBuf

theorem extendTail_spec {self extended : PacketBuf} {count : Nat}
    (extends' : self.extendTail count = some extended) :
    extended.storage = self.storage ∧ extended.start = self.start ∧
      extended.stop = self.stop + count := by
  rw [extendTail] at extends'
  split at extends'
  · obtain rfl := Option.some.inj extends'
    exact ⟨rfl, rfl, rfl⟩
  · simp at extends'

theorem extendTail_isSome {self : PacketBuf} {count : Nat}
    (fits : self.stop + count ≤ packetCapacity) :
    ∃ extended, self.extendTail count = some extended := by
  rw [extendTail, dif_pos fits]
  exact ⟨_, rfl⟩

theorem take_asSlice_extendTail {self extended : PacketBuf} {count : Nat}
    (extends' : self.extendTail count = some extended) :
    extended.asSlice.take self.len = self.asSlice := by
  obtain ⟨storage, start, stop⟩ := extendTail_spec extends'
  have length : self.len = self.stop - self.start := rfl
  have longer : extended.len = extended.stop - extended.start := rfl
  have ordered := self.ordered
  apply List.ext_getElem?
  intro index
  rw [List.getElem?_take, getElem?_asSlice, getElem?_asSlice, storage, start]
  by_cases inside : index < self.len
  · rw [if_pos inside, if_pos inside, if_pos (by omega)]
  · rw [if_neg inside, if_neg inside]

/-- Bytes written up to the end replace all behind them. -/
theorem asSlice_write_behind {self : PacketBuf} {count : Nat} {bytes : List U8}
    (exact' : count + bytes.length = self.len) :
    (self.write (self.start + count) bytes).asSlice = self.asSlice.take count ++ bytes := by
  have length : self.len = self.stop - self.start := rfl
  have bounded := self.bounded
  have front : (self.asSlice.take count).length = count := by
    rw [List.length_take, length_asSlice]
    omega
  apply List.ext_getElem?
  intro index
  rw [getElem?_asSlice, write_len, write_start, List.getElem?_append, front]
  by_cases early : index < count
  · rw [if_pos (by omega), if_pos early, List.getElem?_take_of_lt early, getElem?_asSlice,
      if_pos (by omega), getElem?_write _ _ _ (by omega), if_neg (by omega)]
  · rw [if_neg early]
    by_cases inside : index < self.len
    · rw [if_pos inside, getElem?_write _ _ _ (by omega), if_pos ⟨by omega, by omega⟩]
      exact congrArg (bytes[·]?) (by omega)
    · rw [if_neg inside, List.getElem?_eq_none (by omega)]

end PacketBuf

/-!
### The nonce in the header
-/

theorem length_rtpHeader (config : ObfsConfig) (marker : Bool) (sequence : U16)
    (timestamp absoluteSendTime : U32) (transportSequence : U16) :
    (rtpHeader config marker sequence timestamp absoluteSendTime transportSequence).length = 24 := by
  simp [rtpHeader]

theorem srtpIv_eq (ssrc : U32) (sequence : U16) (timestamp : U32) :
    srtpIv ssrc sequence timestamp = nonce ssrc sequence timestamp ++ [0, 0, 0, 0] := rfl

/-- The nonce that the receiver makes of the header of a packet. -/
def wireNonce (wire : List U8) : List U8 :=
  nonce (BitVec.ofNat 32 (beValue (wire.extract 8 12)))
    (BitVec.ofNat 16 (beValue (wire.extract 2 4)))
    (BitVec.ofNat 32 (beValue (wire.extract 4 8)))

section Header

variable (config : ObfsConfig) (marker : Bool) (sequence : U16)
  (timestamp absoluteSendTime : U32) (transportSequence : U16) (body : List U8)

theorem extract_sequence :
    (rtpHeader config marker sequence timestamp absoluteSendTime transportSequence ++
      body).extract 2 4 = beBytes 2 sequence.toNat := by
  simp [rtpHeader]

theorem extract_timestamp :
    (rtpHeader config marker sequence timestamp absoluteSendTime transportSequence ++
      body).extract 4 8 = beBytes 4 timestamp.toNat := by
  simp [rtpHeader]

theorem extract_ssrc :
    (rtpHeader config marker sequence timestamp absoluteSendTime transportSequence ++
      body).extract 8 12 = beBytes 4 config.ssrc.toNat := by
  simp [rtpHeader, List.drop_append, List.drop_eq_nil_of_le]

/-- The header carries the nonce. -/
theorem wireNonce_rtpHeader :
    wireNonce (rtpHeader config marker sequence timestamp absoluteSendTime transportSequence ++
      body) = nonce config.ssrc sequence timestamp := by
  rw [wireNonce, extract_sequence, extract_timestamp, extract_ssrc,
    @ofNat_beValue_beBytes 16 2 sequence rfl, @ofNat_beValue_beBytes 32 4 timestamp rfl,
    @ofNat_beValue_beBytes 32 4 config.ssrc rfl]

end Header

theorem nonce_eq_iff {ssrc : U32} {sequence sequence' : U16} {timestamp timestamp' : U32} :
    nonce ssrc sequence timestamp = nonce ssrc sequence' timestamp' ↔
      sequence = sequence' ∧ timestamp = timestamp' := by
  refine ⟨fun same => ?_, by rintro ⟨rfl, rfl⟩; rfl⟩
  simp only [nonce, List.append_assoc, List.append_cancel_left_eq] at same
  obtain ⟨sequences, rest⟩ := List.append_inj same (by simp)
  have timestamps := List.append_cancel_left rest
  refine ⟨BitVec.eq_of_toNat_eq ?_, BitVec.eq_of_toNat_eq ?_⟩
  · exact beBytes_injective sequence.isLt sequence'.isLt sequences
  · exact beBytes_injective timestamp.isLt timestamp'.isLt timestamps

/-!
### One packet
-/

variable {Rng : Type*}

/-- How a wrapped packet is encrypted: under the nonce in its header, which in counter
mode is continued by a block counter of zero. -/
def ProtectedUnder (cipher : ObfsCipher) (mode : ObfsMode) (payload wire : List U8) : Prop :=
  match mode with
  | .video => ∃ header padding, header.length = 24 ∧
      let encrypted := cipher.applyKeystream (wireNonce wire ++ [0, 0, 0, 0]) payload
      wire = header ++ encrypted ++ padding ++
        (cipher.hmac (header ++ encrypted ++ padding)).take 10
  | .audio => ∃ header encrypted tag padding, header.length = 24 ∧
      cipher.sealInPlace (wireNonce wire) header payload = some (encrypted, tag) ∧
      wire = header ++ encrypted ++ tag ++ padding

theorem length_paddingBytes (random : RandomSource Rng) (rng : Rng) (paddingRandom : Nat) :
    (paddingBytes random rng paddingRandom).1.length = paddingRandom + 1 := by
  rw [paddingBytes]
  split
  · rename_i nothing
    rw [nothing]
    rfl
  · simp [random.length_bytes]

/-- The bytes of a packet whose payload and tail have been filled in. -/
theorem protect_ok {cipher : ObfsCipher} {random : RandomSource Rng} {config : ObfsConfig}
    {sequence : U16} {timestamp : U32} {paddingRandom : Nat} {header payload : List U8} {rng : Rng}
    {packet : PacketBuf} (headed : packet.asSlice.take 24 = header) (length : header.length = 24)
    (carries : ∀ body, wireNonce (header ++ body) = nonce config.ssrc sequence timestamp)
    (room : packet.len = 24 + payload.length + tailLen config.mode (paddingRandom + 1))
    (succeeds : (protect cipher random config sequence timestamp paddingRandom header payload rng
      packet).2 = .ok ()) :
    wireNonce (protect cipher random config sequence timestamp paddingRandom header payload rng
        packet).1.2.asSlice = nonce config.ssrc sequence timestamp ∧
      ProtectedUnder cipher config.mode payload
        (protect cipher random config sequence timestamp paddingRandom header payload rng
          packet).1.2.asSlice := by
  have filled (body : List U8) (whole : 24 + body.length = packet.len) :
      (packet.write (packet.start + 24) body).asSlice = header ++ body := by
    rw [PacketBuf.asSlice_write_behind whole, headed]
  cases mode : config.mode with
  | video =>
      simp only [protect, mode, tailLen] at room ⊢
      rw [filled _ (by
        simp only [List.length_append, cipher.length_applyKeystream, length_paddingBytes,
          List.length_take, cipher.length_hmac]
        omega), carries]
      refine ⟨rfl, header, (paddingBytes random rng paddingRandom).1, length, ?_⟩
      rw [carries, srtpIv_eq]
      simp only [List.append_assoc]
  | audio =>
      simp only [protect, mode, tailLen] at room succeeds ⊢
      cases sealing : cipher.sealInPlace (nonce config.ssrc sequence timestamp) header payload with
      | none => simp [sealing] at succeeds
      | some result =>
          obtain ⟨encrypted, tag⟩ := result
          obtain ⟨sameLength, tagLength⟩ := cipher.length_seal _ _ _ _ _ sealing
          dsimp only
          rw [filled _ (by
            simp only [List.length_append, sameLength, length_paddingBytes, tagLength]
            omega), carries]
          refine ⟨rfl, header, encrypted, tag, (paddingBytes random rng paddingRandom).1, length,
            ?_, ?_⟩
          · rw [carries]
            exact sealing
          · simp only [List.append_assoc]

/-- Whatever becomes of a packet, the state has counted it unless it was empty. -/
theorem wrap_state (cipher : ObfsCipher) (random : RandomSource Rng) (config : ObfsConfig)
    (state : ObfsState Rng) (elapsed : Duration) (packet : PacketBuf) :
    (wrap cipher random config state elapsed packet).1.1.initialSequence = state.initialSequence ∧
      (wrap cipher random config state elapsed packet).1.1.initialTimestamp =
        state.initialTimestamp ∧
      (wrap cipher random config state elapsed packet).1.1.count =
        if packet.isEmpty then state.count else state.count + 1 := by
  simp only [wrap, ObfsState.next]
  cases packet.isEmpty with
  | true => exact ⟨rfl, rfl, rfl⟩
  | false =>
      simp only [Bool.false_eq_true, if_false]
      by_cases tooLarge : packet.start < 24 ∨
          packetCapacity < packet.stop +
            tailLen config.mode ((drawPadding random config state.rng).1 + 1)
      · simp [tooLarge]
      · simp only [tooLarge, if_false]
        cases packet.prepend 24 with
        | none => exact ⟨rfl, rfl, rfl⟩
        | some prefixed =>
            dsimp only
            generalize (prefixed.write _ _).extendTail _ = extended
            cases extended with
            | none => exact ⟨rfl, rfl, rfl⟩
            | some extended => exact ⟨rfl, rfl, rfl⟩

/-- A packet that is not empty and has room on both sides gets its header and is protected. -/
theorem wrap_eq_protect (cipher : ObfsCipher) {random : RandomSource Rng} {config : ObfsConfig}
    {state : ObfsState Rng} (elapsed : Duration) {packet : PacketBuf}
    (some : packet.isEmpty = false) (head : 24 ≤ packet.start)
    (tail : packet.stop + tailLen config.mode ((drawPadding random config state.rng).1 + 1) ≤
      packetCapacity) :
    ∃ marker absoluteSendTime rng extended,
      let sequence := state.initialSequence + state.count.setWidth 16
      let timestamp :=
        state.initialTimestamp + durationTicks elapsed (rtpClockRate config.payloadType)
      let header := rtpHeader config marker sequence timestamp absoluteSendTime
        state.transportSequence
      let filled := protect cipher random config sequence timestamp
        (drawPadding random config state.rng).1 header packet.asSlice rng extended
      extended.asSlice.take 24 = header ∧ extended.start + 24 = packet.start ∧
        extended.len = 24 + packet.asSlice.length +
          tailLen config.mode ((drawPadding random config state.rng).1 + 1) ∧
        (wrap cipher random config state elapsed packet).1.2 = filled.1.2 ∧
        (wrap cipher random config state elapsed packet).2 = filled.2 := by
  have fits : ¬ (packet.start < 24 ∨ packetCapacity < packet.stop +
      tailLen config.mode ((drawPadding random config state.rng).1 + 1)) := by omega
  obtain ⟨prefixed, prepended⟩ := PacketBuf.prepend_isSome head
  obtain ⟨_, prefixedStart, whole⟩ := PacketBuf.prepend_spec prepended
  have ordered := packet.ordered
  have stop := PacketBuf.prepend_stop prepended
  let header := rtpHeader config (drawMarker random config (drawPadding random config state.rng).2).1
    (state.initialSequence + state.count.setWidth 16)
    (state.initialTimestamp + durationTicks elapsed (rtpClockRate config.payloadType))
    (state.initialAbsSendTime + durationTicks elapsed 262144 &&& 0x00ffffff)
    state.transportSequence
  have headerLength : header.length = 24 := length_rtpHeader ..
  have headed : (prefixed.write prefixed.start header).asSlice = header ++ packet.asSlice :=
    PacketBuf.asSlice_prepend_write (by rw [headerLength]; exact prepended)
  obtain ⟨extended, extends'⟩ := PacketBuf.extendTail_isSome
    (show (prefixed.write prefixed.start header).stop + _ ≤ _ from (stop.symm ▸ tail))
  obtain ⟨_, extendedStart, extendedStop⟩ := PacketBuf.extendTail_spec extends'
  rw [PacketBuf.write_start] at extendedStart
  rw [PacketBuf.write_stop] at extendedStop
  refine ⟨(drawMarker random config (drawPadding random config state.rng).2).1,
    state.initialAbsSendTime + durationTicks elapsed 262144 &&& 0x00ffffff,
    (drawMarker random config (drawPadding random config state.rng).2).2, extended, ?_, ?_, ?_, ?_,
    ?_⟩
  · have front := congrArg (List.take 24) (PacketBuf.take_asSlice_extendTail extends')
    rw [List.take_take, headed, PacketBuf.write_len, whole, Nat.min_eq_left (by omega),
      ← headerLength, List.take_left, headerLength] at front
    exact front
  · rw [extendedStart, prefixedStart]
  · rw [PacketBuf.length_asSlice]
    simp only [PacketBuf.len]
    omega
  · simp only [wrap, some, Bool.false_eq_true, if_false, ObfsState.next,
      ObfsConfig.initialSequence, fits, prepended]
    rw [extends']
  · simp only [wrap, some, Bool.false_eq_true, if_false, ObfsState.next,
      ObfsConfig.initialSequence, fits, prepended]
    rw [extends']

/-- A wrapped packet carries the numbers of its call, and is encrypted under them. -/
theorem wrap_ok {cipher : ObfsCipher} {random : RandomSource Rng} {config : ObfsConfig}
    {state : ObfsState Rng} {elapsed : Duration} {packet : PacketBuf}
    (succeeds : (wrap cipher random config state elapsed packet).2 = .ok ()) :
    packet.isEmpty = false ∧
      wireNonce (wrap cipher random config state elapsed packet).1.2.asSlice =
        nonce config.ssrc (state.initialSequence + state.count.setWidth 16)
          (state.initialTimestamp + durationTicks elapsed (rtpClockRate config.payloadType)) ∧
      ProtectedUnder cipher config.mode packet.asSlice
        (wrap cipher random config state elapsed packet).1.2.asSlice := by
  cases empty : packet.isEmpty with
  | true => simp [wrap, empty] at succeeds
  | false =>
      refine ⟨rfl, ?_⟩
      by_cases fits : packet.start < 24 ∨ packetCapacity < packet.stop +
          tailLen config.mode ((drawPadding random config state.rng).1 + 1)
      · simp [wrap, empty, ObfsState.next, fits] at succeeds
      · obtain ⟨marker, absoluteSendTime, rng, extended, headed, -, room, wrapped, result⟩ :=
          wrap_eq_protect cipher elapsed empty (Nat.le_of_not_lt fun low => fits (Or.inl low))
            (Nat.le_of_not_lt fun high => fits (Or.inr high))
        rw [result] at succeeds
        rw [wrapped]
        exact protect_ok headed (length_rtpHeader ..) (wireNonce_rtpHeader _ _ _ _ _ _) room succeeds

/-!
### A stream of packets
-/

/-- The ticks of a timestamp are the full ticks modulo its width. -/
theorem durationTicks_eq (elapsed : Duration) (clockRate : U32) :
    durationTicks elapsed clockRate = BitVec.ofNat 32 (elapsed.ticks clockRate) := by
  have small := elapsed.subsec
  have rate := clockRate.isLt
  have product : elapsed.subsecNanos * clockRate.toNat < 2 ^ 64 := by
    calc elapsed.subsecNanos * clockRate.toNat
      _ ≤ 1000000000 * 2 ^ 32 := Nat.mul_le_mul (Nat.le_of_lt small) (Nat.le_of_lt rate)
      _ < 2 ^ 64 := by decide
  have whole : elapsed.ticks clockRate =
      elapsed.secs.toNat * clockRate.toNat + elapsed.subsecNanos * clockRate.toNat / 1000000000 := by
    rw [Duration.ticks, Duration.asNanos, Nat.add_mul, Nat.mul_right_comm, Nat.mul_comm _ 1000000000,
      Nat.mul_add_div (by decide)]
  have billion : (1000000000 : U64).toNat = 1000000000 := rfl
  apply BitVec.eq_of_toNat_eq
  rw [whole, durationTicks]
  simp only [BitVec.toNat_setWidth, BitVec.toNat_add, BitVec.toNat_mul, BitVec.toNat_udiv,
    BitVec.toNat_ofNat, billion]
  rw [Nat.mod_eq_of_lt (show clockRate.toNat < 2 ^ 64 by omega),
    Nat.mod_eq_of_lt (show elapsed.subsecNanos < 2 ^ 64 by omega), Nat.mod_eq_of_lt product]
  omega

/-- A call as a step that emits the packet it wraps. -/
def wrapCall (cipher : ObfsCipher) (random : RandomSource Rng) (config : ObfsConfig)
    (state : ObfsState Rng) (call : Duration × PacketBuf) : ObfsState Rng × Option PacketBuf :=
  let wrapped := wrap cipher random config state call.1 call.2
  match wrapped.2 with
  | .ok () => (wrapped.1.1, some wrapped.1.2)
  | .error _ => (wrapped.1.1, none)

/-- Number of a call: that of the non-empty packets before it. -/
def callNumber (calls : List (Duration × PacketBuf)) (index : Nat) : Nat :=
  (calls.take index).countP fun call => !call.2.isEmpty

/-- The state before a call. -/
theorem run_wrapCall (cipher : ObfsCipher) (random : RandomSource Rng) (config : ObfsConfig)
    (state : ObfsState Rng) (calls : List (Duration × PacketBuf)) :
    (run (wrapCall cipher random config) state calls).1.initialSequence = state.initialSequence ∧
      (run (wrapCall cipher random config) state calls).1.initialTimestamp =
        state.initialTimestamp ∧
      (run (wrapCall cipher random config) state calls).1.count =
        state.count + BitVec.ofNat 64 (calls.countP fun call => !call.2.isEmpty) := by
  induction calls using List.reverseRecOn with
  | nil => simp
  | append_singleton calls call inductionHypothesis =>
      obtain ⟨sequence, timestamp, count⟩ := inductionHypothesis
      rw [run_concat]
      generalize (run (wrapCall cipher random config) state calls).1 = current
        at sequence timestamp count ⊢
      have same : (wrapCall cipher random config current call).1 =
          (wrap cipher random config current call.1 call.2).1.1 := by
        rw [wrapCall]
        split <;> rfl
      obtain ⟨sequence', timestamp', count'⟩ :=
        wrap_state cipher random config current call.1 call.2
      dsimp only
      rw [same, sequence', timestamp', count']
      refine ⟨sequence, timestamp, ?_⟩
      rw [List.countP_append, List.countP_singleton, count]
      cases call.2.isEmpty with
      | true => simp
      | false =>
          simp only [Bool.false_eq_true, if_false, Bool.not_false, if_true, BitVec.ofNat_add]
          rw [BitVec.add_assoc]
          rfl

/-- The nonce of a wrapped packet, from its place in the stream. -/
theorem wrapped_nonce {cipher : ObfsCipher} {random : RandomSource Rng} {config : ObfsConfig}
    {state : ObfsState Rng} {calls : List (Duration × PacketBuf)} {index : Nat}
    {packet : PacketBuf}
    (found : (run (wrapCall cipher random config) state calls).2[index]? = some (some packet)) :
    ∃ call, calls[index]? = some call ∧
      wireNonce packet.asSlice =
        nonce config.ssrc
          (state.initialSequence + (state.count.setWidth 16 +
            BitVec.ofNat 16 (callNumber calls index)))
          (state.initialTimestamp +
            BitVec.ofNat 32 (call.1.ticks (rtpClockRate config.payloadType))) ∧
      ProtectedUnder cipher config.mode call.2.asSlice packet.asSlice := by
  rw [getElem?_run, Option.map_eq_some_iff] at found
  obtain ⟨call, listed, output⟩ := found
  obtain ⟨sequence, timestamp, count⟩ :=
    run_wrapCall cipher random config state (calls.take index)
  generalize (run (wrapCall cipher random config) state (calls.take index)).1 = current
    at output sequence timestamp count
  rw [wrapCall] at output
  split at output
  · rename_i succeeds
    obtain rfl := Option.some.inj output
    obtain ⟨_, carried, isProtected⟩ := wrap_ok succeeds
    refine ⟨call, listed, ?_, isProtected⟩
    rw [carried, sequence, timestamp, count, durationTicks_eq, BitVec.setWidth_add _ _ (by decide),
      BitVec.setWidth_ofNat_of_le (by decide)]
    rfl
  · simp at output

def NoncesDistinct (wrapped : List (Option PacketBuf)) : Prop :=
  ∀ (first second : Nat) (one other : PacketBuf), first < second →
    wrapped[first]? = some (some one) → wrapped[second]? = some (some other) →
      wireNonce one.asSlice ≠ wireNonce other.asSlice

/-- No two wrapped packets whose call numbers differ by a multiple of 65536 are the same
number of ticks into the stream, modulo the width of a timestamp. -/
def TicksApart (config : ObfsConfig) (calls : List (Duration × PacketBuf))
    (wrapped : List (Option PacketBuf)) : Prop :=
  ∀ (first second : Nat) (one other : Duration × PacketBuf), first < second →
    calls[first]? = some one → calls[second]? = some other →
    wrapped[first]?.join.isSome → wrapped[second]?.join.isSome →
    callNumber calls first % 2 ^ 16 = callNumber calls second % 2 ^ 16 →
      one.1.ticks (rtpClockRate config.payloadType) % 2 ^ 32 ≠
        other.1.ticks (rtpClockRate config.payloadType) % 2 ^ 32

theorem ofNat_eq_ofNat_iff {width first second : Nat} :
    BitVec.ofNat width first = BitVec.ofNat width second ↔
      first % 2 ^ width = second % 2 ^ width := by
  rw [← BitVec.toNat_inj, BitVec.toNat_ofNat, BitVec.toNat_ofNat]

/-- Every packet of a stream is encrypted under the nonce in its header, and these
nonces are distinct exactly when no two calls a multiple of 65536 apart share their
ticks. -/
theorem nonces_distinct_iff (cipher : ObfsCipher) (random : RandomSource Rng)
    (config : ObfsConfig) (state : ObfsState Rng) (calls : List (Duration × PacketBuf)) :
    (∀ (index : Nat) (packet : PacketBuf),
      (run (wrapCall cipher random config) state calls).2[index]? = some (some packet) →
      ∃ call, calls[index]? = some call ∧
        ProtectedUnder cipher config.mode call.2.asSlice packet.asSlice) ∧
    (NoncesDistinct (run (wrapCall cipher random config) state calls).2 ↔
      TicksApart config calls (run (wrapCall cipher random config) state calls).2) := by
  refine ⟨fun index packet found => ?_, fun distinct => ?_, fun apart => ?_⟩
  · obtain ⟨call, listed, _, isProtected⟩ := wrapped_nonce found
    exact ⟨call, listed, isProtected⟩
  · intro first second one other ordered listed listed' isWrapped isWrapped' numbers ticks
    obtain ⟨packet, joined⟩ := Option.isSome_iff_exists.mp isWrapped
    obtain ⟨packet', joined'⟩ := Option.isSome_iff_exists.mp isWrapped'
    rw [Option.join_eq_some_iff] at joined joined'
    obtain ⟨call, found, carried, _⟩ := wrapped_nonce joined
    obtain ⟨call', found', carried', _⟩ := wrapped_nonce joined'
    obtain rfl := Option.some.inj (listed.symm.trans found)
    obtain rfl := Option.some.inj (listed'.symm.trans found')
    refine distinct first second packet packet' ordered joined joined' ?_
    rw [carried, carried', ofNat_eq_ofNat_iff.mpr numbers, ofNat_eq_ofNat_iff.mpr ticks]
  · intro first second one other ordered found found' same
    obtain ⟨call, listed, carried, _⟩ := wrapped_nonce found
    obtain ⟨call', listed', carried', _⟩ := wrapped_nonce found'
    rw [carried, carried', nonce_eq_iff] at same
    obtain ⟨sequences, timestamps⟩ := same
    simp only [BitVec.add_right_inj, ofNat_eq_ofNat_iff] at sequences timestamps
    exact apart first second call call' ordered listed listed' (by simp [found]) (by simp [found'])
      sequences timestamps

/-!
### A repeated nonce
-/

theorem drawPadding_le (random : RandomSource Rng) (config : ObfsConfig) (rng : Rng) :
    (drawPadding random config rng).1 ≤ config.paddingMax := by
  rw [drawPadding]
  split
  · exact Nat.zero_le _
  · rename_i some'
    exact Nat.le_of_lt (random.range_lt rng config.paddingMax (Nat.pos_of_ne_zero some'))

/-- A video packet with room on both sides is always wrapped. -/
theorem wrap_video_succeeds {cipher : ObfsCipher} {random : RandomSource Rng} {config : ObfsConfig}
    {state : ObfsState Rng} {elapsed : Duration} {packet : PacketBuf} (video : config.mode = .video)
    (nonempty : packet.isEmpty = false) (front : 24 ≤ packet.start)
    (back : packet.stop + config.paddingMax + 11 ≤ packetCapacity) :
    (wrap cipher random config state elapsed packet).2 = .ok () := by
  have padding := drawPadding_le random config state.rng
  have small : ¬ (packet.start < 24 ∨ packetCapacity < packet.stop +
      tailLen config.mode ((drawPadding random config state.rng).1 + 1)) := by
    rw [video, tailLen]
    omega
  obtain ⟨prefixed, prepended⟩ := PacketBuf.prepend_isSome front
  simp only [wrap, nonempty, Bool.false_eq_true, if_false, ObfsState.next, small, prepended]
  generalize written : prefixed.write prefixed.start _ = headed
  have stop : headed.stop = packet.stop := by
    rw [← written, PacketBuf.write_stop]
    rw [PacketBuf.prepend, if_pos front] at prepended
    rw [← Option.some.inj prepended]
  have fits : headed.stop + tailLen config.mode ((drawPadding random config state.rng).1 + 1) ≤
      packetCapacity := by
    rw [stop]
    omega
  simp only [PacketBuf.extendTail, fits, dif_pos]
  simp only [protect, video]

/-- One byte of payload. -/
def shortPacket : PacketBuf where
  storage := List.replicate packetCapacity 1
  start := packetHeadroom
  stop := packetHeadroom + 1
  sized := List.length_replicate
  ordered := by decide
  bounded := by decide

/-- A packet at the start, 65535 one second later, and one after 13 hours, when the 90 kHz
clock has gone round exactly once. -/
def longStream : List (Duration × PacketBuf) :=
  ({ secs := 0, subsecNanos := 0, subsec := Duration.whole }, shortPacket) ::
    (List.replicate 65535 ({ secs := 1, subsecNanos := 0, subsec := Duration.whole }, shortPacket) ++
      [({ secs := 47721, subsecNanos := 858844445, subsec := by decide }, shortPacket)])

private theorem getElem?_last {Item : Type*} (count : Nat) (first middle last : Item) :
    (first :: (List.replicate count middle ++ [last]))[count + 1]? = some last := by
  rw [List.getElem?_cons_succ, List.getElem?_append_right (by simp), List.length_replicate,
    Nat.sub_self]
  rfl

private theorem take_before_last {Item : Type*} (count : Nat) (first middle last : Item) :
    (first :: (List.replicate count middle ++ [last])).take (count + 1) =
      first :: List.replicate count middle := by
  rw [List.take_succ_cons, List.take_append_of_le_length (by simp),
    List.take_of_length_le (by simp)]

private theorem countP_before_last {Item : Type*} (counts : Item → Bool) (count : Nat)
    {first middle : Item} (one : counts first = true) (others : counts middle = true) :
    (first :: List.replicate count middle).countP counts = count + 1 := by
  rw [List.countP_cons, List.countP_replicate, if_pos one, if_pos others]

/-- The last packet of the long stream repeats the nonce of the first, whatever the
ciphers and the generator. -/
theorem nonce_repeated :
    (longStream.Pairwise fun one other => one.1.asNanos ≤ other.1.asNanos) ∧
      ∀ (Rng : Type) (cipher : ObfsCipher) (random : RandomSource Rng) (state : ObfsState Rng),
        ¬ NoncesDistinct
          (run (wrapCall cipher random (.new .video 7)) state longStream).2 := by
  refine ⟨?_, fun Rng cipher random state distinct => ?_⟩
  · refine List.pairwise_cons.mpr ⟨fun other _ => by simp [Duration.asNanos], ?_⟩
    refine List.pairwise_append.mpr
      ⟨?_, List.pairwise_singleton _ _, fun one member last isLast => ?_⟩
    · exact List.pairwise_replicate.mpr (.inr (Nat.le_refl _))
    · rw [List.eq_of_mem_replicate member, List.mem_singleton.mp isLast]
      decide
  · have wrapped (index : Nat) (call : Duration × PacketBuf)
        (listed : longStream[index]? = some call) (short : call.2 = shortPacket) : ∃ packet,
        (run (wrapCall cipher random (.new .video 7)) state longStream).2[index]? =
          some (some packet) := by
      have succeeds := @wrap_video_succeeds _ cipher random (.new .video 7)
        (run (wrapCall cipher random (.new .video 7)) state (longStream.take index)).1 call.1
        call.2 rfl (by rw [short]; decide) (by rw [short]; decide) (by rw [short]; decide)
      rw [getElem?_run, listed, Option.map_some, wrapCall]
      simp only [succeeds]
      exact ⟨_, rfl⟩
    have first : longStream[0]? =
        some ({ secs := 0, subsecNanos := 0, subsec := Duration.whole }, shortPacket) := rfl
    have last : longStream[65536]? =
        some ({ secs := 47721, subsecNanos := 858844445, subsec := by decide }, shortPacket) :=
      getElem?_last 65535 _ _ _
    obtain ⟨one, firstWrapped⟩ := wrapped 0 _ first rfl
    obtain ⟨other, lastWrapped⟩ := wrapped 65536 _ last rfl
    obtain ⟨call, listed, carried, _⟩ := wrapped_nonce firstWrapped
    obtain ⟨call', listed', carried', _⟩ := wrapped_nonce lastWrapped
    obtain rfl := Option.some.inj (first.symm.trans listed)
    obtain rfl := Option.some.inj (last.symm.trans listed')
    have firstNumber : callNumber longStream 0 = 0 := rfl
    have lastNumber : callNumber longStream 65536 = 65536 := by
      have before : longStream.take 65536 =
          ({ secs := 0, subsecNanos := 0, subsec := Duration.whole }, shortPacket) ::
            List.replicate 65535
              ({ secs := 1, subsecNanos := 0, subsec := Duration.whole }, shortPacket) :=
        take_before_last 65535 _ _ _
      rw [callNumber, before]
      exact countP_before_last _ 65535 rfl rfl
    refine distinct 0 65536 one other (by decide) firstWrapped lastWrapped ?_
    rw [carried, carried', firstNumber, lastNumber]
    rfl

end Csqtt
