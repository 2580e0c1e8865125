/-
Module: Csqtt.Proofs.ChannelDataRoundTrip
Purpose: What is made a ChannelData message is read back from it, and a batch that passes
  its check is made messages whole.
Trusted boundary: none
Main exports: encodeChannelData_of_padding, processPacket_of_wire, PacketBuf.Fits,
  sendDataBatchInPlace_sent, round_trip_and_whole_batch
-/
import Csqtt.Engine.ChannelDataWire
import Csqtt.Proofs.NonceUse

namespace Csqtt

variable {packet received : PacketBuf} {packets : List PacketBuf} {channel : U16} {padding : Nat}

/-!
### One message
-/

theorem channelDataPadding_ok_iff :
    channelDataPadding packet channel = .ok padding ↔
      (0x4000 ≤ channel ∧ channel ≤ 0x7fff) ∧ packet.len ≤ 65535 ∧
        padding = (4 - packet.len % 4) % 4 ∧ 4 ≤ packet.start ∧
        packet.stop + padding ≤ packetCapacity := by
  rw [channelDataPadding]
  by_cases valid : 0x4000 ≤ channel ∧ channel ≤ 0x7fff
  · rw [if_neg (not_not_intro valid)]
    by_cases large : 65535 < packet.len
    · rw [if_pos large]
      constructor
      · intro impossible
        cases impossible
      · rintro ⟨_, small, _⟩
        exact absurd large (Nat.not_lt_of_le small)
    · rw [if_neg large]
      by_cases full : packet.start < 4 ∨
        packetCapacity < packet.stop + (4 - packet.len % 4) % 4
      · simp only [if_pos full]
        constructor
        · intro impossible
          cases impossible
        · rintro ⟨_, _, rfl, head, tail⟩
          omega
      · simp only [if_neg full, Except.ok.injEq]
        push Not at full
        constructor
        · rintro rfl
          exact ⟨valid, Nat.le_of_not_lt large, rfl, full⟩
        · rintro ⟨_, _, same, _⟩
          exact same.symm
  · rw [if_pos valid]
    constructor
    · intro impossible
      cases impossible
    · rintro ⟨inside, _⟩
      exact absurd inside valid

/-- Whatever passes the check becomes a message: the header, the payload, and zeros. -/
theorem encodeChannelData_of_padding (fits : channelDataPadding packet channel = .ok padding) :
    ∃ encoded, encodeChannelData packet channel = (encoded, .ok ()) ∧
      encoded.asSlice = channelDataBytes channel packet.len ++
        (packet.asSlice ++ List.replicate padding 0) := by
  obtain ⟨_, _, _, head, tail⟩ := channelDataPadding_ok_iff.mp fits
  obtain ⟨extended, grown⟩ := PacketBuf.extendTail_isSome tail
  obtain ⟨_, start, stop⟩ := PacketBuf.extendTail_spec grown
  have ordered := packet.ordered
  have behind : packet.stop = extended.start + packet.len := by
    rw [start, PacketBuf.len]
    omega
  have filled : (extended.write packet.stop (List.replicate padding 0)).asSlice =
      packet.asSlice ++ List.replicate padding 0 := by
    rw [behind, PacketBuf.asSlice_write_behind, PacketBuf.take_asSlice_extendTail grown]
    rw [List.length_replicate, PacketBuf.len, PacketBuf.len]
    omega
  have room : 4 ≤ (extended.write packet.stop (List.replicate padding 0)).start := by
    rw [PacketBuf.write_start, start]
    exact head
  obtain ⟨headed, prepended⟩ := PacketBuf.prepend_isSome room
  have four : (channelDataBytes channel packet.len).length = 4 := rfl
  rw [encodeChannelData, fits]
  simp only [grown, prepended]
  refine ⟨_, rfl, ?_⟩
  rw [PacketBuf.asSlice_prepend_write (by rw [four]; exact prepended), filled]

theorem asSlice_truncate {self truncated : PacketBuf} {count : Nat}
    (cut : self.truncate count = some truncated) :
    truncated.asSlice = self.asSlice.take count := by
  rw [PacketBuf.truncate] at cut
  split at cut
  · next fits =>
      cases cut
      have length : self.len = self.stop - self.start := rfl
      rw [PacketBuf.asSlice, PacketBuf.asSlice, List.extract_eq_take_drop,
        List.extract_eq_take_drop, List.take_take]
      rw [Nat.add_sub_cancel_left, Nat.min_eq_left (by omega)]
  · cases cut

theorem truncate_isSome {self : PacketBuf} {count : Nat} (fits : count ≤ self.len) :
    ∃ truncated, self.truncate count = some truncated := by
  rw [PacketBuf.truncate, dif_pos fits]
  exact ⟨_, rfl⟩

/-- The two leading bits of a channel are those of a message. -/
theorem leading_bits {channel : U16} (valid : 0x4000 ≤ channel ∧ channel ≤ 0x7fff) :
    BitVec.ofNat 8 (channel.toNat / 256) &&& 0xc0#8 = 0x40#8 := by
  have every : ∀ high : Fin 128, 64 ≤ high.val →
      BitVec.ofNat 8 high.val &&& 0xc0#8 = 0x40#8 := by decide
  have low : 0x4000 ≤ channel.toNat := BitVec.le_def.mp valid.1
  have high : channel.toNat ≤ 0x7fff := BitVec.le_def.mp valid.2
  exact every ⟨channel.toNat / 256, by omega⟩ (by simp only; omega)

/-- The fields of a message with a payload and up to three bytes behind it. -/
theorem channelDataHeader_of_wire {payload trailing : List U8}
    (valid : 0x4000 ≤ channel ∧ channel ≤ 0x7fff) (small : payload.length ≤ 65535)
    (few : trailing.length ≤ 3) :
    channelDataHeader (channelDataBytes channel payload.length ++ (payload ++ trailing)) =
      some (channel, payload.length) := by
  have four : (channelDataBytes channel payload.length).length = 4 := rfl
  have whole : (channelDataBytes channel payload.length ++ (payload ++ trailing)).length =
      4 + (payload.length + trailing.length) := by
    rw [List.length_append, List.length_append, four]
  have first : byteAt (channelDataBytes channel payload.length ++ (payload ++ trailing)) 0 &&&
      0xc0#8 = 0x40#8 := by
    have head : byteAt (channelDataBytes channel payload.length ++ (payload ++ trailing)) 0 =
        BitVec.ofNat 8 (channel.toNat / 256) := rfl
    rw [head, leading_bits valid]
  have number : (channelDataBytes channel payload.length ++ (payload ++ trailing)).extract 0 2 =
      beBytes 2 channel.toNat := rfl
  have length : (channelDataBytes channel payload.length ++ (payload ++ trailing)).extract 2 4 =
      beBytes 2 payload.length := rfl
  have back : BitVec.ofNat 16 (beValue (beBytes 2 channel.toNat)) = channel :=
    ofNat_beValue_beBytes channel rfl
  have inside : beValue (beBytes 2 payload.length) = payload.length := by
    rw [beValue_beBytes]
    apply Nat.mod_eq_of_lt
    omega
  rw [channelDataHeader, if_neg]
  · simp only [number, length, back, inside, whole]
    rw [if_neg (not_not_intro valid), if_neg (by omega), if_neg (by omega)]
  · rintro (short | other)
    · omega
    · exact other first

/-- A message of the own channel is received as its payload, wherever it lies in its buffer. -/
theorem processPacket_of_wire {payload trailing : List U8}
    (valid : 0x4000 ≤ channel ∧ channel ≤ 0x7fff) (small : payload.length ≤ 65535)
    (few : trailing.length ≤ 3)
    (arrived : received.asSlice =
      channelDataBytes channel payload.length ++ (payload ++ trailing)) :
    ∃ delivered, processPacket channel received = .deliver delivered ∧
      delivered.asSlice = payload := by
  have four : (channelDataBytes channel payload.length).length = 4 := rfl
  have length : received.len = 4 + (payload.length + trailing.length) := by
    rw [← PacketBuf.length_asSlice, arrived, List.length_append, List.length_append, four]
  have header : 4 ≤ received.len := by omega
  obtain ⟨trimmed, trims⟩ := PacketBuf.trimFront_isSome header
  have behind : trimmed.asSlice = payload ++ trailing := by
    rw [PacketBuf.asSlice_trimFront trims, arrived, ← four, List.drop_left]
  have inside : payload.length ≤ trimmed.len := by
    rw [← PacketBuf.length_asSlice, behind, List.length_append]
    exact Nat.le_add_right _ _
  obtain ⟨delivered, cut⟩ := truncate_isSome inside
  refine ⟨delivered, ?_, ?_⟩
  · simp only [processPacket, arrived, channelDataHeader_of_wire valid small few, trims, cut, ne_eq,
      not_true, if_false]
  · rw [asSlice_truncate cut, behind, List.take_left]

/-!
### A batch
-/

/-- A packet that can be made a message of the channel where it lies. -/
def PacketBuf.Fits (packet : PacketBuf) (channel : U16) : Prop :=
  ∃ padding, channelDataPadding packet channel = .ok padding

theorem validateBatch_ok_iff :
    validateBatch channel packets = .ok () ↔ ∀ packet ∈ packets, packet.Fits channel := by
  induction packets with
  | nil =>
      constructor
      · intro _ packet inside
        cases inside
      · intro _
        rfl
  | cons packet packets inductionHypothesis =>
      rw [validateBatch, List.forM_cons, List.forall_mem_cons]
      cases fits : channelDataPadding packet channel with
      | error error =>
          constructor
          · intro impossible
            cases impossible
          · rintro ⟨⟨padding, other⟩, _⟩
            cases fits.symm.trans other
      | ok padding =>
          constructor
          · intro rest
            exact ⟨⟨padding, fits⟩, inductionHypothesis.mp rest⟩
          · rintro ⟨_, rest⟩
            exact inductionHypothesis.mpr rest

/-- Packets that fit all become messages. -/
theorem encodeInPlace_of_fits (fit : ∀ packet ∈ packets, packet.Fits channel) :
    encodeInPlace channel packets =
      (packets.map fun packet => (encodeChannelData packet channel).1, .ok ()) := by
  induction packets with
  | nil => rfl
  | cons packet packets inductionHypothesis =>
      obtain ⟨padding, fits⟩ := fit packet List.mem_cons_self
      obtain ⟨message, made, _⟩ := encodeChannelData_of_padding fits
      have others : ∀ other ∈ packets, other.Fits channel :=
        fun other inside => fit other (List.mem_cons_of_mem _ inside)
      simp only [encodeInPlace, made, inductionHypothesis others, List.map_cons]

theorem mapM_encoded_of_fits {allocation : Allocation}
    (fit : ∀ packet ∈ packets, packet.Fits allocation.channel) :
    packets.mapM allocation.encoded =
      .ok (packets.map fun packet => (encodeChannelData packet allocation.channel).1.asSlice) := by
  induction packets with
  | nil => rfl
  | cons packet packets inductionHypothesis =>
      obtain ⟨padding, fits⟩ := fit packet List.mem_cons_self
      obtain ⟨message, made, _⟩ := encodeChannelData_of_padding fits
      have others : ∀ other ∈ packets, other.Fits allocation.channel :=
        fun other inside => fit other (List.mem_cons_of_mem _ inside)
      have first : allocation.encoded packet = .ok message.asSlice := by
        rw [Allocation.encoded, made]
        rfl
      rw [List.mapM_cons, first, inductionHypothesis others, List.map_cons, made]
      rfl

/-- What is sent is what the writer is taken to send. -/
theorem sendDataBatchInPlace_sent (allocation : Allocation) (packets : List PacketBuf) :
    (allocation.sendDataBatchInPlace packets).2 = allocation.sendDataBatch packets := by
  rw [Allocation.sendDataBatchInPlace, Allocation.sendDataBatch]
  by_cases empty : packets.isEmpty = true
  · rw [if_pos empty, if_pos empty]
  · rw [if_neg empty, if_neg empty]
    cases allocation.bound with
    | error error => rfl
    | ok _ =>
        cases checked : validateBatch allocation.channel packets with
        | error error =>
            rw [validateBatch] at checked
            rw [checked]
            rfl
        | ok passed =>
            have fit := validateBatch_ok_iff.mp checked
            rw [validateBatch] at checked
            rw [checked, mapM_encoded_of_fits fit]
            simp only [encodeInPlace_of_fits fit, List.map_map]
            rfl

/-- A batch that is refused stays as it is. -/
theorem sendDataBatchInPlace_refused {allocation : Allocation} {error : String}
    (refused : (allocation.sendDataBatchInPlace packets).2 = .error error) :
    (allocation.sendDataBatchInPlace packets).1 = packets := by
  rw [Allocation.sendDataBatchInPlace] at refused ⊢
  by_cases empty : packets.isEmpty = true
  · rw [if_pos empty]
  · rw [if_neg empty] at refused ⊢
    cases bound : allocation.bound with
    | error error => rfl
    | ok _ =>
        cases checked : validateBatch allocation.channel packets with
        | error error => rfl
        | ok passed =>
            simp only [bound, checked,
              encodeInPlace_of_fits (validateBatch_ok_iff.mp checked)] at refused
            cases refused

/-- A packet that fits becomes a message from which its channel and payload are read back. When a
batch passes its check, each of its packets becomes a message, and when it is refused each of them
stays what it is. -/
theorem round_trip_and_whole_batch (channel : U16) (packet : PacketBuf) (allocation : Allocation)
    (packets : List PacketBuf) :
    (packet.Fits channel ↔
      (0x4000 ≤ channel ∧ channel ≤ 0x7fff) ∧ packet.len ≤ 65535 ∧ 4 ≤ packet.start ∧
        packet.stop + (4 - packet.len % 4) % 4 ≤ packetCapacity) ∧
    (packet.Fits channel →
      ∃ message, encodeChannelData packet channel = (message, .ok ()) ∧
        channelDataHeader message.asSlice = some (channel, packet.len) ∧
        ∀ received : PacketBuf, received.asSlice = message.asSlice →
          ∃ delivered, processPacket channel received = .deliver delivered ∧
            delivered.asSlice = packet.asSlice) ∧
    (validateBatch allocation.channel packets = .ok () →
      (∀ packet ∈ packets,
        ∃ message, encodeChannelData packet allocation.channel = (message, .ok ())) ∧
      encodeInPlace allocation.channel packets =
        (packets.map fun packet => (encodeChannelData packet allocation.channel).1, .ok ())) ∧
    (∀ error, (allocation.sendDataBatchInPlace packets).2 = .error error →
      (allocation.sendDataBatchInPlace packets).1 = packets) := by
  refine ⟨?fits, ?back, ?whole, fun error refused => sendDataBatchInPlace_refused refused⟩
  case fits =>
    constructor
    · rintro ⟨padding, passed⟩
      obtain ⟨valid, small, rfl, head, tail⟩ := channelDataPadding_ok_iff.mp passed
      exact ⟨valid, small, head, tail⟩
    · rintro ⟨valid, small, head, tail⟩
      exact ⟨_, channelDataPadding_ok_iff.mpr ⟨valid, small, rfl, head, tail⟩⟩
  case back =>
    rintro ⟨padding, passed⟩
    obtain ⟨message, made, bytes⟩ := encodeChannelData_of_padding passed
    obtain ⟨valid, small, zeros, _⟩ := channelDataPadding_ok_iff.mp passed
    have few : (List.replicate padding (0 : U8)).length ≤ 3 := by
      rw [List.length_replicate]
      omega
    rw [← PacketBuf.length_asSlice] at bytes small
    refine ⟨message, made, ?_, ?_⟩
    · rw [bytes, channelDataHeader_of_wire valid small few, PacketBuf.length_asSlice]
    · intro received same
      exact processPacket_of_wire valid small few (same.trans bytes)
  case whole =>
    intro passed
    have fit := validateBatch_ok_iff.mp passed
    refine ⟨?_, encodeInPlace_of_fits fit⟩
    intro packet inside
    obtain ⟨padding, fits⟩ := fit packet inside
    obtain ⟨message, made, _⟩ := encodeChannelData_of_padding fits
    exact ⟨message, made⟩

end Csqtt
