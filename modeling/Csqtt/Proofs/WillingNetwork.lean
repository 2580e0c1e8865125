/-
Module: Csqtt.Proofs.WillingNetwork
Purpose: On a socket that takes every datagram a writer does what the writer without a network
  does, so what holds of the one holds of the other.
Trusted boundary: none
Main exports: Willing, Follows, flushQueuedData_follows
-/
import Csqtt.Proofs.WriterFlush

namespace Csqtt

variable {Rng : Type*} {network : Network} {shared : TransportShared Rng}
  {start : SocketWriter Rng}

/-- A socket that takes whatever it is offered. -/
structure Willing (network : Network) : Prop where
  udp : network.outbound = .udp
  takes : ∀ attempt, network.answers attempt ≠ .failed

/-- The writer on a network has become what the other writer has, with the same answer. -/
structure Follows (result : SocketWriter Rng × Except String Unit)
    (plain : TransportWriter Rng × Except String Unit) : Prop where
  writer : result.1.toTransportWriter = plain.1
  answer : result.2 = plain.2

theorem filter_taken (datagrams : List (List U8)) :
    ((datagrams.map (·, true)).filter (·.2)).map (·.1) = datagrams := by
  induction datagrams with
  | nil => rfl
  | cons datagram datagrams inductionHypothesis =>
      exact congrArg (datagram :: ·) inductionHypothesis

/-- All of what is offered is sent. -/
theorem Sends.willing (willing : Willing network) {datagrams : List (List U8)}
    {result : SocketWriter Rng × Bool} (sends : Sends network start datagrams result) :
    result.2 = true ∧ result.1.toTransportWriter =
      { start.toTransportWriter with sent := start.sent ++ datagrams } := by
  obtain ⟨tries, fares, puts, same⟩ := sends
  obtain ⟨after, taken⟩ := result
  cases taken with
  | false =>
      cases fares with
      | part before datagram behind =>
          obtain ⟨attempt, _, _, failed⟩ := puts.refused (datagram, false)
            (List.mem_append_right _ (List.mem_singleton_self _)) rfl
          exact absurd failed (willing.takes attempt)
  | true =>
      cases fares with
      | whole =>
          have sent := puts.sent
          rw [filter_taken] at sent
          refine ⟨rfl, ?_⟩
          obtain ⟨⟨writeState, fecBudget, mmsgData, _⟩, _, _⟩ := after
          obtain ⟨state, budget, data⟩ := same
          dsimp only at state budget data sent ⊢
          rw [state, budget, data, sent]

theorem allocation_sendWithDuplicate (allocation : Allocation) (packet : PacketBuf)
    (duplicate : Bool) :
    allocation.sendWithDuplicate packet duplicate =
      (allocation.sendWithDuplicate packet false).map fun datagrams =>
        if duplicate then datagrams ++ datagrams else datagrams := by
  rw [Allocation.sendWithDuplicate, Allocation.sendWithDuplicate]
  cases allocation.bound with
  | error error => rfl
  | ok _ =>
      cases allocation.encoded packet with
      | error error => rfl
      | ok datagram =>
          cases duplicate with
          | false => rfl
          | true => rfl

namespace SocketWriter

theorem flushMmsgData_follows (willing : Willing network) :
    Follows (start.flushMmsgData network shared)
      (start.toTransportWriter.flushMmsgData shared) := by
  rw [flushMmsgData, TransportWriter.flushMmsgData]
  by_cases empty : start.mmsgData.isEmpty = true
  · rw [if_pos empty, if_pos empty]
    exact ⟨rfl, rfl⟩
  · rw [if_neg empty, if_neg empty, ← sendDataBatchInPlace_sent]
    cases passes : (shared.allocation.sendDataBatchInPlace start.mmsgData).2 with
    | error error =>
        have same := sendDataBatchInPlace_refused passes
        simp only [passes, same]
        exact ⟨rfl, rfl⟩
    | ok datagrams =>
        obtain ⟨taken, after⟩ := (sendDatagrams_sends network datagrams start).willing willing
        generalize sends : sendDatagrams network datagrams start = result at taken after
        obtain ⟨sent, answer⟩ := result
        dsimp only at taken after
        subst taken
        obtain ⟨⟨writeState, fecBudget, mmsgData, sentBefore⟩, attempts, offered⟩ := sent
        cases after
        simp only [passes, sends]
        exact ⟨rfl, rfl⟩

theorem sendWithDuplicate_follows (willing : Willing network) (packet : PacketBuf)
    (duplicate : Bool) :
    Follows (start.sendWithDuplicate network shared packet duplicate)
      (start.toTransportWriter.sendWithDuplicate shared packet duplicate) := by
  rw [sendWithDuplicate, TransportWriter.sendWithDuplicate,
    allocation_sendWithDuplicate shared.allocation packet duplicate]
  cases passes : shared.allocation.sendWithDuplicate packet false with
  | error error => exact ⟨rfl, rfl⟩
  | ok datagrams =>
      obtain ⟨taken, after⟩ := (sendEach_sends network datagrams start).willing willing
      generalize sends : sendEach network datagrams start = result at taken after
      obtain ⟨sent, answer⟩ := result
      dsimp only at taken after
      subst taken
      simp only [sends, Except.map]
      cases duplicate with
      | false => exact ⟨after, rfl⟩
      | true =>
          obtain ⟨_, twice⟩ := (sendEach_sends network datagrams sent).willing willing
          simp only [if_true, willing.udp]
          refine ⟨?_, rfl⟩
          rw [twice, after, List.append_assoc]

theorem sendPacket_follows (willing : Willing network) (reading : Reading) (packet : PacketBuf) :
    Follows (start.sendPacket network shared reading packet)
      (start.toTransportWriter.sendPacket shared reading packet) := by
  have prepared : (start.preparePacket shared reading packet).1.1.toTransportWriter =
      (start.toTransportWriter.preparePacket shared reading packet).1.1 := rfl
  have answer : (start.preparePacket shared reading packet).2 =
      (start.toTransportWriter.preparePacket shared reading packet).2 := rfl
  rw [sendPacket, TransportWriter.sendPacket, answer]
  cases (start.toTransportWriter.preparePacket shared reading packet).2 with
  | error error => exact ⟨rfl, rfl⟩
  | ok duplicate =>
      have sends := @sendWithDuplicate_follows _ network shared
        (start.preparePacket shared reading packet).1.1 willing
        (start.preparePacket shared reading packet).1.2 duplicate
      exact sends

theorem flushPacket_follows (willing : Willing network) (reading : Reading)
    (packet : PacketBuf) :
    Follows (start.flushPacket network shared writerBulkBatchLimit reading packet)
      (start.toTransportWriter.flushPacket shared reading packet) := by
  unfold flushPacket TransportWriter.flushPacket preparePacket
  generalize start.toTransportWriter.preparePacket shared reading packet = prepared
  obtain ⟨⟨writer, wrapped⟩, answer⟩ := prepared
  cases answer with
  | error error => exact ⟨rfl, rfl⟩
  | ok chosen =>
      cases chosen with
      | true =>
          have flushed := @flushMmsgData_follows _ network shared
            { start with toTransportWriter := writer } willing
          dsimp only at flushed ⊢
          generalize flushMmsgData network shared { start with toTransportWriter := writer } =
            result at flushed ⊢
          generalize writer.flushMmsgData shared = plain at flushed ⊢
          obtain ⟨after, done⟩ := result
          obtain ⟨plainAfter, plainDone⟩ := plain
          obtain ⟨rfl, rfl⟩ := flushed
          cases done with
          | error error => exact ⟨rfl, rfl⟩
          | ok _ => exact sendWithDuplicate_follows willing _ true
      | false =>
          dsimp only
          by_cases full : (writer.mmsgData ++ [wrapped]).length = writerBulkBatchLimit
          · rw [if_pos full, if_pos full]
            exact flushMmsgData_follows willing
          · rw [if_neg full, if_neg full]
            exact ⟨rfl, rfl⟩

theorem flushLoop_follows (willing : Willing network) (pending : List (Reading × PacketBuf)) :
    Follows (flushLoop network shared writerBulkBatchLimit pending start)
      (TransportWriter.flushLoop shared pending start.toTransportWriter) := by
  induction pending generalizing start with
  | nil => exact flushMmsgData_follows willing
  | cons entry pending inductionHypothesis =>
      obtain ⟨reading, packet⟩ := entry
      have one := @flushPacket_follows _ network shared start willing reading packet
      rw [flushLoop, TransportWriter.flushLoop]
      generalize start.flushPacket network shared writerBulkBatchLimit reading packet = result
        at one ⊢
      generalize start.toTransportWriter.flushPacket shared reading packet = plain at one ⊢
      obtain ⟨after, done⟩ := result
      obtain ⟨plainAfter, plainDone⟩ := plain
      obtain ⟨rfl, rfl⟩ := one
      cases done with
      | error error => exact ⟨rfl, rfl⟩
      | ok _ => exact inductionHypothesis

/-- With the limit in use, the writer on a socket that takes everything sends what the writer
without a network does. -/
theorem flushQueuedData_follows (willing : Willing network)
    (pending : List (Reading × PacketBuf)) :
    Follows (start.flushQueuedData network shared writerBulkBatchLimit pending)
      (start.toTransportWriter.flushQueuedData shared pending) := by
  match pending with
  | [] => exact flushLoop_follows willing []
  | [(reading, packet)] => exact sendPacket_follows willing reading packet
  | first :: second :: rest => exact flushLoop_follows willing (first :: second :: rest)

end SocketWriter

end Csqtt
