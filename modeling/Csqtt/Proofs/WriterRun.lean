/-
Module: Csqtt.Proofs.WriterRun
Purpose: The flushes of a writer at work: whatever it takes from its queues it offers in that
  order, and a duplicate is the only thing that a flush without an error may have lost.
Trusted boundary: none
Main exports: WriterFlush.InOrder, Orderly, flushes_in_order, duplicate_refused
-/
import Csqtt.Proofs.SparePlacement
import Csqtt.Proofs.UplinkTotality
import Csqtt.Proofs.WriterFlush

namespace Csqtt

/-!
### Whole runs
-/

section Run

variable {Rng Mark : Type*} {network : Network} {shared : TransportShared Rng}
  {limits : WriterLimits} {others : Nat → WriterQueues Mark → WriterQueues Mark}

/-- The turns of a flush, as its packets are wrapped one after the other. -/
def WriterFlush.turns (shared : TransportShared Rng) (flush : WriterFlush Rng) : List Turn :=
  preparedTurns shared flush.pending flush.before.toTransportWriter

/-- A flush offers its turns in the order of its packets and under consecutive numbers. Without an
error it has offered every turn, and with one it has offered a beginning of them. -/
structure WriterFlush.InOrder (network : Network) (shared : TransportShared Rng)
    (flush : WriterFlush Rng) : Prop where
  numbered : ∀ (index : Nat) (turn : Turn), (flush.turns shared)[index]? = some turn →
    (flush.pending.map (·.2))[index]? = some turn.packet ∧
      turn.Numbered shared (flush.before.writeState.initialSequence +
        (flush.before.writeState.count + BitVec.ofNat 64 index).setWidth 16)
  offered : ∃ tries, Transmits network shared.allocation.channel (flush.turns shared)
      flush.failure.isNone tries ∧ Puts network flush.before flush.after tries
  all : flush.failure = none → (flush.turns shared).length = flush.pending.length

theorem flush_inOrder (network : Network) (limits : WriterLimits) {start : SocketWriter Rng}
    (pending : List (Reading × PacketBuf)) (empty : start.mmsgData = []) :
    (start.flush network shared limits pending).InOrder network shared ∧
      ((start.flush network shared limits pending).failure = none →
        (start.flush network shared limits pending).after.mmsgData = []) := by
  obtain ⟨flushed, done⟩ :=
    @SocketWriter.flushQueuedData_flushed _ shared start network limits.bulk pending empty
  have failure : (start.flush network shared limits pending).failure.isNone =
      (start.flushQueuedData network shared limits.bulk pending).2.isOk := by
    simp only [SocketWriter.flush]
    cases (start.flushQueuedData network shared limits.bulk pending).2 with
    | error error => rfl
    | ok _ => rfl
  have passes : (start.flush network shared limits pending).failure = none →
      (start.flushQueuedData network shared limits.bulk pending).2 = .ok () := by
    simp only [SocketWriter.flush]
    cases (start.flushQueuedData network shared limits.bulk pending).2 with
    | error error =>
        intro impossible
        cases impossible
    | ok _ =>
        intro _
        rfl
  refine ⟨⟨?_, ?_, ?_⟩, ?_⟩
  · intro index turn listed
    exact preparedTurns_numbered listed
  · rw [failure]
    exact flushed
  · intro none
    exact (done (passes none)).2
  · intro none
    exact (done (passes none)).1

namespace QueueView

theorem tryRecv_dequeued (others : Nat → WriterQueues Mark → WriterQueues Mark)
    (view : QueueView Mark) (ofClass : PacketClass) :
    (view.tryRecv others ofClass).1.dequeued =
      view.dequeued ++ (view.tryRecv others ofClass).2.toList := rfl

theorem nextWriterPacket_dequeued (others : Nat → WriterQueues Mark → WriterQueues Mark)
    (view : QueueView Mark) :
    (view.nextWriterPacket others).1.dequeued =
      view.dequeued ++ ((view.nextWriterPacket others).2.map (·.2)).toList := by
  have small := tryRecv_dequeued others view .small
  rw [nextWriterPacket]
  generalize view.tryRecv others .small = first at small ⊢
  obtain ⟨seen, received⟩ := first
  cases received with
  | some packet => exact small
  | none =>
      have medium := tryRecv_dequeued others seen .medium
      rw [Option.toList_none, List.append_nil] at small
      rw [small] at medium
      dsimp only
      generalize seen.tryRecv others .medium = second at medium ⊢
      obtain ⟨seen, received⟩ := second
      cases received with
      | some packet => exact medium
      | none =>
          have bulk := tryRecv_dequeued others seen .bulk
          rw [Option.toList_none, List.append_nil] at medium
          rw [medium] at bulk
          dsimp only
          generalize seen.tryRecv others .bulk = third at bulk ⊢
          obtain ⟨seen, received⟩ := third
          cases received with
          | some packet => exact bulk
          | none => exact bulk

theorem takeBatch_dequeued (others : Nat → WriterQueues Mark → WriterQueues Mark)
    (ofClass : PacketClass) (room : Nat) (view : QueueView Mark) :
    (view.takeBatch others ofClass room).1.dequeued =
      view.dequeued ++ (view.takeBatch others ofClass room).2 := by
  induction room generalizing view with
  | zero => exact (List.append_nil _).symm
  | succ room inductionHypothesis =>
      rw [takeBatch]
      dsimp only
      split
      · have received := tryRecv_dequeued others ((view.look others).look others) ofClass
        generalize ((view.look others).look others).tryRecv others ofClass = result
          at received ⊢
        obtain ⟨seen, packet⟩ := result
        cases packet with
        | none => exact received
        | some packet =>
            have rest := inductionHypothesis seen
            dsimp only at received ⊢
            rw [rest, received, List.append_assoc]
            rfl
      · exact (List.append_nil _).symm

end QueueView

theorem sendPacket_mmsgData (network : Network) (start : SocketWriter Rng) (reading : Reading)
    (packet : PacketBuf) :
    (start.sendPacket network shared reading packet).1.mmsgData = start.mmsgData := by
  rw [SocketWriter.sendPacket]
  cases prepares : (start.preparePacket shared reading packet).2 with
  | error error => rfl
  | ok chosen =>
      obtain ⟨_, same⟩ := @SocketWriter.sendWithDuplicate_flushed _ shared
        (start.preparePacket shared reading packet).1.1 network
        ⟨packet, (start.preparePacket shared reading packet).1.2, chosen⟩
      exact same.mmsgData

/-- The bytes of a command do not wait. -/
theorem sendBytes_mmsgData (network : Network) (start : SocketWriter Rng) (reading : Reading)
    (storage : Option Storage) (data : List U8) :
    (start.sendBytes network shared reading storage data).1.mmsgData = start.mmsgData := by
  unfold SocketWriter.sendBytes
  cases storage with
  | none => rfl
  | some storage =>
      dsimp only
      cases readInto storage data with
      | none => rfl
      | some packet => exact sendPacket_mmsgData network start reading packet

/-- All that a writer has taken from its queues went into its flushes, and each of these is in
order. Nothing waits between them. -/
structure Orderly (network : Network) (shared : TransportShared Rng)
    (loop : WriterLoop Rng Mark) : Prop where
  dequeued : loop.view.dequeued = loop.flushes.flatMap fun flush => flush.pending.map (·.2)
  flushes : ∀ flush ∈ loop.flushes, flush.InOrder network shared
  empty : loop.failure = none → loop.writer.mmsgData = []

theorem map_snd_stamped (clock : Nat → Reading) (packets : List PacketBuf) :
    (packets.mapIdx fun index packet => (clock index, packet)).map (·.2) = packets := by
  apply List.ext_getElem?
  intro index
  rw [List.getElem?_map, List.getElem?_mapIdx]
  cases packets[index]? with
  | none => rfl
  | some packet => rfl

theorem Orderly.batch {loop : WriterLoop Rng Mark} {seen : QueueView Mark}
    {first : PacketClass × PacketBuf} (orderly : Orderly network shared loop)
    (alive : loop.failure = none) (clock : Nat → Reading)
    (taken : seen.dequeued = loop.view.dequeued ++ [first.2]) :
    Orderly network shared
      (sendWriterBatch network shared limits others { loop with view := seen } clock first) := by
  have more := seen.takeBatch_dequeued others first.1 (limits.of first.1 - 1)
  obtain ⟨inOrder, emptied⟩ := @flush_inOrder _ shared network limits _
    ((first.2 :: (seen.takeBatch others first.1 (limits.of first.1 - 1)).2).mapIdx
      fun index packet => (clock index, packet)) (orderly.empty alive)
  rw [sendWriterBatch]
  dsimp only
  constructor
  · dsimp only
    rw [more, taken, orderly.dequeued, List.flatMap_append, List.flatMap_singleton,
      List.append_assoc]
    exact congrArg (_ ++ ·) (map_snd_stamped clock _).symm
  · intro flush inside
    rcases List.mem_append.mp inside with earlier | last
    · exact orderly.flushes flush earlier
    · rw [List.mem_singleton.mp last]
      exact inOrder
  · exact emptied

theorem Orderly.step {loop : WriterLoop Rng Mark} (orderly : Orderly network shared loop)
    (action : WriterAction) :
    Orderly network shared (writerStep network shared limits others loop action) := by
  unfold writerStep
  cases alive : loop.failure with
  | some error => exact orderly
  | none =>
      cases action with
      | command reading storage data =>
          dsimp only
          refine ⟨orderly.dequeued, orderly.flushes, ?_⟩
          intro _
          exact (sendBytes_mmsgData network loop.writer reading storage data).trans
            (orderly.empty alive)
      | turn clock =>
          have next := loop.view.nextWriterPacket_dequeued others
          dsimp only
          generalize loop.view.nextWriterPacket others = result at next ⊢
          obtain ⟨seen, first⟩ := result
          cases first with
          | none =>
              refine ⟨?_, orderly.flushes, fun _ => orderly.empty alive⟩
              exact (next.trans (List.append_nil _)).trans orderly.dequeued
          | some first => exact orderly.batch alive clock next

theorem Orderly.run {loop : WriterLoop Rng Mark} (orderly : Orderly network shared loop)
    (actions : List WriterAction) :
    Orderly network shared (runWriter network shared limits others loop actions) := by
  induction actions generalizing loop with
  | nil => exact orderly
  | cons action actions inductionHypothesis => exact inductionHypothesis (orderly.step action)

theorem Orderly.new (network : Network) (shared : TransportShared Rng) (state : ObfsState Rng)
    (now : Nat) (queues : WriterQueues Mark) :
    Orderly network shared (WriterLoop.new state now queues) where
  dequeued := rfl
  flushes := by
    intro flush inside
    cases inside
  empty := by
    intro _
    rfl

/-- Whatever is in the queues of a writer and whatever other tasks do to them, whatever the limits
of its batches are and whatever the network answers: what it takes from its queues goes into its
flushes, each of which offers its packets in order, every one followed by its duplicate, and under
consecutive sequence numbers. -/
theorem flushes_in_order (network : Network) (shared : TransportShared Rng)
    (limits : WriterLimits) (others : Nat → WriterQueues Mark → WriterQueues Mark)
    (state : ObfsState Rng) (now : Nat) (queues : WriterQueues Mark)
    (actions : List WriterAction) :
    let after := runWriter network shared limits others (.new state now queues) actions
    after.view.dequeued = (after.flushes.flatMap fun flush => flush.pending.map (·.2)) ∧
      ∀ flush ∈ after.flushes, flush.InOrder network shared := by
  have orderly := @Orderly.run _ _ network shared limits others _
    (.new network shared state now queues) actions
  exact ⟨orderly.dequeued, orderly.flushes⟩

end Run

/-!
### A duplicate that is refused
-/

/-- A socket that takes the first datagram and refuses the next. -/
def refusingNetwork : Network where
  outbound := .udp
  answers attempt := if attempt = 1 then .failed else .took 0

def freshSocketWriter : SocketWriter Nat :=
  { freshWriter with attempts := 0, offered := [] }

/-- The packet of a flush is chosen to be sent twice, the flush has no error, and the packet has
been sent once. -/
theorem duplicate_refused :
    (freshSocketWriter.preparePacket audioShared firstReading
        Dispatching.nameQuery).2.toOption = some true ∧
      (freshSocketWriter.flushQueuedData refusingNetwork audioShared writerLimits.bulk
        [(firstReading, Dispatching.nameQuery)]).2.isOk = true ∧
      (freshSocketWriter.flushQueuedData refusingNetwork audioShared writerLimits.bulk
        [(firstReading, Dispatching.nameQuery)]).1.sent.length = 1 := by
  decide +kernel

end Csqtt
