/-
Module: Csqtt.Proofs.SparePlacement
Purpose: When the spare copy of a packet goes to another worker than the packet: the two
  searches can end at the same one.
Trusted boundary: the pool, which may have no buffer for the spare copy
Main exports: acceptsAfter, TwoRoomy, PlacedApart, SparedElsewhere,
  placedApart_iff_sparedElsewhere, spare_follows_packet
-/
import Csqtt.Proofs.StaleWorkers
import Csqtt.Proofs.WorkerEnqueue

namespace Csqtt

section

variable {Mark : Type*}

/-- Whether a worker would take a packet in one round of the search once one of the
queues has taken another. -/
def acceptsAfter (shared : Shared Mark) (ofClass : PacketClass) (taken : PacketSender)
    (preferClear : Bool) (worker : WorkerChannels) : Bool :=
  let sender := queueForClass worker ofClass
  let queued := (shared.queue sender).queued + if sender = taken then 1 else 0
  let capacity := (shared.queue sender).capacity
  shared.isHealthy worker && !(preferClear && decide (capacity ≤ queued * 2)) &&
    (shared.queue sender).isOpen && decide (queued < capacity)

/-- A queue took a packet, if need be in place of its oldest. -/
def Shared.Joined (shared after : Shared Mark) (sender : PacketSender) : Prop :=
  ∃ queue : PacketQueue Mark, after = shared.setQueue sender queue ∧
    queue.queued = min ((shared.queue sender).queued + 1) (shared.queue sender).capacity ∧
    queue.capacity = (shared.queue sender).capacity ∧
    queue.isOpen = (shared.queue sender).isOpen

variable {shared after : Shared Mark} {sender other : PacketSender}
  {packet : Mark × PacketBuf} {workers : List WorkerChannels} {ticket : DispatchTicket}
  {worker : WorkerChannels}

theorem Shared.Enqueued.joined (enqueued : shared.Enqueued after sender packet)
    (room : (shared.queue sender).queued < (shared.queue sender).capacity) :
    shared.Joined after sender := by
  obtain ⟨queue, changed, items, capacity, state, receiverOpen⟩ := enqueued
  refine ⟨queue, changed, ?_, capacity, ?_⟩
  · rw [Nat.min_eq_left room, PacketQueue.queued, items, List.length_append]
    rfl
  · simp only [PacketQueue.isOpen, PacketQueue.isActive, state, receiverOpen]

theorem forceSend_joined (taking : (shared.queue sender).isOpen = true) :
    ∃ after, shared.forceSend sender packet = .ok after ∧ shared.Joined after sender := by
  rw [Shared.forceSend, PacketQueue.forceSend_eq, if_pos taking]
  refine ⟨_, rfl, _, rfl, ?_, rfl, rfl⟩
  have bounded := (shared.queue sender).queue.bounded
  have positive := (shared.queue sender).positive
  simp only [PacketQueue.queued, PacketQueue.items, ArrayQueue.forcePush, List.length_append,
    List.length_drop, List.length_singleton]
  omega

/-- The selected worker's queue is the one that the packet joins. -/
theorem placePacket_joined (selected : Selected shared workers ticket worker)
    (packet : Mark × PacketBuf) :
    shared.Joined (placePacket shared workers ticket packet)
      (queueForClass worker ticket.ofClass) := by
  have spec := enqueueSelectedWorker_spec shared workers ticket packet
  have found (taker : firstTaker (accepts shared ticket.ofClass)
      (searchedWorkers shared workers ticket.startSlot) = some worker) :
      shared.Joined (placePacket shared workers ticket packet)
        (queueForClass worker ticket.ofClass) := by
    obtain ⟨_, preferClear, takes⟩ := mem_of_firstTaker taker
    rw [taker] at spec
    obtain ⟨after, placed, enqueued⟩ := spec
    rw [placePacket, placed]
    exact enqueued.joined (accepts_iff.mp takes).2.2.2
  cases selected with
  | clear clear => exact found (Option.or_eq_some_iff.mpr (Or.inl clear))
  | roomy congested room => exact found (Option.or_eq_some_iff.mpr (Or.inr ⟨congested, room⟩))
  | shortest full shortest taking =>
      have listed : workers ≠ [] := by
        rintro rfl
        cases shortest
      obtain ⟨after, sent, joined⟩ := @forceSend_joined _ shared _ packet taking
      rw [placePacket_full listed full, shortest]
      simp only [sent]
      exact joined

theorem Shared.Joined.isHealthy (joined : shared.Joined after sender)
    (worker : WorkerChannels) : after.isHealthy worker = shared.isHealthy worker := by
  obtain ⟨queue, rfl, _⟩ := joined
  rfl

theorem Shared.Joined.searchedWorkers (joined : shared.Joined after sender)
    (workers : List WorkerChannels) (startSlot : Nat) :
    searchedWorkers after workers startSlot = searchedWorkers shared workers startSlot := by
  obtain ⟨queue, rfl, _⟩ := joined
  rfl

/-- What the workers take once a queue has taken a packet can be told before. -/
theorem Shared.Joined.accepts (joined : shared.Joined after sender) (ofClass : PacketClass)
    (preferClear : Bool) (worker : WorkerChannels) :
    accepts after ofClass preferClear worker =
      acceptsAfter shared ofClass sender preferClear worker := by
  have positive := (shared.queue (queueForClass worker ofClass)).positive
  obtain ⟨queue, rfl, queued, capacity, isOpen⟩ := joined
  simp only [Csqtt.accepts, acceptsAfter, PacketQueue.isCongested]
  by_cases own : queueForClass worker ofClass = sender
  · have bounded : (shared.queue sender).queued ≤ (shared.queue sender).capacity :=
      (shared.queue sender).queue.bounded
    rw [own] at positive ⊢
    rw [Shared.setQueue_queue, queued, capacity, isOpen, if_pos rfl]
    have congested : (0 < (shared.queue sender).capacity ∧ (shared.queue sender).capacity ≤
        min ((shared.queue sender).queued + 1) (shared.queue sender).capacity * 2) ↔
        (shared.queue sender).capacity ≤ ((shared.queue sender).queued + 1) * 2 := by
      omega
    have room : (min ((shared.queue sender).queued + 1) (shared.queue sender).capacity <
        (shared.queue sender).capacity) ↔
        (shared.queue sender).queued + 1 < (shared.queue sender).capacity := by
      omega
    simp only [congested, room]
    rfl
  · rw [Shared.setQueue_queue_of_ne shared queue own, if_neg own, Nat.add_zero]
    simp only [positive, true_and]
    rfl

end

namespace Dispatching

variable {self : Dispatching} {packet : PacketBuf} {storage : Option Storage}

/-- Mark of the spare copy of the packet that is dispatched next. -/
def spareMark (self : Dispatching) : PacketMark where
  serial := self.dispatched
  spare := true

/-- The dispatcher makes a spare copy of the packet. -/
def Duplicates (self : Dispatching) (packet : PacketBuf) (storage : Option Storage) : Prop :=
  ∃ copy, (udpSpare self.dispatcher.tracker packet storage).2 = some copy

/-- Two healthy workers in use have room in their queues of the packet's class. -/
def TwoRoomy (self : Dispatching) (packet : PacketBuf) : Prop :=
  ∃ first ∈ (self.inUse packet).workers, ∃ second ∈ (self.inUse packet).workers,
    queueForClass first (packetClass packet.asSlice) ≠
      queueForClass second (packetClass packet.asSlice) ∧
    accepts self.dispatcher.shared (packetClass packet.asSlice) false first = true ∧
    accepts self.dispatcher.shared (packetClass packet.asSlice) false second = true

/-- Dispatched now, the packet comes into the queue of one worker and its copy into
that of another. -/
def PlacedApart (self : Dispatching) (packet : PacketBuf) (storage : Option Storage) : Prop :=
  ∃ first ∈ (self.inUse packet).workers, ∃ second ∈ (self.inUse packet).workers,
    queueForClass first (packetClass packet.asSlice) ≠
      queueForClass second (packetClass packet.asSlice) ∧
    (step self (.dispatch packet storage)).1.dispatcher.shared.Carries
      (queueForClass first (packetClass packet.asSlice)) (self.nextMark, packet) ∧
    ∃ copy, (udpSpare self.dispatcher.tracker packet storage).2 = some copy ∧
      (step self (.dispatch packet storage)).1.dispatcher.shared.Carries
        (queueForClass second (packetClass packet.asSlice)) (self.spareMark, copy)

/-- The slot half the list away from the packet's. -/
def spareSlot (self : Dispatching) (packet : PacketBuf) : Nat :=
  ((self.nextTicket packet).startSlot + (self.inUse packet).workers.length / 2) %
    (self.inUse packet).workers.length

/-- A worker is selected for the packet, and the search from the slot half the list away
ends at one with another queue, when the selected worker's has one packet more. -/
def SparedElsewhere (self : Dispatching) (packet : PacketBuf) : Prop :=
  ∃ selected spare, Selected self.dispatcher.shared (self.inUse packet).workers
      (self.nextTicket packet) selected ∧
    firstTaker (acceptsAfter self.dispatcher.shared (packetClass packet.asSlice)
        (queueForClass selected (packetClass packet.asSlice)))
      (searchedWorkers self.dispatcher.shared (self.inUse packet).workers
        (self.spareSlot packet)) = some spare ∧
    queueForClass spare (packetClass packet.asSlice) ≠
      queueForClass selected (packetClass packet.asSlice)

theorem TwoRoomy.length (roomy : self.TwoRoomy packet) :
    1 < (self.inUse packet).workers.length := by
  obtain ⟨first, inside, second, insideToo, apart, _⟩ := roomy
  by_contra short
  obtain ⟨index, bound, rfl⟩ := List.getElem_of_mem inside
  obtain ⟨other, boundToo, rfl⟩ := List.getElem_of_mem insideToo
  have same : index = other := by omega
  subst same
  exact apart rfl

/-- What the placement of the packet leaves the copy to. -/
def afterPacket (self : Dispatching) (packet : PacketBuf) : Shared PacketMark :=
  placePacket self.dispatcher.shared (self.inUse packet).workers (self.nextTicket packet)
    (self.nextMark, packet)

def spareTicket (self : Dispatching) (packet : PacketBuf) : DispatchTicket where
  startSlot := self.spareSlot packet
  ofClass := packetClass packet.asSlice

theorem dispatch_copied {copy : PacketBuf} (sound : self.dispatcher.scheduler.Sound)
    (several : 1 < (self.inUse packet).workers.length)
    (copied : (udpSpare self.dispatcher.tracker packet storage).2 = some copy) :
    (step self (.dispatch packet storage)).1.dispatcher.shared =
      orUnchanged (self.afterPacket packet)
        (enqueueSelectedWorker (self.afterPacket packet) (self.inUse packet).workers
          (self.spareTicket packet) (self.spareMark, copy)) := by
  have listed : (self.inUse packet).workers ≠ [] :=
    List.ne_nil_of_length_pos (Nat.zero_lt_of_lt several)
  rw [dispatch_shared sound listed, copied, Option.map_some, placeSpare]
  simp only
  rw [if_pos several]
  rfl

/-- Where the search for the copy ends, told before the packet is placed. -/
theorem firstTaker_afterPacket {selected : WorkerChannels}
    (chosen : Selected self.dispatcher.shared (self.inUse packet).workers
      (self.nextTicket packet) selected) :
    firstTaker (accepts (self.afterPacket packet) (packetClass packet.asSlice))
        (searchedWorkers (self.afterPacket packet) (self.inUse packet).workers
          (self.spareSlot packet)) =
      firstTaker (acceptsAfter self.dispatcher.shared (packetClass packet.asSlice)
          (queueForClass selected (packetClass packet.asSlice)))
        (searchedWorkers self.dispatcher.shared (self.inUse packet).workers
          (self.spareSlot packet)) := by
  have joined := placePacket_joined chosen (self.nextMark, packet)
  have same : accepts (self.afterPacket packet) (packetClass packet.asSlice) =
      acceptsAfter self.dispatcher.shared (packetClass packet.asSlice)
        (queueForClass selected (packetClass packet.asSlice)) := by
    funext preferClear worker
    exact joined.accepts (packetClass packet.asSlice) preferClear worker
  rw [same]
  exact congrArg (firstTaker _) (joined.searchedWorkers _ _)

/-- A packet that is dispatched next is in no queue yet, and neither is its copy. -/
theorem Numbered.absent (numbered : self.Numbered) (sender : PacketSender) (spare : Bool)
    (held : PacketBuf) :
    ¬ self.dispatcher.shared.Carries sender ({ serial := self.dispatched, spare := spare }, held) :=
  fun carried => Nat.lt_irrefl _ (numbered sender _ carried)

theorem copy_absent (numbered : self.Numbered) (sender : PacketSender) (copy : PacketBuf) :
    ¬ (self.afterPacket packet).Carries sender (self.spareMark, copy) := by
  intro carried
  rcases placePacket_carried carried with earlier | same
  · exact numbered.absent sender true copy earlier
  · cases same

/-- Where two workers in use have room: the packet and its copy come to different
workers exactly if the two searches end at different ones. -/
theorem placedApart_iff (sound : self.dispatcher.scheduler.Sound) (numbered : self.Numbered)
    (duplicates : self.Duplicates packet storage) (roomy : self.TwoRoomy packet) :
    self.PlacedApart packet storage ↔ self.SparedElsewhere packet := by
  obtain ⟨copy, copied⟩ := duplicates
  have dispatched := dispatch_copied sound roomy.length copied
  constructor
  · rintro ⟨first, inside, second, insideToo, apart, original, other, same, spared⟩
    rw [copied] at same
    cases same
    -- Only the placement of the packet brings it into a queue.
    have placed : (self.afterPacket packet).Carries
        (queueForClass first (packetClass packet.asSlice)) (self.nextMark, packet) :=
      (dispatch_carries sound).mp original
    by_cases chosen : ∃ selected, Selected self.dispatcher.shared (self.inUse packet).workers
      (self.nextTicket packet) selected
    · obtain ⟨selected, chosen⟩ := chosen
      have own : queueForClass first (packetClass packet.asSlice) =
          queueForClass selected (packetClass packet.asSlice) := by
        by_contra elsewhere
        apply numbered.absent (queueForClass first (packetClass packet.asSlice)) false packet
        exact ((placePacket_selected chosen (self.nextMark, packet)).carries_other elsewhere).mp
          placed
      rw [dispatched] at spared
      cases sent : enqueueSelectedWorker (self.afterPacket packet) (self.inUse packet).workers
        (self.spareTicket packet) (self.spareMark, copy) with
      | error returned =>
          rw [sent] at spared
          exact absurd spared (copy_absent numbered _ copy)
      | ok after =>
          rw [sent] at spared
          obtain ⟨taker, found, enqueued⟩ := enqueueSelectedWorker_ok sent
          have there : queueForClass second (packetClass packet.asSlice) =
              queueForClass taker (packetClass packet.asSlice) := by
            by_contra elsewhere
            exact copy_absent numbered _ copy
              ((enqueued.appended.placed.carries_other elsewhere).mp spared)
          refine ⟨selected, taker, chosen, (firstTaker_afterPacket chosen).symm.trans found, ?_⟩
          rw [← own, ← there]
          exact apart.symm
    · push Not at chosen
      rw [afterPacket, placePacket_unselected chosen] at placed
      exact absurd placed (numbered.absent _ false packet)
  · rintro ⟨selected, spare, chosen, found, apart⟩
    rw [← firstTaker_afterPacket chosen] at found
    have spec := enqueueSelectedWorker_spec (self.afterPacket packet) (self.inUse packet).workers
      (self.spareTicket packet) (self.spareMark, copy)
    rw [show firstTaker (accepts (self.afterPacket packet) (self.spareTicket packet).ofClass)
      (searchedWorkers (self.afterPacket packet) (self.inUse packet).workers
        (self.spareTicket packet).startSlot) = some spare from found] at spec
    obtain ⟨after, sent, enqueued⟩ := spec
    rw [sent] at dispatched
    refine ⟨selected, chosen.mem.1, spare,
      mem_of_mem_searchedWorkers (mem_of_firstTaker found).1, apart.symm, ?_, copy, copied, ?_⟩
    · exact (dispatch_carries sound).mpr
        (placePacket_selected chosen (self.nextMark, packet)).carries
    · rw [dispatched]
      exact enqueued.appended.placed.carries

/-- In every reachable state and for every packet: that the packet and its copy come to
different workers, as long as there is a copy and two workers have room, holds exactly
if then the two searches end at different ones. -/
theorem placedApart_iff_sparedElsewhere (channels : PacketSender → Nat × Bool)
    (events : List DispatchEvent) (packet : PacketBuf) (storage : Option Storage) :
    let state := (Transducer.run step (start channels) events).1
    (state.Duplicates packet storage → state.TwoRoomy packet →
        state.PlacedApart packet storage) ↔
      (state.Duplicates packet storage → state.TwoRoomy packet →
        state.SparedElsewhere packet) := by
  intro state
  have numbered : state.Numbered :=
    @Transducer.run_invariant _ _ _ step Numbered (fun _ event before =>
      numbered_step before event) _ events (numbered_start channels)
  have sound : state.dispatcher.scheduler.Sound :=
    @Transducer.run_invariant _ _ _ step (fun state => state.dispatcher.scheduler.Sound)
      (fun _ event before => sound_step before event) _ events FastPathScheduler.sound_new
  constructor
  · intro apart duplicates roomy
    exact (placedApart_iff sound numbered duplicates roomy).mp (apart duplicates roomy)
  · intro elsewhere duplicates roomy
    exact (placedApart_iff sound numbered duplicates roomy).mpr (elsewhere duplicates roomy)

/-- The query of a resolver: an IPv4 header of protocol 17, and ports of which one is
the name service's. -/
def nameQuery : PacketBuf where
  storage := List.replicate packetHeadroom 0#8 ++
    [0x45#8, 0#8, 0#8, 28#8, 0#8, 0#8, 0#8, 0#8, 64#8, 17#8, 0#8, 0#8, 10#8, 0#8, 0#8, 2#8,
      1#8, 1#8, 1#8, 1#8, 200#8, 1#8, 0#8, 53#8, 0#8, 8#8, 0#8, 0#8] ++
    List.replicate (packetCapacity - packetHeadroom - 28) 0#8
  start := packetHeadroom
  stop := packetHeadroom + 28
  sized := by
    rw [List.length_append, List.length_append, List.length_replicate, List.length_replicate]
    rfl
  ordered := by decide
  bounded := by decide

/-- Three workers, with queues and a health flag of their own each. -/
def numberedWorker (id : Nat) : WorkerChannels where
  id := id
  incarnationId := 1#64
  turnPath := []
  latency := { shared := 3 * id }
  priority := { shared := 3 * id + 1 }
  bulk := { shared := 3 * id + 2 }
  healthy := id

def marksIn (shared : Shared PacketMark) (sender : PacketSender) : List PacketMark :=
  (shared.queue sender).items.map (·.packet.1)

theorem mem_marksIn {shared : Shared PacketMark} {sender : PacketSender}
    {held : PacketMark × PacketBuf} (carried : shared.Carries sender held) :
    held.1 ∈ marksIn shared sender := by
  obtain ⟨queued, inside, same⟩ := carried
  exact List.mem_map.mpr ⟨queued, inside, congrArg Prod.fst same⟩

/-- The first of three workers is not healthy: the packet's search goes on to the
second, where the copy's search begins. The third has an empty queue. -/
theorem spare_follows_packet :
    let state := (Transducer.run step (start fun _ => (16, true))
      [.register (numberedWorker 0), .register (numberedWorker 1), .register (numberedWorker 2),
        .health (numberedWorker 0) false]).1
    state.Duplicates nameQuery (some Storage.zero) ∧ state.TwoRoomy nameQuery ∧
      ¬ state.PlacedApart nameQuery (some Storage.zero) := by
  intro state
  refine ⟨?_, ?_, ?_⟩
  · apply Option.isSome_iff_exists.mp
    decide +kernel
  · exact ⟨numberedWorker 1, by decide +kernel, numberedWorker 2, by decide +kernel,
      by decide +kernel, by decide +kernel, by decide +kernel⟩
  · rintro ⟨first, inside, second, insideToo, apart, original, copy, _, copied⟩
    have together : ∀ first ∈ (state.inUse nameQuery).workers,
        ∀ second ∈ (state.inUse nameQuery).workers,
        let after := (step state (.dispatch nameQuery (some Storage.zero))).1.dispatcher.shared
        state.nextMark ∈ marksIn after (queueForClass first (packetClass nameQuery.asSlice)) →
        state.spareMark ∈ marksIn after (queueForClass second (packetClass nameQuery.asSlice)) →
        queueForClass first (packetClass nameQuery.asSlice) =
          queueForClass second (packetClass nameQuery.asSlice) := by
      decide +kernel
    apply apart
    exact together first inside second insideToo (mem_marksIn original) (mem_marksIn copied)

end Dispatching

end Csqtt
