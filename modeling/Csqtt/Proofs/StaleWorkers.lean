/-
Module: Csqtt.Proofs.StaleWorkers
Purpose: When a packet reaches a registered healthy worker although the scheduler may
  work from a list that is no longer the registered one.
Trusted boundary: the pool, which may have no buffer for the spare copy
Main exports: Available, Delivered, SelectsRegistered, delivered_iff,
  replaced_worker_drops_a_packet
-/
import Csqtt.Proofs.DispatchRun
import Csqtt.Proofs.WorkerDispatch

namespace Csqtt

/-!
### What the queues carry in a run
-/

/-- Everything that a queue carries has a property. -/
def Shared.Within {Mark : Type*} (shared : Shared Mark) (property : Mark × PacketBuf → Prop) :
    Prop :=
  ∀ sender held, shared.Carries sender held → property held

section

variable {Mark : Type*} {shared : Shared Mark} {property : Mark × PacketBuf → Prop}
  {sender : PacketSender} {queue : PacketQueue Mark}

theorem Shared.Within.setQueue (within : shared.Within property)
    (inside : ∀ queued ∈ queue.items, property queued.packet) :
    (shared.setQueue sender queue).Within property := by
  rintro other held ⟨queued, found, rfl⟩
  by_cases own : other = sender
  · subst own
    rw [Shared.setQueue_queue] at found
    exact inside queued found
  · rw [Shared.setQueue_queue_of_ne shared queue own] at found
    exact within other _ ⟨queued, found, rfl⟩

theorem Shared.Within.items (within : shared.Within property) (sender : PacketSender) :
    ∀ queued ∈ (shared.queue sender).items, property queued.packet :=
  fun queued inside => within sender _ ⟨queued, inside, rfl⟩

theorem tryRecv_items (queue : PacketQueue Mark) : queue.tryRecv.1.items <:+ queue.items := by
  rw [PacketQueue.tryRecv]
  split
  · exact List.dropWhile_suffix _
  · next taken =>
      have items := ArrayQueue.pop_spec taken
      exact (items ▸ List.suffix_cons _ _).trans (List.dropWhile_suffix _)

theorem Shared.Within.steal (within : shared.Within property) (sender : PacketSender) :
    (shared.steal sender).1.Within property ∧ ∀ held ∈ (shared.steal sender).2, property held := by
  constructor
  · exact within.setQueue fun queued none => absurd none List.not_mem_nil
  · intro held stolen
    obtain ⟨queued, inside, rfl⟩ := List.mem_map.mp stolen
    exact within.items sender queued inside

theorem Shared.Within.drainUplink (within : shared.Within property) (worker : WorkerChannels) :
    (shared.drainUplink worker).1.Within property ∧
      ∀ held ∈ (shared.drainUplink worker).2, property held := by
  obtain ⟨latency, first⟩ := within.steal worker.latency
  obtain ⟨priority, second⟩ := latency.steal worker.priority
  obtain ⟨bulk, third⟩ := priority.steal worker.bulk
  refine ⟨bulk, ?_⟩
  intro held stolen
  simp only [Shared.drainUplink, List.mem_append] at stolen
  rcases stolen with (latency | priority) | bulk
  · exact first held latency
  · exact second held priority
  · exact third held bulk

theorem Shared.Within.placePacket {workers : List WorkerChannels} {ticket : DispatchTicket}
    {packet : Mark × PacketBuf} (within : shared.Within property) (holds : property packet) :
    (placePacket shared workers ticket packet).Within property := by
  intro sender held carried
  rcases placePacket_carried carried with earlier | rfl
  · exact within sender held earlier
  · exact holds

theorem Shared.Within.redispatch {dispatcher : Dispatcher Mark} {packet : Mark × PacketBuf}
    (within : dispatcher.shared.Within property) (holds : property packet) :
    (dispatcher.redispatch packet).shared.Within property := by
  rw [Dispatcher.redispatch]
  split
  · exact within
  · exact within.placePacket holds

theorem Shared.Within.redispatchAll {packets : List (Mark × PacketBuf)}
    {dispatcher : Dispatcher Mark} (within : dispatcher.shared.Within property)
    (holds : ∀ packet ∈ packets, property packet) :
    (dispatcher.redispatchAll packets).shared.Within property := by
  induction packets generalizing dispatcher with
  | nil => exact within
  | cons packet packets inductionHypothesis =>
      exact inductionHypothesis (within.redispatch (holds packet List.mem_cons_self))
        fun other inside => holds other (List.mem_cons_of_mem _ inside)

theorem Shared.Within.dispatchNow {dispatcher : Dispatcher Mark} {mark spareMark : Mark}
    {packet : PacketBuf} {storage : Option Storage} (within : dispatcher.shared.Within property)
    (holds : property (mark, packet)) (spares : ∀ copy, property (spareMark, copy)) :
    (dispatcher.dispatchNow mark spareMark packet storage).1.shared.Within property := by
  rw [Dispatcher.dispatchNow]
  split
  · exact within
  · intro sender held carried
    rcases placeSpare_carried carried with placed | copied
    · exact within.placePacket holds sender held placed
    · obtain ⟨copy, _, rfl⟩ := Option.map_eq_some_iff.mp copied
      exact spares copy

end

namespace Dispatching

variable {self : Dispatching}

/-- The packets handed out so far have smaller numbers than the next. -/
def Numbered (self : Dispatching) : Prop :=
  self.dispatcher.shared.Within fun held => held.1.serial < self.dispatched

theorem numbered_start (channels : PacketSender → Nat × Bool) : (start channels).Numbered := by
  rintro sender held ⟨queued, inside, _⟩
  cases inside

theorem numbered_withQueue (numbered : self.Numbered) (sender : PacketSender)
    {queue : PacketQueue PacketMark}
    (suffix : queue.items <:+ (self.dispatcher.shared.queue sender).items) :
    (self.withQueue sender queue).Numbered :=
  Shared.Within.setQueue numbered fun queued inside =>
    Shared.Within.items numbered sender queued (suffix.subset inside)

theorem numbered_step (numbered : self.Numbered) (event : DispatchEvent) :
    (step self event).1.Numbered := by
  have later : self.dispatcher.shared.Within fun held => held.1.serial < self.dispatched + 1 :=
    fun sender held carried => Nat.lt_succ_of_lt (numbered sender held carried)
  cases event with
  | register channels => exact numbered
  | unregister id incarnationId => exact numbered
  | health worker value => exact numbered
  | receive sender => exact numbered_withQueue numbered sender (tryRecv_items _)
  | resume sender => exact numbered_withQueue numbered sender List.nil_suffix
  | closeReceiver sender => exact numbered_withQueue numbered sender (List.suffix_refl _)
  | drain worker =>
      obtain ⟨left, stolen⟩ := Shared.Within.drainUplink numbered worker
      exact Shared.Within.redispatchAll left stolen
  | redispatch packet => exact Shared.Within.redispatch later (Nat.lt_succ_self _)
  | dispatch packet storage =>
      exact Shared.Within.dispatchNow later (Nat.lt_succ_self _) fun _ => Nat.lt_succ_self _

/-!
### Where the next packet goes
-/

/-- A registered worker is healthy, and its queue of a class is open and active. -/
def Available (self : Dispatching) (ofClass : PacketClass) : Prop :=
  ∃ worker ∈ self.dispatcher.workers, self.dispatcher.shared.isHealthy worker = true ∧
    (self.dispatcher.shared.queue (queueForClass worker ofClass)).isOpen = true

/-- Mark of the packet that is dispatched next. -/
def nextMark (self : Dispatching) : PacketMark where
  serial := self.dispatched
  spare := false

/-- Dispatched now, the packet itself, and not just a copy of it, comes into the queue
of a registered healthy worker. -/
def Delivered (self : Dispatching) (packet : PacketBuf) (storage : Option Storage) : Prop :=
  ∃ worker ∈ self.dispatcher.workers, self.dispatcher.shared.isHealthy worker = true ∧
    (step self (.dispatch packet storage)).1.dispatcher.shared.Carries
      (queueForClass worker (packetClass packet.asSlice)) (self.nextMark, packet)

/-- The scheduler with the list a packet is dispatched over: the one it has in the
middle of a chunk, the registered one where a chunk begins. -/
def inUse (self : Dispatching) (packet : PacketBuf) : FastPathScheduler :=
  self.dispatcher.scheduler.reloaded self.dispatcher.workers (packetClass packet.asSlice)

/-- The ticket of a packet, if any worker is in use. -/
def nextTicket (self : Dispatching) (packet : PacketBuf) : DispatchTicket where
  startSlot := ((self.inUse packet).cursors (packetClass packet.asSlice)).currentWorker
  ofClass := packetClass packet.asSlice

/-- The worker that the search selects in the list in use shares its queue with a
registered healthy worker. -/
def SelectsRegistered (self : Dispatching) (packet : PacketBuf) : Prop :=
  ∃ selected, Selected self.dispatcher.shared (self.inUse packet).workers
      (self.nextTicket packet) selected ∧
    ∃ worker ∈ self.dispatcher.workers, self.dispatcher.shared.isHealthy worker = true ∧
      queueForClass worker (packetClass packet.asSlice) =
        queueForClass selected (packetClass packet.asSlice)

variable {packet : PacketBuf} {storage : Option Storage} {sender : PacketSender}

/-- The packet is placed with the next ticket, then its copy. -/
theorem dispatch_shared (sound : self.dispatcher.scheduler.Sound)
    (listed : (self.inUse packet).workers ≠ []) :
    (step self (.dispatch packet storage)).1.dispatcher.shared =
      placeSpare (placePacket self.dispatcher.shared (self.inUse packet).workers
          (self.nextTicket packet) (self.nextMark, packet))
        (self.inUse packet).workers (self.nextTicket packet)
        ((udpSpare self.dispatcher.tracker packet storage).2.map
          ({ serial := self.dispatched, spare := true }, ·)) := by
  have workers := FastPathScheduler.begin_workers self.dispatcher.scheduler
    self.dispatcher.workers packet.asSlice
  cases answer : (self.answered packet).2 with
  | none => exact absurd ((FastPathScheduler.begin_refused sound).mp answer) listed
  | some ticket =>
      obtain ⟨ofClass, startSlot, _⟩ := FastPathScheduler.begin_ticket sound answer
      have next : ticket = self.nextTicket packet := by
        cases ticket
        cases ofClass
        cases startSlot
        rfl
      have placed : (step self (.dispatch packet storage)).1.dispatcher.shared = _ :=
        dispatchNow_given answer _ _ _
      rw [placed, workers, next]
      rfl

/-- The copy has another mark, so only the placement decides where the packet is. -/
theorem dispatch_carries (sound : self.dispatcher.scheduler.Sound) :
    (step self (.dispatch packet storage)).1.dispatcher.shared.Carries sender
        (self.nextMark, packet) ↔
      (placePacket self.dispatcher.shared (self.inUse packet).workers (self.nextTicket packet)
        (self.nextMark, packet)).Carries sender (self.nextMark, packet) := by
  by_cases listed : (self.inUse packet).workers = []
  · have refused : (self.answered packet).2 = none :=
      (FastPathScheduler.begin_refused sound).mpr listed
    have same : (step self (.dispatch packet storage)).1.dispatcher.shared =
        self.dispatcher.shared := dispatchNow_refused refused _ _ _
    rw [same, listed]
    exact Iff.rfl
  · rw [dispatch_shared sound listed]
    apply placeSpare_carries_iff
    intro copy copied same
    obtain ⟨bytes, _, rfl⟩ := Option.map_eq_some_iff.mp copied
    cases same

/-- A packet is delivered exactly if the selected worker's queue is that of a
registered healthy worker. -/
theorem delivered_iff_selectsRegistered (sound : self.dispatcher.scheduler.Sound)
    (numbered : self.Numbered) :
    self.Delivered packet storage ↔ self.SelectsRegistered packet := by
  have absent (sender : PacketSender) :
      ¬ self.dispatcher.shared.Carries sender (self.nextMark, packet) :=
    fun carried => Nat.lt_irrefl _ (numbered sender _ carried)
  constructor
  · rintro ⟨worker, registered, healthy, carried⟩
    rw [dispatch_carries sound] at carried
    by_cases selected : ∃ selected, Selected self.dispatcher.shared (self.inUse packet).workers
      (self.nextTicket packet) selected
    · obtain ⟨selected, chosen⟩ := selected
      refine ⟨selected, chosen, worker, registered, healthy, ?_⟩
      by_contra apart
      have placed := placePacket_selected chosen (self.nextMark, packet)
      exact absent _ ((placed.carries_other apart).mp carried)
    · push Not at selected
      rw [placePacket_unselected selected] at carried
      exact absurd carried (absent _)
  · rintro ⟨selected, chosen, worker, registered, healthy, same⟩
    refine ⟨worker, registered, healthy, ?_⟩
    rw [dispatch_carries sound, same]
    exact (placePacket_selected chosen (self.nextMark, packet)).carries

/-- In every reachable state: whenever a registered worker is available, a packet is
delivered, exactly if, whenever one is available, the search selects a registered one. -/
theorem delivered_iff (channels : PacketSender → Nat × Bool) (events : List DispatchEvent)
    (packet : PacketBuf) (storage : Option Storage) :
    let state := (Transducer.run step (start channels) events).1
    (state.Available (packetClass packet.asSlice) → state.Delivered packet storage) ↔
      (state.Available (packetClass packet.asSlice) → state.SelectsRegistered packet) := by
  intro state
  have numbered : state.Numbered :=
    @Transducer.run_invariant _ _ _ step Numbered (fun _ event before =>
      numbered_step before event) _ events (numbered_start channels)
  have sound : state.dispatcher.scheduler.Sound :=
    @Transducer.run_invariant _ _ _ step (fun state => state.dispatcher.scheduler.Sound)
      (fun _ event before => sound_step before event) _ events FastPathScheduler.sound_new
  rw [delivered_iff_selectsRegistered sound numbered]

/-- Where a chunk begins, only a closed or inactive queue of a registered healthy
worker can stand in the way. -/
theorem selectsRegistered_of_boundary
    (boundary : (self.dispatcher.scheduler.cursors (packetClass packet.asSlice)).remaining = 0)
    (available : self.Available (packetClass packet.asSlice))
    (taking : ∀ worker ∈ self.dispatcher.workers,
      self.dispatcher.shared.isHealthy worker = true →
        (self.dispatcher.shared.queue
          (queueForClass worker (packetClass packet.asSlice))).isOpen = true) :
    self.SelectsRegistered packet := by
  obtain ⟨worker, registered, healthy, _⟩ := available
  have listed : (self.inUse packet).workers = self.dispatcher.workers :=
    FastPathScheduler.reloaded_workers boundary
  rw [← listed] at registered taking
  obtain ⟨selected, chosen⟩ :=
    @exists_selected _ _ _ (self.nextTicket packet) _ ⟨registered, healthy⟩ taking
  obtain ⟨inside, fit⟩ := chosen.mem
  exact ⟨selected, chosen, selected, listed ▸ inside, fit, rfl⟩

/-- A worker ends in the middle of a chunk and its next incarnation is registered. The
chunk's next packet is dropped although that incarnation could take it. -/
theorem replaced_worker_drops_a_packet :
    let state := (Transducer.run step (start fun _ => (16, true))
      [.register firstIncarnation, .dispatch smallPacket none, .health firstIncarnation false,
        .unregister 1 1#64, .register secondIncarnation]).1
    state.Available (packetClass smallPacket.asSlice) ∧ ¬ state.Delivered smallPacket none := by
  intro state
  constructor
  · exact ⟨secondIncarnation, by decide +kernel, by decide +kernel, by decide +kernel⟩
  · rintro ⟨worker, registered, _, queued, inside, same⟩
    have absent : ∀ worker ∈ state.dispatcher.workers, state.nextMark ∉
        ((step state (.dispatch smallPacket none)).1.dispatcher.shared.queue
          (queueForClass worker (packetClass smallPacket.asSlice))).items.map
            fun queued => queued.packet.1 := by
      decide +kernel
    exact absent worker registered (List.mem_map.mpr ⟨queued, inside, congrArg Prod.fst same⟩)

end Dispatching

end Csqtt
