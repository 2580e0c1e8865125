/-
Module: Csqtt.Proofs.WorkerEnqueue
Purpose: The search for a queue that takes a packet is all or nothing, and it misses no
  queue in its range.
Trusted boundary: none
Main exports: Shared.Enqueued, InSearch, mem_searchedWorkers_iff, enqueueSelectedWorker_ok,
  enqueueSelectedWorker_error, enqueue_all_or_nothing
-/
import Csqtt.Proofs.WorkerDispatch

namespace Csqtt

variable {Mark : Type*}

/-- One queue took a packet at its end. All else is as it was, this queue's capacity,
state and receiver too. -/
def Shared.Enqueued (shared after : Shared Mark) (sender : PacketSender)
    (packet : Mark × PacketBuf) : Prop :=
  ∃ queue : PacketQueue Mark, after = shared.setQueue sender queue ∧
    queue.items = (shared.queue sender).items ++
      [{ packet := packet, epoch := (shared.queue sender).state >>> 1 }] ∧
    queue.capacity = (shared.queue sender).capacity ∧
    queue.state = (shared.queue sender).state ∧
    queue.receiverOpen = (shared.queue sender).receiverOpen

/-- A worker of the list is in the range of a search: any worker is when the one at the
start slot is not healthy; else this one and its next two neighbours are. -/
def InSearch (shared : Shared Mark) (workers : List WorkerChannels) (startSlot : Nat)
    (worker : WorkerChannels) : Prop :=
  if workers[startSlot]?.any shared.isHealthy then
    ∃ offset ≤ 2, workers[(startSlot + offset) % workers.length]? = some worker
  else worker ∈ workers

variable {shared after : Shared Mark} {workers : List WorkerChannels}
  {worker : WorkerChannels} {ticket : DispatchTicket} {sender : PacketSender}
  {packet returned : Mark × PacketBuf}

theorem Shared.Enqueued.appended (enqueued : shared.Enqueued after sender packet) :
    shared.Appended after sender packet := by
  obtain ⟨queue, changed, items, _⟩ := enqueued
  exact ⟨queue, changed, _, items⟩

/-!
### The range of a search
-/

theorem mem_workersFrom {startSlot search : Nat} :
    worker ∈ workersFrom workers startSlot search ↔
      ∃ offset < search, workers[(startSlot + offset) % workers.length]? = some worker := by
  rw [workersFrom, List.mem_filterMap]
  simp only [List.mem_range]

/-- A search over as many offsets as there are workers comes by every one. -/
theorem mem_workersFrom_all {startSlot : Nat} :
    worker ∈ workersFrom workers startSlot workers.length ↔ worker ∈ workers := by
  constructor
  · intro searched
    obtain ⟨offset, _, found⟩ := mem_workersFrom.mp searched
    exact List.mem_of_getElem? found
  · intro listed
    obtain ⟨index, bound, rfl⟩ := List.getElem_of_mem listed
    have positive : 0 < workers.length := Nat.zero_lt_of_lt bound
    apply mem_workersFrom.mpr
    -- The offset that leads from the start slot around to the worker's index.
    refine ⟨(index + (workers.length - startSlot % workers.length)) % workers.length,
      Nat.mod_lt _ positive, ?_⟩
    have start : startSlot % workers.length < workers.length := Nat.mod_lt _ positive
    have around : (startSlot +
        (index + (workers.length - startSlot % workers.length)) % workers.length) %
        workers.length = index := by
      rw [Nat.add_mod_mod, ← Nat.mod_add_mod]
      have whole : startSlot % workers.length +
          (index + (workers.length - startSlot % workers.length)) = index + workers.length := by
        omega
      rw [whole, Nat.add_mod_right, Nat.mod_eq_of_lt bound]
    rw [around]
    exact List.getElem?_eq_getElem bound

/-- The probe count of a healthy start leaves out no neighbour: in a shorter list the
neighbours are workers that were probed before. -/
theorem mem_workersFrom_near {startSlot : Nat} (listed : startSlot < workers.length) :
    worker ∈ workersFrom workers startSlot (1 + min 2 (workers.length - 1)) ↔
      ∃ offset ≤ 2, workers[(startSlot + offset) % workers.length]? = some worker := by
  rw [mem_workersFrom]
  constructor
  · rintro ⟨offset, probed, found⟩
    exact ⟨offset, by omega, found⟩
  · rintro ⟨offset, near, found⟩
    have positive : 0 < workers.length := Nat.zero_lt_of_lt listed
    refine ⟨offset % workers.length, ?_, ?_⟩
    · have below := Nat.mod_lt offset positive
      have least := Nat.mod_le offset workers.length
      omega
    · rw [Nat.add_mod_mod]
      exact found

theorem mem_searchedWorkers_iff {startSlot : Nat} :
    worker ∈ searchedWorkers shared workers startSlot ↔
      InSearch shared workers startSlot worker := by
  rw [searchedWorkers, InSearch]
  by_cases healthy : workers[startSlot]?.any shared.isHealthy = true
  · rw [if_pos healthy, if_pos healthy]
    apply mem_workersFrom_near
    by_contra beyond
    rw [List.getElem?_eq_none (Nat.le_of_not_lt beyond)] at healthy
    cases healthy
  · rw [if_neg healthy, if_neg healthy]
    exact mem_workersFrom_all

/-!
### All or nothing
-/

theorem trySend_enqueued
    (room : (shared.queue sender).isOpen = true ∧
      (shared.queue sender).queued < (shared.queue sender).capacity) :
    ∃ after, shared.trySend sender packet = .ok after ∧
      shared.Enqueued after sender packet := by
  rw [Shared.trySend, PacketQueue.trySend_eq, dif_pos room]
  exact ⟨_, rfl, _, rfl, rfl, rfl, rfl, rfl⟩

theorem offerPacket_enqueued {ofClass : PacketClass} {preferClear : Bool}
    {searched : List WorkerChannels} (packet : Mark × PacketBuf)
    (found : searched.find? (accepts shared ofClass preferClear) = some worker) :
    ∃ after, offerPacket shared ofClass preferClear searched packet = .ok after ∧
      shared.Enqueued after (queueForClass worker ofClass) packet := by
  rw [offerPacket_eq, found]
  exact trySend_enqueued (accepts_iff.mp (List.find?_some found)).2.2

/-- The worker that a search ends at: the first with a clear queue, else the first
with room. -/
def firstTaker (takes : Bool → WorkerChannels → Bool) (searched : List WorkerChannels) :
    Option WorkerChannels :=
  (searched.find? (takes true)).or (searched.find? (takes false))

theorem mem_of_firstTaker {takes : Bool → WorkerChannels → Bool}
    {searched : List WorkerChannels} (found : firstTaker takes searched = some worker) :
    worker ∈ searched ∧ ∃ preferClear, takes preferClear worker = true := by
  rcases Option.or_eq_some_iff.mp found with clear | ⟨_, room⟩
  · exact ⟨List.mem_of_find?_eq_some clear, true, List.find?_some clear⟩
  · exact ⟨List.mem_of_find?_eq_some room, false, List.find?_some room⟩

/-- The packet is appended to the queue of the worker the search ends at, or it comes
back. -/
theorem enqueueSelectedWorker_spec (shared : Shared Mark) (workers : List WorkerChannels)
    (ticket : DispatchTicket) (packet : Mark × PacketBuf) :
    match firstTaker (accepts shared ticket.ofClass)
      (searchedWorkers shared workers ticket.startSlot) with
    | some worker => ∃ after, enqueueSelectedWorker shared workers ticket packet = .ok after ∧
        shared.Enqueued after (queueForClass worker ticket.ofClass) packet
    | none => enqueueSelectedWorker shared workers ticket packet = .error packet := by
  by_cases listed : workers = []
  · subst listed
    rfl
  · rw [enqueueSelectedWorker_eq shared listed, firstTaker]
    cases clear : (searchedWorkers shared workers ticket.startSlot).find?
      (accepts shared ticket.ofClass true) with
    | some worker =>
        obtain ⟨after, offered, enqueued⟩ := offerPacket_enqueued packet clear
        rw [offered]
        exact ⟨after, rfl, enqueued⟩
    | none =>
        rw [offerPacket_none packet clear]
        cases room : (searchedWorkers shared workers ticket.startSlot).find?
          (accepts shared ticket.ofClass false) with
        | some worker => exact offerPacket_enqueued packet room
        | none => exact offerPacket_none packet room

theorem enqueueSelectedWorker_ok
    (sent : enqueueSelectedWorker shared workers ticket packet = .ok after) :
    ∃ worker, firstTaker (accepts shared ticket.ofClass)
        (searchedWorkers shared workers ticket.startSlot) = some worker ∧
      shared.Enqueued after (queueForClass worker ticket.ofClass) packet := by
  have spec := enqueueSelectedWorker_spec shared workers ticket packet
  cases found : firstTaker (accepts shared ticket.ofClass)
    (searchedWorkers shared workers ticket.startSlot) with
  | none =>
      rw [found] at spec
      rw [spec] at sent
      cases sent
  | some worker =>
      rw [found] at spec
      obtain ⟨expected, placed, enqueued⟩ := spec
      rw [placed] at sent
      cases sent
      exact ⟨worker, rfl, enqueued⟩

theorem enqueueSelectedWorker_error
    (refused : enqueueSelectedWorker shared workers ticket packet = .error returned) :
    returned = packet ∧ firstTaker (accepts shared ticket.ofClass)
      (searchedWorkers shared workers ticket.startSlot) = none := by
  have spec := enqueueSelectedWorker_spec shared workers ticket packet
  cases found : firstTaker (accepts shared ticket.ofClass)
    (searchedWorkers shared workers ticket.startSlot) with
  | none =>
      rw [found] at spec
      rw [spec] at refused
      cases refused
      exact ⟨rfl, rfl⟩
  | some worker =>
      rw [found] at spec
      obtain ⟨expected, placed, _⟩ := spec
      rw [placed] at refused
      cases refused

/-- A healthy worker in the range of a search, with an open and active queue that has
room. -/
def Roomy (shared : Shared Mark) (workers : List WorkerChannels) (ticket : DispatchTicket)
    (worker : WorkerChannels) : Prop :=
  InSearch shared workers ticket.startSlot worker ∧ shared.isHealthy worker = true ∧
    (shared.queue (queueForClass worker ticket.ofClass)).receiverOpen = true ∧
    (shared.queue (queueForClass worker ticket.ofClass)).isActive = true ∧
    (shared.queue (queueForClass worker ticket.ofClass)).queued <
      (shared.queue (queueForClass worker ticket.ofClass)).capacity

/-- Over any list, whatever the queues hold and whoever is healthy: the packet is
appended to the queue of one healthy worker, and nothing else changes; or the packet
comes back and nothing changes; and it does not come back as long as a worker in the
range has room. -/
theorem enqueue_all_or_nothing (shared : Shared Mark) (workers : List WorkerChannels)
    (ticket : DispatchTicket) (packet : Mark × PacketBuf) :
    (∀ after, enqueueSelectedWorker shared workers ticket packet = .ok after →
      ∃ worker ∈ workers, shared.isHealthy worker = true ∧
        shared.Enqueued after (queueForClass worker ticket.ofClass) packet) ∧
    (∀ returned, enqueueSelectedWorker shared workers ticket packet = .error returned →
      returned = packet ∧
        orUnchanged shared (enqueueSelectedWorker shared workers ticket packet) = shared) ∧
    ((∃ worker, Roomy shared workers ticket worker) →
      ∃ after, enqueueSelectedWorker shared workers ticket packet = .ok after) := by
  refine ⟨?_, ?_, ?_⟩
  · intro after sent
    obtain ⟨worker, found, enqueued⟩ := enqueueSelectedWorker_ok sent
    obtain ⟨searched, preferClear, takes⟩ := mem_of_firstTaker found
    exact ⟨worker, mem_of_mem_searchedWorkers searched, (accepts_iff.mp takes).1, enqueued⟩
  · intro returned refused
    rw [refused]
    exact ⟨(enqueueSelectedWorker_error refused).1, rfl⟩
  · rintro ⟨worker, ranged, healthy, reachable, active, room⟩
    have searched := mem_searchedWorkers_iff.mpr ranged
    have taking : (shared.queue (queueForClass worker ticket.ofClass)).isOpen = true := by
      rw [PacketQueue.isOpen, reachable, active]
      rfl
    cases result : enqueueSelectedWorker shared workers ticket packet with
    | ok after => exact ⟨after, rfl⟩
    | error returned =>
        have nobody := (Option.or_eq_none_iff.mp (enqueueSelectedWorker_error result).2).2
        have passed := List.find?_eq_none.mp nobody worker searched
        exact absurd (accepts_iff.mpr ⟨healthy, rfl, taking, room⟩) passed

end Csqtt
