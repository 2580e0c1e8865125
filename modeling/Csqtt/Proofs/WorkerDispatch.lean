/-
Module: Csqtt.Proofs.WorkerDispatch
Purpose: Which worker a packet is placed with, and that nothing else about the queues
  changes than that this one gets the packet.
Trusted boundary: none
Main exports: accepts, searchedWorkers, Selected, exists_selected, placePacket_selected,
  placePacket_unselected, placeSpare_carries_iff
-/
import Csqtt.Engine.WorkerDispatch

namespace Csqtt

variable {Mark : Type*}

/-- Whether a worker takes a packet in one round of the search. -/
def accepts (shared : Shared Mark) (ofClass : PacketClass) (preferClear : Bool)
    (worker : WorkerChannels) : Bool :=
  let queue := shared.queue (queueForClass worker ofClass)
  shared.isHealthy worker && !(preferClear && queue.isCongested) && queue.isOpen &&
    decide (queue.queued < queue.capacity)

/-- The workers a ticket's packet is offered to, in order. -/
def searchedWorkers (shared : Shared Mark) (workers : List WorkerChannels) (startSlot : Nat) :
    List WorkerChannels :=
  workersFrom workers startSlot
    (if workers[startSlot]?.any shared.isHealthy then 1 + min 2 (workers.length - 1)
      else workers.length)

/-- The first of the healthy workers with the shortest queue of a class. -/
def shortestHealthy (shared : Shared Mark) (workers : List WorkerChannels)
    (ofClass : PacketClass) : Option WorkerChannels :=
  (workers.filter shared.isHealthy).argmin fun worker =>
    (shared.queue (queueForClass worker ofClass)).queued

/-- The worker a packet is placed with: the first searched one with a clear queue; if
there is none, the first searched one with room; if no searched queue has room, the
healthy one of the list with the shortest queue, provided that queue takes packets. -/
inductive Selected (shared : Shared Mark) (workers : List WorkerChannels)
    (ticket : DispatchTicket) (worker : WorkerChannels) : Prop where
  | clear
      (found : (searchedWorkers shared workers ticket.startSlot).find?
        (accepts shared ticket.ofClass true) = some worker)
  | roomy
      (congested : (searchedWorkers shared workers ticket.startSlot).find?
        (accepts shared ticket.ofClass true) = none)
      (found : (searchedWorkers shared workers ticket.startSlot).find?
        (accepts shared ticket.ofClass false) = some worker)
  | shortest
      (full : (searchedWorkers shared workers ticket.startSlot).find?
        (accepts shared ticket.ofClass false) = none)
      (found : shortestHealthy shared workers ticket.ofClass = some worker)
      (taking : (shared.queue (queueForClass worker ticket.ofClass)).isOpen = true)

/-- A packet is in a queue. -/
def Shared.Carries (shared : Shared Mark) (sender : PacketSender) (packet : Mark × PacketBuf) :
    Prop :=
  ∃ queued ∈ (shared.queue sender).items, queued.packet = packet

/-- One queue got a packet, after what it kept of its earlier ones. -/
def Shared.Placed (shared after : Shared Mark) (sender : PacketSender)
    (packet : Mark × PacketBuf) : Prop :=
  ∃ queue : PacketQueue Mark, after = shared.setQueue sender queue ∧
    ∃ kept epoch, queue.items = kept ++ [{ packet := packet, epoch := epoch }] ∧
      kept <:+ (shared.queue sender).items

/-- One queue got a packet and lost none. -/
def Shared.Appended (shared after : Shared Mark) (sender : PacketSender)
    (packet : Mark × PacketBuf) : Prop :=
  ∃ queue : PacketQueue Mark, after = shared.setQueue sender queue ∧
    ∃ epoch, queue.items =
      (shared.queue sender).items ++ [{ packet := packet, epoch := epoch }]

variable {shared after : Shared Mark} {sender other : PacketSender}
  {packet held : Mark × PacketBuf}

theorem Shared.Appended.placed (appended : shared.Appended after sender packet) :
    shared.Placed after sender packet := by
  obtain ⟨queue, changed, epoch, items⟩ := appended
  exact ⟨queue, changed, _, epoch, items, List.suffix_refl _⟩

theorem Shared.Placed.carries (placed : shared.Placed after sender packet) :
    after.Carries sender packet := by
  obtain ⟨queue, rfl, kept, epoch, items, _⟩ := placed
  rw [Shared.Carries, Shared.setQueue_queue, items]
  exact ⟨_, List.mem_append_right _ (List.mem_singleton_self _), rfl⟩

theorem Shared.Placed.carries_other (placed : shared.Placed after sender packet)
    (apart : other ≠ sender) : after.Carries other held ↔ shared.Carries other held := by
  obtain ⟨queue, rfl, _⟩ := placed
  rw [Shared.Carries, Shared.setQueue_queue_of_ne shared queue apart, Shared.Carries]

/-- What a queue carries after a placement it carried before, or it is the packet. -/
theorem Shared.Placed.carried (placed : shared.Placed after sender packet)
    (within : after.Carries other held) :
    shared.Carries other held ∨ held = packet := by
  by_cases own : other = sender
  · subst own
    obtain ⟨queue, rfl, kept, epoch, items, suffix⟩ := placed
    rw [Shared.Carries, Shared.setQueue_queue, items] at within
    obtain ⟨queued, inside, rfl⟩ := within
    rcases List.mem_append.mp inside with earlier | new
    · exact Or.inl ⟨queued, suffix.subset earlier, rfl⟩
    · rw [List.mem_singleton.mp new]
      exact Or.inr rfl
  · exact Or.inl ((placed.carries_other own).mp within)

/-- A packet that is appended leaves all others where they are. -/
theorem Shared.Appended.carries_iff (appended : shared.Appended after sender packet)
    (apart : held ≠ packet) : after.Carries other held ↔ shared.Carries other held := by
  constructor
  · intro within
    rcases appended.placed.carried within with earlier | new
    · exact earlier
    · exact absurd new apart
  · rintro ⟨queued, inside, same⟩
    obtain ⟨queue, rfl, epoch, items⟩ := appended
    by_cases own : other = sender
    · subst own
      refine ⟨queued, ?_, same⟩
      rw [Shared.setQueue_queue, items]
      exact List.mem_append_left _ inside
    · refine ⟨queued, ?_, same⟩
      rw [Shared.setQueue_queue_of_ne shared queue own]
      exact inside

/-!
### The search
-/

theorem trySend_appended
    (room : (shared.queue sender).isOpen = true ∧
      (shared.queue sender).queued < (shared.queue sender).capacity) :
    ∃ after, shared.trySend sender packet = .ok after ∧ shared.Appended after sender packet := by
  rw [Shared.trySend, PacketQueue.trySend_eq, dif_pos room]
  exact ⟨_, rfl, _, rfl, _, rfl⟩

theorem trySend_rejected
    (room : ¬ ((shared.queue sender).isOpen = true ∧
      (shared.queue sender).queued < (shared.queue sender).capacity)) :
    shared.trySend sender packet = .error packet := by
  rw [Shared.trySend, PacketQueue.trySend_eq, dif_neg room]
  rfl

theorem forceSend_placed (taking : (shared.queue sender).isOpen = true) :
    ∃ after, shared.forceSend sender packet = .ok after ∧ shared.Placed after sender packet := by
  rw [Shared.forceSend, PacketQueue.forceSend_eq, if_pos taking]
  exact ⟨_, rfl, _, rfl, _, _, rfl, List.drop_suffix _ _⟩

theorem forceSend_rejected (taking : (shared.queue sender).isOpen = false) :
    shared.forceSend sender packet = .error packet := by
  rw [Shared.forceSend, PacketQueue.forceSend_eq, if_neg (by simp [taking])]
  rfl

theorem accepts_iff {ofClass : PacketClass} {preferClear : Bool} {worker : WorkerChannels} :
    accepts shared ofClass preferClear worker = true ↔
      shared.isHealthy worker = true ∧
        (preferClear && (shared.queue (queueForClass worker ofClass)).isCongested) = false ∧
        (shared.queue (queueForClass worker ofClass)).isOpen = true ∧
        (shared.queue (queueForClass worker ofClass)).queued <
          (shared.queue (queueForClass worker ofClass)).capacity := by
  simp only [accepts, Bool.and_eq_true, Bool.not_eq_true', decide_eq_true_eq, and_assoc]

/-- A worker that accepts the packet gets it, every other one is passed over. -/
theorem offerPacket_cons (shared : Shared Mark) (ofClass : PacketClass) (preferClear : Bool)
    (worker : WorkerChannels) (workers : List WorkerChannels) (packet : Mark × PacketBuf) :
    offerPacket shared ofClass preferClear (worker :: workers) packet =
      if accepts shared ofClass preferClear worker then
        shared.trySend (queueForClass worker ofClass) packet
      else offerPacket shared ofClass preferClear workers packet := by
  rw [offerPacket]
  by_cases takes : accepts shared ofClass preferClear worker = true
  · obtain ⟨healthy, clear, room⟩ := accepts_iff.mp takes
    obtain ⟨after, sent, _⟩ :=
      @trySend_appended _ shared (queueForClass worker ofClass) packet room
    simp only [healthy, clear, sent, takes, Bool.not_true, Bool.false_eq_true, if_false, if_true]
  · rw [if_neg takes]
    by_cases healthy : shared.isHealthy worker = true
    · cases passed :
        preferClear && (shared.queue (queueForClass worker ofClass)).isCongested with
      | true => simp only [healthy, Bool.not_true, Bool.false_eq_true, if_false, if_true]
      | false =>
          have full := fun room => takes (accepts_iff.mpr ⟨healthy, passed, room⟩)
          simp only [healthy, trySend_rejected full, Bool.not_true, Bool.false_eq_true, if_false]
    · simp only [healthy, Bool.not_false, if_true]

/-- A round hands the packet to the first worker that accepts it. -/
theorem offerPacket_eq (shared : Shared Mark) (ofClass : PacketClass) (preferClear : Bool)
    (workers : List WorkerChannels) (packet : Mark × PacketBuf) :
    offerPacket shared ofClass preferClear workers packet =
      match workers.find? (accepts shared ofClass preferClear) with
      | some worker => shared.trySend (queueForClass worker ofClass) packet
      | none => .error packet := by
  induction workers with
  | nil => rfl
  | cons worker workers inductionHypothesis =>
      rw [offerPacket_cons, List.find?_cons, inductionHypothesis]
      cases takes : accepts shared ofClass preferClear worker with
      | true => rfl
      | false => rfl

theorem offerPacket_found {ofClass : PacketClass} {preferClear : Bool}
    {workers : List WorkerChannels} {worker : WorkerChannels} (packet : Mark × PacketBuf)
    (found : workers.find? (accepts shared ofClass preferClear) = some worker) :
    ∃ after, offerPacket shared ofClass preferClear workers packet = .ok after ∧
      shared.Appended after (queueForClass worker ofClass) packet := by
  rw [offerPacket_eq, found]
  exact trySend_appended (accepts_iff.mp (List.find?_some found)).2.2

theorem offerPacket_none {ofClass : PacketClass} {preferClear : Bool}
    {workers : List WorkerChannels} (packet : Mark × PacketBuf)
    (none : workers.find? (accepts shared ofClass preferClear) = none) :
    offerPacket shared ofClass preferClear workers packet = .error packet := by
  rw [offerPacket_eq, none]

theorem enqueueSelectedWorker_eq (shared : Shared Mark) {workers : List WorkerChannels}
    (listed : workers ≠ []) (ticket : DispatchTicket) (packet : Mark × PacketBuf) :
    enqueueSelectedWorker shared workers ticket packet =
      match offerPacket shared ticket.ofClass true
          (searchedWorkers shared workers ticket.startSlot) packet with
      | .ok shared => .ok shared
      | .error returned => offerPacket shared ticket.ofClass false
          (searchedWorkers shared workers ticket.startSlot) returned := by
  rw [enqueueSelectedWorker, if_neg (by simpa using listed)]
  rfl

theorem replaceOldest_eq (shared : Shared Mark) {workers : List WorkerChannels}
    (listed : workers ≠ []) (ticket : DispatchTicket) (packet : Mark × PacketBuf) :
    replaceOldestInSelectedQueue shared workers ticket packet =
      match shortestHealthy shared workers ticket.ofClass with
      | none => .error packet
      | some worker => shared.forceSend (queueForClass worker ticket.ofClass) packet := by
  rw [replaceOldestInSelectedQueue, if_neg (by simpa using listed)]
  rfl

variable {workers : List WorkerChannels} {ticket : DispatchTicket} {worker : WorkerChannels}

theorem mem_of_mem_searchedWorkers {startSlot : Nat}
    (searched : worker ∈ searchedWorkers shared workers startSlot) : worker ∈ workers := by
  obtain ⟨offset, _, found⟩ := List.mem_filterMap.mp searched
  exact List.mem_of_getElem? found

/-- The selected worker is a healthy one of the list. -/
theorem Selected.mem (selected : Selected shared workers ticket worker) :
    worker ∈ workers ∧ shared.isHealthy worker = true := by
  cases selected with
  | clear found =>
      exact ⟨mem_of_mem_searchedWorkers (List.mem_of_find?_eq_some found),
        (accepts_iff.mp (List.find?_some found)).1⟩
  | roomy congested found =>
      exact ⟨mem_of_mem_searchedWorkers (List.mem_of_find?_eq_some found),
        (accepts_iff.mp (List.find?_some found)).1⟩
  | shortest full found taking => exact List.mem_filter.mp (List.argmin_mem found)

/-- A worker is selected if some worker is healthy and the queues of all healthy ones
take packets. -/
theorem exists_selected (healthy : worker ∈ workers ∧ shared.isHealthy worker = true)
    (taking : ∀ worker ∈ workers, shared.isHealthy worker = true →
      (shared.queue (queueForClass worker ticket.ofClass)).isOpen = true) :
    ∃ selected, Selected shared workers ticket selected := by
  cases clear : (searchedWorkers shared workers ticket.startSlot).find?
    (accepts shared ticket.ofClass true) with
  | some first => exact ⟨first, .clear clear⟩
  | none =>
      cases room : (searchedWorkers shared workers ticket.startSlot).find?
        (accepts shared ticket.ofClass false) with
      | some first => exact ⟨first, .roomy clear room⟩
      | none =>
          cases found : shortestHealthy shared workers ticket.ofClass with
          | some first =>
              obtain ⟨listed, fit⟩ := List.mem_filter.mp (List.argmin_mem found)
              exact ⟨first, .shortest room found (taking first listed fit)⟩
          | none =>
              have nobody := List.argmin_eq_none.mp found
              exact absurd (List.mem_filter.mpr healthy) (nobody ▸ List.not_mem_nil)

/-- What follows when no round of the search places the packet. -/
theorem placePacket_full (listed : workers ≠ [])
    (full : (searchedWorkers shared workers ticket.startSlot).find?
      (accepts shared ticket.ofClass false) = none) :
    placePacket shared workers ticket packet =
      orUnchanged shared (match shortestHealthy shared workers ticket.ofClass with
        | none => .error packet
        | some worker => shared.forceSend (queueForClass worker ticket.ofClass) packet) := by
  have congested : (searchedWorkers shared workers ticket.startSlot).find?
      (accepts shared ticket.ofClass true) = none := by
    rw [List.find?_eq_none] at full ⊢
    intro worker searched takes
    obtain ⟨healthy, _, room⟩ := accepts_iff.mp takes
    exact full worker searched (accepts_iff.mpr ⟨healthy, rfl, room⟩)
  rw [placePacket, enqueueSelectedWorker_eq shared listed, offerPacket_none packet congested]
  simp only [offerPacket_none packet full, replaceOldest_eq shared listed]

/-- The packet is placed with the selected worker. -/
theorem placePacket_selected (selected : Selected shared workers ticket worker)
    (packet : Mark × PacketBuf) :
    shared.Placed (placePacket shared workers ticket packet)
      (queueForClass worker ticket.ofClass) packet := by
  have listed : workers ≠ [] := by
    rintro rfl
    cases selected with
    | clear found => cases found
    | roomy congested found => cases found
    | shortest full found taking => cases found
  cases selected with
  | clear found =>
      obtain ⟨after, offered, appended⟩ := offerPacket_found packet found
      rw [placePacket, enqueueSelectedWorker_eq shared listed, offered]
      exact appended.placed
  | roomy congested found =>
      obtain ⟨after, offered, appended⟩ := offerPacket_found packet found
      rw [placePacket, enqueueSelectedWorker_eq shared listed, offerPacket_none packet congested]
      simp only [offered]
      exact appended.placed
  | shortest full found taking =>
      obtain ⟨after, sent, placed⟩ := @forceSend_placed _ shared _ packet taking
      rw [placePacket_full listed full, found]
      simp only [sent]
      exact placed

/-- If no worker is selected, the packet is dropped. -/
theorem placePacket_unselected (unselected : ∀ worker, ¬ Selected shared workers ticket worker)
    (packet : Mark × PacketBuf) : placePacket shared workers ticket packet = shared := by
  by_cases listed : workers = []
  · subst listed
    rfl
  · have full : (searchedWorkers shared workers ticket.startSlot).find?
        (accepts shared ticket.ofClass false) = none := by
      by_contra room
      obtain ⟨worker, found⟩ := Option.ne_none_iff_exists'.mp room
      cases clear : (searchedWorkers shared workers ticket.startSlot).find?
        (accepts shared ticket.ofClass true) with
      | none => exact unselected worker (.roomy clear found)
      | some first => exact unselected first (.clear clear)
    rw [placePacket_full listed full]
    cases found : shortestHealthy shared workers ticket.ofClass with
    | none => rfl
    | some worker =>
        have refusing : (shared.queue (queueForClass worker ticket.ofClass)).isOpen = false := by
          by_contra taking
          exact unselected worker (.shortest full found (Bool.not_eq_false _ ▸ taking))
        simp only [forceSend_rejected refusing]
        rfl

/-- What the queues carry after a packet was to be placed. -/
theorem placePacket_carried
    (within : (placePacket shared workers ticket packet).Carries other held) :
    shared.Carries other held ∨ held = packet := by
  by_cases selected : ∃ worker, Selected shared workers ticket worker
  · obtain ⟨worker, selected⟩ := selected
    exact (placePacket_selected selected packet).carried within
  · push Not at selected
    rw [placePacket_unselected selected] at within
    exact Or.inl within

theorem offerPacket_appended {ofClass : PacketClass} {preferClear : Bool}
    {searched : List WorkerChannels}
    (placed : offerPacket shared ofClass preferClear searched packet = .ok after) :
    ∃ sender, shared.Appended after sender packet := by
  cases found : searched.find? (accepts shared ofClass preferClear) with
  | none =>
      rw [offerPacket_none packet found] at placed
      cases placed
  | some worker =>
      obtain ⟨expected, sent, appended⟩ := offerPacket_found packet found
      rw [sent] at placed
      cases placed
      exact ⟨_, appended⟩

theorem enqueueSelectedWorker_appended
    (placed : enqueueSelectedWorker shared workers ticket packet = .ok after) :
    ∃ sender, shared.Appended after sender packet := by
  by_cases listed : workers = []
  · subst listed
    cases placed
  · rw [enqueueSelectedWorker_eq shared listed] at placed
    cases found : (searchedWorkers shared workers ticket.startSlot).find?
      (accepts shared ticket.ofClass true) with
    | none =>
        rw [offerPacket_none packet found] at placed
        exact offerPacket_appended placed
    | some worker =>
        obtain ⟨expected, sent, appended⟩ := offerPacket_found packet found
        rw [sent] at placed
        cases placed
        exact ⟨_, appended⟩

/-- The spare copy leaves every other packet where it is. -/
theorem placeSpare_carries_iff {spare : Option (Mark × PacketBuf)}
    (apart : ∀ copy, spare = some copy → held ≠ copy) :
    (placeSpare shared workers ticket spare).Carries other held ↔
      shared.Carries other held := by
  cases spare with
  | none => exact Iff.rfl
  | some copy =>
      simp only [placeSpare]
      split
      · cases placed : enqueueSelectedWorker shared workers _ copy with
        | error returned => exact Iff.rfl
        | ok after =>
            obtain ⟨sender, appended⟩ := enqueueSelectedWorker_appended placed
            exact appended.carries_iff (apart copy rfl)
      · exact Iff.rfl

/-- What the queues carry after a spare copy was offered. -/
theorem placeSpare_carried {spare : Option (Mark × PacketBuf)}
    (within : (placeSpare shared workers ticket spare).Carries other held) :
    shared.Carries other held ∨ spare = some held := by
  by_cases copy : spare = some held
  · exact Or.inr copy
  · apply Or.inl
    apply (placeSpare_carries_iff _).mp within
    rintro _ rfl rfl
    exact copy rfl

end Csqtt
