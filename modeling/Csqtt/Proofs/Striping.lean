/-
Module: Csqtt.Proofs.Striping
Purpose: The slot of every ticket: over a fixed worker list the closed form of a class's
  own packet count, and in every reachable state a slot of the list in use.
Trusted boundary: none
Main exports: position, advance_position, Striped, striped_step, striped_run, striping_law
-/
import Csqtt.Proofs.DispatchRun

namespace Csqtt

/-- The cursor of a class after some packets: the slot of the next one, and how many
more packets of a begun chunk go there. -/
def position (chunk workerCount packets : Nat) : RoundRobinCursor where
  currentWorker := packets / chunk % workerCount
  remaining := if packets % chunk = 0 then 0 else chunk - packets % chunk

theorem position_zero (chunk workerCount : Nat) :
    position chunk workerCount 0 = .default := by
  simp [position, RoundRobinCursor.default]

theorem advance_mk (currentWorker remaining workerCount : Nat) (ofClass : PacketClass) :
    FastPathScheduler.advance ⟨currentWorker, remaining⟩ workerCount ofClass =
      let left := (if remaining = 0 then ofClass.streamChunk else remaining) - 1
      let next := if currentWorker + 1 = workerCount then 0 else currentWorker + 1
      (⟨if left = 0 then next else currentWorker, left⟩, ⟨currentWorker, ofClass⟩) := rfl

/-- One packet more moves a class to its next position. -/
theorem advance_position (ofClass : PacketClass) {workerCount : Nat} (some : workerCount ≠ 0)
    (packets : Nat) :
    FastPathScheduler.advance (position ofClass.streamChunk workerCount packets) workerCount
        ofClass =
      (position ofClass.streamChunk workerCount (packets + 1),
        { startSlot := packets / ofClass.streamChunk % workerCount, ofClass := ofClass }) := by
  have chunk := ofClass.streamChunk_pos
  have short := Nat.mod_lt packets chunk
  have slot := Nat.mod_lt (packets / ofClass.streamChunk) (Nat.pos_of_ne_zero some)
  have left : (if (if packets % ofClass.streamChunk = 0 then 0
      else ofClass.streamChunk - packets % ofClass.streamChunk) = 0 then ofClass.streamChunk
        else if packets % ofClass.streamChunk = 0 then 0
          else ofClass.streamChunk - packets % ofClass.streamChunk) =
      ofClass.streamChunk - packets % ofClass.streamChunk := by
    by_cases between : packets % ofClass.streamChunk = 0
    · rw [if_pos between, if_pos rfl, between, Nat.sub_zero]
    · rw [if_neg between, if_neg (by omega)]
  rw [position, position, advance_mk, left]
  apply Prod.ext
  · simp only
    by_cases last : packets % ofClass.streamChunk + 1 = ofClass.streamChunk
    · have boundary : (packets + 1) % ofClass.streamChunk = 0 := by
        rw [← Nat.mod_add_mod, last, Nat.mod_self]
      have next : (if packets / ofClass.streamChunk % workerCount + 1 = workerCount then 0
          else packets / ofClass.streamChunk % workerCount + 1) =
          (packets / ofClass.streamChunk + 1) % workerCount := by
        rw [← Nat.mod_add_mod]
        by_cases around : packets / ofClass.streamChunk % workerCount + 1 = workerCount
        · rw [if_pos around, around, Nat.mod_self]
        · rw [if_neg around]
          exact (Nat.mod_eq_of_lt (by omega)).symm
      have none : ofClass.streamChunk - packets % ofClass.streamChunk - 1 = 0 := by omega
      simp only [none, if_true, next, boundary, Nat.succ_div_of_mod_eq_zero boundary]
    · have inside : (packets + 1) % ofClass.streamChunk = packets % ofClass.streamChunk + 1 := by
        rw [← Nat.mod_add_mod]
        exact Nat.mod_eq_of_lt (by omega)
      have more : (packets + 1) % ofClass.streamChunk ≠ 0 := by omega
      have rest : ofClass.streamChunk - packets % ofClass.streamChunk - 1 ≠ 0 := by omega
      rw [if_neg rest, if_neg more, Nat.succ_div_of_mod_ne_zero more, inside, Nat.sub_sub]
  · rfl

/-- Packets of a class among the events of a run. -/
def packetsOf (ofClass : PacketClass) (events : List DispatchEvent) : Nat :=
  events.countP fun event =>
    match event with
    | .dispatch packet _ => packetClass packet.asSlice == ofClass
    | _ => false

def DispatchEvent.isDispatch : DispatchEvent → Bool
  | .dispatch _ _ => true
  | _ => false

def DispatchEvent.changesWorkers : DispatchEvent → Bool
  | .register _ => true
  | .unregister _ _ => true
  | _ => false

namespace Dispatching

/-- Over a fixed list every cursor stands where its class's packets put it. A
scheduler that has not loaded the list yet has had no packet. -/
structure Striped (state : Dispatching) (workers : List WorkerChannels)
    (packets : PacketClass → Nat) : Prop where
  registered : state.dispatcher.workers = workers
  loaded : state.dispatcher.scheduler.workerCount = workers.length ∨ ∀ ofClass, packets ofClass = 0
  cursors : ∀ ofClass, state.dispatcher.scheduler.cursors ofClass =
    position ofClass.streamChunk workers.length (packets ofClass)

variable {self : Dispatching} {workers : List WorkerChannels} {packets : PacketClass → Nat}

/-- A load leaves every cursor at its position. -/
theorem striped_reloaded (striped : self.Striped workers packets)
    (ofClass : PacketClass) :
    let loaded := self.dispatcher.scheduler.reloaded self.dispatcher.workers ofClass
    loaded.workerCount = workers.length ∧
      ∀ other, loaded.cursors other =
        position other.streamChunk workers.length (packets other) := by
  intro loaded
  have cursors := striped.cursors
  by_cases known : self.dispatcher.scheduler.workerCount = workers.length
  · have length : self.dispatcher.scheduler.workerCount = self.dispatcher.workers.length := by
      rw [striped.registered, known]
    constructor
    · by_cases done : (self.dispatcher.scheduler.cursors ofClass).remaining = 0
      · exact (FastPathScheduler.reloaded_workerCount done).trans (by rw [striped.registered])
      · exact (congrArg _ (FastPathScheduler.reloaded_of_open done)).trans known
    · intro other
      exact (FastPathScheduler.reloaded_of_as_long length other).trans (cursors other)
  · have fresh := striped.loaded.resolve_left known
    have done : (self.dispatcher.scheduler.cursors ofClass).remaining = 0 := by
      rw [cursors, fresh, position_zero]
      rfl
    constructor
    · exact (FastPathScheduler.reloaded_workerCount done).trans (by rw [striped.registered])
    · intro other
      rw [fresh, position_zero]
      apply FastPathScheduler.reloaded_of_longer done
      rw [striped.registered]
      exact known

theorem packetsOf_other {event : DispatchEvent}
    (other : ∀ packet storage, event ≠ .dispatch packet storage) (ofClass : PacketClass)
    (events : List DispatchEvent) :
    packetsOf ofClass (events ++ [event]) = packetsOf ofClass events := by
  rw [packetsOf, List.countP_append]
  cases event with
  | dispatch packet storage => exact absurd rfl (other packet storage)
  | _ => rfl

theorem packetsOf_dispatch (events : List DispatchEvent) (packet : PacketBuf)
    (storage : Option Storage) :
    (fun ofClass => packetsOf ofClass (events ++ [.dispatch packet storage])) =
      Function.update (fun ofClass => packetsOf ofClass events) (packetClass packet.asSlice)
        (packetsOf (packetClass packet.asSlice) events + 1) := by
  funext ofClass
  rw [packetsOf, List.countP_append]
  by_cases own : ofClass = packetClass packet.asSlice
  · subst own
    rw [Function.update_self]
    simp [packetsOf]
  · rw [Function.update_of_ne own]
    simp [packetsOf, Ne.symm own]

/-- Only registering and unregistering touch the list. -/
theorem step_workers (self : Dispatching) (event : DispatchEvent)
    (steady : event.changesWorkers = false) :
    (step self event).1.dispatcher.workers = self.dispatcher.workers := by
  cases event with
  | register channels => cases steady
  | unregister id incarnationId => cases steady
  | health worker value => rfl
  | receive sender => rfl
  | resume sender => rfl
  | closeReceiver sender => rfl
  | drain worker => exact (redispatchAll_scheduler _ _).1
  | redispatch packet => exact (redispatch_scheduler _ _).1
  | dispatch packet storage => exact (step_dispatch self packet storage).1

/-- A packet gets the slot of its class's position, and moves that class on. -/
theorem striped_dispatch (striped : self.Striped workers packets) (some : workers ≠ [])
    (packet : PacketBuf) (storage : Option Storage) :
    let ofClass := packetClass packet.asSlice
    (step self (.dispatch packet storage)).2 = Option.some
        { startSlot := packets ofClass / ofClass.streamChunk % workers.length
          ofClass := ofClass } ∧
      (step self (.dispatch packet storage)).1.Striped workers
        (Function.update packets ofClass (packets ofClass + 1)) := by
  obtain ⟨same, scheduler, ticket, -⟩ := step_dispatch self packet storage
  obtain ⟨count, cursors⟩ := striped_reloaded striped (packetClass packet.asSlice)
  have nonempty : workers.length ≠ 0 := by simpa using some
  have begun := FastPathScheduler.begin_some (count.trans_ne nonempty)
  simp only [cursors, count, advance_position _ nonempty] at begun
  rw [answered, begun] at scheduler ticket
  refine ⟨ticket, ?_⟩
  exact
    { registered := same.trans striped.registered
      loaded := Or.inl (by rw [scheduler])
      cursors := fun other => by
        rw [scheduler]
        by_cases own : other = packetClass packet.asSlice
        · subst own
          simp only [Function.update_self]
        · simp only [Function.update_of_ne own, cursors] }

/-- Whatever leaves the list alone and is no packet leaves the law alone. -/
theorem striped_other (striped : self.Striped workers packets) (event : DispatchEvent)
    (steady : event.changesWorkers = false)
    (other : ∀ packet storage, event ≠ .dispatch packet storage) :
    (step self event).1.Striped workers packets := by
  have scheduler := (step_scheduler self event other).1
  have same := step_workers self event steady
  exact
    { registered := same.trans striped.registered
      loaded := by
        rw [scheduler]
        exact striped.loaded
      cursors := fun ofClass => by
        rw [scheduler]
        exact striped.cursors ofClass }

theorem striped_step {consumed : List DispatchEvent} (nonempty : workers ≠ [])
    (striped : self.Striped workers fun ofClass => packetsOf ofClass consumed)
    (event : DispatchEvent) (steady : event.changesWorkers = false) :
    (step self event).1.Striped workers fun ofClass => packetsOf ofClass (consumed ++ [event]) := by
  rcases event.dispatch_or_other with ⟨packet, storage, rfl⟩ | other
  · have after := (striped_dispatch striped nonempty packet storage).2
    rwa [← packetsOf_dispatch] at after
  · simp only [packetsOf_other other]
    exact striped_other striped event steady other

/-- Over a fixed list every run keeps every class at its position. -/
theorem striped_run {consumed : List DispatchEvent} (nonempty : workers ≠ [])
    (initial : self.Striped workers fun _ => 0)
    (steady : ∀ event ∈ consumed, event.changesWorkers = false) :
    (Transducer.run step self consumed).1.Striped workers
      fun ofClass => packetsOf ofClass consumed := by
  induction consumed using List.reverseRecOn with
  | nil => exact initial
  | append_singleton consumed event inductionHypothesis =>
      rw [Transducer.run_concat]
      apply striped_step nonempty
      · apply inductionHypothesis
        intro earlier mem
        exact steady earlier (List.mem_append_left _ mem)
      · apply steady event
        simp

/-- Before the first packet the scheduler is as it was made. -/
theorem scheduler_of_quiet {events : List DispatchEvent}
    (quiet : ∀ event ∈ events, event.isDispatch = false) (state : Dispatching) :
    (Transducer.run step state events).1.dispatcher.scheduler = state.dispatcher.scheduler := by
  induction events generalizing state with
  | nil => rfl
  | cons event events inductionHypothesis =>
      have first : (step state event).1.dispatcher.scheduler = state.dispatcher.scheduler := by
        apply (step_scheduler state event _).1
        intro packet storage dispatch
        have := quiet event (List.mem_cons_self ..)
        rw [dispatch] at this
        cases this
      rw [Transducer.run_cons]
      refine Eq.trans (inductionHypothesis ?_ _) first
      intro later mem
      exact quiet later (List.mem_cons_of_mem _ mem)

theorem striped_start {channels : PacketSender → Nat × Bool} {setup : List DispatchEvent}
    (quiet : ∀ event ∈ setup, event.isDispatch = false) :
    let reached := (Transducer.run step (start channels) setup).1
    reached.Striped reached.dispatcher.workers fun _ => 0 := by
  intro reached
  have scheduler : reached.dispatcher.scheduler = .new := scheduler_of_quiet quiet _
  exact
    { registered := rfl
      loaded := Or.inr fun _ => rfl
      cursors := fun ofClass => by
        rw [scheduler, position_zero]
        rfl }

theorem sound_run (channels : PacketSender → Nat × Bool) (events : List DispatchEvent) :
    (Transducer.run step (start channels) events).1.dispatcher.scheduler.Sound := by
  apply @Transducer.run_invariant _ _ _ step (fun state => state.dispatcher.scheduler.Sound)
  · intro state event sound
    exact sound_step sound event
  · exact FastPathScheduler.sound_new

/-- Over a fixed list of workers, registered before the first packet, every packet of a
class gets the slot that its number in the class says, whatever is done in between.
Whatever becomes of the list, a slot handed out lies in the list in use. -/
theorem striping_law (channels : PacketSender → Nat × Bool) :
    (∀ setup events, (∀ event ∈ setup, event.isDispatch = false) →
      (∀ event ∈ events, event.changesWorkers = false) →
      let reached := (Transducer.run step (start channels) setup).1
      let workerCount := reached.dispatcher.workers.length
      1 ≤ workerCount → ∀ index packet storage,
        events[index]? = some (.dispatch packet storage) →
        let ofClass := packetClass packet.asSlice
        let earlier := packetsOf ofClass (events.take index)
        (Transducer.run step reached events).2[index]? = some (some
          { startSlot := earlier / ofClass.streamChunk % workerCount
            ofClass := ofClass })) ∧
    ∀ events packet storage ticket,
      let before := (Transducer.run step (start channels) events).1
      (step before (.dispatch packet storage)).2 = some ticket →
        ticket.startSlot <
          (step before (.dispatch packet storage)).1.dispatcher.scheduler.workers.length := by
  constructor
  · intro setup events quiet steady reached workerCount nonempty index packet storage here ofClass
      earlier
    have before : (Transducer.run step reached (events.take index)).1.Striped
        reached.dispatcher.workers fun ofClass => packetsOf ofClass (events.take index) := by
      apply striped_run (List.length_pos_iff.mp nonempty) (striped_start quiet)
      intro event mem
      exact steady event (List.mem_of_mem_take mem)
    have given := (striped_dispatch before (List.length_pos_iff.mp nonempty) packet storage).1
    rw [Transducer.getElem?_run, here]
    exact congrArg Option.some given
  · intro events packet storage ticket before given
    obtain ⟨-, scheduler, begun, -⟩ := step_dispatch before packet storage
    rw [begun] at given
    rw [scheduler]
    exact (FastPathScheduler.begin_ticket (sound_run channels events) given).2.2

/-- Two workers: a small packet after a bulk one still gets the first slot. -/
theorem striping_law_two_workers :
    (Transducer.run step
      (Transducer.run step (start fun _ => (4, true))
        [.register firstIncarnation, .register { secondIncarnation with id := 2 }]).1
      [.dispatch bulkPacket none, .dispatch smallPacket none]).2[1]? =
      some (some { startSlot := 0, ofClass := .small }) := by
  have given := (striping_law fun _ => (4, true)).1
    [.register firstIncarnation, .register { secondIncarnation with id := 2 }]
    [.dispatch bulkPacket none, .dispatch smallPacket none]
    (by decide) (by decide) (by decide +kernel) 1 smallPacket none rfl
  have small : packetClass smallPacket.asSlice = .small := by decide +kernel
  have earlier : packetsOf .small [.dispatch bulkPacket none] = 0 := by decide +kernel
  simp only [List.take_succ_cons, List.take_zero, small, earlier, Nat.zero_div,
    Nat.zero_mod] at given
  exact given

end Dispatching

end Csqtt
