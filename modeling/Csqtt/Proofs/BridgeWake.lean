/-
Module: Csqtt.Proofs.BridgeWake
Purpose: The reader of the uplink bridge sleeps beside a packet only after two injections at
  once: what the sum of two lengths says about the injection that reads them.
Trusted boundary: none
Main exports: asleep, Stranded, lets, Sound, reader_woken
-/
import Csqtt.Engine.BridgeRun

namespace Csqtt

variable {Mark : Type*}

/-- The call has queued a packet of a burst and will wake the reader at its end. -/
def InjectWork.committed : InjectWork Mark → Bool
  | .single => false
  | .burst _ queued _ => decide (0 < queued)

def InjectNext.committed : InjectNext Mark → Bool
  | .failed work _ => work.committed
  | .pushAgain work _ _ => work.committed

namespace InjectPoint

/-- The call will wake the reader, whatever happens. -/
def committed : InjectPoint Mark → Bool
  | .pop work _ _ => work.committed
  | .count work _ _ => work.committed
  | .reserve work _ _ _ => work.committed
  | .pushLatency work _ _ => work.committed
  | .evict work _ _ => work.committed
  | .pushAgain work _ _ => work.committed
  | .pushQueue work _ _ => work.committed
  | .release _ next => next.committed
  | .discount next => next.committed
  | .notify => true
  | _ => false

/-- The call has pushed its packet, and has yet to read the first length. -/
def measures : InjectPoint Mark → Bool
  | .latencyLength => true
  | _ => false

/-- The call has pushed its packet and read the first length. -/
def measured : InjectPoint Mark → Option Nat
  | .queueLength latency => some latency
  | _ => none

/-- The call is about to push into the latency queue. -/
def pushesLatency : InjectPoint Mark → Option (InjectWork Mark)
  | .pushLatency work _ _ => some work
  | .pushAgain work _ _ => some work
  | _ => none

end InjectPoint

theorem committed_nextPacket (rest : List (Mark × List U8)) {queued : Nat} (some : 0 < queued)
    (failed : Nat) : (nextPacket rest queued failed).committed = true := by
  induction rest with
  | nil =>
      rw [nextPacket, if_pos some]
      rfl
  | cons packet rest inductionHypothesis =>
      rw [nextPacket]
      split
      · exact inductionHypothesis
      · exact decide_eq_true some

namespace InjectWork

theorem committed_failed {work : InjectWork Mark} (code : Int) (committed : work.committed = true) :
    (work.failed code).committed = true := by
  cases work with
  | single => cases committed
  | burst rest queued failed => exact committed_nextPacket rest (of_decide_eq_true committed) _

theorem committed_acquired {work : InjectWork Mark} (mark : Mark) (data : List U8)
    (storage : Storage) (committed : work.committed = true) :
    (work.acquired mark data storage).committed = true := by
  rw [acquired]
  split
  · exact committed
  · split
    · exact committed
    · split
      · exact committed
      · exact committed

end InjectWork

theorem InjectNext.committed_point {next : InjectNext Mark} (committed : next.committed = true) :
    next.point.committed = true := by
  cases next with
  | failed work code => exact InjectWork.committed_failed code committed
  | pushAgain work mark packet => exact committed

namespace SharedBridge

theorem committed_counted (self : SharedBridge Mark) {work : InjectWork Mark} (mark : Mark)
    (data : List U8) (committed : work.committed = true) :
    (self.counted work mark data).committed = true := by
  rw [counted]
  split
  · exact committed
  · exact InjectWork.committed_failed _ committed

/-- The number of packets on the bridge. -/
def total (self : SharedBridge Mark) : Nat :=
  self.bridge.latency.items.length + self.bridge.queue.items.length

/-- What an operation that neither reads a length nor notifies does to the bridge: nothing
but to go on, a push, or the eviction of the oldest packet. -/
inductive Injected (shared : SharedBridge Mark) :
    InjectPoint Mark → SharedBridge Mark → InjectPoint Mark → Prop
  | aside {point next : InjectPoint Mark} {after : SharedBridge Mark}
      (bridge : after.bridge = shared.bridge) (notify : after.notify = shared.notify)
      (kept : point.committed = true → next.committed = true) :
      Injected shared point after next
  | evicted {work : InjectWork Mark} {mark : Mark} {packet : PacketBuf} {next : InjectPoint Mark}
      {after : SharedBridge Mark} (queue : after.bridge.queue = shared.bridge.queue)
      (latency : after.bridge.latency.items.length + 1 = shared.bridge.latency.items.length)
      (notify : after.notify = shared.notify)
      (kept : work.committed = true → next.committed = true) :
      Injected shared (.evict work mark packet) after next
  | latency {point : InjectPoint Mark} {work : InjectWork Mark} {after : SharedBridge Mark}
      (pushes : point.pushesLatency = some work)
      (queue : after.bridge.queue = shared.bridge.queue)
      (latency : after.bridge.latency.items.length = shared.bridge.latency.items.length + 1)
      (notify : after.notify = shared.notify) :
      Injected shared point after work.queued
  | queue {work : InjectWork Mark} {mark : Mark} {packet : PacketBuf}
      {after : SharedBridge Mark} (latency : after.bridge.latency = shared.bridge.latency)
      (queue : after.bridge.queue.items.length = shared.bridge.queue.items.length + 1)
      (notify : after.notify = shared.notify) :
      Injected shared (.pushQueue work mark packet) after work.queued

theorem perform_injected (shared : SharedBridge Mark) (fresh : Storage) {point : InjectPoint Mark}
    (unmeasuring : point.measures = false) (unmeasured : point.measured = none)
    (silent : point ≠ .notify) :
    Injected shared point (shared.perform fresh point).1 (shared.perform fresh point).2 := by
  have pushed {queue longer : ArrayQueue (Mark × PacketBuf) uplinkLatencyCapacity}
      {packet : Mark × PacketBuf} (accepted : queue.push packet = some longer) :
      longer.items.length = queue.items.length + 1 :=
    (congrArg List.length (ArrayQueue.push_spec accepted)).trans List.length_append
  cases point with
  | latencyLength => cases unmeasuring
  | queueLength latency => cases unmeasured
  | notify => exact absurd rfl silent
  | returned code => exact .aside rfl rfl id
  | slot call => exact .aside rfl rfl fun committed => by cases committed
  | cancelled call => exact .aside rfl rfl fun committed => by cases committed
  | pop work mark data =>
      rw [perform]
      split
      · exact .aside rfl rfl (InjectWork.committed_acquired _ _ _)
      · exact .aside rfl rfl id
  | count work mark data => exact .aside rfl rfl (shared.committed_counted _ _)
  | reserve work mark data previous =>
      rw [perform]
      split
      · exact .aside rfl rfl (InjectWork.committed_acquired _ _ _)
      · exact .aside rfl rfl (shared.committed_counted _ _)
  | pushLatency work mark packet =>
      rw [perform]
      split
      · next accepted => exact .latency rfl rfl (pushed accepted) rfl
      · exact .aside rfl rfl id
  | evict work mark packet =>
      rw [perform]
      split
      · next popped =>
          exact .evicted rfl (congrArg List.length (ArrayQueue.pop_spec popped)).symm rfl id
      · exact .aside rfl rfl id
  | pushAgain work mark packet =>
      rw [perform]
      split
      · next accepted => exact .latency rfl rfl (pushed accepted) rfl
      · exact .aside rfl rfl id
  | pushQueue work mark packet =>
      rw [perform]
      split
      · next accepted =>
          exact .queue rfl
            ((congrArg List.length (ArrayQueue.push_spec accepted)).trans List.length_append) rfl
      · exact .aside rfl rfl id
  | release storage next =>
      rw [perform]
      split
      · exact .aside rfl rfl InjectNext.committed_point
      · exact .aside rfl rfl id
  | discount next => exact .aside rfl rfl InjectNext.committed_point

end SharedBridge

namespace ReaderPoint

def waits : ReaderPoint Mark → Bool
  | .waiting => true
  | _ => false

/-- The reader has yet to look into the second queue. -/
def looks : ReaderPoint Mark → Bool
  | .popQueue => true
  | _ => false

end ReaderPoint

namespace BridgeRun

/-- The reader has found both queues empty for the last time before it waits, or waits,
and no wake-up is stored for it. A reader that has found the latency queue empty will
find a packet in the other. -/
def asleep (self : BridgeRun Mark) : Bool :=
  match self.reader with
  | .popQueue => self.shared.bridge.queue.items.isEmpty && !self.shared.notify.permit
  | .notified => !self.shared.notify.permit
  | .claim seen => !self.shared.notify.ready seen
  | .enlist seen => !self.shared.notify.ready seen
  | .waiting => !self.shared.notify.wakes
  | _ => false

/-- There is a packet on the bridge, no injection is between its push and its decision to
notify, and the reader is parked with no wake-up stored. -/
def Stranded (self : BridgeRun Mark) : Prop :=
  0 < self.shared.total ∧
    (∀ task ∈ self.tasks, task.point.committed = false ∧ task.point.measures = false ∧
      task.point.measured = none) ∧
    self.reader.waits = true ∧ self.shared.notify.wakes = false

instance (self : BridgeRun Mark) : Decidable self.Stranded :=
  inferInstanceAs (Decidable (0 < self.shared.total ∧
    (∀ task ∈ self.tasks, task.point.committed = false ∧ task.point.measures = false ∧
      task.point.measured = none) ∧
    self.reader.waits = true ∧ self.shared.notify.wakes = false))

/-- A call that will read the sum one, unless the length that it has yet to read changes. -/
def seesOne (self : BridgeRun Mark) (point : InjectPoint Mark) : Bool :=
  point.measured.any fun latency =>
    decide (latency + self.shared.bridge.queue.items.length = 1)

/-- The reader is asleep beside a packet, and only the lengths that are still to be read
may lead to its being woken. -/
def endangered (self : BridgeRun Mark) : Bool :=
  self.asleep && decide (0 < self.shared.total) && self.tasks.all (!·.point.committed)

/-- A step after which the reader will still be woken. A single packet is not pushed while
the reader is asleep beside another packet, no call is bound to wake it, and a call that
has pushed its packet has yet to read the length of the queue pushed to; unless that is
the queue that the reader has yet to look into. -/
def lets (self : BridgeRun Mark) : BridgeEvent Mark → Bool
  | .run index _ =>
      match self.tasks[index]? with
      | none => true
      | some current =>
          match current.point with
          | .pushQueue .single _ _ =>
              !(self.endangered && !self.reader.looks && self.tasks.any fun task =>
                task.point.measures || task.point.measured.isSome)
          | point =>
              match point.pushesLatency with
              | some .single =>
                  !(self.endangered && self.tasks.all (!self.seesOne ·.point) &&
                    self.tasks.any (·.point.measures))
              | _ => true
  | _ => true

/-- Somebody will wake the reader, if there is a packet for it. -/
inductive Covered (self : BridgeRun Mark) : Prop
  | empty (none : self.shared.total = 0)
  | bound (some : ∃ task ∈ self.tasks, task.point.committed = true)
  | first (one : self.shared.total = 1) (some : ∃ task ∈ self.tasks, task.point.measures = true)
  | second (some : ∃ task ∈ self.tasks, self.seesOne task.point = true)

/-- What holds throughout. -/
structure Sound (now : BridgeRun Mark) : Prop where
  listed : now.shared.notify.waiter = .waiting → now.reader.waits = true
  covered : now.asleep = true → now.Covered

section Injections

variable {now : BridgeRun Mark} {fresh : Storage} {index : Nat} {current : InjectTask Mark}

theorem exists_ran {property : InjectPoint Mark → Bool} (here : now.tasks[index]? = some current)
    (moved : property current.point = true →
      property (now.shared.perform fresh current.point).2 = true)
    (some : ∃ task ∈ now.tasks, property task.point = true) :
    ∃ task ∈ (now.ran fresh index current).tasks, property task.point = true := by
  apply Interleaving.exists_advance here some
  exact fun on => Or.inl (moved on)

theorem exists_moved {property : InjectPoint Mark → Bool}
    (here : now.tasks[index]? = some current)
    (on : property (now.shared.perform fresh current.point).2 = true) :
    ∃ task ∈ (now.ran fresh index current).tasks, property task.point = true :=
  ⟨_, List.mem_of_getElem? (Interleaving.getElem?_advance_self here _ _), on⟩

/-- If the reader's wake-ups are untouched, it is enough to see that it stays covered. -/
theorem Sound.of_notify_eq (sound : now.Sound)
    (same : (now.shared.perform fresh current.point).1.notify = now.shared.notify)
    (covered : (now.ran fresh index current).asleep = true →
      (now.ran fresh index current).Covered) : (now.ran fresh index current).Sound := by
  refine ⟨?_, covered⟩
  rw [BridgeRun.ran, same]
  exact sound.listed

/-- The reader sleeps as before, if the second queue has not become empty. -/
theorem asleep_of_ran
    (same : (now.shared.perform fresh current.point).1.notify = now.shared.notify)
    (queue : (now.shared.perform fresh current.point).1.bridge.queue.items = [] →
      now.shared.bridge.queue.items = [])
    (asleep : (now.ran fresh index current).asleep = true) : now.asleep = true := by
  rw [BridgeRun.asleep] at asleep ⊢
  simp only [BridgeRun.ran, same] at asleep
  cases reader : now.reader with
  | popQueue =>
      simp only [reader, Bool.and_eq_true, List.isEmpty_iff] at asleep ⊢
      exact ⟨queue asleep.1, asleep.2⟩
  | _ =>
      simp only [reader] at asleep ⊢
      exact asleep

theorem Sound.run_latencyLength (sound : now.Sound) (here : now.tasks[index]? = some current)
    (point : current.point = .latencyLength) : (now.ran fresh index current).Sound := by
  have after : now.shared.perform fresh current.point =
      (now.shared, .queueLength now.shared.bridge.latency.items.length) := by
    rw [point]
    rfl
  have same : (now.ran fresh index current).shared = now.shared := by rw [BridgeRun.ran, after]
  apply sound.of_notify_eq (by rw [after])
  intro asleep
  cases sound.covered (asleep_of_ran (by rw [after]) (by rw [after]; exact id) asleep) with
  | empty none => exact .empty (by rw [same]; exact none)
  | bound some => exact .bound (exists_ran here (by rw [point]; exact fun on => by cases on) some)
  | first one some =>
      refine .second (exists_moved here ?_)
      rw [after, seesOne, same]
      exact decide_eq_true one
  | second some =>
      refine .second ?_
      simp only [seesOne, same]
      exact exists_ran here (by rw [point]; exact fun on => by cases on) some

theorem Sound.run_queueLength (sound : now.Sound) (here : now.tasks[index]? = some current)
    {latency : Nat} (point : current.point = .queueLength latency) :
    (now.ran fresh index current).Sound := by
  have unchanged : (now.shared.perform fresh current.point).1 = now.shared := by
    rw [point]
    rfl
  have same : (now.ran fresh index current).shared = now.shared := unchanged
  apply sound.of_notify_eq (by rw [unchanged])
  intro asleep
  by_cases one : latency + now.shared.bridge.queue.items.length = 1
  · refine .bound (exists_moved here ?_)
    rw [point, SharedBridge.perform, if_pos one]
    rfl
  · have before := asleep_of_ran (by rw [unchanged]) (by rw [unchanged]; exact id) asleep
    cases sound.covered before with
    | empty none => exact .empty (by rw [same]; exact none)
    | bound some => exact .bound (exists_ran here (by rw [point]; exact fun on => by cases on) some)
    | first total some =>
        refine .first (by rw [same]; exact total) ?_
        exact exists_ran here (by rw [point]; exact fun on => by cases on) some
    | second some =>
        refine .second ?_
        simp only [seesOne, same]
        refine exists_ran here ?_ some
        rw [point]
        exact fun on => absurd (of_decide_eq_true on) one

/-- A wake-up reaches the reader, wherever it is. -/
theorem Sound.run_notify (sound : now.Sound) (point : current.point = .notify) :
    (now.ran fresh index current).Sound := by
  have woken : (now.shared.perform fresh current.point).1.notify =
      now.shared.notify.notifyOne := by
    rw [point]
    rfl
  constructor
  · intro listed
    rw [BridgeRun.ran, woken] at listed
    exact absurd listed now.shared.notify.waiter_notifyOne
  · intro asleep
    exfalso
    rw [BridgeRun.asleep] at asleep
    simp only [BridgeRun.ran, woken] at asleep
    cases reader : now.reader with
    | waiting => simp [reader, Notify.wakes_notifyOne] at asleep
    | _ =>
        have nobody : now.shared.notify.waiter ≠ .waiting := fun listed => by
          have waits := sound.listed listed
          rw [reader] at waits
          cases waits
        have permit := Notify.permit_notifyOne nobody
        simp [reader, permit, Notify.ready] at asleep

/-- Who was to wake the reader still is, if no packet was added. -/
theorem Covered.of_fewer (covered : now.Covered) (here : now.tasks[index]? = some current)
    (queue : (now.shared.perform fresh current.point).1.bridge.queue = now.shared.bridge.queue)
    (fewer : (now.shared.perform fresh current.point).1.bridge.latency.items.length ≤
      now.shared.bridge.latency.items.length)
    (kept : current.point.committed = true →
      (now.shared.perform fresh current.point).2.committed = true)
    (unmeasuring : current.point.measures = false) (unmeasured : current.point.measured = none) :
    (now.ran fresh index current).Covered := by
  have total : (now.ran fresh index current).shared.total ≤ now.shared.total := by
    simp only [SharedBridge.total, BridgeRun.ran, queue]
    exact Nat.add_le_add_right fewer _
  cases covered with
  | empty none => exact .empty (Nat.le_zero.mp (none ▸ total))
  | bound some => exact .bound (exists_ran here kept some)
  | first one some =>
      rcases Nat.le_one_iff_eq_zero_or_eq_one.mp (one ▸ total) with none | same
      · exact .empty none
      · refine .first same (exists_ran here ?_ some)
        rw [unmeasuring]
        exact fun on => by cases on
  | second some =>
      refine .second ?_
      have same (point : InjectPoint Mark) :
          (now.ran fresh index current).seesOne point = now.seesOne point := by
        simp only [seesOne, BridgeRun.ran, queue]
      simp only [same]
      refine exists_ran here ?_ some
      rw [seesOne, unmeasured]
      exact fun on => by cases on

/-- A push by a burst binds it to wake the reader. -/
theorem queued_committed {work : InjectWork Mark} (burst : work ≠ .single) :
    work.queued.committed = true := by
  cases work with
  | single => exact absurd rfl burst
  | burst rest queued failed => exact committed_nextPacket rest (Nat.succ_pos _) _

/-- The first of the endangered reader's excuses that still holds. -/
theorem not_endangered (asleep : now.asleep = true) (safe : now.endangered = false) :
    now.shared.total = 0 ∨ ∃ task ∈ now.tasks, task.point.committed = true := by
  simp only [endangered, asleep, Bool.true_and, Bool.and_eq_false_iff, decide_eq_false_iff_not,
    List.all_eq_false] at safe
  rcases safe with none | ⟨task, mem, committed⟩
  · exact Or.inl (Nat.eq_zero_of_not_pos none)
  · exact Or.inr ⟨task, mem, by simpa using committed⟩

theorem lets_latency (here : now.tasks[index]? = some current)
    (pushes : current.point.pushesLatency = some .single)
    (lets : now.lets (.run index fresh) = true) :
    now.endangered = false ∨ (∃ task ∈ now.tasks, now.seesOne task.point = true) ∨
      now.tasks.any (·.point.measures) = false := by
  have condition : (!(now.endangered && now.tasks.all (!now.seesOne ·.point) &&
      now.tasks.any (·.point.measures))) = true := by
    cases point : current.point with
    | pushLatency work mark packet =>
        rw [point] at pushes
        cases pushes
        simp only [BridgeRun.lets, here, point, InjectPoint.pushesLatency] at lets
        exact lets
    | pushAgain work mark packet =>
        rw [point] at pushes
        cases pushes
        simp only [BridgeRun.lets, here, point, InjectPoint.pushesLatency] at lets
        exact lets
    | _ =>
        rw [point] at pushes
        cases pushes
  simp only [Bool.not_eq_true', Bool.and_eq_false_iff, List.all_eq_false] at condition
  rcases condition with (safe | ⟨task, mem, on⟩) | none
  · exact Or.inl safe
  · exact Or.inr (Or.inl ⟨task, mem, by simpa using on⟩)
  · exact Or.inr (Or.inr none)

theorem lets_queue (here : now.tasks[index]? = some current) {mark : Mark} {packet : PacketBuf}
    (point : current.point = .pushQueue .single mark packet)
    (lets : now.lets (.run index fresh) = true) :
    now.endangered = false ∨ now.reader.looks = true ∨
      (now.tasks.any fun task => task.point.measures || task.point.measured.isSome) = false := by
  simp only [BridgeRun.lets, here, point, Bool.not_eq_true', Bool.and_eq_false_iff,
    Bool.not_eq_false'] at lets
  rcases lets with (safe | looking) | none
  · exact Or.inl safe
  · exact Or.inr (Or.inl looking)
  · exact Or.inr (Or.inr none)

theorem Sound.run_latency (sound : now.Sound) (here : now.tasks[index]? = some current)
    (lets : now.lets (.run index fresh) = true) {work : InjectWork Mark}
    (pushes : current.point.pushesLatency = some work)
    (queue : (now.shared.perform fresh current.point).1.bridge.queue = now.shared.bridge.queue)
    (latency : (now.shared.perform fresh current.point).1.bridge.latency.items.length =
      now.shared.bridge.latency.items.length + 1)
    (notify : (now.shared.perform fresh current.point).1.notify = now.shared.notify)
    (next : (now.shared.perform fresh current.point).2 = work.queued) :
    (now.ran fresh index current).Sound := by
  apply sound.of_notify_eq notify
  intro asleep
  have before := asleep_of_ran notify (by rw [queue]; exact id) asleep
  cases work with
  | burst rest queued failed =>
      refine .bound (exists_moved here ?_)
      rw [next]
      exact queued_committed fun same => by cases same
  | single =>
      have total : (now.ran fresh index current).shared.total = now.shared.total + 1 := by
        simp only [SharedBridge.total, BridgeRun.ran, queue, latency]
        exact Nat.add_right_comm _ 1 _
      have same (point : InjectPoint Mark) :
          (now.ran fresh index current).seesOne point = now.seesOne point := by
        simp only [seesOne, BridgeRun.ran, queue]
      have alone : current.point.measured = none ∧ current.point.committed = false := by
        cases point : current.point with
        | pushLatency work mark packet =>
            rw [point] at pushes
            cases pushes
            exact ⟨rfl, rfl⟩
        | pushAgain work mark packet =>
            rw [point] at pushes
            cases pushes
            exact ⟨rfl, rfl⟩
        | _ =>
            rw [point] at pushes
            cases pushes
      have second (some : ∃ task ∈ now.tasks, now.seesOne task.point = true) :
          (now.ran fresh index current).Covered := by
        refine .second ?_
        simp only [same]
        refine exists_ran here ?_ some
        rw [seesOne, alone.1]
        exact fun on => by cases on
      have bound (some : ∃ task ∈ now.tasks, task.point.committed = true) :
          (now.ran fresh index current).Covered := by
        refine .bound (exists_ran here ?_ some)
        rw [alone.2]
        exact fun on => by cases on
      cases sound.covered before with
      | empty none =>
          refine .first (by rw [total, none]) (exists_moved here ?_)
          rw [next]
          rfl
      | bound some => exact bound some
      | second some => exact second some
      | first one some =>
          rcases lets_latency here pushes lets with safe | seen | none
          · rcases not_endangered before safe with zero | some
            · rw [zero] at one
              cases one
            · exact bound some
          · exact second seen
          · obtain ⟨task, mem, measures⟩ := some
            have unmeasuring := List.any_eq_false.mp none task mem
            exact absurd measures unmeasuring

theorem Sound.run_queue (sound : now.Sound) (here : now.tasks[index]? = some current)
    (lets : now.lets (.run index fresh) = true) {work : InjectWork Mark} {mark : Mark}
    {packet : PacketBuf} (point : current.point = .pushQueue work mark packet)
    (latency : (now.shared.perform fresh current.point).1.bridge.latency =
      now.shared.bridge.latency)
    (queue : (now.shared.perform fresh current.point).1.bridge.queue.items.length =
      now.shared.bridge.queue.items.length + 1)
    (notify : (now.shared.perform fresh current.point).1.notify = now.shared.notify)
    (next : (now.shared.perform fresh current.point).2 = work.queued) :
    (now.ran fresh index current).Sound := by
  apply sound.of_notify_eq notify
  intro asleep
  have some : (now.shared.perform fresh current.point).1.bridge.queue.items ≠ [] := by
    intro none
    rw [none] at queue
    cases queue
  have before := asleep_of_ran notify (fun none => absurd none some) asleep
  cases work with
  | burst rest queued failed =>
      refine .bound (exists_moved here ?_)
      rw [next]
      exact queued_committed fun same => by cases same
  | single =>
      have total : (now.ran fresh index current).shared.total = now.shared.total + 1 := by
        simp only [SharedBridge.total, BridgeRun.ran, queue, latency]
        rfl
      have bound (some : ∃ task ∈ now.tasks, task.point.committed = true) :
          (now.ran fresh index current).Covered := by
        refine .bound (exists_ran here ?_ some)
        rw [point]
        exact fun on => by cases on
      have others (busy : ∃ task ∈ now.tasks,
          (task.point.measures || task.point.measured.isSome) = true) :
          (now.ran fresh index current).Covered := by
        rcases lets_queue here point lets with safe | looking | none
        · rcases not_endangered before safe with zero | some
          · refine .first (by rw [total, zero]) (exists_moved here ?_)
            rw [next]
            rfl
          · exact bound some
        · -- The reader would find the packet, and is not asleep.
          rw [BridgeRun.asleep] at asleep
          cases reader : now.reader with
          | popQueue => simp [BridgeRun.ran, reader, some] at asleep
          | _ =>
              rw [reader] at looking
              cases looking
        · obtain ⟨task, mem, on⟩ := busy
          exact absurd on (List.any_eq_false.mp none task mem)
      cases sound.covered before with
      | empty none =>
          refine .first (by rw [total, none]) (exists_moved here ?_)
          rw [next]
          rfl
      | bound some => exact bound some
      | first one some =>
          obtain ⟨task, mem, on⟩ := some
          exact others ⟨task, mem, by rw [on, Bool.true_or]⟩
      | second some =>
          obtain ⟨task, mem, on⟩ := some
          refine others ⟨task, mem, ?_⟩
          cases measured : task.point.measured with
          | none =>
              rw [seesOne, measured] at on
              cases on
          | some latency => exact Bool.or_true _

theorem Sound.run_injected (sound : now.Sound) (here : now.tasks[index]? = some current)
    (lets : now.lets (.run index fresh) = true) (unmeasuring : current.point.measures = false)
    (unmeasured : current.point.measured = none)
    (injected : now.shared.Injected current.point (now.shared.perform fresh current.point).1
      (now.shared.perform fresh current.point).2) : (now.ran fresh index current).Sound := by
  generalize moved : (now.shared.perform fresh current.point).1 = after at injected
  generalize went : (now.shared.perform fresh current.point).2 = next at injected
  generalize left : current.point = point at injected
  cases injected with
  | aside bridge notify kept =>
      rw [← moved] at bridge notify
      rw [← left, ← went] at kept
      apply sound.of_notify_eq notify
      intro asleep
      have before := asleep_of_ran notify (by rw [bridge]; exact id) asleep
      apply (sound.covered before).of_fewer here
      · rw [bridge]
      · rw [bridge]
      · exact kept
      · exact unmeasuring
      · exact unmeasured
  | evicted queue latency notify kept =>
      rw [← moved] at queue latency notify
      apply sound.of_notify_eq notify
      intro asleep
      have before := asleep_of_ran notify (by rw [queue]; exact id) asleep
      apply (sound.covered before).of_fewer here queue
      · rw [← latency]
        exact Nat.le_succ _
      · rw [went, left]
        exact kept
      · exact unmeasuring
      · exact unmeasured
  | latency pushes queue latency notify =>
      rw [← moved] at queue latency notify
      rw [← left] at pushes
      exact sound.run_latency here lets pushes queue latency notify went
  | queue latency queue notify =>
      rw [← moved] at queue latency notify
      exact sound.run_queue here lets left latency queue notify went

theorem Sound.run (sound : now.Sound) (here : now.tasks[index]? = some current)
    (lets : now.lets (.run index fresh) = true) : (now.ran fresh index current).Sound := by
  cases measuring : current.point.measures with
  | true =>
      cases point : current.point with
      | latencyLength => exact sound.run_latencyLength here point
      | _ =>
          rw [point] at measuring
          cases measuring
  | false =>
      cases measured : current.point.measured with
      | some latency =>
          cases point : current.point with
          | queueLength other => exact sound.run_queueLength here point
          | _ =>
              rw [point] at measured
              cases measured
      | none =>
          by_cases point : current.point = .notify
          · exact sound.run_notify point
          · exact sound.run_injected here lets measuring measured
              (now.shared.perform_injected fresh measuring measured point)

end Injections

section Reader

variable {now : BridgeRun Mark}

/-- Who was to wake the reader still is, if no call and no packet went. -/
theorem Covered.of_kept {after : BridgeRun Mark} (covered : now.Covered)
    (tasks : ∀ task ∈ now.tasks, task ∈ after.tasks)
    (latency : after.shared.bridge.latency = now.shared.bridge.latency)
    (queue : after.shared.bridge.queue = now.shared.bridge.queue) : after.Covered := by
  have total : after.shared.total = now.shared.total := by
    rw [SharedBridge.total, SharedBridge.total, latency, queue]
  have kept {property : InjectPoint Mark → Bool}
      (some : ∃ task ∈ now.tasks, property task.point = true) :
      ∃ task ∈ after.tasks, property task.point = true := by
    obtain ⟨task, mem, on⟩ := some
    exact ⟨task, tasks task mem, on⟩
  cases covered with
  | empty none => exact .empty (total.trans none)
  | bound some => exact .bound (kept some)
  | first one some => exact .first (total.trans one) (kept some)
  | second some =>
      refine .second ?_
      simp only [seesOne, queue]
      exact kept some

theorem Sound.not_listed (sound : now.Sound) (off : now.reader.waits = false) :
    now.shared.notify.waiter ≠ .waiting := by
  intro listed
  rw [sound.listed listed] at off
  cases off

/-- A reader that is not asleep needs nobody. -/
theorem sound_of_awake (listed : now.shared.notify.waiter ≠ .waiting)
    (awake : now.asleep = false) : now.Sound := by
  refine ⟨fun waiting => absurd waiting listed, ?_⟩
  intro asleep
  rw [awake] at asleep
  cases asleep

/-- A reader that goes on to sleep as it did is covered as it was. -/
theorem Sound.of_asleep (sound : now.Sound) {after : BridgeRun Mark}
    (shared : after.shared = now.shared) (tasks : after.tasks = now.tasks)
    (off : now.reader.waits = false) (asleep : after.asleep = true → now.asleep = true) :
    after.Sound := by
  refine ⟨fun listed => absurd (shared ▸ listed) (sound.not_listed off), fun slept => ?_⟩
  apply (sound.covered (asleep slept)).of_kept
  · intro task mem
    rw [tasks]
    exact mem
  · rw [shared]
  · rw [shared]

/-- What the reader does keeps it sound. -/
theorem Sound.read (sound : now.Sound) : (now.step .read).1.Sound := by
  obtain ⟨shared, tasks, reader⟩ := now
  rw [step]
  cases reader with
  | stopped => exact sound
  | reading packet => exact sound_of_awake (sound.not_listed rfl) rfl
  | popLatency =>
      rw [SharedBridge.read]
      cases popped : shared.bridge.latency.pop with
      | some pair => exact sound_of_awake (sound.not_listed rfl) rfl
      | none =>
          refine ⟨fun listed => absurd listed (sound.not_listed rfl), fun asleep => .empty ?_⟩
          have none : shared.bridge.queue.items.isEmpty = true :=
            (Bool.and_eq_true_iff.mp asleep).1
          simp [SharedBridge.total, ArrayQueue.pop_eq_none.mp popped, List.isEmpty_iff.mp none]
  | popQueue =>
      rw [SharedBridge.read]
      cases popped : shared.bridge.queue.pop with
      | some pair => exact sound_of_awake (sound.not_listed rfl) rfl
      | none =>
          refine sound.of_asleep rfl rfl rfl fun asleep => ?_
          rw [BridgeRun.asleep, ArrayQueue.pop_eq_none.mp popped]
          exact asleep
  | notified =>
      refine sound.of_asleep rfl rfl rfl fun asleep => ?_
      have unready : (!shared.notify.ready shared.notify.calls) = true := asleep
      simpa [BridgeRun.asleep, Notify.ready] using unready
  | claim seen =>
      rw [SharedBridge.read]
      cases claimed : shared.notify.claim with
      | some notify =>
          refine sound_of_awake ?_ rfl
          exact fun listed => sound.not_listed rfl ((Notify.waiter_claim claimed).symm.trans listed)
      | none => exact sound.of_asleep rfl rfl rfl id
  | enlist seen =>
      rw [SharedBridge.read]
      cases woken : (shared.notify.enlist seen).2 with
      | true =>
          refine sound_of_awake ?_ rfl
          exact fun listed => sound.not_listed rfl ((Notify.waiter_enlist woken).symm.trans listed)
      | false =>
          have unready := (Notify.not_ready_of_enlist woken).1
          refine ⟨fun _ => rfl, fun _ => ?_⟩
          apply (sound.covered (congrArg Bool.not unready)).of_kept
          · exact fun task mem => mem
          · rfl
          · rfl
  | waiting =>
      rw [SharedBridge.read]
      cases polled : shared.notify.poll with
      | some notify =>
          refine sound_of_awake ?_ rfl
          exact fun listed => by cases (Notify.waiter_of_poll polled).symm.trans listed
      | none => exact sound

/-- A reader that stops is not asleep. -/
theorem Sound.stop (sound : now.Sound) : (now.step .stop).1.Sound := by
  obtain ⟨shared, tasks, reader⟩ := now
  rw [step]
  split
  · cases reader with
    | claim seen => exact sound_of_awake (sound.not_listed rfl) rfl
    | enlist seen => exact sound_of_awake (sound.not_listed rfl) rfl
    | waiting =>
        refine sound_of_awake ?_ rfl
        exact fun listed => by cases (Notify.waiter_leave _).symm.trans listed
    | _ => exact sound
  · exact sound

end Reader

theorem Sound.step {now : BridgeRun Mark} (sound : now.Sound) (event : BridgeEvent Mark)
    (lets : now.lets event = true) : (now.step event).1.Sound := by
  cases event with
  | begin call =>
      refine ⟨sound.listed, fun asleep => ?_⟩
      apply (sound.covered asleep).of_kept
      · exact fun task mem => List.mem_append_left _ mem
      · rfl
      · rfl
  | run index fresh =>
      rw [BridgeRun.step]
      split
      · exact sound
      · next current here => exact sound.run here lets
  | read => exact sound.read
  | stop => exact sound.stop
  | cancel =>
      refine ⟨sound.listed, fun asleep => (sound.covered asleep).of_kept ?_ rfl rfl⟩
      exact fun task mem => mem
  | install installed =>
      refine ⟨sound.listed, fun asleep => (sound.covered asleep).of_kept ?_ rfl rfl⟩
      exact fun task mem => mem
  | others pool =>
      refine ⟨sound.listed, fun asleep => (sound.covered asleep).of_kept ?_ rfl rfl⟩
      exact fun task mem => mem

theorem Sound.not_stranded {now : BridgeRun Mark} (sound : now.Sound) : ¬ now.Stranded := by
  rintro ⟨some, quiet, waits, unwoken⟩
  have asleep : now.asleep = true := by
    rw [BridgeRun.asleep]
    cases reader : now.reader with
    | waiting => exact congrArg Bool.not unwoken
    | _ =>
        rw [reader] at waits
        cases waits
  cases sound.covered asleep with
  | empty none => exact Nat.ne_of_gt some none
  | bound bound =>
      obtain ⟨task, mem, committed⟩ := bound
      rw [(quiet task mem).1] at committed
      cases committed
  | first one first =>
      obtain ⟨task, mem, measures⟩ := first
      rw [(quiet task mem).2.1] at measures
      cases measures
  | second second =>
      obtain ⟨task, mem, sees⟩ := second
      rw [seesOne, (quiet task mem).2.2] at sees
      cases sees

/-- In every run whose steps all let the reader be woken, it is never stranded. -/
theorem reader_woken (buffers : Nat) (events : List (BridgeEvent Mark))
    (lets : Transducer.AtEveryStep step (start buffers) events
      fun now event => now.lets event = true) :
    Transducer.Throughout step (start buffers) events fun now => ¬ now.Stranded := by
  intro consumed within
  have initial : (start buffers : BridgeRun Mark).Sound := sound_of_awake Waiter.noConfusion rfl
  have sound : (Transducer.run step (start buffers) consumed).1.Sound :=
    Transducer.invariant_of_atEveryStep step (fun now event sound lets => sound.step event lets)
      initial (lets.of_prefix within)
  exact sound.not_stranded

/-- The packet is queued and the reader takes it. -/
theorem reader_woken_once :
    Transducer.Throughout step (start 4)
      [.read, .read, .read, .read, .read, .begin (.packet () [0]), .run 0 .zero, .run 0 .zero,
        .run 0 .zero, .run 0 .zero, .run 0 .zero, .run 0 .zero, .run 0 .zero, .run 0 .zero,
        .run 0 .zero, .read, .read] fun now => ¬ now.Stranded :=
  reader_woken 4 _ (by decide +kernel)

/-- The reader waits, two packets are pushed, and then both calls read the length two. -/
theorem reader_stranded :
    ¬ Transducer.Throughout step (start 4)
      [.read, .read, .read, .read, .read, .begin (.packet () [0]), .begin (.packet () [0]),
        .run 0 .zero, .run 0 .zero, .run 0 .zero, .run 0 .zero, .run 0 .zero, .run 0 .zero,
        .run 1 .zero, .run 1 .zero, .run 1 .zero, .run 1 .zero, .run 1 .zero, .run 1 .zero,
        .run 0 .zero, .run 0 .zero, .run 1 .zero, .run 1 .zero]
      fun now => ¬ now.Stranded :=
  fun throughout => throughout _ (List.prefix_refl _) (by decide +kernel)

end BridgeRun

end Csqtt
