/-
Module: Csqtt.Proofs.UplinkBalance
Purpose: Where the buffers of the uplink are: the pool's count is that of all there are.
Trusted boundary: none
Main exports: UplinkPressure.buffers, UplinkPressure.Conserved, UplinkPressure.conserved_reached
-/
import Csqtt.Core.Weight
import Csqtt.Engine.UplinkPressure
import Csqtt.Proofs.PoolConservation

namespace Csqtt

/-!
### Calls and the reader
-/

section Held

variable {Mark : Type*}

def InjectNext.held : InjectNext Mark → Nat
  | .failed _ _ => 0
  | .pushAgain _ _ _ => 1

/-- The buffers in a call's hands. -/
def InjectPoint.held : InjectPoint Mark → Nat
  | .pushLatency _ _ _ => 1
  | .evict _ _ _ => 1
  | .pushAgain _ _ _ => 1
  | .pushQueue _ _ _ => 1
  | .release _ next => next.held + 1
  | .discount next => next.held + 1
  | _ => 0

/-- The buffers that are free or on the bridge. -/
def SharedBridge.stored (shared : SharedBridge Mark) : Nat :=
  shared.pool.queue.items.length + shared.bridge.latency.items.length +
    shared.bridge.queue.items.length

theorem held_nextPacket (rest : List (Mark × List U8)) (queued failed : Nat) :
    (nextPacket rest queued failed).held = 0 := by
  induction rest generalizing queued failed with
  | nil =>
      rw [nextPacket]
      split <;> rfl
  | cons packet rest inductionHypothesis =>
      rw [nextPacket]
      split
      · exact inductionHypothesis queued failed
      · rfl

theorem InjectWork.held_failed (work : InjectWork Mark) (code : Int) :
    (work.failed code).held = 0 := by
  cases work with
  | single => rfl
  | burst rest queued failed => exact held_nextPacket _ _ _

theorem InjectWork.held_queued (work : InjectWork Mark) : work.queued.held = 0 := by
  cases work with
  | single => rfl
  | burst rest queued failed => exact held_nextPacket _ _ _

theorem InjectWork.held_acquired (work : InjectWork Mark) (mark : Mark) (data : List U8)
    (storage : Storage) : (work.acquired mark data storage).held = 1 := by
  rw [acquired]
  split
  · rfl
  · split
    · rfl
    · split <;> rfl

theorem InjectNext.held_point (next : InjectNext Mark) : next.point.held = next.held := by
  cases next with
  | failed work code => exact work.held_failed code
  | pushAgain work mark packet => rfl

theorem InjectCall.held_point (call : InjectCall Mark) : call.point.held = 0 := by
  cases call with
  | packet mark data =>
      rw [point]
      split <;> rfl
  | packets list =>
      rw [point]
      split <;> rfl

theorem InjectCall.held_first (call : InjectCall Mark) : call.first.held = 0 := by
  cases call with
  | packet mark data => rfl
  | packets list => exact held_nextPacket _ _ _

/-- What becomes of the count, of what is stored and of what the one who acts holds. -/
structure SharedBridge.Balanced (shared after : SharedBridge Mark) (held heldAfter : Nat) :
    Prop where
  level : after.pool.allocated + shared.stored + held =
    shared.pool.allocated + after.stored + heldAfter
  limit : after.pool.allocationLimit = shared.pool.allocationLimit

namespace SharedBridge

variable {shared : SharedBridge Mark}

theorem held_counted (work : InjectWork Mark) (mark : Mark) (data : List U8) :
    (shared.counted work mark data).held = 0 := by
  rw [counted]
  split
  · rfl
  · exact work.held_failed _

/-- Nothing moves. -/
theorem balanced_of_still {after : SharedBridge Mark} {held heldAfter : Nat}
    (pool : after.pool = shared.pool) (bridge : after.bridge = shared.bridge)
    (same : heldAfter = held) : Balanced shared after held heldAfter where
  level := by rw [stored, stored, pool, bridge, same]
  limit := congrArg PacketPool.allocationLimit pool

/-- A packet is pushed onto the latency queue, or taken from it. -/
theorem balanced_latency {latency : ArrayQueue (Mark × PacketBuf) uplinkLatencyCapacity}
    {held heldAfter : Nat} (moved : shared.bridge.latency.items.length + held =
      latency.items.length + heldAfter) :
    Balanced shared (shared.pushedLatency latency) held heldAfter where
  level := by
    simp only [pushedLatency, stored]
    omega
  limit := rfl

theorem balanced_queue {queue : ArrayQueue (Mark × PacketBuf) uplinkCapacity}
    {held heldAfter : Nat} (moved : shared.bridge.queue.items.length + held =
      queue.items.length + heldAfter) :
    Balanced shared (shared.pushedQueue queue) held heldAfter where
  level := by
    simp only [pushedQueue, stored]
    omega
  limit := rfl

/-- A buffer is taken from the free list or put there. -/
theorem balanced_pool {pool : PacketPool} {held heldAfter : Nat}
    (moved : pool.allocated + shared.pool.queue.items.length + held =
      shared.pool.allocated + pool.queue.items.length + heldAfter)
    (limit : pool.allocationLimit = shared.pool.allocationLimit) :
    Balanced shared { shared with pool := pool } held heldAfter where
  level := by
    simp only [stored]
    omega
  limit := limit

/-- An operation of a call. -/
theorem perform_balanced (fresh : Storage) {point : InjectPoint Mark}
    (counted : 0 < point.held → 0 < shared.pool.allocated) :
    Balanced shared (shared.perform fresh point).1 point.held
      (shared.perform fresh point).2.held := by
  cases point with
  | returned code => exact balanced_of_still rfl rfl rfl
  | slot call =>
      refine balanced_of_still rfl rfl ?_
      simp only [perform]
      split <;> rfl
  | cancelled call =>
      refine balanced_of_still rfl rfl ?_
      simp only [perform]
      split
      · rfl
      · exact call.held_first
  | pop work mark data =>
      rw [perform, PacketPool.pop]
      cases popped : shared.pool.queue.pop with
      | none => exact balanced_of_still rfl rfl rfl
      | some pair =>
          refine balanced_pool ?_ rfl
          simp only [Option.map_some, work.held_acquired]
          rw [ArrayQueue.pop_spec popped]
          rfl
  | count work mark data => exact balanced_of_still rfl rfl (held_counted work mark data)
  | reserve work mark data previous =>
      rw [perform, PacketPool.reserve]
      by_cases same : shared.pool.allocated = previous
      · subst same
        rw [if_pos rfl]
        refine balanced_pool ?_ rfl
        rw [InjectWork.held_acquired]
        exact Nat.add_right_comm shared.pool.allocated 1 shared.pool.queue.items.length
      · rw [if_neg same]
        exact balanced_of_still rfl rfl (held_counted work mark data)
  | pushLatency work mark packet =>
      rw [perform]
      cases pushed : shared.bridge.latency.push (mark, packet) with
      | none => exact balanced_of_still rfl rfl rfl
      | some latency =>
          refine balanced_latency ?_
          rw [ArrayQueue.push_spec pushed, List.length_append, work.held_queued]
          rfl
  | evict work mark packet =>
      rw [perform]
      cases popped : shared.bridge.latency.pop with
      | none => exact balanced_of_still rfl rfl rfl
      | some pair =>
          refine balanced_latency ?_
          rw [ArrayQueue.pop_spec popped]
          rfl
  | pushAgain work mark packet =>
      rw [perform]
      cases pushed : shared.bridge.latency.push (mark, packet) with
      | none => exact balanced_of_still rfl rfl rfl
      | some latency =>
          refine balanced_latency ?_
          rw [ArrayQueue.push_spec pushed, List.length_append, work.held_queued]
          rfl
  | pushQueue work mark packet =>
      rw [perform]
      cases pushed : shared.bridge.queue.push (mark, packet) with
      | none => exact balanced_of_still rfl rfl rfl
      | some queue =>
          refine balanced_queue ?_
          rw [ArrayQueue.push_spec pushed, List.length_append, work.held_queued]
          rfl
  | release storage next =>
      rw [perform]
      cases pushed : shared.pool.push storage with
      | none => exact balanced_of_still rfl rfl rfl
      | some pool =>
          obtain ⟨same, longer, limit⟩ := PacketPool.push_spec pushed
          refine balanced_pool ?_ limit
          rw [same, longer, next.held_point]
          rw [InjectPoint.held]
          omega
  | discount next =>
      have some := counted (Nat.succ_pos _)
      rw [perform]
      refine balanced_pool ?_ rfl
      rw [next.held_point, InjectPoint.held]
      dsimp only [PacketPool.discount]
      omega
  | latencyLength => exact balanced_of_still rfl rfl rfl
  | queueLength latency =>
      refine balanced_of_still rfl rfl ?_
      simp only [perform]
      split <;> rfl
  | notify => exact balanced_of_still rfl rfl rfl

end SharedBridge

/-- The packet that the reader has just popped. -/
def ReaderPoint.fetched : ReaderPoint Mark → Nat
  | .reading _ => 1
  | _ => 0

namespace SharedBridge

theorem read_balanced (shared : SharedBridge Mark) (point : ReaderPoint Mark) :
    Balanced shared (shared.read point).1 0 (shared.read point).2.fetched := by
  cases point with
  | popLatency =>
      rw [read]
      cases popped : shared.bridge.latency.pop with
      | none => exact balanced_of_still rfl rfl rfl
      | some pair =>
          refine balanced_latency ?_
          simp [ArrayQueue.pop_spec popped, ReaderPoint.fetched]
  | popQueue =>
      rw [read]
      cases popped : shared.bridge.queue.pop with
      | none => exact balanced_of_still rfl rfl rfl
      | some pair =>
          refine balanced_queue ?_
          simp [ArrayQueue.pop_spec popped, ReaderPoint.fetched]
  | claim seen =>
      rw [read]
      split <;> exact balanced_of_still rfl rfl rfl
  | enlist seen =>
      refine balanced_of_still rfl rfl ?_
      simp only [read]
      split <;> rfl
  | waiting =>
      rw [read]
      split <;> exact balanced_of_still rfl rfl rfl
  | reading packet => exact balanced_of_still rfl rfl rfl
  | notified => exact balanced_of_still rfl rfl rfl
  | stopped => exact balanced_of_still rfl rfl rfl

theorem stop_balanced (shared : SharedBridge Mark) (point : ReaderPoint Mark) :
    Balanced shared (shared.stop point).1 0 0 := by
  cases point with
  | _ => exact balanced_of_still rfl rfl rfl

end SharedBridge

end Held

/-!
### Workers and others
-/

/-- The buffers in a worker's queues and in the batch of its writer. -/
def UplinkWorker.held (worker : UplinkWorker) : Nat :=
  (worker.queue .small).items.length + (worker.queue .medium).items.length +
    (worker.queue .bulk).items.length + worker.batch.length

namespace UplinkWorker

variable {worker : UplinkWorker}

theorem held_setQueue (worker : UplinkWorker) (ofClass : PacketClass)
    (queue : BoundedFifo (Unit × PacketBuf)) :
    (worker.setQueue ofClass queue).held + (worker.queue ofClass).items.length =
      worker.held + queue.items.length := by
  cases ofClass with
  | small =>
      simp [held, setQueue, Function.update]
      omega
  | medium =>
      simp [held, setQueue, Function.update]
      omega
  | bulk =>
      simp [held, setQueue, Function.update]
      omega

/-- A packet that is received moves from its queue into the batch. -/
theorem held_tryRecv (worker : UplinkWorker) (ofClass : PacketClass) :
    (worker.setQueue ofClass ((worker.queue ofClass).call .tryRecv).1).held +
      (worker.queue ofClass).items.head?.toList.length = worker.held := by
  have moved := worker.held_setQueue ofClass ((worker.queue ofClass).call .tryRecv).1
  cases listed : (worker.queue ofClass).items with
  | nil =>
      simp only [BoundedFifo.call, listed, List.tail_nil, List.length_nil] at moved ⊢
      exact moved
  | cons packet rest =>
      simp only [BoundedFifo.call, listed, List.tail_cons, List.length_cons, List.head?_cons,
        Option.toList_some, List.length_nil] at moved ⊢
      omega

/-- A writer loses no buffer but those that it sends. -/
theorem held_write (worker : UplinkWorker) :
    worker.write.1.held + worker.write.2.length = worker.held := by
  rw [write]
  split
  · next ofClass point =>
      have received := worker.held_tryRecv ofClass
      cases listed : (worker.queue ofClass).items with
      | nil =>
          simp only [BoundedFifo.call, listed] at received ⊢
          exact received
      | cons packet rest =>
          simp only [BoundedFifo.call, listed] at received ⊢
          rw [← received, held, held]
          simp [setQueue]
          omega
  · next ofClass point =>
      split
      · have received := worker.held_tryRecv ofClass
        cases listed : (worker.queue ofClass).items with
        | nil =>
            simp only [BoundedFifo.call, listed] at received ⊢
            exact received
        | cons packet rest =>
            simp only [BoundedFifo.call, listed] at received ⊢
            rw [← received, held, held]
            simp [setQueue]
            omega
      · rfl
  · split
    · rfl
    · next packet rest batch =>
        simp only [held, batch, List.length_cons, List.length_nil]
        omega

/-- What is offered goes into a queue or is handed back, and what is driven out leaves it. -/
theorem held_offer (worker : UplinkWorker) (packet : Unit × PacketBuf) (force : Bool) :
    (worker.offer packet force).1.held + (worker.offer packet force).2.1.toList.length +
      (worker.offer packet force).2.2.length = worker.held + 1 := by
  have moved := worker.held_setQueue (packetClass packet.2.asSlice)
  rw [offer]
  generalize worker.queue (packetClass packet.2.asSlice) = queue at moved
  cases force with
  | false =>
      by_cases room : queue.active ∧ queue.items.length < queue.capacity
      · have sent := moved { queue with items := queue.items ++ [packet] }
        simp only [BoundedFifo.call, Bool.false_eq_true, if_false, if_pos room, if_pos room.2,
          List.length_append, List.length_singleton, List.length_nil, Option.toList_none] at sent ⊢
        omega
      · have refused := moved queue
        simp only [BoundedFifo.call, Bool.false_eq_true, if_false, if_neg room,
          Option.toList_some, List.length_singleton, List.length_nil]
        omega
  | true =>
      by_cases active : queue.active
      · by_cases room : queue.items.length < queue.capacity
        · have sent := moved { queue with items := queue.items ++ [packet] }
          simp only [BoundedFifo.call, if_true, if_pos active, if_pos room, List.length_append,
            List.length_singleton, List.length_nil, Option.toList_none] at sent ⊢
          omega
        · have sent := moved { queue with items := queue.items.tail ++ [packet] }
          simp only [BoundedFifo.call, if_true, if_pos active, if_neg room, List.length_append,
            List.length_singleton, List.length_nil, List.length_tail, List.length_take,
            Option.toList_none] at sent ⊢
          omega
      · have refused := moved queue
        simp only [BoundedFifo.call, if_true, if_neg active, Option.toList_some,
          List.length_singleton, List.length_nil]
        omega

end UplinkWorker

namespace PoolRun

/-- What becomes of the count, of the free list and of the holders. -/
structure Balanced (now after : PoolRun) : Prop where
  level : after.pool.allocated + now.pool.queue.items.length + now.outstanding =
    now.pool.allocated + after.pool.queue.items.length + after.outstanding
  limit : after.pool.allocationLimit = now.pool.allocationLimit

theorem Balanced.refl (now : PoolRun) : Balanced now now := ⟨rfl, rfl⟩

variable {now : PoolRun} {index : Nat}

theorem balanced_moved {point : PoolPoint} (here : now.at? index = some point)
    {pool : PacketPool} {next : PoolPoint} {started : List PoolTask}
    (new : ∀ task ∈ started, ∃ copied, task.point = .pop copied)
    (balance : pool.allocated + now.pool.queue.items.length + point.holds.toNat =
      now.pool.allocated + pool.queue.items.length + next.holds.toNat)
    (limit : pool.allocationLimit = now.pool.allocationLimit) :
    Balanced now (now.moved index pool next started) where
  level := by
    have moved := outstanding_moved here pool next new
    change pool.allocated + _ + _ = _ + pool.queue.items.length + _
    omega
  limit := limit

/-- Holders of buffers move them between the free list and themselves. -/
theorem step_balanced (event : PoolEvent) (counted : 0 < now.outstanding → 0 < now.pool.allocated) :
    Balanced now (now.step event).1 := by
  have none (task : PoolTask) (mem : task ∈ []) : ∃ copied, task.point = .pop copied :=
    absurd mem List.not_mem_nil
  cases event with
  | acquire =>
      refine ⟨?_, rfl⟩
      simp only [step, outstanding, List.countP_append]
      rfl
  | run index fresh =>
      rw [step]
      split
      · exact .refl now
      · next point here =>
          exact balanced_moved here none
            (now.pool.perform_balance fresh point fun holds => counted (outstanding_pos here holds))
            (now.pool.perform_limit fresh point)
  | write index storage =>
      rw [step]
      split
      · next old here => exact balanced_moved here none rfl rfl
      · exact .refl now
  | duplicate index bytes =>
      rw [step]
      split
      · next storage here =>
          refine balanced_moved here (fun task mem => ⟨some bytes, ?_⟩) rfl rfl
          rw [List.mem_singleton.mp mem]
      · exact .refl now
  | drop index =>
      rw [step]
      split
      · next storage here => exact balanced_moved here none rfl rfl
      · exact .refl now

end PoolRun

/-!
### The uplink
-/

namespace UplinkPressure

/-- The buffers in the hands of calls, of the dispatcher, of workers and of others. -/
def taken (self : UplinkPressure) : Nat :=
  (self.calls.map fun call => call.point.held).sum + self.carried.length +
    (self.workers.map UplinkWorker.held).sum + self.others.countP (·.point.holds)

/-- All buffers there are. -/
def buffers (self : UplinkPressure) : Nat := self.shared.stored + self.taken

/-- The pool has counted all buffers there are, and has the limit for its workers. -/
structure Conserved (now : UplinkPressure) : Prop where
  level : now.shared.pool.allocated = now.buffers
  limit : now.shared.pool.allocationLimit = packetPoolSize now.workers.length

variable {self : UplinkPressure}

theorem taken_dropped (self : UplinkPressure) (packets : List (Unit × PacketBuf)) :
    (self.dropped packets).taken = self.taken + packets.length := by
  have all : (packets.map fun packet : Unit × PacketBuf =>
      ({ point := .release packet.2.storage, tag := () } : PoolTask)).countP (·.point.holds) =
      packets.length := by
    rw [List.countP_map]
    exact (List.countP_eq_length.mpr fun packet _ => rfl)
  simp only [taken, dropped, List.countP_append, all]
  omega

/-- What the bridge gives, those around take. -/
theorem Conserved.of_balanced (conserved : self.Conserved) {after : UplinkPressure}
    {held heldAfter : Nat} (balanced : self.shared.Balanced after.shared held heldAfter)
    (moved : after.taken + held = self.taken + heldAfter)
    (workers : after.workers.length = self.workers.length) : after.Conserved where
  level := by
    have before := conserved.level
    have level := balanced.level
    rw [buffers] at before ⊢
    omega
  limit := by rw [balanced.limit, conserved.limit, workers]

/-- What moves between those around is not lost. -/
theorem Conserved.of_taken (conserved : self.Conserved) {after : UplinkPressure}
    (same : after.shared = self.shared) (moved : after.taken = self.taken)
    (workers : after.workers.length = self.workers.length) : after.Conserved where
  level := by
    have before := conserved.level
    rw [buffers] at before ⊢
    rw [same, moved, before]
  limit := by rw [same, conserved.limit, workers]

theorem taken_framed (self : UplinkPressure) :
    self.framed.taken = self.taken + self.reader.fetched := by
  rw [framed]
  split
  · next packet reading =>
      have one : self.reader.fetched = 1 := by rw [reading, ReaderPoint.fetched]
      rw [one]
      dsimp only
      split
      · simp only [taken, List.length_append, List.length_singleton]
        omega
      · rw [taken_dropped]
        rfl
  · next other =>
      cases reading : self.reader with
      | reading packet => exact absurd reading (other packet)
      | _ => rfl

theorem framed_shared (self : UplinkPressure) : self.framed.shared = self.shared := by
  rw [framed]
  split
  · dsimp only
    split <;> rfl
  · rfl

theorem framed_workers (self : UplinkPressure) : self.framed.workers = self.workers := by
  rw [framed]
  split
  · dsimp only
    split <;> rfl
  · rfl

/-- One of those around holds something, so the pool has counted it. -/
theorem Conserved.counted (conserved : self.Conserved) (some : 0 < self.taken) :
    0 < self.shared.pool.allocated := by
  have level := conserved.level
  rw [buffers] at level
  omega

theorem held_le_taken {index : Nat} {call : UplinkCall} (here : self.calls[index]? = some call) :
    call.point.held ≤ self.taken := by
  have whole := sum_eraseIdx here fun call => call.point.held
  rw [taken]
  omega

theorem Conserved.step (conserved : self.Conserved) (event : PressureEvent) :
    (self.step event).1.Conserved := by
  cases event with
  | inject call =>
      refine conserved.of_taken rfl ?_ rfl
      simp [UplinkPressure.step, taken, call.held_point]
  | run index fresh =>
      rw [UplinkPressure.step]
      split
      · exact conserved
      · next call here =>
          have least := held_le_taken here
          have balanced := self.shared.perform_balanced fresh fun some =>
            conserved.counted (some.trans_le least)
          refine conserved.of_balanced balanced ?_ rfl
          have whole := sum_set here
            { call with
              point := (self.shared.perform fresh call.point).2
              foundDown := call.foundDown || self.isDown call.point }
            fun call => call.point.held
          dsimp only [taken] at whole ⊢
          omega
  | read =>
      have balanced := self.shared.read_balanced self.reader
      have fetched := taken_framed { self with
        shared := (self.shared.read self.reader).1
        reader := (self.shared.read self.reader).2 }
      rw [UplinkPressure.step]
      refine @Conserved.of_balanced _ conserved _ 0 _ ?_ fetched ?_
      · rw [framed_shared]
        exact balanced
      · rw [framed_workers]
  | stop =>
      rw [UplinkPressure.step]
      split
      · exact conserved.of_balanced (self.shared.stop_balanced self.reader) rfl rfl
      · exact conserved
  | cancel => exact @Conserved.of_balanced _ conserved _ 0 0 ⟨rfl, rfl⟩ rfl rfl
  | install installed => exact @Conserved.of_balanced _ conserved _ 0 0 ⟨rfl, rfl⟩ rfl rfl
  | offer index worker force =>
      rw [UplinkPressure.step]
      split
      · next packet target here there =>
          have balance := target.held_offer packet force
          have whole := sum_set there (target.offer packet force).1 UplinkWorker.held
          refine conserved.of_taken rfl ?_ (List.length_set ..)
          have shorter := List.length_eraseIdx_add_one (List.getElem?_eq_some_iff.mp here).1
          rw [taken_dropped]
          cases returned : (target.offer packet force).2.1 with
          | none =>
              rw [returned, Option.toList_none, List.length_nil] at balance
              simp only [taken]
              omega
          | some packet =>
              rw [returned, Option.toList_some, List.length_singleton] at balance
              simp only [taken]
              omega
      · exact conserved
  | spare index other =>
      rw [UplinkPressure.step]
      split
      · next packet storage tag here there =>
          split
          · next sized =>
              split
              · next copy copied =>
                  refine conserved.of_taken rfl ?_ rfl
                  have fewer := Interleaving.countP_advance
                    (fun task : PoolTask => task.point.holds) there
                    { point := .ended, tag := () } []
                  rw [Interleaving.advance, List.append_nil] at fewer
                  have one : PoolPoint.holds (.holding storage) = true := rfl
                  have none : PoolPoint.holds .ended = false := rfl
                  simp only [one, none, Bool.toNat_true, Bool.toNat_false, List.countP_nil] at fewer
                  simp only [taken, List.length_append, List.length_singleton]
                  omega
              · exact conserved
          · exact conserved
      · exact conserved
  | abandon index =>
      rw [UplinkPressure.step]
      split
      · next packet here =>
          refine conserved.of_taken rfl ?_ rfl
          have shorter := List.length_eraseIdx_add_one (List.getElem?_eq_some_iff.mp here).1
          rw [taken_dropped]
          simp only [taken, List.length_singleton]
          omega
      · exact conserved
  | write worker =>
      rw [UplinkPressure.step]
      split
      · next writer there =>
          have balance := writer.held_write
          have whole := sum_set there writer.write.1 UplinkWorker.held
          refine conserved.of_taken rfl ?_ (List.length_set ..)
          rw [taken_dropped]
          simp only [taken]
          omega
      · exact conserved
  | steal worker =>
      rw [UplinkPressure.step]
      split
      · next ended there =>
          have whole := sum_set there
            { ended with queue := fun c => ((ended.queue c).call .steal).1 } UplinkWorker.held
          refine conserved.of_taken rfl ?_ (List.length_set ..)
          simp [taken, UplinkWorker.held, BoundedFifo.call] at whole ⊢
          omega
      · exact conserved
  | pool event =>
      have balanced := @PoolRun.step_balanced ⟨self.shared.pool, self.others⟩ event fun some =>
        conserved.counted (some.trans_le (Nat.le_add_left _ _))
      exact conserved.of_balanced (SharedBridge.balanced_pool balanced.level balanced.limit)
        (Nat.add_right_comm _ _ _) rfl

/-- Buffers are conserved in every run. -/
theorem conserved_reached (workers : Nat) (events : List PressureEvent) :
    (Transducer.run step (start workers) events).1.Conserved := by
  have initial : (start workers).Conserved := by
    refine ⟨?_, ?_⟩
    · simp [buffers, taken, SharedBridge.stored, start, UplinkBridge.new, PacketPool.new,
        ArrayQueue.empty, UplinkWorker.held, UplinkWorker.new]
    · have some : 1 ≤ packetPoolSize workers :=
        (by decide : 1 ≤ packetPoolShared).trans (Nat.le_add_left _ _)
      change max (packetPoolSize workers) 1 = packetPoolSize (List.replicate workers _).length
      rw [List.length_replicate, Nat.max_eq_left some]
  exact Transducer.run_invariant step
    (fun now event (conserved : now.Conserved) => conserved.step event) (start workers) events
    initial

end UplinkPressure

end Csqtt
