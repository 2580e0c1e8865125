/-
Module: Csqtt.Proofs.PoolConservation
Purpose: Every buffer of the pool is in the free list or with a holder; and a buffer that
  is refused although there is one.
Trusted boundary: none
Main exports: outstanding, Conserved, refuses, pool_exact
-/
import Csqtt.Engine.PacketPool

namespace Csqtt

/-- A buffer counts as given out until it is back in the free list, or off the count. -/
def PoolPoint.holds : PoolPoint → Bool
  | .holding _ => true
  | .release _ => true
  | .discount => true
  | _ => false

theorem PoolPoint.holds_acquired (storage : Storage) (copied : Option (List U8)) :
    (acquired storage copied).holds = true := by
  cases copied with
  | none => rfl
  | some bytes =>
      rw [acquired]
      split
      · rfl
      · rfl

namespace PacketPool

variable (self : PacketPool)

theorem holds_counted (copied : Option (List U8)) : (self.counted copied).holds = false := by
  rw [counted]
  split
  · rfl
  · rfl

theorem push_spec {self pushed : PacketPool} {storage : Storage}
    (accepted : self.push storage = some pushed) :
    pushed.allocated = self.allocated ∧
      pushed.queue.items.length = self.queue.items.length + 1 ∧
      pushed.allocationLimit = self.allocationLimit := by
  obtain ⟨queue, taken, rfl⟩ := Option.map_eq_some_iff.mp accepted
  refine ⟨rfl, ?_, rfl⟩
  exact (congrArg List.length (ArrayQueue.push_spec taken)).trans List.length_append

/-- What an operation adds to the count it adds to the free list or to the holders. -/
theorem perform_balance (fresh : Storage) (point : PoolPoint)
    (counted : point.holds = true → 0 < self.allocated) :
    (self.perform fresh point).1.allocated + self.queue.items.length + point.holds.toNat =
      self.allocated + (self.perform fresh point).1.queue.items.length +
        (self.perform fresh point).2.holds.toNat := by
  cases point with
  | pop copied =>
      rw [perform, PacketPool.pop]
      cases popped : self.queue.pop with
      | none => rfl
      | some pair =>
          have items := congrArg List.length (ArrayQueue.pop_spec popped)
          simp only [Option.map_some, PoolPoint.holds_acquired, items, List.length_cons]
          rfl
  | count copied =>
      rw [perform, holds_counted]
      rfl
  | reserve copied previous =>
      by_cases same : self.allocated = previous
      · subst same
        have reserved : self.reserve self.allocated =
            some { self with allocated := self.allocated + 1 } := if_pos rfl
        rw [perform, reserved]
        simp only [PoolPoint.holds_acquired]
        exact Nat.add_right_comm self.allocated 1 self.queue.items.length
      · have refused : self.reserve previous = none := if_neg same
        rw [perform, refused]
        simp only [holds_counted]
        rfl
  | release storage =>
      have some := counted rfl
      rw [perform]
      by_cases sized : storage.length = packetCapacity
      · rw [dif_pos sized]
        cases pushed : self.push ⟨storage, sized⟩ with
        | none => rfl
        | some pool =>
            obtain ⟨same, longer, -⟩ := push_spec pushed
            change pool.allocated + self.queue.items.length + 1 =
              self.allocated + pool.queue.items.length + 0
            omega
      · rw [dif_neg sized]
        change self.allocated - 1 + self.queue.items.length + 1 =
          self.allocated + self.queue.items.length + 0
        omega
  | discount =>
      have some := counted rfl
      change self.allocated - 1 + self.queue.items.length + 1 =
        self.allocated + self.queue.items.length + 0
      omega
  | refused => rfl
  | holding storage => rfl
  | ended => rfl

theorem perform_limit (fresh : Storage) (point : PoolPoint) :
    (self.perform fresh point).1.allocationLimit = self.allocationLimit := by
  cases point with
  | pop copied =>
      rw [perform, PacketPool.pop]
      cases self.queue.pop with
      | none => rfl
      | some pair => rfl
  | reserve copied previous =>
      rw [perform, PacketPool.reserve]
      by_cases same : self.allocated = previous
      · rw [if_pos same]
      · rw [if_neg same]
  | release storage =>
      rw [perform]
      by_cases sized : storage.length = packetCapacity
      · rw [dif_pos sized]
        cases pushed : self.push ⟨storage, sized⟩ with
        | none => rfl
        | some pool => exact (push_spec pushed).2.2
      · rw [dif_neg sized]
        rfl
  | _ => rfl

theorem counted_reserve {copied other : Option (List U8)} {previous : Nat}
    (next : self.counted copied = .reserve other previous) : previous < self.allocationLimit := by
  rw [counted] at next
  split at next
  · next room =>
      cases next
      exact room
  · cases next

theorem acquired_ne_reserve {storage : Storage} {copied other : Option (List U8)}
    {previous : Nat} : PoolPoint.acquired storage copied ≠ .reserve other previous := by
  intro next
  have holds := PoolPoint.holds_acquired storage copied
  rw [next] at holds
  cases holds

/-- Only one who has seen room goes on to add a buffer. -/
theorem perform_reserve {fresh : Storage} {point : PoolPoint} {copied : Option (List U8)}
    {previous : Nat} (next : (self.perform fresh point).2 = .reserve copied previous) :
    previous < self.allocationLimit := by
  cases point with
  | pop other =>
      rw [perform] at next
      split at next
      · exact absurd next acquired_ne_reserve
      · cases next
  | count other => exact self.counted_reserve next
  | reserve other earlier =>
      rw [perform] at next
      split at next
      · exact absurd next acquired_ne_reserve
      · exact self.counted_reserve next
  | release storage =>
      rw [perform] at next
      split at next
      · split at next
        · cases next
        · cases next
      · cases next
  | _ => cases next

theorem perform_allocated_le {fresh : Storage} {point : PoolPoint}
    (bounded : self.allocated ≤ self.allocationLimit)
    (seen : ∀ copied previous, point = .reserve copied previous →
      previous < self.allocationLimit) :
    (self.perform fresh point).1.allocated ≤ self.allocationLimit := by
  have fewer : self.allocated - 1 ≤ self.allocationLimit := (Nat.sub_le _ _).trans bounded
  cases point with
  | pop copied =>
      rw [perform, PacketPool.pop]
      cases self.queue.pop with
      | none => exact bounded
      | some pair => exact bounded
  | reserve copied previous =>
      rw [perform, PacketPool.reserve]
      by_cases same : self.allocated = previous
      · rw [if_pos same]
        exact seen copied previous rfl
      · rw [if_neg same]
        exact bounded
  | release storage =>
      rw [perform]
      by_cases sized : storage.length = packetCapacity
      · rw [dif_pos sized]
        cases pushed : self.push ⟨storage, sized⟩ with
        | none => exact bounded
        | some pool => exact (push_spec pushed).1.trans_le bounded
      · rw [dif_neg sized]
        exact fewer
  | discount => exact fewer
  | _ => exact bounded

theorem counted_refused {copied : Option (List U8)} (next : self.counted copied = .refused) :
    self.allocationLimit ≤ self.allocated := by
  rw [counted] at next
  split at next
  · cases next
  · next full => exact Nat.le_of_not_lt full

/-- A refusal is read off the count. -/
theorem perform_refused {fresh : Storage} {point : PoolPoint}
    (next : (self.perform fresh point).2 = .refused) (new : point ≠ .refused) :
    self.allocationLimit ≤ self.allocated := by
  have never {storage : Storage} {copied : Option (List U8)} :
      PoolPoint.acquired storage copied ≠ .refused := by
    intro refused
    have holds := PoolPoint.holds_acquired storage copied
    rw [refused] at holds
    cases holds
  cases point with
  | pop copied =>
      rw [perform] at next
      split at next
      · exact absurd next never
      · cases next
  | count copied => exact self.counted_refused next
  | reserve copied previous =>
      rw [perform] at next
      split at next
      · exact absurd next never
      · exact self.counted_refused next
  | release storage =>
      rw [perform] at next
      split at next
      · split at next
        · cases next
        · cases next
      · cases next
  | refused => exact absurd rfl new
  | _ => cases next

end PacketPool

namespace PoolRun

/-- The buffers that are given out. -/
def outstanding (self : PoolRun) : Nat := self.tasks.countP (·.point.holds)

/-- Whoever is about to add a buffer has seen room for it. -/
def Reserving (self : PoolRun) : Prop :=
  ∀ task ∈ self.tasks, ∀ copied previous, task.point = .reserve copied previous →
    previous < self.pool.allocationLimit

/-- The buffers there are, as many as the count says and no more than there may be. -/
def Conserved (self : PoolRun) : Prop :=
  self.pool.allocated = self.pool.queue.items.length + self.outstanding ∧
    self.pool.allocated ≤ self.pool.allocationLimit

/-- The step ends in a refusal. -/
def refuses (self : PoolRun) : PoolEvent → Bool
  | .run index fresh =>
      match self.at? index with
      | none => false
      | some .refused => false
      | some point =>
          match (self.pool.perform fresh point).2 with
          | .refused => true
          | _ => false
  | _ => false

/-- What holds throughout. -/
structure Sound (now : PoolRun) : Prop where
  conserved : now.Conserved
  reserving : now.Reserving

variable {now : PoolRun} {index : Nat}

theorem at?_eq_some {point : PoolPoint} (here : now.at? index = some point) :
    ∃ task, now.tasks[index]? = some task ∧ task.point = point := Option.map_eq_some_iff.mp here

/-- A thread moves on, and those that it starts hold nothing yet. -/
theorem outstanding_moved {point : PoolPoint} (here : now.at? index = some point)
    (pool : PacketPool) (next : PoolPoint) {started : List PoolTask}
    (new : ∀ task ∈ started, ∃ copied, task.point = .pop copied) :
    (now.moved index pool next started).outstanding + point.holds.toNat =
      now.outstanding + next.holds.toNat := by
  obtain ⟨task, there, rfl⟩ := at?_eq_some here
  have none : started.countP (·.point.holds) = 0 := by
    rw [List.countP_eq_zero]
    intro task mem
    obtain ⟨copied, point⟩ := new task mem
    rw [point]
    exact Bool.false_ne_true
  have whole := Interleaving.countP_advance (fun task : PoolTask => task.point.holds) there
    { point := next, tag := () } started
  rw [none] at whole
  exact whole

theorem outstanding_pos {point : PoolPoint} (here : now.at? index = some point)
    (holds : point.holds = true) : 0 < now.outstanding := by
  obtain ⟨task, there, rfl⟩ := at?_eq_some here
  exact List.countP_pos_iff.mpr ⟨task, List.mem_of_getElem? there, holds⟩

/-- A thread moves on, and the count moves with the free list and the holders. -/
theorem Sound.moved (sound : now.Sound) {point : PoolPoint} (here : now.at? index = some point)
    {pool : PacketPool} {next : PoolPoint} {started : List PoolTask}
    (limit : pool.allocationLimit = now.pool.allocationLimit)
    (bounded : pool.allocated ≤ now.pool.allocationLimit)
    (balance : pool.allocated + now.pool.queue.items.length + point.holds.toNat =
      now.pool.allocated + pool.queue.items.length + next.holds.toNat)
    (seen : ∀ copied previous, next = .reserve copied previous →
      previous < now.pool.allocationLimit)
    (new : ∀ task ∈ started, ∃ copied, task.point = .pop copied) :
    (now.moved index pool next started).Sound := by
  have moved := outstanding_moved here pool next new
  obtain ⟨⟨count, -⟩, reserving⟩ := sound
  refine ⟨⟨?_, limit ▸ bounded⟩, ?_⟩
  · change pool.allocated = pool.queue.items.length + (now.moved index pool next started).outstanding
    omega
  · simp only [PoolRun.Reserving, PoolRun.moved, limit]
    apply Interleaving.forall_advance
    · exact fun other mem => reserving other (List.mem_of_mem_eraseIdx mem)
    · exact seen
    · intro task mem copied previous reserves
      obtain ⟨other, point⟩ := new task mem
      rw [point] at reserves
      cases reserves

theorem Sound.step (sound : now.Sound) (event : PoolEvent) : (now.step event).1.Sound := by
  cases event with
  | acquire =>
      obtain ⟨⟨count, bounded⟩, reserving⟩ := sound
      refine ⟨⟨?_, bounded⟩, ?_⟩
      · simp only [PoolRun.step, PoolRun.outstanding, List.countP_append] at count ⊢
        exact count
      · intro task mem
        rcases List.mem_append.mp mem with old | new
        · exact reserving task old
        · rw [List.mem_singleton.mp new]
          intro copied previous reserves
          cases reserves
  | run index fresh =>
      rw [PoolRun.step]
      split
      · exact sound
      · next point here =>
          have some (holds : point.holds = true) : 0 < now.pool.allocated := by
            have counted := outstanding_pos here holds
            have count := sound.conserved.1
            omega
          obtain ⟨task, there, rfl⟩ := at?_eq_some here
          have mem := List.mem_of_getElem? there
          apply sound.moved here (now.pool.perform_limit fresh task.point)
          · exact now.pool.perform_allocated_le sound.conserved.2
              fun copied previous reserves => sound.reserving task mem copied previous reserves
          · exact now.pool.perform_balance fresh task.point some
          · exact fun copied previous reserves => now.pool.perform_reserve reserves
          · exact fun task mem => absurd mem List.not_mem_nil
  | write index storage =>
      rw [PoolRun.step]
      split
      · next old here =>
          exact sound.moved here rfl sound.conserved.2 rfl (fun _ _ reserves => by cases reserves)
            fun task mem => absurd mem List.not_mem_nil
      · exact sound
  | duplicate index bytes =>
      rw [PoolRun.step]
      split
      · next storage here =>
          refine sound.moved here rfl sound.conserved.2 rfl (fun _ _ reserves => by cases reserves) ?_
          intro task mem
          rw [List.mem_singleton.mp mem]
          exact ⟨some bytes, rfl⟩
      · exact sound
  | drop index =>
      rw [PoolRun.step]
      split
      · next storage here =>
          exact sound.moved here rfl sound.conserved.2 rfl (fun _ _ reserves => by cases reserves)
            fun task mem => absurd mem List.not_mem_nil
      · exact sound

theorem sound_reached (buffers : Nat) (events : List PoolEvent) :
    (Transducer.run step (start buffers) events).1.Sound := by
  have initial : (start buffers).Sound :=
    ⟨⟨rfl, Nat.zero_le _⟩, fun task mem => absurd mem List.not_mem_nil⟩
  exact Transducer.run_invariant step (fun now event (sound : now.Sound) => sound.step event)
    (start buffers) events initial

/-- A refusal leaves no doubt about the count. -/
theorem Sound.refused (sound : now.Sound) {event : PoolEvent} (refused : now.refuses event = true) :
    now.pool.queue.items.length + now.outstanding = now.pool.allocationLimit := by
  cases event with
  | run index fresh =>
      rw [PoolRun.refuses] at refused
      split at refused
      · cases refused
      · cases refused
      · next point new here =>
          split at refused
          · next next =>
              have full := now.pool.perform_refused next new
              have count := sound.conserved
              rw [Conserved] at count
              omega
          · cases refused
  | _ => cases refused

/-- Buffers are conserved in every run; and all are given out whenever one is refused,
exactly if the free list is then empty, as it was a moment ago. -/
theorem pool_exact (buffers : Nat) (events : List PoolEvent) :
    (Transducer.Throughout step (start buffers) events Conserved ∧
      Transducer.AtEveryStep step (start buffers) events fun now event =>
        now.refuses event = true → now.outstanding = now.pool.allocationLimit) ↔
      Transducer.AtEveryStep step (start buffers) events fun now event =>
        now.refuses event = true → now.pool.queue.items = [] := by
  have conserved : Transducer.Throughout step (start buffers) events Conserved :=
    fun consumed _ => (sound_reached buffers consumed).conserved
  rw [and_iff_right conserved]
  have each (consumed : List PoolEvent) (event : PoolEvent)
      (refused : (Transducer.run step (start buffers) consumed).1.refuses event = true) :=
    (sound_reached buffers consumed).refused refused
  constructor
  · intro out consumed event within refused
    have all := out consumed event within refused
    have whole := each consumed event refused
    exact List.length_eq_zero_iff.mp (by omega)
  · intro empty consumed event within refused
    have none := empty consumed event within refused
    have whole := each consumed event refused
    rw [none] at whole
    exact (Nat.zero_add _).symm.trans whole

/-- A holder finds the free list empty; then the only buffer comes back; then the count is
read, and the holder is refused. -/
theorem pool_refuses_retained :
    ¬ (Transducer.Throughout step (start 1)
        [.acquire, .run 0 .zero, .run 0 .zero, .run 0 .zero, .acquire,
          .run 1 .zero, .drop 0, .run 0 .zero, .run 1 .zero] Conserved ∧
      Transducer.AtEveryStep step (start 1)
        [.acquire, .run 0 .zero, .run 0 .zero, .run 0 .zero, .acquire,
          .run 1 .zero, .drop 0, .run 0 .zero, .run 1 .zero]
        fun now event =>
          now.refuses event = true → now.outstanding = now.pool.allocationLimit) := by
  rintro ⟨-, out⟩
  exact absurd out (by decide +kernel)

end PoolRun

end Csqtt
