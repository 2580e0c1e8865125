/-
Module: Csqtt.Proofs.RepairRestart
Purpose: A restart ends the session it is meant for: the two places in which one is lost,
  and that none is lost elsewhere.
Trusted boundary: none
Main exports: Watching, NoneLost, Lets, repair_restarts
-/
import Csqtt.Engine.RepairRun

namespace Csqtt

namespace RepairPoint

/-- About to wake all waiters of the worker. -/
def notifies (worker : Nat) : RepairPoint → Bool
  | .repairNotify _ other _ => other == worker
  | _ => false

/-- The worker's session is ready, and has still to note the generation to watch. -/
def captures (worker : Nat) : RepairPoint → Bool
  | .capture other _ => other == worker
  | _ => false

/-- The worker's session is about to wait, and goes by another generation. -/
def outdated (worker : Nat) (generation : U64) : RepairPoint → Bool
  | .register other _ observed => other == worker && observed != generation
  | _ => false

theorem announced_silent (point : RepairPoint) (worker : Nat) :
    point.notifies worker = false ∨ point.announced = point := by
  cases point with
  | parked other ready observed calls => exact Or.inl rfl
  | _ => exact Or.inr rfl

theorem finished_silent (point : RepairPoint) (worker : Nat) :
    point.notifies worker = false ∨ point.finished = point := by
  cases point with
  | check other ready observed => exact Or.inl rfl
  | parked other ready observed calls => exact Or.inl rfl
  | _ => exact Or.inr rfl

theorem eq_of_notifies {worker : Nat} {point : RepairPoint} (notifies : point.notifies worker) :
    ∃ sequence rest, point = .repairNotify sequence worker rest := by
  cases point with
  | repairNotify sequence other rest =>
      cases eq_of_beq notifies
      exact ⟨sequence, rest, rfl⟩
  | _ => cases notifies

end RepairPoint

/-- What a waiting session sees of a slot. -/
def RepairSlot.signals (self : RepairSlot) : U64 × Nat :=
  (self.restartGeneration, self.notifyCalls)

/-!
### One operation
-/

namespace RepairState

variable (self : RepairState)

def signals (worker : Nat) : Option (U64 × Nat) := (self.slot worker).map (·.signals)

theorem restartGeneration_eq (worker : Nat) :
    self.restartGeneration worker = ((self.signals worker).map Prod.fst).getD 0 := by
  rw [restartGeneration, signals, Option.map_map]
  rfl

theorem signals_update (worker other : Nat) (change : RepairSlot → RepairSlot) :
    (self.update worker change).signals other =
      if other = worker then (self.slot other).map fun slot => (change slot).signals
      else self.signals other := by
  rw [signals, slot_update]
  split
  · rw [Option.map_map]
    rfl
  · rfl

/-- Work on a slot that no waiting session sees. -/
theorem signals_update_unseen (worker other : Nat) {change : RepairSlot → RepairSlot}
    (unseen : ∀ slot, (change slot).signals = slot.signals) :
    (self.update worker change).signals other = self.signals other := by
  rw [signals_update]
  split
  · simp only [unseen, signals]
  · rfl

/-- Only the two last operations of a repair are seen by the worker's sessions. -/
theorem perform_signals (point : RepairPoint) (worker : Nat) :
    (∃ sequence rest, point = .repairRestart sequence worker rest ∧
        (self.perform point).1.signals worker =
          (self.signals worker).map fun seen => (seen.1 + 1, seen.2)) ∨
      (point.notifies worker = true ∧
        (self.perform point).1.signals worker =
          (self.signals worker).map fun seen => (seen.1, seen.2 + 1)) ∨
      point.notifies worker = false ∧
        (self.perform point).1.signals worker = self.signals worker := by
  have unseen (other : Nat) (change : RepairSlot → RepairSlot)
      (apart : ∀ slot, (change slot).signals = slot.signals) :
      (self.update other change).signals worker = self.signals worker :=
    self.signals_update_unseen other worker apart
  cases point with
  | repairRestart sequence other rest =>
      by_cases same : worker = other
      · subst same
        refine Or.inl ⟨sequence, rest, rfl, ?_⟩
        rw [perform, signals_update, if_pos rfl, signals, Option.map_map]
        rfl
      · refine Or.inr (Or.inr ⟨rfl, ?_⟩)
        rw [perform, signals_update, if_neg same]
  | repairNotify sequence other rest =>
      by_cases same : worker = other
      · subst same
        refine Or.inr (Or.inl ⟨beq_self_eq_true worker, ?_⟩)
        rw [perform, signals_update, if_pos rfl, signals, Option.map_map]
        rfl
      · refine Or.inr (Or.inr ⟨beq_eq_false_iff_ne.mpr (Ne.symm same), ?_⟩)
        rw [perform, signals_update, if_neg same]
  | repairExchange sequence other current rest =>
      refine Or.inr (Or.inr ⟨rfl, ?_⟩)
      rw [perform]
      split
      · rfl
      · split
        · exact unseen other _ fun _ => rfl
        · rfl
  | repairCredential sequence other rest =>
      exact Or.inr (Or.inr ⟨rfl, unseen other _ fun _ => rfl⟩)
  | aliveMax sequence other rest => exact Or.inr (Or.inr ⟨rfl, unseen other _ fun _ => rfl⟩)
  | markStore other sequence => exact Or.inr (Or.inr ⟨rfl, unseen other _ fun _ => rfl⟩)
  | ended => exact Or.inr (Or.inr ⟨rfl, rfl⟩)
  | capture other ready => exact Or.inr (Or.inr ⟨rfl, rfl⟩)
  -- All other operations read, if the worker has a slot.
  | _ =>
      refine Or.inr (Or.inr ⟨rfl, ?_⟩)
      rw [perform]
      split
      · rfl
      · rfl

end RepairState

/-!
### Sessions that wait
-/

/-- What holds of a session at a point: it watches the generation in force when it became
ready, and if another is in force while it waits, it is woken or will be. -/
def Watching (repair : RepairState) (pending : Nat → Prop) : RepairPoint → Prop
  | .capture worker ready => repair.restartGeneration worker = ready
  | .check _ ready observed => observed = ready
  | .register worker ready observed =>
      observed = ready ∧ ∃ generation calls, repair.signals worker = some (generation, calls) ∧
        (generation = observed ∨ pending worker)
  | .parked worker ready observed seen =>
      observed = ready ∧ ∃ generation calls, repair.signals worker = some (generation, calls) ∧
        seen ≤ calls ∧ (generation = observed ∨ calls ≠ seen ∨ pending worker)
  | _ => True

theorem Watching.mono {repair : RepairState} {pending pending' : Nat → Prop}
    {point : RepairPoint} (watching : Watching repair pending point)
    (kept : ∀ worker, pending worker → pending' worker) : Watching repair pending' point := by
  cases point with
  | register worker ready observed =>
      obtain ⟨same, generation, calls, signals, known⟩ := watching
      exact ⟨same, generation, calls, signals, known.imp_right (kept worker)⟩
  | parked worker ready observed seen =>
      obtain ⟨same, generation, calls, signals, behind, known⟩ := watching
      exact ⟨same, generation, calls, signals, behind,
        known.imp_right (·.imp_right (kept worker))⟩
  | _ => exact watching

theorem Watching.announced {repair : RepairState} {pending : Nat → Prop} {point : RepairPoint}
    (watching : Watching repair pending point) : Watching repair pending point.announced := by
  cases point with
  | parked worker ready observed seen => exact watching.1
  | _ => exact watching

theorem Watching.finished {repair : RepairState} {pending : Nat → Prop} {point : RepairPoint}
    (watching : Watching repair pending point) : Watching repair pending point.finished := by
  cases point with
  | check worker ready observed => trivial
  | parked worker ready observed seen => trivial
  | _ => exact watching

section

variable {repair : RepairState} {pending : Nat → Prop}

theorem watching_repairNext (sequence : U64) (rest : List U16) :
    Watching repair pending (repairNext sequence rest) := by
  cases rest with
  | nil => trivial
  | cons worker rest => trivial

theorem watching_aliveNext (sequence : U64) (rest : List U16) :
    Watching repair pending (aliveNext sequence rest) := by
  cases rest with
  | nil => trivial
  | cons worker rest => trivial

theorem watching_ite {condition : Prop} [Decidable condition] {first second : RepairPoint}
    (one : Watching repair pending first) (other : Watching repair pending second) :
    Watching repair pending (if condition then first else second) := by
  split
  · exact one
  · exact other

end

namespace Repairing

/-- A wake-up of the worker's session is under way. -/
def Pending (self : Repairing) (worker : Nat) : Prop :=
  ∃ task ∈ self.tasks, task.point.notifies worker = true

/-- No session waits, with another generation in force than when it became ready, and no
wake-up to come. -/
def NoneLost (self : Repairing) : Prop :=
  ∀ task ∈ self.tasks, ∀ worker ready observed calls slot,
    task.point = .parked worker ready observed calls → self.repair.slot worker = some slot →
      slot.restartGeneration ≠ ready → slot.notifyCalls ≠ calls ∨ self.Pending worker

/-- A session that looks at the generation ends if another is in force than when it became
ready. -/
def EndsWhenWoken (self : Repairing) : Prop :=
  ∀ task ∈ self.tasks, ∀ worker ready observed slot,
    task.point = .check worker ready observed → self.repair.slot worker = some slot →
      slot.restartGeneration ≠ ready → (self.repair.perform task.point).2 = .ended

/-- A step that loses no restart. A restart is not counted while the worker's session is
between becoming ready and noting the generation. A wake-up, if no other is under way,
does not come while the worker's session, with another generation in force, is between
its look at the generation and its registration. -/
def lets (self : Repairing) : RepairEvent → Bool
  | .run index =>
      match self.tasks[index]? with
      | none => true
      | some current =>
          match current.point with
          | .repairRestart _ worker _ => self.tasks.all (!·.point.captures worker)
          | .repairNotify _ worker _ =>
              (self.tasks.eraseIdx index).any (·.point.notifies worker) ||
                self.tasks.all
                  (!·.point.outdated worker (self.repair.restartGeneration worker))
          | _ => true
  | _ => true

/-- All sessions watch. -/
def Sound (self : Repairing) : Prop :=
  ∀ task ∈ self.tasks, Watching self.repair self.Pending task.point

variable {self : Repairing} {index : Nat} {current : RepairTask}

theorem pending_moved (here : self.tasks[index]? = some current) {worker : Nat}
    {repair : RepairState} {point : RepairPoint} (pending : self.Pending worker)
    (silent : current.point.notifies worker = false) :
    (self.moved index current repair point).Pending worker := by
  apply Interleaving.exists_advance here pending
  intro notifies
  rw [silent] at notifies
  cases notifies

/-- The thread that moved says what it will do. -/
theorem pending_self (here : self.tasks[index]? = some current) {worker : Nat}
    {repair : RepairState} {point : RepairPoint} (notifies : point.notifies worker = true) :
    (self.moved index current repair point).Pending worker :=
  ⟨{ current with point := point },
    List.mem_of_getElem? (Interleaving.getElem?_advance_self here _ _), notifies⟩

theorem pending_other {worker : Nat} {repair : RepairState} {point : RepairPoint}
    (here : self.tasks[index]? = some current)
    (other : (self.tasks.eraseIdx index).any (·.point.notifies worker) = true) :
    (self.moved index current repair point).Pending worker := by
  obtain ⟨task, mem, notifies⟩ := List.any_eq_true.mp other
  refine ⟨task, ?_, notifies⟩
  apply (Interleaving.advance_perm here _ _).mem_iff.mpr
  exact List.mem_cons_of_mem _ (List.mem_append_left _ mem)

/-- A session that is not the one to move watches on. -/
theorem watching_other (here : self.tasks[index]? = some current)
    (lets : self.lets (.run index) = true) {task : RepairTask} (mem : task ∈ self.tasks)
    (watching : Watching self.repair self.Pending task.point) :
    Watching (self.repair.perform current.point).1
      (self.moved index current (self.repair.perform current.point).1
        (self.repair.perform current.point).2).Pending task.point := by
  have step := self.repair.perform_signals current.point
  simp only [Repairing.lets, here] at lets
  cases point : task.point with
  | capture worker ready =>
      rw [point] at watching
      simp only [Watching, RepairState.restartGeneration_eq] at watching ⊢
      rcases step worker with ⟨sequence, rest, same, -⟩ | ⟨-, seen⟩ | ⟨-, seen⟩
      · rw [same] at lets
        have apart := List.all_eq_true.mp lets task mem
        rw [point] at apart
        simp [RepairPoint.captures] at apart
      · rw [seen, Option.map_map]
        exact watching
      · rw [seen]
        exact watching
  | check worker ready observed =>
      rw [point] at watching
      exact watching
  | register worker ready observed =>
      rw [point] at watching
      obtain ⟨same, generation, calls, signals, known⟩ := watching
      rcases step worker with ⟨sequence, rest, restarts, seen⟩ | ⟨notifies, seen⟩ | ⟨silent, seen⟩
      · refine ⟨same, _, _, by rw [seen, signals]; rfl, Or.inr (pending_self here ?_)⟩
        rw [restarts]
        exact beq_self_eq_true worker
      · refine ⟨same, _, _, by rw [seen, signals]; rfl, ?_⟩
        obtain ⟨sequence, rest, leaves⟩ := RepairPoint.eq_of_notifies notifies
        rw [leaves] at lets
        rcases Bool.or_eq_true_iff.mp lets with other | all
        · exact Or.inr (pending_other here other)
        · have current := List.all_eq_true.mp all task mem
          rw [point, RepairState.restartGeneration_eq, signals] at current
          simp only [RepairPoint.outdated] at current
          exact Or.inl (eq_of_beq (by simpa using current)).symm
      · refine ⟨same, generation, calls, by rw [seen, signals], ?_⟩
        exact known.imp_right fun pending => pending_moved here pending silent
  | parked worker ready observed calls =>
      rw [point] at watching
      obtain ⟨same, generation, calls', signals, behind, known⟩ := watching
      rcases step worker with ⟨sequence, rest, restarts, seen⟩ | ⟨notifies, seen⟩ | ⟨silent, seen⟩
      · refine ⟨same, _, _, by rw [seen, signals]; rfl, behind, ?_⟩
        refine Or.inr (Or.inr (pending_self here ?_))
        rw [restarts]
        exact beq_self_eq_true worker
      · refine ⟨same, _, _, by rw [seen, signals]; rfl, Nat.le_succ_of_le behind, ?_⟩
        exact Or.inr (Or.inl (Nat.lt_succ_of_le behind).ne')
      · refine ⟨same, generation, calls', by rw [seen, signals], behind, ?_⟩
        exact known.imp_right (·.imp_right fun pending => pending_moved here pending silent)
  | _ => trivial

/-- The session that moves watches on. -/
theorem watching_perform (repair : RepairState) {pending pending' : Nat → Prop}
    (point : RepairPoint) (watching : Watching repair pending point)
    (kept : ∀ worker, point.notifies worker = false → pending worker → pending' worker) :
    Watching (repair.perform point).1 pending' (repair.perform point).2 := by
  cases point with
  | markLast worker =>
      rw [RepairState.perform]
      split
      · rfl
      · trivial
  | markStore worker sequence =>
      rw [RepairState.perform, Watching, RepairState.restartGeneration_eq,
        repair.signals_update_unseen worker worker, RepairState.restartGeneration_eq]
      exact fun _ => rfl
  | capture worker ready => exact watching
  | check worker ready observed =>
      rw [RepairState.perform]
      split
      · exact watching
      · next slot found =>
          split
          · trivial
          · next same =>
              refine ⟨watching, slot.restartGeneration, slot.notifyCalls, ?_, Or.inl ?_⟩
              · rw [RepairState.signals, found]
                rfl
              · exact not_not.mp same
  | register worker ready observed =>
      obtain ⟨same, generation, calls, signals, known⟩ := watching
      rw [RepairState.perform]
      split
      · exact ⟨same, generation, calls, signals, known.imp_right (kept worker rfl)⟩
      · next slot found =>
          rw [RepairState.signals, found] at signals
          cases signals
          refine ⟨same, _, _, by rw [RepairState.signals, found]; rfl, Nat.le_refl _, ?_⟩
          exact known.imp_right fun pending => Or.inr (kept worker rfl pending)
  | parked worker ready observed calls =>
      obtain ⟨same, generation, calls', signals, behind, known⟩ := watching
      rw [RepairState.perform]
      split
      · exact ⟨same, generation, calls', signals, behind,
          known.imp_right (·.imp_right (kept worker rfl))⟩
      · split
        · exact same
        · exact ⟨same, generation, calls', signals, behind,
            known.imp_right (·.imp_right (kept worker rfl))⟩
  | ended => trivial
  | repairLast sequence worker rest =>
      rw [RepairState.perform]
      split
      · exact watching_repairNext sequence rest
      · exact watching_ite (watching_repairNext sequence rest) trivial
  | repairExchange sequence worker known rest =>
      rw [RepairState.perform]
      split
      · exact watching_repairNext sequence rest
      · split
        · exact watching_ite trivial trivial
        · exact watching_ite (watching_repairNext sequence rest) trivial
  | repairReady sequence worker previous rest =>
      rw [RepairState.perform]
      split
      · exact watching_repairNext sequence rest
      · exact watching_ite trivial trivial
  | repairCredential sequence worker rest => trivial
  | repairRestart sequence worker rest => trivial
  | repairNotify sequence worker rest => exact watching_repairNext sequence rest
  | aliveMax sequence worker rest => exact watching_aliveNext sequence rest

theorem Sound.run (sound : self.Sound) (here : self.tasks[index]? = some current)
    (lets : self.lets (.run index) = true) :
    (self.moved index current (self.repair.perform current.point).1
      (self.repair.perform current.point).2).Sound := by
  apply Interleaving.forall_advance
  · intro task mem
    have within := List.mem_of_mem_eraseIdx mem
    exact watching_other here lets within (sound task within)
  · apply watching_perform _ _ (sound current (List.mem_of_getElem? here))
    exact fun worker silent pending => pending_moved here pending silent
  · exact fun task mem => absurd mem List.not_mem_nil

/-- Another branch of the loop changes nothing for anybody else. -/
theorem Sound.turned (sound : self.Sound) (here : self.tasks[index]? = some current)
    {point : RepairPoint} (watching : Watching self.repair self.Pending point)
    (silent : ∀ worker, current.point.notifies worker = false ∨ point = current.point) :
    (self.moved index current self.repair point).Sound := by
  have kept (worker : Nat) (pending : self.Pending worker) :
      (self.moved index current self.repair point).Pending worker := by
    rcases silent worker with silent | same
    · exact pending_moved here pending silent
    · apply Interleaving.exists_advance here pending
      intro notifies
      exact Or.inl (same ▸ notifies)
  apply Interleaving.forall_advance
  · intro task mem
    exact (sound task (List.mem_of_mem_eraseIdx mem)).mono kept
  · exact watching.mono kept
  · exact fun task mem => absurd mem List.not_mem_nil

theorem Sound.step (sound : self.Sound) (event : RepairEvent) (lets : self.lets event = true) :
    (self.step event).1.Sound := by
  cases event with
  | begin operation =>
      intro task mem
      have kept (worker : Nat) (pending : self.Pending worker) :
          (self.step (.begin operation)).1.Pending worker := by
        obtain ⟨other, mem, notifies⟩ := pending
        exact ⟨other, List.mem_append_left _ mem, notifies⟩
      rcases List.mem_append.mp mem with old | new
      · exact (sound task old).mono kept
      · rw [List.mem_singleton.mp new]
        cases operation with
        | repair command => exact watching_repairNext _ _
        | alive command => exact watching_aliveNext _ _
        | session worker => trivial
  | run index =>
      rw [Repairing.step]
      split
      · exact sound
      · next current here => exact sound.run here lets
  | announce index =>
      rw [Repairing.step]
      split
      · exact sound
      · next current here =>
          have watching := sound current (List.mem_of_getElem? here)
          exact sound.turned here watching.announced fun _ => current.point.announced_silent _
  | finish index =>
      rw [Repairing.step]
      split
      · exact sound
      · next current here =>
          have watching := sound current (List.mem_of_getElem? here)
          exact sound.turned here watching.finished fun _ => current.point.finished_silent _

theorem Sound.noneLost (sound : self.Sound) : self.NoneLost := by
  intro task mem worker ready observed calls slot point found moved
  have watching := sound task mem
  rw [point] at watching
  obtain ⟨rfl, generation, calls', signals, -, known⟩ := watching
  rw [RepairState.signals, found] at signals
  cases signals
  exact known.resolve_left moved

theorem Sound.endsWhenWoken (sound : self.Sound) : self.EndsWhenWoken := by
  intro task mem worker ready observed slot point found moved
  have watching := sound task mem
  rw [point] at watching ⊢
  have same : observed = ready := watching
  rw [RepairState.perform, found]
  exact if_pos (same ▸ moved)

/-- In every run whose steps all let restarts through, none is lost. -/
theorem repair_restarts (desiredCount : Nat) (events : List RepairEvent)
    (lets : Transducer.AtEveryStep step (start desiredCount) events
      fun self event => self.lets event = true) :
    Transducer.Throughout step (start desiredCount) events
      fun self => self.NoneLost ∧ self.EndsWhenWoken := by
  intro consumed within
  have sound : (Transducer.run step (start desiredCount) consumed).1.Sound :=
    Transducer.invariant_of_atEveryStep step (fun self event sound lets => sound.step event lets)
      (fun task mem => absurd mem List.not_mem_nil) (lets.of_prefix within)
  exact ⟨sound.noneLost, sound.endsWhenWoken⟩

/-- Some session waits for nothing. -/
def stranded (self : Repairing) : Bool :=
  self.tasks.any fun task =>
    match task.point with
    | .parked worker ready _ calls =>
        (self.repair.signals worker).any (fun seen => seen.1 != ready && seen.2 == calls) &&
          self.tasks.all (!·.point.notifies worker)
    | _ => false

theorem not_noneLost (stranded : self.stranded = true) : ¬ self.NoneLost := by
  intro noneLost
  obtain ⟨task, mem, stuck⟩ := List.any_eq_true.mp stranded
  cases point : task.point with
  | parked worker ready observed calls =>
      rw [point] at stuck
      obtain ⟨seen, silent⟩ := Bool.and_eq_true_iff.mp stuck
      obtain ⟨_, signals, known⟩ := (Option.any_eq_true _ _).mp seen
      obtain ⟨slot, found, rfl⟩ := Option.map_eq_some_iff.mp signals
      obtain ⟨moved, asleep⟩ := Bool.and_eq_true_iff.mp known
      rcases noneLost task mem worker ready observed calls slot point found (bne_iff_ne.mp moved)
        with woken | ⟨other, within, notifies⟩
      · exact woken (eq_of_beq asleep)
      · have quiet := List.all_eq_true.mp silent other within
        rw [notifies] at quiet
        cases quiet
  | _ =>
      rw [point] at stuck
      cases stuck

/-- A repair of the first worker. -/
def firstRepair : StreamRepairCommand where
  sequence := 1
  desiredCount := 9
  workerIds := [1]
  numbered := by decide

/-- The session waits, the repair comes, and the session ends. -/
theorem repair_restarts_waiting :
    Transducer.Throughout step (start 9)
      [.begin (.session 1), .run 0, .run 0, .run 0, .run 0, .run 0,
        .begin (.repair firstRepair), .run 1, .run 1, .run 1, .run 1, .run 0, .run 0]
      fun self => self.NoneLost ∧ self.EndsWhenWoken :=
  repair_restarts 9 _ (by decide +kernel)

/-- The repair comes whole between the session's look at the generation and its
registration; or it is counted between the session's becoming ready and its note of the
generation to watch, and wakes it in vain. In the end the session waits. -/
theorem repair_lost :
    ¬ Transducer.Throughout step (start 9)
        [.begin (.session 1), .run 0, .run 0, .run 0, .run 0,
          .begin (.repair firstRepair), .run 1, .run 1, .run 1, .run 1, .run 0] NoneLost ∧
      ¬ Transducer.Throughout step (start 9)
        [.begin (.session 1), .run 0, .run 0,
          .begin (.repair firstRepair), .run 1, .run 1, .run 1, .run 0, .run 0, .run 0,
          .run 1, .run 0, .run 0, .run 0] NoneLost := by
  constructor
  · exact fun throughout => not_noneLost (by decide +kernel) (throughout _ (List.prefix_refl _))
  · exact fun throughout => not_noneLost (by decide +kernel) (throughout _ (List.prefix_refl _))

end Repairing

end Csqtt
