/-
Module: Csqtt.Proofs.DeferredHeal
Purpose: A recycle put off until the network is back: when the lift of the pause is
  followed by a repair, and the three ways in which the guard forgets it.
Trusted boundary: none
Main exports: repairs, LiftsDeferred, DeferredRepaired, keepsRepair, deferred_heal_repaired
-/
import Csqtt.Proofs.RebindWatch
import Csqtt.Proofs.RecycleExclusion

namespace Csqtt

namespace Point

/-- On the way to a repair, with no rebind in flight to wait for. -/
def repairs : Point → Bool
  | .go (.heal _) _ => true
  | .heal _ => true
  | .healWithinGap _ inFlight => !inFlight
  | .handover _ => true
  | .requestRecycle _ => true
  | _ => false

/-- A lift of the pause by a probe that found nothing put off. -/
def overlooks : Point → Bool
  | .resumeFromPause _ (.go (.watchSoftResume _) _) => true
  | _ => false

/-- A lift of the pause that no repair follows, for no reason there is. -/
def strays : Point → Bool
  | .resumeFromPause source next =>
      source != .netback && !next.within repairs && !(resumeFromPause source next).overlooks
  | _ => false

end Point

theorem apart_strays : Point.Apart Point.strays := by
  constructor <;> intros <;> rfl

namespace Helper

variable {hooks : Hooks} {outside : Outside} {self : Helper} {point : Point}

/-- Every lift has its repair behind it, or is that of the probe that overlooked it. -/
theorem perform_strays
    (strays : (self.perform hooks outside point).2.within Point.strays = true) :
    point.within Point.strays = true := by
  by_cases common : point.common = true
  · exact within_of_common apart_strays common strays
  · cases point with
    | probeSucceeded gen source =>
        simp only [perform, DataPathGuard.probeSucceeded] at strays
        split at strays
        · cases strays
        · split at strays
          · simp [Point.within, Point.strays, Point.repairs] at strays
          · simp [Point.within, Point.strays, Point.overlooks, afterSoftResume] at strays
    | onWake =>
        obtain ⟨_, _, next, result, rfl | ⟨-, rfl⟩ | rfl⟩ := self.guard.onWake_cases self.clock
        · simp [perform, locked, result, Point.within, Point.strays] at strays
        · simp [perform, locked, result, Point.within, Point.strays] at strays
        · simp [perform, locked, result, Point.within, Point.strays, afterSoftResume] at strays
    | _ =>
        first
        | exact absurd rfl common
        | simp [perform, locked, Point.within, Point.strays, Point.repairs, DataPathGuard.netlost,
            DataPathGuard.heal, DataPathGuard.recycled, DataPathGuard.watchSoftResume, onHandover,
            apply_ite (Point.within Point.strays)] at strays

/-- A goroutine on its way to a repair goes on, starts the one that does, or decides. -/
theorem perform_repairs (hooks : Hooks) (outside : Outside)
    (repairs : point.within Point.repairs = true)
    (staying : self.guard.exiting = false) (idle : self.guard.rebindInFlight = false) :
    (self.perform hooks outside point).2.within Point.repairs = true ∨
      (∃ call next, point = .go call next ∧ call.point.within Point.repairs = true) ∨
      (∃ source, point = .handover source) ∨ ∃ reason, point = .requestRecycle reason := by
  cases point with
  | handover source => exact Or.inr (Or.inr (Or.inl ⟨source, rfl⟩))
  | requestRecycle reason => exact Or.inr (Or.inr (Or.inr ⟨reason, rfl⟩))
  | go call next =>
      rw [Point.within, Bool.or_eq_true] at repairs
      rcases repairs with here | behind
      · right
        left
        cases call with
        | heal reason => exact ⟨_, next, rfl, rfl⟩
        | _ => cases here
      · exact Or.inl behind
  | asleep wakeUp next =>
      have behind : next.within Point.repairs = true := repairs
      left
      rw [perform]
      split
      · exact behind
      · exact Bool.or_eq_true _ _ ▸ Or.inr behind
  | applyEnginePause value next => exact Or.inl repairs
  | finishRebind gen next => exact Or.inl repairs
  | heal reason =>
      left
      simp [perform, DataPathGuard.heal, staying, idle, onHandover, Point.within, Point.repairs,
        apply_ite (Point.within Point.repairs)]
  | healWithinGap reason inFlight =>
      have settled : inFlight = false := by simpa [Point.within, Point.repairs] using repairs
      left
      simp [perform, settled, Point.within, Point.repairs]
  | resumeFromPause source next =>
      have behind : next.within Point.repairs = true := repairs
      left
      rcases self.guard.resumeFromPause_cases self.clock source next with
        ⟨-, result⟩ | ⟨-, result⟩
      · rwa [perform, locked, result]
      · rw [perform, locked, result]
        change (self.guard.afterPause source next).within Point.repairs = true
        rw [DataPathGuard.afterPause]
        split
        · exact behind
        · split
          · rw [Point.within, behind, Bool.or_true]
          · rw [afterSoftResume, Point.within, behind, Bool.or_true]
  | _ => cases repairs

end Helper

theorem GuardCall.strays (call : GuardCall) : call.point.within Point.strays = false := by
  cases call <;> rfl

theorem GuardOperation.strays (operation : GuardOperation) :
    operation.point.within Point.strays = false := by
  cases operation with
  | host event => cases event <;> rfl
  | _ => rfl

/-- Nothing is in flight, and the guard is not on its way out. -/
structure DataPathGuard.Still (guard : DataPathGuard) : Prop where
  steady : guard.recycling = false
  idle : guard.rebindInFlight = false
  staying : guard.exiting = false

/-- A still guard stays so until something begins. -/
theorem GuardWritten.still {now : Nat} {before after : DataPathGuard} {point : Point}
    (written : GuardWritten now before point after) (still : before.Still)
    (beyond : point.inSection = false) :
    (after.Still ∧ after.rebindGen = before.rebindGen) ∨ before.rebindGen < after.rebindGen ∨
      after.recycling = true ∨ after.exiting = true := by
  cases written with
  | remembering staying recycling => cases still.steady.symm.trans recycling
  | rebound => exact Or.inr (Or.inl (Nat.lt_succ_self _))
  | finished => exact Or.inl ⟨⟨still.steady, rfl, still.staying⟩, rfl⟩
  | exhausted => exact Or.inr (Or.inr (Or.inr rfl))
  | recycling => exact Or.inr (Or.inr (Or.inl rfl))
  | tunIPChanged => cases beyond
  | recycled => cases beyond
  | failed => cases beyond
  | _ => exact Or.inl ⟨⟨still.steady, still.idle, still.staying⟩, rfl⟩

/-- What is done after a pause with something put off, unless a probe overlooked it. -/
theorem DataPathGuard.afterPause_repairs {guard : DataPathGuard} {source : Reason} {next : Point}
    (pending : guard.pendingRecycle = true)
    (keeps : (Point.resumeFromPause source next).within Point.strays = false)
    (looks : (Point.resumeFromPause source next).overlooks = false) :
    (guard.afterPause source next).within Point.repairs = true := by
  rw [afterPause]
  split
  · next other =>
      by_contra none
      simp [Point.within, Point.strays, looks, other, none] at keeps
  · simp [Point.within, Point.repairs]

namespace Guarding

variable {hooks : Hooks}

/-- The goroutine lifts a pause with a recycle put off. -/
structure LiftsDeferred (state : Guarding) (index : Nat) (goroutine : Goroutine) : Prop where
  here : state.goroutines[index]? = some goroutine
  lifts : ∃ source next, goroutine.point = .resumeFromPause source next
  paused : state.guard.paused = true
  pending : state.guard.pendingRecycle = true

/-- The goroutines of the operation, however they were started, are done. -/
def Finished (operation : Nat) (state : Guarding) : Prop :=
  ∀ goroutine ∈ state.goroutines, goroutine.tag.operation = operation → goroutine.point = .ended

/-- A rebind in somebody's hands, or a recycle. -/
def InFlight (state : Guarding) : Prop :=
  (state.guard.rebindInFlight = true ∧
    ∃ goroutine ∈ state.goroutines, goroutine.point.serves state.guard.rebindGen = true) ∨
  (state.guard.recycling = true ∧
    ∃ goroutine ∈ state.goroutines, goroutine.point.inSection = true)

/-- A rebind or a recycle was begun since, or the guard is exiting. -/
def Begun (lifted state : Guarding) : Prop :=
  lifted.guard.rebindGen < state.guard.rebindGen ∨ lifted.recycles < state.recycles ∨
    state.guard.exiting = true

/-- What has come of a recycle put off, some events after the lift: something was begun,
or put off again. -/
def Repaired (hooks : Hooks) (lifted : Guarding) (later : List GuardEvent) : Prop :=
  lifted.Begun (Transducer.run (step hooks) lifted later).1 ∨
    ∃ consumed, consumed <+: later ∧
      (Transducer.run (step hooks) lifted consumed).1.guard.pendingRecycle = true

/-- The step gives the operation's repair up with nothing begun since the lift: a rebind
or a recycle is too close to the last one. -/
def dropsRepair (lifted : Guarding) (operation : Nat) (state : Guarding) : GuardEvent → Bool
  | .run index _ =>
      state.guard.rebindGen == lifted.guard.rebindGen && state.recycles == lifted.recycles &&
        match state.goroutines[index]? with
        | some ⟨.requestRecycle _, tag⟩ =>
            tag.operation == operation && !state.guard.paused &&
              recent state.guard.lastRecycle state.helper.clock dataPathRecycleMinGap
        | some ⟨.handover _, tag⟩ =>
            tag.operation == operation &&
              recent state.guard.lastRebind state.helper.clock dataPathRebindMinGap
        | _ => false
  | _ => false

/-- Nothing is begun yet, and a goroutine of the operation is on its way to a repair. -/
structure Waiting (lifted : Guarding) (operation : Nat) (state : Guarding) : Prop where
  rebindGen : state.guard.rebindGen = lifted.guard.rebindGen
  recycles : state.recycles = lifted.recycles
  still : state.guard.Still
  repairs : ∃ goroutine ∈ state.goroutines,
    goroutine.tag.operation = operation ∧ goroutine.point.within Point.repairs = true

/-- No lift strays in any state reached. -/
def Straight (state : Guarding) : Prop :=
  ∀ goroutine ∈ state.goroutines, goroutine.point.within Point.strays = false

theorem straight_step (state : Guarding) (event : GuardEvent) (straight : state.Straight) :
    (step hooks state event).1.Straight := by
  apply step_keeps _ _ _ state event straight
  · exact fun _ _ _ _ straight => straight
  · intro state operation straight goroutine mem
    rcases List.mem_append.mp mem with old | new
    · exact straight goroutine old
    · rw [List.mem_singleton.mp new]
      exact operation.strays
  · intro state outside index current here straight
    apply Interleaving.forall_advance
    · intro other mem
      exact straight other (List.mem_of_mem_eraseIdx mem)
    · apply Bool.of_not_eq_true
      intro strays
      have before := straight current (List.mem_of_getElem? here)
      rw [Helper.perform_strays strays] at before
      cases before
    · intro child mem
      obtain ⟨call, next, -, rfl⟩ := mem_started mem
      exact call.strays

theorem straight_reached (tunIP : String) (clock : Nat) (events : List GuardEvent) :
    (reached hooks tunIP clock events).Straight :=
  Transducer.run_invariant _ straight_step _ _ nofun

theorem step_recycles_le (state : Guarding) (event : GuardEvent) :
    state.recycles ≤ (step hooks state event).1.recycles := by
  rw [step_recycles]
  split
  · exact Nat.le_succ _
  · exact le_rfl

/-- What was begun stays begun. -/
theorem begun_step {lifted state : Guarding} (begun : lifted.Begun state) (event : GuardEvent) :
    lifted.Begun (step hooks state event).1 := by
  rcases begun with counted | recycled | exiting
  · exact Or.inl (counted.trans_le (step_rebindGen_le hooks state event))
  · exact Or.inr (Or.inl (recycled.trans_le (step_recycles_le state event)))
  · exact Or.inr (Or.inr (step_exiting exiting event))

/-- A decision for the operation's repair begins it, puts it off or gives it up. -/
theorem decided_ran {lifted state : Guarding} {operation : Nat}
    (waiting : lifted.Waiting operation state) {outside : Outside} {index : Nat}
    {current : Goroutine} (here : state.goroutines[index]? = some current)
    (own : current.tag.operation = operation)
    (decides : (∃ source, current.point = .handover source) ∨
      ∃ reason, current.point = .requestRecycle reason)
    (kept : dropsRepair lifted operation state (.run index outside) = false) :
    lifted.Begun (state.ran hooks outside index current) ∨
      (state.ran hooks outside index current).guard.pendingRecycle = true := by
  obtain ⟨point, tag⟩ := current
  rcases decides with ⟨source, rfl⟩ | ⟨reason, rfl⟩
  · rcases state.guard.handover_cases state.helper.clock source with
      ⟨exiting, -⟩ | ⟨-, recycling, -⟩ | ⟨-, -, close, -⟩ | ⟨-, -, -, result⟩
    · cases waiting.still.staying.symm.trans exiting
    · cases waiting.still.steady.symm.trans recycling
    · simp [dropsRepair, here, waiting.rebindGen, waiting.recycles, close] at kept
      exact absurd own kept
    · left
      left
      rw [ran_guard, ← waiting.rebindGen]
      exact (Nat.lt_succ_self _).trans_eq (congrArg (·.1.rebindGen) result).symm
  · rcases state.guard.requestRecycle_cases state.helper.clock reason with
      ⟨exiting, -⟩ | ⟨-, -, result⟩ | ⟨-, active, recycling | close, -⟩ | ⟨-, result⟩ |
        ⟨may, result⟩
    · cases waiting.still.staying.symm.trans exiting
    · exact Or.inr (congrArg (·.1.pendingRecycle) result)
    · cases waiting.still.steady.symm.trans recycling
    · simp [dropsRepair, here, waiting.rebindGen, waiting.recycles, active, close] at kept
      exact absurd own kept
    · exact Or.inl (Or.inr (Or.inr (congrArg (·.1.exiting) result)))
    · left
      right
      left
      have begins : (state.ran hooks outside index ⟨.requestRecycle reason, tag⟩).guard.recycling =
          true := congrArg (·.1.recycling) result
      rw [ran_recycles, waiting.still.steady, begins, ← waiting.recycles]
      exact Nat.lt_succ_self _

/-- One more step leaves a goroutine of the operation on its way, begins something or
puts it off. -/
theorem waiting_ran {lifted state : Guarding} {operation : Nat}
    (waiting : lifted.Waiting operation state) (exclusive : state.Exclusive) {outside : Outside}
    {index : Nat} {current : Goroutine} (here : state.goroutines[index]? = some current)
    (kept : dropsRepair lifted operation state (.run index outside) = false) :
    lifted.Waiting operation (state.ran hooks outside index current) ∨
      lifted.Begun (state.ran hooks outside index current) ∨
      (state.ran hooks outside index current).guard.pendingRecycle = true := by
  by_cases decides : current.tag.operation = operation ∧
      ((∃ source, current.point = .handover source) ∨
        ∃ reason, current.point = .requestRecycle reason)
  · exact Or.inr (decided_ran waiting here decides.1 decides.2 kept)
  · have beyond : current.point.inSection = false := by
      apply Bool.of_not_eq_true
      intro inside
      cases waiting.still.steady.symm.trans (exclusive.recycling here inside)
    rcases (written_ran hooks state outside index current).still waiting.still beyond
      with ⟨still, same⟩ | counted | begins | exiting
    · left
      refine
        { rebindGen := same.trans waiting.rebindGen
          recycles := ?_
          still := still
          repairs := ?_ }
      · rw [ran_recycles, still.steady, Bool.and_false]
        exact waiting.recycles
      · apply Interleaving.exists_advance here waiting.repairs
        rintro ⟨own, repairs⟩
        rcases Helper.perform_repairs hooks outside repairs
            waiting.still.staying waiting.still.idle with on | ⟨call, next, going, child⟩ | decision
        · exact Or.inl ⟨own, on⟩
        · right
          rw [started, going]
          exact ⟨_, List.mem_singleton_self _, own, child⟩
        · exact absurd ⟨own, decision⟩ decides
    · exact Or.inr (Or.inl (Or.inl (waiting.rebindGen ▸ counted)))
    · right
      left
      right
      left
      rw [ran_recycles, waiting.still.steady, begins, ← waiting.recycles]
      exact Nat.lt_succ_self _
    · exact Or.inr (Or.inl (Or.inr (Or.inr exiting)))

theorem waiting_step {lifted state : Guarding} {operation : Nat} {event : GuardEvent}
    (waiting : lifted.Waiting operation state) (exclusive : state.Exclusive)
    (kept : dropsRepair lifted operation state event = false) :
    lifted.Waiting operation (step hooks state event).1 ∨
      lifted.Begun (step hooks state event).1 ∨
      (step hooks state event).1.guard.pendingRecycle = true := by
  rcases step_cases hooks state event with
    ⟨index, outside, current, run, here, ran⟩ | ⟨same, new, goroutines⟩
  · rw [ran]
    exact waiting_ran waiting exclusive here (run ▸ kept)
  · left
    obtain ⟨goroutine, mem, repairs⟩ := waiting.repairs
    refine
      { rebindGen := same ▸ waiting.rebindGen
        recycles := ?_
        still := same ▸ waiting.still
        repairs := ⟨goroutine, goroutines ▸ List.mem_append_left _ mem, repairs⟩ }
    rw [step_recycles, same, Bool.not_and_self]
    exact waiting.recycles

/-- The lift of a pause with something put off leaves its goroutine on the way to the
repair. -/
theorem waiting_lift {state : Guarding} (straight : state.Straight) {index : Nat}
    {goroutine : Goroutine} (lifts : state.LiftsDeferred index goroutine)
    (still : state.guard.Still) (looks : goroutine.point.overlooks = false) (outside : Outside) :
    let lifted := state.ran hooks outside index goroutine
    lifted.Waiting goroutine.tag.operation lifted := by
  intro lifted
  obtain ⟨source, next, resumes⟩ := lifts.lifts
  have after : lifted.guard = state.guard.lifted state.helper.clock := by
    rcases state.guard.resumeFromPause_cases state.helper.clock source next with
      ⟨active, -⟩ | ⟨-, result⟩
    · cases active.symm.trans lifts.paused
    · rw [ran_guard, resumes]
      exact congrArg Prod.fst result
  refine
    { rebindGen := rfl
      recycles := rfl
      still := ?_
      repairs := ?_ }
  · rw [after]
    exact ⟨still.steady, still.idle, still.staying⟩
  · refine ⟨_, List.mem_of_getElem? (Interleaving.getElem?_advance_self lifts.here _ _), rfl, ?_⟩
    rw [moved_of_resumes resumes lifts.paused]
    have keeps := straight goroutine (List.mem_of_getElem? lifts.here)
    rw [resumes] at keeps looks
    exact DataPathGuard.afterPause_repairs lifts.pending keeps looks

/-- Whatever was waited for at the lift is begun or put off, or still on its way. -/
theorem waiting_run {lifted : Guarding} {operation : Nat} {tunIP : String} {clock : Nat}
    {consumed later : List GuardEvent} (same : reached hooks tunIP clock consumed = lifted)
    (waiting : lifted.Waiting operation lifted)
    (kept : Transducer.AtEveryStep (step hooks) lifted later
      fun state event => dropsRepair lifted operation state event = false) :
    lifted.Waiting operation (Transducer.run (step hooks) lifted later).1 ∨
      Repaired hooks lifted later := by
  induction later using List.reverseRecOn with
  | nil => exact Or.inl waiting
  | append_singleton later event inductionHypothesis =>
      obtain ⟨earlier, last⟩ := (Transducer.atEveryStep_concat (step hooks)).mp kept
      rw [Repaired, Transducer.run_concat]
      rcases inductionHypothesis earlier with waits | begun | ⟨before, within, off⟩
      · have exclusive : (Transducer.run (step hooks) lifted later).1.Exclusive := by
          rw [← same, ← reached_append]
          exact exclusive_reached hooks tunIP clock (consumed ++ later)
        rcases waiting_step waits exclusive last with still | begun | off
        · exact Or.inl still
        · exact Or.inr (Or.inl begun)
        · refine Or.inr (Or.inr ⟨_, List.prefix_refl _, ?_⟩)
          rw [Transducer.run_concat]
          exact off
      · exact Or.inr (Or.inl (begun_step begun event))
      · exact Or.inr (Or.inr ⟨before, within.trans (List.prefix_append _ _), off⟩)

/-- What is in flight is in somebody's hands; otherwise the guard is still, or exiting. -/
theorem inFlight_or_still (hooks : Hooks) (tunIP : String) (clock : Nat)
    (events : List GuardEvent) :
    let state := reached hooks tunIP clock events
    state.InFlight ∨ state.guard.exiting = true ∨ state.guard.Still := by
  intro state
  cases inFlight : state.guard.rebindInFlight with
  | true => exact Or.inl (Or.inl ⟨inFlight, served_reached tunIP clock events inFlight⟩)
  | false =>
      cases recycling : state.guard.recycling with
      | true =>
          have owned : state.goroutines.countP (·.point.inSection) = 1 :=
            (exclusive_reached hooks tunIP clock events).owned.trans (congrArg Bool.toNat recycling)
          refine Or.inl (Or.inr ⟨recycling, List.countP_pos_iff.mp ?_⟩)
          rw [owned]
          exact Nat.one_pos
      | false =>
          cases exiting : state.guard.exiting with
          | true => exact Or.inr (Or.inl rfl)
          | false => exact Or.inr (Or.inr ⟨recycling, inFlight, exiting⟩)

/-- Whenever a pause is lifted with a recycle put off, and the operation that lifted it is
done, a rebind or a recycle was in flight at the lift or was begun since, or one was put
off again, or the guard is exiting. -/
def DeferredRepaired (hooks : Hooks) (tunIP : String) (clock : Nat) (events : List GuardEvent) :
    Prop :=
  ∀ consumed index outside later goroutine, consumed ++ .run index outside :: later <+: events →
    let state := reached hooks tunIP clock consumed
    let lifted := (step hooks state (.run index outside)).1
    state.LiftsDeferred index goroutine →
    Finished goroutine.tag.operation (Transducer.run (step hooks) lifted later).1 →
      state.InFlight ∨ Repaired hooks lifted later

/-- A lift with a recycle put off and nothing in flight is not that of a probe that
overlooked it, and no step after it gives its operation's repair up. -/
def keepsRepair (hooks : Hooks) (state : Guarding) : List GuardEvent → Bool
  | .run index outside :: later =>
      match state.goroutines[index]? with
      | some ⟨.resumeFromPause source next, tag⟩ =>
          let lifted := (step hooks state (.run index outside)).1
          !state.guard.paused || !state.guard.pendingRecycle || state.guard.rebindInFlight ||
            state.guard.recycling ||
            !(Point.resumeFromPause source next).overlooks &&
              decide (Transducer.AtEveryStep (step hooks) lifted later
                fun state event => dropsRepair lifted tag.operation state event = false)
      | _ => true
  | _ => true

/-- The condition, read off at the lift. -/
theorem keepsRepair_lift {state : Guarding} {index : Nat} {outside : Outside}
    {goroutine : Goroutine} {later : List GuardEvent}
    (kept : keepsRepair hooks state (.run index outside :: later) = true)
    (lifts : state.LiftsDeferred index goroutine) (still : state.guard.Still) :
    let lifted := (step hooks state (.run index outside)).1
    goroutine.point.overlooks = false ∧
      Transducer.AtEveryStep (step hooks) lifted later
        fun state event => dropsRepair lifted goroutine.tag.operation state event = false := by
  obtain ⟨point, tag⟩ := goroutine
  obtain ⟨source, next, rfl⟩ := lifts.lifts
  simpa [keepsRepair, lifts.here, lifts.paused, lifts.pending, still.idle, still.steady]
    using kept

/-- In a run whose lifts all keep their repair, every recycle put off is repaired. -/
theorem deferred_heal_repaired {hooks : Hooks} {tunIP : String} {clock : Nat}
    {events : List GuardEvent}
    (kept : ∀ place < events.length,
      keepsRepair hooks (reached hooks tunIP clock (events.take place)) (events.drop place) =
        true) :
    DeferredRepaired hooks tunIP clock events := by
  intro consumed index outside later goroutine within state lifted lifts finished
  rcases inFlight_or_still hooks tunIP clock consumed with inFlight | exiting | still
  · exact Or.inl inFlight
  · exact Or.inr (Or.inl (Or.inr (Or.inr (exiting_run hooks (step_exiting exiting _) later))))
  · right
    obtain ⟨rest, rfl⟩ := within
    have here := kept consumed.length (by simp)
    rw [List.append_assoc, List.take_left, List.drop_left, List.cons_append] at here
    obtain ⟨looks, keeps⟩ := keepsRepair_lift here lifts still
    have waits : lifted.Waiting goroutine.tag.operation lifted := by
      have ran : lifted = state.ran hooks outside index goroutine := step_run lifts.here outside
      rw [ran]
      exact waiting_lift (straight_reached tunIP clock consumed) lifts still looks outside
    have same : reached hooks tunIP clock (consumed ++ [.run index outside]) = lifted :=
      reached_concat tunIP clock consumed _
    rcases waiting_run same waits (keeps.of_prefix (List.prefix_append later rest)) with
      waiting | repaired
    · -- All of the operation is done, and still a goroutine of it is on its way.
      obtain ⟨other, mem, own, repairs⟩ := waiting.repairs
      rw [finished other mem own] at repairs
      cases repairs
    · exact repaired

/-- Answers of an engine with a path. -/
def onePath : Outside := { nothing with activePaths := 1 }

/-- A handover is served and its watchdog finds a path a second later. Then the network
is lost, and a dial of before times out. -/
def servedThenLost : List GuardEvent :=
  [.begin (.host .handover), .run 0 nothing, .run 0 nothing, .run 0 nothing, .run 0 nothing,
    .run 1 nothing, .tick 1000, .run 1 nothing, .run 1 nothing, .run 1 nothing, .run 1 nothing,
    .run 1 onePath, .run 1 nothing, .begin (.host .netlost), .run 2 nothing, .run 2 nothing,
    .run 2 nothing, .begin (.dialResult .timeout), .run 4 nothing, .begin (.host .handover)]

/-- The second handover lifts the pause and is then taken for the first. -/
theorem servedThenLost_forgotten :
    ¬ DeferredRepaired .production "10.8.0.2" 0
      (servedThenLost ++ [.run 5 nothing, .run 5 nothing, .run 5 nothing]) := by
  intro repaired
  have here : (reached .production "10.8.0.2" 0 servedThenLost).goroutines[5]? =
      some { point := onHandover .handover, tag := ⟨3, some 3⟩ } := by decide +kernel
  have lifts : (reached .production "10.8.0.2" 0 servedThenLost).LiftsDeferred 5 _ :=
    { here := here
      lifts := ⟨_, _, rfl⟩
      paused := by decide +kernel
      pending := by decide +kernel }
  have outcome := repaired servedThenLost 5 nothing [.run 5 nothing, .run 5 nothing] _
    (List.prefix_refl _) lifts (by unfold Finished; decide +kernel)
  rcases outcome with (⟨inFlight, -⟩ | ⟨recycling, -⟩) | begun | ⟨consumed, within, off⟩
  · revert inFlight
    decide +kernel
  · revert recycling
    decide +kernel
  · revert begun
    unfold Begun
    decide +kernel
  · have shorter : ∀ taken ∈ [GuardEvent.run 5 nothing, .run 5 nothing].inits,
        (Transducer.run (step .production)
          (step .production (reached .production "10.8.0.2" 0 servedThenLost)
            (.run 5 nothing)).1 taken).1.guard.pendingRecycle = false := by decide +kernel
    rw [shorter consumed ((List.mem_inits consumed _).mpr within)] at off
    cases off

/-- A dial times out offline, and the network comes back: the heal leads to a rebind. -/
theorem deferred_heal_repaired_netback :
    DeferredRepaired .production "10.8.0.2" 0
      [.begin (.host .netlost), .run 0 nothing, .begin (.dialResult .timeout), .run 1 nothing,
        .begin (.host .netback), .run 2 nothing, .run 2 nothing, .run 2 nothing, .run 3 nothing,
        .run 3 nothing, .run 3 nothing] :=
  deferred_heal_repaired (by decide +kernel)

end Guarding

end Csqtt
