/-
Module: Csqtt.Proofs.RecycleExclusion
Purpose: The recycle of the engine: one at a time, kept apart, counted, and never
  begun by a guard that is paused or on its way out.
Trusted boundary: none
Main exports: inSection, perform_section, Exclusive, recycle_exclusion
-/
import Csqtt.Proofs.GuardSteps

namespace Csqtt

/-- Between the decision for a recycle and its end. -/
def Point.recycles : Point → Bool
  | .stopEngine _ _ => true
  | .startEngine _ _ => true
  | .waitReady _ _ => true
  | .readTunIP _ _ => true
  | .tunIPChanged => true
  | .rebuildTun _ _ => true
  | .storeTunIP _ _ => true
  | .readPort _ => true
  | .recycled => true
  | .failRecycle _ => true
  | _ => false

def Point.inSection (point : Point) : Bool := point.within Point.recycles

theorem GuardCall.inSection (call : GuardCall) : call.point.inSection = false := by
  cases call <;> rfl

theorem GuardOperation.inSection (operation : GuardOperation) :
    operation.point.inSection = false := by
  cases operation with
  | host event => cases event <;> rfl
  | _ => rfl

/-- A recycle asked for begins, or changes nothing that counts. -/
theorem requested_section (guard : DataPathGuard) (now : Nat) (reason : Reason) :
    (guard.requestRecycle now reason).2.inSection.toNat + guard.recycling.toNat =
      (guard.requestRecycle now reason).1.recycling.toNat := by
  rcases guard.requestRecycle_cases now reason with
    ⟨-, result⟩ | ⟨-, -, result⟩ | ⟨-, -, -, result⟩ | ⟨-, result⟩ | ⟨may, result⟩
  · simp [result, Point.inSection, Point.within, Point.recycles]
  · simp [result, Point.inSection, Point.within, Point.recycles]
  · simp [result, Point.inSection, Point.within, Point.recycles]
  · simp [result, Point.inSection, Point.within, Point.recycles]
  · simp [result, may.recycling, Point.inSection, Point.within, Point.recycles,
      DataPathGuard.recyclingFrom]

namespace Helper

variable (hooks : Hooks) (outside : Outside) (self : Helper)

/-- The flag goes up with a goroutine that enters the section and down with one that
leaves it. -/
theorem perform_section (point : Point)
    (owned : point.inSection = true → self.guard.recycling = true) :
    (self.perform hooks outside point).2.inSection.toNat + self.guard.recycling.toNat =
      point.inSection.toNat + (self.perform hooks outside point).1.guard.recycling.toNat := by
  cases point with
  | noteDialResult result =>
      obtain ⟨_, _, _, _, next, result, -, rfl | rfl⟩ :=
        self.guard.noteDialResult_cases self.clock result
      · simp [perform, locked, result, Point.inSection, Point.within, Point.recycles]
      · simp [perform, locked, result, Point.inSection, Point.within, Point.recycles]
  | onWake =>
      obtain ⟨_, _, next, result, rfl | ⟨-, rfl⟩ | rfl⟩ := self.guard.onWake_cases self.clock
      · simp [perform, locked, result, Point.inSection, Point.within, Point.recycles]
      · simp [perform, locked, result, Point.inSection, Point.within, Point.recycles]
      · simp [perform, locked, result, Point.inSection, Point.within, Point.recycles,
          afterSoftResume]
  | resumeFromPause source next =>
      rcases self.guard.resumeFromPause_cases self.clock source next with
        ⟨-, result⟩ | ⟨-, result⟩
      · simp [perform, locked, result, Point.inSection, Point.within, Point.recycles]
      · have rest := self.guard.within_afterPause Point.recycles source next
          fun _ => rfl
        simp [perform, locked, result, Point.inSection, Point.within, Point.recycles, rest,
          DataPathGuard.lifted]
  | handover source =>
      rcases self.guard.handover_cases self.clock source with
        ⟨-, result⟩ | ⟨-, -, result⟩ | ⟨-, -, -, result⟩ | ⟨-, -, -, result⟩
      · simp [perform, locked, result, Point.inSection, Point.within, Point.recycles]
      · simp [perform, locked, result, Point.inSection, Point.within, Point.recycles,
          DataPathGuard.remembering]
      · simp [perform, locked, result, Point.inSection, Point.within, Point.recycles]
      · simp [perform, locked, result, Point.inSection, Point.within, Point.recycles,
          DataPathGuard.rebound]
  | finishRebind gen next =>
      rcases self.guard.finishRebind_cases gen with ⟨-, result⟩ | ⟨-, result⟩
      · simp [perform, locked, result, Point.inSection, Point.within, Point.recycles]
      · simp [perform, locked, result, Point.inSection, Point.within, Point.recycles]
  | requestRecycle reason =>
      exact (requested_section self.guard self.clock reason).trans (Nat.zero_add _).symm
  | rebindTimeout gen source =>
      exact (requested_section self.guard self.clock _).trans (Nat.zero_add _).symm
  | startEngine reason wantIP =>
      rw [perform]
      split
      · rfl
      · rfl
  | tunIPChanged => simp [perform, locked, owned rfl, Point.inSection, Point.within,
      Point.recycles, DataPathGuard.tunIPChanged]
  | failRecycle reason =>
      rcases self.guard.failRecycle_cases reason with ⟨-, result⟩ | ⟨-, result⟩
      · simp [perform, locked, result, owned rfl, Point.inSection, Point.within, Point.recycles]
      · simp [perform, locked, result, owned rfl, Point.inSection, Point.within, Point.recycles]
  | recycled =>
      simp [perform, locked, owned rfl, Point.inSection, Point.within, Point.recycles,
        DataPathGuard.recycled, onHandover, apply_ite (Point.within Point.recycles)]
  -- All other points leave the flag and their place inside or outside alone.
  | _ =>
      simp [perform, locked, Point.inSection, Point.within, Point.recycles,
        DataPathGuard.netlost, DataPathGuard.heal, DataPathGuard.watchSoftResume,
        DataPathGuard.probeSucceeded, onHandover, afterSoftResume,
        apply_ite (Point.within Point.recycles)]

end Helper

/-- Recycles are not counted up, and set back only after a quiet while. An exit is not
taken back. -/
structure Quiet (now : Nat) (before after : DataPathGuard) : Prop where
  lastRecycle : after.lastRecycle = before.lastRecycle
  recycles : after.recycles = before.recycles ∨
    after.recycles = 0 ∧ recent before.lastRecycle now dataPathRecycleStable = false
  recycling : after.recycling = true → before.recycling = true
  exiting : before.exiting = true → after.exiting = true

theorem Quiet.recycles_le {now : Nat} {before after : DataPathGuard}
    (quiet : Quiet now before after) : after.recycles ≤ before.recycles := by
  rcases quiet.recycles with same | ⟨none, -⟩
  · exact same.le
  · exact none.trans_le (Nat.zero_le _)

/-- Only a decision for a recycle counts one. -/
theorem GuardWritten.quiet {now : Nat} {before after : DataPathGuard} {point : Point}
    (written : GuardWritten now before point after) :
    (before.MayRecycle now ∧ after = before.recyclingFrom now) ∨ Quiet now before after := by
  cases written with
  | recycling asks may => exact Or.inl ⟨may, rfl⟩
  | minor fewer => exact Or.inr ⟨rfl, fewer, id, id⟩
  | exhausted => exact Or.inr ⟨rfl, Or.inl rfl, id, fun _ => rfl⟩
  | tunIPChanged => exact Or.inr ⟨rfl, Or.inl rfl, nofun, fun _ => rfl⟩
  | recycled => exact Or.inr ⟨rfl, Or.inl rfl, nofun, id⟩
  | @failed reason =>
      right
      rcases before.failRecycle_cases reason with ⟨-, result⟩ | ⟨-, result⟩
      · exact result ▸ ⟨rfl, Or.inl rfl, nofun, id⟩
      · exact result ▸ ⟨rfl, Or.inl rfl, nofun, fun _ => rfl⟩
  | _ => exact Or.inr ⟨rfl, Or.inl rfl, id, id⟩

/-- Only a decision for a rebind counts one. -/
theorem GuardWritten.rebindGen {now : Nat} {before after : DataPathGuard} {point : Point}
    (written : GuardWritten now before point after) :
    after.rebindGen = before.rebindGen ∨ before.exiting = false := by
  cases written with
  | rebound staying => exact Or.inr staying
  | @failed reason =>
      rcases before.failRecycle_cases reason with ⟨-, result⟩ | ⟨-, result⟩
      · exact Or.inl (result ▸ rfl)
      · exact Or.inl (result ▸ rfl)
  | _ => exact Or.inl rfl

namespace Guarding

variable {hooks : Hooks}

/-- A goroutine in the section for each recycle in progress, and only so many counted. -/
structure Exclusive (state : Guarding) : Prop where
  owned : state.goroutines.countP (·.point.inSection) = state.guard.recycling.toNat
  bounded : state.guard.recycles ≤ dataPathMaxRecycles

theorem exclusive_start (tunIP : String) (clock : Nat) : (start tunIP clock).Exclusive where
  owned := rfl
  bounded := Nat.zero_le _

/-- A goroutine in the section holds the flag up. -/
theorem Exclusive.recycling {state : Guarding} (exclusive : state.Exclusive) {index : Nat}
    {current : Goroutine} (here : state.goroutines[index]? = some current)
    (inside : current.point.inSection = true) : state.guard.recycling = true := by
  have counted : 0 < state.goroutines.countP (·.point.inSection) :=
    List.countP_pos_iff.mpr ⟨current, List.mem_of_getElem? here, inside⟩
  rw [exclusive.owned] at counted
  cases recycling : state.guard.recycling with
  | true => rfl
  | false =>
      rw [recycling] at counted
      exact absurd counted (Nat.lt_irrefl 0)

theorem started_inSection (current : Goroutine) :
    (started current).countP (·.point.inSection) = 0 := by
  rw [List.countP_eq_zero]
  intro child mem
  obtain ⟨call, next, -, rfl⟩ := mem_started mem
  rw [call.inSection]
  exact Bool.false_ne_true

theorem exclusive_ran {state : Guarding} (exclusive : state.Exclusive) (outside : Outside)
    {index : Nat} {current : Goroutine} (here : state.goroutines[index]? = some current) :
    (state.ran hooks outside index current).Exclusive := by
  have flag := state.helper.perform_section hooks outside current.point
    (exclusive.recycling here)
  have counted := Interleaving.countP_advance (fun goroutine => goroutine.point.inSection) here
    (state.moved hooks outside current) (started current)
  rw [started_inSection, exclusive.owned, ← ran_goroutines] at counted
  constructor
  · apply Nat.add_right_cancel (m := current.point.inSection.toNat)
    rw [counted, Nat.add_zero, Nat.add_comm, Nat.add_comm _ current.point.inSection.toNat]
    exact flag
  · rcases (written_ran hooks state outside index current).quiet with ⟨may, began⟩ | quiet
    · exact (congrArg DataPathGuard.recycles began).trans_le may.left
    · exact quiet.recycles_le.trans exclusive.bounded

theorem exclusive_step (state : Guarding) (event : GuardEvent) (exclusive : state.Exclusive) :
    (step hooks state event).1.Exclusive := by
  apply step_keeps _ _ _ state event exclusive
  · intro state helper same _ exclusive
    exact
      { owned := exclusive.owned.trans (by rw [guard, guard, same])
        bounded := (congrArg DataPathGuard.recycles same).trans_le exclusive.bounded }
  · intro state operation exclusive
    refine { owned := ?_, bounded := exclusive.bounded }
    have outside : (state.beginning operation).point.inSection = false := operation.inSection
    rw [step, List.countP_append, exclusive.owned]
    simp [outside, guard]
  · intro state outside index current here exclusive
    exact exclusive_ran exclusive outside here

theorem exclusive_reached (hooks : Hooks) (tunIP : String) (clock : Nat)
    (events : List GuardEvent) :
    (reached hooks tunIP clock events).Exclusive :=
  Transducer.run_invariant _ exclusive_step _ _ (exclusive_start tunIP clock)

/-!
### When recycles begin
-/

/-- The step decides on a recycle. -/
def beginsRecycle (hooks : Hooks) (state : Guarding) (event : GuardEvent) : Bool :=
  !state.guard.recycling && (step hooks state event).1.guard.recycling

/-- The step decides on a rebind. -/
def beginsRebind (hooks : Hooks) (state : Guarding) (event : GuardEvent) : Bool :=
  state.guard.rebindGen != (step hooks state event).1.guard.rebindGen

/-- The step forgets the recycles made so far. -/
def forgetsRecycles (hooks : Hooks) (state : Guarding) (event : GuardEvent) : Bool :=
  (step hooks state event).1.guard.recycles < state.guard.recycles

/-- The times at which the recycles of a run began. -/
def recycleTimes (hooks : Hooks) (state : Guarding) (events : List GuardEvent) : List Nat :=
  Transducer.collect (step hooks)
    (fun state event => if beginsRecycle hooks state event then [state.helper.clock] else [])
    state events

theorem recycleTimes_concat (state : Guarding) (events : List GuardEvent) (event : GuardEvent) :
    recycleTimes hooks state (events ++ [event]) =
      recycleTimes hooks state events ++
        if beginsRecycle hooks (Transducer.run (step hooks) state events).1 event then
          [(Transducer.run (step hooks) state events).1.helper.clock]
        else [] :=
  Transducer.collect_concat _ _ _ _ _

/-- What one step does to what is counted: a decision with nothing against it, or
nothing that counts. -/
theorem step_quiet (hooks : Hooks) (state : Guarding) (event : GuardEvent) :
    (state.guard.MayRecycle state.helper.clock ∧
      (step hooks state event).1.guard = state.guard.recyclingFrom state.helper.clock) ∨
      Quiet state.helper.clock state.guard (step hooks state event).1.guard := by
  rcases step_cases hooks state event with ⟨index, outside, current, -, -, ran⟩ | ⟨same, -⟩
  · rw [ran]
    exact (written_ran hooks state outside index current).quiet
  · rw [same]
    exact Or.inr ⟨rfl, Or.inl rfl, id, id⟩

theorem mayRecycle_of_begins {state : Guarding} {event : GuardEvent}
    (begins : beginsRecycle hooks state event = true) :
    state.guard.MayRecycle state.helper.clock ∧
      (step hooks state event).1.guard = state.guard.recyclingFrom state.helper.clock := by
  rw [beginsRecycle, Bool.and_eq_true, Bool.not_eq_true'] at begins
  rcases step_quiet hooks state event with decided | quiet
  · exact decided
  · have before := quiet.recycling begins.2
    rw [begins.1] at before
    cases before

/-- A decision for a recycle lies a whole gap after the one before. -/
theorem apart_of_may {guard : DataPathGuard} {now last : Nat} (may : guard.MayRecycle now)
    (noted : guard.lastRecycle = some last) : last + dataPathRecycleMinGap ≤ now := by
  have apart := may.apart
  rw [noted] at apart
  exact le_of_not_recent apart (by decide)

/-- Every recycle so far began when the guard's own note says, or earlier. -/
theorem recycleTimes_noted (state : Guarding) (events : List GuardEvent) :
    ∀ time ∈ recycleTimes hooks state events,
      ∃ last, (Transducer.run (step hooks) state events).1.guard.lastRecycle = some last ∧
        time ≤ last := by
  induction events using List.reverseRecOn with
  | nil =>
      intro time mem
      cases mem
  | append_singleton events event inductionHypothesis =>
      intro time mem
      rw [Transducer.run_concat]
      rw [recycleTimes_concat] at mem
      rcases List.mem_append.mp mem with earlier | now
      · obtain ⟨last, noted, before⟩ := inductionHypothesis time earlier
        rcases step_quiet hooks (Transducer.run (step hooks) state events).1 event with
          ⟨may, began⟩ | quiet
        · have apart := apart_of_may may noted
          exact ⟨_, congrArg DataPathGuard.lastRecycle began, by omega⟩
        · exact ⟨last, quiet.lastRecycle.trans noted, before⟩
      · split at now
      -- The step itself begins one, and notes the time.
        · next begins =>
            rw [List.mem_singleton.mp now]
            exact ⟨_, congrArg DataPathGuard.lastRecycle (mayRecycle_of_begins begins).2, le_rfl⟩
        · cases now

/-- Any two recycles of a run are at least the gap apart. -/
theorem recycleTimes_apart (state : Guarding) (events : List GuardEvent) :
    (recycleTimes hooks state events).Pairwise
      (fun earlier later => earlier + dataPathRecycleMinGap ≤ later) := by
  induction events using List.reverseRecOn with
  | nil => exact List.Pairwise.nil
  | append_singleton events event inductionHypothesis =>
      rw [recycleTimes_concat]
      split
      · next begins =>
          apply List.pairwise_append.mpr
          refine ⟨inductionHypothesis, List.pairwise_singleton _ _, ?_⟩
          intro earlier mem later now
          obtain ⟨last, noted, before⟩ := recycleTimes_noted state events earlier mem
          have apart := apart_of_may (mayRecycle_of_begins begins).1 noted
          rw [List.mem_singleton.mp now]
          omega
      · rw [List.append_nil]
        exact inductionHypothesis

/-- As long as the count is not set back, it goes up with every recycle. -/
theorem length_recycleTimes (state : Guarding) (events : List GuardEvent)
    (kept : Transducer.AtEveryStep (step hooks) state events
      fun state event => forgetsRecycles hooks state event = false) :
    (recycleTimes hooks state events).length + state.guard.recycles ≤
      (Transducer.run (step hooks) state events).1.guard.recycles := by
  induction events using List.reverseRecOn with
  | nil => exact (Nat.zero_add _).le
  | append_singleton events event inductionHypothesis =>
      obtain ⟨earlier, last⟩ := (Transducer.atEveryStep_concat (step hooks)).mp kept
      have before := inductionHypothesis earlier
      rw [recycleTimes_concat, Transducer.run_concat]
      split
      · next begins =>
          have counted := congrArg DataPathGuard.recycles (mayRecycle_of_begins begins).2
          rw [List.length_append, counted]
          simp only [List.length_singleton, DataPathGuard.recyclingFrom]
          omega
      · rw [List.append_nil]
        exact before.trans (not_lt.mp (of_decide_eq_false last))

theorem step_exiting {state : Guarding} (exiting : state.guard.exiting = true)
    (event : GuardEvent) : (step hooks state event).1.guard.exiting = true := by
  rcases step_quiet hooks state event with ⟨may, -⟩ | quiet
  · exact absurd exiting (by rw [may.exiting]; exact Bool.false_ne_true)
  · exact quiet.exiting exiting

theorem exiting_run (hooks : Hooks) {state : Guarding} (exiting : state.guard.exiting = true)
    (events : List GuardEvent) :
    (Transducer.run (step hooks) state events).1.guard.exiting = true := by
  apply @Transducer.run_invariant _ _ _ (step hooks) (fun state => state.guard.exiting = true)
  · intro state event exiting
    exact step_exiting exiting event
  · exact exiting

theorem forgets_stable {state : Guarding} {event : GuardEvent}
    (forgets : forgetsRecycles hooks state event = true) :
    recent state.guard.lastRecycle state.helper.clock dataPathRecycleStable = false := by
  have fewer := of_decide_eq_true forgets
  rcases step_quiet hooks state event with ⟨-, began⟩ | quiet
  · rw [began] at fewer
    exact absurd fewer (not_lt.mpr (Nat.le_succ _))
  · rcases quiet.recycles with same | ⟨-, stable⟩
    · exact absurd same fewer.ne
    · exact stable

theorem step_rebindGen (state : Guarding) (event : GuardEvent)
    (exiting : state.guard.exiting = true) : beginsRebind hooks state event = false := by
  rw [beginsRebind, bne_eq_false_iff_eq]
  rcases step_cases hooks state event with ⟨index, outside, current, -, -, ran⟩ | ⟨same, -⟩
  · rw [ran]
    rcases (written_ran hooks state outside index current).rebindGen with
      same | staying
    · exact same.symm
    · rw [exiting] at staying
      cases staying
  · rw [same]

/-- In every run at most one goroutine is in the section. Recycles begin at least the
gap apart, never with the guard paused or exiting, and no more than the limit of them
unless the count is set back, which takes a quiet while. A guard that is exiting begins
no recycle and no rebind. -/
theorem recycle_exclusion (hooks : Hooks) (tunIP : String) (clock : Nat) :
    (∀ events, (reached hooks tunIP clock events).goroutines.countP (·.point.inSection) ≤ 1) ∧
    (∀ events, (recycleTimes hooks (start tunIP clock) events).Pairwise
      fun earlier later => earlier + 45000 ≤ later) ∧
    (∀ events event, beginsRecycle hooks (reached hooks tunIP clock events) event = true →
      (reached hooks tunIP clock events).guard.paused = false ∧
        (reached hooks tunIP clock events).guard.exiting = false) ∧
    (∀ events later,
      Transducer.AtEveryStep (step hooks) (reached hooks tunIP clock events) later
        (fun state event => forgetsRecycles hooks state event = false) →
      (recycleTimes hooks (reached hooks tunIP clock events) later).length ≤ 8) ∧
    (∀ events event, forgetsRecycles hooks (reached hooks tunIP clock events) event = true →
      recent (reached hooks tunIP clock events).guard.lastRecycle
        (reached hooks tunIP clock events).helper.clock 60000 = false) ∧
    ∀ events later event, (reached hooks tunIP clock events).guard.exiting = true →
      beginsRecycle hooks (reached hooks tunIP clock (events ++ later)) event = false ∧
        beginsRebind hooks (reached hooks tunIP clock (events ++ later)) event = false := by
  refine ⟨?_, recycleTimes_apart _, ?_, ?_, ?_, ?_⟩
  · intro events
    rw [(exclusive_reached hooks tunIP clock events).owned]
    exact Bool.toNat_le _
  · intro events event begins
    have may := (mayRecycle_of_begins begins).1
    exact ⟨may.paused, may.exiting⟩
  · intro events later kept
    have counted := length_recycleTimes _ later kept
    have bounded := (exclusive_reached hooks tunIP clock (events ++ later)).bounded
    rw [reached_append] at bounded
    exact (Nat.le_of_add_right_le counted).trans bounded
  · intro events event forgets
    exact forgets_stable forgets
  · intro events later event exiting
    have still := exiting_run hooks exiting later
    rw [← reached_append] at still
    refine ⟨?_, step_rebindGen _ event still⟩
    by_contra begins
    have may := (mayRecycle_of_begins (Bool.of_not_eq_false begins)).1
    rw [may.exiting] at still
    cases still

end Guarding

end Csqtt
