/-
Module: Csqtt.Proofs.RebindEscalation
Purpose: The recycle that a rebind's watchdog asks for when no path has come back: when
  it is sure to be about the guard's last rebind, and the handover it cuts off.
Trusted boundary: none
Main exports: judged, Current, escalationKept, escalation_current
-/
import Csqtt.Proofs.RecycleExclusion

namespace Csqtt

/-- The watchdog of the generation has looked for the last time and is about to ask for
a recycle. -/
def Point.escalates (gen : Nat) : Point → Bool
  | .rebindTimeout own _ => own == gen
  | _ => false

def Point.judged (gen : Nat) (point : Point) : Bool := point.within (Point.escalates gen)

theorem GuardCall.judged (gen : Nat) (call : GuardCall) : call.point.judged gen = false := by
  cases call <;> rfl

theorem GuardOperation.judged (gen : Nat) (operation : GuardOperation) :
    operation.point.judged gen = false := by
  cases operation with
  | host event => cases event <;> rfl
  | _ => rfl

theorem not_judged_requestRecycle (guard : DataPathGuard) (now : Nat) (reason : Reason)
    (gen : Nat) : ¬ (guard.requestRecycle now reason).2.judged gen = true := by
  rcases guard.requestRecycle_next now reason with next | next
  · simp [next, Point.judged, Point.within, Point.escalates]
  · simp [next, Point.judged, Point.within, Point.escalates]

theorem apart_escalates (gen : Nat) : Point.Apart (Point.escalates gen) := by
  constructor <;> intros <;> rfl

/-- Only the last look of a watchdog leads there. -/
theorem Helper.perform_judged (hooks : Hooks) (outside : Outside) (self : Helper)
    {point : Point} {gen : Nat}
    (judged : (self.perform hooks outside point).2.judged gen = true) :
    point.judged gen = true ∨
      ∃ source, point = .rebindLate gen source ∧ self.guard.rebindLate gen = false := by
  by_cases common : point.common = true
  · exact Or.inl (within_of_common (apart_escalates gen) common judged)
  · cases point with
    | rebindLate own source =>
        right
        simp only [perform, Point.judged, Point.within, Point.escalates, Bool.false_or] at judged
        split at judged
        · cases judged
        · next early =>
            cases eq_of_beq judged
            exact ⟨source, rfl, Bool.of_not_eq_true early⟩
    | onWake =>
        obtain ⟨_, _, next, result, rfl | ⟨-, rfl⟩ | rfl⟩ := self.guard.onWake_cases self.clock
        · simp [perform, locked, result, Point.judged, Point.within, Point.escalates] at judged
        · simp [perform, locked, result, Point.judged, Point.within, Point.escalates] at judged
        · simp [perform, locked, result, Point.judged, Point.within, Point.escalates,
            afterSoftResume] at judged
    | _ =>
        first
        | exact absurd rfl common
        | simp [perform, locked, Point.judged, Point.within, Point.escalates,
            DataPathGuard.netlost, DataPathGuard.heal, DataPathGuard.watchSoftResume,
            DataPathGuard.probeSucceeded, DataPathGuard.recycled, onHandover, afterSoftResume,
            apply_ite (Point.within (Point.escalates gen))] at judged

namespace Guarding

variable {hooks : Hooks}

/-- No rebind and no recycle have begun since the one of the generation. -/
def Current (state : Guarding) (gen : Nat) : Prop :=
  state.guard.rebindGen = gen ∧ state.recycles = state.recyclesAtRebind

/-- Another goroutine's watch over the guard's rebind ends in a recycle at this moment. -/
def othersJudge (state : Guarding) (index : Nat) : Bool :=
  (state.goroutines.eraseIdx index).any fun other =>
    other.point.judged state.guard.rebindGen

/-- Nobody begins a rebind or a recycle between another watchdog's last look and its
own decision, and the last look does not pass with a recycle begun since the rebind. -/
def escalationKept (hooks : Hooks) (state : Guarding) (event : GuardEvent) : Bool :=
  match event with
  | .run index _ =>
      (!(beginsRecycle hooks state event || beginsRebind hooks state event) ||
        !state.othersJudge index) &&
      match state.goroutines[index]? with
      | some ⟨.rebindLate gen _, _⟩ =>
          state.guard.rebindLate gen || state.recycles == state.recyclesAtRebind
      | _ => true
  | _ => true

/-- Every watchdog about to ask for a recycle speaks of the last rebind. -/
def Judging (state : Guarding) : Prop :=
  ∀ goroutine ∈ state.goroutines, ∀ gen, goroutine.point.judged gen = true → state.Current gen

theorem current_step {state : Guarding} {gen : Nat} {event : GuardEvent}
    (current : state.Current gen) (steady : beginsRecycle hooks state event = false)
    (same : beginsRebind hooks state event = false) :
    (step hooks state event).1.Current gen := by
  have sameGen := bne_eq_false_iff_eq.mp same
  refine ⟨sameGen.symm.trans current.1, ?_⟩
  cases event with
  | run index outside =>
      cases here : state.goroutines[index]? with
      | none =>
          simp only [step, here]
          exact current.2
      | some goroutine =>
          rw [beginsRecycle, step_run here] at steady
          rw [step_run here] at sameGen ⊢
          have counted : (state.ran hooks outside index goroutine).recycles = state.recycles :=
            if_neg (by rw [Bool.not_eq_true]; exact steady)
          have noted : (state.ran hooks outside index goroutine).recyclesAtRebind =
              state.recyclesAtRebind := if_neg (not_not_intro sameGen)
          rw [counted, noted, current.2]
  | engineUp =>
      rw [step]
      split
      · exact current.2
      · exact current.2
  | _ => exact current.2

/-- A goroutine that is about to ask begins nothing on the way there. -/
theorem begins_of_judged {state : Guarding} {outside : Outside} {index gen : Nat}
    {goroutine : Goroutine} (here : state.goroutines[index]? = some goroutine)
    (judged : (state.moved hooks outside goroutine).point.judged gen = true) :
    beginsRecycle hooks state (.run index outside) = false ∧
      beginsRebind hooks state (.run index outside) = false := by
  have written := written_ran hooks state outside index goroutine
  rw [beginsRecycle, beginsRebind, step_run here]
  rw [moved] at judged
  constructor
  · by_contra begins
    rw [Bool.not_eq_false, Bool.and_eq_true, Bool.not_eq_true'] at begins
    have asks := written.asks begins.1 begins.2
    cases point : goroutine.point with
    | requestRecycle reason =>
        rw [point] at judged
        exact not_judged_requestRecycle _ _ _ _ judged
    | rebindTimeout own source =>
        rw [point] at judged
        exact not_judged_requestRecycle _ _ _ _ judged
    | _ =>
        rw [point] at asks
        cases asks
  · by_contra begins
    obtain ⟨source, handover⟩ := written.handover (by simpa using begins)
    rw [handover] at judged
    rcases state.helper.perform_judged hooks outside judged with before | ⟨source, late, -⟩
    · cases before
    · cases late

theorem judging_ran {state : Guarding} {outside : Outside} {index : Nat}
    {goroutine : Goroutine} (judging : state.Judging)
    (here : state.goroutines[index]? = some goroutine)
    (kept : escalationKept hooks state (.run index outside) = true) :
    (step hooks state (.run index outside)).1.Judging := by
  rw [escalationKept, Bool.and_eq_true, Bool.or_eq_true, Bool.not_eq_true',
    Bool.or_eq_false_iff, Bool.not_eq_true'] at kept
  have onward : ∀ gen, state.Current gen →
      beginsRecycle hooks state (.run index outside) = false ∧
        beginsRebind hooks state (.run index outside) = false →
      (state.ran hooks outside index goroutine).Current gen := by
    intro gen current steady
    rw [← step_run here]
    exact current_step current steady.1 steady.2
  rw [step_run here]
  apply Interleaving.forall_advance
  · intro other mem gen judged
    have current := judging other (List.mem_of_mem_eraseIdx mem) gen judged
    apply onward gen current
    rcases kept.1 with steady | alone
    · exact steady
    · -- This watchdog itself would be one of the others.
      rw [othersJudge, List.any_eq_false, current.1] at alone
      exact absurd judged (alone other mem)
  · intro gen judged
    have steady := begins_of_judged here judged
    apply onward gen _ steady
    rcases state.helper.perform_judged hooks outside judged with before | ⟨source, late, early⟩
    · exact judging goroutine (List.mem_of_getElem? here) gen before
    · obtain ⟨point, tag⟩ := goroutine
      cases late
      simp only [here, guard, early, Bool.false_or] at kept
      simp only [DataPathGuard.rebindLate, Bool.or_eq_false_iff] at early
      exact ⟨bne_eq_false_iff_eq.mp early.1.1, eq_of_beq kept.2⟩
  · intro child mem gen judged
    obtain ⟨call, next, -, rfl⟩ := mem_started mem
    rw [call.judged] at judged
    cases judged

theorem judging_step (state : Guarding) (event : GuardEvent) (judging : state.Judging)
    (kept : escalationKept hooks state event = true) : (step hooks state event).1.Judging := by
  cases event with
  | run index outside =>
      cases here : state.goroutines[index]? with
      | none =>
          simp only [step, here]
          exact judging
      | some goroutine => exact judging_ran judging here kept
  | begin operation =>
      intro goroutine mem gen judged
      rcases List.mem_append.mp mem with old | new
      · exact judging goroutine old gen judged
      · rw [List.mem_singleton.mp new] at judged
        exact absurd judged (by rw [beginning, operation.judged]; exact Bool.false_ne_true)
  | engineUp =>
      rw [step]
      split
      · exact judging
      · exact judging
  | _ => exact judging

/-- A watchdog's own call for a recycle is decided only with its rebind still the last
thing that was begun. -/
def EscalatesCurrent (hooks : Hooks) (tunIP : String) (clock : Nat) (events : List GuardEvent) :
    Prop :=
  ∀ consumed index outside goroutine gen source,
    consumed ++ [.run index outside] <+: events →
    (reached hooks tunIP clock consumed).goroutines[index]? = some goroutine →
    goroutine.point = .rebindTimeout gen source →
      (reached hooks tunIP clock consumed).Current gen

/-- In a run whose steps all keep the escalation, no watchdog asks for a recycle after
something newer has begun. -/
theorem escalation_current {hooks : Hooks} {tunIP : String} {clock : Nat}
    {events : List GuardEvent}
    (kept : Transducer.AtEveryStep (step hooks) (start tunIP clock) events
      fun state event => escalationKept hooks state event = true) :
    EscalatesCurrent hooks tunIP clock events := by
  intro consumed index outside goroutine gen source within here asks
  have judging : (reached hooks tunIP clock consumed).Judging := by
    apply Transducer.invariant_of_atEveryStep (step hooks) judging_step
    · intro goroutine mem
      cases mem
    · exact kept.of_prefix ((List.prefix_append _ _).trans within)
  apply judging goroutine (List.mem_of_getElem? here)
  rw [asks]
  exact beq_self_eq_true gen

/-- A handover whose rebind brings no path back, up to the watchdog's last look. -/
def noPathComesBack : List GuardEvent :=
  [.begin (.host .handover), .run 0 nothing, .run 0 nothing, .run 0 nothing, .run 0 nothing,
    .run 1 nothing, .tick 1000, .run 1 nothing, .run 1 nothing] ++
  (List.replicate 30
    [.run 1 nothing, .run 1 nothing, .run 1 nothing, .tick 500, .run 1 nothing]).flatten ++
  [.run 1 nothing]

/-- The next handover comes between the last look and the decision. -/
def newerHandover : List GuardEvent :=
  noPathComesBack ++
  [.run 1 nothing, .begin (.host .handover), .run 2 nothing, .run 2 nothing, .run 1 nothing]

theorem newerHandover_cut_off :
    ¬ EscalatesCurrent .production "10.8.0.2" 0 (newerHandover ++ [.run 1 nothing]) := by
  intro escalates
  have here : (reached .production "10.8.0.2" 0 newerHandover).goroutines[1]? =
      some { point := .rebindTimeout 1 .handover, tag := ⟨0, some 0⟩ } := by decide +kernel
  have current := escalates newerHandover 1 nothing _ 1 .handover (List.prefix_refl _) here rfl
  have newer : (reached .production "10.8.0.2" 0 newerHandover).guard.rebindGen = 2 := by
    decide +kernel
  cases current.1.symm.trans newer

/-- Without the second handover the first one's watchdog is in time. -/
theorem escalation_current_noPathComesBack :
    EscalatesCurrent .production "10.8.0.2" 0
      (noPathComesBack ++ [.run 1 nothing, .run 1 nothing, .run 1 nothing]) :=
  escalation_current (by decide +kernel)

end Guarding

end Csqtt
