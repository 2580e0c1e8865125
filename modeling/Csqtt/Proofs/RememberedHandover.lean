/-
Module: Csqtt.Proofs.RememberedHandover
Purpose: A change of network that comes during a recycle: remembered until the recycle
  ends, taken up there, and left behind by a recycle that fails in a pause.
Trusted boundary: none
Main exports: replays, failsOffline, TakenUp, HandoversApplied, handoversApplied_iff
-/
import Csqtt.Proofs.RecycleExclusion

namespace Csqtt

/-- On the way to the decision of a handover, the pause before it included. -/
def Point.replays : Point → Bool
  | .handover _ => true
  | .resumeFromPause _ next => next.replays
  | .applyEnginePause _ next => next.replays
  | .go _ next => next.replays
  | _ => false

theorem Helper.perform_replays (hooks : Hooks) (outside : Outside) (self : Helper)
    {point : Point} (replays : point.replays = true) :
    (∃ source, point = .handover source) ∨
      (self.perform hooks outside point).2.replays = true := by
  cases point with
  | handover source => exact Or.inl ⟨source, rfl⟩
  | applyEnginePause value next => exact Or.inr replays
  | go call next => exact Or.inr replays
  | resumeFromPause source next =>
      right
      rcases self.guard.resumeFromPause_cases self.clock source next with
        ⟨-, result⟩ | ⟨-, result⟩
      · rw [perform, locked, result]
        exact replays
      · rw [perform, locked, result, DataPathGuard.afterPause]
        split
        · exact replays
        · split
          · exact replays
          · exact replays
  | _ => cases replays

/-- A handover is remembered only while a recycle is in progress, and forgotten by its
end, except by one that fails in a pause. -/
theorem GuardWritten.pendingHandover {now : Nat} {before after : DataPathGuard} {point : Point}
    (written : GuardWritten now before point after)
    (held : before.pendingHandover = true → before.recycling = true ∨ before.exiting = true)
    (online : (∃ reason, point = .failRecycle reason) → before.paused = true →
      before.pendingHandover = true → before.exiting = true) :
    after.pendingHandover = true → after.recycling = true ∨ after.exiting = true := by
  intro pending
  cases written with
  | remembering staying recycling => exact Or.inl recycling
  | exhausted => exact Or.inr rfl
  | recycling => exact Or.inl rfl
  | tunIPChanged => exact Or.inr rfl
  | recycled => cases pending
  | @failed reason =>
      rcases before.failRecycle_cases reason with ⟨paused, result⟩ | ⟨-, result⟩
      · rw [result] at pending ⊢
        exact Or.inr (online ⟨reason, rfl⟩ paused pending)
      · exact Or.inr (result ▸ rfl)
  | _ => exact held pending

/-- Without a new generation the time of the last rebind stays unset. -/
theorem GuardWritten.lastRebind {now : Nat} {before after : DataPathGuard} {point : Point}
    (written : GuardWritten now before point after) (unset : before.lastRebind = none) :
    after.rebindGen = before.rebindGen + 1 ∨
      after.rebindGen = before.rebindGen ∧ after.lastRebind = none := by
  cases written with
  | rebound => exact Or.inl rfl
  | recycled =>
      refine Or.inr ⟨rfl, ?_⟩
      rw [DataPathGuard.recycled]
      simp [unset]
  | @failed reason =>
      rcases before.failRecycle_cases reason with ⟨-, result⟩ | ⟨-, result⟩
      · exact Or.inr (result ▸ ⟨rfl, unset⟩)
      · exact Or.inr (result ▸ ⟨rfl, unset⟩)
  | _ => exact Or.inr ⟨rfl, unset⟩

namespace Guarding

variable {hooks : Hooks}

/-- The step fails a recycle in a pause, with a handover remembered. -/
def failsOffline (state : Guarding) : GuardEvent → Bool
  | .run index _ =>
      match state.goroutines[index]? with
      | some ⟨.failRecycle _, _⟩ =>
          state.guard.paused && state.guard.pendingHandover && !state.guard.exiting
      | _ => false
  | _ => false

/-- A remembered handover belongs to a recycle in progress. -/
def Held (state : Guarding) : Prop :=
  state.guard.pendingHandover = true →
    state.guard.recycling = true ∨ state.guard.exiting = true

/-- What a recycle handed on by a goroutine has become some events later: the goroutine
is still about to decide, a rebind was decided on, the guard is exiting, or another
recycle had begun and has remembered the handover in its turn. -/
def TakenUp (hooks : Hooks) (index : Nat) (ended : Guarding) (later : List GuardEvent) : Prop :=
  let state := (Transducer.run (step hooks) ended later).1
  (∃ goroutine, state.goroutines[index]? = some goroutine ∧ goroutine.point.replays = true) ∨
    ended.guard.rebindGen < state.guard.rebindGen ∨ state.guard.exiting = true ∨
    ∃ consumed, consumed <+: later ∧
      (Transducer.run (step hooks) ended consumed).1.guard.pendingHandover = true ∧
      (Transducer.run (step hooks) ended consumed).1.guard.recycling = true

theorem held_step {state : Guarding} {event : GuardEvent} (held : state.Held)
    (online : failsOffline state event = false) : (step hooks state event).1.Held := by
  rcases step_cases hooks state event with ⟨index, outside, current, run, here, ran⟩ | ⟨same, -⟩
  · rw [ran]
    apply (written_ran hooks state outside index current).pendingHandover held
    rintro ⟨reason, fails⟩ paused pending
    obtain ⟨point, tag⟩ := current
    cases fails
    by_contra staying
    simp [run, failsOffline, here, paused, pending, staying] at online
  · intro pending
    rw [same] at pending ⊢
    exact held pending

/-- A recycle that fails so leaves the handover behind. -/
theorem not_held_of_failsOffline {state : Guarding} {event : GuardEvent}
    (fails : failsOffline state event = true) : ¬ (step hooks state event).1.Held := by
  cases event with
  | run index outside =>
      simp only [failsOffline] at fails
      split at fails
      · next reason tag here =>
          simp only [Bool.and_eq_true, Bool.not_eq_true'] at fails
          obtain ⟨⟨paused, pending⟩, staying⟩ := fails
          intro held
          have after : (step hooks state (.run index outside)).1.guard =
              state.guard.failRecycle reason := by
            simp only [step, here]
            rfl
          rw [Held, after, DataPathGuard.failRecycle, if_pos paused] at held
          rcases held pending with recycling | exiting
          · cases recycling
          · rw [staying] at exiting
            cases exiting
      · cases fails
  | _ => cases fails

theorem throughout_held_iff (hooks : Hooks) (tunIP : String) (clock : Nat)
    (events : List GuardEvent) :
    Transducer.Throughout (step hooks) (start tunIP clock) events Held ↔
      Transducer.AtEveryStep (step hooks) (start tunIP clock) events
        fun state event => failsOffline state event = false := by
  apply @Transducer.throughout_iff_atEveryStep _ _ _ (step hooks) (fun _ => True)
  · trivial
  · intro pending
    cases pending
  · exact fun _ _ _ _ => trivial
  · intro state event _ held
    constructor
    · intro after
      by_contra fails
      exact not_held_of_failsOffline (Bool.of_not_eq_false fails) after
    · exact held_step held

/-- The goroutine is about to decide, and nothing speaks against a rebind. -/
def Replaying (index : Nat) (state : Guarding) : Prop :=
  state.guard.lastRebind = none ∧
    ∃ goroutine, state.goroutines[index]? = some goroutine ∧ goroutine.point.replays = true

/-- One more step leaves the goroutine about to decide, or it has decided. -/
theorem replaying_step (hooks : Hooks) {index : Nat} {state : Guarding}
    (replaying : Replaying index state) (event : GuardEvent) :
    Replaying index (step hooks state event).1 ∨
      state.guard.rebindGen < (step hooks state event).1.guard.rebindGen ∨
      (step hooks state event).1.guard.exiting = true ∨
      (step hooks state event).1.guard.pendingHandover = true ∧
        (step hooks state event).1.guard.recycling = true := by
  obtain ⟨unset₀, goroutine, here, replays⟩ := replaying
  rcases step_cases hooks state event with
    ⟨other, outside, current, -, there, ran⟩ | ⟨same, new, goroutines⟩
  · rw [ran]
    rcases (written_ran hooks state outside other current).lastRebind unset₀ with
      counted | ⟨-, unset⟩
    · exact Or.inr (Or.inl (counted ▸ Nat.lt_succ_self _))
    · by_cases own : other = index
      · subst own
        rw [there] at here
        cases here
        rcases state.helper.perform_replays hooks outside replays with ⟨source, decides⟩ | on
        · right
          rw [ran_guard, decides, Helper.perform, Helper.locked]
          rcases state.guard.handover_cases state.helper.clock source with
            ⟨exiting, result⟩ | ⟨-, recycling, result⟩ | ⟨-, -, close, -⟩ | ⟨-, -, -, result⟩
          · exact Or.inr (Or.inl ((congrArg (·.1.exiting) result).trans exiting))
          · exact Or.inr (Or.inr ⟨congrArg (·.1.pendingHandover) result,
              (congrArg (·.1.recycling) result).trans recycling⟩)
          · rw [unset₀] at close
            cases close
          · exact Or.inl ((Nat.lt_succ_self _).trans_eq (congrArg (·.1.rebindGen) result).symm)
        · exact Or.inl ⟨unset, _, Interleaving.getElem?_advance_self there _ _, on⟩
      · exact Or.inl ⟨unset, goroutine,
          Interleaving.getElem?_advance_of_ne (Ne.symm own) here _ _, replays⟩
  · refine Or.inl ⟨?_, goroutine, ?_, replays⟩
    · rw [same, unset₀]
    · rw [goroutines, List.getElem?_append_left (List.getElem?_eq_some_iff.mp here).1, here]

/-- A handover handed on by a recycle is taken up. -/
theorem takenUp_run {index : Nat} {ended : Guarding} (replaying : Replaying index ended)
    (later : List GuardEvent) : TakenUp hooks index ended later := by
  have either : Replaying index (Transducer.run (step hooks) ended later).1 ∨
      ended.guard.rebindGen < (Transducer.run (step hooks) ended later).1.guard.rebindGen ∨
      (Transducer.run (step hooks) ended later).1.guard.exiting = true ∨
      ∃ consumed, consumed <+: later ∧
        (Transducer.run (step hooks) ended consumed).1.guard.pendingHandover = true ∧
        (Transducer.run (step hooks) ended consumed).1.guard.recycling = true := by
    induction later using List.reverseRecOn with
    | nil => exact Or.inl replaying
    | append_singleton later event inductionHypothesis =>
        have onward := step_rebindGen_le hooks
          (Transducer.run (step hooks) ended later).1 event
        rcases inductionHypothesis with replaying | counted | exiting | ⟨consumed, within, taken⟩
        · rcases replaying_step hooks replaying event with
            still | counted | exiting | remembered
          · rw [Transducer.run_concat]
            exact Or.inl still
          · rw [Transducer.run_concat]
            exact Or.inr (Or.inl ((run_rebindGen_le ended later).trans_lt counted))
          · rw [Transducer.run_concat]
            exact Or.inr (Or.inr (Or.inl exiting))
          · refine Or.inr (Or.inr (Or.inr ⟨_, List.prefix_refl _, ?_⟩))
            rw [Transducer.run_concat]
            exact remembered
        · rw [Transducer.run_concat]
          exact Or.inr (Or.inl (counted.trans_le onward))
        · rw [Transducer.run_concat]
          exact Or.inr (Or.inr (Or.inl (step_exiting exiting event)))
        · exact Or.inr (Or.inr (Or.inr
            ⟨consumed, within.trans (List.prefix_append _ _), taken⟩))
  rcases either with ⟨-, waiting⟩ | taken
  · exact Or.inl waiting
  · exact Or.inr taken

/-- Throughout a run a remembered handover belongs to a recycle in progress. A recycle
that is done with one remembered hands it on, and it is taken up. A recycle that fails
with one remembered leaves the guard exiting, or paused with a repair to come. -/
structure HandoversApplied (hooks : Hooks) (tunIP : String) (clock : Nat)
    (events : List GuardEvent) : Prop where
  held : Transducer.Throughout (step hooks) (start tunIP clock) events Held
  taken : ∀ consumed index outside later goroutine,
    consumed ++ .run index outside :: later <+: events →
    (reached hooks tunIP clock consumed).goroutines[index]? = some goroutine →
    goroutine.point = .recycled →
    (reached hooks tunIP clock consumed).guard.pendingHandover = true →
      TakenUp hooks index (reached hooks tunIP clock (consumed ++ [.run index outside])) later
  failed : ∀ consumed index outside reason goroutine,
    consumed ++ [.run index outside] <+: events →
    (reached hooks tunIP clock consumed).goroutines[index]? = some goroutine →
    goroutine.point = .failRecycle reason →
      let ended := (reached hooks tunIP clock (consumed ++ [.run index outside])).guard
      ended.exiting = true ∨ ended.paused = true ∧ ended.pendingRecycle = true

theorem replaying_recycled {state : Guarding} {index : Nat} {goroutine : Goroutine}
    (here : state.goroutines[index]? = some goroutine) (done : goroutine.point = .recycled)
    (pending : state.guard.pendingHandover = true) (outside : Outside) :
    Replaying index (step hooks state (.run index outside)).1 := by
  have ran : (step hooks state (.run index outside)).1 =
      state.ran hooks outside index goroutine := by
    simp only [step, here]
  rw [ran]
  constructor
  · rw [ran_guard, done, Helper.perform, Helper.locked, DataPathGuard.recycled]
    exact if_pos pending
  · refine ⟨_, Interleaving.getElem?_advance_self here _ _, ?_⟩
    rw [moved, done, Helper.perform, Helper.locked, DataPathGuard.recycled]
    exact (congrArg Point.replays (if_pos pending)).trans rfl

theorem failed_recycle {state : Guarding} {index : Nat} {goroutine : Goroutine}
    {reason : Reason} (here : state.goroutines[index]? = some goroutine)
    (fails : goroutine.point = .failRecycle reason) (outside : Outside) :
    let ended := (step hooks state (.run index outside)).1.guard
    ended.exiting = true ∨ ended.paused = true ∧ ended.pendingRecycle = true := by
  intro ended
  have after : ended = state.guard.failRecycle reason := by
    simp only [ended, step, here]
    rw [ran_guard, fails]
    rfl
  rw [after]
  rcases state.guard.failRecycle_cases reason with ⟨paused, result⟩ | ⟨-, result⟩
  · exact Or.inr (result ▸ ⟨paused, rfl⟩)
  · exact Or.inl (result ▸ rfl)

/-- A run applies its handovers exactly if in it no recycle fails in a pause with one
remembered. -/
theorem handoversApplied_iff (hooks : Hooks) (tunIP : String) (clock : Nat)
    (events : List GuardEvent) :
    HandoversApplied hooks tunIP clock events ↔
      Transducer.AtEveryStep (step hooks) (start tunIP clock) events
        fun state event => failsOffline state event = false := by
  constructor
  · intro applied
    exact (throughout_held_iff hooks tunIP clock events).mp applied.held
  · intro online
    constructor
    · exact (throughout_held_iff hooks tunIP clock events).mpr online
    · intro consumed index outside later goroutine _ here done pending
      apply takenUp_run
      rw [reached_concat]
      exact replaying_recycled here done pending outside
    · intro consumed index outside reason goroutine _ here fails
      rw [reached_concat]
      exact failed_recycle here fails outside

/-- A wake-up without paths leads to a recycle. A handover comes before the engine is
stopped, then the network is lost, and the next engine does not get ready. -/
def handoverThenLost : List GuardEvent :=
  [.begin .wake, .run 0 nothing, .run 0 nothing, .run 1 nothing, .tick 25000, .run 1 nothing,
    .run 1 nothing, .run 1 nothing, .run 1 nothing, .run 2 nothing,
    .begin (.host .handover), .run 3 nothing, .run 3 nothing,
    .begin (.host .netlost), .run 4 nothing,
    .run 2 nothing, .tick 800, .run 2 nothing, .run 2 nothing, .run 2 nothing, .run 2 nothing]

theorem handoverThenLost_left :
    ¬ HandoversApplied .production "10.8.0.2" 0 handoverThenLost := by
  intro applied
  have left := applied.held handoverThenLost (List.prefix_refl _)
    (by decide +kernel)
  revert left
  decide +kernel

end Guarding

end Csqtt
