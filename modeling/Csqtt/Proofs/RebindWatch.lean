/-
Module: Csqtt.Proofs.RebindWatch
Purpose: A rebind in flight always has somebody who will say that it is over: the
  handover that began it, or the watchdog of its generation.
Trusted boundary: none
Main exports: handsOver, watches, Served, served_reached, rebind_watched
-/
import Csqtt.Proofs.GuardSteps

namespace Csqtt

namespace Point

/-- Inside the handover that began the generation, behind its decision. -/
def handsOver (gen : Nat) : Point → Bool
  | .rebind own _ => own == gen
  | .go (.rebindWatchdog own _) _ => own == gen
  | .finishRebind own (.go _ _) => own == gen
  | _ => false

/-- Inside the watchdog of the generation, before it has taken the flag down. -/
def watches (gen : Nat) : Point → Bool
  | .asleep _ next => next.watches gen
  | .rebindWatchdog own _ => own == gen
  | .rebindSettled own _ => own == gen
  | .rebindPoll own _ _ => own == gen
  | .rebindStale own _ _ => own == gen
  | .rebindPaths own _ _ => own == gen
  | .rebindLate own _ => own == gen
  | .finishRebind _ (.go _ _) => false
  | .finishRebind own _ => own == gen
  | _ => false

def serves (gen : Nat) (point : Point) : Bool := point.handsOver gen || point.watches gen

end Point

/-- The flag and the generation change with a handover served, and the flag with its
own generation's end. -/
theorem GuardWritten.rebindInFlight {now : Nat} {before after : DataPathGuard} {point : Point}
    (written : GuardWritten now before point after) :
    (after.rebindInFlight = before.rebindInFlight ∧ after.rebindGen = before.rebindGen) ∨
      (∃ source, point = .handover source ∧ after = before.rebound now) ∨
      ∃ next, point = .finishRebind before.rebindGen next ∧ after.rebindInFlight = false := by
  cases written with
  | rebound => exact Or.inr (Or.inl ⟨_, rfl, rfl⟩)
  | finished => exact Or.inr (Or.inr ⟨_, rfl, rfl⟩)
  | @failed reason =>
      rcases before.failRecycle_cases reason with ⟨-, result⟩ | ⟨-, result⟩
      · exact Or.inl (result ▸ ⟨rfl, rfl⟩)
      · exact Or.inl (result ▸ ⟨rfl, rfl⟩)
  | _ => exact Or.inl ⟨rfl, rfl⟩

/-- With the generation comes the call of the engine. -/
theorem DataPathGuard.handover_counted {guard : DataPathGuard} {now : Nat} {source : Reason}
    (counted : (guard.handover now source).1.rebindGen = guard.rebindGen + 1) :
    (guard.handover now source).2 = .rebind (guard.rebindGen + 1) source := by
  rcases guard.handover_cases now source with
    ⟨-, result⟩ | ⟨-, -, result⟩ | ⟨-, -, -, result⟩ | ⟨-, -, -, result⟩
  · rw [result] at counted
    exact absurd counted (Nat.ne_of_lt (Nat.lt_succ_self _))
  · rw [result] at counted
    exact absurd counted (Nat.ne_of_lt (Nat.lt_succ_self _))
  · rw [result] at counted
    exact absurd counted (Nat.ne_of_lt (Nat.lt_succ_self _))
  · rw [result]

theorem Point.serves_ite (gen : Nat) (condition : Prop) [Decidable condition]
    {first second : Point} (one : first.serves gen = true) (other : second.serves gen = true) :
    (if condition then first else second).serves gen = true := by
  split
  · exact one
  · exact other

/-- Whoever serves a generation goes on doing so, or starts the watchdog that does,
unless it takes the flag down. -/
theorem Helper.perform_serves (hooks : Hooks) (outside : Outside) (self : Helper)
    {point : Point} {gen : Nat} (serves : point.serves gen = true) :
    (self.perform hooks outside point).2.serves gen = true ∨
      (∃ next, point = .finishRebind gen next) ∨
      ∃ call next, point = .go call next ∧ call.point.serves gen = true := by
  have own {other : Nat} (same : (other == gen) = true) : other = gen := eq_of_beq same
  rw [Point.serves, Bool.or_eq_true] at serves
  cases point with
  | rebind other source =>
      obtain rfl := own (serves.resolve_right Bool.false_ne_true)
      left
      apply Point.serves_ite
      · simp [Point.serves, Point.handsOver]
      · simp [Point.serves, Point.handsOver]
  | go call next =>
      cases call with
      | rebindWatchdog other source =>
          obtain rfl := own (serves.resolve_right Bool.false_ne_true)
          refine Or.inr (Or.inr ⟨_, next, rfl, ?_⟩)
          simp [GuardCall.point, Point.serves, Point.watches]
      | _ => simp [Point.handsOver, Point.watches] at serves
  | finishRebind other next =>
      have same : other = gen := by
        cases next with
        | go call next => exact own (serves.resolve_right Bool.false_ne_true)
        | _ => exact own (serves.resolve_left Bool.false_ne_true)
      subst same
      exact Or.inr (Or.inl ⟨next, rfl⟩)
  | asleep wakeUp next =>
      have watches : next.watches gen = true := serves.resolve_left Bool.false_ne_true
      left
      apply Point.serves_ite
      · rw [Point.serves, watches, Bool.or_true]
      · rw [Point.serves, Point.watches, watches, Bool.or_true]
  | rebindWatchdog other source =>
      obtain rfl := own (serves.resolve_left Bool.false_ne_true)
      left
      apply Point.serves_ite
      · simp [Point.serves, Point.watches]
      · simp [Point.serves, Point.watches]
  | rebindSettled other source =>
      obtain rfl := own (serves.resolve_left Bool.false_ne_true)
      left
      simp [perform, Point.serves, Point.watches]
  | rebindPoll other source deadline =>
      obtain rfl := own (serves.resolve_left Bool.false_ne_true)
      left
      apply Point.serves_ite
      · simp [Point.serves, Point.watches]
      · simp [Point.serves, Point.watches]
  | rebindStale other source deadline =>
      obtain rfl := own (serves.resolve_left Bool.false_ne_true)
      left
      apply Point.serves_ite
      · simp [Point.serves, Point.watches]
      · simp [Point.serves, Point.watches]
  | rebindPaths other source deadline =>
      obtain rfl := own (serves.resolve_left Bool.false_ne_true)
      left
      apply Point.serves_ite
      · simp [Point.serves, Point.watches]
      · simp [Point.serves, Point.watches]
  | rebindLate other source =>
      obtain rfl := own (serves.resolve_left Bool.false_ne_true)
      left
      rw [perform]
      split
      · simp [Point.serves, Point.watches]
      · simp [Point.serves, Point.watches]
  | _ => simp [Point.handsOver, Point.watches] at serves

namespace Guarding

variable {hooks : Hooks}

/-- A rebind in flight is served. -/
def Served (state : Guarding) : Prop :=
  state.guard.rebindInFlight = true →
    ∃ goroutine ∈ state.goroutines, goroutine.point.serves state.guard.rebindGen = true

theorem served_ran {state : Guarding} (served : state.Served) (outside : Outside)
    {index : Nat} {current : Goroutine} (here : state.goroutines[index]? = some current) :
    (state.ran hooks outside index current).Served := by
  intro inFlight
  rcases (written_ran hooks state outside index current).rebindInFlight with
    ⟨sameFlag, sameGen⟩ | ⟨source, handover, rebound⟩ | ⟨next, finishing, finished⟩
  · rw [sameGen]
    apply Interleaving.exists_advance here (served (sameFlag.symm.trans inFlight))
    intro serves
    rcases state.helper.perform_serves hooks outside serves with on | ⟨next, ends⟩ |
      ⟨call, next, going, watched⟩
    · exact Or.inl on
    · -- The flag would have gone down.
      rw [ran_guard, ends, Helper.perform, Helper.locked, DataPathGuard.finishRebind,
        guard, if_pos rfl] at inFlight
      cases inFlight
    · right
      rw [started, going]
      exact ⟨_, List.mem_singleton_self _, watched⟩
  · have next : (state.moved hooks outside current).point =
        .rebind (state.guard.rebindGen + 1) source := by
      rw [ran_guard, handover] at rebound
      rw [moved, handover]
      exact DataPathGuard.handover_counted (congrArg DataPathGuard.rebindGen rebound)
    rw [rebound]
    refine ⟨_, List.mem_of_getElem? (Interleaving.getElem?_advance_self here _ _), ?_⟩
    rw [next]
    simp [Point.serves, Point.handsOver, DataPathGuard.rebound]
  · rw [finished] at inFlight
    cases inFlight

theorem served_step (state : Guarding) (event : GuardEvent) (served : state.Served) :
    (step hooks state event).1.Served := by
  apply step_keeps _ _ _ state event served
  · intro state helper same _ served inFlight
    rw [guard, same] at inFlight ⊢
    exact served inFlight
  · intro state operation served inFlight
    obtain ⟨goroutine, mem, serves⟩ := served inFlight
    exact ⟨goroutine, List.mem_append_left _ mem, serves⟩
  · intro state outside index current here served
    exact served_ran served outside here

theorem served_reached (tunIP : String) (clock : Nat) (events : List GuardEvent) :
    (reached hooks tunIP clock events).Served := by
  apply Transducer.run_invariant _ served_step
  intro inFlight
  cases inFlight

/-- In every state reached, a rebind in flight is in the hands of the handover that
began it or of its generation's watchdog. The flag only goes down where the current
generation is finished. -/
theorem rebind_watched (hooks : Hooks) (tunIP : String) (clock : Nat)
    (events : List GuardEvent) :
    let state := reached hooks tunIP clock events
    (state.guard.rebindInFlight = true →
      ∃ goroutine ∈ state.goroutines,
        goroutine.point.handsOver state.guard.rebindGen = true ∨
          goroutine.point.watches state.guard.rebindGen = true) ∧
    ∀ event, state.guard.rebindInFlight = true →
      (step hooks state event).1.guard.rebindInFlight = false →
        ∃ index outside goroutine next, event = .run index outside ∧
          state.goroutines[index]? = some goroutine ∧
          goroutine.point = .finishRebind state.guard.rebindGen next := by
  intro state
  constructor
  · intro inFlight
    obtain ⟨goroutine, mem, serves⟩ := served_reached tunIP clock events inFlight
    exact ⟨goroutine, mem, by simpa [Point.serves] using serves⟩
  · intro event inFlight finished
    rcases step_cases hooks state event with
      ⟨index, outside, current, run, here, ran⟩ | ⟨same, -⟩
    · rw [ran] at finished
      rcases (written_ran hooks state outside index current).rebindInFlight with
        ⟨same, -⟩ | ⟨source, -, rebound⟩ | ⟨next, finishing, -⟩
      · rw [same, inFlight] at finished
        cases finished
      · rw [rebound] at finished
        cases finished
      · exact ⟨index, outside, current, next, run, here, finishing⟩
    · rw [same, inFlight] at finished
      cases finished

end Guarding

end Csqtt
