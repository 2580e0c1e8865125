/-
Module: Csqtt.Proofs.EngineLives
Purpose: When the host's stop reaches every engine that it started, over all interleavings of
  starts, stops and the steps of the engines.
Trusted boundary: none
Main exports: EngineLife.next_life, Lives.Reached, Lives.reached_iff_finds, Lives.stop_missed
-/
import Csqtt.Core.Transducer
import Csqtt.Engine.EngineLives

namespace Csqtt

namespace EngineLife

variable {engine : EngineLife} {number : Nat} {slots : ProcessSlots} {choice : LifeChoice}
  {after : ProcessSlots × EngineLife}

/-- What a step leaves to an engine of its cancellation, and how it comes to its workers. -/
structure Lived (engine moved : EngineLife) (choice : LifeChoice) : Prop where
  stopped : moved.stopped = engine.stopped
  missed : moved.missed = engine.missed
  cancelled : engine.cancelled = true → moved.cancelled = true
  running : moved.point = .running → engine.point ≠ .running →
    choice = .go ∧ engine.point = .resetting .ended ∧ moved.cancelled = engine.cancelled

/-- So does a step that stays where it is, or leaves for elsewhere. -/
theorem lived_of_point {moved : EngineLife} (stopped : moved.stopped = engine.stopped)
    (missed : moved.missed = engine.missed)
    (cancelled : engine.cancelled = true → moved.cancelled = true)
    (elsewhere : moved.point = .running → engine.point = .running) :
    Lived engine moved choice where
  stopped := stopped
  missed := missed
  cancelled := cancelled
  running here apart := absurd (elsewhere here) apart

theorem lived_advance (next : engine.advance number slots = some after) :
    Lived engine after.2 .go := by
  cases there : engine.point with
  | resetting point =>
    simp only [advance, there] at next
    split at next
    · next done =>
        cases next
        exact ⟨rfl, rfl, id, fun _ _ => ⟨rfl, there.trans (congrArg _ done), rfl⟩⟩
    · cases next
      exact lived_of_point rfl rfl id LifePoint.noConfusion
  | running =>
    simp only [advance, there] at next
    split at next
    · cases next
      exact lived_of_point rfl rfl id fun _ => there
    · cases next
  | cancelling =>
    simp only [advance, there] at next
    cases next
    exact lived_of_point rfl rfl (fun _ => rfl) LifePoint.noConfusion
  | draining | joining | aborting =>
    simp only [advance, there] at next
    split at next
    · cases next
      exact lived_of_point rfl rfl id LifePoint.noConfusion
    · cases next
  | dispatching | returned =>
    simp only [advance, there] at next
    cases next
  | _ =>
    simp only [advance, there] at next
    cases next
    exact lived_of_point rfl rfl id LifePoint.noConfusion

theorem lived_dispatch (engine : EngineLife) (port : U16) :
    Lived engine (engine.dispatch port) choice := by
  rw [dispatch]
  cases engine.arguments.mode with
  | _ => exact lived_of_point rfl rfl id LifePoint.noConfusion

theorem lived_write (next : engine.write slots = some after) : Lived engine after.2 choice := by
  rw [write] at next
  split at next
  · split at next
    · cases next
      exact lived_of_point rfl rfl id id
    · cases next
  · cases next
    exact lived_of_point rfl rfl id id
  · cases next
    exact lived_of_point rfl rfl id id
  · cases next

theorem lived_configure {config : Text} (next : engine.configure slots config = some after) :
    Lived engine after.2 choice := by
  rw [configure] at next
  split at next
  · split at next
    · cases next
      exact lived_of_point rfl rfl id id
    · cases next
      exact lived_of_point rfl rfl id id
  · cases next

/-- The step lemma of an engine's cancellation. -/
theorem lived_next (next : engine.next number slots choice = some after) :
    Lived engine after.2 choice := by
  cases choice with
  | go => exact lived_advance next
  | writer => exact lived_write next
  | config config => exact lived_configure next
  | dispatched port =>
    simp only [EngineLife.next] at next
    split at next
    · cases next
      exact lived_dispatch engine port
    · cases next
  | fail | quit | completed =>
    simp only [EngineLife.next] at next
    split at next
    · cases next
      exact lived_of_point rfl rfl id LifePoint.noConfusion
    · cases next
  | cancel =>
    simp only [EngineLife.next] at next
    split at next
    · cases next
      exact lived_of_point rfl rfl (fun _ => rfl) id
    · cases next
  | call operation =>
    simp only [EngineLife.next] at next
    split at next
    · cases next
      exact lived_of_point rfl rfl id id
    · cases next
  | dns | idle =>
    simp only [EngineLife.next] at next
    split at next
    · cases next
    · split at next
      · cases next
        exact lived_of_point rfl rfl id id
      · cases next

end EngineLife

namespace Lives

variable {state : Lives} {index : Nat} {choice : LifeChoice} {engine : EngineLife}
  {after : ProcessSlots × EngineLife}

/-- No engine that was told to stop runs its workers, unless its token is cancelled. -/
def Reached (self : Lives) : Prop :=
  ∀ engine ∈ self.engines, engine.stopped = true → engine.point = .running →
    engine.cancelled = true

/-- A stop finds the token of each engine that runs its workers, and no engine comes to its
workers that an earlier stop did not find and none cancelled since. -/
def Finds (self : Lives) : LivesEvent → Prop
  | .stop => ∀ index engine, self.engines[index]? = some engine → engine.point = .running →
      engine.cancelled = false → self.slots.engineCancel = some index
  | .engine index .go => ∀ engine, self.engines[index]? = some engine →
      engine.point = .resetting .ended → engine.missed = true → engine.cancelled = true
  | _ => True

/-- What an engine was told is that it is cancelled, or that it was missed. -/
def Marked (engine : EngineLife) : Prop :=
  (engine.stopped = true → engine.cancelled = true ∨ engine.missed = true) ∧
    (engine.missed = true → engine.stopped = true)

theorem marked_spawned (arguments : EngineArguments) : Marked (EngineLife.spawned arguments) :=
  ⟨Bool.noConfusion, Bool.noConfusion⟩

theorem Marked.of_lived {moved : EngineLife} (marked : Marked engine)
    (lived : EngineLife.Lived engine moved choice) : Marked moved := by
  constructor
  · intro stopped
    rw [lived.stopped] at stopped
    rw [lived.missed]
    exact (marked.1 stopped).imp_left lived.cancelled
  · intro missed
    rw [lived.missed] at missed
    rw [lived.stopped]
    exact marked.2 missed

theorem marked_told (found : Bool) (engine : EngineLife) : Marked (told found engine) := by
  refine ⟨fun _ => ?_, fun _ => rfl⟩
  cases found with
  | true => exact Or.inl (Bool.or_true _)
  | false => exact Or.inr (Bool.or_true _)

/-- The step lemma of the marks. -/
theorem marked_step (marked : ∀ engine ∈ state.engines, Marked engine) (event : LivesEvent) :
    ∀ engine ∈ (state.step event).1.engines, Marked engine := by
  cases event with
  | start arguments =>
    intro engine mem
    rcases List.mem_append.mp mem with old | new
    · exact marked engine old
    · rw [List.mem_singleton.mp new]
      exact marked_spawned arguments
  | stop =>
    intro engine mem
    obtain ⟨index, bound, rfl⟩ := List.mem_mapIdx.mp mem
    exact marked_told _ _
  | engine index choice =>
    rw [step]
    cases here : state.engines[index]? with
    | none => exact marked
    | some engine =>
      cases next : engine.next index state.slots choice with
      | none => simpa only [next] using marked
      | some after =>
        simp only [next]
        intro other mem
        rcases List.mem_or_eq_of_mem_set mem with old | rfl
        · exact marked other old
        · exact (marked engine (List.mem_of_getElem? here)).of_lived (EngineLife.lived_next next)
  | tick elapsed => exact marked
  | noteUplink packet => exact marked
  | uplink index =>
    rw [step]
    split
    · exact marked
    · exact marked

/-- A stop reaches all engines exactly if it finds those that run. -/
theorem reached_stop_iff : state.csqttEngineStop.Reached ↔ state.Finds .stop := by
  constructor
  · intro reached index engine here runs uncancelled
    have there : state.csqttEngineStop.engines[index]? =
        some (told (state.slots.engineCancel = some index) engine) := by
      rw [csqttEngineStop, List.getElem?_mapIdx, here]
      rfl
    have found := reached _ (List.mem_of_getElem? there) rfl runs
    rw [told, uncancelled] at found
    exact of_decide_eq_true found
  · intro finds engine mem _ runs
    obtain ⟨index, bound, rfl⟩ := List.mem_mapIdx.mp mem
    cases cancelled : state.engines[index].cancelled with
    | true => exact Bool.or_eq_true_iff.mpr (Or.inl cancelled)
    | false =>
      have found := finds index _ (List.getElem?_eq_getElem bound) runs cancelled
      exact Bool.or_eq_true_iff.mpr (Or.inr (decide_eq_true found))

/-- An engine that moves stays reached, unless it comes to its workers. -/
theorem reached_moved_iff (reached : state.Reached)
    (marked : ∀ engine ∈ state.engines, Marked engine) (here : state.engines[index]? = some engine)
    (next : engine.next index state.slots choice = some after) :
    (state.moved index after).Reached ↔ state.Finds (.engine index choice) := by
  have mem := List.mem_of_getElem? here
  have bound := (List.getElem?_eq_some_iff.mp here).1
  have lived := EngineLife.lived_next next
  constructor
  · intro reached'
    cases choice with
    | go =>
      intro other there comes missed
      rw [here] at there
      cases there
      simp only [EngineLife.next, EngineLife.advance, comes] at next
      cases next
      have runs := reached' { engine with point := .running } (List.mem_set bound _)
      exact runs ((marked engine mem).2 missed) rfl
    | _ => trivial
  · intro finds other mem' stopped runs
    rcases List.mem_or_eq_of_mem_set mem' with old | rfl
    · exact reached other old stopped runs
    · rw [lived.stopped] at stopped
      by_cases ran : engine.point = .running
      · exact lived.cancelled (reached engine mem stopped ran)
      · obtain ⟨rfl, comes, same⟩ := lived.running runs ran
        rw [same]
        rcases (marked engine mem).1 stopped with cancelled | missed
        · exact cancelled
        · exact finds engine here comes missed

theorem reached_step_iff (marked : ∀ engine ∈ state.engines, Marked engine)
    (reached : state.Reached) (event : LivesEvent) :
    (state.step event).1.Reached ↔ state.Finds event := by
  cases event with
  | start arguments =>
    refine iff_of_true ?_ trivial
    intro engine mem stopped
    rcases List.mem_append.mp mem with old | new
    · exact reached engine old stopped
    · rw [List.mem_singleton.mp new] at stopped
      cases stopped
  | stop => exact reached_stop_iff
  | engine index choice =>
    rw [step]
    cases here : state.engines[index]? with
    | none =>
      refine iff_of_true reached ?_
      cases choice with
      | go =>
        intro engine there
        rw [here] at there
        cases there
      | _ => trivial
    | some engine =>
      cases next : engine.next index state.slots choice with
      | none =>
        simp only [next]
        refine iff_of_true reached ?_
        cases choice with
        | go =>
          intro other there comes
          rw [here] at there
          cases there
          simp only [EngineLife.next, EngineLife.advance, comes] at next
          cases next
        | _ => trivial
      | some after =>
        simp only [next]
        exact reached_moved_iff reached marked here next
  | tick elapsed => exact iff_of_true reached trivial
  | noteUplink packet => exact iff_of_true reached trivial
  | uplink index =>
    rw [step]
    split
    · exact iff_of_true reached trivial
    · exact iff_of_true reached trivial

/-- However starts, stops and the steps of the engines interleave, every stop reaches every
engine started before exactly if each finds the tokens of those that run, and no engine comes
to its workers that a stop has missed. -/
theorem reached_iff_finds (events : List LivesEvent) :
    Transducer.Throughout step initial events Reached ↔
      Transducer.AtEveryStep step initial events Finds :=
  @Transducer.throughout_iff_atEveryStep _ _ _ step
    (fun state => ∀ engine ∈ state.engines, Marked engine) Reached Finds initial events
    (fun _ mem => absurd mem List.not_mem_nil) (fun _ mem => absurd mem List.not_mem_nil)
    (fun _ event marked _ => marked_step marked event)
    (fun _ event marked reached => reached_step_iff marked reached event)

instance : DecidablePred Reached := fun self =>
  inferInstanceAs (Decidable (∀ engine ∈ self.engines, engine.stopped = true →
    engine.point = .running → engine.cancelled = true))

/-- The host stops an engine that is still in its start-up, which then runs its workers. -/
theorem stop_missed : ∃ events : List LivesEvent,
    ¬ Transducer.Throughout step initial events Reached := by
  refine ⟨[.start { mode := .udp, workers := 9, idle := { keep := 2, after := 180 } }, .stop] ++
    List.replicate 5 (.engine 0 .go) ++ [.engine 0 (.dispatched 40000)] ++
      List.replicate 137 (.engine 0 .go), ?_⟩
  intro holds
  exact absurd (holds _ (List.prefix_refl _)) (by decide +kernel)

end Lives

end Csqtt
