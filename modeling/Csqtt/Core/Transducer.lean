/-
Module: Csqtt.Core.Transducer
Purpose: Runs of a deterministic step function that consumes one input and emits
  one output, with the rules that lift a fact about one step to a whole run.
Trusted boundary: none
Main exports: run, run_invariant, run_rounds, run_history, Throughout, AtEveryStep,
  throughout_iff_atEveryStep, collect, run_conserves
-/
import Mathlib.Data.List.Infix
import Mathlib.Data.List.Perm.Basic

namespace Csqtt.Transducer

open scoped List

variable {State Input Output : Type*} (step : State → Input → State × Output)

/-- Final state and outputs, in order, of feeding a list of inputs. -/
def run : State → List Input → State × List Output
  | state, [] => (state, [])
  | state, input :: inputs =>
      let next := step state input
      let rest := run next.1 inputs
      (rest.1, next.2 :: rest.2)

@[simp] theorem run_nil (state : State) : run step state [] = (state, []) := rfl

@[simp] theorem run_cons (state : State) (input : Input) (inputs : List Input) :
    run step state (input :: inputs) =
      ((run step (step state input).1 inputs).1,
        (step state input).2 :: (run step (step state input).1 inputs).2) := rfl

theorem run_append (state : State) (first second : List Input) :
    run step state (first ++ second) =
      ((run step (run step state first).1 second).1,
        (run step state first).2 ++ (run step (run step state first).1 second).2) := by
  induction first generalizing state with
  | nil => simp
  | cons input inputs inductionHypothesis => simp [inductionHypothesis]

theorem run_append_fst (state : State) (first second : List Input) :
    (run step state (first ++ second)).1 = (run step (run step state first).1 second).1 := by
  rw [run_append]

@[simp] theorem run_concat (state : State) (inputs : List Input) (input : Input) :
    run step state (inputs ++ [input]) =
      ((step (run step state inputs).1 input).1,
        (run step state inputs).2 ++ [(step (run step state inputs).1 input).2]) := by
  simp [run_append]

theorem length_run (state : State) (inputs : List Input) :
    (run step state inputs).2.length = inputs.length := by
  induction inputs generalizing state with
  | nil => rfl
  | cons input inputs inductionHypothesis => simp [inductionHypothesis]

/-- Every output is that of one step, from the state that the inputs before it lead to. -/
theorem getElem?_run (state : State) (inputs : List Input) (index : Nat) :
    (run step state inputs).2[index]? =
      inputs[index]?.map fun input => (step (run step state (inputs.take index)).1 input).2 := by
  induction inputs generalizing state index with
  | nil => rfl
  | cons input inputs inductionHypothesis =>
      cases index with
      | zero => rfl
      | succ index =>
          rw [run_cons, List.getElem?_cons_succ, inductionHypothesis]
          rfl

/-- A property of states kept by every step is kept by every run. -/
theorem run_invariant {invariant : State → Prop}
    (keeps : ∀ state input, invariant state → invariant (step state input).1)
    (state : State) (inputs : List Input) (initial : invariant state) :
    invariant (run step state inputs).1 := by
  induction inputs generalizing state with
  | nil => exact initial
  | cons input inputs inductionHypothesis =>
      exact inductionHypothesis _ (keeps state input initial)

/-- What holds before the first of a number of rounds, and goes with every round from its number
to the next, holds after all of them. -/
theorem run_rounds {property : Nat → State → Prop} (round : Nat → List Input) (count : Nat)
    {state : State} (initial : property 0 state)
    (keeps : ∀ index < count, ∀ state, property index state →
      property (index + 1) (run step state (round index)).1) :
    property count (run step state ((List.range count).flatMap round)).1 := by
  induction count with
  | zero => exact initial
  | succ count inductionHypothesis =>
      have earlier := inductionHypothesis fun index before => keeps index (Nat.lt_succ_of_lt before)
      rw [List.range_succ, List.flatMap_append, run_append, List.flatMap_singleton]
      exact keeps count (Nat.lt_succ_self count) _ earlier

/-- A relation between the inputs consumed so far, the state and the outputs so
far that every step extends holds of the whole run. -/
theorem run_history {history : List Input → State → List Output → Prop} (state : State)
    (inputs : List Input) (initial : history [] state [])
    (extend : ∀ consumed input current outputs, consumed ++ [input] <+: inputs →
      run step state consumed = (current, outputs) → history consumed current outputs →
      history (consumed ++ [input]) (step current input).1
        (outputs ++ [(step current input).2])) :
    history inputs (run step state inputs).1 (run step state inputs).2 := by
  have everywhere : ∀ consumed, consumed <+: inputs →
      history consumed (run step state consumed).1 (run step state consumed).2 := by
    intro consumed within
    induction consumed using List.reverseRecOn with
    | nil => exact initial
    | append_singleton consumed input inductionHypothesis =>
        rw [run_concat]
        exact extend consumed input _ _ within rfl
          (inductionHypothesis ((List.prefix_append _ _).trans within))
  exact everywhere inputs (List.prefix_refl inputs)

/-- The property holds in every state a run passes through, the first and the
last included. -/
def Throughout (state : State) (inputs : List Input) (property : State → Prop) : Prop :=
  ∀ consumed, consumed <+: inputs → property (run step state consumed).1

/-- The condition holds of every input a run consumes, in the state it meets. -/
def AtEveryStep (state : State) (inputs : List Input) (condition : State → Input → Prop) : Prop :=
  ∀ consumed input, consumed ++ [input] <+: inputs →
    condition (run step state consumed).1 input

/-- A condition on each input with those before it is one for each index. -/
theorem forall_concat_prefix_iff {inputs : List Input} {condition : List Input → Input → Prop} :
    (∀ consumed input, consumed ++ [input] <+: inputs → condition consumed input) ↔
      ∀ index : Fin inputs.length, condition (inputs.take index) (inputs.get index) := by
  constructor
  · intro meets index
    refine meets _ _ ?_
    rw [List.get_eq_getElem, List.take_append_getElem index.isLt]
    exact List.take_prefix _ _
  · rintro meets consumed input ⟨rest, rfl⟩
    rw [List.append_assoc] at meets
    have short : consumed.length < (consumed ++ ([input] ++ rest)).length := by simp
    have here := meets ⟨consumed.length, short⟩
    rwa [List.take_left, List.get_eq_getElem, List.getElem_append_right (Nat.le_refl _),
      getElem_congr_idx (Nat.sub_self _)] at here

theorem atEveryStep_concat {state : State} {inputs : List Input} {input : Input}
    {condition : State → Input → Prop} :
    AtEveryStep step state (inputs ++ [input]) condition ↔
      AtEveryStep step state inputs condition ∧ condition (run step state inputs).1 input := by
  constructor
  · exact fun meets => ⟨fun consumed next within =>
      meets consumed next (within.trans (List.prefix_append _ _)),
      meets inputs input (List.prefix_refl _)⟩
  · rintro ⟨meets, last⟩ consumed next within
    rcases List.prefix_concat_iff.mp within with whole | shorter
    · obtain ⟨rfl, same⟩ := List.append_inj' whole rfl
      rw [← List.singleton_injective same] at last
      exact last
    · exact meets consumed next shorter

theorem atEveryStep_nil {state : State} {condition : State → Input → Prop} :
    AtEveryStep step state [] condition := by
  intro consumed input within
  cases List.append_ne_nil_of_right_ne_nil consumed (List.cons_ne_nil input [])
    (List.prefix_nil.mp within)

theorem atEveryStep_cons {state : State} {input : Input} {inputs : List Input}
    {condition : State → Input → Prop} :
    AtEveryStep step state (input :: inputs) condition ↔
      condition state input ∧ AtEveryStep step (step state input).1 inputs condition := by
  constructor
  · intro meets
    constructor
    · exact meets [] input (List.cons_prefix_cons.mpr ⟨rfl, List.nil_prefix⟩)
    · intro consumed next within
      exact meets (input :: consumed) next (List.cons_prefix_cons.mpr ⟨rfl, within⟩)
  · rintro ⟨first, later⟩ consumed next within
    cases consumed with
    | nil =>
        obtain ⟨rfl, -⟩ := List.cons_prefix_cons.mp within
        exact first
    | cons head consumed =>
        obtain ⟨rfl, rest⟩ := List.cons_prefix_cons.mp within
        exact later consumed next rest

/-- A run of given inputs can be checked step by step. -/
instance decidableAtEveryStep (condition : State → Input → Prop) [DecidableRel condition] :
    ∀ state inputs, Decidable (AtEveryStep step state inputs condition)
  | _, [] => isTrue (atEveryStep_nil step)
  | state, input :: inputs =>
      haveI := decidableAtEveryStep condition (step state input).1 inputs
      decidable_of_iff _ (atEveryStep_cons step).symm

theorem AtEveryStep.of_prefix {step : State → Input → State × Output} {state : State}
    {consumed inputs : List Input} {condition : State → Input → Prop}
    (meets : AtEveryStep step state inputs condition) (within : consumed <+: inputs) :
    AtEveryStep step state consumed condition :=
  fun earlier input inside => meets earlier input (inside.trans within)

/-- A property of states kept by every step that meets the condition is kept by every
run whose steps all meet it. -/
theorem invariant_of_atEveryStep {invariant : State → Prop} {condition : State → Input → Prop}
    (keeps : ∀ state input, invariant state → condition state input →
      invariant (step state input).1)
    {state : State} {inputs : List Input} (initial : invariant state)
    (meets : AtEveryStep step state inputs condition) : invariant (run step state inputs).1 := by
  induction inputs using List.reverseRecOn with
  | nil => exact initial
  | append_singleton inputs input inductionHypothesis =>
      obtain ⟨earlier, last⟩ := (atEveryStep_concat step).mp meets
      rw [run_concat]
      exact keeps _ input (inductionHypothesis earlier) last

/-- If, wherever the auxiliary invariant and the property hold, a step on an admitted
input keeps the first, and keeps the second exactly under the condition, then the property
holds throughout a run on such inputs exactly when the run meets the condition at every
step. -/
theorem throughout_iff_atEveryStep_of {auxiliary property : State → Prop}
    {condition : State → Input → Prop} {admitted : Input → Prop} {state : State}
    {inputs : List Input} (auxiliaryInitial : auxiliary state) (propertyInitial : property state)
    (auxiliaryKept : ∀ state input, admitted input → auxiliary state → property state →
      auxiliary (step state input).1)
    (exactStep : ∀ state input, admitted input → auxiliary state → property state →
      (property (step state input).1 ↔ condition state input))
    (all : ∀ input ∈ inputs, admitted input) :
    Throughout step state inputs property ↔ AtEveryStep step state inputs condition := by
  have allowed {consumed : List Input} {input : Input} (within : consumed ++ [input] <+: inputs) :
      admitted input :=
    all input (within.subset (List.mem_append_right _ List.mem_cons_self))
  constructor
  · intro holds
    have auxiliaryHolds : ∀ consumed, consumed <+: inputs →
        auxiliary (run step state consumed).1 := by
      intro consumed within
      -- The consumed inputs grow at the end, so the induction is on their last element.
      induction consumed using List.reverseRecOn with
      | nil => exact auxiliaryInitial
      | append_singleton consumed input inductionHypothesis =>
          have shorter := (List.prefix_append _ _).trans within
          rw [run_concat]
          exact auxiliaryKept _ input (allowed within) (inductionHypothesis shorter)
            (holds consumed shorter)
    intro consumed input within
    have shorter := (List.prefix_append _ _).trans within
    have after := holds (consumed ++ [input]) within
    rw [run_concat] at after
    exact (exactStep _ input (allowed within) (auxiliaryHolds consumed shorter)
      (holds consumed shorter)).mp after
  · intro meets
    have both : ∀ consumed, consumed <+: inputs →
        auxiliary (run step state consumed).1 ∧ property (run step state consumed).1 := by
      intro consumed within
      induction consumed using List.reverseRecOn with
      | nil => exact ⟨auxiliaryInitial, propertyInitial⟩
      | append_singleton consumed input inductionHypothesis =>
          obtain ⟨sound, before⟩ := inductionHypothesis ((List.prefix_append _ _).trans within)
          rw [run_concat]
          exact ⟨auxiliaryKept _ input (allowed within) sound before,
            (exactStep _ input (allowed within) sound before).mpr (meets _ _ within)⟩
    exact fun consumed within => (both consumed within).2

/-- The same where every input is admitted. -/
theorem throughout_iff_atEveryStep {auxiliary property : State → Prop}
    {condition : State → Input → Prop} {state : State} {inputs : List Input}
    (auxiliaryInitial : auxiliary state) (propertyInitial : property state)
    (auxiliaryKept : ∀ state input, auxiliary state → property state →
      auxiliary (step state input).1)
    (exactStep : ∀ state input, auxiliary state → property state →
      (property (step state input).1 ↔ condition state input)) :
    Throughout step state inputs property ↔ AtEveryStep step state inputs condition :=
  throughout_iff_atEveryStep_of step auxiliaryInitial propertyInitial
    (fun state input (_ : True) => auxiliaryKept state input)
    (fun state input _ => exactStep state input) fun _ _ => trivial

/-!
### Conservation

What a run takes in is what it emits, what it gives up and what it still holds.
-/

/-- What an observer sees at every step of a run, taken together. -/
def collect {Item : Type*} (observe : State → Input → List Item) :
    State → List Input → List Item
  | _, [] => []
  | state, input :: inputs => observe state input ++ collect observe (step state input).1 inputs

theorem collect_concat {Item : Type*} (observe : State → Input → List Item) (state : State)
    (inputs : List Input) (input : Input) :
    collect step observe state (inputs ++ [input]) =
      collect step observe state inputs ++ observe (run step state inputs).1 input := by
  induction inputs generalizing state with
  | nil => simp [collect]
  | cons first inputs inductionHypothesis => simp [collect, inductionHypothesis]

/-- If every step conserves items, with two ways to give them up, so does a run. -/
theorem run_conserves {Item : Type*} {invariant : State → Prop} {held : State → List Item}
    {offered : Input → Item} {first second : State → Input → List Item}
    {step : State → Input → State × List Item}
    (keeps : ∀ state input, invariant state → invariant (step state input).1)
    (balanced : ∀ state input, invariant state →
      held state ++ [offered input] ~
        (step state input).2 ++ first state input ++ second state input ++
          held (step state input).1)
    {state : State} (inputs : List Input) (initial : invariant state) (empty : held state = []) :
    inputs.map offered ~
      (run step state inputs).2.flatten ++ collect step first state inputs ++
        collect step second state inputs ++ held (run step state inputs).1 := by
  classical
  induction inputs using List.reverseRecOn with
  | nil => simp [collect, empty]
  | append_singleton inputs input inductionHypothesis =>
      have here := balanced (run step state inputs).1 input
        (run_invariant step keeps state inputs initial)
      rw [run_concat, collect_concat, collect_concat, List.map_append, List.map_singleton,
        List.flatten_append, List.flatten_singleton]
      simp only [List.perm_iff_count, List.count_append] at here inductionHypothesis ⊢
      intro item
      have now := here item
      have before := inductionHypothesis item
      omega

end Csqtt.Transducer
