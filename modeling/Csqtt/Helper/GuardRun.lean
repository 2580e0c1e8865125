/-
Module: Csqtt.Helper.GuardRun
Purpose: The guard with any number of goroutines at once: each step lets one of them
  go on to its next point, or lets time pass, or begins another operation.
Trusted boundary: none
Main exports: GuardOperation, GuardEvent, Origin, Guarding, start, step
-/
import Csqtt.Core.Interleaving
import Csqtt.Core.Transducer
import Csqtt.Helper.GuardPoints

namespace Csqtt

inductive HostEvent where
  | netlost
  | netback
  | stall
  | handover
  | stop
deriving DecidableEq, Repr

/-- What reaches the guard from outside, each on a goroutine of its own. -/
inductive GuardOperation where
  | host (event : HostEvent)
  | netchange
  | wake
  | dialResult (result : DialResult)
  | waitForPath
deriving DecidableEq, Repr

/-- A stop only disconnects the engine. -/
def onHostEvent : HostEvent → Point
  | .netlost => .netlost
  | .netback => .resumeFromPause .netback .ended
  | .stall => onHandover .stall
  | .handover => onHandover .handover
  | .stop => .ended

def GuardOperation.point : GuardOperation → Point
  | .host event => onHostEvent event
  | .netchange => onHandover .netchange
  | .wake => .onWake
  | .dialResult result => .noteDialResult result
  | .waitForPath => .waitForPath

/-- The operation says that there is a network. A change of network is found by a probe
that went through. -/
def GuardOperation.proves : GuardOperation → Bool
  | .host .netback => true
  | .host .stall => true
  | .host .handover => true
  | .netchange => true
  | _ => false

/-- An engine that was started gets its pause gate some time later, or never. -/
inductive GuardEvent where
  | tick (elapsed : Nat)
  | begin (operation : GuardOperation)
  | run (index : Nat) (outside : Outside)
  | engineUp
  | engineFailed
deriving DecidableEq, Repr

/-- The operation that a goroutine goes back to, by its number, and when it was last
told that there is a network: the number of operations begun by then. -/
structure Origin where
  operation : Nat
  evidence : Option Nat
deriving DecidableEq, Repr

abbrev Goroutine := Thread Point Origin

/-- The helper in a run, with what the run has seen so far: the operations begun, the
one that began the pause, the evidence behind the remembered handover, the recycles
started, and how many of them before the last rebind. -/
structure Guarding where
  helper : Helper
  goroutines : List Goroutine
  begun : Nat
  pausedBy : Nat
  remembered : Option Nat
  recycles : Nat
  recyclesAtRebind : Nat
deriving DecidableEq, Repr

namespace Guarding

def guard (self : Guarding) : DataPathGuard := self.helper.guard

/-- The guard is made when the first engine is ready. -/
def start (tunIP : String) (clock : Nat) : Guarding where
  helper :=
    { clock := clock
      guard := newDataPathGuard tunIP
      gate := some false
      starting := 0 }
  goroutines := []
  begun := 0
  pausedBy := 0
  remembered := none
  recycles := 0
  recyclesAtRebind := 0

/-- What a goroutine has been told after its next point: a probe that went through is
news, and a remembered handover comes with its own. -/
def told (self : Guarding) (hooks : Hooks) (outside : Outside) (current : Goroutine) :
    Option Nat :=
  match current.point with
  | .pausedProbe _ _ => if outside.networkUp then some self.begun else current.tag.evidence
  | .wakeProbe _ =>
      if hooks.probeFn && outside.networkUp then some self.begun else current.tag.evidence
  | .recycled => if self.guard.pendingHandover then self.remembered else current.tag.evidence
  | _ => current.tag.evidence

/-- The goroutine that a point starts. -/
def started (current : Goroutine) : List Goroutine :=
  match current.point with
  | .go call _ => [{ point := call.point, tag := current.tag }]
  | _ => []

/-- The goroutine at its next point. -/
def moved (self : Guarding) (hooks : Hooks) (outside : Outside) (current : Goroutine) :
    Goroutine where
  point := (self.helper.perform hooks outside current.point).2
  tag := { current.tag with evidence := self.told hooks outside current }

def ran (self : Guarding) (hooks : Hooks) (outside : Outside) (index : Nat)
    (current : Goroutine) : Guarding :=
  let after := self.helper.perform hooks outside current.point
  { helper := after.1
    goroutines :=
      Interleaving.advance self.goroutines index (self.moved hooks outside current)
        (started current)
    begun := self.begun
    pausedBy :=
      if !self.guard.paused && after.1.guard.paused then current.tag.operation else self.pausedBy
    remembered :=
      match current.point with
      | .handover _ =>
          if self.guard.recycling && !self.guard.exiting then current.tag.evidence
          else self.remembered
      | _ => self.remembered
    recycles :=
      if !self.guard.recycling && after.1.guard.recycling then self.recycles + 1
      else self.recycles
    recyclesAtRebind :=
      if self.guard.rebindGen ≠ after.1.guard.rebindGen then self.recycles
      else self.recyclesAtRebind }

def beginning (self : Guarding) (operation : GuardOperation) : Goroutine where
  point := operation.point
  tag :=
    { operation := self.begun
      evidence := if operation.proves then some self.begun else none }

/-- The output is the point that was left. -/
def step (hooks : Hooks) (self : Guarding) : GuardEvent → Guarding × Option Point
  | .tick elapsed =>
      ({ self with helper := { self.helper with clock := self.helper.clock + elapsed } }, none)
  | .begin operation =>
      ({ self with
          goroutines := self.goroutines ++ [self.beginning operation]
          begun := self.begun + 1 }, none)
  | .run index outside =>
      match self.goroutines[index]? with
      | none => (self, none)
      | some current => (self.ran hooks outside index current, some current.point)
  | .engineUp =>
      if self.helper.starting = 0 then (self, none)
      else
        ({ self with
            helper :=
              { self.helper with
                gate := some false
                starting := self.helper.starting - 1 } }, none)
  | .engineFailed =>
      ({ self with helper := { self.helper with starting := self.helper.starting - 1 } }, none)

/-- The state after a run from the start. -/
def reached (hooks : Hooks) (tunIP : String) (clock : Nat) (events : List GuardEvent) :
    Guarding :=
  (Transducer.run (step hooks) (start tunIP clock) events).1

end Guarding

end Csqtt
