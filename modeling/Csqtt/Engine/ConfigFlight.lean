/-
Module: Csqtt.Engine.ConfigFlight
Purpose: The workers of an engine and the flag that lets one of them ask for the configuration
  at a time: each step is one atomic operation of a worker.
Trusted boundary: sessions end as they may; the order of atomic operations is one for all workers
Main exports: ConfigFlags, FlightPoint, FlightPoint.next, ConfigFlight, step
-/
import Csqtt.Core.Interleaving
import Csqtt.Core.Transducer

namespace Csqtt

/-- `config_sent`, `config_in_flight`, the active connections and the engine's cancellation. -/
structure ConfigFlags where
  sent : Bool
  inFlight : Bool
  activeConnections : Int
  cancelled : Bool
deriving DecidableEq, Repr

inductive ConfigOutcome where
  | delivered
  | noConfig
  | failed
deriving DecidableEq, Repr

/-- The points of a worker's loop, with the `acquired` of its guard. A session connects and
requests the configuration; `storing` and `clearing` are the two halves of
`ConfigDeliveryState::complete`, which only a worker that acquired calls. At `dropping` the
session's result is there, with whether the request was completed before. -/
inductive FlightPoint where
  | idle
  | loaded
  | session (acquired : Bool)
  | storing
  | clearing (outcome : ConfigOutcome)
  | joining (acquired : Bool)
  | active (acquired : Bool)
  | dropping (acquired completed wasReady failed : Bool)
  | looking (wasReady failed : Bool)
  | swapping
deriving DecidableEq, Repr

/-- How a wait of a session ends. -/
inductive FlightChoice where
  | go
  | answers (outcome : ConfigOutcome)
  | ends (failed : Bool)
deriving DecidableEq, Repr

def shouldRefreshConfigurationAfterFullOutage (wasReady failed : Bool) (activeConnections : Int)
    (cancelled : Bool) : Bool :=
  wasReady && failed && decide (activeConnections = 0) && !cancelled

namespace FlightPoint

/-- Behind a request whose completion is done, or that nobody waits for. -/
def answered (acquired : Bool) : ConfigOutcome → FlightPoint
  | .failed => .dropping acquired true false true
  | _ => .joining acquired

/-- One operation of a worker. -/
def next (flags : ConfigFlags) : FlightPoint → FlightChoice → Option (ConfigFlags × FlightPoint)
  | .idle, .go => some (flags, if flags.sent then .session false else .loaded)
  | .loaded, .go =>
      some (if flags.inFlight then (flags, .session false)
        else ({ flags with inFlight := true }, .session true))
  | .session acquired, .ends failed => some (flags, .dropping acquired false false failed)
  | .session true, .answers .delivered => some (flags, .storing)
  | .session true, .answers outcome => some (flags, .clearing outcome)
  | .session false, .answers outcome => some (flags, answered false outcome)
  | .storing, .go => some ({ flags with sent := true }, .clearing .delivered)
  | .clearing outcome, .go => some ({ flags with inFlight := false }, answered true outcome)
  | .joining acquired, .go =>
      some ({ flags with activeConnections := flags.activeConnections + 1 }, .active acquired)
  | .active acquired, .ends failed =>
      some ({ flags with activeConnections := flags.activeConnections - 1 },
        .dropping acquired true true failed)
  | .dropping acquired _ wasReady failed, .go =>
      some (if acquired then { flags with inFlight := false } else flags, .looking wasReady failed)
  | .looking wasReady failed, .go =>
      some (flags,
        if shouldRefreshConfigurationAfterFullOutage wasReady failed flags.activeConnections
          flags.cancelled then .swapping else .idle)
  | .swapping, .go => some ({ flags with sent := false }, .idle)
  | _, _ => none

/-- The worker is between a successful acquire and the completion of its request; a request
that will never be made is given up with the guard. -/
def flying : FlightPoint → Bool
  | .session true => true
  | .storing => true
  | .clearing _ => true
  | .dropping true false _ _ => true
  | _ => false

/-- The next operation clears the flag. -/
def clears : FlightPoint → Bool
  | .clearing _ => true
  | .dropping true _ _ _ => true
  | _ => false

/-- The next operation is the compare-exchange of `try_acquire`. -/
def tries : FlightPoint → Bool
  | .loaded => true
  | _ => false

end FlightPoint

/-- A worker's tag, which the code does not keep, says that the flag was cleared since the
worker last tried to set it. -/
abbrev FlightWorker := Thread FlightPoint Bool

structure ConfigFlight where
  flags : ConfigFlags
  workers : List FlightWorker
deriving DecidableEq, Repr

inductive FlightEvent where
  | cancel
  | move (worker : Nat) (choice : FlightChoice)
deriving DecidableEq, Repr

namespace ConfigFlight

def start (workers : Nat) : ConfigFlight where
  flags := { sent := false, inFlight := false, activeConnections := 0, cancelled := false }
  workers := List.replicate workers { point := .idle, tag := false }

/-- All have seen the flag cleared, if it is. -/
def cleared (clears : Bool) (workers : List FlightWorker) : List FlightWorker :=
  workers.map fun worker => { worker with tag := worker.tag || clears }

/-- What the worker that moved has seen of the flag. -/
def seen (worker : FlightWorker) : Bool :=
  !worker.point.tries && (worker.tag || worker.point.clears)

def moved (self : ConfigFlight) (index : Nat) (worker : FlightWorker)
    (after : ConfigFlags × FlightPoint) : ConfigFlight where
  flags := after.1
  workers := Interleaving.advance (cleared worker.point.clears self.workers) index
    { point := after.2, tag := seen worker } []

/-- A step that a worker cannot take leaves the state as it is. -/
def step (self : ConfigFlight) : FlightEvent → ConfigFlight × Unit
  | .cancel => ({ self with flags := { self.flags with cancelled := true } }, ())
  | .move index choice =>
      match self.workers[index]? with
      | none => (self, ())
      | some worker =>
          match worker.point.next self.flags choice with
          | none => (self, ())
          | some after => (self.moved index worker after, ())

/-- At most one worker at a time is between its acquire and the completion. -/
def Exclusive (self : ConfigFlight) : Prop :=
  self.workers.countP (·.point.flying) ≤ 1

instance : DecidablePred Exclusive := fun self =>
  inferInstanceAs (Decidable (self.workers.countP (·.point.flying) ≤ 1))

end ConfigFlight

end Csqtt
