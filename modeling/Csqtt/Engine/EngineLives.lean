/-
Module: Csqtt.Engine.EngineLives
Purpose: The lives of the engines of one process, from the host's start to the end of the
  shutdown, and the process-wide slots they all store to: each step is one store.
Trusted boundary: a call of the host is one step; sessions are what they do to the idle counters
Main exports: ProcessSlots, LifePoint, EngineLife, EngineLife.next, Lives, step
-/
import Csqtt.Core.Text
import Csqtt.Core.Transducer
import Csqtt.Engine.Idle

namespace Csqtt

/-- The statics. An engine's token, its gate and its bridge are known by the number of the
engine; `accepting` is that of the log writer. -/
structure ProcessSlots where
  engineCancel : Option Nat
  enginePause : Option Nat
  uplink : Option Nat
  bridgeReady : Bool
  packetPort : U16
  tunIp : Text
  tunDns : Text
  idle : Idle
  accepting : Bool
deriving DecidableEq, Repr

/-- Where the dispatcher takes packets from. -/
inductive DispatchMode where
  | tun
  | bridge
  | udp
deriving DecidableEq, Repr

structure EngineArguments where
  mode : DispatchMode
  workers : Nat
  idle : IdleConfig
deriving DecidableEq, Repr

/-- The points of `run` that store to a slot, or wait: before the token is made all is
`bootstrapping`; behind `running` the shutdown begins. -/
inductive LifePoint where
  | bootstrapping
  | publishing
  | pausing
  | clearing
  | emptying
  | dispatching
  | installing
  | readying
  | porting (port : U16)
  | resetting (point : IdlePoint)
  | running
  | cancelling
  | unpausing
  | draining
  | joining
  | aborting
  | closing
  | returned
deriving DecidableEq, Repr

/-- The task of `write_bridge`, which takes the bridge down when it ends. -/
inductive BridgeWriter where
  | absent
  | writing
  | clearing
  | emptying
  | ended
deriving DecidableEq, Repr

/-- `lastConfig` and what is still to be stored of a configuration belong to the task that
receives them. The rest, which the code does not keep, says whether the task has stored an
address and servers, that a stop came, and that one came that did not find the engine's
token. -/
structure EngineLife where
  arguments : EngineArguments
  point : LifePoint
  cancelled : Bool
  writer : BridgeWriter
  lastConfig : Option Text
  telling : Option Text
  calls : List IdleTask
  ipStored : Bool
  dnsStored : Bool
  stopped : Bool
  missed : Bool
deriving DecidableEq, Repr

inductive LifeChoice where
  | go
  | fail
  | quit
  | dispatched (port : U16)
  | completed
  | cancel
  | writer
  | config (config : Text)
  | dns
  | call (operation : IdleOperation)
  | idle (index : Nat) (answered : Bool)
deriving DecidableEq, Repr

def tunconfMarker : Text := ['T', 'U', 'N', 'C', 'O', 'N', 'F', ':']

/-- The address and the servers of a configuration for the tunnel. -/
def tunconf (config : Text) : Option (Text × Text) :=
  if tunconfMarker.isPrefixOf config then
    let value := config.drop tunconfMarker.length
    some (value.takeWhile (· ≠ ':'), ((value.dropWhile (· ≠ ':')).drop 1).takeWhile (· ≠ ':'))
  else none

namespace ProcessSlots

def initial : ProcessSlots where
  engineCancel := none
  enginePause := none
  uplink := none
  bridgeReady := false
  packetPort := 0
  tunIp := []
  tunDns := []
  idle := .initial
  accepting := true

def clearBridge (self : ProcessSlots) : ProcessSlots :=
  { self with bridgeReady := false, uplink := none }

end ProcessSlots

namespace EngineLife

def spawned (arguments : EngineArguments) : EngineLife where
  arguments := arguments
  point := .bootstrapping
  cancelled := false
  writer := .absent
  lastConfig := none
  telling := none
  calls := []
  ipStored := false
  dnsStored := false
  stopped := false
  missed := false

/-- The tasks that the run started are still there. -/
def tasked : LifePoint → Bool
  | .running | .cancelling | .unpausing | .draining | .joining | .aborting => true
  | _ => false

/-- So are the sessions of its workers. -/
def grouped : LifePoint → Bool
  | .running | .cancelling | .unpausing | .draining => true
  | _ => false

/-- The token can be cancelled by the tasks that were given it. -/
def cancellable : LifePoint → Bool
  | .bootstrapping | .publishing | .pausing | .returned => false
  | _ => true

/-- Whether an operation of the idle mode is one of the monitor's or of a session's, and its
task may still begin it. -/
def admits (self : EngineLife) : IdleOperation → Bool
  | .monitor _ => tasked self.point && !self.cancelled
  | .register _ _ => grouped self.point
  | .notePathLost _ => grouped self.point
  | _ => false

def ended (task : IdleTask) : Bool := task.point == .ended

/-- What ends with the sessions. -/
def ofSession (task : IdleTask) : Bool :=
  match task.tag with
  | .monitor _ => false
  | _ => true

/-- No session of a worker is in the midst of anything. -/
def quiet (self : EngineLife) : Bool := self.calls.all fun task => ended task || !ofSession task

/-- The next operation of the run itself. -/
def advance (self : EngineLife) (number : Nat) (slots : ProcessSlots) :
    Option (ProcessSlots × EngineLife) :=
  match self.point with
  | .bootstrapping => some (slots, { self with point := .publishing })
  | .publishing => some ({ slots with engineCancel := some number }, { self with point := .pausing })
  | .pausing => some ({ slots with enginePause := some number }, { self with point := .clearing })
  | .clearing => some ({ slots with bridgeReady := false }, { self with point := .emptying })
  | .emptying => some ({ slots with uplink := none }, { self with point := .dispatching })
  | .dispatching => none
  | .installing => some ({ slots with uplink := some number }, { self with point := .readying })
  | .readying =>
      some ({ slots with bridgeReady := true },
        { self with point := .porting 0, writer := .writing })
  | .porting port =>
      some ({ slots with packetPort := port },
        { self with point := .resetting (.resetTotal self.arguments.workers) })
  | .resetting point =>
      if point = .ended then some (slots, { self with point := .running })
      else
        let after := slots.idle.perform self.arguments.idle false point
        some ({ slots with idle := after.1 }, { self with point := .resetting after.2 })
  | .running => if self.cancelled then some (slots, { self with point := .cancelling }) else none
  | .cancelling => some (slots, { self with point := .unpausing, cancelled := true })
  | .unpausing => some ({ slots with enginePause := none }, { self with point := .draining })
  | .draining =>
      if self.quiet then some (slots, { self with point := .joining }) else none
  | .joining =>
      if self.writer = .absent ∨ self.writer = .ended then
        some (slots, { self with point := .aborting })
      else none
  | .aborting =>
      if self.telling = none ∧ self.calls.all ended = true then
        some (slots, { self with point := .closing })
      else none
  | .closing => some ({ slots with accepting := false }, { self with point := .returned })
  | .returned => none

/-- The dispatcher of a bridge needs no port and cannot fail. -/
def dispatch (self : EngineLife) (port : U16) : EngineLife :=
  match self.arguments.mode with
  | .tun => { self with point := .porting 0 }
  | .bridge => { self with point := .installing }
  | .udp => { self with point := .porting port }

/-- The writer of the bridge ends with the engine. -/
def write (self : EngineLife) (slots : ProcessSlots) : Option (ProcessSlots × EngineLife) :=
  match self.writer with
  | .writing => if self.cancelled then some (slots, { self with writer := .clearing }) else none
  | .clearing => some ({ slots with bridgeReady := false }, { self with writer := .emptying })
  | .emptying => some ({ slots with uplink := none }, { self with writer := .ended })
  | _ => none

/-- The task for configurations passes over one that it has just had. -/
def configure (self : EngineLife) (slots : ProcessSlots) (config : Text) :
    Option (ProcessSlots × EngineLife) :=
  if tasked self.point ∧ self.telling = none ∧ self.lastConfig ≠ some config then
    match tunconf config with
    | none => some (slots, { self with lastConfig := some config })
    | some (ip, dns) =>
        some ({ slots with tunIp := ip },
          { self with lastConfig := some config, telling := some dns, ipStored := true })
  else none

/-- One step of an engine. A check of the call hashes is over without a word. -/
def next (self : EngineLife) (number : Nat) (slots : ProcessSlots) :
    LifeChoice → Option (ProcessSlots × EngineLife)
  | .go => self.advance number slots
  | .fail =>
      if self.point = .bootstrapping ∨ self.point = .dispatching ∧ self.arguments.mode ≠ .bridge then
        some (slots, { self with point := .closing })
      else none
  | .quit =>
      if self.point = .bootstrapping then some (slots, { self with point := .returned }) else none
  | .dispatched port =>
      if self.point = .dispatching then some (slots, self.dispatch port) else none
  | .completed =>
      if self.point = .running ∧ self.quiet = true then
        some (slots, { self with point := .cancelling })
      else none
  | .cancel =>
      if cancellable self.point then some (slots, { self with cancelled := true }) else none
  | .writer => self.write slots
  | .config config => self.configure slots config
  | .dns =>
      match self.telling with
      | none => none
      | some dns =>
          if tasked self.point then
            some ({ slots with tunDns := dns }, { self with telling := none, dnsStored := true })
          else none
  | .call operation =>
      if self.admits operation then
        some (slots, { self with
          calls := self.calls ++ [{ point := operation.point, tag := operation }] })
      else none
  | .idle index answered =>
      match self.calls[index]? with
      | none => none
      | some task =>
          if tasked self.point then
            let after := slots.idle.perform self.arguments.idle answered task.point
            some ({ slots with idle := after.1 }, { self with
              calls := Interleaving.advance self.calls index { task with point := after.2 } [] })
          else none

end EngineLife

/-- The engines in the order of their starts, and the host's own calls of `note_uplink`. -/
structure Lives where
  slots : ProcessSlots
  engines : List EngineLife
  uplinks : List IdlePoint
deriving DecidableEq, Repr

inductive LivesEvent where
  | start (arguments : EngineArguments)
  | stop
  | engine (index : Nat) (choice : LifeChoice)
  | tick (elapsed : Nat)
  | noteUplink (packet : List U8)
  | uplink (index : Nat)
deriving DecidableEq, Repr

namespace Lives

def initial : Lives where
  slots := .initial
  engines := []
  uplinks := []

def csqttEngineStart (self : Lives) (arguments : EngineArguments) : Lives :=
  { self with
    slots := { self.slots.clearBridge with packetPort := 0, tunIp := [], tunDns := [] }
    engines := self.engines ++ [EngineLife.spawned arguments] }

/-- What a stop is to an engine, whose token it finds or not. -/
def told (found : Bool) (engine : EngineLife) : EngineLife :=
  { engine with
    cancelled := engine.cancelled || found
    stopped := true
    missed := engine.missed || !found }

/-- The token in the slot is cancelled, and nobody waits for the engine. -/
def csqttEngineStop (self : Lives) : Lives :=
  { self with
    slots := { self.slots.clearBridge with enginePause := none }
    engines := self.engines.mapIdx fun index engine =>
      told (self.slots.engineCancel = some index) engine }

def moved (self : Lives) (index : Nat) (after : ProcessSlots × EngineLife) : Lives :=
  { self with slots := after.1, engines := self.engines.set index after.2 }

/-- The idle configuration is not read for a packet on its way up. -/
def noted (self : Lives) (index : Nat) (point : IdlePoint) : Lives :=
  let after := self.slots.idle.perform { keep := 0, after := 0 } false point
  { self with
    slots := { self.slots with idle := after.1 }
    uplinks := self.uplinks.set index after.2 }

def step (self : Lives) : LivesEvent → Lives × Unit
  | .start arguments => (self.csqttEngineStart arguments, ())
  | .stop => (self.csqttEngineStop, ())
  | .engine index choice =>
      match self.engines[index]? with
      | none => (self, ())
      | some engine =>
          match engine.next index self.slots choice with
          | none => (self, ())
          | some after => (self.moved index after, ())
  | .tick elapsed =>
      ({ self with slots := { self.slots with
          idle := { self.slots.idle with clock := self.slots.idle.clock + elapsed } } }, ())
  | .noteUplink packet => ({ self with uplinks := self.uplinks ++ [.uplinkActive packet] }, ())
  | .uplink index =>
      match self.uplinks[index]? with
      | none => (self, ())
      | some point => (self.noted index point, ())

end Lives

end Csqtt
