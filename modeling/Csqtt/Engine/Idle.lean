/-
Module: Csqtt.Engine.Idle
Purpose: The idle scale-down: the process-wide counters and what each function does to
  them, one atomic operation at a time, by any number of threads at once, and packets on their
  way up meanwhile.
Trusted boundary: the order of atomic operations is one for all threads; beside a packet on
  its way up no other call runs
Main exports: Idle, IdlePoint, perform, isTcpSyn, shouldEnter, Idle.alone, Arrival, IdleUplink,
  IdleUplink.step, IdleOperation, IdleEvent, Idling, start, step
-/
import Csqtt.Core.Interleaving
import Csqtt.Core.Transducer
import Csqtt.Core.Word

namespace Csqtt

def usizeMax : Nat := 2 ^ 64 - 1

structure IdleConfig where
  keep : Nat
  after : Nat
deriving DecidableEq, Repr

/-- The server accepts at most 126 workers; the slots are indexed by the worker's
number, which counts from one. -/
def joinedSlots : Nat := 127

/-- A quick burst is counted in two windows, one for new connections and one for all
packets. -/
inductive ExitWindow where
  | syns
  | packets
deriving DecidableEq, Repr

namespace ExitWindow

/-- So many within the window end the idle mode. -/
def limit : ExitWindow → Nat
  | .syns => 3
  | .packets => 12

def windowMs : ExitWindow → Nat
  | .syns => 3000
  | .packets => 1000

end ExitWindow

structure WindowCounter where
  start : Nat
  count : Nat
deriving DecidableEq, Repr

/-- The statics, and the milliseconds since the clock was first read. A slot holds the
offset that its worker joined with, plus one; zero if it never joined. -/
structure Idle where
  limit : Nat
  active : Bool
  totalWorkers : Nat
  declared : Nat
  genOffset : U64
  announce : U64
  syns : WindowCounter
  packets : WindowCounter
  joined : List U64
  clock : Nat
deriving DecidableEq, Repr

/-- What a worker registers with. The offset is read once more for the worker's own
note. -/
structure Registration where
  generation : U64
  offset : U64
  declared : Nat
deriving DecidableEq, Repr

/-- An IPv4 TCP segment that opens a connection. -/
def isTcpSyn (packet : List U8) : Bool :=
  if packet.length < 20 ∨ packet.getD 0 0 >>> 4 ≠ 4 ∨ packet.getD 9 0 ≠ 6 then false
  else
    let ihl := (packet.getD 0 0 &&& 0x0f).toNat * 4
    if ihl < 20 ∨ packet.length < ihl + 14 then false
    else
      let flags := packet.getD (ihl + 13) 0
      flags &&& 0x02 != 0 && flags &&& 0x10 == 0

def shouldEnter (quietFor after : Nat) (active : Bool) : Bool := !active && after ≤ quietFor

/-- The points of the functions: each is one atomic operation, one reading of the clock
or the wait for an answer. -/
inductive IdlePoint where
  | ended
  | resetTotal (totalWorkers : Nat)
  | resetDeclared (totalWorkers : Nat)
  | resetLimit
  | resetActive
  | resetOffset
  | resetAnnounce
  | resetJoined (slot : Nat)
  | monitorActive (quietFor : Nat)
  | enterTotal
  | enterSwap
  | enterLimit
  | enterDeclared
  | enterOffset
  | enterAnnounce
  | enterPackets
  | enterSyns
  | uplinkActive (packet : List U8)
  | uplinkClock (packet : List U8)
  | windowHit (window : ExitWindow) (nowMs : Nat)
  | windowRestart (window : ExitWindow) (nowMs : Nat)
  | windowRestarted (window : ExitWindow) (nowMs : Nat)
  | windowAdd (window : ExitWindow) (nowMs : Nat)
  | exitSwap
  | exitLimit
  | exitTotal
  | exitDeclared (totalWorkers : Nat)
  | exitAnnounce
  | payloadGeneration (worker : Nat) (base : U64)
  | payloadOffset (worker : Nat) (generation : U64)
  | payloadDeclared (worker : Nat) (generation offset : U64)
  | payloadTotal (worker : Nat) (generation offset : U64)
  | registering (worker : Nat) (registration : Registration)
  | pathJoined (worker : Nat) (offset : U64)
  | lostAllowed (worker : Nat)
  | lostSlot (worker : Nat)
  | lostCurrent (worker : Nat) (joined : U64)
  | lostExchange (worker : Nat) (current : U64)
  | lostCleared (worker : Nat)
  | lostAnnounce
deriving DecidableEq, Repr

namespace Idle

/-- The process has just begun. -/
def initial : Idle where
  limit := usizeMax
  active := false
  totalWorkers := 0
  declared := 0
  genOffset := 0
  announce := 0
  syns := { start := 0, count := 0 }
  packets := { start := 0, count := 0 }
  joined := List.replicate joinedSlots 0
  clock := 0

/-- The lowest numbers are the keepers. -/
def allows (self : Idle) (worker : Nat) : Bool := worker ≤ self.limit

def window (self : Idle) : ExitWindow → WindowCounter
  | .syns => self.syns
  | .packets => self.packets

def setWindow (self : Idle) (counter : WindowCounter) : ExitWindow → Idle
  | .syns => { self with syns := counter }
  | .packets => { self with packets := counter }

/-- A packet that opens a connection counts as a packet as well. -/
def notHit (nowMs : Nat) : ExitWindow → IdlePoint
  | .syns => .windowHit .packets nowMs
  | .packets => .ended

/-- One atomic operation of a function, and the point that follows. The answer to a
registration comes from outside. -/
def perform (config : IdleConfig) (answered : Bool) (self : Idle) : IdlePoint → Idle × IdlePoint
  | .ended => (self, .ended)
  -- reset
  | .resetTotal total => ({ self with totalWorkers := total }, .resetDeclared total)
  | .resetDeclared total => ({ self with declared := total }, .resetLimit)
  | .resetLimit => ({ self with limit := usizeMax }, .resetActive)
  | .resetActive => ({ self with active := false }, .resetOffset)
  | .resetOffset => ({ self with genOffset := 0 }, .resetAnnounce)
  | .resetAnnounce => ({ self with announce := 0 }, .resetJoined 0)
  | .resetJoined slot =>
      if slot < self.joined.length then
        ({ self with joined := self.joined.set slot 0 }, .resetJoined (slot + 1))
      else (self, .ended)
  -- One round of the monitor, and enter.
  | .monitorActive quietFor =>
      (self, if shouldEnter quietFor config.after self.active then .enterTotal else .ended)
  | .enterTotal =>
      (self, if config.keep = 0 ∨ self.totalWorkers = 0 ∨ self.totalWorkers ≤ config.keep then
          .ended
        else .enterSwap)
  | .enterSwap => ({ self with active := true }, if self.active then .ended else .enterLimit)
  | .enterLimit => ({ self with limit := config.keep }, .enterDeclared)
  | .enterDeclared => ({ self with declared := config.keep }, .enterOffset)
  | .enterOffset => ({ self with genOffset := self.genOffset + 1 }, .enterAnnounce)
  | .enterAnnounce => ({ self with announce := self.announce + 1 }, .enterPackets)
  | .enterPackets => ({ self with packets := { self.packets with count := 0 } }, .enterSyns)
  | .enterSyns => ({ self with syns := { self.syns with count := 0 } }, .ended)
  -- A packet on its way up, and exit.
  | .uplinkActive packet => (self, if self.active then .uplinkClock packet else .ended)
  | .uplinkClock packet =>
      (self, .windowHit (if isTcpSyn packet then .syns else .packets) self.clock)
  | .windowHit window nowMs =>
      (self, if window.windowMs < nowMs - (self.window window).start then
          .windowRestart window nowMs
        else .windowAdd window nowMs)
  | .windowRestart window nowMs =>
      (self.setWindow { self.window window with start := nowMs } window,
        .windowRestarted window nowMs)
  | .windowRestarted window nowMs =>
      (self.setWindow { self.window window with count := 1 } window,
        if window.limit ≤ 1 then .exitSwap else notHit nowMs window)
  | .windowAdd window nowMs =>
      let count := (self.window window).count + 1
      (self.setWindow { self.window window with count := count } window,
        if window.limit ≤ count then .exitSwap else notHit nowMs window)
  | .exitSwap => ({ self with active := false }, if self.active then .exitLimit else .ended)
  | .exitLimit => ({ self with limit := usizeMax }, .exitTotal)
  | .exitTotal => (self, .exitDeclared self.totalWorkers)
  | .exitDeclared total => ({ self with declared := total }, .exitAnnounce)
  | .exitAnnounce => ({ self with announce := self.announce + 1 }, .ended)
  -- A worker registers, and notes that it has joined once it is answered.
  | .payloadGeneration worker base =>
      (self, .payloadOffset worker (saturatingAdd base self.genOffset))
  | .payloadOffset worker generation => (self, .payloadDeclared worker generation self.genOffset)
  | .payloadDeclared worker generation offset =>
      (self, if self.declared = 0 then .payloadTotal worker generation offset
        else
          .registering worker
            { generation := generation, offset := offset, declared := max self.declared 1 })
  | .payloadTotal worker generation offset =>
      (self, .registering worker
        { generation := generation, offset := offset, declared := max self.totalWorkers 1 })
  | .registering worker registration =>
      (self, if answered then .pathJoined worker registration.offset else .ended)
  | .pathJoined worker offset =>
      (if worker < joinedSlots ∧ worker ≠ 0 then
          { self with joined := self.joined.set worker (saturatingAdd offset 1) }
        else self, .ended)
  -- A path is lost.
  | .lostAllowed worker => (self, if self.allows worker then .lostSlot worker else .ended)
  | .lostSlot worker =>
      (self, match self.joined[worker]? with
        | none => .ended
        | some joined => if joined = 0 then .ended else .lostCurrent worker joined)
  | .lostCurrent worker joined =>
      (self, if joined - 1 ≠ self.genOffset then .ended else .lostExchange worker self.genOffset)
  | .lostExchange worker current =>
      if self.genOffset = current then
        ({ self with genOffset := saturatingAdd current 1 }, .lostCleared worker)
      else (self, .ended)
  | .lostCleared worker => ({ self with joined := self.joined.set worker 0 }, .lostAnnounce)
  | .lostAnnounce => ({ self with announce := self.announce + 1 }, .ended)

end Idle

namespace Idle

/-- A packet makes at most so many operations, and so does entering the idle mode. -/
def callTurns : Nat := 13

def turn (config : IdleConfig) (state : Idle × IdlePoint) : Idle × IdlePoint :=
  state.1.perform config false state.2

/-- A call from its first point to its end, with no other beside it. -/
def alone (config : IdleConfig) (self : Idle) (point : IdlePoint) : Idle :=
  ((turn config)^[callTurns] (self, point)).1

def entered (config : IdleConfig) (self : Idle) : Idle := self.alone config .enterTotal

end Idle

/-- A packet, and the time since the one before. -/
structure Arrival where
  elapsed : Nat
  packet : List U8
deriving DecidableEq, Repr

/-- The statics, and the packets so far with the times of their arrival. -/
structure IdleUplink where
  idle : Idle
  arrived : List (Nat × List U8)
deriving DecidableEq, Repr

namespace IdleUplink

def step (config : IdleConfig) (self : IdleUplink) (arrival : Arrival) : IdleUplink × Unit :=
  let idle := { self.idle with clock := self.idle.clock + arrival.elapsed }
  ({ idle := idle.alone config (.uplinkActive arrival.packet)
     arrived := self.arrived ++ [(idle.clock, arrival.packet)] }, ())

end IdleUplink

/-- The functions that are called from outside: the engine's start, a round of the
monitor that found the uplink quiet for so long, a packet on its way up, a worker that
registers, and one whose path is lost. -/
inductive IdleOperation where
  | reset (totalWorkers : Nat)
  | monitor (quietFor : Nat)
  | noteUplink (packet : List U8)
  | register (worker : Nat) (base : U64)
  | notePathLost (worker : Nat)
deriving DecidableEq, Repr

def IdleOperation.point : IdleOperation → IdlePoint
  | .reset total => .resetTotal total
  | .monitor quietFor => .monitorActive quietFor
  | .noteUplink packet => .uplinkActive packet
  | .register worker base => .payloadGeneration worker base
  | .notePathLost worker => .lostAllowed worker

inductive IdleEvent where
  | tick (elapsed : Nat)
  | begin (operation : IdleOperation)
  | run (index : Nat) (answered : Bool)
deriving DecidableEq, Repr

/-- A thread, with the operation it was begun for. -/
abbrev IdleTask := Thread IdlePoint IdleOperation

structure Idling where
  idle : Idle
  tasks : List IdleTask
deriving DecidableEq, Repr

namespace Idling

def start : Idling where
  idle := .initial
  tasks := []

def ran (self : Idling) (config : IdleConfig) (answered : Bool) (index : Nat)
    (current : IdleTask) : Idling :=
  let after := self.idle.perform config answered current.point
  { idle := after.1
    tasks := Interleaving.advance self.tasks index { current with point := after.2 } [] }

/-- The output is the point that was left. -/
def step (config : IdleConfig) (self : Idling) : IdleEvent → Idling × Option IdlePoint
  | .tick elapsed =>
      ({ self with idle := { self.idle with clock := self.idle.clock + elapsed } }, none)
  | .begin operation =>
      ({ self with tasks := self.tasks ++ [{ point := operation.point, tag := operation }] }, none)
  | .run index answered =>
      match self.tasks[index]? with
      | none => (self, none)
      | some current => (self.ran config answered index current, some current.point)

/-- The state after a run from the process's begin. -/
def reached (config : IdleConfig) (events : List IdleEvent) : Idling :=
  (Transducer.run (step config) start events).1

end Idling

end Csqtt
