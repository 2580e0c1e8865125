/-
Module: Csqtt.Engine.Goodbye
Purpose: How an engine says goodbye to its server: the host's stop flag, the run loops that
  take it, and the coordinator of each engine that sends the request over one stream after
  another. Each step is one access to what is shared.
Trusted boundary: what a writer answers and when comes from outside
Main exports: ControlStream, CallerPoint, ShutdownCoordinator, GoodbyeEngine, Goodbye, step
-/
import Csqtt.Core.Interleaving
import Csqtt.Core.Transducer
import Csqtt.Core.Word
import Mathlib.Data.List.Sort

namespace Csqtt

def disconnectBudget : Nat := 700
def disconnectAttempt : Nat := 80
def followerLimit : Nat := 2000
def signalLimit : Nat := 800

inductive SessionPhase where
  | opened
  | kept
  | dropped
deriving DecidableEq, Repr

/-- A session with its registration; `drawn` is a number that its writer has drawn and not
stored yet. -/
structure ControlSession where
  incarnation : Nat
  activity : U64
  drawn : Option U64
  phase : SessionPhase
deriving DecidableEq, Repr

/-- A stream as the snapshot has it, with the number of its session. -/
structure ControlStream where
  activity : U64
  incarnation : Nat
  session : Nat
deriving DecidableEq, Repr

/-- The most recently active first, then the latest incarnation. -/
def ControlStream.Above (left right : ControlStream) : Prop :=
  right.activity < left.activity ∨
    right.activity = left.activity ∧ right.incarnation ≤ left.incarnation

instance : DecidableRel ControlStream.Above := fun left right =>
  inferInstanceAs (Decidable (right.activity < left.activity ∨
    right.activity = left.activity ∧ right.incarnation ≤ left.incarnation))

/-- Who waits for the completion: a caller that found another at it, or that other one behind
a delivery. -/
inductive CompletionWait where
  | follower
  | leader (deadline : Nat) (rest : List ControlStream)
deriving DecidableEq, Repr

/-- The points of `request_disconnect`. A caller that returned as a follower keeps its limit. -/
inductive CallerPoint where
  | entering
  | leading
  | locking (deadline : Nat)
  | loading (deadline : Nat) (todo : List Nat) (loaded : List ControlStream)
  | checking (deadline : Nat) (streams : List ControlStream)
  | timing (deadline : Nat) (stream : ControlStream) (rest : List ControlStream)
  | sending (deadline limit : Nat) (stream : ControlStream) (rest : List ControlStream)
  | delivering (deadline limit : Nat) (rest : List ControlStream)
  | delivered (deadline : Nat) (rest : List ControlStream)
  | waiting (who : CompletionWait) (limit : Nat)
  | announced (who : CompletionWait) (limit seen : Nat)
  | asleep (who : CompletionWait) (limit seen : Nat)
  | expired (who : CompletionWait) (limit : Nat)
  | completing
  | notifying
  | returned (limit : Option Nat)
deriving DecidableEq, Repr

/-- The run loop calls for the host's stop, a session when the engine is cancelled. -/
inductive CallerOrigin where
  | runLoop
  | session
deriving DecidableEq, Repr

abbrev DisconnectCaller := Thread CallerPoint CallerOrigin

/-- What a caller does not decide itself: whether the writer takes the command, and what it
answers. -/
inductive CallerChoice where
  | go
  | taken (success : Bool)
  | answer (success : Bool)
  | timeout
deriving DecidableEq, Repr

/-- A stream that was offered the request, and what the code does not keep: whether its engine
was running when a stop was signalled or is being cancelled, and whether an answer of the
server had been observed. -/
structure DisconnectAttempt where
  stream : ControlStream
  rightful : Bool
  acknowledged : Bool
deriving DecidableEq, Repr

/-- The state under the lock, the counter of activities and the notifier, of which only the
number of calls matters. `observed` are the observers that have still to notify. -/
structure ShutdownCoordinator where
  active : Bool
  completed : Bool
  locked : Bool
  streams : List Nat
  sessions : List ControlSession
  nextActivity : U64
  changed : Nat
  observed : Nat
  callers : List DisconnectCaller
  attempts : List DisconnectAttempt
deriving DecidableEq, Repr

/-- `OK:disconnected`. -/
def okDisconnected : List U8 :=
  [79, 75, 58, 100, 105, 115, 99, 111, 110, 110, 101, 99, 116, 101, 100]

/-- `DENIED:`. -/
def deniedMarker : List U8 := [68, 69, 78, 73, 69, 68, 58]

namespace ShutdownCoordinator

def new : ShutdownCoordinator where
  active := false
  completed := false
  locked := false
  streams := []
  sessions := []
  nextActivity := 1
  changed := 0
  observed := 0
  callers := []
  attempts := []

/-- The number drawn, which is never zero. -/
def drawActivity (self : ShutdownCoordinator) : U64 :=
  if self.nextActivity = 0 then 1 else self.nextActivity

/-- What a session and its reader do to the coordinator. -/
inductive SessionEvent where
  | register (incarnation : Nat)
  | list (session : Nat)
  | draw (session : Nat)
  | mark (session : Nat)
  | unregister (session : Nat)
  | observe (response : List U8)
  | notify
deriving DecidableEq, Repr

/-- The incarnation of the session with the number. -/
def incarnationOf (self : ShutdownCoordinator) (session : Nat) : Option Nat :=
  self.sessions[session]?.map (·.incarnation)

def isAcknowledgement (response : List U8) : Bool :=
  response == okDisconnected || deniedMarker.isPrefixOf response

def sessionStep (self : ShutdownCoordinator) : SessionEvent → ShutdownCoordinator
  | .register incarnation =>
      { self with
        nextActivity := self.nextActivity + 1
        sessions := self.sessions ++
          [{ incarnation := incarnation, activity := self.drawActivity, drawn := none,
             phase := .opened }] }
  | .list session =>
      match self.sessions[session]? with
      | none => self
      | some current =>
          if self.locked = true ∨ current.phase ≠ .opened then self
          else
            { self with
              sessions := self.sessions.set session { current with phase := .kept }
              streams := if self.active then self.streams else self.streams ++ [session] }
  | .draw session =>
      match self.sessions[session]? with
      | none => self
      | some current =>
          { self with
            nextActivity := self.nextActivity + 1
            sessions := self.sessions.set session { current with drawn := some self.drawActivity } }
  | .mark session =>
      match self.sessions[session]? with
      | none => self
      | some current =>
          match current.drawn with
          | none => self
          | some drawn =>
              { self with
                sessions := self.sessions.set session
                  { current with activity := drawn, drawn := none } }
  | .unregister session =>
      match self.sessions[session]? with
      | none => self
      | some current =>
          if self.locked = true ∨ current.phase ≠ .kept then self
          else
            { self with
              sessions := self.sessions.set session { current with phase := .dropped }
              streams := self.streams.filter fun other =>
                self.incarnationOf other ≠ some current.incarnation }
  | .observe response =>
      if self.locked = true ∨ isAcknowledgement response = false ∨ self.active = false ∨
          self.completed = true then self
      else { self with completed := true, observed := self.observed + 1 }
  | .notify =>
      if self.observed = 0 then self
      else { self with observed := self.observed - 1, changed := self.changed + 1 }

/-- What the snapshot has of a session. -/
def load (self : ShutdownCoordinator) (session : Nat) : ControlStream :=
  match self.sessions[session]? with
  | none => { activity := 0, incarnation := 0, session := session }
  | some current =>
      { activity := current.activity, incarnation := current.incarnation, session := session }

/-- Behind a wait the follower returns, and the leader goes on unless all is completed. -/
def waited (done : Bool) (limit : Nat) : CompletionWait → CallerPoint
  | .follower => .returned (some limit)
  | .leader deadline rest => if done then .completing else .checking deadline rest

def attempted (self : ShutdownCoordinator) (rightful : Bool) (stream : ControlStream) :
    ShutdownCoordinator :=
  { self with
    attempts := self.attempts ++
      [{ stream := stream, rightful := rightful, acknowledged := self.completed }] }

/-- One operation of a caller. None that takes the lock is possible while another holds it. -/
def next (self : ShutdownCoordinator) (clock : Nat) (rightful : Bool) :
    CallerPoint → CallerChoice → Option (ShutdownCoordinator × CallerPoint)
  | .entering, .go =>
      if self.locked then none
      else if self.active then some (self, .waiting .follower (clock + followerLimit))
      else some ({ self with active := true, completed := false }, .leading)
  | .leading, .go => some (self, .locking (clock + disconnectBudget))
  | .locking deadline, .go =>
      if self.locked then none
      else some ({ self with locked := true }, .loading deadline self.streams [])
  | .loading deadline (session :: todo) loaded, .go =>
      some (self, .loading deadline todo (loaded ++ [self.load session]))
  | .loading deadline [] loaded, .go =>
      some ({ self with locked := false },
        .checking deadline (loaded.insertionSort ControlStream.Above))
  | .checking _ [], .go => some (self, .completing)
  | .checking deadline (stream :: rest), .go =>
      if self.locked then none
      else some (self, if self.completed then .completing else .timing deadline stream rest)
  | .timing deadline stream rest, .go =>
      some (self,
        if deadline ≤ clock then .completing
        else .sending deadline (clock + min disconnectAttempt (deadline - clock)) stream rest)
  | .sending deadline limit stream rest, .taken success =>
      some (self.attempted rightful stream,
        if success then .delivering deadline limit rest else .checking deadline rest)
  | .delivering deadline _ rest, .answer success =>
      some (self, if success then .delivered deadline rest else .checking deadline rest)
  | .delivering deadline limit rest, .timeout =>
      if limit ≤ clock then some (self, .checking deadline rest) else none
  | .delivered deadline rest, .go =>
      some (self,
        if deadline ≤ clock then .completing
        else .waiting (.leader deadline rest) (clock + min disconnectAttempt (deadline - clock)))
  | .waiting who limit, .go => some (self, .announced who limit self.changed)
  | .announced who limit seen, .go =>
      if self.locked then none
      else some (self, if self.completed then waited true limit who else .asleep who limit seen)
  | .asleep who limit seen, .go =>
      if self.changed ≠ seen then some (self, .waiting who limit) else none
  | .asleep who limit seen, .timeout =>
      if self.changed = seen ∧ limit ≤ clock then some (self, .expired who limit) else none
  | .expired who limit, .go =>
      if self.locked then none else some (self, waited self.completed limit who)
  | .completing, .go =>
      if self.locked then none
      else if self.completed then some (self, .returned none)
      else some ({ self with completed := true }, .notifying)
  | .notifying, .go => some ({ self with changed := self.changed + 1 }, .returned none)
  | _, _ => none

/-- The step of the caller with the index. -/
def callerStep (self : ShutdownCoordinator) (clock : Nat) (rightful : Bool) (index : Nat)
    (choice : CallerChoice) : ShutdownCoordinator :=
  match self.callers[index]? with
  | none => self
  | some caller =>
      match self.next clock rightful caller.point choice with
      | none => self
      | some (after, point) =>
          { after with
            callers := Interleaving.advance after.callers index { caller with point := point } [] }

def called (self : ShutdownCoordinator) (origin : CallerOrigin) : ShutdownCoordinator :=
  { self with callers := self.callers ++ [{ point := .entering, tag := origin }] }

end ShutdownCoordinator

/-- Where the loop of `run` is; at `serving` it has called the coordinator. -/
inductive LoopPoint where
  | starting
  | looping
  | serving (caller : Nat)
  | finishing
  | leaving
  | over
deriving DecidableEq, Repr

/-- `heard`, which the code does not keep, says that a stop was signalled since the engine was
started. -/
structure GoodbyeEngine where
  point : LoopPoint
  cancelled : Bool
  coordinator : ShutdownCoordinator
  heard : Bool
deriving DecidableEq, Repr

inductive LoopEvent where
  | go
  | take
  | cancel
  | completed
  | sessionCancelled
  | caller (index : Nat) (choice : CallerChoice)
  | session (event : ShutdownCoordinator.SessionEvent)
deriving DecidableEq, Repr

/-- `signal_stop_disconnect`: the stores, the notification and the wait. -/
inductive SignalPoint where
  | begun
  | flagging
  | notifying
  | waiting (limit : Nat)
  | returned
deriving DecidableEq, Repr

structure Goodbye where
  clock : Nat
  stopFlag : Bool
  stopDone : Bool
  signals : List SignalPoint
  engines : List GoodbyeEngine
deriving DecidableEq, Repr

inductive GoodbyeEvent where
  | tick (elapsed : Nat)
  | signal
  | signalStep (index : Nat)
  | start
  | engine (index : Nat) (event : LoopEvent)
deriving DecidableEq, Repr

namespace GoodbyeEngine

def new : GoodbyeEngine where
  point := .starting
  cancelled := false
  coordinator := .new
  heard := false

/-- The engine was running when a stop was signalled, or is being cancelled. -/
def rightful (self : GoodbyeEngine) : Bool := self.heard || self.cancelled

def isReturned (caller : DisconnectCaller) : Bool :=
  match caller.point with
  | .returned _ => true
  | _ => false

/-- The loop's own next operation; the engine is over when every caller has returned. -/
def advance (self : GoodbyeEngine) : Option GoodbyeEngine :=
  match self.point with
  | .starting => some { self with point := .looping }
  | .looping => if self.cancelled then some { self with point := .leaving } else none
  | .serving caller =>
      if self.coordinator.callers[caller]?.any isReturned then
        some { self with point := .finishing }
      else none
  | .finishing => some { self with point := .looping }
  | .leaving =>
      if self.coordinator.callers.all isReturned then some { self with point := .over } else none
  | .over => none

/-- A step that leaves the process's flag alone. -/
def next (self : GoodbyeEngine) (clock : Nat) : LoopEvent → Option GoodbyeEngine
  | .go => self.advance
  | .take => none
  | .cancel => if self.point = .over then none else some { self with cancelled := true }
  | .completed =>
      if self.point = .looping then some { self with point := .leaving, cancelled := true }
      else none
  | .sessionCancelled =>
      if self.cancelled = true ∧ self.point ≠ .over then
        some { self with coordinator := self.coordinator.called .session }
      else none
  | .caller index choice =>
      some { self with
        coordinator := self.coordinator.callerStep clock self.rightful index choice }
  | .session event => some { self with coordinator := self.coordinator.sessionStep event }

/-- The loop has taken the stop and calls the coordinator. -/
def taken (self : GoodbyeEngine) : GoodbyeEngine :=
  { self with
    point := .serving self.coordinator.callers.length
    coordinator := self.coordinator.called .runLoop }

/-- A stop is signalled while the engine is not over. -/
def hear (self : GoodbyeEngine) : GoodbyeEngine :=
  if self.point = .over then self else { self with heard := true }

end GoodbyeEngine

namespace Goodbye

def initial : Goodbye where
  clock := 0
  stopFlag := false
  stopDone := false
  signals := []
  engines := []

def signalled (self : Goodbye) (index : Nat) (point : SignalPoint) : Goodbye :=
  match point with
  | .begun =>
      { self with stopDone := false, signals := self.signals.set index .flagging }
  | .flagging =>
      { self with
        stopFlag := true
        signals := self.signals.set index .notifying
        engines := self.engines.map GoodbyeEngine.hear }
  | .notifying =>
      { self with signals := self.signals.set index (.waiting (self.clock + signalLimit)) }
  | .waiting limit =>
      if self.stopDone = true ∨ limit ≤ self.clock then
        { self with signals := self.signals.set index .returned }
      else self
  | .returned => self

/-- `stop_disconnect_finished` follows a request of the loop. -/
def moved (self : Goodbye) (index : Nat) (engine after : GoodbyeEngine) : Goodbye :=
  { self with
    stopDone := self.stopDone || decide (engine.point = .finishing ∧ after.point = .looping)
    engines := self.engines.set index after }

def step (self : Goodbye) : GoodbyeEvent → Goodbye × Unit
  | .tick elapsed => ({ self with clock := self.clock + elapsed }, ())
  | .signal => ({ self with signals := self.signals ++ [.begun] }, ())
  | .signalStep index =>
      match self.signals[index]? with
      | none => (self, ())
      | some point => (self.signalled index point, ())
  | .start => ({ self with engines := self.engines ++ [GoodbyeEngine.new] }, ())
  | .engine index event =>
      match self.engines[index]? with
      | none => (self, ())
      | some engine =>
          if event = .take then
            if engine.point = .looping ∧ self.stopFlag = true then
              ({ self with stopFlag := false, engines := self.engines.set index engine.taken }, ())
            else (self, ())
          else
            match engine.next self.clock event with
            | none => (self, ())
            | some after => (self.moved index engine after, ())

end Goodbye

end Csqtt
