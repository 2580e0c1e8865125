/-
Module: Csqtt.Engine.Logging
Purpose: The logger: producers that enqueue lines, the thread that writes them, flushes and the
  shutdown, one access to what is shared a step.
Trusted boundary: the sinks do not fail
Main exports: LogLane, LogCall, LogWriter, LogRun, produce, write, step, Accounted
-/
import Mathlib.Logic.Function.Basic
import Csqtt.Core.Text

namespace Csqtt

def protocolBurst : Nat := 32

def coalesceBatch : Nat := 64

inductive LogKind where
  | protocol
  | diagnostic
deriving DecidableEq, Repr

/-- A line, with the call that it is of; the code keeps its text only. -/
structure LogLine where
  call : Nat
  value : Text
deriving DecidableEq, Repr

/-- A queue with its counter. The code keeps the number of `dropped`; `written` is what went to
the sink, a line that stands for several with all of them. -/
structure LogLane where
  queue : List LogLine
  outstanding : Int
  dropped : List LogLine
  written : List LogLine
deriving DecidableEq, Repr

/-- The points of an enqueueing call, with the lines in its hands and the tries it has left. -/
inductive LogPoint where
  | entering
  | registering
  | confirming
  | withdrawing
  | refused
  | formatting
  | counting (line : LogLine)
  | pushing (line : LogLine) (tries : Nat)
  | evicting (line : LogLine) (tries : Nat)
  | evicted (line victim : LogLine) (tries : Nat)
  | dropping (line victim : LogLine) (tries : Nat)
  | losing (line : LogLine)
  | finishing
  | returned
deriving DecidableEq, Repr

/-- A call whose arguments cannot be formatted has no line. -/
structure LogCall where
  kind : LogKind
  line : Option LogLine
  point : LogPoint
deriving DecidableEq, Repr

inductive WriterPoint where
  | top
  | printing (line : LogLine) (burst : Nat)
  | printed (burst : Nat)
  | taking
  | coalescing (line : LogLine) (repeats : List LogLine)
  | repeated (line : LogLine) (repeats : List LogLine) (next : LogLine)
  | reporting (line : LogLine) (repeats : List LogLine)
  | reported
  | last
  | idleProtocol
  | idleDiagnostic
  | idleProducers
  | readingFlush
  | completing (requested : Nat)
  | readingShutdown
  | returned
deriving DecidableEq, Repr

structure LogWriter where
  burst : Nat
  pending : Option LogLine
  point : WriterPoint
deriving DecidableEq, Repr

/-- Of a flush request the code keeps the number; here it has the lines whose calls had returned
when it was made. -/
structure LogRun where
  lanes : LogKind → LogLane
  producers : Int
  accepting : Bool
  shutdown : Bool
  requests : List (List (LogKind × LogLine))
  flushCompleted : Nat
  calls : List LogCall
  writer : LogWriter

inductive LogEvent where
  | enqueue (kind : LogKind) (value : Option Text)
  | produce (call : Nat)
  | write
  | flush
  | refuse
  | shutdown
deriving DecidableEq, Repr

namespace LogRun

def initial : LogRun where
  lanes _ := { queue := [], outstanding := 0, dropped := [], written := [] }
  producers := 0
  accepting := true
  shutdown := false
  requests := []
  flushCompleted := 0
  calls := []
  writer := { burst := 0, pending := none, point := .top }

/-- A call's operation: what becomes of its queue and of the number of producers, and where it
stands then. -/
def produce (capacity : Nat) (accepting : Bool) (lane : LogLane) (producers : Int)
    (line : Option LogLine) : LogPoint → Option (LogLane × Int × LogPoint)
  | .entering => some (lane, producers, if accepting then .registering else .refused)
  | .registering => some (lane, producers + 1, .confirming)
  | .confirming => some (lane, producers, if accepting then .formatting else .withdrawing)
  | .withdrawing => some (lane, producers - 1, .refused)
  | .refused => none
  | .formatting =>
      match line with
      | none => some (lane, producers, .finishing)
      | some line => some (lane, producers, .counting line)
  | .counting line =>
      some ({ lane with outstanding := lane.outstanding + 1 }, producers, .pushing line 4)
  | .pushing line 0 =>
      some ({ lane with outstanding := lane.outstanding - 1 }, producers, .losing line)
  | .pushing line (tries + 1) =>
      if lane.queue.length < capacity then
        some ({ lane with queue := lane.queue ++ [line] }, producers, .finishing)
      else some (lane, producers, .evicting line tries)
  | .evicting line tries =>
      match lane.queue with
      | [] => some (lane, producers, .pushing line tries)
      | victim :: rest =>
          some ({ lane with queue := rest }, producers, .evicted line victim tries)
  | .evicted line victim tries =>
      some ({ lane with outstanding := lane.outstanding - 1 }, producers,
        .dropping line victim tries)
  | .dropping line victim tries =>
      some ({ lane with dropped := lane.dropped ++ [victim] }, producers, .pushing line tries)
  | .losing line => some ({ lane with dropped := lane.dropped ++ [line] }, producers, .finishing)
  | .finishing => some (lane, producers - 1, .returned)
  | .returned => none

/-- The writer has done something to the queue of a kind. -/
def act (self : LogRun) (kind : LogKind) (lane : LogLane) (writer : LogWriter) : LogRun :=
  { self with lanes := Function.update self.lanes kind lane, writer := writer }

def goTo (self : LogRun) (point : WriterPoint) : LogRun :=
  { self with writer := { self.writer with point := point } }

/-- An operation of the writer, if it has not returned. A burst of protocol lines is followed by
a look at the diagnostics; those that repeat the first are written with it. -/
def write (self : LogRun) : Option LogRun :=
  let writer := self.writer
  let out := self.lanes .protocol
  let err := self.lanes .diagnostic
  match writer.point with
  | .top =>
      match if writer.burst < protocolBurst then out.queue else [] with
      | [] => some (self.goTo .taking)
      | line :: rest =>
          some (self.act .protocol { out with queue := rest }
            { writer with point := .printing line (writer.burst + 1) })
  | .printing line burst =>
      some (self.act .protocol { out with written := out.written ++ [line] }
        { writer with point := .printed burst })
  | .printed burst =>
      some (self.act .protocol { out with outstanding := out.outstanding - 1 }
        { writer with burst := burst, point := .top })
  | .taking =>
      match writer.pending, err.queue with
      | some line, _ =>
          some { self with writer := { writer with pending := none, point := .coalescing line [] } }
      | none, line :: rest =>
          some (self.act .diagnostic { err with queue := rest }
            { writer with point := .coalescing line [] })
      | none, [] => some (self.goTo .last)
  | .coalescing line repeats =>
      match if repeats.length + 1 < coalesceBatch then err.queue else [] with
      | [] => some (self.goTo (.reporting line repeats))
      | next :: rest =>
          some (self.act .diagnostic { err with queue := rest }
            (if next.value = line.value then { writer with point := .repeated line repeats next }
              else { writer with pending := some next, point := .reporting line repeats }))
  | .repeated line repeats next =>
      some (self.act .diagnostic { err with outstanding := err.outstanding - 1 }
        { writer with point := .coalescing line (repeats ++ [next]) })
  | .reporting line repeats =>
      some (self.act .diagnostic { err with written := err.written ++ line :: repeats }
        { writer with point := .reported })
  | .reported =>
      some (self.act .diagnostic { err with outstanding := err.outstanding - 1 }
        { writer with burst := 0, point := .top })
  | .last =>
      match out.queue with
      | [] => some (self.goTo .idleProtocol)
      | line :: rest =>
          some (self.act .protocol { out with queue := rest }
            { writer with point := .printing line 1 })
  | .idleProtocol => some (self.goTo (if out.outstanding = 0 then .idleDiagnostic else .top))
  | .idleDiagnostic => some (self.goTo (if err.outstanding = 0 then .idleProducers else .top))
  | .idleProducers => some (self.goTo (if self.producers = 0 then .readingFlush else .top))
  | .readingFlush =>
      some (self.goTo (if self.flushCompleted < self.requests.length then
        .completing self.requests.length else .readingShutdown))
  | .completing requested =>
      some { self.goTo .readingShutdown with flushCompleted := requested }
  | .readingShutdown => some (self.goTo (if self.shutdown then .returned else .top))
  | .returned => none

/-- The lines of the calls that have returned. -/
def returnedLines (self : LogRun) : List (LogKind × LogLine) :=
  self.calls.filterMap fun call =>
    if call.point = .returned then call.line.map (call.kind, ·) else none

variable (capacity : LogKind → Nat)

/-- A step that cannot be taken leaves the state as it is; the shutdown is set behind the refusal
of further lines. -/
def step (self : LogRun) : LogEvent → LogRun × Unit
  | .enqueue kind value =>
      let line := value.map fun value => { call := self.calls.length, value := value }
      let call := { kind := kind, line := line, point := .entering }
      ({ self with calls := self.calls ++ [call] }, ())
  | .produce index =>
      match self.calls[index]? with
      | none => (self, ())
      | some call =>
          match produce (capacity call.kind) self.accepting (self.lanes call.kind) self.producers
              call.line call.point with
          | none => (self, ())
          | some (lane, producers, point) =>
              ({ self with
                lanes := Function.update self.lanes call.kind lane
                producers := producers
                calls := self.calls.set index { call with point := point } }, ())
  | .write => (self.write.getD self, ())
  | .flush => ({ self with requests := self.requests ++ [self.returnedLines] }, ())
  | .refuse => ({ self with accepting := false }, ())
  | .shutdown => if self.accepting then (self, ()) else ({ self with shutdown := true }, ())

end LogRun

/-- The call's `begin_producer` has succeeded. -/
def LogPoint.begun : LogPoint → Bool
  | .entering => false
  | .registering => false
  | .confirming => false
  | .withdrawing => false
  | .refused => false
  | _ => true

/-- The lines in a call's hands. -/
def LogPoint.held (line : Option LogLine) : LogPoint → List LogLine
  | .formatting => line.toList
  | .counting line => [line]
  | .pushing line _ => [line]
  | .evicting line _ => [line]
  | .evicted line victim _ => [line, victim]
  | .dropping line victim _ => [line, victim]
  | .losing line => [line]
  | _ => []

def LogCall.held (kind : LogKind) (call : LogCall) : List LogLine :=
  if call.kind = kind then call.point.held call.line else []

/-- The lines in the writer's hands. -/
def LogWriter.held (writer : LogWriter) : LogKind → List LogLine
  | .protocol =>
      match writer.point with
      | .printing line _ => [line]
      | _ => []
  | .diagnostic =>
      writer.pending.toList ++
        match writer.point with
        | .coalescing line repeats => line :: repeats
        | .repeated line repeats next => next :: line :: repeats
        | .reporting line repeats => line :: repeats
        | _ => []

namespace LogRun

/-- Where the lines of a kind can be: written, counted as dropped, queued, or with a producer or
the writer. -/
def places (self : LogRun) (kind : LogKind) : List LogLine :=
  (self.lanes kind).written ++ (self.lanes kind).dropped ++ (self.lanes kind).queue ++
    self.calls.flatMap (LogCall.held kind) ++ self.writer.held kind

/-- Written, or counted as dropped. -/
def Settled (self : LogRun) (kind : LogKind) (line : LogLine) : Prop :=
  line ∈ (self.lanes kind).written ∨ line ∈ (self.lanes kind).dropped

/-- Every line is in one place, the counters are not negative, a flush completes when the lines
enqueued before it are settled, and the writer returns when all are. -/
structure Accounted (run : LogRun) : Prop where
  once : ∀ call ∈ run.calls, call.point.begun = true → ∀ line ∈ call.line,
    (run.places call.kind).count line = 1
  outstanding : ∀ kind, 0 ≤ (run.lanes kind).outstanding
  producers : 0 ≤ run.producers
  flushed : ∀ lines ∈ run.requests.take run.flushCompleted, ∀ pair ∈ lines,
    run.Settled pair.1 pair.2
  stopped : run.writer.point = .returned → ∀ call ∈ run.calls, call.point.begun = true →
    ∀ line ∈ call.line, run.Settled call.kind line

end LogRun

end Csqtt
