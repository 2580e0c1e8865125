/-
Module: Csqtt.Helper.ActionRun
Purpose: Interactive actions: the calls that wait for an answer of the host and the events
  that bring one, any number of each at once. Each step is one access to what is shared.
Trusted boundary: the ids of the calls are distinct; texts are valid UTF-8
Main exports: decodeString, actionResult, ActionCall, ResultEvent, ActionRun, step
-/
import Csqtt.Core.Text
import Csqtt.Core.Transducer
import Csqtt.Core.Word

namespace Csqtt

/-- Five minutes, in milliseconds. -/
def actionDeadline : Nat := 300000

def sextet (character : Char) : Option Nat :=
  let code := character.toNat
  if 65 ≤ code ∧ code ≤ 90 then some (code - 65)
  else if 97 ≤ code ∧ code ≤ 122 then some (code - 71)
  else if 48 ≤ code ∧ code ≤ 57 then some (code + 4)
  else if code = 43 then some 62
  else if code = 47 then some 63
  else none

/-- The standard encoding, in groups of four characters, of which only the last is padded. The
bits that a padded group has too many are not looked at. -/
def decodeQuanta : Text → Option (List U8)
  | [] => some []
  | [first, second, '=', '='] => do
      let first ← sextet first
      let second ← sextet second
      some [BitVec.ofNat 8 (first * 4 + second / 16)]
  | [first, second, third, '='] => do
      let first ← sextet first
      let second ← sextet second
      let third ← sextet third
      some [BitVec.ofNat 8 (first * 4 + second / 16), BitVec.ofNat 8 (second * 16 + third / 4)]
  | first :: second :: third :: fourth :: rest => do
      let first ← sextet first
      let second ← sextet second
      let third ← sextet third
      let fourth ← sextet fourth
      let rest ← decodeQuanta rest
      some (BitVec.ofNat 8 (first * 4 + second / 16) :: BitVec.ofNat 8 (second * 16 + third / 4) ::
        BitVec.ofNat 8 (third * 64 + fourth) :: rest)
  | _ => none

/-- Line breaks are passed over. -/
def decodeString (text : Text) : Option (List U8) :=
  decodeQuanta (text.filter fun character => character != '\r' && character != '\n')

/-- What a call of `runAction` returns; an action that timed out counts as cancelled. -/
inductive ActionResult where
  | cancelled
  | decoded (bytes : List U8)
  | plain (text : Text)
deriving DecidableEq, Repr

def cancelledMarker : Text := ['C', 'A', 'N', 'C', 'E', 'L', 'L', 'E', 'D']

/-- What follows the wait. -/
def actionResult (answer : Text) (timedOut : Bool) : ActionResult :=
  if timedOut = true ∨ answer = cancelledMarker then .cancelled
  else
    match decodeString answer with
    | some bytes => .decoded bytes
    | none => .plain answer

def actionResultMarker : Text :=
  ['A', 'C', 'T', 'I', 'O', 'N', '_', 'R', 'E', 'S', 'U', 'L', 'T', '|']

/-- The event that a host sends for an action. -/
def actionResultEvent (id payload : Text) : Text := actionResultMarker ++ id ++ '|' :: payload

/-- The id and the payload that are read from an event. -/
def parseActionResult (event : Text) : Option (Text × Text) :=
  let event := trim event
  if actionResultMarker.isPrefixOf event then
    let rest := event.drop actionResultMarker.length
    if '|' ∈ rest then
      some (rest.takeWhile (· ≠ '|'), trim ((rest.dropWhile (· ≠ '|')).drop 1))
    else none
  else none

/-- A payload on its way, with the id that the host meant it for. -/
structure Delivery where
  payload : Text
  meant : Text
deriving DecidableEq, Repr

/-- The points of `runAction`: the marker, the waiter's entry, the timers, the select, and the
removal of the entry. -/
inductive ActionPoint where
  | emitting
  | registering
  | arming
  | waiting (deadline : Nat)
  | unregistering (answer : Text) (timedOut : Bool)
  | returned (result : ActionResult)
deriving DecidableEq, Repr

/-- `box` is the call's channel. The code does not keep the rest: the time by which an answer
is awaited, what was received from the channel, and the payloads that the host sent for the id
behind the marker and that were handled in time. -/
structure ActionCall where
  id : Text
  point : ActionPoint
  box : Option Delivery
  deadline : Option Nat
  received : Option Delivery
  answers : List Text
deriving DecidableEq, Repr

/-- The points of the handling of an event. -/
inductive ResultPoint where
  | begun
  | looking (id payload : Text)
  | sending (waiter : Nat) (payload : Text)
  | finished
deriving DecidableEq, Repr

/-- `behind`, which the code does not keep, says that the marker was out when it began. -/
structure ResultEvent where
  id : Text
  payload : Text
  point : ResultPoint
  behind : Bool
deriving DecidableEq, Repr

inductive ActionChoice where
  | go
  | receive
  | deadline
  | file
deriving DecidableEq, Repr

/-- `files` are the answers that an old host leaves in files. -/
structure ActionRun where
  clock : Nat
  actionWaiters : List (Text × Nat)
  calls : List ActionCall
  events : List ResultEvent
  files : List (Text × Text)
deriving DecidableEq, Repr

inductive ActionInput where
  | tick (elapsed : Nat)
  | call (id : Text)
  | host (id payload : Text)
  | handle (index : Nat)
  | run (index : Nat) (choice : ActionChoice)
  | writeFile (id content : Text)
deriving DecidableEq, Repr

namespace ActionRun

def initial : ActionRun where
  clock := 0
  actionWaiters := []
  calls := []
  events := []
  files := []

/-- A map with another value for the key. -/
def insert {Value : Type} (map : List (Text × Value)) (key : Text) (value : Value) :
    List (Text × Value) :=
  (key, value) :: map.filter fun entry => entry.1 ≠ key

def remove {Value : Type} (map : List (Text × Value)) (key : Text) : List (Text × Value) :=
  map.filter fun entry => entry.1 ≠ key

def setCall (self : ActionRun) (index : Nat) (call : ActionCall) : ActionRun :=
  { self with calls := self.calls.set index call }

/-- One operation of a call. -/
def run (self : ActionRun) (index : Nat) (call : ActionCall) : ActionChoice → Option ActionRun
  | .go =>
      match call.point with
      | .emitting => some (self.setCall index { call with point := .registering })
      | .registering =>
          some { self.setCall index { call with point := .arming } with
            actionWaiters := insert self.actionWaiters call.id index }
      | .arming =>
          let deadline := self.clock + actionDeadline
          some (self.setCall index
            { call with point := .waiting deadline, deadline := some deadline })
      | .unregistering answer timedOut =>
          some { self.setCall index { call with
              point := .returned (actionResult answer timedOut) } with
            actionWaiters := remove self.actionWaiters call.id }
      | _ => none
  | .receive =>
      match call.point, call.box with
      | .waiting _, some delivery =>
          some (self.setCall index { call with
            point := .unregistering delivery.payload false
            box := none
            received := some delivery })
      | _, _ => none
  | .deadline =>
      match call.point with
      | .waiting deadline =>
          if deadline ≤ self.clock then
            some (self.setCall index { call with point := .unregistering [] true })
          else none
      | _ => none
  | .file =>
      match call.point, self.files.lookup call.id with
      | .waiting _, some content =>
          some { self.setCall index { call with point := .unregistering (trim content) false } with
            files := remove self.files call.id }
      | _, _ => none

/-- The call still has time. -/
def inTime (self : ActionRun) (call : ActionCall) : Bool :=
  match call.deadline with
  | none => true
  | some deadline => self.clock < deadline

/-- An event that has been handled counts for the call that it was meant for. -/
def credit (self : ActionRun) (event : ResultEvent) (call : ActionCall) : ActionCall :=
  if call.id = event.id ∧ event.behind = true ∧ self.inTime call = true then
    { call with answers := call.answers ++ [event.payload] }
  else call

def finish (self : ActionRun) (index : Nat) (event : ResultEvent) : ActionRun :=
  { self with
    calls := self.calls.map (self.credit event)
    events := self.events.set index { event with point := .finished } }

/-- A full channel takes nothing more. -/
def put (delivery : Delivery) (call : ActionCall) : ActionCall :=
  match call.box with
  | none => { call with box := some delivery }
  | some _ => call

def deliver (self : ActionRun) (waiter : Nat) (delivery : Delivery) : ActionRun :=
  { self with calls := self.calls.modify waiter (put delivery) }

/-- One operation of an event's handling. -/
def handle (self : ActionRun) (index : Nat) (event : ResultEvent) : Option ActionRun :=
  match event.point with
  | .begun =>
      match parseActionResult (actionResultEvent event.id event.payload) with
      | none => some (self.finish index event)
      | some (id, payload) =>
          some { self with
            events := self.events.set index { event with point := .looking id payload } }
  | .looking id payload =>
      match self.actionWaiters.lookup id with
      | none => some (self.finish index event)
      | some waiter =>
          some { self with
            events := self.events.set index { event with point := .sending waiter payload } }
  | .sending waiter payload =>
      some ((self.deliver waiter { payload := payload, meant := event.id }).finish index event)
  | .finished => none

/-- The marker of the id has been emitted. -/
def emitted (self : ActionRun) (id : Text) : Bool :=
  self.calls.any fun call => call.id = id ∧ call.point ≠ .emitting

def step (self : ActionRun) : ActionInput → ActionRun × Unit
  | .tick elapsed => ({ self with clock := self.clock + elapsed }, ())
  | .call id =>
      if self.calls.any fun call => call.id = id then (self, ())
      else
        ({ self with
          calls := self.calls ++
            [{ id := id, point := .emitting, box := none, deadline := none, received := none,
               answers := [] }] }, ())
  | .host id payload =>
      ({ self with
        events := self.events ++
          [{ id := id, payload := payload, point := .begun, behind := self.emitted id }] }, ())
  | .handle index =>
      match self.events[index]? with
      | none => (self, ())
      | some event => ((self.handle index event).getD self, ())
  | .run index choice =>
      match self.calls[index]? with
      | none => (self, ())
      | some call => ((self.run index call choice).getD self, ())
  | .writeFile id content => ({ self with files := insert self.files id content }, ())

end ActionRun

end Csqtt
