/-
Module: Csqtt.Engine.Registering
Purpose: Sessions that register and register anew while the idle scale-down changes what
  they are to register with: each step is one atomic operation of a session or of an idle
  call.
Trusted boundary: the order of atomic operations is one for all threads; the server answers
  what it was sent, whenever and however often
Main exports: RegistrationPayload, Occasion, RegistrantPoint, Registrant, Registrant.next,
  Registering, step
-/
import Csqtt.Engine.Idle

namespace Csqtt

/-- The number of GETCONF attempts. -/
def configAttempts : Nat := 3

/-- `declared_count`. -/
def Idle.declaredCount (self : Idle) : Nat :=
  if self.declared = 0 then self.totalWorkers else self.declared

/-- What one payload says. `carried` is the offset inside its generation; `offset` is the one
that is returned beside it. -/
structure RegistrationPayload where
  generation : U64
  declared : Nat
  carried : U64
  offset : U64
deriving DecidableEq, Repr

/-- A session registers with up to three attempts when it starts, and once for each
announcement later. -/
inductive Occasion where
  | attempt (number : Nat)
  | announcement
deriving DecidableEq, Repr

/-- The points of a session. The first four build a payload, `joining` knows the offset that
is about to be noted and the payload it is noted for. -/
inductive RegistrantPoint where
  | generation (occasion : Occasion)
  | offset (occasion : Occasion) (carried : U64)
  | declared (occasion : Occasion) (carried offset : U64)
  | total (occasion : Occasion) (carried offset : U64)
  | sending (occasion : Occasion) (payload : RegistrationPayload)
  | awaiting (number : Nat) (payload : RegistrationPayload)
  | joining (occasion : Occasion) (offset : U64) (payload : RegistrationPayload)
  | capturing
  | checking
  | waiting
  | changed
  | ended
deriving DecidableEq, Repr

/-- How a send or a wait turns out. `answered` names the payload that the server's answer is
for by its place among those sent; the answer itself does not. -/
inductive RegistrantChoice where
  | go
  | failed
  | answered (place : Nat)
  | unconfigured
  | timeout
  | ends
deriving DecidableEq, Repr

/-- A session, with all payloads that it put on its writer and all offsets that it noted,
each with the payload it was noted for. -/
structure Registrant where
  worker : Nat
  base : U64
  point : RegistrantPoint
  seen : U64
  sent : List RegistrationPayload
  noted : List (U64 × RegistrationPayload)
deriving DecidableEq, Repr

namespace Registrant

def begun (worker : Nat) (base : U64) : Registrant where
  worker := worker
  base := base
  point := .generation (.attempt 0)
  seen := 0
  sent := []
  noted := []

def goTo (self : Registrant) (point : RegistrantPoint) : Registrant :=
  { self with point := point }

/-- The payload from what was read. -/
def payload (self : Registrant) (carried offset : U64) (declared : Nat) : RegistrationPayload where
  generation := saturatingAdd self.base carried
  declared := max declared 1
  carried := carried
  offset := offset

/-- Where a session goes with its payload on the writer. -/
def sentPoint (payload : RegistrationPayload) : Occasion → RegistrantPoint
  | .attempt number => .awaiting number payload
  | .announcement => .joining .announcement payload.offset payload

/-- Where a session goes when its send failed. -/
def unsentPoint : Occasion → RegistrantPoint
  | .attempt _ => .ended
  | .announcement => .checking

/-- Where a session goes when it has noted its offset. -/
def joinedPoint : Occasion → RegistrantPoint
  | .attempt _ => .capturing
  | .announcement => .checking

/-- `note_path_joined`. -/
def noteJoined (idle : Idle) (worker : Nat) (offset : U64) : Idle :=
  if worker < joinedSlots ∧ worker ≠ 0 then
    { idle with joined := idle.joined.set worker (saturatingAdd offset 1) }
  else idle

/-- One atomic operation of a session, if it can make one. A session may end anywhere. -/
def next (self : Registrant) (idle : Idle) : RegistrantChoice → Option (Idle × Registrant)
  | .go =>
      match self.point with
      | .generation occasion => some (idle, self.goTo (.offset occasion idle.genOffset))
      | .offset occasion carried =>
          some (idle, self.goTo (.declared occasion carried idle.genOffset))
      | .declared occasion carried offset =>
          some (idle, self.goTo (if idle.declared = 0 then .total occasion carried offset
            else .sending occasion (self.payload carried offset idle.declared)))
      | .total occasion carried offset =>
          some (idle, self.goTo
            (.sending occasion (self.payload carried offset idle.totalWorkers)))
      | .sending occasion payload =>
          some (idle,
            { self.goTo (sentPoint payload occasion) with sent := self.sent ++ [payload] })
      | .joining occasion offset payload =>
          some (noteJoined idle self.worker offset,
            { self.goTo (joinedPoint occasion) with noted := self.noted ++ [(offset, payload)] })
      | .capturing => some (idle, { self.goTo .checking with seen := idle.announce })
      | .checking =>
          some (idle, self.goTo (if idle.announce ≠ self.seen then .changed else .waiting))
      | .waiting => some (idle, self.goTo .checking)
      | .changed =>
          some (idle, { self.goTo (.generation .announcement) with seen := idle.announce })
      | .awaiting _ _ => none
      | .ended => none
  | .failed =>
      match self.point with
      | .sending occasion _ => some (idle, self.goTo (unsentPoint occasion))
      | _ => none
  | .answered place =>
      match self.point, self.sent[place]? with
      | .awaiting number payload, some answered =>
          some (idle, self.goTo (.joining (.attempt number) payload.offset answered))
      | _, _ => none
  | .unconfigured =>
      match self.point with
      | .awaiting _ _ => some (idle, self.goTo .capturing)
      | _ => none
  | .timeout =>
      match self.point with
      | .awaiting number _ =>
          some (idle, self.goTo (if number + 1 < configAttempts then
            .generation (.attempt (number + 1)) else .ended))
      | _ => none
  | .ends => some (idle, self.goTo .ended)

end Registrant

/-- The calls that change what sessions register with. -/
inductive IdleCall where
  | enter
  | exit
  | notePathLost (worker : Nat)
deriving DecidableEq, Repr

def IdleCall.point : IdleCall → IdlePoint
  | .enter => .enterTotal
  | .exit => .exitSwap
  | .notePathLost worker => .lostAllowed worker

inductive RegisteringEvent where
  | call (idleCall : IdleCall)
  | run (index : Nat)
  | begin (worker : Nat) (base : U64)
  | move (session : Nat) (choice : RegistrantChoice)
deriving DecidableEq, Repr

structure Registering where
  idle : Idle
  calls : List IdlePoint
  sessions : List Registrant
deriving DecidableEq, Repr

namespace Registering

/-- The engine runs, with no idle call in progress and no session yet. -/
def start (idle : Idle) : Registering where
  idle := idle
  calls := []
  sessions := []

/-- What `reset` leaves behind. -/
def afterReset (totalWorkers : Nat) : Idle :=
  { Idle.initial with totalWorkers := totalWorkers, declared := totalWorkers }

/-- A step that cannot be taken leaves the state as it is. -/
def step (config : IdleConfig) (self : Registering) : RegisteringEvent → Registering × Unit
  | .call idleCall => ({ self with calls := self.calls ++ [idleCall.point] }, ())
  | .run index =>
      match self.calls[index]? with
      | none => (self, ())
      | some point =>
          let after := self.idle.perform config false point
          ({ self with idle := after.1, calls := self.calls.set index after.2 }, ())
  | .begin worker base => ({ self with sessions := self.sessions ++ [.begun worker base] }, ())
  | .move session choice =>
      match self.sessions[session]?.bind (·.next self.idle choice) with
      | none => (self, ())
      | some (idle, moved) =>
          ({ self with idle := idle, sessions := self.sessions.set session moved }, ())

end Registering

end Csqtt
