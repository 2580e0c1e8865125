/-
Module: Csqtt.Engine.RebindEpoch
Purpose: Sessions that watch the rebind epoch while they connect and while they run, and the
  requests that move it.
Trusted boundary: a 64-bit epoch does not come to its end; everything else that a session
  waits for may come at any time
Main exports: Watch, RebindPoint, RebindSession, RebindSession.next, Rebinding, step
-/
import Mathlib.Data.List.Basic

namespace Csqtt

/-- The two selects of a session that watch the epoch: the one around the connect, and the
loop of a session that runs. -/
inductive Watch where
  | connect
  | loop
deriving DecidableEq, Repr

/-- Why a session ended. -/
inductive SessionEnd where
  | netRebind
  | cancelled
  | idlePark
  | targetRepair
  | failed
deriving DecidableEq, Repr

/-- The wait for the next notification: not begun, on the list, or taken off it. -/
inductive EpochWait where
  | fresh
  | listed
  | woken
deriving DecidableEq, Repr

/-- The points of a session behind its first capture of the epoch. `ahead` and `behind` are
the branches of the select before and after that of the epoch; `announced` has created the
wait but not yet read the epoch, `unchanged` has read it. -/
inductive RebindPoint where
  | ahead (watch : Watch)
  | asking (watch : Watch)
  | announced (watch : Watch) (calls : Nat)
  | unchanged (watch : Watch) (calls : Nat)
  | behind (watch : Watch)
  | asleep (watch : Watch)
  | preparing
  | configuring
  | registering
  | recapturing
  | sending
  | ended (result : SessionEnd) (at' : Nat)
deriving DecidableEq, Repr

/-- How what a session looks at or waits for turns out. -/
inductive RebindChoice where
  | go
  | connected
  | announce
  | ends (result : SessionEnd)
deriving DecidableEq, Repr

/-- A session: the epoch it compares with, its wait, and, known to nobody, the epoch when it
began to connect and the one that it read last. -/
structure RebindSession where
  point : RebindPoint
  seen : Nat
  wait : EpochWait
  captured : Nat
  looked : Nat
deriving DecidableEq, Repr

/-- The epoch and the count of notifications, with the requests that have moved the epoch
but not notified yet. -/
structure Rebinding where
  epoch : Nat
  calls : Nat
  requesting : Nat
  sessions : List RebindSession
deriving DecidableEq, Repr

inductive RebindEvent where
  | request
  | notify
  | begin
  | move (session : Nat) (choice : RebindChoice)
deriving DecidableEq, Repr

namespace RebindSession

/-- `run_session` captures the epoch before its connect is polled first. -/
def begun (epoch : Nat) : RebindSession where
  point := .ahead .connect
  seen := epoch
  wait := .fresh
  captured := epoch
  looked := epoch

def goTo (self : RebindSession) (point : RebindPoint) : RebindSession :=
  { self with point := point }

/-- The select is left, its wait given up. -/
def leave (self : RebindSession) (point : RebindPoint) : RebindSession :=
  { self with point := point, wait := .fresh }

/-- One step of a session, if it can take one. Every branch of a select but that of the
epoch may come ready, and a session may fail anywhere. -/
def next (self : RebindSession) (epoch calls : Nat) : RebindChoice → Option RebindSession
  | .go =>
      match self.point with
      | .ahead watch => some (self.goTo (.asking watch))
      | .asking watch =>
          match self.wait with
          | .listed => some (self.goTo (.behind watch))
          | _ => some (self.leave (.announced watch calls))
      | .announced watch calls =>
          if epoch ≠ self.seen then
            some { self.leave (.ended .netRebind epoch) with looked := epoch }
          else some { self.goTo (.unchanged watch calls) with looked := epoch }
      | .unchanged watch announced =>
          if calls ≠ announced then some (self.goTo (.asking watch))
          else some { self.goTo (.behind watch) with wait := .listed }
      | .behind watch => some (self.goTo (.asleep watch))
      | .asleep watch => some (self.goTo (.ahead watch))
      | .preparing => some (self.goTo .configuring)
      | .configuring => some (self.goTo .registering)
      | .registering => some (self.goTo .recapturing)
      | .recapturing => some { self.goTo (.ahead .loop) with seen := epoch, looked := epoch }
      | .sending => some (self.goTo (.ahead .loop))
      | .ended _ _ => none
  | .connected => if self.point = .ahead .connect then some (self.leave .preparing) else none
  | .announce => if self.point = .behind .loop then some (self.leave .sending) else none
  | .ends .netRebind => none
  | .ends result =>
      match self.point with
      | .ended _ _ => none
      | _ => some (self.leave (.ended result epoch))

/-- A notification takes the session off the list. -/
def notified (self : RebindSession) : RebindSession :=
  match self.wait with
  | .listed => { self with wait := .woken }
  | _ => self

end RebindSession

namespace Rebinding

def start : Rebinding where
  epoch := 0
  calls := 0
  requesting := 0
  sessions := []

/-- A step that cannot be taken leaves the state as it is. -/
def step (self : Rebinding) : RebindEvent → Rebinding × Unit
  | .request =>
      ({ self with epoch := self.epoch + 1, requesting := self.requesting + 1 }, ())
  | .notify =>
      if self.requesting = 0 then (self, ())
      else
        ({ self with
            calls := self.calls + 1
            requesting := self.requesting - 1
            sessions := self.sessions.map RebindSession.notified }, ())
  | .begin => ({ self with sessions := self.sessions ++ [.begun self.epoch] }, ())
  | .move session choice =>
      match self.sessions[session]?.bind (·.next self.epoch self.calls choice) with
      | none => (self, ())
      | some moved => ({ self with sessions := self.sessions.set session moved }, ())

end Rebinding

end Csqtt
