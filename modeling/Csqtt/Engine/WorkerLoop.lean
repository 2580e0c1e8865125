/-
Module: Csqtt.Engine.WorkerLoop
Purpose: The loops of the workers that share one credential: what each does between asking
  for the credential and asking again.
Trusted boundary: sessions end as they may
Main exports: SessionResult, WorkerPoint, WorkerChoice, WorkerPoint.next, Cohort, step
-/
import Csqtt.Engine.CredentialCache

namespace Csqtt

inductive AllocateFailure where
  | other
  | quota
  | mismatch
deriving DecidableEq, Repr

/-- What the loop makes of a session's result. A repair may have asked for new credentials,
and an error may have shown them to be invalid. -/
inductive SessionResult where
  | closed
  | idlePark
  | netRebind
  | targetRepair (reset : Bool)
  | rebindExhausted
  | failed (invalid : Bool) (cause : AllocateFailure)
deriving DecidableEq, Repr

/-- The points of a worker's loop. From `fetching` on to its next lease or retry it holds the
lock of the cache; `returning` has the point that follows. -/
inductive WorkerPoint where
  | waiting
  | asking
  | fetching
  | storing
  | backoff
  | pacing (lease : CredentialLease)
  | gated (lease : CredentialLease)
  | session (lease : CredentialLease) (allocationStarted : Bool)
  | returning (lease : CredentialLease) (next : WorkerPoint)
  | settled (lease : CredentialLease) (allocationStarted : Bool) (result : SessionResult)
  | invalidating (lease : CredentialLease) (cause : AllocateFailure)
  | rotating (lease : CredentialLease)
  | mismatching (lease : CredentialLease)
  | resting
  | returned
deriving DecidableEq, Repr

/-- How a wait ends, or what a session tells. -/
inductive WorkerChoice where
  | go
  | cancel
  | deny
  | fetched (credentials : TurnCredentials)
  | fetchFailed
  | started
  | allocated
  | ends (result : SessionResult)
  | panic
deriving DecidableEq, Repr

namespace WorkerPoint

/-- The worker has the lock of the cache between two steps. -/
def locks : WorkerPoint → Bool
  | .fetching => true
  | .storing => true
  | .backoff => true
  | _ => false

/-- The next step takes the lock. -/
def wantsLock : WorkerPoint → WorkerChoice → Bool
  | .asking, .go => true
  | .session _ _, .allocated => true
  | .returning _ _, .go => true
  | .invalidating _ _, .go => true
  | .rotating _, .go => true
  | .mismatching _, .go => true
  | _, _ => false

/-- The reservation of its lease has not been given back. -/
def holds : WorkerPoint → Bool
  | .pacing _ => true
  | .gated _ => true
  | .session _ _ => true
  | .returning _ _ => true
  | .settled _ allocationStarted _ => allocationStarted
  | _ => false

/-- The step gives the reservation back. -/
def gives : WorkerPoint → WorkerChoice → Bool
  | .returning _ _, .go => true
  | _, _ => false

end WorkerPoint

def AllocateFailure.next (lease : CredentialLease) : AllocateFailure → WorkerPoint
  | .other => .resting
  | .quota => .rotating lease
  | .mismatch => .mismatching lease

/-- Behind the session, when the worker is neither cancelled nor held back. -/
def SessionResult.next (lease : CredentialLease) : SessionResult → WorkerPoint
  | .closed => .resting
  | .idlePark => .waiting
  | .netRebind => .resting
  | .targetRepair reset => if reset then .invalidating lease .other else .resting
  | .rebindExhausted => .resting
  | .failed invalid cause => if invalid then .invalidating lease cause else cause.next lease

namespace WorkerPoint

def reserved (cache : CredentialCache) (otherwise : WorkerPoint) : CredentialCache × WorkerPoint :=
  match cache.reserve with
  | (cache, some lease) => (cache, .pacing lease)
  | (cache, none) => (cache, otherwise)

/-- One step of a loop. -/
def next (cache : CredentialCache) :
    WorkerPoint → WorkerChoice → Option (CredentialCache × WorkerPoint)
  | .returned, _ => none
  | _, .panic => some (cache, .waiting)
  | .waiting, .go => some (cache, .asking)
  | .waiting, .cancel => some (cache, .returned)
  | .asking, .go => some (reserved cache .fetching)
  | .asking, .cancel => some (cache, .returned)
  | .fetching, .fetched credentials =>
      match cache.store credentials with
      | (cache, true) => some (cache, .storing)
      | (cache, false) => some (cache.nextQuotaDelay.1, .asking)
  | .fetching, .fetchFailed => some (cache, .backoff)
  | .fetching, .cancel => some (cache, .returned)
  | .storing, .go => some (reserved cache .asking)
  | .storing, .cancel => some (cache, .returned)
  | .backoff, .go => some (cache, .asking)
  | .backoff, .cancel => some (cache, .returned)
  | .pacing lease, .go => some (cache, .gated lease)
  | .pacing lease, .cancel => some (cache, .returning lease .returned)
  | .gated lease, .go => some (cache, .session lease false)
  | .gated lease, .cancel => some (cache, .returning lease .returned)
  | .session lease _, .started => some (cache, .session lease true)
  | .session lease allocationStarted, .allocated =>
      some (cache.recordAllocation lease, .session lease allocationStarted)
  | .session lease allocationStarted, .ends result =>
      some (cache,
        if allocationStarted then .settled lease true result
        else .returning lease (.settled lease false result))
  | .returning lease next, .go => some (cache.release lease, next)
  | .settled _ _ _, .cancel => some (cache, .returned)
  | .settled lease allocationStarted .idlePark, .go =>
      some (cache, if allocationStarted then .returning lease .waiting else .waiting)
  | .settled lease allocationStarted .idlePark, .deny =>
      some (cache, if allocationStarted then .returning lease .waiting else .waiting)
  | .settled lease _ result, .go => some (cache, result.next lease)
  | .settled _ _ _, .deny => some (cache, .waiting)
  | .invalidating lease cause, .go => some ((cache.invalidate lease).1, cause.next lease)
  | .rotating lease, .go => some ((cache.rotateAfterQuota lease).1, .resting)
  | .mismatching lease, .go => some ((cache.retryAfterMismatch lease).1, .resting)
  | .resting, .go => some (cache, .waiting)
  | .resting, .cancel => some (cache, .returned)
  | _, _ => none

end WorkerPoint

/-- The workers with their cache. `kept`, which the code does not know, counts the
reservations that were dropped without being given back. -/
structure Cohort where
  cache : CredentialCache
  workers : List WorkerPoint
  kept : Nat
deriving DecidableEq, Repr

structure CohortEvent where
  worker : Nat
  choice : WorkerChoice
deriving DecidableEq, Repr

namespace Cohort

/-- The lock is with another worker. -/
def lockedOut (self : Cohort) (worker : Nat) : Bool :=
  (self.workers.eraseIdx worker).any (·.locks)

def moved (self : Cohort) (event : CohortEvent) (point : WorkerPoint)
    (next : CredentialCache × WorkerPoint) : Cohort where
  cache := next.1
  workers := self.workers.set event.worker next.2
  kept :=
    if point.holds && !next.2.holds && !point.gives event.choice then self.kept + 1
    else self.kept

def step (self : Cohort) (event : CohortEvent) : Cohort × Unit :=
  match self.workers[event.worker]? with
  | none => (self, ())
  | some point =>
      if point.wantsLock event.choice && self.lockedOut event.worker then (self, ())
      else
        match point.next self.cache event.choice with
        | none => (self, ())
        | some next => (self.moved event point next, ())

end Cohort

end Csqtt
