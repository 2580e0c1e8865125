/-
Module: Csqtt.Engine.CredentialCache
Purpose: The credential that a cohort of workers shares, with the number of allocations made
  from it.
Trusted boundary: a 64-bit generation counter does not come to its end
Main exports: TurnCredentials, CredentialLease, CredentialCache, reserve, store,
  recordAllocation, release, invalidate, rotateAfterQuota, retryAfterMismatch
-/
import Mathlib.Data.String.Defs

namespace Csqtt

def workersPerCredential : Nat := 18

structure TurnCredentials where
  username : String
  password : String
  serverAddresses : List String
deriving DecidableEq, Repr

def sameTurnCredentials (left right : TurnCredentials) : Bool :=
  left.username == right.username && left.password == right.password &&
    left.serverAddresses == right.serverAddresses

@[simp] theorem sameTurnCredentials_iff {left right : TurnCredentials} :
    sameTurnCredentials left right = true ↔ left = right := by
  cases left
  cases right
  simp [sameTurnCredentials, and_assoc]

/-- Milliseconds. -/
def quotaRotationDelay : Nat → Nat
  | 0 => 100
  | 1 => 300
  | 2 => 500
  | 3 => 800
  | _ => 1500

structure CachedCredentials where
  value : TurnCredentials
  generation : Nat
  allocationAttempts : Nat
  allocationMismatches : Nat
deriving DecidableEq, Repr

structure CredentialLease where
  value : TurnCredentials
  generation : Nat
deriving DecidableEq, Repr

structure CredentialCache where
  current : Option CachedCredentials
  quotaBlocked : Option TurnCredentials
  nextGeneration : Nat
  quotaRetries : Nat
deriving DecidableEq, Repr

inductive QuotaRotation where
  | rotated (delay : Nat)
  | replaced
deriving DecidableEq, Repr

inductive AllocationMismatch where
  | retryCurrent
  | rotated
  | replaced
deriving DecidableEq, Repr

/-- The lease is one of the cached credential, not of an earlier one. -/
def CachedCredentials.leased (self : CachedCredentials) (lease : CredentialLease) : Bool :=
  self.generation == lease.generation && sameTurnCredentials self.value lease.value

def CachedCredentials.lease (self : CachedCredentials) : CredentialLease where
  value := self.value
  generation := self.generation

namespace CredentialCache

def empty : CredentialCache where
  current := none
  quotaBlocked := none
  nextGeneration := 0
  quotaRetries := 0

/-- A credential with too many attempts is given up. -/
def reserve (self : CredentialCache) : CredentialCache × Option CredentialLease :=
  match self.current with
  | none => (self, none)
  | some cached =>
      if workersPerCredential ≤ cached.allocationAttempts then
        ({ self with current := none }, none)
      else
        ({ self with
            current := some { cached with allocationAttempts := cached.allocationAttempts + 1 } },
          some cached.lease)

/-- The credential rejected last for its quota is not taken again. -/
def store (self : CredentialCache) (credentials : TurnCredentials) : CredentialCache × Bool :=
  if self.quotaBlocked.any (sameTurnCredentials · credentials) then (self, false)
  else
    let generation := max (self.nextGeneration + 1) 1
    ({ self with
        quotaBlocked := none
        nextGeneration := generation
        current := some
          { value := credentials
            generation := generation
            allocationAttempts := 0
            allocationMismatches := 0 } }, true)

def recordAllocation (self : CredentialCache) (lease : CredentialLease) : CredentialCache :=
  match self.current with
  | none => self
  | some cached =>
      if cached.leased lease then
        { self with current := some { cached with allocationMismatches := 0 }, quotaRetries := 0 }
      else self

def release (self : CredentialCache) (lease : CredentialLease) : CredentialCache :=
  match self.current with
  | none => self
  | some cached =>
      if cached.leased lease then
        { self with
          current := some { cached with allocationAttempts := cached.allocationAttempts - 1 } }
      else self

def invalidate (self : CredentialCache) (lease : CredentialLease) : CredentialCache × Bool :=
  match self.current with
  | none => (self, false)
  | some cached =>
      if cached.leased lease then ({ self with current := none }, true) else (self, false)

def rotateAfterQuota (self : CredentialCache) (lease : CredentialLease) :
    CredentialCache × QuotaRotation :=
  match self.current with
  | none => (self, .replaced)
  | some cached =>
      if cached.leased lease then
        ({ self with
            current := none
            quotaBlocked := some cached.value
            quotaRetries := self.quotaRetries + 1 },
          .rotated (quotaRotationDelay self.quotaRetries))
      else (self, .replaced)

def nextQuotaDelay (self : CredentialCache) : CredentialCache × Nat :=
  ({ self with quotaRetries := self.quotaRetries + 1 }, quotaRotationDelay self.quotaRetries)

/-- The first mismatch in a row is tried again with the same credential. -/
def retryAfterMismatch (self : CredentialCache) (lease : CredentialLease) :
    CredentialCache × AllocationMismatch :=
  match self.current with
  | none => (self, .replaced)
  | some cached =>
      if cached.leased lease then
        if cached.allocationMismatches = 0 then
          ({ self with current := some { cached with allocationMismatches := 1 } }, .retryCurrent)
        else ({ self with current := none }, .rotated)
      else (self, .replaced)

end CredentialCache

/-- What the workers do with the cache. A lease is named by its place among those given out. -/
inductive CacheEvent where
  | reserve
  | store (credentials : TurnCredentials)
  | record (lease : Nat)
  | release (lease : Nat)
  | invalidate (lease : Nat)
  | rotate (lease : Nat)
  | mismatch (lease : Nat)
  | delay
deriving DecidableEq, Repr

/-- A lease that was given out, and how often it came back. -/
structure GivenLease where
  lease : CredentialLease
  released : Nat
deriving DecidableEq, Repr

structure CacheRun where
  cache : CredentialCache
  leases : List GivenLease
deriving DecidableEq, Repr

inductive CacheAnswer where
  | leased (lease : Option CredentialLease)
  | stored (taken : Bool)
  | invalidated (done : Bool)
  | rotated (rotation : QuotaRotation)
  | mismatched (mismatch : AllocationMismatch)
  | delayed (delay : Nat)
  | done
deriving DecidableEq, Repr

namespace CacheRun

def start : CacheRun where
  cache := .empty
  leases := []

/-- A call with a lease, if it was given out. -/
def withLease (self : CacheRun) (lease : Nat)
    (call : CredentialLease → CredentialCache × CacheAnswer) : CacheRun × CacheAnswer :=
  match self.leases[lease]? with
  | none => (self, .done)
  | some given =>
      let called := call given.lease
      ({ self with cache := called.1 }, called.2)

def step (self : CacheRun) : CacheEvent → CacheRun × CacheAnswer
  | .reserve =>
      let reserved := self.cache.reserve
      ({ cache := reserved.1
         leases := self.leases ++ reserved.2.toList.map fun lease => ⟨lease, 0⟩ },
        .leased reserved.2)
  | .store credentials =>
      let stored := self.cache.store credentials
      ({ self with cache := stored.1 }, .stored stored.2)
  | .record lease => self.withLease lease fun lease => (self.cache.recordAllocation lease, .done)
  | .release lease =>
      let called := self.withLease lease fun lease => (self.cache.release lease, .done)
      ({ called.1 with
          leases := self.leases.modify lease fun given =>
            { given with released := given.released + 1 } }, called.2)
  | .invalidate lease =>
      self.withLease lease fun lease =>
        let called := self.cache.invalidate lease
        (called.1, .invalidated called.2)
  | .rotate lease =>
      self.withLease lease fun lease =>
        let called := self.cache.rotateAfterQuota lease
        (called.1, .rotated called.2)
  | .mismatch lease =>
      self.withLease lease fun lease =>
        let called := self.cache.retryAfterMismatch lease
        (called.1, .mismatched called.2)
  | .delay =>
      let called := self.cache.nextQuotaDelay
      ({ self with cache := called.1 }, .delayed called.2)

end CacheRun

end Csqtt
