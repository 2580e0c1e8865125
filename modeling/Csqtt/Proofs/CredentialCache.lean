/-
Module: Csqtt.Proofs.CredentialCache
Purpose: The attempts counted with a shared credential are the leases still out, late calls
  do nothing, and a credential rejected for its quota stays away.
Trusted boundary: none
Main exports: CacheRun.Accounted, leased_other, CacheRun.Blocked, cache_accounting
-/
import Csqtt.Core.Transducer
import Csqtt.Core.Weight
import Csqtt.Engine.CredentialCache

namespace Csqtt

/-!
### Calls with a lease of another generation
-/

namespace CredentialCache

variable {self : CredentialCache} {lease : CredentialLease}

/-- The lease is not of the generation that is cached, if any is. -/
def Outdated (self : CredentialCache) (lease : CredentialLease) : Prop :=
  ∀ cached, self.current = some cached → cached.generation ≠ lease.generation

theorem leased_other {cached : CachedCredentials} (other : cached.generation ≠ lease.generation) :
    cached.leased lease = false := by
  simp [CachedCredentials.leased, other]

theorem recordAllocation_outdated (outdated : self.Outdated lease) :
    self.recordAllocation lease = self := by
  cases held : self.current with
  | none => simp only [recordAllocation, held]
  | some cached =>
    simp only [recordAllocation, held, leased_other (outdated cached held), Bool.false_eq_true,
      if_false]

theorem release_outdated (outdated : self.Outdated lease) : self.release lease = self := by
  cases held : self.current with
  | none => simp only [release, held]
  | some cached =>
    simp only [release, held, leased_other (outdated cached held), Bool.false_eq_true, if_false]

theorem invalidate_outdated (outdated : self.Outdated lease) :
    self.invalidate lease = (self, false) := by
  cases held : self.current with
  | none => simp only [invalidate, held]
  | some cached =>
    simp only [invalidate, held, leased_other (outdated cached held), Bool.false_eq_true, if_false]

theorem rotateAfterQuota_outdated (outdated : self.Outdated lease) :
    self.rotateAfterQuota lease = (self, .replaced) := by
  cases held : self.current with
  | none => simp only [rotateAfterQuota, held]
  | some cached =>
    simp only [rotateAfterQuota, held, leased_other (outdated cached held), Bool.false_eq_true,
      if_false]

theorem retryAfterMismatch_outdated (outdated : self.Outdated lease) :
    self.retryAfterMismatch lease = (self, .replaced) := by
  cases held : self.current with
  | none => simp only [retryAfterMismatch, held]
  | some cached =>
    simp only [retryAfterMismatch, held, leased_other (outdated cached held), Bool.false_eq_true,
      if_false]

/-!
### Attempts and leases
-/

/-- The later cache has the credential of the earlier one with the same attempts, or none. -/
def Kept (before after : CredentialCache) : Prop :=
  after.nextGeneration = before.nextGeneration ∧
    ∀ cached, after.current = some cached → ∃ earlier, before.current = some earlier ∧
      cached.value = earlier.value ∧ cached.generation = earlier.generation ∧
      cached.allocationAttempts = earlier.allocationAttempts

theorem Kept.refl (self : CredentialCache) : Kept self self :=
  ⟨rfl, fun cached held => ⟨cached, held, rfl, rfl, rfl⟩⟩

theorem Kept.dropped {after : CredentialCache} (next : after.nextGeneration = self.nextGeneration)
    (none : after.current = none) : Kept self after :=
  ⟨next, fun _ held => by cases none.symm.trans held⟩

theorem kept_recordAllocation (self : CredentialCache) (lease : CredentialLease) :
    Kept self (self.recordAllocation lease) := by
  cases held : self.current with
  | none =>
    simp only [recordAllocation, held]
    exact .refl self
  | some cached =>
    simp only [recordAllocation, held]
    split
    · exact ⟨rfl, fun later same => ⟨cached, held, by cases same; exact ⟨rfl, rfl, rfl⟩⟩⟩
    · exact .refl self

theorem kept_invalidate (self : CredentialCache) (lease : CredentialLease) :
    Kept self (self.invalidate lease).1 := by
  cases held : self.current with
  | none =>
    simp only [invalidate, held]
    exact .refl self
  | some cached =>
    simp only [invalidate, held]
    split
    · exact .dropped rfl rfl
    · exact .refl self

theorem kept_rotateAfterQuota (self : CredentialCache) (lease : CredentialLease) :
    Kept self (self.rotateAfterQuota lease).1 := by
  cases held : self.current with
  | none =>
    simp only [rotateAfterQuota, held]
    exact .refl self
  | some cached =>
    simp only [rotateAfterQuota, held]
    split
    · exact .dropped rfl rfl
    · exact .refl self

theorem kept_retryAfterMismatch (self : CredentialCache) (lease : CredentialLease) :
    Kept self (self.retryAfterMismatch lease).1 := by
  cases held : self.current with
  | none =>
    simp only [retryAfterMismatch, held]
    exact .refl self
  | some cached =>
    simp only [retryAfterMismatch, held]
    split
    · split
      · exact ⟨rfl, fun later same => ⟨cached, held, by cases same; exact ⟨rfl, rfl, rfl⟩⟩⟩
      · exact .dropped rfl rfl
    · exact .refl self

/-- A release takes an attempt off if its lease is of the cached credential. -/
theorem release_spec (self : CredentialCache) (lease : CredentialLease) :
    (self.release lease).nextGeneration = self.nextGeneration ∧
      ∀ cached, (self.release lease).current = some cached →
        ∃ earlier, self.current = some earlier ∧ cached.value = earlier.value ∧
          cached.generation = earlier.generation ∧
          cached.allocationAttempts =
            earlier.allocationAttempts - if earlier.leased lease = true then 1 else 0 := by
  cases held : self.current with
  | none =>
    simp only [release, held]
    exact ⟨trivial, fun _ now => by cases now⟩
  | some earlier =>
    by_cases leased : earlier.leased lease = true
    · simp only [release, held, leased, if_true]
      refine ⟨trivial, fun cached now => ⟨earlier, rfl, ?_⟩⟩
      cases now
      exact ⟨rfl, rfl, by simp [leased]⟩
    · simp only [release, held, leased, Bool.false_eq_true, if_false]
      refine ⟨trivial, fun cached now => ⟨earlier, rfl, ?_⟩⟩
      cases now
      exact ⟨rfl, rfl, by simp [leased]⟩

end CredentialCache

namespace CacheRun

/-- The leases of a generation that were given out. -/
def reservations (self : CacheRun) (generation : Nat) : Nat :=
  (self.leases.map (·.lease.generation)).count generation

/-- How often leases of a generation came back. -/
def releases (self : CacheRun) (generation : Nat) : Nat :=
  (self.leases.map fun given =>
    if given.lease.generation = generation then given.released else 0).sum

/-- No lease came back twice. -/
def Once (self : CacheRun) : Prop := ∀ given ∈ self.leases, given.released ≤ 1

/-- What the cached credential has to do with the leases given out. -/
structure Accounted (run : CacheRun) : Prop where
  known : ∀ given ∈ run.leases, given.lease.generation ≤ run.cache.nextGeneration
  latest : ∀ cached, run.cache.current = some cached →
    cached.generation = run.cache.nextGeneration
  value : ∀ cached, run.cache.current = some cached → ∀ given ∈ run.leases,
    given.lease.generation = cached.generation → given.lease.value = cached.value
  attempts : ∀ cached, run.cache.current = some cached →
    cached.allocationAttempts + run.releases cached.generation =
      run.reservations cached.generation
  few : ∀ cached, run.cache.current = some cached →
    cached.allocationAttempts ≤ workersPerCredential

theorem accounted_start : start.Accounted where
  known _ mem := by cases mem
  latest _ held := by cases held
  value _ held := by cases held
  attempts _ held := by cases held
  few _ held := by cases held

variable {self : CacheRun}

theorem Accounted.kept (accounted : self.Accounted) {cache : CredentialCache}
    (kept : self.cache.Kept cache) : ({ self with cache := cache } : CacheRun).Accounted where
  known given mem := (accounted.known given mem).trans_eq kept.1.symm
  latest cached held := by
    obtain ⟨earlier, before, -, generation, -⟩ := kept.2 cached held
    exact generation.trans ((accounted.latest earlier before).trans kept.1.symm)
  value cached held given mem same := by
    obtain ⟨earlier, before, value, generation, -⟩ := kept.2 cached held
    exact (accounted.value earlier before given mem (same.trans generation)).trans value.symm
  attempts cached held := by
    obtain ⟨earlier, before, -, generation, attempts⟩ := kept.2 cached held
    rw [attempts, generation]
    exact accounted.attempts earlier before
  few cached held := by
    obtain ⟨earlier, before, -, -, attempts⟩ := kept.2 cached held
    rw [attempts]
    exact accounted.few earlier before

/-- The number given out grows with a lease of that generation. -/
theorem reservations_append (cache : CredentialCache) (lease : CredentialLease)
    (generation : Nat) :
    ({ cache := cache, leases := self.leases ++ [⟨lease, 0⟩] } : CacheRun).reservations generation =
      self.reservations generation + if lease.generation = generation then 1 else 0 := by
  simp only [reservations, List.map_append, List.count_append, List.map_singleton,
    List.count_singleton, beq_iff_eq]

theorem releases_append (cache : CredentialCache) (lease : CredentialLease) (generation : Nat) :
    ({ cache := cache, leases := self.leases ++ [⟨lease, 0⟩] } : CacheRun).releases generation =
      self.releases generation := by
  simp [releases]

theorem Accounted.reserve (accounted : self.Accounted) : (self.step .reserve).1.Accounted := by
  have quiet (cache : CredentialCache) :
      ({ cache := cache, leases := self.leases ++ [] } : CacheRun) = { self with cache := cache } := by
    rw [List.append_nil]
  cases held : self.cache.current with
  | none =>
    simp only [step, CredentialCache.reserve, held, Option.toList_none, List.map_nil, quiet]
    exact accounted.kept (.refl self.cache)
  | some cached =>
    by_cases used : workersPerCredential ≤ cached.allocationAttempts
    · simp only [step, CredentialCache.reserve, held, used, if_true, Option.toList_none,
        List.map_nil, quiet]
      exact accounted.kept (.dropped rfl rfl)
    · have latest := accounted.latest cached held
      simp only [step, CredentialCache.reserve, held, used, if_false, Option.toList_some,
        List.map_singleton]
      refine ⟨fun given mem => ?_, fun later same => ?_, fun later same given mem equal => ?_,
        fun later same => ?_, fun later same => ?_⟩
      · obtain earlier | new := List.mem_append.mp mem
        · exact accounted.known given earlier
        · rw [List.mem_singleton.mp new]
          exact latest.le
      · cases same
        exact latest
      · cases same
        obtain earlier | new := List.mem_append.mp mem
        · exact accounted.value cached held given earlier equal
        · rw [List.mem_singleton.mp new]
          rfl
      · cases same
        rw [reservations_append, releases_append, ← accounted.attempts cached held,
          CachedCredentials.lease, if_pos rfl]
        exact Nat.add_right_comm _ _ _
      · cases same
        exact Nat.lt_of_not_le used

theorem Accounted.store (accounted : self.Accounted) (credentials : TurnCredentials) :
    (self.step (.store credentials)).1.Accounted := by
  simp only [step, CredentialCache.store]
  split
  · exact accounted
  · have unused : ∀ given ∈ self.leases,
        given.lease.generation ≠ max (self.cache.nextGeneration + 1) 1 := by
      intro given mem same
      have known := accounted.known given mem
      rw [same, Nat.max_eq_left (Nat.le_add_left 1 _)] at known
      exact Nat.not_succ_le_self _ known
    refine ⟨fun given mem => ?_, fun later same => ?_, fun later same given mem equal => ?_,
      fun later same => ?_, fun later same => ?_⟩
    · exact (accounted.known given mem).trans ((Nat.le_succ _).trans (Nat.le_max_left _ _))
    · cases same
      rfl
    · cases same
      exact absurd equal (unused given mem)
    · cases same
      have none : self.reservations (max (self.cache.nextGeneration + 1) 1) = 0 :=
        List.count_eq_zero.mpr fun mem => by
          obtain ⟨given, inside, same⟩ := List.mem_map.mp mem
          exact unused given inside same
      have back : self.releases (max (self.cache.nextGeneration + 1) 1) = 0 :=
        List.sum_eq_zero fun count mem => by
          obtain ⟨given, inside, rfl⟩ := List.mem_map.mp mem
          exact if_neg (unused given inside)
      exact (congrArg (0 + ·) back).trans none.symm
    · cases same
      exact Nat.zero_le _

theorem map_modify {Element Image : Type*} {change : Element → Element} {image : Element → Image}
    (same : ∀ element, image (change element) = image element) (list : List Element)
    (index : Nat) : (list.modify index change).map image = list.map image := by
  apply List.ext_getElem?
  intro place
  rw [List.getElem?_map, List.getElem?_map, List.getElem?_modify]
  cases list[place]? with
  | none => rfl
  | some element =>
    by_cases here : index = place
    · simp [here, same]
    · simp [here]

/-- As many came back as were given out, at most. -/
theorem releases_le (once : self.Once) (generation : Nat) :
    self.releases generation ≤ self.reservations generation := by
  unfold releases reservations
  unfold Once at once
  generalize self.leases = leases at once ⊢
  induction leases with
  | nil => exact Nat.le_refl 0
  | cons given rest inductionHypothesis =>
    obtain ⟨first, others⟩ := List.forall_mem_cons.mp once
    have rest := inductionHypothesis others
    simp only [List.map_cons, List.sum_cons, List.count_cons, beq_iff_eq]
    split
    · omega
    · omega

/-- A lease comes back. -/
def returned (given : GivenLease) : GivenLease := { given with released := given.released + 1 }

section Returned

variable {index : Nat} {given : GivenLease}

theorem reservations_returned (cache : CredentialCache) (index generation : Nat) :
    ({ cache := cache, leases := self.leases.modify index returned } : CacheRun).reservations
      generation = self.reservations generation := by
  exact congrArg (List.count generation)
    (@map_modify _ _ returned (·.lease.generation) (fun _ => rfl) self.leases index)

theorem releases_returned (found : self.leases[index]? = some given) (cache : CredentialCache)
    (generation : Nat) :
    ({ cache := cache, leases := self.leases.modify index returned } : CacheRun).releases
      generation =
      self.releases generation + if given.lease.generation = generation then 1 else 0 := by
  have total := sum_modify found returned fun given =>
    if given.lease.generation = generation then given.released else 0
  simp only [releases, returned] at total ⊢
  split
  · next same =>
      simp only [same, if_true] at total
      omega
  · next other =>
      simp only [other, if_false] at total
      exact total

/-- A lease given out before is one after, with the count of its returns. -/
theorem mem_returned {later : GivenLease} (mem : later ∈ self.leases.modify index returned) :
    ∃ earlier ∈ self.leases, later.lease = earlier.lease ∧ earlier.released ≤ later.released := by
  obtain ⟨place, found⟩ := List.mem_iff_getElem?.mp mem
  rw [List.getElem?_modify] at found
  obtain ⟨earlier, before, same⟩ := Option.map_eq_some_iff.mp found
  refine ⟨earlier, List.mem_of_getElem? before, ?_⟩
  rw [← same]
  split
  · exact ⟨rfl, Nat.le_succ _⟩
  · exact ⟨rfl, Nat.le_refl _⟩

theorem Accounted.release (accounted : self.Accounted)
    (once : (self.step (.release index)).1.Once) : (self.step (.release index)).1.Accounted := by
  cases found : self.leases[index]? with
  | none =>
    have still : self.leases.modify index returned = self.leases :=
      List.modify_eq_self (List.getElem?_eq_none_iff.mp found)
    simp only [step, withLease, found]
    exact still.symm ▸ accounted
  | some given =>
    have member := List.mem_of_getElem? found
    simp only [step, withLease, found] at once ⊢
    change Once { cache := self.cache.release given.lease
                  leases := self.leases.modify index returned } at once
    change Accounted { cache := self.cache.release given.lease
                       leases := self.leases.modify index returned }
    obtain ⟨next, spec⟩ := CredentialCache.release_spec self.cache given.lease
    refine ⟨fun later mem => ?_, fun cached now => ?_, fun cached now later mem same => ?_,
      fun cached now => ?_, fun cached now => ?_⟩
    · obtain ⟨earlier, before, lease, -⟩ := mem_returned mem
      rw [lease, next]
      exact accounted.known earlier before
    · obtain ⟨held, before, -, generation, -⟩ := spec cached now
      rw [generation, next]
      exact accounted.latest held before
    · obtain ⟨held, before, value, generation, -⟩ := spec cached now
      obtain ⟨earlier, inside, lease, -⟩ := mem_returned mem
      rw [lease] at same ⊢
      rw [value]
      exact accounted.value held before earlier inside (same.trans generation)
    · obtain ⟨held, before, value, generation, attempts⟩ := spec cached now
      have counted := accounted.attempts held before
      have bound := releases_le once held.generation
      rw [releases_returned found, reservations_returned] at bound
      have leased : held.leased given.lease = true ↔ given.lease.generation = held.generation := by
        simp only [CachedCredentials.leased, Bool.and_eq_true, beq_iff_eq, sameTurnCredentials_iff]
        exact ⟨fun both => both.1.symm, fun same =>
          ⟨same.symm, (accounted.value held before given member same).symm⟩⟩
      rw [attempts, generation, releases_returned found, reservations_returned]
      simp only [leased]
      split
      · next same =>
          rw [if_pos same] at bound
          omega
      · exact counted
    · obtain ⟨held, before, -, -, attempts⟩ := spec cached now
      rw [attempts]
      exact Nat.le_trans (Nat.sub_le _ _) (accounted.few held before)

end Returned

/-- A step keeps the account as long as no lease came back twice. -/
theorem Accounted.step (accounted : self.Accounted) (event : CacheEvent)
    (once : (self.step event).1.Once) : (self.step event).1.Accounted := by
  have withLease (lease : Nat) (call : CredentialLease → CredentialCache × CacheAnswer)
      (kept : ∀ lease, self.cache.Kept (call lease).1) :
      (self.withLease lease call).1.Accounted := by
    unfold CacheRun.withLease
    split
    · exact accounted
    · exact accounted.kept (kept _)
  cases event with
  | reserve => exact accounted.reserve
  | store credentials => exact accounted.store credentials
  | record lease => exact withLease lease _ self.cache.kept_recordAllocation
  | release lease => exact accounted.release once
  | invalidate lease => exact withLease lease _ self.cache.kept_invalidate
  | rotate lease => exact withLease lease _ self.cache.kept_rotateAfterQuota
  | mismatch lease => exact withLease lease _ self.cache.kept_retryAfterMismatch
  | delay => exact accounted.kept ⟨rfl, (CredentialCache.Kept.refl self.cache).2⟩

/-- Leases never come back less often. -/
theorem Once.of_step {event : CacheEvent} (once : (self.step event).1.Once) : self.Once := by
  have withLease (lease : Nat) (call : CredentialLease → CredentialCache × CacheAnswer)
      (once : (self.withLease lease call).1.Once) : self.Once := by
    unfold CacheRun.withLease at once
    split at once
    · exact once
    · exact once
  cases event with
  | reserve => exact fun given mem => once given (List.mem_append_left _ mem)
  | store credentials => exact once
  | record lease => exact withLease lease _ once
  | release lease =>
    intro given mem
    obtain ⟨place, found⟩ := List.mem_iff_getElem?.mp mem
    have later : (self.leases.modify lease returned)[place]? =
        some (if lease = place then returned given else given) := by
      rw [List.getElem?_modify, found]
      rfl
    have bound := once _ (List.mem_of_getElem? later)
    split at bound
    · exact Nat.le_of_succ_le bound
    · exact bound
  | invalidate lease => exact withLease lease _ once
  | rotate lease => exact withLease lease _ once
  | mismatch lease => exact withLease lease _ once
  | delay => exact once

theorem accounted_run (events : List CacheEvent)
    (once : (Transducer.run CacheRun.step start events).1.Once) :
    (Transducer.run CacheRun.step start events).1.Accounted := by
  induction events using List.reverseRecOn with
  | nil => exact accounted_start
  | append_singleton events event inductionHypothesis =>
    rw [Transducer.run_concat] at once ⊢
    exact (inductionHypothesis once.of_step).step event once

/-!
### A credential rejected for its quota
-/

/-- The credential is blocked, and none is cached. -/
def Blocked (self : CacheRun) (credentials : TurnCredentials) : Prop :=
  self.cache.current = none ∧ self.cache.quotaBlocked = some credentials

theorem Blocked.reserve {credentials : TurnCredentials} (blocked : self.Blocked credentials) :
    (self.step .reserve).2 = .leased none := by
  simp only [step, CredentialCache.reserve, blocked.1]

/-- Nothing but another credential ends a block. -/
theorem Blocked.step {credentials : TurnCredentials} (blocked : self.Blocked credentials)
    {event : CacheEvent}
    (same : ∀ other, event = .store other → sameTurnCredentials credentials other = true) :
    (self.step event).1.Blocked credentials := by
  have withLease (lease : Nat) (call : CredentialLease → CredentialCache × CacheAnswer)
      (still : ∀ lease, (call lease).1 = self.cache) :
      (self.withLease lease call).1.Blocked credentials := by
    unfold CacheRun.withLease
    split
    · exact blocked
    · exact ⟨(congrArg (·.current) (still _)).trans blocked.1,
        (congrArg (·.quotaBlocked) (still _)).trans blocked.2⟩
  have outdated (lease : CredentialLease) : self.cache.Outdated lease :=
    fun _ held => by cases blocked.1.symm.trans held
  cases event with
  | reserve =>
    simp only [CacheRun.step, CredentialCache.reserve, blocked.1]
    exact blocked
  | store other =>
    have refused := same other rfl
    simp only [CacheRun.step, CredentialCache.store, blocked.2, Option.any_some, refused, if_true]
    exact blocked
  | record lease =>
    exact withLease lease _ fun lease => CredentialCache.recordAllocation_outdated (outdated lease)
  | release lease =>
    exact withLease lease _ fun lease => CredentialCache.release_outdated (outdated lease)
  | invalidate lease =>
    exact withLease lease _ fun lease =>
      congrArg Prod.fst (CredentialCache.invalidate_outdated (outdated lease))
  | rotate lease =>
    exact withLease lease _ fun lease =>
      congrArg Prod.fst (CredentialCache.rotateAfterQuota_outdated (outdated lease))
  | mismatch lease =>
    exact withLease lease _ fun lease =>
      congrArg Prod.fst (CredentialCache.retryAfterMismatch_outdated (outdated lease))
  | delay => exact blocked

/-- The block lasts, or another credential was stored meanwhile. -/
theorem Blocked.run {credentials : TurnCredentials} (blocked : self.Blocked credentials)
    (events : List CacheEvent) :
    (Transducer.run CacheRun.step self events).1.Blocked credentials ∨
      ∃ earlier other later, events = earlier ++ .store other :: later ∧
        sameTurnCredentials credentials other = false ∧
        ((Transducer.run CacheRun.step self earlier).1.step (.store other)).2 = .stored true := by
  induction events generalizing self with
  | nil => exact .inl blocked
  | cons event events inductionHypothesis =>
    by_cases same : ∀ other, event = .store other → sameTurnCredentials credentials other = true
    · obtain lasts | ⟨earlier, other, later, rfl, apart, stored⟩ :=
        inductionHypothesis (blocked.step same)
      · exact .inl lasts
      · exact .inr ⟨event :: earlier, other, later, rfl, apart, stored⟩
    · obtain ⟨other, isStore⟩ := not_forall.mp same
      obtain ⟨rfl, apart⟩ := Classical.not_imp.mp isStore
      have differs := Bool.eq_false_of_not_eq_true apart
      refine .inr ⟨[], other, events, rfl, differs, ?_⟩
      simp only [Transducer.run_nil, CacheRun.step, CredentialCache.store, blocked.2, Option.any_some,
        differs, Bool.false_eq_true, if_false]

end CacheRun

end Csqtt
