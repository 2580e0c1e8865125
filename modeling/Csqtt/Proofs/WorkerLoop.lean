/-
Module: Csqtt.Proofs.WorkerLoop
Purpose: When handovers leave the shared credential alone, over runs of a cohort's worker
  loops.
Trusted boundary: none
Main exports: SessionResult.Soft, Cohort.Undisturbed, Cohort.Spare, Cohort.handover_exact
-/
import Csqtt.Engine.WorkerLoop
import Csqtt.Proofs.CredentialCache

namespace Csqtt

/-- The session ended with a handover, or in order. -/
def SessionResult.Soft : SessionResult → Prop
  | .closed => True
  | .idlePark => True
  | .netRebind => True
  | .targetRepair reset => reset = false
  | .rebindExhausted => True
  | .failed _ _ => False

def CohortEvent.Soft (self : CohortEvent) : Prop :=
  ∀ result, self.choice = .ends result → result.Soft

namespace WorkerPoint

/-- The lease of a worker. -/
def lease? : WorkerPoint → Option CredentialLease
  | .pacing lease => some lease
  | .gated lease => some lease
  | .session lease _ => some lease
  | .returning lease _ => some lease
  | .settled lease _ _ => some lease
  | .invalidating lease _ => some lease
  | .rotating lease => some lease
  | .mismatching lease => some lease
  | _ => none

/-- A point that a worker reaches while it has no other lease than the stored credential's
and sessions end softly. -/
def Calm (stored : CredentialLease) : WorkerPoint → Prop
  | .waiting => True
  | .asking => True
  | .fetching => False
  | .storing => False
  | .backoff => False
  | .pacing lease => lease = stored
  | .gated lease => lease = stored
  | .session lease _ => lease = stored
  | .returning lease next => lease = stored ∧ next.holds = false ∧ next.Calm stored
  | .settled lease _ result => lease = stored ∧ result.Soft
  | .invalidating _ _ => False
  | .rotating _ => False
  | .mismatching _ => False
  | .resting => True
  | .returned => True

/-- What a step of a calm worker comes to. -/
inductive Effect (stored : CredentialLease) (cache : CredentialCache) :
    WorkerPoint → WorkerChoice → CredentialCache × WorkerPoint → Prop
  | moves {point next : WorkerPoint} {choice : WorkerChoice} (calm : next.Calm stored)
      (fewer : next.holds = true → point.holds = true) (gives : point.gives choice = false)
      (asks : point = .asking → choice ≠ .go) :
      Effect stored cache point choice (cache, next)
  | records (allocationStarted : Bool) :
      Effect stored cache (.session stored allocationStarted) .allocated
        (cache.recordAllocation stored, .session stored allocationStarted)
  | gives {next : WorkerPoint} (calm : next.Calm stored) (free : next.holds = false) :
      Effect stored cache (.returning stored next) .go (cache.release stored, next)
  | asks : Effect stored cache .asking .go (reserved cache .fetching)

section Effects

variable {stored : CredentialLease} {cache : CredentialCache} {point : WorkerPoint}
  {choice : WorkerChoice} {result : CredentialCache × WorkerPoint}

/-- Behind a soft end the worker only rests, waits or gives its lease back. -/
theorem settled_effect {allocationStarted : Bool} {ended : SessionResult} (soft : ended.Soft)
    (next : (WorkerPoint.settled stored allocationStarted ended).next cache choice =
      some result) :
    Effect stored cache (.settled stored allocationStarted ended) choice result := by
  cases choice with
  | cancel =>
    cases next
    exact .moves trivial nofun rfl nofun
  | panic =>
    cases next
    exact .moves trivial nofun rfl nofun
  | go =>
    cases ended with
    | closed | netRebind | rebindExhausted =>
      cases next
      exact .moves trivial nofun rfl nofun
    | idlePark =>
      cases allocationStarted with
      | false =>
        cases next
        exact .moves trivial nofun rfl nofun
      | true =>
        cases next
        exact .moves ⟨rfl, rfl, trivial⟩ (fun _ => rfl) rfl nofun
    | targetRepair reset =>
      cases reset with
      | true => cases soft
      | false =>
        cases next
        exact .moves trivial nofun rfl nofun
    | failed _ _ => cases soft
  | deny =>
    cases ended with
    | closed | netRebind | rebindExhausted | targetRepair =>
      cases next
      exact .moves trivial nofun rfl nofun
    | idlePark =>
      cases allocationStarted with
      | false =>
        cases next
        exact .moves trivial nofun rfl nofun
      | true =>
        cases next
        exact .moves ⟨rfl, rfl, trivial⟩ (fun _ => rfl) rfl nofun
    | failed _ _ => cases soft
  | _ => cases next

theorem next_effect (calm : point.Calm stored)
    (soft : ∀ ended, choice = .ends ended → ended.Soft)
    (next : point.next cache choice = some result) : Effect stored cache point choice result := by
  cases point with
  | waiting =>
    cases choice with
    | go | cancel | panic =>
      cases next
      exact .moves trivial nofun rfl nofun
    | _ => cases next
  | asking =>
    cases choice with
    | go =>
      cases next
      exact .asks
    | cancel | panic =>
      cases next
      exact .moves trivial nofun rfl (fun _ => nofun)
    | _ => cases next
  | fetching => cases calm
  | storing => cases calm
  | backoff => cases calm
  | pacing lease =>
    cases choice with
    | go =>
      cases next
      exact .moves calm (fun _ => rfl) rfl nofun
    | cancel =>
      cases next
      exact .moves ⟨calm, rfl, trivial⟩ (fun _ => rfl) rfl nofun
    | panic =>
      cases next
      exact .moves trivial nofun rfl nofun
    | _ => cases next
  | gated lease =>
    cases choice with
    | go =>
      cases next
      exact .moves calm (fun _ => rfl) rfl nofun
    | cancel =>
      cases next
      exact .moves ⟨calm, rfl, trivial⟩ (fun _ => rfl) rfl nofun
    | panic =>
      cases next
      exact .moves trivial nofun rfl nofun
    | _ => cases next
  | session lease allocationStarted =>
    cases calm
    cases choice with
    | started =>
      cases next
      exact .moves rfl (fun _ => rfl) rfl nofun
    | allocated =>
      cases next
      exact .records allocationStarted
    | ends ended =>
      have ends := soft ended rfl
      cases next
      cases allocationStarted with
      | false => exact .moves ⟨rfl, rfl, rfl, ends⟩ (fun _ => rfl) rfl nofun
      | true => exact .moves ⟨rfl, ends⟩ (fun _ => rfl) rfl nofun
    | panic =>
      cases next
      exact .moves trivial nofun rfl nofun
    | _ => cases next
  | returning lease after =>
    obtain ⟨rfl, free, calm⟩ := calm
    cases choice with
    | go =>
      cases next
      exact .gives calm free
    | panic =>
      cases next
      exact .moves trivial nofun rfl nofun
    | _ => cases next
  | settled lease allocationStarted ended =>
    obtain ⟨rfl, soft⟩ := calm
    exact settled_effect soft next
  | invalidating _ _ => cases calm
  | rotating _ => cases calm
  | mismatching _ => cases calm
  | resting =>
    cases choice with
    | go | cancel | panic =>
      cases next
      exact .moves trivial nofun rfl nofun
    | _ => cases next
  | returned => cases next

end Effects

end WorkerPoint

namespace Cohort

/-- The workers that have not given their reservation back. -/
def holding (self : Cohort) : Nat := self.workers.countP (·.holds)

/-- No worker fetches a new credential, and every lease is of the stored one. -/
def Undisturbed (stored : CredentialLease) (self : Cohort) : Prop :=
  ∀ point ∈ self.workers, point.locks = false ∧ ∀ lease, point.lease? = some lease → lease = stored

/-- When a worker asks for a credential, fewer reservations than the credential allows are
held or were dropped without being given back. -/
def Spare (self : Cohort) (event : CohortEvent) : Prop :=
  self.workers[event.worker]? = some .asking → event.choice = .go →
    self.holding + self.kept < workersPerCredential

/-- The credential is stored, and its attempts are the reservations held or dropped. -/
structure Settled (stored : CredentialLease) (cohort : Cohort) : Prop where
  calm : ∀ point ∈ cohort.workers, point.Calm stored
  cached : ∃ cached, cohort.cache.current = some cached ∧ cached.lease = stored ∧
    cached.allocationAttempts = cohort.holding + cohort.kept

section Steps

variable {stored : CredentialLease} {self : Cohort} {event : CohortEvent} {point : WorkerPoint}

theorem undisturbed_of_calm (calm : ∀ point ∈ self.workers, point.Calm stored) :
    self.Undisturbed stored := by
  intro point mem
  have here := calm point mem
  cases point with
  | fetching | storing | backoff | invalidating | rotating | mismatching => cases here
  | waiting | asking | resting | returned => exact ⟨rfl, nofun⟩
  | pacing | gated | session =>
    exact ⟨rfl, fun lease held => (Option.some.inj held).symm.trans here⟩
  | returning | settled =>
    exact ⟨rfl, fun lease held => (Option.some.inj held).symm.trans here.1⟩

/-- Those that hold a reservation after one worker moved. -/
theorem holding_moved (found : self.workers[event.worker]? = some point)
    (next : CredentialCache × WorkerPoint) :
    (self.moved event point next).holding + point.holds.toNat =
      self.holding + next.2.holds.toNat := by
  obtain ⟨within, here⟩ := List.getElem?_eq_some_iff.mp found
  rw [holding, moved, List.countP_set within, here, holding]
  cases held : point.holds with
  | false => cases next.2.holds <;> rfl
  | true =>
    have present : 0 < self.workers.countP (·.holds) :=
      List.countP_pos_iff.mpr ⟨point, here ▸ List.getElem_mem within, held⟩
    cases next.2.holds <;> simp <;> omega

theorem calm_moved (calm : ∀ point ∈ self.workers, point.Calm stored)
    {next : CredentialCache × WorkerPoint} (goes : next.2.Calm stored) :
    ∀ other ∈ (self.moved event point next).workers, other.Calm stored :=
  fun other mem => (List.mem_or_eq_of_mem_set mem).elim (calm other) fun same => same ▸ goes

/-- A worker that does not ask leaves the cohort settled. -/
theorem Settled.moved (settled : self.Settled stored)
    (found : self.workers[event.worker]? = some point) {next : CredentialCache × WorkerPoint}
    (effect : WorkerPoint.Effect stored self.cache point event.choice next)
    (asks : point = .asking → event.choice ≠ .go) :
    (self.moved event point next).Settled stored := by
  obtain ⟨worker, choice⟩ := event
  obtain ⟨cached, held, lease, attempts⟩ := settled.cached
  have leased : cached.leased stored = true := by
    rw [← lease]
    simp [CachedCredentials.leased, CachedCredentials.lease]
  have counts := holding_moved found next
  cases effect with
  | @moves _ next _ calm fewer gives _ =>
    refine ⟨calm_moved settled.calm calm, cached, held, lease, ?_⟩
    simp only [attempts, Cohort.moved, gives, Bool.not_false, Bool.and_true] at counts ⊢
    cases before : point.holds with
    | false =>
      have after : next.holds = false := Bool.eq_false_of_not_eq_true fun holds => by
        cases before.symm.trans (fewer holds)
      simp only [before, after, Bool.toNat_false, Bool.false_and, Bool.false_eq_true,
        if_false] at counts ⊢
      omega
    | true =>
      cases after : next.holds with
      | false =>
        simp only [before, after, Bool.toNat_false, Bool.toNat_true, Bool.true_and, Bool.not_false,
          if_true] at counts ⊢
        omega
      | true =>
        simp only [before, after, Bool.toNat_true, Bool.true_and, Bool.not_true,
          Bool.false_eq_true, if_false] at counts ⊢
        omega
  | records allocationStarted =>
    refine ⟨calm_moved settled.calm rfl, { cached with allocationMismatches := 0 }, ?_, lease, ?_⟩
    · simp only [Cohort.moved, CredentialCache.recordAllocation, held, leased, if_true]
    · exact attempts.trans (congrArg (· + self.kept) (Nat.add_right_cancel counts).symm)
  | @gives next calm free =>
    refine ⟨calm_moved settled.calm calm,
      { cached with allocationAttempts := cached.allocationAttempts - 1 }, ?_, lease, ?_⟩
    · simp only [Cohort.moved, CredentialCache.release, held, leased, if_true]
    · simp only [free] at counts
      simp only [WorkerPoint.holds, Bool.toNat_false, Bool.toNat_true] at counts
      simp only [attempts, Cohort.moved, WorkerPoint.gives, Bool.not_true, Bool.and_false,
        Bool.false_eq_true, if_false] at counts ⊢
      omega
  | asks => exact absurd rfl (asks rfl)

/-- With reservations to spare a worker that asks gets the stored credential, without any it
fetches another. -/
theorem settled_asks (settled : self.Settled stored) {worker : Nat}
    (found : self.workers[worker]? = some .asking) :
    if self.holding + self.kept < workersPerCredential then
      (self.moved ⟨worker, .go⟩ .asking (WorkerPoint.reserved self.cache .fetching)).Settled stored
    else ¬ (self.moved ⟨worker, .go⟩ .asking
      (WorkerPoint.reserved self.cache .fetching)).Undisturbed stored := by
  obtain ⟨cached, held, lease, attempts⟩ := settled.cached
  have within := (List.getElem?_eq_some_iff.mp found).1
  have counts := @holding_moved self ⟨worker, .go⟩ .asking found
    (WorkerPoint.reserved self.cache .fetching)
  split
  · next spare =>
      have room : ¬ workersPerCredential ≤ cached.allocationAttempts := by
        rw [attempts]
        exact Nat.not_le_of_lt spare
      have reserved : WorkerPoint.reserved self.cache .fetching =
          ({ self.cache with
              current := some
                { cached with allocationAttempts := cached.allocationAttempts + 1 } },
            .pacing stored) := by
        simp only [WorkerPoint.reserved, CredentialCache.reserve, held, room, if_false, lease]
      rw [reserved] at counts ⊢
      refine ⟨calm_moved settled.calm rfl, _, rfl, lease, ?_⟩
      simp only [WorkerPoint.holds, Bool.toNat_false, Bool.toNat_true] at counts
      simp only [attempts, Cohort.moved, WorkerPoint.holds, Bool.false_and, Bool.false_eq_true,
        if_false] at counts ⊢
      omega
  · next full =>
      have used : workersPerCredential ≤ cached.allocationAttempts := by
        rw [attempts]
        exact Nat.le_of_not_lt full
      have fetches : (WorkerPoint.reserved self.cache .fetching).2 = .fetching := by
        simp only [WorkerPoint.reserved, CredentialCache.reserve, held, used, if_true]
      intro undisturbed
      have locks := (undisturbed .fetching (by
        rw [Cohort.moved, fetches]
        exact List.mem_of_getElem? (List.getElem?_set_self within))).1
      cases locks

theorem unlocked (undisturbed : self.Undisturbed stored) (worker : Nat) :
    self.lockedOut worker = false :=
  List.any_eq_false.mpr fun point mem => by
    rw [(undisturbed point (List.mem_of_mem_eraseIdx mem)).1]
    exact Bool.false_ne_true

/-- One soft step: the cohort stays undisturbed exactly if there is a reservation to spare. -/
theorem undisturbed_step (settled : self.Settled stored) (soft : event.Soft) :
    ((self.step event).1.Undisturbed stored ↔ self.Spare event) ∧
      ((self.step event).1.Undisturbed stored → (self.step event).1.Settled stored) := by
  have undisturbed := undisturbed_of_calm settled.calm
  have free := unlocked undisturbed event.worker
  have still (spare : self.Spare event) (same : (self.step event).1 = self) :
      ((self.step event).1.Undisturbed stored ↔ self.Spare event) ∧
        ((self.step event).1.Undisturbed stored → (self.step event).1.Settled stored) := by
    rw [same]
    exact ⟨iff_of_true undisturbed spare, fun _ => settled⟩
  cases found : self.workers[event.worker]? with
  | none =>
    exact still (fun asking => by cases found.symm.trans asking) (by simp only [step, found])
  | some point =>
    cases goes : point.next self.cache event.choice with
    | none =>
      refine still (fun asking go => ?_) (by simp only [step, found, free, goes, Bool.and_false,
        Bool.false_eq_true, if_false])
      cases found.symm.trans asking
      rw [go] at goes
      cases goes
    | some result =>
      have moves : (self.step event).1 = self.moved event point result := by
        simp only [step, found, free, goes, Bool.and_false, Bool.false_eq_true, if_false]
      have effect := WorkerPoint.next_effect
        (settled.calm point (List.mem_of_getElem? found)) soft goes
      by_cases asks : point = .asking ∧ event.choice = .go
      · obtain ⟨worker, choice⟩ := event
        obtain ⟨rfl, rfl⟩ : point = .asking ∧ choice = .go := asks
        cases goes
        have asked := settled_asks settled found
        rw [moves]
        by_cases spare : self.holding + self.kept < workersPerCredential
        · rw [if_pos spare] at asked
          exact ⟨iff_of_true (undisturbed_of_calm asked.calm) fun _ _ => spare, fun _ => asked⟩
        · rw [if_neg spare] at asked
          exact ⟨iff_of_false asked fun some => spare (some found rfl), fun calm => absurd calm asked⟩
      · have after := settled.moved found effect fun asking go => asks ⟨asking, go⟩
        rw [moves]
        refine ⟨iff_of_true (undisturbed_of_calm after.calm) fun asking go => ?_, fun _ => after⟩
        exact absurd ⟨Option.some.inj (found.symm.trans asking), go⟩ asks

end Steps

/-- In every run of a cohort with a stored credential whose sessions end softly, no worker
fetches another one, exactly if there is a reservation to spare whenever a worker asks. -/
theorem handover_exact {stored : CredentialLease} {cohort : Cohort}
    (settled : cohort.Settled stored) (events : List CohortEvent)
    (soft : ∀ event ∈ events, event.Soft) :
    Transducer.Throughout step cohort events (Undisturbed stored) ↔
      Transducer.AtEveryStep step cohort events Spare :=
  @Transducer.throughout_iff_atEveryStep_of _ _ _ step
    (fun cohort => cohort.Undisturbed stored → cohort.Settled stored) (Undisturbed stored) Spare
    CohortEvent.Soft cohort events (fun _ => settled) (undisturbed_of_calm settled.calm)
    (fun _ _ soft before undisturbed => (undisturbed_step (before undisturbed) soft).2)
    (fun _ _ soft before undisturbed => (undisturbed_step (before undisturbed) soft).1) soft

/-- A cohort with a credential that was just stored. -/
def fresh (workers : Nat) : Cohort where
  cache := (CredentialCache.empty.store ⟨"user", "password", ["192.0.2.1:3478"]⟩).1
  workers := List.replicate workers .waiting
  kept := 0

def storedLease : CredentialLease := ⟨⟨"user", "password", ["192.0.2.1:3478"]⟩, 1⟩

theorem settled_fresh (workers : Nat) : (fresh workers).Settled storedLease where
  calm point mem := by
    rw [List.eq_of_mem_replicate mem]
    trivial
  cached := by
    refine ⟨_, rfl, rfl, ?_⟩
    refine (List.countP_eq_zero.mpr fun point mem => ?_).symm
    rw [List.eq_of_mem_replicate mem]
    decide

/-- A worker comes to its session and its allocation starts. -/
def begins (worker : Nat) : List CohortEvent :=
  [⟨worker, .go⟩, ⟨worker, .go⟩, ⟨worker, .go⟩, ⟨worker, .go⟩, ⟨worker, .started⟩]

/-- Its session ends with a handover, and it asks again. -/
def hands (worker : Nat) : List CohortEvent :=
  [⟨worker, .ends .netRebind⟩, ⟨worker, .go⟩, ⟨worker, .go⟩, ⟨worker, .go⟩, ⟨worker, .go⟩]

/-- Of eighteen workers with sessions, the first is handed over and fetches a credential. -/
theorem handover_fetches :
    (∀ event ∈ (List.range 18).flatMap begins ++ hands 0, event.Soft) ∧
      ¬ Transducer.Throughout step (fresh 18) ((List.range 18).flatMap begins ++ hands 0)
        (Undisturbed storedLease) := by
  constructor
  · intro event mem result ends
    obtain began | handed := List.mem_append.mp mem
    · obtain ⟨worker, -, here⟩ := List.mem_flatMap.mp began
      simp only [begins, List.mem_cons, List.not_mem_nil, or_false] at here
      obtain rfl | rfl | rfl | rfl | rfl := here <;> cases ends
    · simp only [hands, List.mem_cons, List.not_mem_nil, or_false] at handed
      obtain rfl | rfl | rfl | rfl | rfl := handed <;> cases ends
      trivial
  · intro undisturbed
    have last := undisturbed _ (List.prefix_refl _)
    have fetching : WorkerPoint.fetching ∈ (Transducer.run step (fresh 18)
        ((List.range 18).flatMap begins ++ hands 0)).1.workers := by decide +kernel
    cases (last .fetching fetching).1

instance : DecidableRel Spare := fun _ _ => inferInstanceAs (Decidable (_ → _ → _))

theorem handover_exact_once :
    Transducer.Throughout step (fresh 1) (begins 0 ++ hands 0) (Undisturbed storedLease) := by
  refine (handover_exact (settled_fresh 1) (begins 0 ++ hands 0) fun event mem result ends => ?_).mpr
    (by decide +kernel)
  simp only [begins, hands, List.mem_cons, List.not_mem_nil, or_false, List.cons_append,
    List.nil_append] at mem
  obtain rfl | rfl | rfl | rfl | rfl | rfl | rfl | rfl | rfl | rfl := mem <;> cases ends
  trivial

end Cohort

end Csqtt
