/-
Module: Csqtt.Proofs.PauseLift
Purpose: Who may lift a pause: when every lift rests on news of the network from after
  its loss, and the heal that was decided before and lifts the pause all the same.
Trusted boundary: none
Main exports: Point.lifts, Fresh, liftKept, Trusted, lifts_fresh
-/
import Csqtt.Proofs.GuardSteps

namespace Csqtt

namespace Point

/-- About to lift the pause, if there is one. -/
def lifts : Point → Bool
  | .resumeFromPause _ _ => true
  | _ => false

/-- A probe of the pause of the generation, made or to be made. -/
def probing (gen : Nat) : Point → Bool
  | .go (.pausedWatchdog own) _ => own == gen
  | .pausedWatchdog own _ => own == gen
  | .pausedStale own _ => own == gen
  | .pausedProbe own _ => own == gen
  | .probeSucceeded own _ => own == gen
  | .wakeProbe own => own == gen
  | _ => false

/-- A probe of the pause of the generation has gone through. -/
def found (gen : Nat) : Point → Bool
  | .probeSucceeded own _ => own == gen
  | _ => false

end Point

namespace Helper

variable {hooks : Hooks} {outside : Outside} {self : Helper} {point : Point}

theorem apart_lifts : Point.Apart Point.lifts := by
  constructor <;> intros <;> rfl

theorem apart_probing (gen : Nat) : Point.Apart (Point.probing gen) := by
  constructor <;> intros <;> rfl

theorem apart_found (gen : Nat) : Point.Apart (Point.found gen) := by
  constructor <;> intros <;> rfl

/-- A goroutine gets to lift a pause from a heal that finds none, from a probe of this
very pause, or from a recycle that hands a handover on. -/
theorem perform_lifts
    (lifts : (self.perform hooks outside point).2.within Point.lifts = true) :
    point.within Point.lifts = true ∨
      (∃ reason, point = .heal reason ∧ self.guard.paused = false) ∨
      (∃ source, point = .probeSucceeded self.guard.pauseGen source) ∨
      point = .recycled ∧ self.guard.pendingHandover = true := by
  by_cases common : point.common = true
  · exact Or.inl (within_of_common apart_lifts common lifts)
  · right
    cases point with
    | heal reason =>
        refine Or.inl ⟨reason, rfl, ?_⟩
        by_contra paused
        simp [perform, DataPathGuard.heal, paused, Point.within, Point.lifts,
          apply_ite (Point.within Point.lifts)] at lifts
    | probeSucceeded gen source =>
        refine Or.inr (Or.inl ⟨source, ?_⟩)
        by_contra other
        have older : (self.guard.pauseGen != gen) = true := by
          rw [bne_iff_ne]
          rintro rfl
          exact other rfl
        simp [perform, DataPathGuard.probeSucceeded, older, Point.within, Point.lifts] at lifts
    | recycled =>
        refine Or.inr (Or.inr ⟨rfl, ?_⟩)
        by_contra none
        simp [perform, locked, DataPathGuard.recycled, none, Point.within, Point.lifts] at lifts
    | onWake =>
        obtain ⟨_, _, next, result, rfl | ⟨-, rfl⟩ | rfl⟩ := self.guard.onWake_cases self.clock
        · simp [perform, locked, result, Point.within, Point.lifts] at lifts
        · simp [perform, locked, result, Point.within, Point.lifts] at lifts
        · simp [perform, locked, result, Point.within, Point.lifts, afterSoftResume] at lifts
    | _ =>
        first
        | exact absurd rfl common
        | simp [perform, locked, Point.within, Point.lifts, DataPathGuard.netlost,
            DataPathGuard.watchSoftResume, apply_ite (Point.within Point.lifts)] at lifts

/-- A probe belongs to a pause there has been by then. -/
theorem perform_probing {gen : Nat}
    (probing : (self.perform hooks outside point).2.within (Point.probing gen) = true) :
    point.within (Point.probing gen) = true ∨
      gen ≤ (self.perform hooks outside point).1.guard.pauseGen := by
  by_cases common : point.common = true
  · exact Or.inl (within_of_common (apart_probing gen) common probing)
  · cases point with
    | netlost =>
        right
        simp only [perform, locked, DataPathGuard.netlost, Point.within, Point.probing,
          Bool.false_or, Bool.or_false] at probing
        exact (eq_of_beq probing).ge
    | onWake =>
        right
        obtain ⟨_, _, next, result, rfl | ⟨-, rfl⟩ | rfl⟩ := self.guard.onWake_cases self.clock
        · simp [perform, locked, result, Point.within, Point.probing] at probing
        · simp only [perform, locked, result, Point.within, Point.probing] at probing ⊢
          exact (eq_of_beq probing).ge
        · simp [perform, locked, result, Point.within, Point.probing, afterSoftResume] at probing
    | pausedWatchdog own round =>
        left
        rw [perform] at probing
        split at probing
        · cases probing
        · exact probing
    | pausedStale own round =>
        left
        rw [perform] at probing
        split at probing
        · cases probing
        · exact probing
    | pausedProbe own round =>
        left
        rw [perform] at probing
        split at probing
        · exact probing
        · exact probing
    | wakeProbe own =>
        left
        rw [perform] at probing
        split at probing
        · exact probing
        · cases probing
    | _ =>
        first
        | exact absurd rfl common
        | simp [perform, locked, Point.within, Point.probing, DataPathGuard.heal, onHandover,
            DataPathGuard.probeSucceeded, afterSoftResume, DataPathGuard.recycled,
            DataPathGuard.watchSoftResume, apply_ite (Point.within (Point.probing gen))]
            at probing

/-- Only a probe that goes through gets there. -/
theorem perform_found {gen : Nat}
    (found : (self.perform hooks outside point).2.within (Point.found gen) = true) :
    point.within (Point.found gen) = true ∨
      outside.networkUp = true ∧
        ((∃ round, point = .pausedProbe gen round) ∨
          point = .wakeProbe gen ∧ hooks.probeFn = true) := by
  by_cases common : point.common = true
  · exact Or.inl (within_of_common (apart_found gen) common found)
  · right
    cases point with
    | pausedProbe own round =>
        rw [perform] at found
        split at found
        · next up =>
            cases eq_of_beq found
            exact ⟨up, Or.inl ⟨round, rfl⟩⟩
        · cases found
    | wakeProbe own =>
        rw [perform] at found
        split at found
        · next up =>
            cases eq_of_beq found
            rw [Bool.and_eq_true] at up
            exact ⟨up.2, Or.inr ⟨rfl, up.1⟩⟩
        · cases found
    | onWake =>
        obtain ⟨_, _, next, result, rfl | ⟨-, rfl⟩ | rfl⟩ := self.guard.onWake_cases self.clock
        · simp [perform, locked, result, Point.within, Point.found] at found
        · simp [perform, locked, result, Point.within, Point.found] at found
        · simp [perform, locked, result, Point.within, Point.found, afterSoftResume] at found
    | _ =>
        first
        | exact absurd rfl common
        | simp [perform, locked, Point.within, Point.found, DataPathGuard.heal, onHandover,
            DataPathGuard.probeSucceeded, afterSoftResume, DataPathGuard.recycled,
            DataPathGuard.watchSoftResume, DataPathGuard.netlost,
            apply_ite (Point.within (Point.found gen))] at found

end Helper

theorem GuardCall.lifts (call : GuardCall) : call.point.within Point.lifts = false := by
  cases call <;> rfl

theorem GuardCall.found (gen : Nat) (call : GuardCall) :
    call.point.within (Point.found gen) = false := by
  cases call <;> rfl

theorem GuardOperation.found (gen : Nat) (operation : GuardOperation) :
    operation.point.within (Point.found gen) = false := by
  cases operation with
  | host event => cases event <;> rfl
  | _ => rfl

theorem GuardOperation.probing (gen : Nat) (operation : GuardOperation) :
    operation.point.within (Point.probing gen) = false := by
  cases operation with
  | host event => cases event <;> rfl
  | _ => rfl

/-- An operation that may lift a pause brings news of the network. -/
theorem GuardOperation.proves_of_lifts (operation : GuardOperation)
    (lifts : operation.point.within Point.lifts = true) : operation.proves = true := by
  cases operation with
  | host event =>
      cases event with
      | netlost => cases lifts
      | stop => cases lifts
      | _ => rfl
  | netchange => rfl
  | _ => cases lifts

/-- A probe that has gone through is one of those. -/
theorem Point.probing_of_found {gen : Nat} {point : Point}
    (found : point.within (Point.found gen) = true) :
    point.within (Point.probing gen) = true := by
  refine Point.within_mono (fun here found => ?_) found
  cases here with
  | probeSucceeded own source => exact found
  | _ => cases found

namespace Guarding

variable {hooks : Hooks}

/-- The goroutine has been told of a network since the loss that began the pause. -/
def Fresh (state : Guarding) (evidence : Option Nat) : Prop :=
  evidence.any (state.pausedBy < ·) = true

/-- No pause begins with a lift already on its way that rests on older news, and no
recycle hands on, in a pause, a handover from before the loss. -/
def liftKept (state : Guarding) : GuardEvent → Bool
  | .run index _ =>
      match state.goroutines[index]? with
      | some ⟨.netlost, tag⟩ =>
          state.guard.paused || (state.goroutines.eraseIdx index).all fun other =>
            !other.point.within Point.lifts || other.tag.evidence.any (tag.operation < ·)
      | some ⟨.recycled, _⟩ =>
          !(state.guard.paused && state.guard.pendingHandover) ||
            state.remembered.any (state.pausedBy < ·)
      | _ => true
  | _ => true

/-- Everyone who may lift the pause has been told of a network since its loss. -/
structure Trusted (state : Guarding) : Prop where
  numbered : ∀ goroutine ∈ state.goroutines, goroutine.tag.operation < state.begun
  lost : state.guard.paused = true → state.pausedBy < state.begun
  pauses : ∀ goroutine ∈ state.goroutines, ∀ gen,
    goroutine.point.within (Point.probing gen) = true → gen ≤ state.guard.pauseGen
  found : state.guard.paused = true → ∀ goroutine ∈ state.goroutines,
    goroutine.point.within (Point.found state.guard.pauseGen) = true →
      state.Fresh goroutine.tag.evidence
  lifts : state.guard.paused = true → ∀ goroutine ∈ state.goroutines,
    goroutine.point.within Point.lifts = true → state.Fresh goroutine.tag.evidence

/-- Only a probe or a remembered handover brings news to a goroutine on its way. -/
theorem told_of_within {state : Guarding} {kind : Point → Bool} {outside : Outside}
    {current : Goroutine} (within : current.point.within kind = true)
    (probe : ∀ gen round, kind (.pausedProbe gen round) = false)
    (wake : ∀ gen, kind (.wakeProbe gen) = false) (recycled : kind .recycled = false) :
    state.told hooks outside current = current.tag.evidence := by
  rw [told]
  split
  · next gen round point =>
      rw [point] at within
      exact absurd ((probe gen round).symm.trans within) Bool.false_ne_true
  · next gen point =>
      rw [point] at within
      exact absurd ((wake gen).symm.trans within) Bool.false_ne_true
  · next point =>
      rw [point] at within
      exact absurd (recycled.symm.trans within) Bool.false_ne_true
  · rfl

theorem trusted_start (tunIP : String) (clock : Nat) : (start tunIP clock).Trusted where
  numbered := nofun
  lost := nofun
  pauses := nofun
  found := nofun
  lifts := nofun

theorem trusted_begin {state : Guarding} (trusted : state.Trusted) (operation : GuardOperation) :
    (step hooks state (.begin operation)).1.Trusted where
  numbered := by
    intro goroutine mem
    rcases List.mem_append.mp mem with old | new
    · exact Nat.lt_succ_of_lt (trusted.numbered goroutine old)
    · rw [List.mem_singleton.mp new]
      exact Nat.lt_succ_self _
  lost := fun paused => Nat.lt_succ_of_lt (trusted.lost paused)
  pauses := by
    intro goroutine mem gen probing
    rcases List.mem_append.mp mem with old | new
    · exact trusted.pauses goroutine old gen probing
    · rw [List.mem_singleton.mp new, beginning, operation.probing] at probing
      cases probing
  found := by
    intro paused goroutine mem found
    rcases List.mem_append.mp mem with old | new
    · exact trusted.found paused goroutine old found
    · rw [List.mem_singleton.mp new, beginning, operation.found] at found
      cases found
  lifts := by
    intro paused goroutine mem lifts
    rcases List.mem_append.mp mem with old | new
    · exact trusted.lifts paused goroutine old lifts
    · rw [List.mem_singleton.mp new] at lifts ⊢
      rw [beginning, if_pos (operation.proves_of_lifts lifts)]
      exact decide_eq_true (trusted.lost paused)

theorem numbered_ran {state : Guarding} {outside : Outside} {index : Nat} {current : Goroutine}
    (trusted : state.Trusted) (here : state.goroutines[index]? = some current) :
    ∀ goroutine ∈ (state.ran hooks outside index current).goroutines,
      goroutine.tag.operation < state.begun := by
  have own := trusted.numbered current (List.mem_of_getElem? here)
  apply Interleaving.forall_advance
  · intro other mem
    exact trusted.numbered other (List.mem_of_mem_eraseIdx mem)
  · exact own
  · intro child mem
    obtain ⟨call, next, -, rfl⟩ := mem_started mem
    exact own

/-- A probe that is made belongs to a pause there has been. -/
theorem pauses_ran {state : Guarding} {outside : Outside} {index : Nat} {current : Goroutine}
    (trusted : state.Trusted) (here : state.goroutines[index]? = some current) :
    ∀ goroutine ∈ (state.ran hooks outside index current).goroutines, ∀ gen,
      goroutine.point.within (Point.probing gen) = true →
        gen ≤ (state.ran hooks outside index current).guard.pauseGen := by
  have later : state.guard.pauseGen ≤ (state.ran hooks outside index current).guard.pauseGen := by
    rcases (written_ran hooks state outside index current).paused with
      ⟨-, same⟩ | ⟨-, after⟩ | ⟨_, _, -, -, after⟩
    · exact same.ge
    · rw [after]
      exact Nat.le_succ _
    · rw [after]
      exact Nat.le_succ _
  have own := trusted.pauses current (List.mem_of_getElem? here)
  apply Interleaving.forall_advance
  · intro other mem gen probing
    exact (trusted.pauses other (List.mem_of_mem_eraseIdx mem) gen probing).trans later
  · intro gen probing
    rcases Helper.perform_probing probing with before | bounded
    · exact (own gen before).trans later
    · exact bounded
  · intro child mem gen probing
    obtain ⟨call, next, going, rfl⟩ := mem_started mem
    refine (own gen ?_).trans later
    rw [going]
    cases call with
    | pausedWatchdog other => exact Bool.or_eq_true _ _ ▸ Or.inl probing
    | _ => cases probing

/-- The loss behind the pause is the same as long as the flag is. -/
theorem pausedBy_steady {state : Guarding} {outside : Outside} {index : Nat}
    {current : Goroutine}
    (same : (state.ran hooks outside index current).guard.paused = state.guard.paused) :
    (state.ran hooks outside index current).pausedBy = state.pausedBy := by
  have begins : (!state.guard.paused &&
      (state.ran hooks outside index current).guard.paused) = false := by
    rw [same]
    exact Bool.not_and_self _
  exact if_neg (by rw [Bool.not_eq_true]; exact begins)

/-- While the pause goes on, a probe that has gone through brings news. -/
theorem found_steady {state : Guarding} {outside : Outside} {index : Nat}
    {current : Goroutine} (trusted : state.Trusted)
    (here : state.goroutines[index]? = some current) (paused : state.guard.paused = true)
    (same : (state.ran hooks outside index current).guard.paused = state.guard.paused) :
    ∀ goroutine ∈ (state.ran hooks outside index current).goroutines,
      goroutine.point.within (Point.found state.guard.pauseGen) = true →
        (state.ran hooks outside index current).Fresh goroutine.tag.evidence := by
  apply Interleaving.forall_advance
  · intro other mem found
    rw [Fresh, pausedBy_steady same]
    exact trusted.found paused other (List.mem_of_mem_eraseIdx mem) found
  · intro found
    rw [Fresh, pausedBy_steady same]
    change (state.told hooks outside current).any _ = true
    rcases Helper.perform_found found with before | ⟨up, ⟨round, probe⟩ | ⟨probe, present⟩⟩
    · rw [told_of_within before (fun _ _ => rfl) (fun _ => rfl) rfl]
      exact trusted.found paused current (List.mem_of_getElem? here) before
    · simp only [told, probe, up, if_true]
      exact decide_eq_true (trusted.lost paused)
    · simp only [told, probe, up, present, Bool.and_self, if_true]
      exact decide_eq_true (trusted.lost paused)
  · intro child mem found
    obtain ⟨call, next, -, rfl⟩ := mem_started mem
    rw [call.found] at found
    cases found

/-- While the pause goes on, whoever comes to a lift has been told. -/
theorem lifts_steady {state : Guarding} {outside : Outside} {index : Nat}
    {current : Goroutine} (trusted : state.Trusted)
    (here : state.goroutines[index]? = some current) (paused : state.guard.paused = true)
    (kept : liftKept state (.run index outside) = true)
    (same : (state.ran hooks outside index current).guard.paused = state.guard.paused) :
    ∀ goroutine ∈ (state.ran hooks outside index current).goroutines,
      goroutine.point.within Point.lifts = true →
        (state.ran hooks outside index current).Fresh goroutine.tag.evidence := by
  have own := List.mem_of_getElem? here
  apply Interleaving.forall_advance
  · intro other mem lifts
    rw [Fresh, pausedBy_steady same]
    exact trusted.lifts paused other (List.mem_of_mem_eraseIdx mem) lifts
  · intro lifts
    rw [Fresh, pausedBy_steady same]
    change (state.told hooks outside current).any _ = true
    rcases Helper.perform_lifts lifts with
      before | ⟨reason, heal, active⟩ | ⟨source, probed⟩ | ⟨done, pending⟩
    · rw [told_of_within before (fun _ _ => rfl) (fun _ => rfl) rfl]
      exact trusted.lifts paused current own before
    · cases paused.symm.trans active
    · have found : current.point.within (Point.found state.guard.pauseGen) = true := by
        rw [probed]
        exact beq_self_eq_true _
      rw [told_of_within found (fun _ _ => rfl) (fun _ => rfl) rfl]
      exact trusted.found paused current own found
    · -- The handover that is handed on came after the loss.
      obtain ⟨point, tag⟩ := current
      cases done
      have still : state.helper.guard.paused = true := paused
      simp only [liftKept, here, guard, still, pending, Bool.and_self, Bool.not_true,
        Bool.false_or] at kept
      simp only [told, guard, pending, if_true]
      exact kept
  · intro child mem lifts
    obtain ⟨call, next, -, rfl⟩ := mem_started mem
    rw [call.lifts] at lifts
    cases lifts

theorem trusted_steady {state : Guarding} {outside : Outside} {index : Nat}
    {current : Goroutine} (trusted : state.Trusted)
    (here : state.goroutines[index]? = some current)
    (kept : liftKept state (.run index outside) = true)
    (same : (state.ran hooks outside index current).guard.paused = state.guard.paused)
    (sameGen : (state.ran hooks outside index current).guard.pauseGen = state.guard.pauseGen) :
    (state.ran hooks outside index current).Trusted where
  numbered := numbered_ran trusted here
  lost := by
    intro paused
    rw [pausedBy_steady same]
    exact trusted.lost (same.symm.trans paused)
  pauses := pauses_ran trusted here
  found := by
    intro paused
    rw [sameGen]
    exact found_steady trusted here (same.symm.trans paused) same
  lifts := fun paused => lifts_steady trusted here (same.symm.trans paused) kept same

/-- A loss leaves nobody on the way to a lift who has not been told since. -/
theorem trusted_netlost {state : Guarding} {outside : Outside} {index : Nat}
    {current : Goroutine} (trusted : state.Trusted)
    (here : state.goroutines[index]? = some current)
    (kept : liftKept state (.run index outside) = true) (lost : current.point = .netlost)
    (after : (state.ran hooks outside index current).guard = state.guard.netlost.1) :
    (state.ran hooks outside index current).Trusted := by
  have own := List.mem_of_getElem? here
  have pausedBy : (state.ran hooks outside index current).pausedBy =
      if state.guard.paused then state.pausedBy else current.tag.operation := by
    have paused : (state.ran hooks outside index current).guard.paused = true := by
      rw [after]
      rfl
    change (if (!state.guard.paused && (state.ran hooks outside index current).guard.paused) = true
      then current.tag.operation else state.pausedBy) = _
    rw [paused]
    cases state.guard.paused with
    | true => rfl
    | false => rfl
  have next : (state.moved hooks outside current).point =
      .applyEnginePause true (.go (.pausedWatchdog (state.guard.pauseGen + 1)) .ended) := by
    rw [moved, lost]
    rfl
  refine
    { numbered := numbered_ran trusted here
      lost := fun _ => ?_
      pauses := pauses_ran trusted here
      found := fun _ => ?_
      lifts := fun _ => ?_ }
  · rw [pausedBy]
    split
    · next paused => exact trusted.lost paused
    · exact trusted.numbered current own
  · rw [after]
    apply Interleaving.forall_advance
    · intro other mem found
      have earlier := trusted.pauses other (List.mem_of_mem_eraseIdx mem) _
        (Point.probing_of_found found)
      exact absurd earlier (Nat.not_succ_le_self _)
    · intro found
      rw [next] at found
      cases found
    · intro child mem found
      obtain ⟨call, next, -, rfl⟩ := mem_started mem
      rw [call.found] at found
      cases found
  · apply Interleaving.forall_advance
    · intro other mem lifts
      rw [Fresh, pausedBy]
      split
      · next paused => exact trusted.lifts paused other (List.mem_of_mem_eraseIdx mem) lifts
      · next active =>
          obtain ⟨point, tag⟩ := current
          cases lost
          simp only [liftKept, here, active, Bool.false_or, List.all_eq_true, Bool.or_eq_true,
            Bool.not_eq_true'] at kept
          rcases kept other mem with none | told
          · rw [none] at lifts
            cases lifts
          · exact told
    · intro lifts
      rw [next] at lifts
      cases lifts
    · intro child mem lifts
      obtain ⟨call, next, -, rfl⟩ := mem_started mem
      rw [call.lifts] at lifts
      cases lifts

theorem trusted_ran {state : Guarding} {outside : Outside} {index : Nat} {current : Goroutine}
    (trusted : state.Trusted) (here : state.goroutines[index]? = some current)
    (kept : liftKept state (.run index outside) = true) :
    (state.ran hooks outside index current).Trusted := by
  rcases (written_ran hooks state outside index current).paused with
    ⟨same, sameGen⟩ | ⟨lost, after⟩ | ⟨_, _, -, -, after⟩
  · exact trusted_steady trusted here kept same sameGen
  · exact trusted_netlost trusted here kept lost after
  · have active : (state.ran hooks outside index current).guard.paused = false := by
      rw [after]
      rfl
    have never {motive : Prop}
        (paused : (state.ran hooks outside index current).guard.paused = true) : motive := by
      rw [active] at paused
      cases paused
    exact
      { numbered := numbered_ran trusted here
        lost := fun paused => never paused
        pauses := pauses_ran trusted here
        found := fun paused => never paused
        lifts := fun paused => never paused }

theorem trusted_step (state : Guarding) (event : GuardEvent) (trusted : state.Trusted)
    (kept : liftKept state event = true) : (step hooks state event).1.Trusted := by
  cases event with
  | run index outside =>
      cases here : state.goroutines[index]? with
      | none =>
          simp only [step, here]
          exact trusted
      | some current =>
          rw [step_run here]
          exact trusted_ran trusted here kept
  | begin operation => exact trusted_begin trusted operation
  | engineUp =>
      rw [step]
      split
      · exact trusted
      · exact { trusted with }
  | _ => exact { trusted with }

/-- Every step that lifts the pause is that of a goroutine that has been told of a
network since its loss. -/
def LiftsFresh (hooks : Hooks) (tunIP : String) (clock : Nat) (events : List GuardEvent) : Prop :=
  ∀ consumed event, consumed ++ [event] <+: events →
    let state := reached hooks tunIP clock consumed
    state.guard.paused = true → (step hooks state event).1.guard.paused = false →
      ∃ index outside goroutine, event = .run index outside ∧
        state.goroutines[index]? = some goroutine ∧ state.Fresh goroutine.tag.evidence

/-- In a run whose steps all keep the lifts, a pause is lifted on fresh evidence only. -/
theorem lifts_fresh {hooks : Hooks} {tunIP : String} {clock : Nat} {events : List GuardEvent}
    (kept : Transducer.AtEveryStep (step hooks) (start tunIP clock) events
      fun state event => liftKept state event = true) :
    LiftsFresh hooks tunIP clock events := by
  intro consumed event within state paused lifted
  have trusted : state.Trusted :=
    Transducer.invariant_of_atEveryStep (step hooks) trusted_step (trusted_start tunIP clock)
      (kept.of_prefix ((List.prefix_append _ _).trans within))
  rcases step_cases hooks state event with ⟨index, outside, current, run, here, ran⟩ | ⟨same, -⟩
  · rw [ran] at lifted
    refine ⟨index, outside, current, run, here, ?_⟩
    apply trusted.lifts paused current (List.mem_of_getElem? here)
    rcases (written_ran hooks state outside index current).paused with
      ⟨same, -⟩ | ⟨-, lost⟩ | ⟨source, next, resumes, -⟩
    · cases (paused.symm.trans same.symm).trans lifted
    · rw [lost] at lifted
      cases lifted
    · rw [resumes]
      rfl
  · rw [same] at lifted
    cases paused.symm.trans lifted

/-- Three dials time out and a heal is decided; before it gets to the rebind the network
is lost. -/
def healThenLost : List GuardEvent :=
  [.begin (.dialResult .timeout), .run 0 nothing, .begin (.dialResult .timeout), .run 1 nothing,
    .begin (.dialResult .timeout), .run 2 nothing, .run 2 nothing, .run 3 nothing,
    .begin (.host .netlost), .run 4 nothing, .run 4 nothing]

theorem healThenLost_lifts :
    ¬ LiftsFresh .production "10.8.0.2" 0 (healThenLost ++ [.run 3 nothing]) := by
  intro fresh
  have paused : (reached .production "10.8.0.2" 0 healThenLost).guard.paused = true := by
    decide +kernel
  have lifted : (step .production (reached .production "10.8.0.2" 0 healThenLost)
      (.run 3 nothing)).1.guard.paused = false := by decide +kernel
  obtain ⟨index, outside, goroutine, run, here, told⟩ :=
    fresh healThenLost (.run 3 nothing) (List.prefix_refl _) paused lifted
  have there : (reached .production "10.8.0.2" 0 healThenLost).goroutines[3]? =
      some { point := onHandover .dialTimeouts, tag := ⟨2, none⟩ } := by decide +kernel
  cases run
  cases there.symm.trans here
  cases told

/-- The network comes back after its loss, and the host says so. -/
theorem lifts_fresh_netback :
    LiftsFresh .production "10.8.0.2" 0
      [.begin (.host .netlost), .run 0 nothing, .run 0 nothing, .begin (.host .netback),
        .run 1 nothing] :=
  lifts_fresh (by decide +kernel)

end Guarding

end Csqtt
