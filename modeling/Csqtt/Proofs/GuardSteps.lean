/-
Module: Csqtt.Proofs.GuardSteps
Purpose: What each locked section of the guard can do, field by field, and the rules
  by which a fact about one step of a goroutine becomes one about every run.
Trusted boundary: none
Main exports: noteDialResult_cases, resumeFromPause_cases, handover_cases,
  requestRecycle_cases, Point.within, step_keeps, reached_concat
-/
import Csqtt.Helper.GuardRun

namespace Csqtt

/-- A time that is not recent lies a whole gap back. -/
theorem le_of_not_recent {last now gap : Nat} (apart : recent (some last) now gap = false)
    (some : 0 < gap) : last + gap ≤ now := by
  have far : ¬ now - last < gap := of_decide_eq_false apart
  omega

namespace DataPathGuard

variable (self : DataPathGuard)

/-- A dial's result touches the counters and the deferred recycle, nothing else. -/
theorem noteDialResult_cases (now : Nat) (result : DialResult) :
    ∃ dialFails recycles pendingRecycle pendingReason next,
      self.noteDialResult now result =
        ({ self with
            dialFails := dialFails
            recycles := recycles
            pendingRecycle := pendingRecycle
            pendingReason := pendingReason }, next) ∧
      (recycles = self.recycles ∨
        recycles = 0 ∧ recent self.lastRecycle now dataPathRecycleStable = false) ∧
      (next = .ended ∨ next = .go (.heal .dialTimeouts) .ended) := by
  cases result with
  | connected =>
      refine ⟨0, _, false, none, .ended, rfl, ?_, Or.inl rfl⟩
      split
      · next stable => exact Or.inr ⟨rfl, by simpa using stable.2⟩
      · exact Or.inl rfl
  | failed => exact ⟨_, _, _, _, .ended, rfl, Or.inl rfl, Or.inl rfl⟩
  | timeout =>
      rw [noteDialResult]
      split
      · exact ⟨0, _, true, _, .ended, rfl, Or.inl rfl, Or.inl rfl⟩
      · split
        · exact ⟨_, _, _, _, .ended, rfl, Or.inl rfl, Or.inl rfl⟩
        · refine ⟨self.dialFails + 1, _, _, _, _, rfl, Or.inl rfl, ?_⟩
          split
          · exact Or.inr rfl
          · exact Or.inl rfl

theorem onWake_cases (now : Nat) :
    ∃ graceUntil dialFails next,
      self.onWake now = ({ self with graceUntil := graceUntil, dialFails := dialFails }, next) ∧
      (next = .ended ∨ (self.paused = true ∧ next = .wakeProbe self.pauseGen) ∨
        next = afterSoftResume .wake .ended) := by
  rw [onWake]
  split
  · exact ⟨_, _, .ended, rfl, Or.inl rfl⟩
  · refine ⟨some (now + dataPathWakeGrace), 0, _, rfl, ?_⟩
    split
    · next paused => exact Or.inr (Or.inl ⟨paused, rfl⟩)
    · exact Or.inr (Or.inr rfl)

/-- What is left to do once a pause is lifted. -/
def afterPause (source : Reason) (next : Point) : Point :=
  if source ≠ .netback then next
  else if self.pendingRecycle then .go (.heal (self.pendingReason.getD source)) next
  else afterSoftResume source next

/-- The fields once a pause is lifted. -/
def lifted (now : Nat) : DataPathGuard :=
  { self with
    paused := false
    pauseGen := self.pauseGen + 1
    pendingRecycle := false
    pendingReason := none
    dialFails := 0
    graceUntil := some (now + dataPathWakeGrace) }

theorem resumeFromPause_cases (now : Nat) (source : Reason) (next : Point) :
    (self.paused = false ∧ self.resumeFromPause now source next = (self, next)) ∨
      (self.paused = true ∧ self.resumeFromPause now source next =
        (self.lifted now, .applyEnginePause false (self.afterPause source next))) := by
  rw [resumeFromPause]
  split
  · next active => exact Or.inl ⟨by simpa using active, rfl⟩
  · next paused => exact Or.inr ⟨by simpa using paused, rfl⟩

/-- The fields once a rebind is decided. -/
def rebound (now : Nat) : DataPathGuard :=
  { self with
    lastRebind := some now
    rebindGen := self.rebindGen + 1
    rebindInFlight := true
    dialFails := 0
    graceUntil := some (now + dataPathWakeGrace) }

/-- The fields once a handover is left to the recycle in progress. -/
def remembering (source : Reason) : DataPathGuard :=
  { self with
    pendingHandover := true
    pendingHandoverSource := self.pendingHandoverSource.or (some source) }

/-- A handover is dropped, remembered, taken for one just served, or served. -/
theorem handover_cases (now : Nat) (source : Reason) :
    (self.exiting = true ∧ self.handover now source = (self, .ended)) ∨
    (self.exiting = false ∧ self.recycling = true ∧
      self.handover now source = (self.remembering source, .ended)) ∨
    (self.exiting = false ∧ self.recycling = false ∧
      recent self.lastRebind now dataPathRebindMinGap = true ∧
      self.handover now source = (self, .ended)) ∨
    (self.exiting = false ∧ self.recycling = false ∧
      recent self.lastRebind now dataPathRebindMinGap = false ∧
      self.handover now source = (self.rebound now, .rebind (self.rebindGen + 1) source)) := by
  rw [handover]
  split
  · next exiting => exact Or.inl ⟨exiting, rfl⟩
  · next running =>
      have exiting := Bool.of_not_eq_true running
      split
      · next recycling => exact Or.inr (Or.inl ⟨exiting, recycling, rfl⟩)
      · next steady =>
          have recycling := Bool.of_not_eq_true steady
          split
          · next close => exact Or.inr (Or.inr (Or.inl ⟨exiting, recycling, close, rfl⟩))
          · next apart =>
              have apart := Bool.of_not_eq_true apart
              exact Or.inr (Or.inr (Or.inr ⟨exiting, recycling, apart, rfl⟩))

/-- The fields once a recycle is decided. -/
def recyclingFrom (now : Nat) : DataPathGuard :=
  { self with recycling := true, lastRecycle := some now, recycles := self.recycles + 1 }

/-- A recycle is decided only with nothing against it. -/
structure MayRecycle (guard : DataPathGuard) (now : Nat) : Prop where
  exiting : guard.exiting = false
  paused : guard.paused = false
  recycling : guard.recycling = false
  apart : recent guard.lastRecycle now dataPathRecycleMinGap = false
  left : guard.recycles < dataPathMaxRecycles

theorem requestRecycle_cases (now : Nat) (reason : Reason) :
    (self.exiting = true ∧ self.requestRecycle now reason = (self, .ended)) ∨
    (self.exiting = false ∧ self.paused = true ∧ self.requestRecycle now reason =
      ({ self with pendingRecycle := true, pendingReason := some reason }, .ended)) ∨
    (self.exiting = false ∧ self.paused = false ∧
      (self.recycling = true ∨ recent self.lastRecycle now dataPathRecycleMinGap = true) ∧
      self.requestRecycle now reason = (self, .ended)) ∨
    (self.exiting = false ∧
      self.requestRecycle now reason = ({ self with exiting := true }, .ended)) ∨
    (self.MayRecycle now ∧ self.requestRecycle now reason =
      (self.recyclingFrom now, .stopEngine reason self.tunIP)) := by
  rw [requestRecycle]
  split
  · next exiting => exact Or.inl ⟨exiting, rfl⟩
  · next running =>
      have exiting := Bool.of_not_eq_true running
      split
      · next paused => exact Or.inr (Or.inl ⟨exiting, paused, rfl⟩)
      · next active =>
          have paused := Bool.of_not_eq_true active
          split
          · next recycling =>
              exact Or.inr (Or.inr (Or.inl ⟨exiting, paused, Or.inl recycling, rfl⟩))
          · next steady =>
              have recycling := Bool.of_not_eq_true steady
              split
              · next close =>
                  exact Or.inr (Or.inr (Or.inl ⟨exiting, paused, Or.inr close, rfl⟩))
              · next apart =>
                  have apart := Bool.of_not_eq_true apart
                  split
                  · exact Or.inr (Or.inr (Or.inr (Or.inl ⟨exiting, rfl⟩)))
                  · next left =>
                      have may : self.MayRecycle now :=
                        ⟨exiting, paused, recycling, apart, not_le.mp left⟩
                      exact Or.inr (Or.inr (Or.inr (Or.inr ⟨may, rfl⟩)))

theorem failRecycle_cases (reason : Reason) :
    (self.paused = true ∧ self.failRecycle reason =
      { self with recycling := false, pendingRecycle := true, pendingReason := some reason }) ∨
    (self.paused = false ∧
      self.failRecycle reason = { self with exiting := true, recycling := false }) := by
  rw [failRecycle]
  split
  · next paused => exact Or.inl ⟨paused, rfl⟩
  · next active => exact Or.inr ⟨Bool.of_not_eq_true active, rfl⟩

theorem finishRebind_cases (gen : Nat) :
    (self.rebindGen = gen ∧ self.finishRebind gen = { self with rebindInFlight := false }) ∨
      (self.rebindGen ≠ gen ∧ self.finishRebind gen = self) := by
  rw [finishRebind]
  split
  · next current => exact Or.inl ⟨current, rfl⟩
  · next older => exact Or.inr ⟨older, rfl⟩

end DataPathGuard

/-- The points at which a recycle is asked for. -/
def Point.asks : Point → Bool
  | .requestRecycle _ => true
  | .rebindTimeout _ _ => true
  | _ => false

/-- All that one goroutine's step can write, by the point it is taken at. -/
inductive GuardWritten (now : Nat) (before : DataPathGuard) : Point → DataPathGuard → Prop
  | kept {point : Point} : GuardWritten now before point before
  | minor {point : Point} {tunIP : String} {dialFails recycles : Nat} {pendingRecycle : Bool}
      {pendingReason : Option Reason} {graceUntil : Option Nat} {softResumeGen : Nat}
      (fewer : recycles = before.recycles ∨
        recycles = 0 ∧ recent before.lastRecycle now dataPathRecycleStable = false) :
      GuardWritten now before point
        { before with
          tunIP := tunIP
          dialFails := dialFails
          recycles := recycles
          pendingRecycle := pendingRecycle
          pendingReason := pendingReason
          graceUntil := graceUntil
          softResumeGen := softResumeGen }
  | netlost : GuardWritten now before .netlost before.netlost.1
  | lifted {source : Reason} {next : Point} (paused : before.paused = true) :
      GuardWritten now before (.resumeFromPause source next) (before.lifted now)
  | remembering {source : Reason} (staying : before.exiting = false)
      (recycling : before.recycling = true) :
      GuardWritten now before (.handover source) (before.remembering source)
  | rebound {source : Reason} (staying : before.exiting = false)
      (steady : before.recycling = false)
      (apart : recent before.lastRebind now dataPathRebindMinGap = false) :
      GuardWritten now before (.handover source) (before.rebound now)
  | finished {next : Point} :
      GuardWritten now before (.finishRebind before.rebindGen next)
        { before with rebindInFlight := false }
  | exhausted {point : Point} (asks : point.asks = true) :
      GuardWritten now before point { before with exiting := true }
  | recycling {point : Point} (asks : point.asks = true) (may : before.MayRecycle now) :
      GuardWritten now before point (before.recyclingFrom now)
  | tunIPChanged : GuardWritten now before .tunIPChanged before.tunIPChanged
  | recycled : GuardWritten now before .recycled before.recycled.1
  | failed {reason : Reason} :
      GuardWritten now before (.failRecycle reason) (before.failRecycle reason)

/-- A pause begins with a lost network and ends where it is lifted. -/
theorem GuardWritten.paused {now : Nat} {before after : DataPathGuard} {point : Point}
    (written : GuardWritten now before point after) :
    (after.paused = before.paused ∧ after.pauseGen = before.pauseGen) ∨
      (point = .netlost ∧ after = before.netlost.1) ∨
      ∃ source next, point = .resumeFromPause source next ∧ before.paused = true ∧
        after = before.lifted now := by
  cases written with
  | netlost => exact Or.inr (Or.inl ⟨rfl, rfl⟩)
  | lifted paused => exact Or.inr (Or.inr ⟨_, _, rfl, paused, rfl⟩)
  | @failed reason =>
      rcases before.failRecycle_cases reason with ⟨-, result⟩ | ⟨-, result⟩
      · exact Or.inl (result ▸ ⟨rfl, rfl⟩)
      · exact Or.inl (result ▸ ⟨rfl, rfl⟩)
  | _ => exact Or.inl ⟨rfl, rfl⟩

/-- A recycle begins where one is asked for. -/
theorem GuardWritten.asks {now : Nat} {before after : DataPathGuard} {point : Point}
    (written : GuardWritten now before point after) (steady : before.recycling = false)
    (recycling : after.recycling = true) : point.asks = true := by
  cases written with
  | recycling asks => exact asks
  | tunIPChanged => cases recycling
  | recycled => cases recycling
  | @failed reason =>
      rcases before.failRecycle_cases reason with ⟨-, result⟩ | ⟨-, result⟩
      · rw [result] at recycling
        cases recycling
      · rw [result] at recycling
        cases recycling
  | _ => cases steady.symm.trans recycling

/-- A generation begins where a handover is decided. -/
theorem GuardWritten.handover {now : Nat} {before after : DataPathGuard} {point : Point}
    (written : GuardWritten now before point after) (counted : before.rebindGen ≠ after.rebindGen) :
    ∃ source, point = .handover source := by
  cases written with
  | rebound => exact ⟨_, rfl⟩
  | @failed reason =>
      rcases before.failRecycle_cases reason with ⟨-, result⟩ | ⟨-, result⟩
      · exact absurd (congrArg DataPathGuard.rebindGen result).symm counted
      · exact absurd (congrArg DataPathGuard.rebindGen result).symm counted
  | _ => exact absurd rfl counted

theorem GuardWritten.rebindGen_le {now : Nat} {before after : DataPathGuard} {point : Point}
    (written : GuardWritten now before point after) : before.rebindGen ≤ after.rebindGen := by
  cases written with
  | rebound => exact Nat.le_succ _
  | @failed reason =>
      rcases before.failRecycle_cases reason with ⟨-, result⟩ | ⟨-, result⟩
      · exact (congrArg DataPathGuard.rebindGen result).ge
      · exact (congrArg DataPathGuard.rebindGen result).ge
  | _ => exact le_rfl

theorem DataPathGuard.written_requestRecycle (guard : DataPathGuard) (now : Nat)
    (reason : Reason) {point : Point} (asks : point.asks = true) :
    GuardWritten now guard point (guard.requestRecycle now reason).1 := by
  rcases guard.requestRecycle_cases now reason with
    ⟨-, result⟩ | ⟨-, -, result⟩ | ⟨-, -, -, result⟩ | ⟨-, result⟩ | ⟨may, result⟩
  · exact result ▸ .kept
  · exact result ▸ .minor (Or.inl rfl)
  · exact result ▸ .kept
  · exact result ▸ .exhausted asks
  · exact result ▸ .recycling asks may

theorem Helper.perform_written (hooks : Hooks) (outside : Outside) (self : Helper)
    (point : Point) :
    GuardWritten self.clock self.guard point (self.perform hooks outside point).1.guard := by
  cases point with
  | noteDialResult result =>
      obtain ⟨_, _, _, _, next, result, fewer, -⟩ :=
        self.guard.noteDialResult_cases self.clock result
      rw [perform, locked, result]
      exact .minor fewer
  | onWake =>
      obtain ⟨_, _, next, result, -⟩ := self.guard.onWake_cases self.clock
      rw [perform, locked, result]
      exact .minor (Or.inl rfl)
  | netlost => exact .netlost
  | resumeFromPause source next =>
      rcases self.guard.resumeFromPause_cases self.clock source next with
        ⟨-, result⟩ | ⟨paused, result⟩
      · rw [perform, locked, result]
        exact .kept
      · rw [perform, locked, result]
        exact .lifted paused
  | handover source =>
      rcases self.guard.handover_cases self.clock source with
        ⟨-, result⟩ | ⟨staying, recycling, result⟩ | ⟨-, -, -, result⟩ |
          ⟨staying, steady, apart, result⟩
      · rw [perform, locked, result]
        exact .kept
      · rw [perform, locked, result]
        exact .remembering staying recycling
      · rw [perform, locked, result]
        exact .kept
      · rw [perform, locked, result]
        exact .rebound staying steady apart
  | finishRebind gen next =>
      rcases self.guard.finishRebind_cases gen with ⟨rfl, result⟩ | ⟨-, result⟩
      · rw [perform, locked, result]
        exact .finished
      · rw [perform, locked, result]
        exact .kept
  | requestRecycle reason => exact self.guard.written_requestRecycle self.clock reason rfl
  | rebindTimeout gen source => exact self.guard.written_requestRecycle self.clock _ rfl
  | startEngine reason wantIP =>
      rw [perform]
      split
      · exact .kept
      · exact .kept
  | watchSoftResume source => exact .minor (Or.inl rfl)
  | storeTunIP reason newIP => exact .minor (Or.inl rfl)
  | tunIPChanged => exact .tunIPChanged
  | recycled => exact .recycled
  | failRecycle reason => exact .failed
  | _ => exact .kept

theorem Helper.perform_clock (hooks : Hooks) (outside : Outside) (self : Helper)
    (point : Point) : (self.perform hooks outside point).1.clock = self.clock := by
  cases point with
  | startEngine reason wantIP =>
      rw [perform]
      split
      · rfl
      · rfl
  | _ => rfl

/-!
### Points and what is left behind them
-/

/-- The point itself, or one that it returns to, is of the kind. -/
def Point.within (kind : Point → Bool) : Point → Bool
  | .go call next => kind (.go call next) || next.within kind
  | .asleep wakeUp next => kind (.asleep wakeUp next) || next.within kind
  | .applyEnginePause value next => kind (.applyEnginePause value next) || next.within kind
  | .resumeFromPause source next => kind (.resumeFromPause source next) || next.within kind
  | .finishRebind gen next => kind (.finishRebind gen next) || next.within kind
  | point => kind point

theorem Point.within_mono {kind wider : Point → Bool}
    (inside : ∀ point, kind point = true → wider point = true) {point : Point}
    (within : point.within kind = true) : point.within wider = true := by
  induction point with
  | go call next inductionHypothesis =>
      rw [Point.within, Bool.or_eq_true] at within ⊢
      exact within.imp (inside _) inductionHypothesis
  | asleep wakeUp next inductionHypothesis =>
      rw [Point.within, Bool.or_eq_true] at within ⊢
      exact within.imp (inside _) inductionHypothesis
  | applyEnginePause value next inductionHypothesis =>
      rw [Point.within, Bool.or_eq_true] at within ⊢
      exact within.imp (inside _) inductionHypothesis
  | resumeFromPause source next inductionHypothesis =>
      rw [Point.within, Bool.or_eq_true] at within ⊢
      exact within.imp (inside _) inductionHypothesis
  | finishRebind gen next inductionHypothesis =>
      rw [Point.within, Bool.or_eq_true] at within ⊢
      exact within.imp (inside _) inductionHypothesis
  | _ => exact inside _ within

namespace DataPathGuard

/-!
Where the sections go on to.
-/

theorem noteDialResult_next (guard : DataPathGuard) (now : Nat) (result : DialResult) :
    (guard.noteDialResult now result).2 = .ended ∨
      (guard.noteDialResult now result).2 = .go (.heal .dialTimeouts) .ended := by
  obtain ⟨_, _, _, _, next, result, -, next⟩ := guard.noteDialResult_cases now result
  rw [result]
  exact next

theorem handover_next (guard : DataPathGuard) (now : Nat) (source : Reason) :
    (guard.handover now source).2 = .ended ∨
      (guard.handover now source).2 = .rebind (guard.rebindGen + 1) source := by
  rcases guard.handover_cases now source with
    ⟨-, result⟩ | ⟨-, -, result⟩ | ⟨-, -, -, result⟩ | ⟨-, -, -, result⟩
  · exact Or.inl (congrArg Prod.snd result)
  · exact Or.inl (congrArg Prod.snd result)
  · exact Or.inl (congrArg Prod.snd result)
  · exact Or.inr (congrArg Prod.snd result)

theorem requestRecycle_next (guard : DataPathGuard) (now : Nat) (reason : Reason) :
    (guard.requestRecycle now reason).2 = .ended ∨
      (guard.requestRecycle now reason).2 = .stopEngine reason guard.tunIP := by
  rcases guard.requestRecycle_cases now reason with
    ⟨-, result⟩ | ⟨-, -, result⟩ | ⟨-, -, -, result⟩ | ⟨-, result⟩ | ⟨-, result⟩
  · exact Or.inl (congrArg Prod.snd result)
  · exact Or.inl (congrArg Prod.snd result)
  · exact Or.inl (congrArg Prod.snd result)
  · exact Or.inl (congrArg Prod.snd result)
  · exact Or.inr (congrArg Prod.snd result)

end DataPathGuard

/-- What is done after a pause ends in what was to be done anyway. -/
theorem DataPathGuard.within_afterPause (guard : DataPathGuard) (kind : Point → Bool)
    (source : Reason) (next : Point) (apart : ∀ call, kind (.go call next) = false) :
    (guard.afterPause source next).within kind = next.within kind := by
  rw [afterPause]
  split
  · rfl
  · split
    · rw [Point.within, apart, Bool.false_or]
    · rw [afterSoftResume, Point.within, apart, Bool.false_or]

/-- A kind of point that no call, no lock and no answer leads to from most places. -/
structure Point.Apart (kind : Point → Bool) : Prop where
  ended : kind .ended = false
  heal : ∀ reason next, kind (.go (.heal reason) next) = false
  watchSoftResume : ∀ source next, kind (.go (.watchSoftResume source) next) = false
  applyEnginePause : ∀ value next, kind (.applyEnginePause value next) = false
  rebind : ∀ gen source, kind (.rebind gen source) = false
  stopEngine : ∀ reason wantIP, kind (.stopEngine reason wantIP) = false
  waitReady : ∀ reason wantIP, kind (.waitReady reason wantIP) = false
  failRecycle : ∀ reason, kind (.failRecycle reason) = false

/-- The points that lead to such a kind only by returning to it. -/
def Point.common : Point → Bool
  | .go _ _ => true
  | .asleep _ _ => true
  | .applyEnginePause _ _ => true
  | .resumeFromPause _ _ => true
  | .finishRebind _ _ => true
  | .noteDialResult _ => true
  | .handover _ => true
  | .requestRecycle _ => true
  | .rebindTimeout _ _ => true
  | .startEngine _ _ => true
  | _ => false

theorem Helper.within_of_common {hooks : Hooks} {outside : Outside} {self : Helper}
    {point : Point} {kind : Point → Bool} (apart : Point.Apart kind)
    (common : point.common = true)
    (within : (self.perform hooks outside point).2.within kind = true) :
    point.within kind = true := by
  cases point with
  | go call next => exact Bool.or_eq_true _ _ ▸ Or.inr within
  | applyEnginePause value next => exact Bool.or_eq_true _ _ ▸ Or.inr within
  | finishRebind gen next => exact Bool.or_eq_true _ _ ▸ Or.inr within
  | asleep wakeUp next =>
      rw [perform] at within
      split at within
      · exact Bool.or_eq_true _ _ ▸ Or.inr within
      · exact within
  | resumeFromPause source next =>
      rw [Point.within, Bool.or_eq_true]
      right
      rcases self.guard.resumeFromPause_cases self.clock source next with
        ⟨-, result⟩ | ⟨-, result⟩
      · rwa [perform, locked, result] at within
      · rw [perform, locked, result, Point.within, apart.applyEnginePause, Bool.false_or,
          DataPathGuard.afterPause] at within
        split at within
        · exact within
        · split at within
          · rwa [Point.within, apart.heal, Bool.false_or] at within
          · rwa [afterSoftResume, Point.within, apart.watchSoftResume, Bool.false_or] at within
  | noteDialResult result =>
      rcases self.guard.noteDialResult_next self.clock result with next | next
      · simp [perform, locked, next, Point.within, apart.ended] at within
      · simp [perform, locked, next, Point.within, apart.ended, apart.heal] at within
  | handover source =>
      rcases self.guard.handover_next self.clock source with next | next
      · simp [perform, locked, next, Point.within, apart.ended] at within
      · simp [perform, locked, next, Point.within, apart.rebind] at within
  | requestRecycle reason =>
      rcases self.guard.requestRecycle_next self.clock reason with next | next
      · simp [perform, locked, next, Point.within, apart.ended] at within
      · simp [perform, locked, next, Point.within, apart.stopEngine] at within
  | rebindTimeout gen source =>
      rcases self.guard.requestRecycle_next self.clock (.rebindTimeout source) with next | next
      · simp [perform, locked, next, Point.within, apart.ended] at within
      · simp [perform, locked, next, Point.within, apart.stopEngine] at within
  | startEngine reason wantIP =>
      rw [perform] at within
      split at within
      · simp [Point.within, apart.waitReady] at within
      · simp [Point.within, apart.failRecycle] at within
  | _ => cases common

namespace Guarding

variable {hooks : Hooks}

/-- A fact that only sees the guard's fields and the goroutines, and does not mind time
passing, is kept by every step if it is kept by a new operation and by a goroutine
going on. -/
theorem step_keeps {invariant : Guarding → Prop}
    (idle : ∀ (state : Guarding) (helper : Helper), helper.guard = state.helper.guard →
      state.helper.clock ≤ helper.clock → invariant state →
      invariant { state with helper := helper })
    (begun : ∀ (state : Guarding) (operation : GuardOperation), invariant state →
      invariant (step hooks state (.begin operation)).1)
    (ran : ∀ (state : Guarding) (outside : Outside) (index : Nat) (current : Goroutine),
      state.goroutines[index]? = some current → invariant state →
      invariant (state.ran hooks outside index current))
    (state : Guarding) (event : GuardEvent) (holds : invariant state) :
    invariant (step hooks state event).1 := by
  cases event with
  | tick elapsed => exact idle state _ rfl (Nat.le_add_right _ _) holds
  | begin operation => exact begun state operation holds
  | run index outside =>
      rw [step]
      split
      · exact holds
      · next current here => exact ran state outside index current here holds
  | engineUp =>
      rw [step]
      split
      · exact holds
      · exact idle state _ rfl (Nat.le_refl _) holds
  | engineFailed => exact idle state _ rfl (Nat.le_refl _) holds

/-- A goroutine going on moves its own place in the pool and nobody else's. -/
theorem ran_goroutines (state : Guarding) (outside : Outside) (index : Nat)
    (current : Goroutine) :
    (state.ran hooks outside index current).goroutines =
      Interleaving.advance state.goroutines index (state.moved hooks outside current)
        (started current) := rfl

theorem ran_guard (state : Guarding) (outside : Outside) (index : Nat) (current : Goroutine) :
    (state.ran hooks outside index current).guard =
      (state.helper.perform hooks outside current.point).1.guard := rfl

theorem ran_recycles (state : Guarding) (outside : Outside) (index : Nat)
    (current : Goroutine) :
    (state.ran hooks outside index current).recycles =
      if !state.guard.recycling && (state.ran hooks outside index current).guard.recycling then
        state.recycles + 1
      else state.recycles := rfl

theorem written_ran (hooks : Hooks) (state : Guarding) (outside : Outside) (index : Nat)
    (current : Goroutine) :
    GuardWritten state.helper.clock state.guard current.point
      (state.ran hooks outside index current).guard :=
  state.helper.perform_written hooks outside current.point

/-- A goroutine that lifts a pause tells the engine next. -/
theorem moved_of_resumes {state : Guarding} {current : Goroutine} {source : Reason}
    {next : Point} (resumes : current.point = .resumeFromPause source next)
    (paused : state.guard.paused = true) (outside : Outside) :
    (state.moved hooks outside current).point =
      .applyEnginePause false (state.guard.afterPause source next) := by
  rw [moved, resumes]
  rcases state.guard.resumeFromPause_cases state.helper.clock source next with
    ⟨active, -⟩ | ⟨-, result⟩
  · rw [active] at paused
    cases paused
  · exact congrArg Prod.snd result

/-- The children of a goroutine begin where some call begins. -/
theorem mem_started {current child : Goroutine} (mem : child ∈ started current) :
    ∃ call next, current.point = .go call next ∧
      child = { point := call.point, tag := current.tag } := by
  rw [started] at mem
  split at mem
  · next call next going => exact ⟨call, next, going, List.mem_singleton.mp mem⟩
  · cases mem

theorem step_run {state : Guarding} {index : Nat} {current : Goroutine}
    (here : state.goroutines[index]? = some current) (outside : Outside) :
    (step hooks state (.run index outside)).1 = state.ran hooks outside index current := by
  simp only [step, here]

/-- Only a goroutine going on changes the guard; whatever else happens leaves all
goroutines where they are. -/
theorem step_cases (hooks : Hooks) (state : Guarding) (event : GuardEvent) :
    (∃ index outside current, event = .run index outside ∧
      state.goroutines[index]? = some current ∧
      (step hooks state event).1 = state.ran hooks outside index current) ∨
    (step hooks state event).1.guard = state.guard ∧
      ∃ new, (step hooks state event).1.goroutines = state.goroutines ++ new := by
  cases event with
  | run index outside =>
      rw [step]
      split
      · exact Or.inr ⟨rfl, [], (List.append_nil _).symm⟩
      · next current here => exact Or.inl ⟨index, outside, current, rfl, here, rfl⟩
  | begin operation => exact Or.inr ⟨rfl, [_], rfl⟩
  | engineUp =>
      rw [step]
      split
      · exact Or.inr ⟨rfl, [], (List.append_nil _).symm⟩
      · exact Or.inr ⟨rfl, [], (List.append_nil _).symm⟩
  | _ => exact Or.inr ⟨rfl, [], (List.append_nil _).symm⟩

theorem step_recycles (state : Guarding) (event : GuardEvent) :
    (step hooks state event).1.recycles =
      if !state.guard.recycling && (step hooks state event).1.guard.recycling then
        state.recycles + 1
      else state.recycles := by
  have steady : (if !state.guard.recycling && state.guard.recycling then state.recycles + 1
      else state.recycles) = state.recycles := by
    rw [Bool.not_and_self]
    rfl
  cases event with
  | run index outside =>
      rw [step]
      split
      · exact steady.symm
      · exact ran_recycles state outside index _
  | engineUp =>
      rw [step]
      split
      · exact steady.symm
      · exact steady.symm
  | _ => exact steady.symm

theorem step_rebindGen_le (hooks : Hooks) (state : Guarding) (event : GuardEvent) :
    state.guard.rebindGen ≤ (step hooks state event).1.guard.rebindGen := by
  rcases step_cases hooks state event with ⟨index, outside, current, -, -, ran⟩ | ⟨same, -⟩
  · rw [ran]
    exact (written_ran hooks state outside index current).rebindGen_le
  · rw [same]

theorem run_rebindGen_le (state : Guarding) (events : List GuardEvent) :
    state.guard.rebindGen ≤ (Transducer.run (step hooks) state events).1.guard.rebindGen := by
  apply @Transducer.run_invariant _ _ _ (step hooks)
    (fun after => state.guard.rebindGen ≤ after.guard.rebindGen)
  · intro after event before
    exact before.trans (step_rebindGen_le hooks after event)
  · exact le_rfl

/-- Time does not go back. -/
theorem step_clock (state : Guarding) (event : GuardEvent) :
    state.helper.clock ≤ (step hooks state event).1.helper.clock := by
  apply @step_keeps hooks (fun after => state.helper.clock ≤ after.helper.clock)
  · intro after helper _ later before
    exact before.trans later
  · intro after operation before
    exact before
  · intro after outside index current _ before
    exact before.trans_eq (after.helper.perform_clock hooks outside current.point).symm
  · exact le_rfl

@[simp] theorem reached_nil (tunIP : String) (clock : Nat) :
    reached hooks tunIP clock [] = start tunIP clock := rfl

@[simp] theorem reached_concat (tunIP : String) (clock : Nat) (events : List GuardEvent)
    (event : GuardEvent) :
    reached hooks tunIP clock (events ++ [event]) =
      (step hooks (reached hooks tunIP clock events) event).1 := by
  rw [reached, Transducer.run_concat]
  rfl

theorem reached_append (tunIP : String) (clock : Nat) (events later : List GuardEvent) :
    reached hooks tunIP clock (events ++ later) =
      (Transducer.run (step hooks) (reached hooks tunIP clock events) later).1 := by
  rw [reached, Transducer.run_append]
  rfl

/-- Answers of an engine without paths and of a network that is gone. -/
def nothing : Outside where
  activePaths := 0
  rebound := true
  networkUp := false
  started := true
  ready := false
  tunIP := ""
  rebuilt := true
  packetPort := 0
  dialDone := false

end Guarding

end Csqtt
