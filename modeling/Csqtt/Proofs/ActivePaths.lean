/-
Module: Csqtt.Proofs.ActivePaths
Purpose: When the count of active paths is that of the running engine's sessions, over runs
  of engines that overlap.
Trusted boundary: none
Main exports: Engine.guards, Process.touches, Process.Counted, Process.counted_exact
-/
import Csqtt.Core.Transducer
import Csqtt.Engine.ActivePaths

namespace Csqtt

/-- The `ActiveConnection` of a session lives. -/
def SessionPoint.live : SessionPoint → Bool
  | .active => true
  | _ => false

/-- It is counted with the engine. -/
def SessionPoint.connected : SessionPoint → Bool
  | .counted | .active | .leaving => true
  | _ => false

def Engine.guards (self : Engine) : Nat := self.sessions.countP (·.live)

namespace Process

/-- Those of an engine of the process. -/
def guardsOf (self : Process) (index : Nat) : Nat :=
  match self.engines[index]? with
  | none => 0
  | some engine => engine.guards

/-- Those of the running engine, which is the one whose start-up came last. -/
def runningGuards (self : Process) : Nat :=
  match self.latest with
  | none => 0
  | some index => self.guardsOf index

def Counted (self : Process) : Prop :=
  self.csqttEngineActivePaths = self.runningGuards ∧ 0 ≤ self.csqttEngineActivePaths

/-- The engine whose session creates or drops its `ActiveConnection` with the event. -/
def touches (self : Process) : ProcessEvent → Option Nat
  | .engine index (.session worker step) =>
      match self.engines[index]? with
      | none => none
      | some engine =>
          if engine.point = .running ∧
              (step = .enter ∧ engine.sessions[worker]? = some .counted ∨
                step = .leave ∧ engine.sessions[worker]? = some .active) then
            some index
          else none
  | _ => none

/-- No other engine than the running one creates or drops one. -/
def Orderly (self : Process) (event : ProcessEvent) : Prop :=
  ∀ index, self.touches event = some index → self.latest = some index

/-!
### What engines that do not run have
-/

end Process

/-- An engine has no more sessions than workers, its own count is right, and no connection
lives unless its workers run. -/
structure Engine.Fit (engine : Engine) : Prop where
  few : engine.sessions.length ≤ maxWorkers
  quiet : engine.point ≠ .running → engine.guards = 0
  connections : engine.activeConnections.toInt = engine.sessions.countP (·.connected)

theorem Engine.guards_le {engine : Engine} (fit : engine.Fit) : engine.guards ≤ maxWorkers :=
  Nat.le_trans List.countP_le_length fit.few

theorem Engine.fit_spawned {workers : Nat} (few : workers ≤ maxWorkers) :
    (Engine.spawned workers).Fit where
  few := by
    rw [Engine.spawned, List.length_replicate]
    exact few
  quiet _ := List.countP_eq_zero.mpr fun point mem => by
    rw [List.eq_of_mem_replicate mem]
    decide
  connections := congrArg Int.ofNat (List.countP_eq_zero.mpr fun point mem => by
    rw [List.eq_of_mem_replicate mem]
    decide).symm

/-- How far a count of sessions goes with one that moves. -/
theorem countP_moved {sessions : List SessionPoint} {worker : Nat} {point next : SessionPoint}
    {held : SessionPoint → Bool} {change : Int} (found : sessions[worker]? = some point)
    (changes : ((held next).toNat : Int) = (held point).toNat + change) :
    ((sessions.set worker next).countP held : Int) = sessions.countP held + change := by
  obtain ⟨within, here⟩ := List.getElem?_eq_some_iff.mp found
  rw [List.countP_set within, here]
  cases before : held point with
  | false =>
    cases after : held next <;> simp [before, after] at changes ⊢ <;> omega
  | true =>
    have present : 0 < sessions.countP held :=
      List.countP_pos_iff.mpr ⟨point, here ▸ List.getElem_mem within, before⟩
    cases after : held next <;> simp [before, after] at changes ⊢ <;> omega

section Steps

variable {point next : SessionPoint} {step : SessionStep} {cancelled : Bool}

theorem live_next (moves : point.next cancelled step = some next) :
    (next.live.toNat : Int) = point.live.toNat + step.paths.toInt := by
  cases point <;> cases step <;> simp [SessionPoint.next] at moves <;> (try subst moves) <;>
    first | rfl | (obtain ⟨-, rfl⟩ := moves; rfl)

theorem connected_next (moves : point.next cancelled step = some next) :
    (next.connected.toNat : Int) = point.connected.toNat + step.connections.toInt := by
  cases point <;> cases step <;> simp [SessionPoint.next] at moves <;> (try subst moves) <;>
    first | rfl | (obtain ⟨-, rfl⟩ := moves; rfl)

theorem paths_small (step : SessionStep) : -1 ≤ step.paths.toInt ∧ step.paths.toInt ≤ 1 := by
  cases step <;> decide

theorem connections_small (step : SessionStep) :
    -1 ≤ step.connections.toInt ∧ step.connections.toInt ≤ 1 := by
  cases step <;> decide

end Steps

/-- A count of sessions does not wrap around. -/
theorem toInt_add_one {count change : I32} {live : Nat} (few : live ≤ maxWorkers)
    (right : count.toInt = live) (small : -1 ≤ change.toInt ∧ change.toInt ≤ 1) :
    (count + change).toInt = live + change.toInt := by
  rw [maxWorkers] at few
  obtain ⟨low, high⟩ := small
  rw [BitVec.toInt_add, right]
  exact Int.bmod_eq_of_le (by omega) (by omega)

namespace Process

variable {self : Process} {index : Nat} {engine next : Engine}

def Fit (self : Process) : Prop := ∀ engine ∈ self.engines, engine.Fit

theorem fit_initial : initial.Fit := fun _ mem => by cases mem

theorem Fit.moved (fit : self.Fit) (index : Nat) (sound : next.Fit) : (self.moved index next).Fit :=
  fun other mem => (List.mem_or_eq_of_mem_set mem).elim (fit other) fun same => same ▸ sound

/-- What a step of an engine comes to. -/
inductive Effect (before : Process) (index : Nat) (engine : Engine) : EngineStep → Process → Prop
  | stays {step : EngineStep} (untouched : before.touches (.engine index step) = none) :
      Effect before index engine step before
  | moves {step : EngineStep} (next : Engine) (slot : Option Nat)
      (untouched : before.touches (.engine index step) = none)
      (sessions : next.sessions = engine.sessions)
      (connections : next.activeConnections = engine.activeConnections)
      (quiet : next.point ≠ .running → engine.point ≠ .running ∨ engine.guards = 0) :
      Effect before index engine step { before.moved index next with engineCancel := slot }
  | zeroes (published : engine.point = .published) :
      Effect before index engine .zero
        { before.moved index { engine with point := .zeroed } with
          activePaths := 0
          latest := some index }
  | session {worker : Nat} {step : SessionStep} {point next : SessionPoint}
      (running : engine.point = .running) (found : engine.sessions[worker]? = some point)
      (goes : point.next engine.cancelled step = some next) :
      Effect before index engine (.session worker step)
        { before.moved index { engine with
            sessions := engine.sessions.set worker next
            activeConnections := engine.activeConnections + step.connections } with
          activePaths := before.activePaths + step.paths }

theorem sessionStep_effect (running : engine.point = .running)
    (here : self.engines[index]? = some engine) (worker : Nat) (step : SessionStep) :
    self.Effect index engine (.session worker step)
      (self.sessionStep index engine worker step) := by
  unfold sessionStep
  split
  · next absent =>
      refine .stays ?_
      simp [touches, here, absent]
  · next point found =>
      split
      · next stuck =>
          refine .stays ?_
          simp only [touches, here, found]
          rw [if_neg]
          rintro ⟨-, ⟨rfl, same⟩ | ⟨rfl, same⟩⟩
          · cases same
            cases stuck
          · cases same
            cases stuck
      · next next goes => exact .session running found goes

theorem engineStep_effect (here : self.engines[index]? = some engine) (step : EngineStep) :
    self.Effect index engine step (self.engineStep index engine step) := by
  cases step with
  | session worker step =>
    by_cases running : engine.point = .running
    · rw [engineStep, if_pos running]
      exact sessionStep_effect running here worker step
    · rw [engineStep, if_neg running]
      refine .stays ?_
      simp [touches, here, running]
  | publish =>
    by_cases starting : engine.point = .starting
    · rw [engineStep, if_pos starting]
      exact .moves _ _ rfl rfl rfl fun _ => .inl (by simp [starting])
    · rw [engineStep, if_neg starting]
      exact .stays rfl
  | zero =>
    by_cases published : engine.point = .published
    · rw [engineStep, if_pos published]
      exact .zeroes published
    · rw [engineStep, if_neg published]
      exact .stays rfl
  | fail =>
    by_cases early : engine.point = .starting ∨ engine.point = .zeroed
    · rw [engineStep, if_pos early]
      refine .moves _ _ rfl rfl rfl fun _ => .inl fun running => ?_
      rw [running] at early
      obtain other | other := early <;> cases other
    · rw [engineStep, if_neg early]
      exact .stays rfl
  | groups =>
    by_cases zeroed : engine.point = .zeroed
    · rw [engineStep, if_pos zeroed]
      exact .moves _ _ rfl rfl rfl fun other => absurd rfl other
    · rw [engineStep, if_neg zeroed]
      exact .stays rfl
  | cancel =>
    by_cases running : engine.point = .running
    · rw [engineStep, if_pos running]
      exact .moves _ _ rfl rfl rfl fun other => absurd running other
    · rw [engineStep, if_neg running]
      exact .stays rfl
  | finish =>
    by_cases ended : engine.point = .running ∧ engine.cancelled = true ∧
        engine.sessions.all (· == .idle) = true
    · rw [engineStep, if_pos ended]
      refine .moves _ _ rfl rfl rfl fun _ => .inr (List.countP_eq_zero.mpr fun point mem => ?_)
      have idle := List.all_eq_true.mp ended.2.2 point mem
      rw [eq_of_beq idle]
      decide
    · rw [engineStep, if_neg ended]
      exact .stays rfl

theorem Fit.engineStep (fit : self.Fit) (here : self.engines[index]? = some engine)
    (step : EngineStep) : (self.engineStep index engine step).Fit := by
  have sound := fit engine (List.mem_of_getElem? here)
  have effect := engineStep_effect here step
  generalize self.engineStep index engine step = after at effect ⊢
  cases effect with
  | stays _ => exact fit
  | moves next slot _ sessions connections quiet =>
    have same : next.guards = engine.guards := congrArg (List.countP _) sessions
    refine fit.moved index ⟨sessions ▸ sound.few, fun other => ?_, ?_⟩
    · rw [same]
      exact (quiet other).elim sound.quiet id
    · rw [connections, sessions]
      exact sound.connections
  | zeroes published =>
    exact fit.moved index
      ⟨sound.few, fun _ => sound.quiet (by simp [published]), sound.connections⟩
  | @session worker step point next running found goes =>
    refine fit.moved index ⟨?_, fun other => absurd running other, ?_⟩
    · rw [List.length_set]
      exact sound.few
    · have few : engine.sessions.countP (·.connected) ≤ maxWorkers :=
        Nat.le_trans List.countP_le_length sound.few
      have total := toInt_add_one few sound.connections (connections_small step)
      exact total.trans (countP_moved found (connected_next goes)).symm

theorem Fit.step (fit : self.Fit) (event : ProcessEvent) : (self.step event).1.Fit := by
  cases event with
  | start requested hashCount allow =>
    intro engine mem
    obtain earlier | spawned := List.mem_append.mp mem
    · exact fit engine earlier
    · rw [List.mem_singleton.mp spawned]
      exact Engine.fit_spawned (normalizeWorkerCountForHashes_le requested hashCount allow)
  | stop =>
    cases slot : self.engineCancel with
    | none =>
      simp only [Process.step, csqttEngineStop, slot]
      exact fit
    | some index =>
      intro engine mem
      simp only [Process.step, csqttEngineStop, slot] at mem
      obtain ⟨place, found⟩ := List.mem_iff_getElem?.mp mem
      rw [List.getElem?_modify] at found
      obtain ⟨before, here, same⟩ := Option.map_eq_some_iff.mp found
      have sound := fit before (List.mem_of_getElem? here)
      rw [← same]
      split
      · exact ⟨sound.few, sound.quiet, sound.connections⟩
      · exact sound
  | engine index step =>
    cases here : self.engines[index]? with
    | none =>
      simp only [Process.step, here]
      exact fit
    | some engine =>
      simp only [Process.step, here]
      exact fit.engineStep here step

/-!
### What the count is worth
-/

theorem guardsOf_here (here : self.engines[index]? = some engine) :
    self.guardsOf index = engine.guards := by
  rw [guardsOf, here]

theorem guardsOf_moved (here : self.engines[index]? = some engine) (next : Engine) (other : Nat) :
    (self.moved index next).guardsOf other =
      if other = index then next.guards else self.guardsOf other := by
  have within := (List.getElem?_eq_some_iff.mp here).1
  rw [guardsOf, moved, List.getElem?_set]
  by_cases same : index = other
  · rw [if_pos same, if_pos within, if_pos same.symm]
  · rw [if_neg same, if_neg (Ne.symm same)]
    rfl

/-- An engine that has just been started has no session that lives. -/
theorem guardsOf_start (self : Process) (workers other : Nat) :
    (self.csqttEngineStart workers).guardsOf other = self.guardsOf other := by
  by_cases within : other < self.engines.length
  · rw [guardsOf, csqttEngineStart, List.getElem?_append_left within]
    rfl
  · have beyond := Nat.le_of_not_lt within
    rw [guardsOf, guardsOf, csqttEngineStart, List.getElem?_append_right beyond,
      List.getElem?_eq_none beyond]
    cases found : [Engine.spawned workers][other - self.engines.length]? with
    | none => rfl
    | some engine =>
      rw [List.mem_singleton.mp (List.mem_of_getElem? found)]
      refine List.countP_eq_zero.mpr fun point mem => ?_
      rw [List.eq_of_mem_replicate mem]
      decide

/-- A stop takes no session away at once. -/
theorem guardsOf_stop (self : Process) (other : Nat) :
    self.csqttEngineStop.guardsOf other = self.guardsOf other := by
  cases slot : self.engineCancel with
  | none => rw [csqttEngineStop, slot]
  | some index =>
    simp only [csqttEngineStop, slot, guardsOf, List.getElem?_modify]
    cases self.engines[other]? with
    | none => rfl
    | some engine =>
      change Engine.guards (if index = other then _ else engine) = engine.guards
      split <;> rfl

theorem runningGuards_congr {after : Process} (latest : after.latest = self.latest)
    (guards : ∀ other, after.guardsOf other = self.guardsOf other) :
    after.runningGuards = self.runningGuards := by
  rw [runningGuards, runningGuards, latest]
  cases self.latest with
  | none => rfl
  | some other => exact guards other

theorem runningGuards_le (fit : self.Fit) : self.runningGuards ≤ maxWorkers := by
  unfold runningGuards
  split
  · exact Nat.zero_le _
  · next index _ =>
      cases here : self.engines[index]? with
      | none =>
        rw [guardsOf, here]
        exact Nat.zero_le _
      | some engine =>
        rw [guardsOf_here here]
        exact Engine.guards_le (fit engine (List.mem_of_getElem? here))

theorem counted_iff : self.Counted ↔ self.activePaths.toInt = self.runningGuards := by
  refine ⟨And.left, fun same => ⟨same, ?_⟩⟩
  rw [csqttEngineActivePaths, same]
  exact Int.natCast_nonneg _

theorem Counted.congr (counted : self.Counted) {after : Process}
    (paths : after.activePaths = self.activePaths) (latest : after.latest = self.latest)
    (guards : ∀ other, after.guardsOf other = self.guardsOf other) : after.Counted := by
  rw [counted_iff, paths, runningGuards_congr latest guards]
  exact counted_iff.mp counted

/-- A session enters or leaves exactly where the count of the process changes. -/
theorem touches_session {worker : Nat} {step : SessionStep} {point next : SessionPoint}
    (here : self.engines[index]? = some engine) (running : engine.point = .running)
    (found : engine.sessions[worker]? = some point)
    (goes : point.next engine.cancelled step = some next) :
    self.touches (.engine index (.session worker step)) =
      if step.paths.toInt = 0 then none else some index := by
  simp only [touches, here, running, found, true_and, Option.some.injEq]
  cases step with
  | enter => cases point <;> first | rfl | cases goes
  | leave => cases point <;> first | rfl | cases goes
  | _ => rfl

theorem runningGuards_latest (here : self.engines[index]? = some engine)
    (latest : self.latest = some index) : self.runningGuards = engine.guards := by
  rw [runningGuards, latest]
  exact guardsOf_here here

theorem runningGuards_moved (here : self.engines[index]? = some engine) (next : Engine)
    (paths : I32) :
    ({ self.moved index next with activePaths := paths } : Process).runningGuards =
      if self.latest = some index then next.guards else self.runningGuards := by
  unfold runningGuards
  change (match self.latest with
    | none => 0
    | some other => (self.moved index next).guardsOf other) = _
  cases self.latest with
  | none => rw [if_neg nofun]
  | some other =>
    dsimp only
    rw [guardsOf_moved here]
    by_cases same : other = index
    · rw [if_pos same, if_pos (congrArg some same)]
    · rw [if_neg same, if_neg (fun equal => same (Option.some.inj equal))]

/-- A session of the running engine, and of no other, may enter or leave. -/
theorem counted_session {worker : Nat} {step : SessionStep} {point next : SessionPoint}
    (fit : self.Fit) (counted : self.Counted) (here : self.engines[index]? = some engine)
    (running : engine.point = .running) (found : engine.sessions[worker]? = some point)
    (goes : point.next engine.cancelled step = some next) :
    ({ self.moved index { engine with
        sessions := engine.sessions.set worker next
        activeConnections := engine.activeConnections + step.connections } with
      activePaths := self.activePaths + step.paths } : Process).Counted ↔
      self.Orderly (.engine index (.session worker step)) := by
  have counts := countP_moved found (live_next goes)
  have total := toInt_add_one (runningGuards_le fit) (counted_iff.mp counted) (paths_small step)
  rw [counted_iff, runningGuards_moved here, Orderly, touches_session here running found goes]
  dsimp only
  rw [total]
  by_cases latest : self.latest = some index
  · rw [if_pos latest, runningGuards_latest here latest]
    refine ⟨fun _ other touched => ?_, fun _ => counts.symm⟩
    split at touched
    · cases touched
    · exact latest.trans touched
  · rw [if_neg latest]
    by_cases still : step.paths.toInt = 0
    · rw [if_pos still, still, add_zero]
      exact ⟨nofun, fun _ => rfl⟩
    · rw [if_neg still]
      refine ⟨fun same => absurd (Int.add_left_cancel (same.trans (add_zero _).symm)) still,
        fun orderly => absurd (orderly index rfl) latest⟩

/-- One step keeps the count exactly if it is orderly. -/
theorem counted_step (fit : self.Fit) (counted : self.Counted) (event : ProcessEvent) :
    (self.step event).1.Counted ↔ self.Orderly event := by
  cases event with
  | start requested hashCount allow =>
    exact iff_of_true (counted.congr rfl rfl (guardsOf_start self _)) nofun
  | stop =>
    have paths : self.csqttEngineStop.activePaths = self.activePaths := by
      unfold csqttEngineStop
      split <;> rfl
    have latest : self.csqttEngineStop.latest = self.latest := by
      unfold csqttEngineStop
      split <;> rfl
    exact iff_of_true (counted.congr paths latest (guardsOf_stop self)) nofun
  | engine index step =>
    cases here : self.engines[index]? with
    | none =>
      have untouched : self.touches (.engine index step) = none := by
        cases step with
        | session worker step => simp only [touches, here]
        | _ => rfl
      simp only [Process.step, here]
      exact iff_of_true counted fun other touched => by cases untouched.symm.trans touched
    | some engine =>
      have sound := fit engine (List.mem_of_getElem? here)
      have effect := engineStep_effect here step
      simp only [Process.step, here]
      generalize self.engineStep index engine step = after at effect ⊢
      cases effect with
      | stays untouched =>
        exact iff_of_true counted fun other touched => by cases untouched.symm.trans touched
      | moves next slot untouched sessions _ quiet =>
        have same : next.guards = engine.guards := congrArg (List.countP _) sessions
        refine iff_of_true (counted.congr rfl rfl fun other => ?_)
          fun other touched => by cases untouched.symm.trans touched
        refine (guardsOf_moved here next other).trans ?_
        split
        · next equal => rw [equal, guardsOf_here here, same]
        · rfl
      | zeroes published =>
        refine iff_of_true (counted_iff.mpr ?_) nofun
        have none : engine.guards = 0 := sound.quiet (by simp [published])
        have zero : (self.moved index { engine with point := .zeroed }).guardsOf index = 0 := by
          rw [guardsOf_moved here, if_pos rfl]
          exact none
        exact congrArg Int.ofNat zero.symm
      | session running found goes => exact counted_session fit counted here running found goes

/-- In every run of engines that the host starts and stops, the count that the guard reads is
that of the running engine's connections, and so never negative, exactly if no session of
another engine creates or drops its connection. -/
theorem counted_exact (events : List ProcessEvent) :
    Transducer.Throughout step initial events Counted ↔
      Transducer.AtEveryStep step initial events Orderly :=
  Transducer.throughout_iff_atEveryStep step fit_initial ⟨rfl, by decide⟩
    (fun _ event fit _ => fit.step event) (fun _ event fit counted => counted_step fit counted event)

/-- An old engine's session ends when the next engine has already zeroed the count. -/
def overlap : List ProcessEvent :=
  [.start 9 1 false, .engine 0 .publish, .engine 0 .zero, .engine 0 .groups,
    .engine 0 (.session 0 .connect), .engine 0 (.session 0 .allocated),
    .engine 0 (.session 0 .count), .engine 0 (.session 0 .enter), .stop, .start 9 1 false,
    .engine 1 .publish, .engine 1 .zero, .engine 0 (.session 0 .leave)]

theorem counted_drifts :
    (Transducer.run step initial overlap).1.csqttEngineActivePaths = -1 ∧
      (Transducer.run step initial overlap).1.runningGuards = 0 ∧
      ¬ Transducer.Throughout step initial overlap Counted := by
  have below : (Transducer.run step initial overlap).1.csqttEngineActivePaths = -1 := by
    decide +kernel
  refine ⟨below, by decide +kernel, fun counted => ?_⟩
  have never := (counted overlap (List.prefix_refl overlap)).2
  rw [below] at never
  cases never

/-- The count that each engine keeps of its own is right in every run. -/
theorem connections_exact (events : List ProcessEvent) :
    ∀ engine ∈ (Transducer.run step initial events).1.engines,
      engine.activeConnections.toInt = engine.sessions.countP (·.connected) := by
  have fit : (Transducer.run step initial events).1.Fit :=
    Transducer.run_invariant step (fun _ event before => before.step event) initial events
      fit_initial
  exact fun engine mem => (fit engine mem).connections

end Process

end Csqtt
