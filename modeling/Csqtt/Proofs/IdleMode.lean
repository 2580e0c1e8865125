/-
Module: Csqtt.Proofs.IdleMode
Purpose: The idle mode and what it sets: when the limit and the declared count follow
  the flag, and the cut at which workers stay parked with the mode off.
Trusted boundary: none
Main exports: Consistent, mendsLimit, mendsDeclared, cuts, Settled, idle_consistent
-/
import Csqtt.Engine.Idle

namespace Csqtt

open scoped List

namespace IdlePoint

/-- Inside enter, exit or reset. -/
def inProgress : IdlePoint → Bool
  | .resetTotal _ => true
  | .resetDeclared _ => true
  | .resetLimit => true
  | .resetActive => true
  | .resetOffset => true
  | .resetAnnounce => true
  | .resetJoined _ => true
  | .enterTotal => true
  | .enterSwap => true
  | .enterLimit => true
  | .enterDeclared => true
  | .enterOffset => true
  | .enterAnnounce => true
  | .enterPackets => true
  | .enterSyns => true
  | .exitSwap => true
  | .exitLimit => true
  | .exitTotal => true
  | .exitDeclared _ => true
  | .exitAnnounce => true
  | _ => false

/-- The call is still to set the limit that the flag asks for, or the flag itself. -/
def mendsLimit (active : Bool) : IdlePoint → Bool
  | .resetTotal _ => true
  | .resetDeclared _ => true
  | .resetLimit => true
  | .resetActive => active
  | .enterLimit => active
  | .exitLimit => !active
  | _ => false

/-- The same for the declared count. -/
def mendsDeclared (active : Bool) (totalWorkers : Nat) : IdlePoint → Bool
  | .resetTotal _ => true
  | .resetDeclared total => active || total == totalWorkers
  | .resetLimit => active
  | .resetActive => active
  | .enterLimit => active
  | .enterDeclared => active
  | .exitLimit => !active
  | .exitTotal => !active
  | .exitDeclared total => !active && total == totalWorkers
  | _ => false

theorem inProgress_of_mendsLimit {active : Bool} {point : IdlePoint}
    (mends : point.mendsLimit active = true) : point.inProgress = true := by
  cases point with
  | resetTotal _ => rfl
  | resetDeclared _ => rfl
  | resetLimit => rfl
  | resetActive => rfl
  | enterLimit => rfl
  | exitLimit => rfl
  | _ => cases mends

theorem inProgress_of_mendsDeclared {active : Bool} {totalWorkers : Nat} {point : IdlePoint}
    (mends : point.mendsDeclared active totalWorkers = true) : point.inProgress = true := by
  cases point with
  | resetTotal _ => rfl
  | resetDeclared _ => rfl
  | resetLimit => rfl
  | resetActive => rfl
  | enterLimit => rfl
  | enterDeclared => rfl
  | exitLimit => rfl
  | exitTotal => rfl
  | exitDeclared _ => rfl
  | _ => cases mends

end IdlePoint

namespace Idle

/-- With the mode off nobody is parked and all workers are declared; with it on only the
keepers are let through and declared. -/
structure Consistent (keep : Nat) (idle : Idle) : Prop where
  off : idle.active = false → idle.limit = usizeMax ∧ idle.declared = idle.totalWorkers
  on : idle.active = true → idle.limit = keep ∧ idle.declared = keep

def limitAsked (self : Idle) (keep : Nat) : Nat := if self.active then keep else usizeMax

def declaredAsked (self : Idle) (keep : Nat) : Nat :=
  if self.active then keep else self.totalWorkers

/-- The operation sets the limit or the count against the flag, or the flag against
them, and none of the other calls is still to mend it. -/
def cuts (self : Idle) (keep : Nat) (others : List IdlePoint) : IdlePoint → Bool
  | .enterLimit =>
      keep != self.limitAsked keep && !others.any (IdlePoint.mendsLimit self.active)
  | .exitLimit =>
      usizeMax != self.limitAsked keep && !others.any (IdlePoint.mendsLimit self.active)
  | .enterDeclared =>
      keep != self.declaredAsked keep &&
        !others.any (IdlePoint.mendsDeclared self.active self.totalWorkers)
  | .exitDeclared total =>
      total != self.declaredAsked keep &&
        !others.any (IdlePoint.mendsDeclared self.active self.totalWorkers)
  | .resetDeclared total =>
      -- A reset that finds the mode on is still to end it.
      !self.active && total != self.totalWorkers &&
        !others.any (IdlePoint.mendsDeclared false self.totalWorkers)
  | .resetActive =>
      self.limit != usizeMax && !others.any (IdlePoint.mendsLimit false) ||
        self.declared != self.totalWorkers &&
          !others.any (IdlePoint.mendsDeclared false self.totalWorkers)
  | _ => false

/-- What the flag asks for is set, or one of the calls is still to set it. -/
structure Settled (keep : Nat) (idle : Idle) (points : List IdlePoint) : Prop where
  limit : idle.limit = idle.limitAsked keep ∨
    points.any (IdlePoint.mendsLimit idle.active) = true
  declared : idle.declared = idle.declaredAsked keep ∨
    points.any (IdlePoint.mendsDeclared idle.active idle.totalWorkers) = true

theorem eq_or_of_uncut {value asked : Nat} {mended : Bool}
    (uncut : (value != asked && !mended) = false) : value = asked ∨ mended = true := by
  cases mended with
  | true => exact Or.inr rfl
  | false => exact Or.inl (by simpa using uncut)

/-- The four fields of the mode are as before. -/
structure SameMode (before after : Idle) : Prop where
  limit : after.limit = before.limit
  active : after.active = before.active
  totalWorkers : after.totalWorkers = before.totalWorkers
  declared : after.declared = before.declared

theorem sameMode_setWindow (self : Idle) (counter : WindowCounter) (window : ExitWindow) :
    self.SameMode (self.setWindow counter window) := by
  cases window with
  | syns => exact ⟨rfl, rfl, rfl, rfl⟩
  | packets => exact ⟨rfl, rfl, rfl, rfl⟩

theorem Settled.of_sameMode {keep : Nat} {self after : Idle} {point next : IdlePoint}
    {others : List IdlePoint} (settled : Settled keep self (point :: others))
    (same : self.SameMode after)
    (limitless : point.mendsLimit self.active = false)
    (undeclared : point.mendsDeclared self.active self.totalWorkers = false) :
    Settled keep after (next :: others) := by
  obtain ⟨limit, declared⟩ := settled
  rw [List.any_cons, limitless, Bool.false_or] at limit
  rw [List.any_cons, undeclared, Bool.false_or] at declared
  constructor
  · rw [same.limit, limitAsked, same.active, List.any_cons]
    exact limit.imp_right (Bool.or_eq_true _ _ ▸ Or.inr ·)
  · rw [same.declared, declaredAsked, same.active, same.totalWorkers, List.any_cons]
    exact declared.imp_right (Bool.or_eq_true _ _ ▸ Or.inr ·)

/-- An operation that cuts nothing leaves what the flag asks for set or to be set. -/
theorem perform_settled {config : IdleConfig} {answered : Bool} {self : Idle} {point : IdlePoint}
    {others : List IdlePoint} (settled : Settled config.keep self (point :: others))
    (uncut : self.cuts config.keep others point = false) :
    Settled config.keep (self.perform config answered point).1
      ((self.perform config answered point).2 :: others) := by
  cases point with
  | resetTotal total => exact ⟨Or.inr rfl, Or.inr (by simp [perform, IdlePoint.mendsDeclared])⟩
  | resetDeclared total =>
      refine ⟨Or.inr rfl, ?_⟩
      cases active : self.active with
      | true => simp [perform, IdlePoint.mendsDeclared, active]
      | false =>
          rw [cuts, active] at uncut
          have set := eq_or_of_uncut uncut
          simpa [perform, declaredAsked, IdlePoint.mendsDeclared, active] using set
  | resetLimit =>
      refine ⟨?_, settled.declared⟩
      cases active : self.active with
      | true => simp [perform, IdlePoint.mendsLimit, active]
      | false => simp [perform, limitAsked, active]
  | resetActive =>
      rw [cuts, Bool.or_eq_false_iff] at uncut
      exact ⟨eq_or_of_uncut uncut.1, eq_or_of_uncut uncut.2⟩
  | enterSwap =>
      cases active : self.active with
      | true =>
          have same : { self with active := true } = self := by rw [← active]
          rw [perform, same, if_pos active]
          exact settled.of_sameMode ⟨rfl, rfl, rfl, rfl⟩ rfl rfl
      | false =>
          rw [perform, active]
          exact ⟨Or.inr rfl, Or.inr rfl⟩
  | enterLimit => exact ⟨eq_or_of_uncut uncut, settled.declared⟩
  | enterDeclared => exact ⟨settled.limit, eq_or_of_uncut uncut⟩
  | exitSwap =>
      cases active : self.active with
      | true =>
          rw [perform, active]
          exact ⟨Or.inr rfl, Or.inr rfl⟩
      | false =>
          have same : { self with active := false } = self := by rw [← active]
          rw [perform, same, active]
          exact settled.of_sameMode ⟨rfl, rfl, rfl, rfl⟩ rfl rfl
  | exitLimit => exact ⟨eq_or_of_uncut uncut, settled.declared⟩
  | exitTotal =>
      refine ⟨settled.limit, settled.declared.imp_right fun mended => ?_⟩
      simpa [perform, IdlePoint.mendsDeclared] using mended
  | exitDeclared total => exact ⟨settled.limit, eq_or_of_uncut uncut⟩
  | windowRestart window nowMs =>
      exact settled.of_sameMode (self.sameMode_setWindow _ window) rfl rfl
  | windowRestarted window nowMs =>
      exact settled.of_sameMode (self.sameMode_setWindow _ window) rfl rfl
  | windowAdd window nowMs =>
      exact settled.of_sameMode (self.sameMode_setWindow _ window) rfl rfl
  | resetJoined slot =>
      rw [perform]
      split
      · exact settled.of_sameMode ⟨rfl, rfl, rfl, rfl⟩ rfl rfl
      · exact settled.of_sameMode ⟨rfl, rfl, rfl, rfl⟩ rfl rfl
  | pathJoined worker offset =>
      rw [perform]
      split
      · exact settled.of_sameMode ⟨rfl, rfl, rfl, rfl⟩ rfl rfl
      · exact settled.of_sameMode ⟨rfl, rfl, rfl, rfl⟩ rfl rfl
  | lostExchange worker current =>
      rw [perform]
      split
      · exact settled.of_sameMode ⟨rfl, rfl, rfl, rfl⟩ rfl rfl
      · exact settled.of_sameMode ⟨rfl, rfl, rfl, rfl⟩ rfl rfl
  | _ => exact settled.of_sameMode ⟨rfl, rfl, rfl, rfl⟩ rfl rfl

theorem Settled.of_perm {keep : Nat} {self : Idle} {points others : List IdlePoint}
    (settled : Settled keep self points) (perm : points ~ others) : Settled keep self others := by
  have same {mends : IdlePoint → Bool} (mended : points.any mends = true) :
      others.any mends = true := by
    obtain ⟨point, mem, holds⟩ := List.any_eq_true.mp mended
    exact List.any_eq_true.mpr ⟨point, perm.subset mem, holds⟩
  exact ⟨settled.limit.imp_right same, settled.declared.imp_right same⟩

/-- With none of the calls in progress there is nobody left to set anything. -/
theorem Settled.consistent {keep : Nat} {self : Idle} {points : List IdlePoint}
    (settled : Settled keep self points)
    (rest : ∀ point ∈ points, point.inProgress = false) : Consistent keep self := by
  have limit : self.limit = self.limitAsked keep := by
    rcases settled.limit with set | mended
    · exact set
    · obtain ⟨point, mem, mends⟩ := List.any_eq_true.mp mended
      cases (rest point mem).symm.trans (IdlePoint.inProgress_of_mendsLimit mends)
  have declared : self.declared = self.declaredAsked keep := by
    rcases settled.declared with set | mended
    · exact set
    · obtain ⟨point, mem, mends⟩ := List.any_eq_true.mp mended
      cases (rest point mem).symm.trans (IdlePoint.inProgress_of_mendsDeclared mends)
  rw [limitAsked] at limit
  rw [declaredAsked] at declared
  constructor
  · intro off
    rw [off] at limit declared
    exact ⟨limit, declared⟩
  · intro on
    rw [on] at limit declared
    exact ⟨limit, declared⟩

end Idle

namespace Idling

/-- None of the calls of enter, exit and reset is in progress. -/
def AtRest (state : Idling) : Prop := ∀ task ∈ state.tasks, task.point.inProgress = false

/-- The step cuts into what another call has set. -/
def cuts (keep : Nat) (state : Idling) : IdleEvent → Bool
  | .run index _ =>
      match state.tasks[index]? with
      | some current =>
          state.idle.cuts keep ((state.tasks.eraseIdx index).map Thread.point) current.point
      | none => false
  | _ => false

def Settled (keep : Nat) (state : Idling) : Prop :=
  state.idle.Settled keep (state.tasks.map Thread.point)

theorem settled_start (keep : Nat) : start.Settled keep := ⟨Or.inl rfl, Or.inl rfl⟩

theorem settled_ran {config : IdleConfig} {state : Idling} {answered : Bool} {index : Nat}
    {current : IdleTask} (settled : state.Settled config.keep)
    (here : state.tasks[index]? = some current)
    (uncut : cuts config.keep state (.run index answered) = false) :
    (state.ran config answered index current).Settled config.keep := by
  have before := (Interleaving.perm_cons_eraseIdx here).map Thread.point
  have after := (Interleaving.advance_perm here
    { current with point := (state.idle.perform config answered current.point).2 } []).map
      Thread.point
  rw [List.append_nil] at after
  have kept : state.idle.cuts config.keep
      ((state.tasks.eraseIdx index).map Thread.point) current.point = false := by
    simpa only [cuts, here] using uncut
  exact (Idle.perform_settled (settled.of_perm before) kept).of_perm after.symm

theorem settled_step {config : IdleConfig} (state : Idling) (event : IdleEvent)
    (settled : state.Settled config.keep) (uncut : cuts config.keep state event = false) :
    (step config state event).1.Settled config.keep := by
  cases event with
  | tick elapsed => exact ⟨settled.limit, settled.declared⟩
  | begin operation =>
      have more {mends : IdlePoint → Bool}
          (mended : (state.tasks.map Thread.point).any mends = true) :
          ((step config state (.begin operation)).1.tasks.map Thread.point).any mends = true := by
        rw [step, List.map_append, List.any_append, mended]
        rfl
      exact ⟨settled.limit.imp_right more, settled.declared.imp_right more⟩
  | run index answered =>
      rw [step]
      split
      · exact settled
      · next current here => exact settled_ran settled here uncut

/-- Whenever none of the calls is in progress, the limit and the declared count are those
that the flag asks for. -/
def ConsistentAtRest (config : IdleConfig) (events : List IdleEvent) : Prop :=
  ∀ consumed, consumed <+: events → (reached config consumed).AtRest →
    (reached config consumed).idle.Consistent config.keep

/-- A run whose steps cut into nothing is consistent whenever it is at rest. -/
theorem idle_consistent {config : IdleConfig} {events : List IdleEvent}
    (uncut : Transducer.AtEveryStep (step config) start events
      fun state event => cuts config.keep state event = false) :
    ConsistentAtRest config events := by
  intro consumed within rest
  have settled : (reached config consumed).Settled config.keep :=
    Transducer.invariant_of_atEveryStep (step config) settled_step (settled_start config.keep)
      (uncut.of_prefix within)
  apply settled.consistent
  intro point mem
  obtain ⟨task, member, rfl⟩ := List.mem_map.mp mem
  exact rest task member

def keepTwo : IdleConfig where
  keep := 2
  after := 180000

/-- A segment with nothing set in it but that it opens a connection. -/
def syn : List U8 :=
  [0x45] ++ List.replicate 8 0 ++ [6] ++ List.replicate 23 0 ++ [2] ++ List.replicate 6 0

/-- An operation begun, and its thread run to the end. -/
def whole (operation : IdleOperation) (index steps : Nat) : List IdleEvent :=
  .begin operation :: List.replicate steps (.run index true)

/-- After a quiet while the monitor enters the idle mode, with 27 workers. -/
def enteredIdle : List IdleEvent :=
  whole (.reset 27) 0 134 ++ [.tick 200000] ++ whole (.monitor 180000) 1 3

/-- Three connections are opened before the monitor has set the limit. -/
def openedMeanwhile : List IdleEvent :=
  enteredIdle ++ whole (.noteUplink syn) 2 8 ++ whole (.noteUplink syn) 3 6 ++
    whole (.noteUplink syn) 4 9 ++ List.replicate 6 (.run 1 true)

theorem openedMeanwhile_parks : ¬ ConsistentAtRest keepTwo openedMeanwhile := by
  intro holds
  have rest : (reached keepTwo openedMeanwhile).AtRest := by
    unfold AtRest
    decide +kernel
  have off : (reached keepTwo openedMeanwhile).idle.active = false := by decide +kernel
  have parked : (reached keepTwo openedMeanwhile).idle.allows 27 = false := by decide +kernel
  have limit : (reached keepTwo openedMeanwhile).idle.limit = usizeMax :=
    ((holds openedMeanwhile (List.prefix_refl _) rest).off off).1
  rw [Idle.allows, limit] at parked
  exact absurd parked (by decide)

/-- The connections are opened once the monitor is done. -/
theorem idle_consistent_afterwards :
    ConsistentAtRest keepTwo
      (enteredIdle ++ List.replicate 6 (.run 1 true) ++ whole (.noteUplink syn) 2 8 ++
        whole (.noteUplink syn) 3 6 ++ whole (.noteUplink syn) 4 9) :=
  idle_consistent (by decide +kernel)

end Idling

end Csqtt
