/-
Module: Csqtt.Proofs.IdleEpochs
Purpose: The generation offset between two resets: it only counts up, a lost path moves
  it on at most once from each epoch, and only for a worker that joined that epoch.
Trusted boundary: none
Main exports: JustReset, bumped, JoinedEarlier, Allowed, EpochsKept, epochs_kept
-/
import Csqtt.Engine.Idle
import Mathlib.Tactic.Linarith

namespace Csqtt

/-!
### Words
-/

theorem toNat_add_one {word : U64} (room : word ≠ BitVec.allOnes 64) :
    (word + 1).toNat = word.toNat + 1 := by
  have bound : word.toNat ≠ 2 ^ 64 - 1 := by
    intro full
    exact room (BitVec.eq_of_toNat_eq (full.trans BitVec.toNat_allOnes.symm))
  bv_omega

/-- Before a joined slot there is room for one more. -/
theorem room_of_joined {joined current : U64} (some : joined ≠ 0) (own : joined - 1 = current) :
    current.toNat + 1 < 2 ^ 64 := by
  bv_omega

theorem toNat_saturatingAdd_one {current : U64} (room : current.toNat + 1 < 2 ^ 64) :
    (saturatingAdd current 1).toNat = current.toNat + 1 := by
  rw [toNat_saturatingAdd]
  exact Nat.min_eq_left (Nat.le_sub_one_of_lt room)

/-- The slot of an offset not ahead of the epoch that it names is that of the epoch. -/
theorem offset_of_slot {offset current : U64} (behind : offset.toNat ≤ current.toNat)
    (own : saturatingAdd offset 1 - 1 = current) : offset = current := by
  have slot : (saturatingAdd offset 1).toNat = min (offset.toNat + 1) (2 ^ 64 - 1) :=
    toNat_saturatingAdd offset 1
  bv_omega

/-- Whose function a point belongs to. -/
inductive IdleParty where
  | engine
  | monitor
  | uplink
  | joiner
  | loser
deriving DecidableEq, Repr

namespace IdlePoint

def party : IdlePoint → Option IdleParty
  | .ended => none
  | .resetTotal _ => some .engine
  | .resetDeclared _ => some .engine
  | .resetLimit => some .engine
  | .resetActive => some .engine
  | .resetOffset => some .engine
  | .resetAnnounce => some .engine
  | .resetJoined _ => some .engine
  | .monitorActive _ => some .monitor
  | .enterTotal => some .monitor
  | .enterSwap => some .monitor
  | .enterLimit => some .monitor
  | .enterDeclared => some .monitor
  | .enterOffset => some .monitor
  | .enterAnnounce => some .monitor
  | .enterPackets => some .monitor
  | .enterSyns => some .monitor
  | .uplinkActive _ => some .uplink
  | .uplinkClock _ => some .uplink
  | .windowHit _ _ => some .uplink
  | .windowRestart _ _ => some .uplink
  | .windowRestarted _ _ => some .uplink
  | .windowAdd _ _ => some .uplink
  | .exitSwap => some .uplink
  | .exitLimit => some .uplink
  | .exitTotal => some .uplink
  | .exitDeclared _ => some .uplink
  | .exitAnnounce => some .uplink
  | .payloadGeneration _ _ => some .joiner
  | .payloadOffset _ _ => some .joiner
  | .payloadDeclared _ _ _ => some .joiner
  | .payloadTotal _ _ _ => some .joiner
  | .registering _ _ => some .joiner
  | .pathJoined _ _ => some .joiner
  | .lostAllowed _ => some .loser
  | .lostSlot _ => some .loser
  | .lostCurrent _ _ => some .loser
  | .lostExchange _ _ => some .loser
  | .lostCleared _ => some .loser
  | .lostAnnounce => some .loser

/-- Behind the question whether the worker is allowed: the worker. -/
def behindCheck : IdlePoint → Option Nat
  | .lostSlot worker => some worker
  | .lostCurrent worker _ => some worker
  | .lostExchange worker _ => some worker
  | _ => none

/-- The offset read for a registration. -/
def offsetRead : IdlePoint → Option U64
  | .payloadDeclared _ _ offset => some offset
  | .payloadTotal _ _ offset => some offset
  | .registering _ registration => some registration.offset
  | .pathJoined _ offset => some offset
  | _ => none

theorem party_ite {condition : Prop} [Decidable condition] {first second : IdlePoint}
    {party : Option IdleParty} (one : first.party = none ∨ first.party = party)
    (other : second.party = none ∨ second.party = party) :
    (if condition then first else second).party = none ∨
      (if condition then first else second).party = party := by
  split
  · exact one
  · exact other

end IdlePoint

namespace Idle

variable (config : IdleConfig) (answered : Bool) (self : Idle)

/-- A function goes on inside itself, or ends. -/
theorem perform_party (point : IdlePoint) :
    (self.perform config answered point).2.party = none ∨
      (self.perform config answered point).2.party = point.party := by
  have missed (nowMs : Nat) (window : ExitWindow) :
      (notHit nowMs window).party = none ∨ (notHit nowMs window).party = some .uplink := by
    cases window with
    | syns => exact Or.inr rfl
    | packets => exact Or.inl rfl
  cases point with
  | ended => exact Or.inl rfl
  | resetJoined slot =>
      rw [perform]
      split
      · exact Or.inr rfl
      · exact Or.inl rfl
  | windowRestarted window nowMs => exact IdlePoint.party_ite (Or.inr rfl) (missed nowMs window)
  | windowAdd window nowMs => exact IdlePoint.party_ite (Or.inr rfl) (missed nowMs window)
  | windowHit window nowMs => exact IdlePoint.party_ite (Or.inr rfl) (Or.inr rfl)
  | payloadDeclared worker generation offset =>
      exact IdlePoint.party_ite (Or.inr rfl) (Or.inr rfl)
  | monitorActive quietFor => exact IdlePoint.party_ite (Or.inr rfl) (Or.inl rfl)
  | enterTotal => exact IdlePoint.party_ite (Or.inl rfl) (Or.inr rfl)
  | enterSwap => exact IdlePoint.party_ite (Or.inl rfl) (Or.inr rfl)
  | uplinkActive packet => exact IdlePoint.party_ite (Or.inr rfl) (Or.inl rfl)
  | exitSwap => exact IdlePoint.party_ite (Or.inr rfl) (Or.inl rfl)
  | registering worker registration => exact IdlePoint.party_ite (Or.inr rfl) (Or.inl rfl)
  | lostAllowed worker => exact IdlePoint.party_ite (Or.inr rfl) (Or.inl rfl)
  | lostSlot worker =>
      rw [perform]
      split
      · exact Or.inl rfl
      · exact IdlePoint.party_ite (Or.inl rfl) (Or.inr rfl)
  | lostCurrent worker joined => exact IdlePoint.party_ite (Or.inl rfl) (Or.inr rfl)
  | lostExchange worker current =>
      rw [perform]
      split
      · exact Or.inr rfl
      · exact Or.inl rfl
  | enterSyns => exact Or.inl rfl
  | exitAnnounce => exact Or.inl rfl
  | pathJoined worker offset => exact Or.inl rfl
  | lostAnnounce => exact Or.inl rfl
  | _ => exact Or.inr rfl

/-- The offset moves where idle mode is entered and where a lost path moves it on, apart
from a reset. -/
theorem perform_genOffset {point : IdlePoint} (later : point.party ≠ some .engine) :
    (self.perform config answered point).1.genOffset = self.genOffset ∨
      (point = .enterOffset ∧
        (self.perform config answered point).1.genOffset = self.genOffset + 1) ∨
      ∃ worker, point = .lostExchange worker self.genOffset ∧
        (self.perform config answered point).1.genOffset = saturatingAdd self.genOffset 1 := by
  cases point with
  | resetOffset => exact absurd rfl later
  | enterOffset => exact Or.inr (Or.inl ⟨rfl, rfl⟩)
  | lostExchange worker current =>
      rw [perform]
      split
      · next same => exact Or.inr (Or.inr ⟨worker, by rw [same], by rw [same]⟩)
      · exact Or.inl rfl
  | pathJoined worker offset =>
      rw [perform]
      split
      · exact Or.inl rfl
      · exact Or.inl rfl
  | resetJoined slot => exact absurd rfl later
  | windowRestart window nowMs => cases window <;> exact Or.inl rfl
  | windowRestarted window nowMs => cases window <;> exact Or.inl rfl
  | windowAdd window nowMs => cases window <;> exact Or.inl rfl
  | _ => exact Or.inl rfl

/-- A slot is written by its worker's join, and cleared. -/
theorem perform_joined {point : IdlePoint} (later : point.party ≠ some .engine) {worker : Nat}
    {slot : U64} (here : (self.perform config answered point).1.joined[worker]? = some slot) :
    slot = 0 ∨ self.joined[worker]? = some slot ∨
      ∃ offset, point = .pathJoined worker offset ∧ slot = saturatingAdd offset 1 := by
  cases point with
  | resetJoined other => exact absurd rfl later
  | pathJoined other offset =>
      rw [perform] at here
      split at here
      · by_cases same : other = worker
        · subst same
          rw [List.getElem?_set_self'] at here
          obtain ⟨_, -, rfl⟩ := Option.map_eq_some_iff.mp here
          exact Or.inr (Or.inr ⟨offset, rfl, rfl⟩)
        · rw [List.getElem?_set_ne same] at here
          exact Or.inr (Or.inl here)
      · exact Or.inr (Or.inl here)
  | lostCleared other =>
      rw [perform] at here
      by_cases same : other = worker
      · subst same
        rw [List.getElem?_set_self'] at here
        obtain ⟨_, -, rfl⟩ := Option.map_eq_some_iff.mp here
        exact Or.inl rfl
      · rw [List.getElem?_set_ne same] at here
        exact Or.inr (Or.inl here)
  | lostExchange other current =>
      rw [perform] at here
      split at here
      · exact Or.inr (Or.inl here)
      · exact Or.inr (Or.inl here)
  | windowRestart window nowMs => cases window <;> exact Or.inr (Or.inl here)
  | windowRestarted window nowMs => cases window <;> exact Or.inr (Or.inl here)
  | windowAdd window nowMs => cases window <;> exact Or.inr (Or.inl here)
  | _ => exact Or.inr (Or.inl here)

/-- The statics when a reset has only the slots left to clear. -/
def restarted (self : Idle) (totalWorkers : Nat) : Idle :=
  { self with
    totalWorkers := totalWorkers
    declared := totalWorkers
    limit := usizeMax
    active := false
    genOffset := 0
    announce := 0 }

variable {config answered self} {point : IdlePoint}

theorem party_of_perform {party : IdleParty}
    (next : (self.perform config answered point).2.party = some party) :
    point.party = some party := by
  rcases self.perform_party config answered point with none | same
  · rw [none] at next
    cases next
  · exact same.symm.trans next

/-- A worker registers with an offset that it has just read. -/
theorem perform_offsetRead {offset : U64}
    (next : (self.perform config answered point).2.offsetRead = some offset) :
    point.offsetRead = some offset ∨ offset = self.genOffset := by
  have party : (self.perform config answered point).2.party = some .joiner := by
    revert next
    cases (self.perform config answered point).2 with
    | payloadDeclared _ _ _ => exact fun _ => rfl
    | payloadTotal _ _ _ => exact fun _ => rfl
    | registering _ _ => exact fun _ => rfl
    | pathJoined _ _ => exact fun _ => rfl
    | _ => exact nofun
  have own := party_of_perform party
  cases point with
  | payloadGeneration worker base => cases next
  | payloadOffset worker generation => exact Or.inr (Option.some.inj next).symm
  | payloadDeclared worker generation offset =>
      rw [perform] at next
      split at next
      · exact Or.inl next
      · exact Or.inl next
  | payloadTotal worker generation offset => exact Or.inl next
  | registering worker registration =>
      rw [perform] at next
      split at next
      · exact Or.inl next
      · cases next
  | pathJoined worker offset => cases next
  | _ => cases own

/-- The way of a lost path: it ends early, or goes on with what it has read. -/
theorem perform_loser (config : IdleConfig) (answered : Bool) (self : Idle)
    (own : point.party = some .loser) :
    (self.perform config answered point).2 = .ended ∨
    (∃ worker, point = .lostAllowed worker ∧ self.allows worker = true ∧
      (self.perform config answered point).2 = .lostSlot worker) ∨
    (∃ worker joined, point = .lostSlot worker ∧ self.joined[worker]? = some joined ∧
      joined ≠ 0 ∧ (self.perform config answered point).2 = .lostCurrent worker joined) ∨
    (∃ worker joined, point = .lostCurrent worker joined ∧ joined - 1 = self.genOffset ∧
      (self.perform config answered point).2 = .lostExchange worker self.genOffset) ∨
    (∃ worker, (self.perform config answered point).2 = .lostCleared worker) ∨
    (self.perform config answered point).2 = .lostAnnounce := by
  cases point with
  | lostAllowed worker =>
      rw [perform]
      split
      · next allowed => exact Or.inr (Or.inl ⟨worker, rfl, allowed, rfl⟩)
      · exact Or.inl rfl
  | lostSlot worker =>
      rw [perform]
      split
      · exact Or.inl rfl
      · next joined here =>
          split
          · exact Or.inl rfl
          · next joins => exact Or.inr (Or.inr (Or.inl ⟨worker, joined, rfl, here, joins, rfl⟩))
  | lostCurrent worker joined =>
      rw [perform]
      split
      · exact Or.inl rfl
      · next same =>
          exact Or.inr (Or.inr (Or.inr (Or.inl ⟨worker, joined, rfl, not_not.mp same, rfl⟩)))
  | lostExchange worker current =>
      rw [perform]
      split
      · exact Or.inr (Or.inr (Or.inr (Or.inr (Or.inl ⟨worker, rfl⟩))))
      · exact Or.inl rfl
  | lostCleared worker => exact Or.inr (Or.inr (Or.inr (Or.inr (Or.inr rfl))))
  | lostAnnounce => exact Or.inl rfl
  | _ => cases own

/-- The slot is looked at once. -/
theorem perform_lostCurrent {worker : Nat} {joined : U64}
    (next : (self.perform config answered point).2 = .lostCurrent worker joined) :
    self.joined[worker]? = some joined ∧ joined ≠ 0 := by
  have own : point.party = some .loser := party_of_perform (by rw [next]; rfl)
  rcases perform_loser config answered self own with
    on | ⟨_, -, -, on⟩ | ⟨_, _, -, here, joins, on⟩ | ⟨_, _, -, -, on⟩ | ⟨_, on⟩ | on
  · cases on.symm.trans next
  · cases on.symm.trans next
  · cases on.symm.trans next
    exact ⟨here, joins⟩
  · cases on.symm.trans next
  · cases on.symm.trans next
  · cases on.symm.trans next

/-- The exchange expects the epoch that the worker has joined. -/
theorem perform_lostExchange {worker : Nat} {current : U64}
    (next : (self.perform config answered point).2 = .lostExchange worker current) :
    ∃ joined, point = .lostCurrent worker joined ∧ joined - 1 = current := by
  have own : point.party = some .loser := party_of_perform (by rw [next]; rfl)
  rcases perform_loser config answered self own with
    on | ⟨_, -, -, on⟩ | ⟨_, _, -, -, -, on⟩ | ⟨_, joined, reads, same, on⟩ | ⟨_, on⟩ | on
  · cases on.symm.trans next
  · cases on.symm.trans next
  · cases on.symm.trans next
  · cases on.symm.trans next
    exact ⟨joined, reads, same⟩
  · cases on.symm.trans next
  · cases on.symm.trans next

/-- A worker gets behind the check if it is allowed. -/
theorem perform_behindCheck {worker : Nat}
    (next : (self.perform config answered point).2.behindCheck = some worker) :
    point.behindCheck = some worker ∨
      (point = .lostAllowed worker ∧ self.allows worker = true) := by
  have party : (self.perform config answered point).2.party = some .loser := by
    revert next
    cases (self.perform config answered point).2 with
    | lostSlot _ => exact fun _ => rfl
    | lostCurrent _ _ => exact fun _ => rfl
    | lostExchange _ _ => exact fun _ => rfl
    | _ => exact nofun
  rcases perform_loser config answered self (party_of_perform party) with
    on | ⟨_, rfl, allowed, on⟩ | ⟨_, _, rfl, -, -, on⟩ | ⟨_, _, rfl, -, on⟩ | ⟨_, on⟩ | on
  · rw [on] at next
    cases next
  · rw [on] at next
    cases next
    exact Or.inr ⟨rfl, allowed⟩
  · rw [on] at next
    exact Or.inl next
  · rw [on] at next
    exact Or.inl next
  · rw [on] at next
    cases next
  · rw [on] at next
    cases next

/-- Only the monitor takes leave away again. -/
theorem perform_allows (config : IdleConfig) (answered : Bool) (point : IdlePoint)
    {worker : Nat} (bounded : worker ≤ usizeMax) (allowed : self.allows worker = true) :
    (self.perform config answered point).1.allows worker = true ∨ point = .enterLimit := by
  cases point with
  | enterLimit => exact Or.inr rfl
  | resetLimit => exact Or.inl (decide_eq_true bounded)
  | exitLimit => exact Or.inl (decide_eq_true bounded)
  | resetJoined slot =>
      rw [perform]
      split
      · exact Or.inl allowed
      · exact Or.inl allowed
  | pathJoined other offset =>
      rw [perform]
      split
      · exact Or.inl allowed
      · exact Or.inl allowed
  | lostExchange other current =>
      rw [perform]
      split
      · exact Or.inl allowed
      · exact Or.inl allowed
  | windowRestart window nowMs => cases window <;> exact Or.inl allowed
  | windowRestarted window nowMs => cases window <;> exact Or.inl allowed
  | windowAdd window nowMs => cases window <;> exact Or.inl allowed
  | _ => exact Or.inl allowed

end Idle

namespace Idling

variable {config : IdleConfig}

/-- The state after a run from the given one. -/
def reachedFrom (config : IdleConfig) (state : Idling) (events : List IdleEvent) : Idling :=
  (Transducer.run (step config) state events).1

/-- The point that a thread is at. -/
def pointAt (state : Idling) (index : Nat) : Option IdlePoint :=
  state.tasks[index]?.map Thread.point

/-- A reset is over: the offset and the slots begin anew, and nobody is under way. The
limit is left open. -/
structure JustReset (state : Idling) : Prop where
  genOffset : state.idle.genOffset = 0
  joined : ∀ slot ∈ state.idle.joined, slot = 0
  ended : ∀ task ∈ state.tasks, task.point = .ended

/-- The epochs that the step moves the generation on from on behalf of a lost path. -/
def bumped (state : Idling) : IdleEvent → List U64
  | .run index _ =>
      match state.pointAt index with
      | some (.lostExchange _ current) =>
          if state.idle.genOffset = current then [current] else []
      | _ => []
  | _ => []

/-- The epochs that the step leaves, for whatever reason. -/
def left (config : IdleConfig) (state : Idling) (event : IdleEvent) : List U64 :=
  if (step config state event).1.idle.genOffset = state.idle.genOffset then []
  else [state.idle.genOffset]

/-- How often a run leaves the epoch. -/
def leavings (config : IdleConfig) (state : Idling) (events : List IdleEvent) (epoch : U64) : Nat :=
  (Transducer.collect (step config) (left config) state events).count epoch

/-- The monitor adds to an offset that is at the end of its range. -/
def overflows (state : Idling) : IdleEvent → Bool
  | .run index _ =>
      match state.pointAt index with
      | some .enterOffset => state.idle.genOffset == BitVec.allOnes 64
      | _ => false
  | _ => false

/-- The worker has noted that it joined the epoch. -/
def JoinedEarlier (config : IdleConfig) (state : Idling) (consumed : List IdleEvent)
    (worker : Nat) (epoch : U64) : Prop :=
  ∃ earlier index answered, earlier ++ [.run index answered] <+: consumed ∧
    (reachedFrom config state earlier).pointAt index = some (.pathJoined worker epoch)

/-- The monitor has lowered the limit since. -/
def Parked (config : IdleConfig) (state : Idling) (since consumed : List IdleEvent) : Prop :=
  ∃ earlier index answered, since <+: earlier ∧ earlier ++ [.run index answered] <+: consumed ∧
    (reachedFrom config state earlier).pointAt index = some .enterLimit

/-- The thread has found its worker allowed, and the worker still is, unless the monitor
has lowered the limit since. -/
def Allowed (config : IdleConfig) (state : Idling) (consumed : List IdleEvent)
    (index worker : Nat) : Prop :=
  ∃ earlier answered, earlier ++ [.run index answered] <+: consumed ∧
    (reachedFrom config state earlier).pointAt index = some (.lostAllowed worker) ∧
    (reachedFrom config state earlier).idle.allows worker = true ∧
    (worker ≤ usizeMax → (reachedFrom config state consumed).idle.allows worker = true ∨
      Parked config state earlier consumed)

/-- The epochs of a run: the offset stays or goes up by one; a lost path moves it on from
each epoch at most once, and only for a worker that has joined this epoch and was
allowed; and an epoch in which a worker that joined it is found lost is left exactly once,
however many others are lost with it. -/
structure EpochsKept (config : IdleConfig) (state : Idling) (events : List IdleEvent) : Prop where
  upwards : Transducer.AtEveryStep (step config) state events fun state event =>
    (step config state event).1.idle.genOffset = state.idle.genOffset ∨
      (step config state event).1.idle.genOffset.toNat = state.idle.genOffset.toNat + 1
  once : (Transducer.collect (step config) bumped state events).Nodup
  entitled : ∀ consumed index answered worker current,
    consumed ++ [.run index answered] <+: events →
    (reachedFrom config state consumed).pointAt index = some (.lostExchange worker current) →
    (reachedFrom config state consumed).idle.genOffset = current →
      JoinedEarlier config state consumed worker current ∧
        Allowed config state consumed index worker
  burst : ∀ consumed later index worker joined, consumed ++ later <+: events →
    (reachedFrom config state consumed).pointAt index = some (.lostCurrent worker joined) →
    joined - 1 = (reachedFrom config state consumed).idle.genOffset →
    (reachedFrom config state (consumed ++ later)).pointAt index = some .ended →
      leavings config (reachedFrom config state consumed) later (joined - 1) = 1

/-!
### What one step does
-/

theorem pointAt_of_getElem? {state : Idling} {index : Nat} {current : IdleTask}
    (here : state.tasks[index]? = some current) : state.pointAt index = some current.point := by
  rw [pointAt, here]
  rfl

theorem ran_tasks (state : Idling) (answered : Bool) (index : Nat) (current : IdleTask) :
    (state.ran config answered index current).tasks =
      Interleaving.advance state.tasks index
        { current with point := (state.idle.perform config answered current.point).2 } [] := rfl

/-- A step lets one thread go on, or leaves the statics and the threads as they are,
perhaps with a new one. -/
theorem step_cases (config : IdleConfig) (state : Idling) (event : IdleEvent) :
    (∃ index answered current, event = .run index answered ∧
      state.tasks[index]? = some current ∧
      (step config state event).1 = state.ran config answered index current) ∨
    ((step config state event).1.idle.genOffset = state.idle.genOffset ∧
      (step config state event).1.idle.joined = state.idle.joined ∧
      (step config state event).1.idle.limit = state.idle.limit ∧
      ((step config state event).1.tasks = state.tasks ∨
        ∃ operation, event = .begin operation ∧ (step config state event).1.tasks =
          state.tasks ++ [{ point := operation.point, tag := operation }])) := by
  cases event with
  | tick elapsed => exact Or.inr ⟨rfl, rfl, rfl, Or.inl rfl⟩
  | begin operation => exact Or.inr ⟨rfl, rfl, rfl, Or.inr ⟨operation, rfl, rfl⟩⟩
  | run index answered =>
      rw [step]
      split
      · exact Or.inr ⟨rfl, rfl, rfl, Or.inl rfl⟩
      · next current here => exact Or.inl ⟨index, answered, current, rfl, here, rfl⟩

/-- A thread in the pool was there, or has moved there, or is new. -/
theorem mem_step {state : Idling} {event : IdleEvent} {task : IdleTask}
    (mem : task ∈ (step config state event).1.tasks) :
    task ∈ state.tasks ∨
      (∃ before answered, before ∈ state.tasks ∧
        task.point = (state.idle.perform config answered before.point).2) ∨
      ∃ operation : IdleOperation, task.point = operation.point := by
  rcases step_cases config state event with
    ⟨index, answered, current, -, here, ran⟩ | ⟨-, -, -, same | ⟨operation, -, more⟩⟩
  · rw [ran] at mem
    rcases Interleaving.mem_advance mem with rfl | new | old
    · exact Or.inr (Or.inl ⟨current, answered, List.mem_of_getElem? here, rfl⟩)
    · cases new
    · exact Or.inl (List.mem_of_mem_eraseIdx old)
  · rw [same] at mem
    exact Or.inl mem
  · rw [more] at mem
    rcases List.mem_append.mp mem with old | new
    · exact Or.inl old
    · rw [List.mem_singleton.mp new]
      exact Or.inr (Or.inr ⟨operation, rfl⟩)

/-- The same of one place in the pool. -/
theorem pointAt_step {state : Idling} {event : IdleEvent} {index : Nat} {point : IdlePoint}
    (here : (step config state event).1.pointAt index = some point) :
    state.pointAt index = some point ∨
      (∃ answered before, event = .run index answered ∧ state.pointAt index = some before ∧
        point = (state.idle.perform config answered before).2 ∧
        (step config state event).1.idle = (state.idle.perform config answered before).1) ∨
      ∃ operation, event = .begin operation ∧ point = operation.point := by
  rcases step_cases config state event with
    ⟨other, answered, current, rfl, there, ran⟩ | ⟨-, -, -, same | ⟨operation, rfl, more⟩⟩
  · by_cases own : index = other
    · subst own
      refine Or.inr (Or.inl ⟨answered, current.point, rfl, pointAt_of_getElem? there, ?_, ?_⟩)
      · rw [ran, pointAt, ran_tasks, Interleaving.getElem?_advance_self there] at here
        exact (Option.some.inj here).symm
      · rw [ran]
        rfl
    · rw [ran, pointAt, ran_tasks, Interleaving.getElem?_advance_alone own] at here
      exact Or.inl here
  · rw [pointAt, same] at here
    exact Or.inl here
  · rw [pointAt, more] at here
    obtain ⟨task, there, rfl⟩ := Option.map_eq_some_iff.mp here
    rw [List.getElem?_append] at there
    split at there
    · exact Or.inl (pointAt_of_getElem? there)
    · rw [List.mem_singleton.mp (List.mem_of_getElem? there)]
      exact Or.inr (Or.inr ⟨operation, rfl, rfl⟩)

/-- A thread goes on when it is run, and is left where it is otherwise. -/
theorem pointAt_onward (config : IdleConfig) {state : Idling} {index : Nat} {point : IdlePoint}
    (here : state.pointAt index = some point) (event : IdleEvent) :
    (step config state event).1.pointAt index = some point ∨
      ∃ answered, (step config state event).1.idle = (state.idle.perform config answered point).1 ∧
        (step config state event).1.pointAt index =
          some (state.idle.perform config answered point).2 := by
  obtain ⟨task, there, rfl⟩ := Option.map_eq_some_iff.mp here
  rcases step_cases config state event with
    ⟨other, answered, current, -, present, ran⟩ | ⟨-, -, -, same | ⟨operation, -, more⟩⟩
  · by_cases own : index = other
    · subst own
      cases there.symm.trans present
      right
      refine ⟨answered, by rw [ran]; rfl, ?_⟩
      rw [ran, pointAt, ran_tasks, Interleaving.getElem?_advance_self present]
      rfl
    · left
      rw [ran, pointAt, ran_tasks, Interleaving.getElem?_advance_alone own]
      exact here
  · left
    rw [pointAt, same]
    exact here
  · left
    rw [pointAt, more, List.getElem?_append_left (List.getElem?_eq_some_iff.mp there).1]
    exact here

@[simp] theorem reachedFrom_nil (state : Idling) : reachedFrom config state [] = state := rfl

theorem reachedFrom_cons (state : Idling) (event : IdleEvent) (events : List IdleEvent) :
    reachedFrom config state (event :: events) =
      reachedFrom config (step config state event).1 events := rfl

@[simp] theorem reachedFrom_concat (state : Idling) (events : List IdleEvent)
    (event : IdleEvent) :
    reachedFrom config state (events ++ [event]) =
      (step config (reachedFrom config state events) event).1 := by
  rw [reachedFrom, Transducer.run_concat]
  rfl

theorem reachedFrom_append (state : Idling) (events later : List IdleEvent) :
    reachedFrom config state (events ++ later) =
      reachedFrom config (reachedFrom config state events) later := by
  rw [reachedFrom, Transducer.run_append]
  rfl

/-- A party that nobody under way and no operation begun belongs to stays away. -/
theorem absent_run {party : IdleParty} {state : Idling} {events : List IdleEvent}
    (none : ∀ task ∈ state.tasks, task.point.party ≠ some party)
    (unbegun : ∀ operation, .begin operation ∈ events → operation.point.party ≠ some party) :
    ∀ task ∈ (reachedFrom config state events).tasks, task.point.party ≠ some party := by
  induction events using List.reverseRecOn with
  | nil => exact none
  | append_singleton events event inductionHypothesis =>
      have before := inductionHypothesis fun operation mem =>
        unbegun operation (List.mem_append_left _ mem)
      rw [reachedFrom_concat]
      rcases step_cases config (reachedFrom config state events) event with
        ⟨index, answered, current, -, here, ran⟩ | ⟨-, -, -, same | ⟨operation, begins, more⟩⟩
      · rw [ran]
        apply Interleaving.forall_advance
        · intro other mem
          exact before other (List.mem_of_mem_eraseIdx mem)
        · intro next
          exact before current (List.mem_of_getElem? here) (Idle.party_of_perform next)
        · exact nofun
      · rw [same]
        exact before
      · rw [more]
        intro task mem
        rcases List.mem_append.mp mem with old | new
        · exact before task old
        · rw [List.mem_singleton.mp new]
          exact unbegun operation (begins ▸ List.mem_append_right _ (List.mem_singleton_self _))

/-!
### Where the slots come from
-/

/-- The slot is that of a join of the worker, with an offset that is not ahead. -/
def Noted (config : IdleConfig) (state : Idling) (consumed : List IdleEvent) (worker : Nat)
    (slot : U64) : Prop :=
  ∃ offset, slot = saturatingAdd offset 1 ∧
    offset.toNat ≤ (reachedFrom config state consumed).idle.genOffset.toNat ∧
    JoinedEarlier config state consumed worker offset

/-- What a run knows of its slots and of its threads. -/
structure Traced (config : IdleConfig) (state : Idling) (consumed : List IdleEvent) : Prop where
  slots : ∀ worker slot, (reachedFrom config state consumed).idle.joined[worker]? = some slot →
    slot ≠ 0 → Noted config state consumed worker slot
  offsets : ∀ task ∈ (reachedFrom config state consumed).tasks, ∀ offset,
    task.point.offsetRead = some offset →
      offset.toNat ≤ (reachedFrom config state consumed).idle.genOffset.toNat
  reads : ∀ task ∈ (reachedFrom config state consumed).tasks, ∀ worker joined,
    task.point = .lostCurrent worker joined →
      joined ≠ 0 ∧ Noted config state consumed worker joined
  exchanges : ∀ task ∈ (reachedFrom config state consumed).tasks, ∀ worker current,
    task.point = .lostExchange worker current →
      ∃ joined, joined ≠ 0 ∧ joined - 1 = current ∧ Noted config state consumed worker joined
  checked : ∀ index point worker, (reachedFrom config state consumed).pointAt index = some point →
    point.behindCheck = some worker → Allowed config state consumed index worker

theorem traced_nil {state : Idling} (fresh : state.JustReset) : Traced config state [] where
  slots worker slot here joined := absurd (fresh.joined slot (List.mem_of_getElem? here)) joined
  offsets task mem offset read := by
    rw [fresh.ended task mem] at read
    cases read
  reads task mem worker joined current := by
    cases (fresh.ended task mem).symm.trans current
  exchanges task mem worker current exchange := by
    cases (fresh.ended task mem).symm.trans exchange
  checked index point worker here behind := by
    obtain ⟨task, there, rfl⟩ := Option.map_eq_some_iff.mp here
    rw [fresh.ended task (List.mem_of_getElem? there)] at behind
    cases behind

variable {state : Idling} {consumed : List IdleEvent}

theorem upwards_step (traced : Traced config state consumed)
    (steady : ∀ task ∈ (reachedFrom config state consumed).tasks, task.point.party ≠ some .engine)
    {event : IdleEvent} (room : overflows (reachedFrom config state consumed) event = false) :
    (reachedFrom config state (consumed ++ [event])).idle.genOffset =
        (reachedFrom config state consumed).idle.genOffset ∨
      (reachedFrom config state (consumed ++ [event])).idle.genOffset.toNat =
        (reachedFrom config state consumed).idle.genOffset.toNat + 1 := by
  rw [reachedFrom_concat]
  rcases step_cases config (reachedFrom config state consumed) event with
    ⟨index, answered, current, rfl, here, ran⟩ | ⟨same, -⟩
  · rw [ran]
    have mem := List.mem_of_getElem? here
    rcases (reachedFrom config state consumed).idle.perform_genOffset config answered
        (steady current mem) with same | ⟨enters, added⟩ | ⟨worker, exchange, added⟩
    · exact Or.inl same
    · right
      refine (congrArg BitVec.toNat added).trans (toNat_add_one ?_)
      rw [overflows, pointAt_of_getElem? here, enters] at room
      exact beq_eq_false_iff_ne.mp room
    · right
      obtain ⟨joined, joins, own, -⟩ := traced.exchanges current mem worker _ exchange
      exact (congrArg BitVec.toNat added).trans
        (toNat_saturatingAdd_one (room_of_joined joins own))
  · exact Or.inl same

theorem JoinedEarlier.concat {worker : Nat} {epoch : U64}
    (joined : JoinedEarlier config state consumed worker epoch) (event : IdleEvent) :
    JoinedEarlier config state (consumed ++ [event]) worker epoch := by
  obtain ⟨earlier, index, answered, within, here⟩ := joined
  exact ⟨earlier, index, answered, within.trans (List.prefix_append _ _), here⟩

theorem Noted.concat {worker : Nat} {slot : U64} (noted : Noted config state consumed worker slot)
    {event : IdleEvent}
    (upwards : (reachedFrom config state consumed).idle.genOffset.toNat ≤
      (reachedFrom config state (consumed ++ [event])).idle.genOffset.toNat) :
    Noted config state (consumed ++ [event]) worker slot := by
  obtain ⟨offset, own, behind, joined⟩ := noted
  exact ⟨offset, own, behind.trans upwards, joined.concat event⟩

theorem Allowed.concat {index worker : Nat} (allowed : Allowed config state consumed index worker)
    (event : IdleEvent) : Allowed config state (consumed ++ [event]) index worker := by
  obtain ⟨earlier, answered, within, here, may, since⟩ := allowed
  refine ⟨earlier, answered, within.trans (List.prefix_append _ _), here, may, fun bounded => ?_⟩
  rcases since bounded with still | ⟨middle, other, reply, after, before, parks⟩
  · rw [reachedFrom_concat]
    rcases step_cases config (reachedFrom config state consumed) event with
      ⟨other, reply, current, rfl, there, ran⟩ | ⟨-, -, same, -⟩
    · rw [ran]
      rcases Idle.perform_allows config reply current.point bounded still with on | parks
      · exact Or.inl on
      · exact Or.inr ⟨consumed, other, reply, (List.prefix_append _ _).trans within,
          List.prefix_refl _, parks ▸ pointAt_of_getElem? there⟩
    · rw [Idle.allows, same]
      exact Or.inl still
  · exact Or.inr ⟨middle, other, reply, after, before.trans (List.prefix_append _ _), parks⟩

/-- A slot written by the step is that of a join it makes. -/
theorem noted_concat (traced : Traced config state consumed)
    (steady : ∀ task ∈ (reachedFrom config state consumed).tasks, task.point.party ≠ some .engine)
    {event : IdleEvent}
    (upwards : (reachedFrom config state consumed).idle.genOffset.toNat ≤
      (reachedFrom config state (consumed ++ [event])).idle.genOffset.toNat)
    {worker : Nat} {slot : U64}
    (here : (reachedFrom config state (consumed ++ [event])).idle.joined[worker]? = some slot)
    (joined : slot ≠ 0) : Noted config state (consumed ++ [event]) worker slot := by
  rw [reachedFrom_concat] at here
  rcases step_cases config (reachedFrom config state consumed) event with
    ⟨index, answered, current, rfl, there, ran⟩ | ⟨-, same, -⟩
  · rw [ran] at here
    have mem := List.mem_of_getElem? there
    rcases Idle.perform_joined config answered _ (steady current mem) here with
      cleared | before | ⟨offset, joins, own⟩
    · exact absurd cleared joined
    · exact (traced.slots worker slot before joined).concat upwards
    · have behind := traced.offsets current mem offset (by rw [joins]; rfl)
      exact ⟨offset, own, behind.trans upwards, consumed, index, answered, List.prefix_refl _,
        joins ▸ pointAt_of_getElem? there⟩
  · rw [same] at here
    exact (traced.slots worker slot here joined).concat upwards

/-- The thread behind the check has been allowed. -/
theorem checked_concat (traced : Traced config state consumed) (event : IdleEvent)
    {index worker : Nat} {point : IdlePoint}
    (here : (reachedFrom config state (consumed ++ [event])).pointAt index = some point)
    (behind : point.behindCheck = some worker) :
    Allowed config state (consumed ++ [event]) index worker := by
  rw [reachedFrom_concat] at here
  rcases pointAt_step here with
    before | ⟨answered, before, rfl, there, rfl, idle⟩ | ⟨operation, rfl, rfl⟩
  · exact (traced.checked index point worker before behind).concat event
  · rcases Idle.perform_behindCheck behind with already | ⟨rfl, allowed⟩
    · exact (traced.checked index before worker there already).concat _
    · refine ⟨consumed, answered, List.prefix_refl _, there, allowed, fun _ => Or.inl ?_⟩
      rw [reachedFrom_concat, idle]
      exact allowed
  · cases operation with
    | _ => cases behind

theorem traced_concat (traced : Traced config state consumed)
    (steady : ∀ task ∈ (reachedFrom config state consumed).tasks, task.point.party ≠ some .engine)
    {event : IdleEvent} (room : overflows (reachedFrom config state consumed) event = false) :
    Traced config state (consumed ++ [event]) := by
  have upwards : (reachedFrom config state consumed).idle.genOffset.toNat ≤
      (reachedFrom config state (consumed ++ [event])).idle.genOffset.toNat := by
    rcases upwards_step traced steady room with same | more
    · rw [same]
    · rw [more]
      exact Nat.le_succ _
  constructor
  · intro worker slot here joined
    exact noted_concat traced steady upwards here joined
  · intro task mem offset read
    rw [reachedFrom_concat] at mem
    rcases mem_step mem with old | ⟨current, answered, here, next⟩ | ⟨operation, next⟩
    · exact (traced.offsets task old offset read).trans upwards
    · rw [next] at read
      rcases Idle.perform_offsetRead read with before | rfl
      · exact (traced.offsets current here offset before).trans upwards
      · exact upwards
    · rw [next] at read
      cases operation with
      | _ => cases read
  · intro task mem worker joined reads
    rw [reachedFrom_concat] at mem
    rcases mem_step mem with old | ⟨current, answered, here, next⟩ | ⟨operation, next⟩
    · exact (traced.reads task old worker joined reads).imp_right (·.concat upwards)
    · obtain ⟨slot, joins⟩ := Idle.perform_lostCurrent (next.symm.trans reads)
      exact ⟨joins, (traced.slots worker joined slot joins).concat upwards⟩
    · rw [next] at reads
      cases operation with
      | _ => cases reads
  · intro task mem worker current exchange
    rw [reachedFrom_concat] at mem
    rcases mem_step mem with old | ⟨before, answered, here, next⟩ | ⟨operation, next⟩
    · obtain ⟨joined, joins, own, noted⟩ := traced.exchanges task old worker current exchange
      exact ⟨joined, joins, own, noted.concat upwards⟩
    · obtain ⟨joined, reads, own⟩ := Idle.perform_lostExchange (next.symm.trans exchange)
      obtain ⟨joins, noted⟩ := traced.reads before here worker joined reads
      exact ⟨joined, joins, own, noted.concat upwards⟩
    · rw [next] at exchange
      cases operation with
      | _ => cases exchange
  · intro index point worker here behind
    exact checked_concat traced event here behind

/-!
### Whole runs
-/

/-- The offset has room wherever the monitor adds to it: it does not, or not at the end. -/
def Roomy (config : IdleConfig) (state : Idling) (events : List IdleEvent) : Prop :=
  (∀ quietFor, .begin (.monitor quietFor) ∉ events) ∨
    Transducer.AtEveryStep (step config) state events
      fun state event => overflows state event = false

variable {events : List IdleEvent}

theorem steady_run (fresh : state.JustReset) (unreset : ∀ total, .begin (.reset total) ∉ events)
    (within : consumed <+: events) :
    ∀ task ∈ (reachedFrom config state consumed).tasks, task.point.party ≠ some .engine := by
  apply absent_run
  · intro task mem
    rw [fresh.ended task mem]
    nofun
  · intro operation mem
    cases operation with
    | reset total => exact absurd (within.subset mem) (unreset total)
    | _ => nofun

theorem roomy_step (fresh : state.JustReset) (room : Roomy config state events)
    {event : IdleEvent} (within : consumed ++ [event] <+: events) :
    overflows (reachedFrom config state consumed) event = false := by
  rcases room with quiet | room
  · have away : ∀ task ∈ (reachedFrom config state consumed).tasks,
        task.point.party ≠ some .monitor := by
      apply absent_run
      · intro task mem
        rw [fresh.ended task mem]
        nofun
      · intro operation mem
        cases operation with
        | monitor quietFor =>
            exact absurd (within.subset (List.mem_append_left _ mem)) (quiet quietFor)
        | _ => nofun
    cases event with
    | run index answered =>
        rw [overflows]
        split
        · next enters =>
            obtain ⟨task, here, point⟩ := Option.map_eq_some_iff.mp enters
            exact absurd (by rw [point]; rfl) (away task (List.mem_of_getElem? here))
        · rfl
    | _ => rfl
  · exact room consumed event within

theorem traced_run (fresh : state.JustReset) (unreset : ∀ total, .begin (.reset total) ∉ events)
    (room : Roomy config state events) (within : consumed <+: events) :
    Traced config state consumed := by
  induction consumed using List.reverseRecOn with
  | nil => exact traced_nil fresh
  | append_singleton consumed event inductionHypothesis =>
      have shorter := (List.prefix_append _ _).trans within
      exact traced_concat (inductionHypothesis shorter) (steady_run fresh unreset shorter)
        (roomy_step fresh room within)

/-- A step bumps the epoch that is in force, and so leaves it. -/
theorem bumped_step (traced : Traced config state consumed) {event : IdleEvent} {epoch : U64}
    (mem : epoch ∈ bumped (reachedFrom config state consumed) event) :
    bumped (reachedFrom config state consumed) event = [epoch] ∧
      epoch = (reachedFrom config state consumed).idle.genOffset ∧
      (reachedFrom config state (consumed ++ [event])).idle.genOffset.toNat =
        epoch.toNat + 1 := by
  cases event with
  | run index answered =>
      rw [bumped] at mem ⊢
      split at mem
      · next worker current exchange =>
          split at mem
          · next same =>
              obtain rfl := List.mem_singleton.mp mem
              obtain ⟨task, here, point⟩ := Option.map_eq_some_iff.mp exchange
              obtain ⟨joined, joins, own, -⟩ :=
                traced.exchanges task (List.mem_of_getElem? here) worker _ point
              refine ⟨if_pos same, same.symm, ?_⟩
              rw [← toNat_saturatingAdd_one (room_of_joined joins own), reachedFrom_concat, step,
                here]
              change (Idle.perform config answered _ task.point).1.genOffset.toNat = _
              rw [point, Idle.perform, if_pos same]
          · cases mem
      · cases mem
  | _ => cases mem

/-- The epochs bumped so far are behind the one in force, and all different. -/
theorem bumps_run (fresh : state.JustReset) (unreset : ∀ total, .begin (.reset total) ∉ events)
    (room : Roomy config state events) (within : consumed <+: events) :
    (Transducer.collect (step config) bumped state consumed).Nodup ∧
      ∀ epoch ∈ Transducer.collect (step config) bumped state consumed,
        epoch.toNat < (reachedFrom config state consumed).idle.genOffset.toNat := by
  induction consumed using List.reverseRecOn with
  | nil => exact ⟨List.nodup_nil, nofun⟩
  | append_singleton consumed event inductionHypothesis =>
      have shorter := (List.prefix_append _ _).trans within
      obtain ⟨apart, behind⟩ := inductionHypothesis shorter
      have traced := traced_run fresh unreset room shorter
      have upwards := upwards_step traced (steady_run fresh unreset shorter)
        (roomy_step fresh room within)
      rw [Transducer.collect_concat]
      constructor
      · apply apart.append
        · change (bumped (reachedFrom config state consumed) event).Nodup
          cases here : bumped (reachedFrom config state consumed) event with
          | nil => exact List.nodup_nil
          | cons epoch rest =>
              have mem : epoch ∈ bumped (reachedFrom config state consumed) event :=
                here ▸ List.mem_cons_self
              rw [← here, (bumped_step traced mem).1]
              exact List.nodup_singleton epoch
        · intro epoch old new
          have inForce := (bumped_step traced new).2.1
          exact absurd (behind epoch old) (by rw [inForce]; exact Nat.lt_irrefl _)
      · intro epoch mem
        rcases List.mem_append.mp mem with old | new
        · have before := behind epoch old
          rcases upwards with same | more
          · rwa [same]
          · rw [more]
            exact Nat.lt_succ_of_lt before
        · rw [(bumped_step traced new).2.2]
          exact Nat.lt_succ_self _

/-- The epoch is in force, and the thread is about to leave it. -/
structure Leaving (config : IdleConfig) (state : Idling) (consumed later : List IdleEvent)
    (index worker : Nat) (joined : U64) : Prop where
  inForce : (reachedFrom config state (consumed ++ later)).idle.genOffset = joined - 1
  never : leavings config (reachedFrom config state consumed) later (joined - 1) = 0
  thread : (reachedFrom config state (consumed ++ later)).pointAt index =
      some (.lostCurrent worker joined) ∨
    (reachedFrom config state (consumed ++ later)).pointAt index =
      some (.lostExchange worker (joined - 1))

theorem leavings_concat (config : IdleConfig) (state : Idling) (consumed later : List IdleEvent)
    (event : IdleEvent) (epoch : U64) :
    leavings config (reachedFrom config state consumed) (later ++ [event]) epoch =
      leavings config (reachedFrom config state consumed) later epoch +
        (left config (reachedFrom config state (consumed ++ later)) event).count epoch := by
  rw [leavings, Transducer.collect_concat, List.count_append, reachedFrom_append]
  rfl

/-- The thread goes on to the exchange, or makes it. -/
theorem leaving_step {index worker : Nat} {joined : U64} {state : Idling} {event : IdleEvent}
    (inForce : state.idle.genOffset = joined - 1)
    (stays : (step config state event).1.idle.genOffset = joined - 1)
    (room : (joined - 1).toNat + 1 < 2 ^ 64)
    (thread : state.pointAt index = some (.lostCurrent worker joined) ∨
      state.pointAt index = some (.lostExchange worker (joined - 1))) :
    (step config state event).1.pointAt index = some (.lostCurrent worker joined) ∨
      (step config state event).1.pointAt index = some (.lostExchange worker (joined - 1)) := by
  rcases thread with reads | exchanges
  · rcases pointAt_onward config reads event with still | ⟨answered, -, next⟩
    · exact Or.inl still
    · right
      rw [next, Idle.perform, inForce, if_neg (not_not_intro rfl)]
  · rcases pointAt_onward config exchanges event with still | ⟨answered, idle, -⟩
    · exact Or.inr still
    · -- The exchange would have moved the offset.
      rw [idle, Idle.perform, if_pos inForce] at stays
      have moved := toNat_saturatingAdd_one room
      rw [show saturatingAdd (joined - 1) 1 = joined - 1 from stays] at moved
      exact absurd moved (Nat.ne_of_lt (Nat.lt_succ_self _))

/-- A worker that joined the epoch in force has been found lost: until its thread ends
the epoch is left, and once left it is not taken up again. -/
theorem burst_run (fresh : state.JustReset) (unreset : ∀ total, .begin (.reset total) ∉ events)
    (room : Roomy config state events) {later : List IdleEvent} {index worker : Nat} {joined : U64}
    (within : consumed ++ later <+: events)
    (lost : (reachedFrom config state consumed).pointAt index = some (.lostCurrent worker joined))
    (own : joined - 1 = (reachedFrom config state consumed).idle.genOffset) :
    Leaving config state consumed later index worker joined ∨
    ((joined - 1).toNat <
        (reachedFrom config state (consumed ++ later)).idle.genOffset.toNat ∧
      leavings config (reachedFrom config state consumed) later (joined - 1) = 1) := by
  have joins : joined ≠ 0 := by
    obtain ⟨task, here, point⟩ := Option.map_eq_some_iff.mp lost
    exact ((traced_run fresh unreset room ((List.prefix_append _ _).trans within)).reads task
      (List.mem_of_getElem? here) worker joined point).1
  induction later using List.reverseRecOn with
  | nil =>
      left
      constructor
      · rw [List.append_nil]
        exact own.symm
      · rfl
      · rw [List.append_nil]
        exact Or.inl lost
  | append_singleton later event inductionHypothesis =>
      rw [← List.append_assoc] at within
      have shorter := (List.prefix_append _ _).trans within
      have traced := traced_run fresh unreset room shorter
      have upwards := upwards_step traced (steady_run fresh unreset shorter)
        (roomy_step fresh room within)
      have leaves := leavings_concat config state consumed later event (joined - 1)
      rw [left, ← reachedFrom_concat] at leaves
      rw [List.append_assoc] at upwards leaves
      rcases inductionHypothesis shorter with waits | ⟨above, once⟩
      · rw [waits.never, waits.inForce, Nat.zero_add] at leaves
        rcases upwards with same | more
        · have stays := same.trans waits.inForce
          rw [if_pos stays] at leaves
          left
          refine ⟨stays, leaves, ?_⟩
          rw [← List.append_assoc, reachedFrom_concat] at stays ⊢
          exact leaving_step waits.inForce stays (room_of_joined joins rfl) waits.thread
        · right
          rw [waits.inForce] at more
          have moves : (reachedFrom config state (consumed ++ (later ++ [event]))).idle.genOffset ≠
              joined - 1 := by
            intro same
            rw [same] at more
            exact absurd more (Nat.ne_of_lt (Nat.lt_succ_self _))
          rw [if_neg moves, List.count_singleton_self] at leaves
          exact ⟨more ▸ Nat.lt_succ_self _, leaves⟩
      · right
        rw [once] at leaves
        rcases upwards with same | more
        · rw [if_pos same] at leaves
          exact ⟨same ▸ above, leaves⟩
        · refine ⟨above.trans (more ▸ Nat.lt_succ_self _), leaves.trans ?_⟩
          have other : (reachedFrom config state (consumed ++ later)).idle.genOffset ≠
              joined - 1 := by
            intro same
            rw [same] at above
            exact absurd above (Nat.lt_irrefl _)
          split
          · rfl
          · rw [List.count_singleton, if_neg (fun back => other (eq_of_beq back))]

/-- Between two resets, with any number of workers that join and lose their paths, the
epochs are kept. The monitor may come and go meanwhile, as long as it does not add to an
offset at the end of its range. -/
theorem epochs_kept {config : IdleConfig} {state : Idling} {events : List IdleEvent}
    (fresh : state.JustReset) (unreset : ∀ total, .begin (.reset total) ∉ events)
    (room : Roomy config state events) : EpochsKept config state events := by
  constructor
  · intro consumed event within
    have shorter := (List.prefix_append _ _).trans within
    have upwards := upwards_step (traced_run fresh unreset room shorter)
      (steady_run fresh unreset shorter) (roomy_step fresh room within)
    rw [reachedFrom_concat] at upwards
    exact upwards
  · exact (bumps_run fresh unreset room (List.prefix_refl events)).1
  · intro consumed index answered worker current within exchange inForce
    have traced := traced_run fresh unreset room ((List.prefix_append _ _).trans within)
    obtain ⟨task, here, point⟩ := Option.map_eq_some_iff.mp exchange
    obtain ⟨joined, joins, own, offset, slot, behind, noted⟩ :=
      traced.exchanges task (List.mem_of_getElem? here) worker current point
    rw [inForce] at behind
    have same : offset = current := offset_of_slot behind (slot ▸ own)
    exact ⟨same ▸ noted, traced.checked index _ worker exchange rfl⟩
  · intro consumed later index worker joined within lost own ended
    rcases burst_run fresh unreset room within lost own with waits | ⟨-, once⟩
    · rcases waits.thread with reads | exchanges
      · cases ended.symm.trans reads
      · cases ended.symm.trans exchanges
    · exact once

/-!
### A reset by itself
-/

/-- The last thread of the pool goes on. -/
theorem step_last (idle : Idle) (tasks : List IdleTask) (point : IdlePoint) (tag : IdleOperation) :
    (step config { idle := idle, tasks := tasks ++ [⟨point, tag⟩] }
        (.run tasks.length true)).1 =
      { idle := (idle.perform config true point).1
        tasks := tasks ++ [⟨(idle.perform config true point).2, tag⟩] } := by
  have here : (tasks ++ [⟨point, tag⟩])[tasks.length]? = some (Thread.mk point tag) :=
    List.getElem?_concat_length
  simp only [step, here, ran, Interleaving.advance, List.append_nil]
  rw [List.set_append_right _ _ le_rfl, Nat.sub_self]
  rfl

/-- The slots are cleared from the given one on. -/
theorem reset_slots (config : IdleConfig) (idle : Idle) (tasks : List IdleTask)
    (tag : IdleOperation) {slot remaining : Nat} (rest : slot + remaining = idle.joined.length) :
    let after := reachedFrom config { idle := idle, tasks := tasks ++ [⟨.resetJoined slot, tag⟩] }
      (List.replicate (remaining + 1) (.run tasks.length true))
    after.idle.genOffset = idle.genOffset ∧ after.tasks = tasks ++ [⟨.ended, tag⟩] ∧
      ∀ index value, after.idle.joined[index]? = some value →
        value = 0 ∨ index < slot ∧ idle.joined[index]? = some value := by
  induction remaining generalizing idle slot with
  | zero =>
      have outside : ¬ slot < idle.joined.length := rest ▸ Nat.lt_irrefl _
      rw [List.replicate_one, reachedFrom_cons, step_last, Idle.perform, if_neg outside]
      refine ⟨rfl, rfl, fun index value here => Or.inr ⟨?_, here⟩⟩
      exact (List.getElem?_eq_some_iff.mp here).1.trans_eq rest.symm
  | succ remaining inductionHypothesis =>
      have more : slot < idle.joined.length := by omega
      have others : slot + 1 + remaining = (idle.joined.set slot 0).length := by
        rw [List.length_set]
        omega
      obtain ⟨genOffset, threads, cleared⟩ := inductionHypothesis
        { idle with joined := idle.joined.set slot 0 } others
      rw [List.replicate_succ, reachedFrom_cons, step_last, Idle.perform, if_pos more]
      refine ⟨genOffset, threads, fun index value here => ?_⟩
      rcases cleared index value here with zero | ⟨before, old⟩
      · exact Or.inl zero
      · by_cases same : slot = index
        · subst same
          rw [List.getElem?_set_self more] at old
          exact Or.inl (Option.some.inj old).symm
        · rw [List.getElem?_set_ne same] at old
          exact Or.inr ⟨by omega, old⟩

/-- With nobody else under way a reset leaves everything as just reset. -/
theorem justReset_reset (config : IdleConfig) {state : Idling}
    (ended : ∀ task ∈ state.tasks, task.point = .ended) (totalWorkers : Nat) :
    (reachedFrom config state (.begin (.reset totalWorkers) ::
      List.replicate (state.idle.joined.length + 7) (.run state.tasks.length true))).JustReset := by
  have unrolled : List.replicate (state.idle.joined.length + 7)
      (IdleEvent.run state.tasks.length true) =
        List.replicate 6 (.run state.tasks.length true) ++
          List.replicate (state.idle.joined.length + 1) (.run state.tasks.length true) := by
    rw [List.replicate_append_replicate, Nat.add_comm 6]
  have begun : (step config state (.begin (.reset totalWorkers))).1 =
      { idle := state.idle
        tasks := state.tasks ++ [⟨.resetTotal totalWorkers, .reset totalWorkers⟩] } := rfl
  have stored : reachedFrom config (step config state (.begin (.reset totalWorkers))).1
      (List.replicate 6 (.run state.tasks.length true)) =
        { idle := state.idle.restarted totalWorkers
          tasks := state.tasks ++ [⟨.resetJoined 0, .reset totalWorkers⟩] } := by
    simp only [begun, List.replicate, reachedFrom_cons, reachedFrom_nil, step_last, Idle.perform,
      Idle.restarted]
  rw [unrolled, reachedFrom_cons, reachedFrom_append, stored]
  obtain ⟨genOffset, threads, cleared⟩ := reset_slots config
    (state.idle.restarted totalWorkers) state.tasks (.reset totalWorkers)
    (Nat.zero_add state.idle.joined.length)
  constructor
  · exact genOffset
  · intro value mem
    obtain ⟨index, here⟩ := List.getElem?_of_mem mem
    rcases cleared index value here with zero | ⟨before, -⟩
    · exact zero
    · cases before
  · rw [threads]
    intro task mem
    rcases List.mem_append.mp mem with old | new
    · exact ended task old
    · rw [List.mem_singleton.mp new]

/-- Four workers, just reset. -/
def fourWorkers : Idling where
  idle := { Idle.initial with totalWorkers := 4, declared := 4 }
  tasks := []

/-- Two workers join, and both lose their paths at once. -/
theorem epochs_kept_burst :
    EpochsKept { keep := 2, after := 180000 } fourWorkers
      [.begin (.register 1 7), .run 0 true, .run 0 true, .run 0 true, .run 0 true, .run 0 true,
        .begin (.register 2 7), .run 1 true, .run 1 true, .run 1 true, .run 1 true, .run 1 true,
        .begin (.notePathLost 1), .begin (.notePathLost 2), .run 2 true, .run 3 true, .run 2 true,
        .run 3 true, .run 2 true, .run 3 true, .run 2 true, .run 3 true, .run 2 true,
        .run 2 true] :=
  epochs_kept
    { genOffset := rfl
      joined := fun _ mem => List.eq_of_mem_replicate mem
      ended := nofun }
    (by simp) (Or.inl (by simp))

end Idling

end Csqtt
