/-
Module: Csqtt.Proofs.EngineIsolation
Purpose: When no engine changes what an engine started after it has published, over all
  interleavings of the shutdown of the one with the start-up of the other.
Trusted boundary: none
Main exports: ProcessSlot, EngineLife.ahead, EngineLife.frame, Lives.Behind, Lives.isolated_of_behind,
  Lives.gate_lost
-/
import Csqtt.Core.Transducer
import Csqtt.Engine.EngineLives

namespace Csqtt

inductive ProcessSlot where
  | engineCancel
  | enginePause
  | uplink
  | bridgeReady
  | packetPort
  | tunIp
  | tunDns
  | idle
  | log
deriving DecidableEq, Repr

/-- The slot holds the same before and after. -/
def ProcessSlot.Same (before after : ProcessSlots) : ProcessSlot → Prop
  | .engineCancel => after.engineCancel = before.engineCancel
  | .enginePause => after.enginePause = before.enginePause
  | .uplink => after.uplink = before.uplink
  | .bridgeReady => after.bridgeReady = before.bridgeReady
  | .packetPort => after.packetPort = before.packetPort
  | .tunIp => after.tunIp = before.tunIp
  | .tunDns => after.tunDns = before.tunDns
  | .idle => after.idle = before.idle
  | .log => after.accepting = before.accepting

theorem ProcessSlot.same_self (slots : ProcessSlots) (slot : ProcessSlot) :
    slot.Same slots slots := by
  cases slot with
  | _ => exact rfl

/-- The order of the points. -/
def LifePoint.rank : LifePoint → Nat
  | .bootstrapping => 0
  | .publishing => 1
  | .pausing => 2
  | .clearing => 3
  | .emptying => 4
  | .dispatching => 5
  | .installing => 6
  | .readying => 7
  | .porting _ => 8
  | .resetting _ => 9
  | .running => 10
  | .cancelling => 11
  | .unpausing => 12
  | .draining => 13
  | .joining => 14
  | .aborting => 15
  | .closing => 16
  | .returned => 17

namespace EngineLife

/-- The engine may yet install a bridge, and its writer take it down. -/
def bridging (self : EngineLife) : Bool :=
  self.point.rank ≤ 5 && self.arguments.mode == .bridge || self.point == .installing ||
    self.point == .readying || self.writer == .writing || self.writer == .clearing

/-- A store to the slot is ahead of the engine. -/
def ahead (self : EngineLife) : ProcessSlot → Bool
  | .engineCancel => self.point.rank ≤ 1
  | .enginePause => self.point.rank ≤ 12
  | .uplink => self.point.rank ≤ 4 || self.bridging || self.writer == .emptying
  | .bridgeReady => self.point.rank ≤ 3 || self.bridging
  | .packetPort => self.point.rank ≤ 8
  | .tunIp => self.point.rank ≤ 15
  | .tunDns => self.point.rank ≤ 15
  | .idle => self.point.rank ≤ 15
  | .log => self.point.rank ≤ 16

/-- The engine has stored to the slot what it goes by until its own shutdown begins. -/
def published (self : EngineLife) (slots : ProcessSlots) (slot : ProcessSlot) : Bool :=
  self.point.rank ≤ 10 && match slot with
    | .engineCancel => 2 ≤ self.point.rank
    | .enginePause => 3 ≤ self.point.rank
    | .uplink => 7 ≤ self.point.rank && self.arguments.mode == .bridge
    | .bridgeReady => 8 ≤ self.point.rank && self.arguments.mode == .bridge
    | .packetPort => 9 ≤ self.point.rank
    | .tunIp => self.ipStored
    | .tunDns => self.dnsStored
    | .idle => self.point == .running
    | .log => slots.accepting

/-- The slot that the step stores to, if it is taken. -/
def stores (self : EngineLife) : LifeChoice → Option ProcessSlot
  | .go =>
      match self.point with
      | .publishing => some .engineCancel
      | .pausing => some .enginePause
      | .clearing => some .bridgeReady
      | .emptying => some .uplink
      | .installing => some .uplink
      | .readying => some .bridgeReady
      | .porting _ => some .packetPort
      | .resetting _ => some .idle
      | .unpausing => some .enginePause
      | .closing => some .log
      | _ => none
  | .writer =>
      match self.writer with
      | .clearing => some .bridgeReady
      | .emptying => some .uplink
      | _ => none
  | .config _ => some .tunIp
  | .dns => some .tunDns
  | .idle _ _ => some .idle
  | _ => none

variable {engine : EngineLife} {number : Nat} {slots : ProcessSlots} {choice : LifeChoice}
  {after : ProcessSlots × EngineLife} {slot : ProcessSlot}

theorem frame_advance (next : engine.advance number slots = some after)
    (apart : engine.stores .go ≠ some slot) : slot.Same slots after.1 := by
  cases there : engine.point with
  | resetting point =>
    simp only [advance, there] at next
    simp only [stores, there] at apart
    split at next
    · cases next
      exact slot.same_self slots
    · cases next
      cases slot with
      | idle => exact absurd rfl apart
      | _ => exact rfl
  | running | draining | joining | aborting =>
    simp only [advance, there] at next
    split at next
    · cases next
      exact slot.same_self slots
    · cases next
  | dispatching | returned =>
    simp only [advance, there] at next
    cases next
  | _ =>
    simp only [advance, there] at next
    simp only [stores, there] at apart
    cases next
    cases slot <;> first | exact rfl | exact absurd rfl apart

theorem frame_write (next : engine.write slots = some after)
    (apart : engine.stores .writer ≠ some slot) : slot.Same slots after.1 := by
  cases there : engine.writer with
  | absent | ended =>
    simp only [write, there] at next
    cases next
  | writing =>
    simp only [write, there] at next
    split at next
    · cases next
      exact slot.same_self slots
    · cases next
  | _ =>
    simp only [write, there] at next
    simp only [stores, there] at apart
    cases next
    cases slot <;> first | exact rfl | exact absurd rfl apart

theorem frame_configure {config : Text} (next : engine.configure slots config = some after)
    (apart : slot ≠ .tunIp) : slot.Same slots after.1 := by
  rw [configure] at next
  split at next
  · split at next
    · cases next
      exact slot.same_self slots
    · cases next
      cases slot with
      | tunIp => exact absurd rfl apart
      | _ => exact rfl
  · cases next

/-- A step changes no slot but the one that it stores to. -/
theorem frame (next : engine.next number slots choice = some after)
    (apart : engine.stores choice ≠ some slot) : slot.Same slots after.1 := by
  cases choice with
  | go => exact frame_advance next apart
  | writer => exact frame_write next apart
  | config config => exact frame_configure next fun same => apart (congrArg some same.symm)
  | fail | quit | completed | cancel | dispatched | call =>
    simp only [EngineLife.next] at next
    split at next
    · cases next
      exact slot.same_self slots
    · cases next
  | dns | idle =>
    simp only [EngineLife.next] at next
    split at next
    · cases next
    · split at next
      · cases next
        cases slot <;> first | exact rfl | exact absurd rfl apart
      · cases next

theorem rank_of_tasked {point : LifePoint} (tasked : tasked point = true) :
    10 ≤ point.rank ∧ point.rank ≤ 15 := by
  cases point with
  | running | cancelling | unpausing | draining | joining | aborting =>
    simp only [LifePoint.rank]
    decide
  | _ => cases tasked

/-- A step is ahead of the engine that takes it. -/
theorem ahead_of_stores (next : engine.next number slots choice = some after)
    (stored : engine.stores choice = some slot) : engine.ahead slot = true := by
  cases choice with
  | go =>
    cases there : engine.point <;> simp only [stores, there] at stored <;> cases stored <;>
      simp [ahead, bridging, there, LifePoint.rank]
  | writer =>
    cases there : engine.writer <;> simp only [stores, there] at stored <;> cases stored <;>
      simp [ahead, bridging, there]
  | config config =>
    cases stored
    simp only [EngineLife.next, configure] at next
    split at next
    · next admitted => exact decide_eq_true (rank_of_tasked admitted.1).2
    · cases next
  | dns | idle =>
    cases stored
    simp only [EngineLife.next] at next
    split at next
    · cases next
    · split at next
      · next tasked => exact decide_eq_true (rank_of_tasked tasked).2
      · cases next
  | _ => cases stored

/-- What a step does to the course of an engine's life. -/
structure Onward (engine moved : EngineLife) : Prop where
  arguments : moved.arguments = engine.arguments
  rank : engine.point.rank ≤ moved.point.rank
  bridging : moved.bridging = true → engine.bridging = true
  emptying : moved.writer = .emptying → engine.bridging = true ∨ engine.writer = .emptying

theorem onward_of_same {moved : EngineLife} (arguments : moved.arguments = engine.arguments)
    (point : moved.point = engine.point) (writer : moved.writer = engine.writer) :
    Onward engine moved where
  arguments := arguments
  rank := Nat.le_of_eq (congrArg _ point.symm)
  bridging ahead := by
    rw [EngineLife.bridging, arguments, point, writer] at ahead
    exact ahead
  emptying there := Or.inr (writer.symm.trans there)

/-- Behind the start of the bridge only its writer is left of it. -/
theorem onward_of_past {moved : EngineLife} {before point : LifePoint}
    (there : engine.point = before) (here : moved.point = point)
    (rank : before.rank ≤ point.rank) (past : 8 ≤ point.rank)
    (arguments : moved.arguments = engine.arguments) (writer : moved.writer = engine.writer) :
    Onward engine moved where
  arguments := arguments
  rank := by
    rw [there, here]
    exact rank
  bridging ahead := by
    have early : ¬ moved.point.rank ≤ 5 := by
      rw [here]
      omega
    have apart : ∀ other : LifePoint, other.rank < 8 → moved.point ≠ other := by
      rintro other before rfl
      rw [here] at before
      omega
    simp only [EngineLife.bridging, early, beq_iff_eq, writer, Bool.or_eq_true, Bool.and_eq_true,
      apart .installing (by decide), apart .readying (by decide)] at ahead ⊢
    rcases ahead with (((⟨impossible, -⟩ | impossible) | impossible) | writing) | clearing
    · cases impossible
    · cases impossible
    · cases impossible
    · exact Or.inl (Or.inr writing)
    · exact Or.inr clearing
  emptying there := Or.inr (writer.symm.trans there)

theorem onward_advance (next : engine.advance number slots = some after) :
    Onward engine after.2 := by
  cases there : engine.point with
  | resetting point =>
    simp only [advance, there] at next
    split at next
    · cases next
      exact onward_of_past there rfl (Nat.le_of_ble_eq_true rfl)
        (Nat.le_of_ble_eq_true rfl) rfl rfl
    · cases next
      exact onward_of_past there rfl (Nat.le_refl _) (Nat.le_succ _) rfl rfl
  | readying =>
    simp only [advance, there] at next
    cases next
    refine ⟨rfl, ?_, fun _ => ?_, fun impossible => by cases impossible⟩
    · simp [there, LifePoint.rank]
    · simp [EngineLife.bridging, there]
  | running | draining | joining | aborting =>
    simp only [advance, there] at next
    split at next
    · cases next
      exact onward_of_past there rfl (Nat.le_of_ble_eq_true rfl)
        (Nat.le_of_ble_eq_true rfl) rfl rfl
    · cases next
  | dispatching | returned =>
    simp only [advance, there] at next
    cases next
  | _ =>
    simp only [advance, there] at next
    cases next
    refine ⟨rfl, ?_, ?_, Or.inr⟩
    · simp [there, LifePoint.rank]
    · simp [EngineLife.bridging, there, LifePoint.rank]

theorem onward_dispatch (there : engine.point = .dispatching) (port : U16) :
    Onward engine (engine.dispatch port) := by
  cases mode : engine.arguments.mode with
  | _ =>
    simp only [dispatch, mode]
    refine ⟨rfl, ?_, ?_, Or.inr⟩
    · simp [there, LifePoint.rank]
    · simp [EngineLife.bridging, there, mode, LifePoint.rank]

theorem onward_write (next : engine.write slots = some after) : Onward engine after.2 := by
  cases there : engine.writer with
  | absent | ended =>
    simp only [write, there] at next
    cases next
  | writing =>
    simp only [write, there] at next
    split at next
    · cases next
      refine ⟨rfl, Nat.le_refl _, fun _ => ?_, fun impossible => by cases impossible⟩
      simp [EngineLife.bridging, there]
    · cases next
  | clearing =>
    simp only [write, there] at next
    cases next
    have bridging : engine.bridging = true := by simp [EngineLife.bridging, there]
    exact ⟨rfl, Nat.le_refl _, fun _ => bridging, fun _ => Or.inl bridging⟩
  | emptying =>
    simp only [write, there] at next
    cases next
    refine ⟨rfl, Nat.le_refl _, ?_, fun impossible => by cases impossible⟩
    simp [EngineLife.bridging, there]

theorem onward_configure {config : Text} (next : engine.configure slots config = some after) :
    Onward engine after.2 := by
  rw [configure] at next
  split at next
  · split at next
    · cases next
      exact onward_of_same rfl rfl rfl
    · cases next
      exact onward_of_same rfl rfl rfl
  · cases next

theorem onward_next (next : engine.next number slots choice = some after) :
    Onward engine after.2 := by
  cases choice with
  | go => exact onward_advance next
  | writer => exact onward_write next
  | config config => exact onward_configure next
  | dispatched port =>
    simp only [EngineLife.next] at next
    split at next
    · next there =>
        cases next
        exact onward_dispatch there port
    · cases next
  | fail =>
    simp only [EngineLife.next] at next
    split at next
    · next there =>
        cases next
        rcases there with there | ⟨there, -⟩
        · exact onward_of_past there rfl (Nat.le_of_ble_eq_true rfl)
            (Nat.le_of_ble_eq_true rfl) rfl rfl
        · exact onward_of_past there rfl (Nat.le_of_ble_eq_true rfl)
            (Nat.le_of_ble_eq_true rfl) rfl rfl
    · cases next
  | quit =>
    simp only [EngineLife.next] at next
    split at next
    · next there =>
        cases next
        exact onward_of_past there rfl (Nat.le_of_ble_eq_true rfl)
          (Nat.le_of_ble_eq_true rfl) rfl rfl
    · cases next
  | completed =>
    simp only [EngineLife.next] at next
    split at next
    · next there =>
        cases next
        exact onward_of_past there.1 rfl (Nat.le_of_ble_eq_true rfl)
          (Nat.le_of_ble_eq_true rfl) rfl rfl
    · cases next
  | cancel | call =>
    simp only [EngineLife.next] at next
    split at next
    · cases next
      exact onward_of_same rfl rfl rfl
    · cases next
  | dns | idle =>
    simp only [EngineLife.next] at next
    split at next
    · cases next
    · split at next
      · cases next
        exact onward_of_same rfl rfl rfl
      · cases next

/-- What is behind an engine stays behind it. -/
theorem ahead_of_onward {moved : EngineLife} (onward : Onward engine moved)
    (still : moved.ahead slot = true) : engine.ahead slot = true := by
  have lower {bound : Nat} (within : decide (moved.point.rank ≤ bound) = true) :
      decide (engine.point.rank ≤ bound) = true :=
    decide_eq_true (onward.rank.trans (of_decide_eq_true within))
  cases slot with
  | uplink =>
    simp only [ahead, Bool.or_eq_true, beq_iff_eq] at still ⊢
    rcases still with (within | bridging) | emptying
    · exact Or.inl (Or.inl (lower within))
    · exact Or.inl (Or.inr (onward.bridging bridging))
    · exact (onward.emptying emptying).imp_left Or.inr
  | bridgeReady =>
    simp only [ahead, Bool.or_eq_true] at still ⊢
    exact still.imp lower onward.bridging
  | _ => exact lower still

/-- The slot that the step publishes, if it is taken. -/
def publishes (self : EngineLife) : LifeChoice → Option ProcessSlot
  | .go =>
      match self.point with
      | .publishing => some .engineCancel
      | .pausing => some .enginePause
      | .installing => some .uplink
      | .readying => some .bridgeReady
      | .porting _ => some .packetPort
      | .resetting point => if point = .ended then some .idle else none
      | _ => none
  | .config config => if (tunconf config).isSome then some .tunIp else none
  | .dns => some .tunDns
  | _ => none

theorem published_of_same {moved : EngineLife} {later : ProcessSlots}
    (published : moved.published later slot = true) (arguments : moved.arguments = engine.arguments)
    (point : moved.point = engine.point) (ip : moved.ipStored = engine.ipStored)
    (dns : moved.dnsStored = engine.dnsStored) (open' : later.accepting = slots.accepting) :
    engine.published slots slot = true := by
  cases slot with
  | _ =>
    simp only [EngineLife.published, arguments, point, ip, dns, open'] at published ⊢
    exact published

/-- Nothing is published behind the end of the running. -/
theorem not_published {late : LifePoint} (there : engine.point = late) (past : 10 < late.rank) :
    engine.published slots slot = false := by
  rw [← there] at past
  simp only [EngineLife.published, decide_eq_false (Nat.not_le_of_lt past), Bool.false_and]

/-- An engine that goes on with its start-up publishes at most what the step says. -/
theorem published_advance (next : engine.advance number slots = some after)
    (published : after.2.published after.1 slot = true) :
    engine.published slots slot = true ∨ engine.publishes .go = some slot := by
  cases there : engine.point with
  | running | draining | joining | aborting =>
    simp only [advance, there] at next
    split at next
    · cases next
      rw [not_published rfl (Nat.lt_of_succ_le (Nat.le_of_ble_eq_true rfl))] at published
      cases published
    · cases next
  | dispatching | returned =>
    simp only [advance, there] at next
    cases next
  | resetting point =>
    simp only [advance, there] at next
    split at next
    · next done =>
        cases next
        simp only [publishes, there, done]
        cases slot <;> simp_all [EngineLife.published, LifePoint.rank]
    · cases next
      refine Or.inl ?_
      cases slot <;> simp_all [EngineLife.published, LifePoint.rank]
  | _ =>
    simp only [advance, there] at next
    cases next
    simp only [publishes, there]
    cases slot <;> simp_all [EngineLife.published, LifePoint.rank]

theorem published_dispatch {port : U16} (there : engine.point = .dispatching)
    (published : (engine.dispatch port).published slots slot = true) :
    engine.published slots slot = true := by
  cases mode : engine.arguments.mode with
  | _ =>
    simp only [dispatch, mode] at published
    cases slot <;> simp_all [EngineLife.published, LifePoint.rank]

theorem published_configure {config : Text} (next : engine.configure slots config = some after)
    (published : after.2.published after.1 slot = true) :
    engine.published slots slot = true ∨ engine.publishes (.config config) = some slot := by
  rw [configure] at next
  split at next
  · split at next
    · cases next
      exact Or.inl (published_of_same published rfl rfl rfl rfl rfl)
    · next told =>
        cases next
        simp only [publishes, told]
        cases slot with
        | tunIp => exact Or.inr rfl
        | _ => exact Or.inl published
  · cases next

theorem published_write (next : engine.write slots = some after)
    (published : after.2.published after.1 slot = true) : engine.published slots slot = true := by
  rw [write] at next
  split at next
  · split at next
    · cases next
      exact published_of_same published rfl rfl rfl rfl rfl
    · cases next
  · cases next
    exact published_of_same published rfl rfl rfl rfl rfl
  · cases next
    exact published_of_same published rfl rfl rfl rfl rfl
  · cases next

/-- A log that is closed stays closed. -/
theorem accepting_next (next : engine.next number slots choice = some after)
    (still : after.1.accepting = true) : slots.accepting = true := by
  by_cases stored : engine.stores choice = some .log
  · cases choice with
    | go =>
      cases there : engine.point with
      | closing =>
        simp only [EngineLife.next, advance, there] at next
        cases next
        cases still
      | _ => simp [stores, there] at stored
    | writer =>
      cases there : engine.writer with
      | _ => simp [stores, there] at stored
    | _ => cases stored
  · have same : after.1.accepting = slots.accepting := frame next stored
    rw [← same]
    exact still

/-- For what an engine has published only the log matters of the slots. -/
theorem published_of_accepting {later : ProcessSlots}
    (published : engine.published later slot = true)
    (open' : later.accepting = true → slots.accepting = true) :
    engine.published slots slot = true := by
  cases slot with
  | log =>
    obtain ⟨early, accepting⟩ := Bool.and_eq_true_iff.mp published
    exact Bool.and_eq_true_iff.mpr ⟨early, open' accepting⟩
  | _ => exact published

/-- What an engine has published behind a step it had published before, or the step does. -/
theorem published_next (next : engine.next number slots choice = some after)
    (published : after.2.published after.1 slot = true) :
    engine.published slots slot = true ∨ engine.publishes choice = some slot := by
  cases choice with
  | go => exact published_advance next published
  | writer => exact Or.inl (published_write next published)
  | config config => exact published_configure next published
  | dispatched port =>
    simp only [EngineLife.next] at next
    split at next
    · next there =>
        cases next
        exact Or.inl (published_dispatch there published)
    · cases next
  | fail | quit | completed =>
    simp only [EngineLife.next] at next
    split at next
    · cases next
      rw [not_published rfl (Nat.lt_of_succ_le (Nat.le_of_ble_eq_true rfl))] at published
      cases published
    · cases next
  | cancel | call =>
    simp only [EngineLife.next] at next
    split at next
    · cases next
      exact Or.inl (published_of_same published rfl rfl rfl rfl rfl)
    · cases next
  | dns =>
    simp only [EngineLife.next] at next
    split at next
    · cases next
    · split at next
      · cases next
        cases slot with
        | tunDns => exact Or.inr rfl
        | _ => exact Or.inl published
      · cases next
  | idle index answered =>
    simp only [EngineLife.next] at next
    split at next
    · cases next
    · split at next
      · cases next
        exact Or.inl (published_of_same published rfl rfl rfl rfl rfl)
      · cases next

end EngineLife

namespace Lives

variable {state : Lives} {events : List LivesEvent}

/-- No step of an engine changes a slot that an engine started after it goes by. -/
def Isolated (self : Lives) : LivesEvent → Prop
  | .engine number choice => ∀ index newer, number < index →
      self.engines[index]? = some newer → ∀ slot, newer.published self.slots slot = true →
        slot.Same self.slots (self.step (.engine number choice)).1.slots
  | _ => True

/-- An engine is started when those before it are over, or the log is closed already, and it
publishes a slot when none of those before it has a store to that slot ahead. -/
def Behind (self : Lives) : LivesEvent → Prop
  | .start _ => self.slots.accepting = true → ∀ older ∈ self.engines, older.point = .returned
  | .engine index choice => ∀ engine ∈ self.engines[index]?,
      (engine.next index self.slots choice).isSome = true → ∀ slot ∈ engine.publishes choice,
        ∀ older ∈ self.engines.take index, older.ahead slot = false
  | _ => True

instance : DecidableRel Behind := fun self event =>
  match event with
  | .start _ => inferInstanceAs (Decidable (self.slots.accepting = true →
      ∀ older ∈ self.engines, older.point = .returned))
  | .engine index choice => inferInstanceAs (Decidable (∀ engine ∈ self.engines[index]?,
      (engine.next index self.slots choice).isSome = true → ∀ slot ∈ engine.publishes choice,
        ∀ older ∈ self.engines.take index, older.ahead slot = false))
  | .stop => isTrue trivial
  | .tick _ => isTrue trivial
  | .noteUplink _ => isTrue trivial
  | .uplink _ => isTrue trivial

/-- Those before an engine have no store ahead to what it has published. -/
def Settled (self : Lives) : Prop :=
  ∀ (number index : Nat) (older newer : EngineLife), number < index →
    self.engines[number]? = some older → self.engines[index]? = some newer →
      ∀ slot, newer.published self.slots slot = true → older.ahead slot = false

theorem settled_initial : Settled initial := by
  intro number index older newer _ here
  cases here

theorem ahead_of_returned {engine : EngineLife} (done : engine.point = .returned)
    (slot : ProcessSlot) : slot = .log → engine.ahead slot = false := by
  rintro rfl
  simp [EngineLife.ahead, done, LifePoint.rank]

/-- A new engine has published nothing, but that it needs the log. -/
theorem published_spawned {arguments : EngineArguments} {slots : ProcessSlots} {slot : ProcessSlot}
    (published : (EngineLife.spawned arguments).published slots slot = true) :
    slot = .log ∧ slots.accepting = true := by
  cases slot with
  | log => exact ⟨rfl, published⟩
  | uplink | bridgeReady =>
    simp [EngineLife.published, EngineLife.spawned, LifePoint.rank] at published
  | _ => cases published

theorem Settled.started (settled : Settled state) {arguments : EngineArguments}
    (behind : state.Behind (.start arguments)) :
    Settled (state.csqttEngineStart arguments) := by
  intro number index older newer before there here slot published
  rw [csqttEngineStart] at there here
  have sameLog : (state.csqttEngineStart arguments).slots.accepting = state.slots.accepting := rfl
  rcases Nat.lt_or_ge index state.engines.length with old | new
  · rw [List.getElem?_append_left old] at here
    rw [List.getElem?_append_left (before.trans old)] at there
    exact settled number index older newer before there here slot
      (EngineLife.published_of_same published rfl rfl rfl rfl sameLog.symm)
  · obtain ⟨bound, -⟩ := List.getElem?_eq_some_iff.mp here
    rw [List.length_append, List.length_singleton] at bound
    have last : index = state.engines.length := Nat.le_antisymm (Nat.le_of_lt_succ bound) new
    rw [last, List.getElem?_concat_length] at here
    cases here
    rw [last] at before
    rw [List.getElem?_append_left before] at there
    obtain ⟨rfl, accepting⟩ := published_spawned published
    exact ahead_of_returned (behind accepting older (List.mem_of_getElem? there)) .log rfl

/-- A stop leaves every engine where it is. -/
theorem Settled.halted (settled : Settled state) : Settled state.csqttEngineStop := by
  intro number index older newer before there here slot published
  rw [csqttEngineStop, List.getElem?_mapIdx] at there here
  obtain ⟨older, first, rfl⟩ := Option.map_eq_some_iff.mp there
  obtain ⟨newer, second, rfl⟩ := Option.map_eq_some_iff.mp here
  have published' : newer.published state.slots slot = true :=
    EngineLife.published_of_same published rfl rfl rfl rfl rfl
  have behind := settled number index older newer before first second slot published'
  cases slot with
  | _ => exact behind

/-- The step lemma of an engine: one before another only gets further, and one behind others
publishes only what they are past. -/
theorem Settled.moved {index : Nat} {choice : LifeChoice} {engine : EngineLife}
    {after : ProcessSlots × EngineLife} (settled : Settled state)
    (behind : state.Behind (.engine index choice)) (here : state.engines[index]? = some engine)
    (next : engine.next index state.slots choice = some after) :
    Settled (state.moved index after) := by
  have bound := (List.getElem?_eq_some_iff.mp here).1
  intro number other older newer before there later slot published
  simp only [Lives.moved] at there later
  by_cases first : number = index
  · subst first
    rw [List.getElem?_set_self bound] at there
    rw [List.getElem?_set_ne (Nat.ne_of_lt before)] at later
    cases there
    have published' := EngineLife.published_of_accepting published (EngineLife.accepting_next next)
    have past := settled number other engine newer before here later slot published'
    cases still : after.2.ahead slot with
    | false => rfl
    | true =>
      rw [EngineLife.ahead_of_onward (EngineLife.onward_next next) still] at past
      cases past
  · rw [List.getElem?_set_ne (Ne.symm first)] at there
    by_cases second : other = index
    · subst second
      rw [List.getElem?_set_self bound] at later
      cases later
      rcases EngineLife.published_next next published with published' | publishes
      · exact settled number other older engine before there here slot published'
      · have earlier : older ∈ state.engines.take other :=
          List.mem_of_getElem? ((List.getElem?_take_of_lt before).trans there)
        exact behind engine here (by rw [next]; rfl) slot publishes older earlier
    · rw [List.getElem?_set_ne (Ne.symm second)] at later
      have published' :=
        EngineLife.published_of_accepting published (EngineLife.accepting_next next)
      exact settled number other older newer before there later slot published'

theorem Settled.step (settled : Settled state) (event : LivesEvent) (behind : state.Behind event) :
    Settled (state.step event).1 := by
  cases event with
  | start arguments => exact settled.started behind
  | stop => exact settled.halted
  | engine index choice =>
    rw [Lives.step]
    cases here : state.engines[index]? with
    | none => exact settled
    | some engine =>
      cases next : engine.next index state.slots choice with
      | none => simpa only [next] using settled
      | some after =>
        simp only [next]
        exact settled.moved behind here next
  | tick elapsed => exact settled
  | noteUplink packet => exact settled
  | uplink index =>
    rw [Lives.step]
    split
    · exact settled
    · exact settled

/-- An engine changes only what it has a store to ahead. -/
theorem isolated_of_settled (settled : Settled state) (event : LivesEvent) :
    state.Isolated event := by
  cases event with
  | engine number choice =>
    intro index newer before later slot published
    rw [Lives.step]
    cases here : state.engines[number]? with
    | none => exact slot.same_self _
    | some engine =>
      cases next : engine.next number state.slots choice with
      | none =>
        simp only [next]
        exact slot.same_self _
      | some after =>
        simp only [next]
        have past := settled number index engine newer before here later slot published
        apply EngineLife.frame next
        intro stored
        rw [EngineLife.ahead_of_stores next stored] at past
        cases past
  | _ => exact trivial

/-- However the lives of the engines interleave, where each engine is started and publishes only
behind what those before it still have to store, none of them changes what a later one goes
by. -/
theorem isolated_of_behind (events : List LivesEvent)
    (behind : Transducer.AtEveryStep step initial events Behind) :
    Transducer.AtEveryStep step initial events Isolated := by
  intro consumed event within
  have before := behind.of_prefix ((List.prefix_append consumed [event]).trans within)
  exact isolated_of_settled (@Transducer.invariant_of_atEveryStep _ _ _ step Settled Behind
    (fun _ event settled behind => Settled.step settled event behind) _ _ settled_initial
      before) event

def defaultArguments : EngineArguments where
  mode := .udp
  workers := 9
  idle := { keep := 2, after := 180 }

/-- An engine that only checks the call hashes is over before the next is started. -/
theorem isolated_of_checked :
    Transducer.AtEveryStep step initial
      [.start defaultArguments, .engine 0 .quit, .start defaultArguments,
        .engine 1 .go, .engine 1 .go, .engine 1 .go, .engine 0 .go] Isolated :=
  isolated_of_behind _ (by decide)

/-- An engine that runs is stopped, and before it comes to clear the gate another is started
and publishes its own. -/
def recycled : List LivesEvent :=
  [.start defaultArguments] ++ List.replicate 5 (.engine 0 .go) ++
    [.engine 0 (.dispatched 40000)] ++ List.replicate 137 (.engine 0 .go) ++
      [.stop, .engine 0 .go, .engine 0 .go, .start defaultArguments] ++
        List.replicate 3 (.engine 1 .go)

theorem gate_lost : ¬ Transducer.AtEveryStep step initial (recycled ++ [.engine 0 .go]) Isolated := by
  intro isolated
  have kept := isolated recycled (.engine 0 .go) (List.prefix_refl _)
  have there : ((Transducer.run step initial recycled).1.engines[1]?).map
      (fun newer => newer.published (Transducer.run step initial recycled).1.slots .enginePause) =
        some true := by decide +kernel
  obtain ⟨newer, here, published⟩ := Option.map_eq_some_iff.mp there
  have same := kept 1 newer Nat.one_pos here .enginePause published
  exact absurd same (by unfold ProcessSlot.Same; decide +kernel)

end Lives

end Csqtt
