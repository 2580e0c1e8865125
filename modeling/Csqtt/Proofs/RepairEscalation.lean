/-
Module: Csqtt.Proofs.RepairEscalation
Purpose: Restarts and credential rotations over any order of repairs, alive messages and
  sessions that become ready, and the confirmations that are forgotten.
Trusted boundary: none
Main exports: accepted, Accepts, Confirmed, Forgotten, escalation_exact
-/
import Csqtt.Engine.Repair
import Mathlib.Data.List.Basic
import Mathlib.Data.List.Chain

namespace Csqtt

def StreamRepairCommand.names (self : StreamRepairCommand) (worker : Nat) : Bool :=
  self.workerIds.any (·.toNat == worker)

namespace RepairCall

/-- The sequence, if the call is a repair of the worker. -/
def repairs (worker : Nat) : RepairCall → Option U64
  | .repair command => if command.names worker then some command.sequence else none
  | _ => none

def alives (worker : Nat) : RepairCall → Option U64
  | .alive command => if command.names worker then some command.sequence else none
  | _ => none

end RepairCall

/-- The worker's slot after a call. -/
def RepairSlot.hear (worker : Nat) (self : RepairSlot) : RepairCall → RepairSlot
  | .repair command => if command.names worker then (self.repair command.sequence).1 else self
  | .alive command => if command.names worker then self.alive command.sequence else self
  | .ready other => if other = worker then self.ready else self

/-!
### One slot at a time

A worker that is named twice in one command is no better off than one named once.
-/

namespace RepairSlot

theorem repair_lastSequence (self : RepairSlot) (sequence : U64) :
    (self.repair sequence).1.lastSequence =
      if sequence ≤ self.lastSequence then self.lastSequence else sequence := by
  rw [repair]
  split
  · rfl
  · split <;> rfl

theorem repair_readySequence (self : RepairSlot) (sequence : U64) :
    (self.repair sequence).1.readySequence = self.readySequence := by
  rw [repair]
  split
  · rfl
  · split <;> rfl

theorem repair_refused {self : RepairSlot} {sequence : U64}
    (late : sequence ≤ self.lastSequence) : (self.repair sequence).1 = self := by
  rw [repair, if_pos late]

theorem repair_again (self : RepairSlot) (sequence : U64) :
    ((self.repair sequence).1.repair sequence).1 = (self.repair sequence).1 := by
  apply repair_refused
  rw [repair_lastSequence]
  split
  · assumption
  · exact BitVec.le_refl _

theorem alive_again (self : RepairSlot) (sequence : U64) :
    (self.alive sequence).alive sequence = self.alive sequence := by
  by_cases later : self.readySequence < sequence
  · simp [alive, later]
  · simp [alive, later]

end RepairSlot

namespace RepairState

theorem slot_applyRepairTo (sequence : U64) (state : RepairState) (result : RepairApplyResult)
    (named : U16) (worker : Nat) :
    (applyRepairTo sequence (state, result) named).1.slot worker =
      if named.toNat = worker then (state.slot worker).map fun slot => (slot.repair sequence).1
      else state.slot worker := by
  rw [applyRepairTo]
  split
  · next absent =>
      split
      · next same => rw [← same, absent, Option.map_none]
      · rfl
  · rw [slot_update]
    simp only [eq_comm]

theorem slot_applyAliveTo (sequence : U64) (state : RepairState) (applied : Nat) (named : U16)
    (worker : Nat) :
    (applyAliveTo sequence (state, applied) named).1.slot worker =
      if named.toNat = worker then (state.slot worker).map (·.alive sequence)
      else state.slot worker := by
  rw [applyAliveTo]
  split
  · next absent =>
      split
      · next same => rw [← same, absent, Option.map_none]
      · rfl
  · rw [slot_update]
    simp only [eq_comm]

/-- A loop over the named workers in which a second turn changes nothing. -/
theorem slot_foldl {Result : Type} {one : RepairState × Result → U16 → RepairState × Result}
    {worker : Nat} (change : RepairSlot → RepairSlot)
    (again : ∀ slot, change (change slot) = change slot)
    (each : ∀ state result named, (one (state, result) named).1.slot worker =
      if named.toNat = worker then (state.slot worker).map change else state.slot worker)
    (workers : List U16) (state : RepairState) (result : Result) :
    (workers.foldl one (state, result)).1.slot worker =
      if workers.any (·.toNat == worker) then (state.slot worker).map change
      else state.slot worker := by
  have twice (found : Option RepairSlot) : (found.map change).map change = found.map change := by
    cases found with
    | none => rfl
    | some slot => rw [Option.map_some, Option.map_some, again]
  induction workers generalizing state result with
  | nil => rfl
  | cons named workers inductionHypothesis =>
      have rest := inductionHypothesis (one (state, result) named).1 (one (state, result) named).2
      rw [Prod.mk.eta, each] at rest
      rw [List.foldl_cons, rest, List.any_cons]
      by_cases same : named.toNat = worker
      · rw [if_pos same, twice]
        simp [same]
      · simp [same]

theorem slot_call (self : RepairState) (call : RepairCall) (worker : Nat) :
    (self.call call).slot worker = (self.slot worker).map (·.hear worker call) := by
  cases call with
  | repair command =>
      have looped := slot_foldl (fun slot => (slot.repair command.sequence).1)
        (fun slot => slot.repair_again _)
        (fun state result named => slot_applyRepairTo _ state result named worker)
        command.workerIds self { restarts := 0, credentialResets := 0 }
      by_cases named : command.names worker = true
      · simp only [RepairSlot.hear, if_pos named]
        exact looped.trans (if_pos named)
      · simp only [RepairSlot.hear, if_neg named, Option.map_id']
        exact looped.trans (if_neg named)
  | alive command =>
      have looped := slot_foldl (·.alive command.sequence)
        (fun slot => slot.alive_again _)
        (fun state result named => slot_applyAliveTo _ state result named worker)
        command.workerIds self 0
      by_cases named : command.names worker = true
      · simp only [RepairSlot.hear, if_pos named]
        exact looped.trans (if_pos named)
      · simp only [RepairSlot.hear, if_neg named, Option.map_id']
        exact looped.trans (if_neg named)
  | ready other =>
      rw [RepairState.call, markReady, slot_update]
      by_cases same : other = worker
      · simp [RepairSlot.hear, same]
      · simp [RepairSlot.hear, same, Ne.symm same]

theorem slot_new (desiredCount worker : Nat) :
    (new desiredCount).slot worker =
      if worker ≠ 0 ∧ worker ≤ desiredCount then some .new else none := by
  by_cases zero : worker = 0
  · simp [slot, zero]
  · simp [slot, new, zero, List.getElem?_replicate, Nat.lt_succ_iff]

/-- A worker with a slot keeps it. -/
theorem slot_after {desiredCount worker : Nat} (real : worker ≠ 0) (known : worker ≤ desiredCount)
    (calls : List RepairCall) :
    (after desiredCount calls).slot worker =
      some (calls.foldl (RepairSlot.hear worker) .new) := by
  induction calls using List.reverseRecOn with
  | nil => rw [after, List.foldl_nil, slot_new, if_pos ⟨real, known⟩, List.foldl_nil]
  | append_singleton calls call inductionHypothesis =>
      rw [after, List.foldl_append, List.foldl_append]
      exact (slot_call _ call worker).trans (congrArg _ inductionHypothesis)

end RepairState

/-!
### What the server has said
-/

/-- A repair counts if its sequence is larger than all that counted before. -/
def accept (worker : Nat) (earlier : List U64) (call : RepairCall) : List U64 :=
  match call.repairs worker with
  | none => earlier
  | some sequence =>
      if earlier.all fun other => decide (other < sequence) then earlier ++ [sequence]
      else earlier

/-- The sequences that counted, in the order of the calls. -/
def accepted (worker : Nat) (calls : List RepairCall) : List U64 :=
  calls.foldl (accept worker) []

def Accepts (worker : Nat) (calls : List RepairCall) (call : RepairCall) : Prop :=
  ∃ sequence, call.repairs worker = some sequence ∧ ∀ other ∈ accepted worker calls,
    other < sequence

/-- Some alive message reached that far. -/
def AliveFor (worker : Nat) (calls : List RepairCall) (sequence : U64) : Prop :=
  ∃ call ∈ calls, ∃ reached, call.alives worker = some reached ∧ sequence ≤ reached

/-- The worker became ready after the sequence had been accepted. -/
def ReadySince (worker : Nat) (calls : List RepairCall) (sequence : U64) : Prop :=
  ∃ early late, calls = early ++ .ready worker :: late ∧ sequence ∈ accepted worker early

def Confirmed (worker : Nat) (calls : List RepairCall) (sequence : U64) : Prop :=
  ReadySince worker calls sequence ∨ AliveFor worker calls sequence

/-- The sequence was confirmed before it came, and the worker last became ready in
between. -/
def Forgotten (worker : Nat) (calls : List RepairCall) (sequence : U64) : Prop :=
  ∃ early late, calls = early ++ .ready worker :: late ∧ .ready worker ∉ late ∧
    sequence ∉ accepted worker early ∧ AliveFor worker early sequence ∧
      ¬ AliveFor worker late sequence

/-- The call is a repair that is accepted, and the one accepted before was never
confirmed. -/
def Due (worker : Nat) (calls : List RepairCall) (call : RepairCall) : Prop :=
  Accepts worker calls call ∧
    ∃ previous, (accepted worker calls).getLast? = some previous ∧
      ¬ Confirmed worker calls previous

/-- The last sequence that counted, zero before the first. -/
def lastAccepted (worker : Nat) (calls : List RepairCall) : U64 :=
  (accepted worker calls).getLast?.getD 0

/-- What has become of a confirmation: it is in force if it came after the worker was last
ready, or if the worker was ready after the sequence. -/
def InForce (worker : Nat) (calls : List RepairCall) (sequence : U64) : Prop :=
  (∃ early late, calls = early ++ .ready worker :: late ∧ .ready worker ∉ late ∧
    (sequence ≤ lastAccepted worker early ∨ AliveFor worker late sequence)) ∨
  (.ready worker ∉ calls ∧ AliveFor worker calls sequence)

section Accepted

variable {worker : Nat} {calls : List RepairCall} {call : RepairCall} {sequence : U64}

theorem accepted_concat :
    accepted worker (calls ++ [call]) = accept worker (accepted worker calls) call := by
  rw [accepted, List.foldl_append]
  rfl

theorem accepted_of_accepts (named : call.repairs worker = some sequence)
    (larger : ∀ other ∈ accepted worker calls, other < sequence) :
    accepted worker (calls ++ [call]) = accepted worker calls ++ [sequence] := by
  rw [accepted_concat, accept, named]
  exact if_pos (by simpa using larger)

theorem accepted_of_not_accepts (not : ¬ Accepts worker calls call) :
    accepted worker (calls ++ [call]) = accepted worker calls := by
  rw [accepted_concat, accept]
  split
  · rfl
  · next sequence named =>
      exact if_neg fun larger => not ⟨sequence, named, by simpa using larger⟩

theorem accepted_appended (calls late : List RepairCall) :
    accepted worker calls <+: accepted worker (calls ++ late) := by
  induction late using List.reverseRecOn with
  | nil => rw [List.append_nil]
  | append_singleton late call inductionHypothesis =>
      rw [← List.append_assoc]
      apply inductionHypothesis.trans
      by_cases accepts : Accepts worker (calls ++ late) call
      · obtain ⟨sequence, named, larger⟩ := accepts
        rw [accepted_of_accepts named larger]
        exact List.prefix_append _ _
      · rw [accepted_of_not_accepts accepts]

theorem repairs_ne_zero (named : call.repairs worker = some sequence) : sequence ≠ 0 := by
  cases call with
  | repair command =>
      rw [RepairCall.repairs] at named
      split at named
      · cases named
        exact command.numbered
      · cases named
  | alive command => cases named
  | ready other => cases named

theorem lastAccepted_of_accepts (named : call.repairs worker = some sequence)
    (larger : ∀ other ∈ accepted worker calls, other < sequence) :
    lastAccepted worker (calls ++ [call]) = sequence := by
  rw [lastAccepted, accepted_of_accepts named larger, List.getLast?_concat, Option.getD_some]

theorem lastAccepted_of_not_accepts (not : ¬ Accepts worker calls call) :
    lastAccepted worker (calls ++ [call]) = lastAccepted worker calls := by
  rw [lastAccepted, accepted_of_not_accepts not, lastAccepted]

theorem lastAccepted_eq {previous : U64}
    (last : (accepted worker calls).getLast? = some previous) :
    lastAccepted worker calls = previous := by
  rw [lastAccepted, last, Option.getD_some]

theorem le_lastAccepted {other : U64} (mem : other ∈ accepted worker calls) :
    other ≤ lastAccepted worker calls := by
  induction calls using List.reverseRecOn with
  | nil => cases mem
  | append_singleton calls call inductionHypothesis =>
      by_cases accepts : Accepts worker calls call
      · obtain ⟨sequence, named, larger⟩ := accepts
        rw [lastAccepted_of_accepts named larger]
        rw [accepted_of_accepts named larger] at mem
        rcases List.mem_append.mp mem with earlier | new
        · exact BitVec.le_of_lt (larger other earlier)
        · rw [List.mem_singleton.mp new]
          exact BitVec.le_refl _
      · rw [lastAccepted_of_not_accepts accepts]
        rw [accepted_of_not_accepts accepts] at mem
        exact inductionHypothesis mem

theorem accepted_ne_zero {other : U64} (mem : other ∈ accepted worker calls) : other ≠ 0 := by
  induction calls using List.reverseRecOn with
  | nil => cases mem
  | append_singleton calls call inductionHypothesis =>
      by_cases accepts : Accepts worker calls call
      · obtain ⟨sequence, named, larger⟩ := accepts
        rw [accepted_of_accepts named larger] at mem
        rcases List.mem_append.mp mem with earlier | new
        · exact inductionHypothesis earlier
        · rw [List.mem_singleton.mp new]
          exact repairs_ne_zero named
      · rw [accepted_of_not_accepts accepts] at mem
        exact inductionHypothesis mem

theorem lastAccepted_mem (some : lastAccepted worker calls ≠ 0) :
    lastAccepted worker calls ∈ accepted worker calls := by
  rw [lastAccepted] at some ⊢
  cases last : (accepted worker calls).getLast? with
  | none => exact absurd (by rw [last, Option.getD_none]) some
  | some previous => exact List.mem_of_getLast? last

/-- A repair is accepted if its sequence is beyond the last one accepted. -/
theorem larger_iff (numbered : sequence ≠ 0) :
    (∀ other ∈ accepted worker calls, other < sequence) ↔
      lastAccepted worker calls < sequence := by
  constructor
  · intro larger
    by_cases none : lastAccepted worker calls = 0
    · rw [none]
      bv_omega
    · exact larger _ (lastAccepted_mem none)
  · intro beyond other mem
    have within := le_lastAccepted mem
    bv_omega

/-- Every accepted sequence is at least one larger than the one before. -/
theorem length_accepted_le (worker : Nat) (calls : List RepairCall) :
    (accepted worker calls).length ≤ (lastAccepted worker calls).toNat := by
  induction calls using List.reverseRecOn with
  | nil => exact Nat.le_refl 0
  | append_singleton calls call inductionHypothesis =>
      by_cases accepts : Accepts worker calls call
      · obtain ⟨sequence, named, larger⟩ := accepts
        have beyond := (larger_iff (repairs_ne_zero named)).mp larger
        rw [accepted_of_accepts named larger, lastAccepted_of_accepts named larger,
          List.length_append, List.length_singleton]
        exact Nat.succ_le_of_lt (Nat.lt_of_le_of_lt inductionHypothesis (BitVec.lt_def.mp beyond))
      · rw [accepted_of_not_accepts accepts, lastAccepted_of_not_accepts accepts]
        exact inductionHypothesis

end Accepted

/-!
### Confirmations
-/

/-- An item of a list stands somewhere for the last time. -/
theorem last_of_mem {Item : Type*} {item : Item} {items : List Item} (mem : item ∈ items) :
    ∃ early late, items = early ++ item :: late ∧ item ∉ late := by
  obtain ⟨late, early, split, absent⟩ := List.eq_append_cons_of_mem (List.mem_reverse.mpr mem)
  refine ⟨early.reverse, late.reverse, ?_, fun mem => absent (List.mem_reverse.mp mem)⟩
  rw [← List.reverse_reverse items, split]
  simp

/-- What stands before an item is part of what stands before its last occurrence. -/
theorem prefix_of_last {Item : Type*} {item : Item} {early late before rest : List Item}
    (split : early ++ item :: late = before ++ item :: rest) (absent : item ∉ late) :
    before <+: early := by
  rcases List.append_eq_append_iff.mp split with ⟨between, rfl, same⟩ | ⟨between, rfl, -⟩
  · cases between with
    | nil => rw [List.append_nil]
    | cons first between =>
        rw [List.cons_append] at same
        injection same with _ tail
        rw [tail] at absent
        exact absurd (List.mem_append_right between List.mem_cons_self) absent
  · exact List.prefix_append before between

theorem last_unique {Item : Type*} {item : Item} {early late early' late' : List Item}
    (split : early ++ item :: late = early' ++ item :: late') (absent : item ∉ late)
    (absent' : item ∉ late') : early = early' ∧ late = late' := by
  have same : early' = early := (prefix_of_last split absent).eq_of_length_le
    (prefix_of_last split.symm absent').length_le
  subst same
  exact ⟨rfl, (List.cons_inj_right item).mp (List.append_cancel_left split)⟩

section Confirmations

variable {worker : Nat} {calls : List RepairCall} {call : RepairCall} {sequence : U64}

theorem aliveFor_append {late : List RepairCall} :
    AliveFor worker (calls ++ late) sequence ↔
      AliveFor worker calls sequence ∨ AliveFor worker late sequence := by
  simp only [AliveFor, List.mem_append, or_and_right, exists_or]

theorem aliveFor_cons_ready {late : List RepairCall} :
    AliveFor worker (.ready worker :: late) sequence ↔ AliveFor worker late sequence := by
  simp [AliveFor, RepairCall.alives]

theorem inForce_nil : ¬ InForce worker [] sequence := by
  simp [InForce, AliveFor]

/-- To become ready forgets every confirmation, and confirms all that counted. -/
theorem inForce_ready :
    InForce worker (calls ++ [.ready worker]) sequence ↔
      sequence ≤ lastAccepted worker calls := by
  constructor
  · rintro (⟨early, late, split, absent, known⟩ | ⟨absent, -⟩)
    · rcases late.eq_nil_or_concat with rfl | ⟨rest, last, rfl⟩
      · obtain ⟨rfl, -⟩ := List.append_inj' split rfl
        exact known.resolve_right (by simp [AliveFor])
      · rw [List.concat_eq_append, ← List.cons_append, ← List.append_assoc] at split
        obtain ⟨-, same⟩ := List.append_inj' split rfl
        rw [List.concat_eq_append, ← same] at absent
        exact absurd (List.mem_append_right rest (List.mem_singleton.mpr rfl)) absent
    · exact absurd (List.mem_append_right calls (List.mem_singleton.mpr rfl)) absent
  · intro within
    exact Or.inl ⟨calls, [], rfl, List.not_mem_nil, Or.inl within⟩

/-- Any other call can only add a confirmation. -/
theorem inForce_concat (other : call ≠ .ready worker) :
    InForce worker (calls ++ [call]) sequence ↔
      InForce worker calls sequence ∨ AliveFor worker [call] sequence := by
  constructor
  · rintro (⟨early, late, split, absent, known⟩ | ⟨absent, known⟩)
    · rcases late.eq_nil_or_concat with rfl | ⟨rest, last, rfl⟩
      · obtain ⟨-, same⟩ := List.append_inj' split rfl
        exact absurd (List.singleton_injective same) other
      · rw [List.concat_eq_append] at split absent known
        rw [← List.cons_append, ← List.append_assoc] at split
        obtain ⟨rfl, same⟩ := List.append_inj' split rfl
        rw [← same, aliveFor_append] at known
        have earlier := fun mem => absent (List.mem_append_left _ mem)
        rcases known with counted | reached | reached
        · exact Or.inl (Or.inl ⟨early, rest, rfl, earlier, Or.inl counted⟩)
        · exact Or.inl (Or.inl ⟨early, rest, rfl, earlier, Or.inr reached⟩)
        · exact Or.inr reached
    · rcases aliveFor_append.mp known with reached | reached
      · exact Or.inl (Or.inr ⟨fun mem => absent (List.mem_append_left _ mem), reached⟩)
      · exact Or.inr reached
  · have apart : .ready worker ∉ [call] := fun mem => other (List.mem_singleton.mp mem).symm
    rintro ((⟨early, late, rfl, absent, known⟩ | ⟨absent, known⟩) | reached)
    · refine Or.inl ⟨early, late ++ [call], by simp, ?_, ?_⟩
      · exact fun mem => (List.mem_append.mp mem).elim absent apart
      · exact known.imp_right fun reached => aliveFor_append.mpr (Or.inl reached)
    · exact Or.inr ⟨fun mem => (List.mem_append.mp mem).elim absent apart,
        aliveFor_append.mpr (Or.inl known)⟩
    · by_cases readied : .ready worker ∈ calls
      · obtain ⟨early, late, rfl, absent⟩ := last_of_mem readied
        refine Or.inl ⟨early, late ++ [call], by simp, ?_, ?_⟩
        · exact fun mem => (List.mem_append.mp mem).elim absent apart
        · exact Or.inr (aliveFor_append.mpr (Or.inr reached))
      · exact Or.inr ⟨fun mem => (List.mem_append.mp mem).elim readied apart,
          aliveFor_append.mpr (Or.inr reached)⟩

/-- A confirmation in force is one that was made and has not been forgotten. -/
theorem inForce_iff (last : (accepted worker calls).getLast? = some sequence)
    (numbered : sequence ≠ 0) :
    InForce worker calls sequence ↔
      Confirmed worker calls sequence ∧ ¬ Forgotten worker calls sequence := by
  have whole := lastAccepted_eq last
  -- The sequence is the last one, so it has been accepted as soon as one as large has.
  have counted {early late : List RepairCall} (split : calls = early ++ late)
      (reached : sequence ≤ lastAccepted worker early) : sequence ∈ accepted worker early := by
    have some : lastAccepted worker early ≠ 0 := by bv_omega
    have mem := lastAccepted_mem some
    have within : lastAccepted worker early ≤ lastAccepted worker calls := by
      rw [split]
      exact le_lastAccepted ((accepted_appended early late).subset mem)
    have same : lastAccepted worker early = sequence := by bv_omega
    rwa [same] at mem
  constructor
  · rintro (⟨early, late, rfl, absent, known⟩ | ⟨absent, known⟩)
    · constructor
      · rcases known with reached | reached
        · exact Or.inl ⟨early, late, rfl, counted rfl reached⟩
        · exact Or.inr (aliveFor_append.mpr (Or.inr (aliveFor_cons_ready.mpr reached)))
      · rintro ⟨early', late', split, absent', later, -, unreached⟩
        obtain ⟨rfl, rfl⟩ := last_unique split absent absent'
        rcases known with reached | reached
        · exact later (counted rfl reached)
        · exact unreached reached
    · refine ⟨Or.inr known, ?_⟩
      rintro ⟨early, late, rfl, -⟩
      exact absent (List.mem_append_right early (List.mem_cons_self))
  · rintro ⟨confirmed, kept⟩
    by_cases readied : .ready worker ∈ calls
    · obtain ⟨early, late, rfl, absent⟩ := last_of_mem readied
      refine Or.inl ⟨early, late, rfl, absent, ?_⟩
      by_cases counted : sequence ∈ accepted worker early
      · exact Or.inl (le_lastAccepted counted)
      · right
        by_contra unreached
        apply kept
        refine ⟨early, late, rfl, absent, counted, ?_, unreached⟩
        rcases confirmed with ⟨before, rest, split, mem⟩ | reached
        · obtain ⟨between, rfl⟩ := prefix_of_last split absent
          exact absurd ((accepted_appended before between).subset mem) counted
        · rcases aliveFor_append.mp reached with early | later
          · exact early
          · exact absurd (aliveFor_cons_ready.mp later) unreached
    · rcases confirmed with ⟨before, rest, rfl, -⟩ | reached
      · exact absurd (List.mem_append_right before List.mem_cons_self) readied
      · exact Or.inr ⟨readied, reached⟩

end Confirmations

/-!
### The slot and what the server has said
-/

/-- What a slot holds after some calls. -/
structure Describes (worker : Nat) (calls : List RepairCall) (slot : RepairSlot) : Prop where
  last : slot.lastSequence = lastAccepted worker calls
  restarts : slot.restartGeneration.toNat = (accepted worker calls).length
  ready : ∀ sequence, sequence ≠ 0 →
    (sequence ≤ slot.readySequence ↔ InForce worker calls sequence)

section Describes

variable {worker : Nat} {calls : List RepairCall} {call : RepairCall} {slot : RepairSlot}

theorem hear_of_repairs (slot : RepairSlot) {sequence : U64} (named : call.repairs worker = some sequence) :
    slot.hear worker call = (slot.repair sequence).1 ∧ call ≠ .ready worker ∧
      ∀ other, ¬ AliveFor worker [call] other := by
  cases call with
  | repair command =>
      rw [RepairCall.repairs] at named
      split at named
      · next yes =>
          cases named
          refine ⟨?_, RepairCall.noConfusion, fun other => ?_⟩
          · exact if_pos yes
          · simp [AliveFor, RepairCall.alives]
      · cases named
  | alive command => cases named
  | ready other => cases named

/-- Apart from repairs, a call only touches the confirmation. -/
theorem hear_of_not_repairs (slot : RepairSlot) (other : call.repairs worker = none) :
    (slot.hear worker call).lastSequence = slot.lastSequence ∧
      (slot.hear worker call).restartGeneration = slot.restartGeneration ∧
      (slot.hear worker call).credentialGeneration = slot.credentialGeneration := by
  cases call with
  | repair command =>
      rw [RepairCall.repairs] at other
      split at other
      · cases other
      · next not => simp [RepairSlot.hear, not]
  | alive command =>
      rw [RepairSlot.hear]
      split
      · exact ⟨rfl, rfl, rfl⟩
      · exact ⟨rfl, rfl, rfl⟩
  | ready reported =>
      rw [RepairSlot.hear]
      split
      · exact ⟨rfl, rfl, rfl⟩
      · exact ⟨rfl, rfl, rfl⟩

/-- A repair counts exactly if the slot takes it. -/
theorem Describes.accepts_iff (described : Describes worker calls slot) {sequence : U64}
    (named : call.repairs worker = some sequence) :
    Accepts worker calls call ↔ ¬ sequence ≤ slot.lastSequence := by
  have beyond : (∀ other ∈ accepted worker calls, other < sequence) ↔
      lastAccepted worker calls < sequence := larger_iff (repairs_ne_zero named)
  rw [described.last]
  constructor
  · rintro ⟨other, known, larger⟩
    rw [named] at known
    cases known
    have := beyond.mp larger
    bv_omega
  · exact fun not => ⟨sequence, named, beyond.mpr (by bv_omega)⟩

theorem Describes.ready_hear (described : Describes worker calls slot) (sequence : U64)
    (numbered : sequence ≠ 0) :
    sequence ≤ (slot.hear worker call).readySequence ↔
      InForce worker (calls ++ [call]) sequence := by
  cases named : call.repairs worker with
  | some accepted =>
      obtain ⟨heard, other, unreached⟩ := hear_of_repairs slot named
      rw [heard, RepairSlot.repair_readySequence, inForce_concat other,
        described.ready sequence numbered]
      exact (or_iff_left (unreached sequence)).symm
  | none =>
      by_cases readied : call = .ready worker
      · subst readied
        rw [inForce_ready, ← described.last]
        simp [RepairSlot.hear, RepairSlot.ready]
      · rw [inForce_concat readied, ← described.ready sequence numbered]
        cases call with
        | repair command =>
            have not : ¬ command.names worker = true := fun yes => by
              rw [RepairCall.repairs, if_pos yes] at named
              cases named
            simp [RepairSlot.hear, not, AliveFor, RepairCall.alives]
        | alive command =>
            by_cases yes : command.names worker = true
            · have reached : AliveFor worker [.alive command] sequence ↔
                  sequence ≤ command.sequence := by
                simp [AliveFor, RepairCall.alives, yes]
              rw [reached, RepairSlot.hear, if_pos yes, RepairSlot.alive]
              split
              · bv_omega
              · bv_omega
            · simp [RepairSlot.hear, yes, AliveFor, RepairCall.alives]
        | ready reported =>
            have apart : reported ≠ worker := fun same => readied (congrArg _ same)
            simp [RepairSlot.hear, apart, AliveFor, RepairCall.alives]

theorem Describes.hear (described : Describes worker calls slot) :
    Describes worker (calls ++ [call]) (slot.hear worker call) := by
  have room := length_accepted_le worker calls
  cases named : call.repairs worker with
  | none =>
      obtain ⟨last, restarts, -⟩ := hear_of_not_repairs slot named
      have same : ¬ Accepts worker calls call := by
        rintro ⟨sequence, known, -⟩
        rw [named] at known
        cases known
      constructor
      · rw [last, described.last, lastAccepted_of_not_accepts same]
      · rw [restarts, described.restarts, accepted_of_not_accepts same]
      · exact described.ready_hear
  | some sequence =>
      obtain ⟨heard, -, -⟩ := hear_of_repairs slot named
      by_cases late : sequence ≤ slot.lastSequence
      · have same : ¬ Accepts worker calls call := fun accepts =>
          (described.accepts_iff named).mp accepts late
        have kept : slot.hear worker call = slot := by
          rw [heard, RepairSlot.repair_refused late]
        constructor
        · rw [kept, described.last, lastAccepted_of_not_accepts same]
        · rw [kept, described.restarts, accepted_of_not_accepts same]
        · exact described.ready_hear
      · obtain ⟨other, known, larger⟩ := (described.accepts_iff named).mpr late
        rw [named] at known
        cases known
        constructor
        · rw [heard, RepairSlot.repair_lastSequence, if_neg late,
            lastAccepted_of_accepts named larger]
        · have counted : (slot.repair sequence).1.restartGeneration =
              slot.restartGeneration + 1 := by
            rw [RepairSlot.repair, if_neg late]
            split <;> rfl
          rw [heard, counted, accepted_of_accepts named larger, List.length_append,
            List.length_singleton, ← described.restarts]
          rw [← described.restarts, ← described.last] at room
          bv_omega
        · exact described.ready_hear

end Describes

theorem describes_after (worker : Nat) (calls : List RepairCall) :
    Describes worker calls (calls.foldl (RepairSlot.hear worker) .new) := by
  induction calls using List.reverseRecOn with
  | nil =>
      constructor
      · rfl
      · rfl
      · intro sequence numbered
        simp only [inForce_nil, iff_false, List.foldl_nil, RepairSlot.new]
        bv_omega
  | append_singleton calls call inductionHypothesis =>
      rw [List.foldl_append]
      exact inductionHypothesis.hear

/-!
### Restarts and rotations
-/

/-- The worker was restarted once for every repair sequence larger than all before. -/
def RestartsCounted (desiredCount worker : Nat) (calls : List RepairCall) : Prop :=
  ∀ consumed, consumed <+: calls →
    ((RepairState.after desiredCount consumed).restartGeneration worker).toNat =
      (accepted worker consumed).length

/-- A call asks for new credentials exactly if they are due. -/
def RotationsDue (desiredCount worker : Nat) (calls : List RepairCall) : Prop :=
  ∀ consumed call, consumed ++ [call] <+: calls →
    let before := (RepairState.after desiredCount consumed).credentialGeneration worker
    let after := (RepairState.after desiredCount (consumed ++ [call])).credentialGeneration worker
    (Due worker consumed call → after = before + 1) ∧
      (¬ Due worker consumed call → after = before)

/-- No accepted repair comes upon a sequence whose confirmation has been forgotten. -/
def NoneForgotten (worker : Nat) (calls : List RepairCall) : Prop :=
  ∀ consumed call previous, consumed ++ [call] <+: calls → Accepts worker consumed call →
    (accepted worker consumed).getLast? = some previous → ¬ Forgotten worker consumed previous

theorem restarts_counted {desiredCount worker : Nat} (real : worker ≠ 0)
    (known : worker ≤ desiredCount) (calls : List RepairCall) :
    RestartsCounted desiredCount worker calls := by
  intro consumed _
  rw [RepairState.restartGeneration, RepairState.slot_after real known]
  exact (describes_after worker consumed).restarts

/-- The slot's own test: some sequence was accepted before, and is beyond the confirmation. -/
theorem Describes.unresolved_iff {worker : Nat} {calls : List RepairCall} {slot : RepairSlot}
    (described : Describes worker calls slot) :
    slot.unresolved slot.lastSequence = true ↔
      ∃ previous, (accepted worker calls).getLast? = some previous ∧
        ¬ InForce worker calls previous := by
  rw [RepairSlot.unresolved, Bool.and_eq_true, bne_iff_ne, decide_eq_true_iff, described.last]
  constructor
  · rintro ⟨some, below⟩
    cases last : (accepted worker calls).getLast? with
    | none =>
        rw [lastAccepted, last] at some
        exact absurd rfl some
    | some previous =>
        rw [lastAccepted_eq last] at some below
        refine ⟨previous, rfl, fun inForce => ?_⟩
        have := (described.ready previous some).mpr inForce
        bv_omega
  · rintro ⟨previous, last, unconfirmed⟩
    have numbered : previous ≠ 0 := accepted_ne_zero (List.mem_of_getLast? last)
    rw [lastAccepted_eq last]
    have := mt (described.ready previous numbered).mp unconfirmed
    exact ⟨numbered, by bv_omega⟩

theorem Describes.credential_hear {worker : Nat} {calls : List RepairCall} {slot : RepairSlot}
    (described : Describes worker calls slot) (call : RepairCall) :
    (slot.hear worker call).credentialGeneration =
        slot.credentialGeneration + 1 ∧ Accepts worker calls call ∧
          slot.unresolved slot.lastSequence = true ∨
      (slot.hear worker call).credentialGeneration = slot.credentialGeneration ∧
        ¬ (Accepts worker calls call ∧ slot.unresolved slot.lastSequence = true) := by
  cases named : call.repairs worker with
  | none =>
      right
      refine ⟨(hear_of_not_repairs slot named).2.2, ?_⟩
      rintro ⟨⟨sequence, known, -⟩, -⟩
      rw [named] at known
      cases known
  | some sequence =>
      obtain ⟨heard, -, -⟩ := hear_of_repairs slot named
      rw [heard, described.accepts_iff named, RepairSlot.repair]
      split
      · next late => exact Or.inr ⟨rfl, fun both => both.1 late⟩
      · next accepts =>
          split
          · next unresolved => exact Or.inl ⟨rfl, accepts, unresolved⟩
          · next resolved => exact Or.inr ⟨rfl, fun both => resolved both.2⟩

/-- One call does to the credentials what is due, unless a confirmation was forgotten. -/
theorem Describes.due_exact {worker : Nat} {calls : List RepairCall} {slot : RepairSlot}
    (described : Describes worker calls slot) (call : RepairCall) :
    ((Due worker calls call →
        (slot.hear worker call).credentialGeneration = slot.credentialGeneration + 1) ∧
      (¬ Due worker calls call →
        (slot.hear worker call).credentialGeneration = slot.credentialGeneration)) ↔
      ∀ previous, Accepts worker calls call →
        (accepted worker calls).getLast? = some previous → ¬ Forgotten worker calls previous := by
  have moved : slot.credentialGeneration + 1 ≠ slot.credentialGeneration := by bv_omega
  have step := described.credential_hear call
  rw [described.unresolved_iff] at step
  have inForce {previous : U64} (last : (accepted worker calls).getLast? = some previous) :=
    inForce_iff last (accepted_ne_zero (List.mem_of_getLast? last))
  constructor
  · rintro ⟨-, kept⟩ previous accepts last forgotten
    have confirmed : Confirmed worker calls previous := by
      obtain ⟨early, late, rfl, -, -, reached, -⟩ := forgotten
      exact Or.inr (aliveFor_append.mpr (Or.inl reached))
    have same := kept (by
      rintro ⟨-, other, last', unconfirmed⟩
      rw [last] at last'
      cases last'
      exact unconfirmed confirmed)
    rcases step with ⟨changed, -, -⟩ | ⟨-, resolved⟩
    · exact moved (changed.symm.trans same)
    · exact resolved ⟨accepts, previous, last, fun held => ((inForce last).mp held).2 forgotten⟩
  · intro remembered
    constructor
    · rintro ⟨accepts, previous, last, unconfirmed⟩
      rcases step with ⟨changed, -, -⟩ | ⟨-, resolved⟩
      · exact changed
      · exact absurd ⟨accepts, previous, last,
          fun held => unconfirmed ((inForce last).mp held).1⟩ resolved
    · intro notDue
      rcases step with ⟨-, accepts, previous, last, outdated⟩ | ⟨same, -⟩
      · exfalso
        apply notDue
        refine ⟨accepts, previous, last, fun confirmed => outdated ?_⟩
        exact (inForce last).mpr ⟨confirmed, remembered previous accepts last⟩
      · exact same

/-- Restarts are counted and credentials rotated as the server's messages ask for, exactly
if no accepted repair comes upon a forgotten confirmation. -/
theorem escalation_exact {desiredCount worker : Nat} (real : worker ≠ 0)
    (known : worker ≤ desiredCount) (calls : List RepairCall) :
    (RestartsCounted desiredCount worker calls ∧ RotationsDue desiredCount worker calls) ↔
      NoneForgotten worker calls := by
  rw [and_iff_right (restarts_counted real known calls)]
  have each (consumed : List RepairCall) (call : RepairCall) :=
    (describes_after worker consumed).due_exact call
  have credential (consumed : List RepairCall) :
      (RepairState.after desiredCount consumed).credentialGeneration worker =
        (consumed.foldl (RepairSlot.hear worker) .new).credentialGeneration := by
    rw [RepairState.credentialGeneration, RepairState.slot_after real known]
    rfl
  simp only [RotationsDue, NoneForgotten, credential, List.foldl_append, List.foldl_cons,
    List.foldl_nil]
  constructor
  · intro due consumed call previous within accepts last
    exact (each consumed call).mp (due consumed call within) previous accepts last
  · intro remembered consumed call within
    exact (each consumed call).mpr fun previous accepts last =>
      remembered consumed call previous within accepts last

/-- A message for the first worker. -/
def forFirst (sequence : U64) (numbered : sequence ≠ 0) : StreamRepairCommand where
  sequence := sequence
  desiredCount := 9
  workerIds := [1]
  numbered := numbered

theorem escalation_exact_two :
    (RestartsCounted 9 1 [.repair (forFirst 5 (by decide)), .repair (forFirst 7 (by decide))] ∧
      RotationsDue 9 1 [.repair (forFirst 5 (by decide)), .repair (forFirst 7 (by decide))]) ↔
      NoneForgotten 1 [.repair (forFirst 5 (by decide)), .repair (forFirst 7 (by decide))] :=
  escalation_exact (by decide) (by decide) _

/-- An alive message ahead of the repair it confirms, and a session that becomes ready in
between: the next repair asks for new credentials. -/
theorem rotation_without_need :
    ¬ (RestartsCounted 9 1 [.alive (forFirst 10 (by decide)), .ready 1,
        .repair (forFirst 5 (by decide)), .repair (forFirst 7 (by decide))] ∧
      RotationsDue 9 1 [.alive (forFirst 10 (by decide)), .ready 1,
        .repair (forFirst 5 (by decide)), .repair (forFirst 7 (by decide))]) := by
  rintro ⟨-, due⟩
  have same := (due [.alive (forFirst 10 (by decide)), .ready 1,
    .repair (forFirst 5 (by decide))] (.repair (forFirst 7 (by decide))) (List.prefix_refl _)).2
  have confirmed : Confirmed 1 [.alive (forFirst 10 (by decide)), .ready 1,
      .repair (forFirst 5 (by decide))] 5 :=
    Or.inr ⟨.alive (forFirst 10 (by decide)), List.mem_cons_self, 10, rfl, by decide⟩
  have only : accepted 1 [.alive (forFirst 10 (by decide)), .ready 1,
      .repair (forFirst 5 (by decide))] = [5] := by decide +kernel
  refine absurd (same ?_) (by decide +kernel)
  rintro ⟨-, previous, last, unconfirmed⟩
  rw [only] at last
  cases last
  exact unconfirmed confirmed

end Csqtt
