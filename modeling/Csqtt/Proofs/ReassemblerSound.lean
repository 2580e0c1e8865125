/-
Module: Csqtt.Proofs.ReassemblerSound
Purpose: One push on the whole reassembler, reduced to the arrival at its flow, and
  the bookkeeping that every push keeps: the shared count is the number of
  buffered frames, within the budget, the table is bounded and the numbers
  pending in a flow are distinct.
Trusted boundary: none
Main exports: Push.key, Push.frame, Sound, push_spec, push_sound, EveryFlow
-/
import Csqtt.Core.Transducer
import Csqtt.Proofs.ReassemblerMoves

namespace Csqtt

open scoped List

variable {T : Type*}

def Push.key (push : Push T) : ReassemblyKey :=
  push.header.key

/-- The pushed frame as it would be buffered. -/
def Push.frame (push : Push T) : Pending T where
  sequence := push.header.sequence
  value := push.value

namespace FlowReassembler

/-- All buffered frames, in table order. -/
def frames (self : FlowReassembler T) : List (Pending T) :=
  HashTable.gather FlowState.pending self.flows

/-- Bookkeeping facts that hold of every reachable reassembler. -/
structure Sound (reassembler : FlowReassembler T) : Prop where
  counted : reassembler.pendingTotal = reassembler.frames.length
  bounded : reassembler.pendingTotal ≤ maxPendingTotal
  tracked : reassembler.flows.size ≤ maxTrackedFlows
  distinct : ∀ key state, reassembler.flows.lookup key = some state → state.sequences.Nodup

theorem sound_new : Sound (new : FlowReassembler T) where
  counted := rfl
  bounded := Nat.zero_le _
  tracked := Nat.zero_le _
  distinct key state found := by simp [new] at found

theorem makeRoom_sound {self : FlowReassembler T} (sound : self.Sound) (key : ReassemblyKey) :
    (self.makeRoom key).Sound := by
  rw [makeRoom]
  split
  · exact sound_new
  · exact sound

/-- After making room an unknown key fits into the table. -/
theorem makeRoom_fits {self : FlowReassembler T} (sound : self.Sound) {key : ReassemblyKey}
    (absent : key ∉ (self.makeRoom key).flows) :
    (self.makeRoom key).flows.size < maxTrackedFlows := by
  have tracked := sound.tracked
  by_cases resetting : self.resets key = true
  · rw [makeRoom, if_pos resetting]
    exact Nat.zero_lt_succ _
  · rw [makeRoom, if_neg resetting] at absent ⊢
    have spare : self.flows.size ≠ maxTrackedFlows := by
      simpa [resets, absent] using resetting
    omega

theorem flowState_of_lookup {self : FlowReassembler T} {key : ReassemblyKey}
    {state : FlowState T} (found : self.flows.lookup key = some state) :
    self.flowState key = state := by
  simp [flowState, found]

theorem flowState_of_absent {self : FlowReassembler T} {key : ReassemblyKey}
    (absent : key ∉ self.flows) : self.flowState key = FlowState.fresh := by
  simp [flowState, AList.lookup_eq_none.mpr absent]

/-- The buffered frames are those of one flow and those of all others. -/
theorem frames_split (self : FlowReassembler T) (key : ReassemblyKey) :
    self.frames ~ (self.flowState key).pending ++
      HashTable.gather FlowState.pending (self.flows.erase key) := by
  cases found : self.flows.lookup key with
  | none =>
      have absent := AList.lookup_eq_none.mp found
      rw [flowState_of_absent absent, HashTable.gather_erase_absent _ absent]
      exact .refl _
  | some state =>
      rw [flowState_of_lookup found]
      exact HashTable.gather_perm_of_lookup FlowState.pending found

/-- The frames of one flow and the frames of all others make up the count. -/
theorem Sound.split {self : FlowReassembler T} (sound : self.Sound) (key : ReassemblyKey) :
    self.pendingTotal = (HashTable.gather FlowState.pending (self.flows.erase key)).length +
      (self.flowState key).pending.length := by
  have counted := (self.frames_split key).length_eq
  rw [List.length_append, Nat.add_comm] at counted
  exact sound.counted.trans counted

theorem Sound.flowState_distinct {self : FlowReassembler T} (sound : self.Sound)
    (key : ReassemblyKey) : (self.flowState key).sequences.Nodup := by
  cases found : self.flows.lookup key with
  | none =>
      rw [flowState_of_absent (AList.lookup_eq_none.mp found)]
      exact List.nodup_nil
  | some state =>
      rw [flowState_of_lookup found]
      exact sound.distinct key state found

/-- A push is an arrival at the flow of its key, once there is room for the key. -/
theorem push_spec {self : FlowReassembler T} (sound : self.Sound) (push : Push T) :
    ∃ after total,
      FlowState.Arrival push.nowMs push.frame ((self.makeRoom push.key).flowState push.key)
        (self.makeRoom push.key).pendingTotal after total (self.push push).2 ∧
      (self.push push).1 =
        { flows := (self.makeRoom push.key).flows.insert push.key after, pendingTotal := total } :=
  ⟨_, _, FlowState.arrive_spec (makeRoom_sound sound push.key).bounded, rfl⟩

theorem push_sound {self : FlowReassembler T} (sound : self.Sound) (push : Push T) :
    (self.push push).1.Sound := by
  obtain ⟨after, total, arrival, result⟩ := push_spec sound push
  have room := makeRoom_sound sound push.key
  rw [result]
  refine ⟨?_, arrival.bounded room.bounded, ?_, ?_⟩
  · rw [room.split push.key] at arrival
    rw [arrival.balanced]
    simp only [frames, HashTable.gather_insert, List.length_append]
    exact Nat.add_comm _ _
  · by_cases present : push.key ∈ (self.makeRoom push.key).flows
    · simp only [HashTable.size_insert_known after present]
      exact room.tracked
    · simp only [HashTable.size_insert_new after present]
      exact makeRoom_fits sound present
  · intro key state found
    by_cases same : key = push.key
    · subst same
      simp only [AList.lookup_insert, Option.some.injEq] at found
      subst found
      exact arrival.distinct (room.flowState_distinct push.key)
    · simp only [AList.lookup_insert_ne same] at found
      exact room.distinct key state found

theorem run_sound (pushes : List (Push T)) :
    (Transducer.run FlowReassembler.push new pushes).1.Sound :=
  @Transducer.run_invariant _ _ _ FlowReassembler.push Sound
    (fun _ push sound => push_sound sound push) new pushes sound_new

/-- Every tracked flow has the property. -/
def EveryFlow (property : FlowState T → Prop) (self : FlowReassembler T) : Prop :=
  ∀ key state, self.flows.lookup key = some state → property state

theorem everyFlow_new (property : FlowState T → Prop) :
    EveryFlow property (new : FlowReassembler T) := by
  intro key state found
  simp [new] at found

theorem everyFlow_makeRoom {property : FlowState T → Prop} {self : FlowReassembler T}
    (every : EveryFlow property self) (key : ReassemblyKey) :
    EveryFlow property (self.makeRoom key) := by
  rw [makeRoom]
  split
  · exact everyFlow_new property
  · exact every

theorem EveryFlow.flowState {property : FlowState T → Prop} {self : FlowReassembler T}
    (every : EveryFlow property self) (fresh : property FlowState.fresh) (key : ReassemblyKey) :
    property (self.flowState key) := by
  cases found : self.flows.lookup key with
  | none => rwa [flowState_of_absent (AList.lookup_eq_none.mp found)]
  | some state =>
      rw [flowState_of_lookup found]
      exact every key state found

/-- After storing a flow, the property is a matter of the stored state alone. -/
theorem everyFlow_insert_iff {property : FlowState T → Prop} {self : FlowReassembler T}
    (every : EveryFlow property self) (key : ReassemblyKey) (state : FlowState T) (total : Nat) :
    EveryFlow property { flows := self.flows.insert key state, pendingTotal := total } ↔
      property state := by
  constructor
  · intro holds
    exact holds key state (AList.lookup_insert _)
  · intro holds other found looked
    by_cases same : other = key
    · subst same
      simp only [AList.lookup_insert, Option.some.injEq] at looked
      exact looked ▸ holds
    · simp only [AList.lookup_insert_ne same] at looked
      exact every other found looked

theorem makeRoom_of_lookup {self : FlowReassembler T} {key : ReassemblyKey} {state : FlowState T}
    (found : self.flows.lookup key = some state) : self.makeRoom key = self := by
  have known := HashTable.mem_of_lookup found
  rw [makeRoom, if_neg (by simp [resets, known])]

/-- What an arrival does to a property of its flow is what the push does to it
in the table: the condition is asked of the state the table holds for the key. -/
theorem everyFlow_push_iff {assumed property : FlowState T → Prop}
    {condition : FlowState T → Nat → Prop} {self : FlowReassembler T} {push : Push T}
    (sound : self.Sound) (everyAssumed : EveryFlow assumed self) (every : EveryFlow property self)
    (freshAssumed : assumed FlowState.fresh) (fresh : property FlowState.fresh)
    (freshMeets : ∀ total, condition FlowState.fresh total)
    (exactArrival : ∀ before total after total' output,
      before.sequences.Nodup → before.pending.length ≤ total → total ≤ maxPendingTotal →
      assumed before → property before →
      FlowState.Arrival push.nowMs push.frame before total after total' output →
      (property after ↔ condition before total)) :
    EveryFlow property (self.push push).1 ↔
      ∀ state, self.flows.lookup push.key = some state → condition state self.pendingTotal := by
  obtain ⟨after, total, arrival, result⟩ := push_spec sound push
  have room := makeRoom_sound sound push.key
  have roomEvery := everyFlow_makeRoom every push.key
  have assumedHere :=
    (everyFlow_makeRoom everyAssumed push.key).flowState freshAssumed push.key
  have counted : ((self.makeRoom push.key).flowState push.key).pending.length ≤
      (self.makeRoom push.key).pendingTotal := by
    rw [room.split push.key]
    exact Nat.le_add_left _ _
  have local' := exactArrival _ _ _ _ _ (room.flowState_distinct push.key) counted room.bounded
    assumedHere (roomEvery.flowState fresh push.key) arrival
  rw [result, everyFlow_insert_iff roomEvery, local']
  cases found : self.flows.lookup push.key with
  | some state =>
      rw [makeRoom_of_lookup found, flowState_of_lookup found]
      simp
  | none =>
      have absent : push.key ∉ (self.makeRoom push.key).flows := by
        rw [makeRoom]
        split
        · exact AList.notMem_empty _
        · exact AList.lookup_eq_none.mp found
      rw [flowState_of_absent absent]
      simp [freshMeets]

end FlowReassembler

end Csqtt
