/-
Module: Csqtt.Proofs.ReassemblerConservation
Purpose: Every pushed value is delivered, pending, discarded at its own push or
  dropped when the full flow table is emptied, and exactly one of these.
Trusted boundary: none
Main exports: discarded, dropped, push_balanced, numbered, every_value_accounted_for,
  buffered_value_lost
-/
import Csqtt.Proofs.ReassemblerTagged

namespace Csqtt

open Serial Transducer
open scoped List

variable {T : Type*}

namespace FlowReassembler

/-- Values of all buffered frames. -/
def pendingValues (self : FlowReassembler T) : List T :=
  self.frames.map Pending.value

/-- The pushed value, when its own push discards it. -/
def discardedBy (self : FlowReassembler T) (push : Push T) : List T :=
  if ((self.makeRoom push.key).flowState push.key).discards push.nowMs push.header.sequence then
    [push.value]
  else []

/-- The buffered values, when the push empties the flow table. -/
def droppedBy (self : FlowReassembler T) (push : Push T) : List T :=
  if self.resets push.key then self.pendingValues else []

/-- Values that a run discards at their own push. -/
def discarded (pushes : List (Push T)) : List T :=
  collect push discardedBy new pushes

/-- Values that were buffered when a run emptied the flow table. -/
def dropped (pushes : List (Push T)) : List T :=
  collect push droppedBy new pushes

/-- Making room drops all buffered values or none. -/
theorem pendingValues_makeRoom (self : FlowReassembler T) (push : Push T) :
    self.pendingValues = self.droppedBy push ++ (self.makeRoom push.key).pendingValues := by
  simp only [droppedBy, makeRoom]
  split
  · simp [pendingValues, frames]
  · rfl

/-- One push conserves values. -/
theorem push_balanced {self : FlowReassembler T} (sound : self.Sound) (push : Push T) :
    self.pendingValues ++ [push.value] ~
      (self.push push).2 ++ self.discardedBy push ++ self.droppedBy push ++
        (self.push push).1.pendingValues := by
  obtain ⟨after, total, arrival, result⟩ := push_spec sound push
  obtain ⟨gone, moves⟩ := arrival.moves
  have split := ((self.makeRoom push.key).frames_split push.key).map Pending.value
  have stored : (self.push push).1.pendingValues =
      after.pending.map Pending.value ++
        (HashTable.gather FlowState.pending
          ((self.makeRoom push.key).flows.erase push.key)).map Pending.value := by
    rw [result, pendingValues, frames, HashTable.gather_insert, List.map_append]
  have arrived : [push.value] ~ self.discardedBy push ++
      (if ((self.makeRoom push.key).flowState push.key).discards push.nowMs push.frame.sequence
        then [] else [push.frame]).map Pending.value := by
    simp only [discardedBy]
    by_cases discards :
      ((self.makeRoom push.key).flowState push.key).discards push.nowMs push.frame.sequence
    · rw [if_pos discards, if_pos (by exact discards)]
      exact .refl _
    · rw [if_neg discards, if_neg (by exact discards)]
      exact .refl _
  have remaining := moves.remaining.map Pending.value
  rw [pendingValues_makeRoom self push, moves.values, stored]
  rw [← pendingValues] at split
  classical
  simp only [List.perm_iff_count, List.map_append, List.count_append] at *
  intro value
  have := split value
  have := arrived value
  have := remaining value
  omega

/-- The pushes, each value numbered by its position in the run. -/
def numbered (pushes : List (Push T)) : List (Push (Nat × T)) :=
  pushes.zipIdx.map fun (push, index) => push.tagged index

theorem numbered_untagged (pushes : List (Push T)) :
    (numbered pushes).map (Push.map Prod.snd) = pushes := by
  rw [numbered, List.map_map]
  exact List.zipIdx_map_fst 0 pushes

theorem numbered_values_nodup (pushes : List (Push T)) :
    ((numbered pushes).map Push.value).Nodup := by
  have indices : ((numbered pushes).map Push.value).map Prod.fst = List.range pushes.length := by
    rw [numbered, List.map_map, List.map_map, List.range_eq_range', ← List.zipIdx_map_snd]
    rfl
  refine List.Nodup.of_map Prod.fst ?_
  rw [indices]
  exact List.nodup_range

/-- The ledger of a run. -/
theorem ledger (pushes : List (Push T)) :
    pushes.map Push.value ~
      (run push new pushes).2.flatten ++ discarded pushes ++ dropped pushes ++
        (run push new pushes).1.pendingValues :=
  @run_conserves _ _ T Sound pendingValues Push.value discardedBy droppedBy push
    (fun _ push sound => push_sound sound push)
    (fun _ push sound => push_balanced sound push) new pushes sound_new rfl

/-- At every moment of a run each pushed value, told apart by its number, is
exactly one of these, and once: delivered, pending, discarded at its own push, or
dropped because it was pending when a frame of an untracked flow met the full table. -/
theorem every_value_accounted_for (pushes : List (Push T)) :
    ((run push new pushes).1 = (run push new (numbered pushes)).1.map Prod.snd ∧
      (run push new pushes).2 = (run push new (numbered pushes)).2.map (List.map Prod.snd)) ∧
    (numbered pushes).map Push.value ~
      (run push new (numbered pushes)).2.flatten ++ discarded (numbered pushes) ++
        dropped (numbered pushes) ++ (run push new (numbered pushes)).1.pendingValues ∧
    ((run push new (numbered pushes)).2.flatten ++ discarded (numbered pushes) ++
      dropped (numbered pushes) ++ (run push new (numbered pushes)).1.pendingValues).Nodup :=
  ⟨run_tagged (numbered_untagged pushes), ledger (numbered pushes),
    (ledger (numbered pushes)).nodup_iff.mp (numbered_values_nodup pushes)⟩

/-!
### The full table

One frame is buffered behind a gap, and then as many other flows appear as the
table has room for, and one more.
-/

/-- Pushes of new keys that fit into the table only add entries. -/
theorem run_of_new_keys {self : FlowReassembler T} {pushes : List (Push T)}
    (distinct : (pushes.map Push.key).Nodup)
    (unknown : ∀ push ∈ pushes, push.key ∉ self.flows)
    (fits : self.flows.size + pushes.length ≤ maxTrackedFlows) :
    (run push self pushes).1.flows.size = self.flows.size + pushes.length ∧
      ∀ key, key ∉ pushes.map Push.key →
        (run push self pushes).1.flows.lookup key = self.flows.lookup key := by
  induction pushes generalizing self with
  | nil => simp
  | cons push pushes inductionHypothesis =>
      rw [List.map_cons, List.nodup_cons] at distinct
      rw [List.length_cons] at fits
      have spare : self.resets push.key = false := by
        simp only [resets, Bool.and_eq_false_iff, beq_eq_false_iff_ne]
        exact .inl (by omega)
      obtain ⟨state, total, result⟩ : ∃ state total, (self.push push).1 =
          { flows := self.flows.insert push.key state, pendingTotal := total } := by
        simp only [FlowReassembler.push, pushAt, makeRoom]
        change ∃ state total, FlowReassembler.mk ((if self.resets push.key then _ else _ :
          FlowReassembler T).flows.insert push.key _) _ = _
        rw [spare]
        exact ⟨_, _, rfl⟩
      have grown := HashTable.size_insert_new state (unknown push (by simp))
      have others := @inductionHypothesis (self.push push).1 distinct.2 ?_ ?_
      · rw [result] at others
        rw [run_cons, result, List.length_cons]
        refine ⟨by rw [others.1, grown]; omega, fun key absent => ?_⟩
        rw [List.map_cons, List.mem_cons, not_or] at absent
        rw [others.2 key absent.2, AList.lookup_insert_ne absent.1]
      · intro other member
        rw [result, AList.mem_insert, not_or]
        refine ⟨fun same => distinct.1 ?_, unknown other (List.mem_cons_of_mem _ member)⟩
        rw [← same]
        exact List.mem_map_of_mem member
      · rw [result, grown]
        omega

theorem mem_pendingValues {self : FlowReassembler T} {key : ReassemblyKey}
    {state : FlowState T} {frame : Pending T} (found : self.flows.lookup key = some state)
    (held : frame ∈ state.pending) : frame.value ∈ self.pendingValues := by
  refine List.mem_map_of_mem ((self.frames_split key).mem_iff.mpr ?_)
  rw [flowState_of_lookup found]
  exact List.mem_append_left _ held

/-- When the push of a new key meets the full table, what was buffered is gone. -/
theorem lost_of_resets {pushes : List (Push T)} {last : Push T} {entry : T}
    (distinct : ((pushes ++ [last]).map Push.value).Nodup)
    (held : entry ∈ (run push new pushes).1.pendingValues)
    (resetting : (run push new pushes).1.resets last.key = true) :
    entry ∉ (run push new (pushes ++ [last])).2.flatten ∧
      entry ∉ (run push new (pushes ++ [last])).1.pendingValues ∧
      entry ∉ discarded (pushes ++ [last]) := by
  have gone : entry ∈ dropped (pushes ++ [last]) := by
    rw [dropped, collect_concat, droppedBy, if_pos resetting]
    exact List.mem_append_right _ held
  have apart := (ledger (pushes ++ [last])).nodup_iff.mp distinct
  simp only [List.nodup_append, List.mem_append] at apart
  obtain ⟨⟨_, _, early⟩, _, late⟩ := apart
  exact ⟨fun delivered => early entry (.inl delivered) entry gone rfl,
    fun pending => late entry (.inr gone) entry pending rfl,
    fun discarded => early entry (.inr discarded) entry gone rfl⟩

/-- A frame under the given flow identifier. -/
def crowdPush (flowId sequence : Nat) : Push Nat where
  header := { senderId := 17, flowId := BitVec.ofNat 64 flowId, sequence := BitVec.ofNat 32 sequence }
  value := flowId
  nowMs := 0

/-- Sequence 1 of flow 0, then sequence 0 of the flows 1 to 4095: the table is full. -/
def crowdedRun : List (Push Nat) :=
  crowdPush 0 1 :: (List.range' 1 4095).map (crowdPush · 0)

theorem crowdPush_key_injective {first second : Nat} (short : first < 2 ^ 64)
    (short' : second < 2 ^ 64) {sequence sequence' : Nat}
    (same : (crowdPush first sequence).key = (crowdPush second sequence').key) :
    first = second := by
  have flowIds : (BitVec.ofNat 64 first).toNat = (BitVec.ofNat 64 second).toNat :=
    congrArg (fun key => key.flowId.toNat) same
  rwa [BitVec.toNat_ofNat, BitVec.toNat_ofNat, Nat.mod_eq_of_lt short,
    Nat.mod_eq_of_lt short'] at flowIds

theorem numbered_concat (pushes : List (Push T)) (last : Push T) :
    numbered (pushes ++ [last]) = numbered pushes ++ [last.tagged pushes.length] := by
  simp [numbered, List.zipIdx_append]

/-- The flows behind the first one, as they are numbered in the run. -/
private def crowd : List (Push (Nat × Nat)) :=
  (((List.range' 1 4095).map (crowdPush · 0)).zipIdx 1).map fun (push, index) => push.tagged index

private theorem crowd_keys :
    crowd.map Push.key = (List.range' 1 4095).map fun flowId => (crowdPush flowId 0).key := by
  have untagged : Push.key ∘ (fun (push, index) => push.tagged index) =
      (Push.key : Push Nat → ReassemblyKey) ∘ (Prod.fst : Push Nat × Nat → Push Nat) := rfl
  rw [crowd, List.map_map, untagged, ← List.map_map, List.zipIdx_map_fst, List.map_map]
  rfl

private theorem crowd_new (flowId sequence : Nat) (outside : flowId = 0 ∨ flowId = 4096) :
    (crowdPush flowId sequence).key ∉ crowd.map Push.key := by
  rw [crowd_keys, List.mem_map]
  rintro ⟨other, member, same⟩
  rw [List.mem_range'_1] at member
  have := crowdPush_key_injective (by omega) (by omega) same
  omega

/-- The table is full, and the first frame is still buffered. -/
private theorem crowdedRun_fills :
    (run push new (numbered crowdedRun)).1.flows.size = maxTrackedFlows ∧
      (crowdPush 4096 0).key ∉ (run push new (numbered crowdedRun)).1.flows ∧
      (0, 0) ∈ (run push new (numbered crowdedRun)).1.pendingValues := by
  have first : (new.push ((crowdPush 0 1).tagged 0)).1.flows =
      (∅ : HashTable ReassemblyKey (FlowState (Nat × Nat))).insert (crowdPush 0 1).key
        { expected := 0
          gapStartedMs := some 0
          pending := [{ sequence := 1, value := (0, 0) }] } := rfl
  have distinct : (crowd.map Push.key).Nodup := by
    rw [crowd_keys]
    refine List.Nodup.map_on (fun one member other member' same => ?_) List.nodup_range'
    rw [List.mem_range'_1] at member member'
    exact crowdPush_key_injective (by omega) (by omega) same
  have unknown : ∀ push ∈ crowd, push.key ∉ (new.push ((crowdPush 0 1).tagged 0)).1.flows := by
    intro push member
    rw [first, AList.mem_insert, not_or]
    refine ⟨fun same => crowd_new 0 1 (.inl rfl) ?_, AList.notMem_empty _⟩
    exact same ▸ List.mem_map_of_mem member
  have size : (new.push ((crowdPush 0 1).tagged 0)).1.flows.size = 1 := by rw [first]; rfl
  have length : crowd.length = 4095 := by simp [crowd]
  obtain ⟨full, others⟩ := run_of_new_keys distinct unknown (by rw [size, length]; rfl)
  have whole : run push new (numbered crowdedRun) =
      run push new ((crowdPush 0 1).tagged 0 :: crowd) := rfl
  rw [whole, run_cons]
  dsimp only
  refine ⟨by rw [full, size, length]; rfl, ?_, ?_⟩
  · have absent := others _ (crowd_new 4096 0 (.inr rfl))
    rw [← AList.lookup_eq_none, absent, AList.lookup_eq_none, first, AList.mem_insert, not_or]
    refine ⟨fun same => ?_, AList.notMem_empty _⟩
    exact absurd (crowdPush_key_injective (by decide) (by decide) same) (by decide)
  · have held := others _ (crowd_new 0 1 (.inl rfl))
    rw [first, AList.lookup_insert] at held
    have only : ({ sequence := 1, value := (0, 0) } : Pending (Nat × Nat)) ∈
        [({ sequence := 1, value := (0, 0) } : Pending (Nat × Nat))] := List.mem_singleton.mpr rfl
    exact mem_pendingValues held only

/-- The frame of flow 0 was buffered and is neither delivered nor pending nor was
it discarded when it arrived. -/
theorem buffered_value_lost :
    ∃ pushes : List (Push Nat),
      pushes.Pairwise (fun first second => first.nowMs ≤ second.nowMs) ∧
      ∃ entry ∈ (numbered pushes).map Push.value,
        entry ∉ (run push new (numbered pushes)).2.flatten ∧
        entry ∉ (run push new (numbered pushes)).1.pendingValues ∧
        entry ∉ discarded (numbered pushes) := by
  obtain ⟨full, absent, held⟩ := crowdedRun_fills
  have resetting : (run push new (numbered crowdedRun)).1.resets (crowdPush 4096 0).key = true := by
    simp [resets, full, absent]
  refine ⟨crowdedRun ++ [crowdPush 4096 0], ?_, (0, 0), ?_, ?_⟩
  · refine List.pairwise_of_forall_mem_list fun first member second member' => ?_
    have still : ∀ push ∈ crowdedRun ++ [crowdPush 4096 0], push.nowMs = 0 := by
      intro push member
      simp only [crowdedRun, List.cons_append, List.mem_cons, List.mem_append, List.mem_map,
        List.not_mem_nil, or_false] at member
      rcases member with rfl | ⟨_, _, rfl⟩ | rfl <;> rfl
    rw [still first member, still second member']
  · exact List.mem_map.mpr ⟨(crowdPush 0 1).tagged 0, List.mem_cons_self, rfl⟩
  · have distinct := numbered_values_nodup (crowdedRun ++ [crowdPush 4096 0])
    rw [numbered_concat] at distinct ⊢
    exact lost_of_resets distinct held resetting

end FlowReassembler

end Csqtt
