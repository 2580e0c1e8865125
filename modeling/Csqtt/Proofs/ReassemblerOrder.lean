/-
Module: Csqtt.Proofs.ReassemblerOrder
Purpose: Ordered, duplicate-free delivery: as long as the flow table is never
  emptied and the numbers do not wrap, the frames a flow delivers have strictly
  increasing numbers.
Trusted boundary: none
Main exports: push_arrives, resets_eq_false, labelled, delivered_in_order
-/
import Csqtt.Proofs.ReassemblerTagged
import Mathlib.Data.Finset.Card

namespace Csqtt

open Serial Transducer
open scoped List

variable {T : Type*}

namespace FlowReassembler

theorem flowState_insert (self : FlowReassembler T) (key other : ReassemblyKey)
    (state : FlowState T) (total : Nat) :
    FlowReassembler.flowState
      { flows := self.flows.insert key state, pendingTotal := total } other =
      if other = key then state else self.flowState other := by
  by_cases same : other = key
  · subst same
    simp [flowState]
  · simp [flowState, same, AList.lookup_insert_ne]

/-- Without a reset, a push is an arrival at its own flow and leaves the others alone. -/
theorem push_arrives {self : FlowReassembler T} (sound : self.Sound) (push : Push T)
    (fits : self.resets push.key = false) :
    FlowState.Arrival push.nowMs push.frame (self.flowState push.key) self.pendingTotal
        ((self.push push).1.flowState push.key) (self.push push).1.pendingTotal
        (self.push push).2 ∧
      ∀ other, other ≠ push.key → (self.push push).1.flowState other = self.flowState other := by
  obtain ⟨after, total, arrival, result⟩ := push_spec sound push
  have kept : self.makeRoom push.key = self := by simp [makeRoom, fits]
  rw [kept] at arrival result
  rw [result]
  simp only [flowState_insert, if_true]
  exact ⟨arrival, fun other different => if_neg different⟩

/-- The table only knows keys that were pushed. -/
theorem mem_flows_run {pushes : List (Push T)} {key : ReassemblyKey}
    (tracked : key ∈ (run push new pushes).1.flows) : key ∈ pushes.map Push.key := by
  refine @run_history _ _ _ push
    (fun consumed self _ => ∀ key ∈ self.flows, key ∈ consumed.map Push.key)
    new pushes ?_ ?_ key tracked
  · intro key member
    exact absurd member (AList.notMem_empty key)
  · intro consumed push self _ _ _ known key member
    rw [List.map_append, List.mem_append, List.map_singleton, List.mem_singleton]
    simp only [FlowReassembler.push, pushAt, AList.mem_insert] at member
    rcases member with same | old
    · exact .inr same
    · refine .inl (known key ?_)
      rw [makeRoom] at old
      split at old
      · exact absurd old (AList.notMem_empty key)
      · exact old

/-- With no more keys than the table has room for it is never emptied. -/
theorem resets_eq_false {pushes consumed : List (Push T)} {push : Push T}
    (few : (pushes.map Push.key).toFinset.card ≤ maxTrackedFlows)
    (within : consumed ++ [push] <+: pushes) :
    (run FlowReassembler.push new consumed).1.resets push.key = false := by
  by_contra resetting
  have both : (run FlowReassembler.push new consumed).1.flows.size = maxTrackedFlows ∧
      push.key ∉ (run FlowReassembler.push new consumed).1.flows := by
    simpa [resets] using resetting
  obtain ⟨full, absent⟩ := both
  have inside : (push.key :: (run FlowReassembler.push new consumed).1.flows.keys).toFinset ⊆
      (pushes.map Push.key).toFinset := by
    intro key member
    rw [List.mem_toFinset] at member ⊢
    refine (within.map Push.key).subset ?_
    rw [List.map_append, List.mem_append]
    rcases List.mem_cons.mp member with rfl | old
    · exact .inr (by simp)
    · exact .inl (mem_flows_run (AList.mem_keys.mpr old))
  have distinct : (push.key :: (run FlowReassembler.push new consumed).1.flows.keys).Nodup :=
    List.nodup_cons.mpr ⟨fun member => absent (AList.mem_keys.mpr member), AList.keys_nodup _⟩
  have counted := Finset.card_le_card inside
  rw [List.toFinset_card_of_nodup distinct, List.length_cons] at counted
  simp only [HashTable.size] at full
  omega

/-- The labelled values of one flow among delivered ones. -/
def ofFlow (key : ReassemblyKey) (delivered : List (FrameHeader × T)) : List (FrameHeader × T) :=
  delivered.filter fun frame => frame.1.key = key

/-- History of one flow: what it delivered and what it holds are frames pushed
under its key, and its expected sequence walked over the delivered numbers. -/
def InOrder (consumed : List (Push (FrameHeader × T))) (self : FlowReassembler (FrameHeader × T))
    (outputs : List (List (FrameHeader × T))) (key : ReassemblyKey) : Prop :=
  ∃ gone,
    ofFlow key outputs.flatten = gone.map Pending.value ∧
    Walk 0 (gone.map Pending.sequence) (self.flowState key).expected ∧
    ∀ frame ∈ gone ++ (self.flowState key).pending,
      ∃ push ∈ consumed, push.key = key ∧ frame = push.frame

theorem ofFlow_append (key : ReassemblyKey) (first second : List (FrameHeader × T)) :
    ofFlow key (first ++ second) = ofFlow key first ++ ofFlow key second :=
  List.filter_append first second

theorem ofFlow_self {key : ReassemblyKey} {frames : List (FrameHeader × T)}
    (own : ∀ frame ∈ frames, frame.1.key = key) : ofFlow key frames = frames :=
  List.filter_eq_self.mpr fun frame member => decide_eq_true (own frame member)

theorem ofFlow_other {key other : ReassemblyKey} {frames : List (FrameHeader × T)}
    (own : ∀ frame ∈ frames, frame.1.key = key) (different : other ≠ key) :
    ofFlow other frames = [] :=
  List.filter_eq_nil_iff.mpr fun frame member =>
    by simpa [own frame member] using different.symm

/-- One push extends the history of every flow. -/
theorem InOrder.extend {consumed : List (Push (FrameHeader × T))} {push : Push (FrameHeader × T)}
    {self : FlowReassembler (FrameHeader × T)} {outputs : List (List (FrameHeader × T))}
    (sound : self.Sound) (fits : self.resets push.key = false)
    (labels : ∀ other ∈ consumed ++ [push], other.value.1 = other.header)
    (history : ∀ key, InOrder consumed self outputs key) (key : ReassemblyKey) :
    InOrder (consumed ++ [push]) (self.push push).1 (outputs ++ [(self.push push).2]) key := by
  obtain ⟨arrival, unchanged⟩ := push_arrives sound push fits
  obtain ⟨released, moves⟩ := arrival.moves
  obtain ⟨goneHere, deliveredHere, walkHere, sourceHere⟩ := history push.key
  have source : ∀ frame ∈ released ++ ((self.push push).1.flowState push.key).pending,
      ∃ other ∈ consumed ++ [push], other.key = push.key ∧ frame = other.frame := by
    intro frame member
    rcases List.mem_append.mp (moves.remaining.mem_iff.mpr member) with old | new
    · obtain ⟨other, pushed, rest⟩ := sourceHere frame (List.mem_append_right _ old)
      exact ⟨other, List.mem_append_left _ pushed, rest⟩
    · split at new
      · simp at new
      · exact ⟨push, by simp, rfl, List.mem_singleton.mp new⟩
  have own : ∀ frame ∈ (self.push push).2, frame.1.key = push.key := by
    intro value member
    rw [moves.values] at member
    obtain ⟨frame, left, rfl⟩ := List.mem_map.mp member
    obtain ⟨other, pushed, sameKey, rfl⟩ := source frame (List.mem_append_left _ left)
    rw [← sameKey]
    exact congrArg FrameHeader.key (labels other pushed)
  rw [InOrder, List.flatten_append, List.flatten_singleton, ofFlow_append]
  by_cases same : key = push.key
  · subst same
    refine ⟨goneHere ++ released, ?_, ?_, ?_⟩
    · rw [deliveredHere, ofFlow_self own, moves.values, List.map_append]
    · rw [List.map_append]
      exact walkHere.append moves.walk
    · intro frame member
      rw [List.append_assoc] at member
      rcases List.mem_append.mp member with old | new
      · obtain ⟨other, pushed, rest⟩ := sourceHere frame (List.mem_append_left _ old)
        exact ⟨other, List.mem_append_left _ pushed, rest⟩
      · exact source frame new
  · obtain ⟨gone, delivered, walk, sourceThere⟩ := history key
    refine ⟨gone, ?_, ?_, ?_⟩
    · rw [delivered, ofFlow_other own same, List.append_nil]
    · rw [unchanged key same]
      exact walk
    · intro frame member
      rw [unchanged key same] at member
      obtain ⟨other, pushed, rest⟩ := sourceThere frame member
      exact ⟨other, List.mem_append_left _ pushed, rest⟩

/-- The pushes, each value labelled with the header it was pushed under. -/
def labelled (pushes : List (Push T)) : List (Push (FrameHeader × T)) :=
  pushes.map fun push => push.tagged push.header

/-- The values a run delivers, in order, each labelled with the header it was
pushed under. -/
def delivered (pushes : List (Push T)) : List (FrameHeader × T) :=
  (run push new (labelled pushes)).2.flatten

theorem labelled_keys (pushes : List (Push T)) :
    (labelled pushes).map Push.key = pushes.map Push.key := by
  rw [labelled, List.map_map]
  rfl

theorem labelled_untagged (pushes : List (Push T)) :
    (labelled pushes).map (Push.map Prod.snd) = pushes := by
  rw [labelled, List.map_map]
  exact List.map_id pushes

/-- Every flow of a run has a history. -/
theorem inOrder_run {pushes : List (Push T)}
    (few : (pushes.map Push.key).toFinset.card ≤ maxTrackedFlows) (key : ReassemblyKey) :
    InOrder (labelled pushes) (run push new (labelled pushes)).1
      (run push new (labelled pushes)).2 key := by
  rw [← labelled_keys] at few
  have history := @run_history _ _ _ push
    (fun consumed self outputs => self.Sound ∧ ∀ key : ReassemblyKey,
      InOrder (consumed : List (Push (FrameHeader × T))) self outputs key)
    new (labelled pushes) ⟨sound_new, fun key => ⟨[], rfl, .nil 0, by simp [flowState, new]⟩⟩ ?_
  · exact history.2 key
  · intro consumed push self outputs within reached kept
    obtain ⟨sound, history⟩ := kept
    have labels : ∀ other ∈ consumed ++ [push], other.value.1 = other.header := by
      intro other member
      obtain ⟨original, _, rfl⟩ := List.mem_map.mp (within.subset member)
      rfl
    have fits : self.resets push.key = false := by
      have never := resets_eq_false few within
      rwa [reached] at never
    exact ⟨push_sound sound push, InOrder.extend sound fits labels history⟩

/-- Without the labels, what is delivered is what the run on the values delivers. -/
theorem delivered_values (pushes : List (Push T)) :
    (delivered pushes).map Prod.snd = (run push new pushes).2.flatten := by
  rw [delivered, List.map_flatten, (run_tagged (labelled_untagged pushes)).2]

/-- What a flow delivers are pushed frames, met by a walk of the expected sequence. -/
theorem ofFlow_delivered {pushes : List (Push T)}
    (few : (pushes.map Push.key).toFinset.card ≤ maxTrackedFlows) (key : ReassemblyKey) :
    ∃ gone : List (Pending (FrameHeader × T)),
      ofFlow key (delivered pushes) = gone.map Pending.value ∧
      Walk 0 (gone.map Pending.sequence)
        ((run push new (labelled pushes)).1.flowState key).expected ∧
      ∀ frame ∈ gone, ∃ push ∈ pushes,
        frame = { sequence := push.header.sequence, value := (push.header, push.value) } := by
  obtain ⟨gone, values, walk, source⟩ := inOrder_run few key
  refine ⟨gone, values, walk, fun frame member => ?_⟩
  obtain ⟨push, pushed, _, rfl⟩ := source frame (List.mem_append_left _ member)
  obtain ⟨original, there, rfl⟩ := List.mem_map.mp pushed
  exact ⟨original, there, rfl⟩

/-- Every delivered frame was pushed. -/
theorem mem_delivered {pushes : List (Push T)}
    (few : (pushes.map Push.key).toFinset.card ≤ maxTrackedFlows) :
    ∀ frame ∈ delivered pushes, ∃ push ∈ pushes, frame = (push.header, push.value) := by
  intro frame member
  obtain ⟨gone, values, _, source⟩ := ofFlow_delivered few frame.1.key
  have own : frame ∈ ofFlow frame.1.key (delivered pushes) :=
    List.mem_filter.mpr ⟨member, decide_eq_true rfl⟩
  rw [values] at own
  obtain ⟨left, inside, rfl⟩ := List.mem_map.mp own
  obtain ⟨push, there, rfl⟩ := source left inside
  exact ⟨push, there, rfl⟩

/-- As long as the keys fit into the flow table and the numbers stay in the lower
half of their range, every flow delivers frames that were pushed, with strictly
increasing sequence numbers. -/
theorem delivered_in_order (pushes : List (Push T))
    (few : (pushes.map Push.key).toFinset.card ≤ maxTrackedFlows)
    (low : ∀ push ∈ pushes, push.header.sequence.toNat < 2 ^ 31) :
    (delivered pushes).map Prod.snd = (run push new pushes).2.flatten ∧
      (∀ frame ∈ delivered pushes, ∃ push ∈ pushes, frame = (push.header, push.value)) ∧
      ∀ key, ((ofFlow key (delivered pushes)).map fun frame => frame.1.sequence.toNat).Pairwise
        (· < ·) := by
  refine ⟨delivered_values pushes, mem_delivered few, fun key => ?_⟩
  obtain ⟨gone, values, walk, source⟩ := ofFlow_delivered few key
  have lowGone : ∀ number ∈ gone.map Pending.sequence, number.toNat < 2 ^ 31 := by
    intro number member
    obtain ⟨frame, left, rfl⟩ := List.mem_map.mp member
    obtain ⟨push, there, rfl⟩ := source frame left
    exact low push there
  have increasing := walk.increasing (by decide) (by decide) lowGone
  have numbers : (gone.map Pending.value).map (fun frame => frame.1.sequence.toNat) =
      (gone.map Pending.sequence).map BitVec.toNat := by
    rw [List.map_map, List.map_map]
    refine List.map_congr_left fun frame left => ?_
    obtain ⟨push, _, rfl⟩ := source frame left
    rfl
  rw [values, numbers]
  exact increasing

/-- Two flows, one with an early frame, a late one and a copy. -/
theorem delivered_in_order_two_flows :
    ((ofFlow { senderId := 1, flowId := 2 } (delivered
      [(⟨⟨1, 2, 1⟩, 10, 5⟩ : Push Nat), ⟨⟨1, 3, 0⟩, 20, 5⟩, ⟨⟨1, 2, 0⟩, 30, 6⟩,
        ⟨⟨1, 2, 1⟩, 40, 6⟩])).map fun frame => frame.1.sequence.toNat).Pairwise (· < ·) :=
  (delivered_in_order
    [(⟨⟨1, 2, 1⟩, 10, 5⟩ : Push Nat), ⟨⟨1, 3, 0⟩, 20, 5⟩, ⟨⟨1, 2, 0⟩, 30, 6⟩,
      ⟨⟨1, 2, 1⟩, 40, 6⟩]
    (by decide) (by decide)).2.2 { senderId := 1, flowId := 2 }

end FlowReassembler

end Csqtt
