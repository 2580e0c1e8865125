/-
Module: Csqtt.Proofs.ReassemblerRelease
Purpose: What a release of the reorder buffer does, said once: which frames leave,
  in which order, where the expected sequence ends up and what stays behind.
Trusted boundary: none
Main exports: Drains, drainContiguous_spec, ReleasesLowest, releaseLowest_spec
-/
import Csqtt.Core.Serial
import Csqtt.Engine.FlowReassembler

namespace Csqtt

open Serial
open scoped List

variable {T : Type*}

/-- Removing an entry leaves the other entries, in some order. -/
theorem perm_swapRemove {items : List T} {index : Nat} {item : T}
    (found : items[index]? = some item) : items ~ item :: swapRemove items index := by
  obtain ⟨inside, rfl⟩ := List.getElem?_eq_some_iff.mp found
  rcases List.eq_nil_or_concat items with rfl | ⟨front, last, rfl⟩
  · simp at inside
  · simp only [List.concat_eq_append, List.length_append, List.length_singleton] at inside
    simp only [List.concat_eq_append, swapRemove, List.getLast?_concat]
    by_cases before : index < front.length
    · rw [List.set_append_left _ _ before, List.dropLast_concat, List.getElem_append_left before,
        List.set_eq_take_append_cons_drop, if_pos before]
      have split : front = front.take index ++ front[index] :: front.drop (index + 1) := by
        rw [List.cons_getElem_drop_succ, List.take_append_drop]
      have extracted : front ~ front[index] :: (front.take index ++ front.drop (index + 1)) := by
        conv_lhs => rw [split]
        exact List.perm_middle
      calc front ++ [last]
        _ ~ last :: front := List.perm_append_singleton _ _
        _ ~ last :: front[index] :: (front.take index ++ front.drop (index + 1)) :=
            extracted.cons last
        _ ~ front[index] :: last :: (front.take index ++ front.drop (index + 1)) := .swap _ _ _
        _ ~ front[index] :: (front.take index ++ last :: front.drop (index + 1)) :=
            List.perm_middle.symm.cons _
    · have atEnd : index = front.length := by omega
      subst atEnd
      simp only [List.getElem_concat_length, List.set_append_right _ _ (Nat.le_refl _),
        Nat.sub_self, List.set_cons_zero, List.dropLast_concat]
      exact List.perm_append_singleton _ _

/-- The code's test is the half-window order on 32-bit serial numbers. -/
theorem isForward_iff {sequence expected : U32} :
    isForward sequence expected = true ↔ Forward expected sequence := by
  have positive : sequence ≠ expected ↔ 0 < ahead expected sequence := by
    rw [Nat.pos_iff_ne_zero, ne_eq, ne_eq, ahead_eq_zero]
  simp [isForward, Forward, positive, ahead]

namespace FlowState

/-- Sequence numbers of the pending frames. -/
def sequences (state : FlowState T) : List U32 :=
  state.pending.map Pending.sequence

theorem mem_sequences {state : FlowState T} {number : U32} :
    number ∈ state.sequences ↔ ∃ pending ∈ state.pending, pending.sequence = number := by
  simp [sequences]

/-- A drain: the frames that leave are consecutive from the expected sequence
on, and the drain stops only where no frame is pending. -/
structure Drains (before after : FlowState T) (gone : List (Pending T)) (output : List T) :
    Prop where
  remaining : before.pending ~ gone ++ after.pending
  values : output = gone.map Pending.value
  contiguous : Contiguous before.expected (gone.map Pending.sequence) after.expected
  stopped : after.expected ∉ after.sequences
  timer : after.gapStartedMs = before.gapStartedMs

private theorem drainLoop_spec (fuel : Nat) (state : FlowState T)
    (enough : state.pending.length ≤ fuel) :
    ∃ gone, Drains state (drainLoop fuel state).1 gone (drainLoop fuel state).2 := by
  induction fuel generalizing state with
  | zero =>
      have empty : state.pending = [] := List.eq_nil_of_length_eq_zero (by omega)
      exact ⟨[], by simp [drainLoop, empty], rfl, .nil _, by simp [drainLoop, sequences, empty],
        rfl⟩
  | succ fuel inductionHypothesis =>
      simp only [drainLoop]
      cases search : state.pending.findIdx? fun pending => pending.sequence == state.expected with
      | none =>
          have absent : state.expected ∉ state.sequences := by
            rw [mem_sequences]
            rintro ⟨pending, member, same⟩
            have := List.findIdx?_eq_none_iff.mp search pending member
            simp [same] at this
          exact ⟨[], by simp, rfl, .nil _, absent, rfl⟩
      | some index =>
          obtain ⟨inside, hit, _⟩ := List.findIdx?_eq_some_iff_getElem.mp search
          have found : state.pending[index]? = some state.pending[index] :=
            List.getElem?_eq_getElem inside
          have extracted := perm_swapRemove found
          have same : state.pending[index].sequence = state.expected := by simpa using hit
          have shorter := extracted.length_eq
          rw [List.length_cons] at shorter
          obtain ⟨gone, drains⟩ := inductionHypothesis
            { state with
              pending := swapRemove state.pending index
              expected := state.expected + 1 } (by simp only; omega)
          simp only [found]
          refine ⟨state.pending[index] :: gone, ?_, ?_, ?_, drains.stopped, drains.timer⟩
          · exact extracted.trans (drains.remaining.cons _)
          · exact congrArg (List.cons _) drains.values
          · rw [List.map_cons, same]
            exact .cons drains.contiguous

theorem drainContiguous_spec (state : FlowState T) :
    ∃ gone, Drains state (drainContiguous state).1 gone (drainContiguous state).2 :=
  drainLoop_spec _ state (Nat.le_refl _)

/-- A forced release: the closest pending frame in front leaves first, then the
frames consecutive to it; the timer restarts when frames stay behind. -/
structure ReleasesLowest (nowMs : Nat) (before after : FlowState T) (lowest : Pending T)
    (gone : List (Pending T)) (output : List T) : Prop where
  remaining : before.pending ~ (lowest :: gone) ++ after.pending
  values : output = (lowest :: gone).map Pending.value
  forward : Forward before.expected lowest.sequence
  least : ∀ pending ∈ before.pending, Forward before.expected pending.sequence →
    ahead before.expected lowest.sequence ≤ ahead before.expected pending.sequence
  contiguous : Contiguous (lowest.sequence + 1) (gone.map Pending.sequence) after.expected
  stopped : after.expected ∉ after.sequences
  timer : after.gapStartedMs = if after.pending = [] then none else some nowMs

/-- The state has a pending frame in front of its expected sequence. -/
def HasForward (state : FlowState T) : Prop :=
  ∃ pending ∈ state.pending, Forward state.expected pending.sequence

instance (state : FlowState T) : Decidable state.HasForward :=
  inferInstanceAs (Decidable (∃ pending ∈ state.pending, _))

private theorem mem_candidates {state : FlowState T} {candidate : Nat × U32} :
    (candidate ∈ state.pending.zipIdx.filterMap fun (pending, index) =>
        if isForward pending.sequence state.expected then
          some (index, pending.sequence - state.expected)
        else none) ↔
      ∃ pending, state.pending[candidate.1]? = some pending ∧
        Forward state.expected pending.sequence ∧
        candidate.2 = pending.sequence - state.expected := by
  simp only [List.mem_filterMap, Prod.exists, List.mk_mem_zipIdx_iff_getElem?,
    Option.ite_none_right_eq_some, isForward_iff, Option.some.injEq]
  constructor
  · rintro ⟨pending, index, found, forward, rfl⟩
    exact ⟨pending, found, forward, rfl⟩
  · rintro ⟨pending, found, forward, distance⟩
    exact ⟨pending, candidate.1, found, forward, by rw [← distance]⟩

theorem lowestForward_eq_none {state : FlowState T} :
    state.lowestForward = none ↔ ¬ state.HasForward := by
  rw [lowestForward, List.argmin_eq_none, List.eq_nil_iff_forall_not_mem]
  simp only [mem_candidates, HasForward]
  constructor
  · rintro none ⟨pending, member, forward⟩
    obtain ⟨index, found⟩ := List.mem_iff_getElem?.mp member
    exact none (index, pending.sequence - state.expected) ⟨pending, found, forward, rfl⟩
  · rintro none candidate ⟨pending, found, forward, _⟩
    exact none ⟨pending, List.mem_of_getElem? found, forward⟩

theorem lowestForward_eq_some {state : FlowState T} {index : Nat} {distance : U32}
    (chosen : state.lowestForward = some (index, distance)) :
    ∃ lowest, state.pending[index]? = some lowest ∧ Forward state.expected lowest.sequence ∧
      ∀ pending ∈ state.pending, Forward state.expected pending.sequence →
        ahead state.expected lowest.sequence ≤ ahead state.expected pending.sequence := by
  obtain ⟨lowest, found, forward, rfl⟩ := mem_candidates.mp (List.argmin_mem chosen)
  refine ⟨lowest, found, forward, fun pending member inFront => ?_⟩
  obtain ⟨other, foundOther⟩ := List.mem_iff_getElem?.mp member
  have candidate := (@mem_candidates T state (other, pending.sequence - state.expected)).mpr
    ⟨pending, foundOther, inFront, rfl⟩
  exact List.le_of_mem_argmin (f := fun candidate : Nat × U32 => candidate.2.toNat)
    candidate chosen

/-- Without a frame in front a forced release only clears the timer. -/
theorem releaseLowest_of_not_hasForward {state : FlowState T} (nowMs : Nat)
    (none : ¬ state.HasForward) :
    state.releaseLowest nowMs = ({ state with gapStartedMs := .none }, []) := by
  rw [releaseLowest, lowestForward_eq_none.mpr none]

theorem releaseLowest_spec {state : FlowState T} (nowMs : Nat) (some : state.HasForward) :
    ∃ lowest gone,
      ReleasesLowest nowMs state (state.releaseLowest nowMs).1 lowest gone
        (state.releaseLowest nowMs).2 := by
  cases chosen : state.lowestForward with
  | none => exact absurd some (lowestForward_eq_none.mp chosen)
  | some candidate =>
      obtain ⟨lowest, found, forward, least⟩ := lowestForward_eq_some chosen
      obtain ⟨gone, drains⟩ := drainContiguous_spec
        { expected := lowest.sequence + 1
          gapStartedMs := none
          pending := swapRemove state.pending candidate.1 }
      refine ⟨lowest, gone, ?_⟩
      have remaining := (perm_swapRemove found).trans (drains.remaining.cons lowest)
      have values := congrArg (List.cons lowest.value) drains.values
      simp only [releaseLowest, chosen, found]
      split
      · rename_i empty
        refine ⟨remaining, values, forward, least, drains.contiguous,
          drains.stopped, ?_⟩
        rw [if_pos (by simpa using empty)]
        exact drains.timer
      · rename_i nonempty
        refine ⟨remaining, values, forward, least, drains.contiguous,
          drains.stopped, ?_⟩
        rw [if_neg (by simpa using nonempty)]

end FlowState

end Csqtt
