/-
Module: Csqtt.Proofs.ReassemblerTagged
Purpose: The reorder buffer never looks at the values it carries. A run on tagged
  values therefore does what the run on the values alone does, and the tags tell
  which push every delivered value comes from.
Trusted boundary: none
Main exports: Pending.map, FlowState.map, FlowReassembler.map, push_map, Push.tagged, run_tagged
-/
import Csqtt.Core.Transducer
import Csqtt.Proofs.ReassemblerSound

namespace Csqtt

open Transducer

variable {T T' : Type*}

@[simps]
def Pending.map (f : T → T') (pending : Pending T) : Pending T' where
  sequence := pending.sequence
  value := f pending.value

theorem swapRemove_map (f : T → T') (items : List T) (index : Nat) :
    swapRemove (items.map f) index = (swapRemove items index).map f := by
  simp only [swapRemove, List.getLast?_map]
  cases items.getLast? with
  | none => rfl
  | some last => simp

namespace FlowState

@[simps]
def map (f : T → T') (state : FlowState T) : FlowState T' where
  expected := state.expected
  gapStartedMs := state.gapStartedMs
  pending := state.pending.map (Pending.map f)

/-- The results of an operation, its values transformed. -/
def mapResult (f : T → T') (result : FlowState T × List T) : FlowState T' × List T' :=
  (result.1.map f, result.2.map f)

/-- The results of an operation on the shared count, its values transformed. -/
def mapCounted (f : T → T') (result : FlowState T × Nat × List T) :
    FlowState T' × Nat × List T' :=
  (result.1.map f, result.2.1, result.2.2.map f)

theorem drainLoop_map (f : T → T') (fuel : Nat) (state : FlowState T) :
    drainLoop fuel (state.map f) = mapResult f (drainLoop fuel state) := by
  induction fuel generalizing state with
  | zero => rfl
  | succ fuel inductionHypothesis =>
      have sameIndex : state.pending.findIdx?
          ((fun pending => pending.sequence == state.expected) ∘ Pending.map f) =
            state.pending.findIdx? fun pending => pending.sequence == state.expected := rfl
      simp only [drainLoop, map_pending, List.findIdx?_map, map_expected, sameIndex]
      cases state.pending.findIdx? fun pending => pending.sequence == state.expected with
      | none => rfl
      | some index =>
          simp only [List.getElem?_map]
          cases state.pending[index]? with
          | none => rfl
          | some pending =>
              have rest := inductionHypothesis
                { state with
                  pending := swapRemove state.pending index
                  expected := state.expected + 1 }
              simp only [map, ← swapRemove_map] at rest
              simp only [Option.map_some, rest, mapResult, Pending.map_value, List.map_cons,
                map_gapStartedMs]

theorem drainContiguous_map (f : T → T') (state : FlowState T) :
    drainContiguous (state.map f) = mapResult f (drainContiguous state) := by
  simp [drainContiguous, drainLoop_map]

theorem lowestForward_map (f : T → T') (state : FlowState T) :
    (state.map f).lowestForward = state.lowestForward := by
  simp only [lowestForward, map_pending, List.zipIdx_map, List.filterMap_map]
  rfl

theorem releaseLowest_map (f : T → T') (nowMs : Nat) (state : FlowState T) :
    releaseLowest (state.map f) nowMs = mapResult f (releaseLowest state nowMs) := by
  simp only [releaseLowest, lowestForward_map]
  cases state.lowestForward with
  | none => rfl
  | some chosen =>
      simp only [map_pending, List.getElem?_map]
      cases state.pending[chosen.1]? with
      | none => rfl
      | some pending =>
          have drained := drainContiguous_map f
            { expected := pending.sequence + 1
              gapStartedMs := none
              pending := swapRemove state.pending chosen.1 }
          simp only [map, ← swapRemove_map] at drained
          simp only [Option.map_some, Pending.map_sequence, Pending.map_value, drained, mapResult,
            List.map_cons, map_pending, List.isEmpty_map]
          split <;> rfl

theorem gapExpired_map (f : T → T') (nowMs : Nat) (state : FlowState T) :
    (state.map f).gapExpired nowMs = state.gapExpired nowMs := rfl

theorem releaseExpired_map (f : T → T') (nowMs : Nat) (state : FlowState T) :
    releaseExpired (state.map f) nowMs = mapResult f (releaseExpired state nowMs) := by
  simp only [releaseExpired, gapExpired_map, releaseLowest_map]
  split <;> rfl

/-- What holds of a release holds of its accounted form. -/
theorem accounted_map {f : T → T'} {release : FlowState T → FlowState T × List T}
    {release' : FlowState T' → FlowState T' × List T'}
    (natural : ∀ state, release' (state.map f) = mapResult f (release state))
    (state : FlowState T) (pendingTotal : Nat) :
    accounted release' (state.map f) pendingTotal =
      mapCounted f (accounted release state pendingTotal) := by
  simp [accounted, natural, mapResult, mapCounted]

theorem accounted_releaseLowest_map (f : T → T') (nowMs : Nat) (state : FlowState T)
    (pendingTotal : Nat) :
    accounted (releaseLowest · nowMs) (state.map f) pendingTotal =
      mapCounted f (accounted (releaseLowest · nowMs) state pendingTotal) :=
  accounted_map (fun state => releaseLowest_map f nowMs state) state pendingTotal

theorem accounted_releaseExpired_map (f : T → T') (nowMs : Nat) (state : FlowState T)
    (pendingTotal : Nat) :
    accounted (releaseExpired · nowMs) (state.map f) pendingTotal =
      mapCounted f (accounted (releaseExpired · nowMs) state pendingTotal) :=
  accounted_map (fun state => releaseExpired_map f nowMs state) state pendingTotal

theorem deliver_map (f : T → T') (state : FlowState T) (pendingTotal : Nat) (value : T) :
    deliver (state.map f) pendingTotal (f value) =
      mapCounted f (deliver state pendingTotal value) := by
  have drained := accounted_map (drainContiguous_map f)
    { state with expected := state.expected + 1, gapStartedMs := none } pendingTotal
  simp only [map] at drained
  simp only [deliver, map, drained, mapCounted, List.map_cons]

theorem rejects_map (f : T → T') (state : FlowState T) (sequence : U32) :
    (state.map f).rejects sequence = state.rejects sequence := by
  simp [rejects, List.any_map, Function.comp_def]

theorem startTimer_map (f : T → T') (state : FlowState T) (nowMs : Nat) :
    (state.map f).startTimer nowMs = (state.startTimer nowMs).map f := by
  simp only [startTimer, map_gapStartedMs]
  split <;> rfl

theorem keep_map (f : T → T') (state : FlowState T) (pendingTotal : Nat) (sequence : U32)
    (value : T) (nowMs : Nat) :
    keep (state.map f) pendingTotal sequence (f value) nowMs =
      mapCounted f (keep state pendingTotal sequence value nowMs) := by
  have kept : ({ state.map f with
      pending := (state.map f).pending ++ [{ sequence := sequence, value := f value }] } :
        FlowState T') =
      ({ state with pending := state.pending ++ [{ sequence := sequence, value := value }] } :
        FlowState T).map f := by
    simp [map, Pending.map]
  simp only [keep, kept]
  by_cases spent : maxPendingTotal < pendingTotal + 1
  · simp only [spent, if_true, accounted_releaseLowest_map, mapCounted,
      startTimer_map, accounted_releaseExpired_map, List.map_append]
  · simp only [spent, if_false, startTimer_map, accounted_releaseExpired_map,
      mapCounted, List.map_append, List.map_nil]

theorem buffer_map (f : T → T') (state : FlowState T) (pendingTotal : Nat) (sequence : U32)
    (value : T) (nowMs : Nat) :
    buffer (state.map f) pendingTotal sequence (f value) nowMs =
      mapCounted f (buffer state pendingTotal sequence value nowMs) := by
  have full : (if (state.map f).pending.length = maxPendingPerFlow then
        accounted (releaseLowest · nowMs) (state.map f) pendingTotal
      else (state.map f, pendingTotal, [])) =
      mapCounted f (if state.pending.length = maxPendingPerFlow then
        accounted (releaseLowest · nowMs) state pendingTotal
      else (state, pendingTotal, [])) := by
    rw [map_pending, List.length_map]
    split
    · exact accounted_releaseLowest_map f nowMs state pendingTotal
    · rfl
  simp only [buffer, full]
  generalize (if state.pending.length = maxPendingPerFlow then
        accounted (releaseLowest · nowMs) state pendingTotal
      else (state, pendingTotal, [])) = freed
  simp only [mapCounted, map_pending, List.isEmpty_map, accounted_releaseLowest_map,
    keep_map]
  by_cases spent : freed.2.1 = maxPendingTotal
  · simp only [spent, if_true]
    cases freed.1.pending.isEmpty with
    | true => simp [map]
    | false => simp
  · simp [spent]

theorem arrive_map (f : T → T') (state : FlowState T) (pendingTotal : Nat) (sequence : U32)
    (value : T) (nowMs : Nat) :
    arrive (state.map f) pendingTotal sequence (f value) nowMs =
      mapCounted f (arrive state pendingTotal sequence value nowMs) := by
  simp only [arrive, accounted_releaseExpired_map]
  generalize accounted (releaseExpired · nowMs) state pendingTotal = expired
  simp only [mapCounted, map_expected, rejects_map, deliver_map, buffer_map]
  split
  · simp
  · split
    · rfl
    · simp

end FlowState

namespace FlowReassembler

def map (f : T → T') (self : FlowReassembler T) : FlowReassembler T' where
  flows := HashTable.mapValues (FlowState.map f) self.flows
  pendingTotal := self.pendingTotal

@[simp] theorem map_new (f : T → T') : (new : FlowReassembler T).map f = new := rfl

theorem makeRoom_map (f : T → T') (self : FlowReassembler T) (key : ReassemblyKey) :
    (self.map f).makeRoom key = (self.makeRoom key).map f := by
  have same : (self.map f).resets key = self.resets key := by simp [resets, map]
  simp only [makeRoom, same]
  split <;> rfl

theorem flowState_map (f : T → T') (self : FlowReassembler T) (key : ReassemblyKey) :
    (self.map f).flowState key = (self.flowState key).map f := by
  simp only [flowState, map, HashTable.lookup_mapValues]
  cases self.flows.lookup key with
  | none => rfl
  | some state => rfl

end FlowReassembler

def Push.map (f : T → T') (push : Push T) : Push T' :=
  { push with value := f push.value }

namespace FlowReassembler

theorem push_map (f : T → T') (self : FlowReassembler T) (push : Push T) :
    (self.map f).push (push.map f) = ((self.push push).1.map f, (self.push push).2.map f) := by
  simp only [FlowReassembler.push, pushAt, Push.map, makeRoom_map, flowState_map]
  simp only [map, FlowState.arrive_map, FlowState.mapCounted, HashTable.mapValues_insert]

theorem run_map (f : T → T') (self : FlowReassembler T) (pushes : List (Push T)) :
    run push (self.map f) (pushes.map (Push.map f)) =
      ((run push self pushes).1.map f, (run push self pushes).2.map (List.map f)) := by
  induction pushes generalizing self with
  | nil => rfl
  | cons push pushes inductionHypothesis =>
      simp only [List.map_cons, run_cons, push_map, inductionHypothesis]

end FlowReassembler

/-- The push with a tag attached to its value. -/
def Push.tagged {Tag : Type*} (push : Push T) (tag : Tag) : Push (Tag × T) :=
  { push with value := (tag, push.value) }

/-- Without the tags a tagged run is the run on the values. -/
theorem FlowReassembler.run_tagged {Tag : Type*} {pushes : List (Push T)}
    {tagged : List (Push (Tag × T))} (untagged : tagged.map (Push.map Prod.snd) = pushes) :
    (run push new pushes).1 = (run push new tagged).1.map Prod.snd ∧
      (run push new pushes).2 = (run push new tagged).2.map (List.map Prod.snd) := by
  have natural := run_map Prod.snd (new : FlowReassembler (Tag × T)) tagged
  rw [untagged, map_new] at natural
  exact ⟨congrArg Prod.fst natural, congrArg Prod.snd natural⟩

end Csqtt
