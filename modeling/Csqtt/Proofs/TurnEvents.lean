/-
Module: Csqtt.Proofs.TurnEvents
Purpose: The account of events pushed, pulled, waiting and reported as lost.
Trusted boundary: none
Main exports: pushes, overflows, realEvents, reportedLost, events_conserved,
  events_balance_iff_room
-/
import Csqtt.Proofs.TurnLifecycle

namespace Csqtt

open Inner

def Entry.isPush : Entry → Bool
  | .pushed _ _ => true
  | _ => false

/-- A push that found the queue full. -/
def Entry.isOverflow : Entry → Bool
  | .pushed _ waiting => waiting = eventCapacity
  | _ => false

/-- How often an event was pushed. -/
def pushes (history : List Entry) : Nat :=
  history.countP Entry.isPush

def overflows (history : List Entry) : Nat :=
  history.countP Entry.isOverflow

/-- Events that report something else than lost events. -/
def realEvents (events : List NativeEvent) : Nat :=
  (events.filter fun event => event.kind ≠ .eventOverflow).length

/-- How many lost events are reported. -/
def reportedLost (events : List NativeEvent) : Nat :=
  ((events.filter fun event => event.kind = .eventOverflow).map (·.dropped)).sum

def Reply.pulled : Reply → Option NativeEvent
  | .event result => result
  | _ => none

/-- The events that a run handed out. -/
def pulledEvents (replies : List Reply) : List NativeEvent :=
  replies.filterMap Reply.pulled

/-- Every event reports itself or exactly one lost event. -/
def CountsOne (events : List NativeEvent) : Prop :=
  ∀ event ∈ events, event.kind = .eventOverflow → event.dropped = 1

theorem accounted_of_countsOne {events : List NativeEvent} (one : CountsOne events) :
    realEvents events + reportedLost events = events.length := by
  induction events with
  | nil => rfl
  | cons event events inductionHypothesis =>
      have rest := inductionHypothesis fun other member =>
        one other (List.mem_cons_of_mem _ member)
      have here := one event List.mem_cons_self
      by_cases marker : event.kind = .eventOverflow
      · simp only [realEvents, reportedLost, marker, List.filter_cons, decide_true, decide_false,
          ne_eq, not_true, Bool.false_eq_true, if_false, if_true, List.map_cons, List.sum_cons,
          here marker, List.length_cons] at rest ⊢
        omega
      · simp only [realEvents, reportedLost, marker, List.filter_cons, decide_true, decide_false,
          ne_eq, not_false_eq_true, Bool.false_eq_true, if_false, if_true,
          List.length_cons] at rest ⊢
        omega

theorem realEvents_append (first second : List NativeEvent) :
    realEvents (first ++ second) = realEvents first + realEvents second := by
  simp [realEvents]

section Account

variable {crypto : StunCrypto} {grant : Prop} {inner inner' : Inner}

/-- What is out, what is waiting and what was lost without a trace make up what was pushed. -/
structure Accounted (inner : Inner) (pulled : List NativeEvent) : Prop where
  waiting : CountsOne inner.events
  out : CountsOne pulled
  few : inner.events.length ≤ eventCapacity
  total : pushes inner.history = pulled.length + inner.events.length + overflows inner.history

theorem accounted_push {pulled : List NativeEvent} (accounted : Accounted inner pulled)
    (event : NativeEvent) (real : event.kind ≠ .eventOverflow) :
    Accounted (inner.pushEvent event) pulled := by
  have total := accounted.total
  have few := accounted.few
  by_cases full : inner.events.length = eventCapacity
  · have positive : 0 < eventCapacity := by decide
    constructor
    · intro other member
      simp only [pushEvent, full, if_true, List.mem_append, List.mem_singleton] at member
      rcases member with old | rfl
      · exact accounted.waiting other (List.mem_of_mem_drop old)
      · exact fun _ => rfl
    · exact accounted.out
    · simp only [pushEvent, full, if_true, List.length_append, List.length_drop,
        List.length_singleton]
      omega
    · simp only [pushEvent, full, if_true, pushes, overflows, List.countP_append,
        List.countP_singleton, Entry.isPush, Entry.isOverflow, decide_true, List.length_append,
        List.length_drop, List.length_singleton] at total ⊢
      omega
  · constructor
    · intro other member
      simp only [pushEvent, full, if_false, List.mem_append, List.mem_singleton] at member
      rcases member with old | rfl
      · exact accounted.waiting other old
      · exact fun marker => absurd marker real
    · exact accounted.out
    · simp only [pushEvent, full, if_false, List.length_append, List.length_singleton]
      omega
    · simp only [pushEvent, full, if_false, if_true, pushes, overflows, List.countP_append,
        List.countP_singleton, Entry.isPush, Entry.isOverflow, decide_false, Bool.false_eq_true,
        List.length_append, List.length_singleton] at total ⊢
      omega

/-- The other moves leave the queue alone. -/
theorem accounted_same {pulled : List NativeEvent} (accounted : Accounted inner pulled)
    (events : inner'.events = inner.events) {new : List Entry}
    (grown : inner'.history = inner.history ++ new)
    (none_ : ∀ entry ∈ new, entry.isPush = false) : Accounted inner' pulled := by
  have noPush : new.countP Entry.isPush = 0 := by
    simpa [List.countP_eq_zero] using none_
  have noOverflow : new.countP Entry.isOverflow = 0 := by
    rw [List.countP_eq_zero]
    intro entry member
    have silent := none_ entry member
    cases entry with
    | pushed event waiting => cases silent
    | queued cause packet => exact Bool.false_ne_true
    | timedOut serial time => exact Bool.false_ne_true
  constructor
  · rw [events]
    exact accounted.waiting
  · exact accounted.out
  · rw [events]
    exact accounted.few
  · rw [events, grown, pushes, overflows, List.countP_append, List.countP_append, noPush,
      noOverflow]
    exact accounted.total

theorem accounted_move {pulled : List NativeEvent} (move : Move crypto grant inner inner')
    (accounted : Accounted inner pulled) : Accounted inner' pulled := by
  cases move with
  | event event real => exact accounted_push accounted event real
  | start operation transaction time authenticated nonceRetries packet absent permitted
      credentialed proves tries built =>
      exact accounted_same accounted rfl rfl (by simp [Entry.isPush])
  | again pending member channel => exact accounted_same accounted rfl rfl (by simp [Entry.isPush])
  | keepAlive packet live running => exact accounted_same accounted rfl rfl (by simp [Entry.isPush])
  | timeOut index pending now found due last =>
      exact accounted_same accounted rfl rfl (by simp [Entry.isPush])
  | retransmit index pending now found due left =>
      exact accounted_same accounted rfl rfl (by simp [Entry.isPush])
  | _ => exact accounted_same accounted rfl (List.append_nil _).symm (by simp)

theorem accounted_moves {pulled : List NativeEvent} (moves : Moves crypto grant inner inner')
    (accounted : Accounted inner pulled) : Accounted inner' pulled := by
  induction moves with
  | refl => exact accounted
  | tail _ move inductionHypothesis => exact accounted_move move inductionHypothesis

/-- Pulling an event takes it from those that wait. -/
theorem accounted_pull {pulled : List NativeEvent} (accounted : Accounted inner pulled) :
    Accounted inner.pullEvent.1 (pulled ++ inner.pullEvent.2.toList) := by
  have total := accounted.total
  cases events : inner.events with
  | nil =>
      have same : inner.pullEvent.1 = inner := by
        simp only [pullEvent, events, List.drop_nil]
        rw [← events]
      have none_ : inner.pullEvent.2 = none := by simp [pullEvent, events]
      rw [same, none_]
      simpa using accounted
  | cons event rest =>
      have waiting := accounted.waiting
      have few := accounted.few
      rw [events] at waiting few total
      constructor
      · simp only [pullEvent, events, List.drop_succ_cons, List.drop_zero]
        exact fun other member => waiting other (List.mem_cons_of_mem _ member)
      · intro other member
        simp only [pullEvent, events, List.head?_cons, Option.toList_some, List.mem_append,
          List.mem_singleton] at member
        rcases member with old | rfl
        · exact accounted.out other old
        · exact waiting other List.mem_cons_self
      · simp only [pullEvent, events, List.drop_succ_cons, List.drop_zero]
        simp only [List.length_cons] at few
        omega
      · simp only [pullEvent, events, List.drop_succ_cons, List.drop_zero, List.head?_cons,
          Option.toList_some, List.length_append, List.length_cons, List.length_nil] at total ⊢
        omega

/-- A call hands out what it takes from the queue, and nothing else. -/
theorem accounted_step {pulled : List NativeEvent} (sound : Sound inner) (call : Call)
    (accounted : Accounted inner pulled) :
    Accounted (inner.step crypto call).1 (pulled ++ (inner.step crypto call).2.pulled.toList) := by
  by_cases action : call.action = .pullEvent
  · simp only [step, action, Reply.pulled]
    exact accounted_pull accounted
  · have none_ : (inner.step crypto call).2.pulled = none := by
      cases kind : call.action
      case pullEvent => exact absurd kind action
      all_goals simp only [step, kind, Reply.pulled]
    rw [none_, Option.toList_none, List.append_nil]
    exact accounted_moves (moves_step sound call action) accounted

theorem accounted_fresh (fresh : Fresh inner) : Accounted inner [] := by
  have blank := blank_of_fresh fresh
  constructor
  · simp [CountsOne, blank.events]
  · simp [CountsOne]
  · simp [blank.events]
  · simp [blank.events, blank.history, pushes, overflows]

theorem accounted_run (fresh : Fresh inner) (calls : List Call) :
    Accounted (after crypto inner calls)
      (pulledEvents (Transducer.run (Inner.step crypto) inner calls).2) := by
  induction calls using List.reverseRecOn with
  | nil => exact accounted_fresh fresh
  | append_singleton calls call inductionHypothesis =>
      have stepped : Accounted ((after crypto inner calls).step crypto call).1 _ :=
        accounted_step (sound_run fresh calls) call inductionHypothesis
      simp only [after, Transducer.run_concat, pulledEvents, List.filterMap_append]
      have last (reply : Reply) : [reply].filterMap Reply.pulled = reply.pulled.toList := by
        cases pulled : reply.pulled <;> simp [pulled]
      rw [last]
      exact stepped

theorem overflows_eq_zero_iff {history : List Entry} :
    overflows history = 0 ↔
      ∀ event waiting, .pushed event waiting ∈ history → waiting ≠ eventCapacity := by
  rw [overflows, List.countP_eq_zero]
  constructor
  · intro none_ event waiting member full
    exact none_ _ member (decide_eq_true full)
  · intro room entry member
    cases entry with
    | pushed event waiting => simpa [Entry.isOverflow] using room event waiting member
    | queued cause packet => exact Bool.false_ne_true
    | timedOut serial time => exact Bool.false_ne_true

end Account

/-- Every push that finds the queue full loses one event that nothing reports. -/
theorem events_conserved (crypto : StunCrypto) {inner : Inner} (fresh : Fresh inner)
    (calls : List Call) :
    let run := Transducer.run (Inner.step crypto) inner calls
    pushes run.1.history =
      realEvents (pulledEvents run.2) + realEvents run.1.events +
        reportedLost (pulledEvents run.2 ++ run.1.events) + overflows run.1.history := by
  intro run
  have accounted : Accounted run.1 (pulledEvents run.2) := accounted_run fresh calls
  have together : CountsOne (pulledEvents run.2 ++ run.1.events) := by
    intro event member
    rcases List.mem_append.mp member with out | waiting
    · exact accounted.out event out
    · exact accounted.waiting event waiting
  have split := accounted_of_countsOne together
  rw [realEvents_append, List.length_append] at split
  rw [accounted.total, ← split]

/-- What is out, what is waiting and what is reported as lost make up what was pushed exactly
if no push ever found the queue full. -/
theorem events_balance_iff_room (crypto : StunCrypto) (inner : Inner) (fresh : Fresh inner)
    (calls : List Call) :
    let run := Transducer.run (Inner.step crypto) inner calls
    pushes run.1.history =
        realEvents (pulledEvents run.2) + realEvents run.1.events +
          reportedLost (pulledEvents run.2 ++ run.1.events) ↔
      ∀ event waiting, .pushed event waiting ∈ run.1.history → waiting ≠ eventCapacity := by
  intro run
  have conserved : pushes run.1.history = realEvents (pulledEvents run.2) +
      realEvents run.1.events + reportedLost (pulledEvents run.2 ++ run.1.events) +
        overflows run.1.history := events_conserved crypto fresh calls
  rw [← overflows_eq_zero_iff, conserved]
  exact Nat.add_eq_left

theorem started_client_loses_no_event :
    let calls : List Call := [
      { action := .startAllocation, now := 0, draw := drawAt 0 },
      { action := .pullEvent, now := 1, draw := drawAt 1 }]
    let run := Transducer.run (Inner.step StunCrypto.standard) (localClient .datagram) calls
    pushes run.1.history =
        realEvents (pulledEvents run.2) + realEvents run.1.events +
          reportedLost (pulledEvents run.2 ++ run.1.events) ↔
      ∀ event waiting, .pushed event waiting ∈ run.1.history → waiting ≠ eventCapacity := by
  intro calls
  exact events_balance_iff_room StunCrypto.standard (localClient .datagram)
    (fresh_localClient .datagram) calls

/-!
### A flood of events

Error responses without a MAC leave an authenticated transaction pending, and each reports
itself.
-/

/-- A challenge to the transaction of an Allocate. -/
def challengeBytes : List U8 :=
  [0x01, 0x13, 0, 0x20, 0x21, 0x12, 0xa4, 0x42, 0, 0, 0, 0, 0, 0, 0, 0, 0, 0, 0, 3,
    0, 0x09, 0, 4, 0, 0, 4, 1,
    0, 0x14, 0, 5, 0x72, 0x65, 0x61, 0x6c, 0x6d, 0, 0, 0,
    0, 0x15, 0, 5, 0x6e, 0x6f, 0x6e, 0x63, 0x65, 0, 0, 0]

/-- An error response to it, with the code 403 and no MAC. -/
def forbiddenBytes : List U8 :=
  [0x01, 0x13, 0, 0x08, 0x21, 0x12, 0xa4, 0x42, 0, 0, 0, 0, 0, 0, 0, 0, 0, 0, 0, 3,
    0, 0x09, 0, 4, 0, 0, 4, 3]

/-- After the challenge, as many refusals as the queue has room for. -/
def floodCalls : List Call :=
  [{ action := .startAllocation, now := 0, draw := drawAt 0 },
    { action := .inputStun challengeBytes, now := 1, draw := drawAt 1 }] ++
  List.replicate 64 { action := .inputStun forbiddenBytes, now := 2, draw := drawAt 2 }

/-- Of 65 events, with none pulled, 63 wait and one is reported as lost. -/
theorem flood_loses_an_event :
    let run := Transducer.run (Inner.step StunCrypto.standard) (localClient .datagram) floodCalls
    pushes run.1.history = 65 ∧ pulledEvents run.2 = [] ∧ realEvents run.1.events = 63 ∧
      reportedLost (pulledEvents run.2 ++ run.1.events) = 1 ∧
      ¬pushes run.1.history =
        realEvents (pulledEvents run.2) + realEvents run.1.events +
          reportedLost (pulledEvents run.2 ++ run.1.events) := by
  decide +kernel

end Csqtt
