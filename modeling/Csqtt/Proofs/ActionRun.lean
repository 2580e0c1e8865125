/-
Module: Csqtt.Proofs.ActionRun
Purpose: When every answer of the host that comes in time is the one that its action returns,
  over all interleavings of calls and events.
Trusted boundary: none
Main exports: parseActionResult_event, ActionRun.Answered, ActionRun.Careful,
  ActionRun.answered_of_careful, ActionRun.answer_lost
-/
import Csqtt.Core.Transducer
import Csqtt.Helper.ActionRun
import Mathlib.Data.List.DropRight

namespace Csqtt

/-!
### Events
-/

/-- A text without blanks at its ends has none at its end. -/
theorem dropWhile_reverse_of_trim {text : Text} (trimmed : trim text = text) :
    text.reverse.dropWhile isWhitespace = text.reverse := by
  have back := congrArg List.reverse trimmed
  rw [trim, List.reverse_reverse] at back
  rw [← back, List.dropWhile_idempotent]

theorem trim_event (id : Text) {payload : Text} (trimmed : trim payload = payload) :
    trim (actionResultEvent id payload) = actionResultEvent id payload := by
  have bar : isWhitespace '|' = false := by decide
  have first : (actionResultEvent id payload).dropWhile isWhitespace =
      actionResultEvent id payload := rfl
  rw [trim, first, actionResultEvent, List.reverse_append, List.reverse_cons, List.append_assoc,
    List.dropWhile_append, dropWhile_reverse_of_trim trimmed]
  split
  · next empty =>
      have none : payload = [] := by simpa using empty
      rw [none, List.singleton_append, List.dropWhile_cons_of_neg (by simp [bar])]
      simp
  · simp

/-- The handling reads the id and the payload that the host wrote, if the id has no bar in it
and the payload no blanks at its ends. -/
theorem parseActionResult_event {id payload : Text} (plain : '|' ∉ id)
    (trimmed : trim payload = payload) :
    parseActionResult (actionResultEvent id payload) = some (id, payload) := by
  have rest : (actionResultEvent id payload).drop actionResultMarker.length =
      id ++ '|' :: payload := by
    rw [actionResultEvent, List.append_assoc, List.drop_left]
  have clear : ∀ character ∈ id, decide (character ≠ '|') = true := by
    intro character mem
    refine decide_eq_true ?_
    rintro rfl
    exact plain mem
  have marked : actionResultMarker.isPrefixOf (actionResultEvent id payload) = true :=
    List.isPrefixOf_iff_prefix.mpr ⟨id ++ '|' :: payload, (List.append_assoc _ _ _).symm⟩
  have present : '|' ∈ id ++ '|' :: payload := by simp
  simp only [parseActionResult, trim_event id trimmed, marked, rest, present, if_true,
    List.takeWhile_append_of_pos clear, List.dropWhile_append_of_pos clear]
  simp [trimmed]

namespace ActionRun

variable {state : ActionRun} {call : ActionCall} {event : ResultEvent} {index : Nat}

/-- What an action returned is what every answer that came in time stands for, while it waits the
answer lies ready, and nothing that was meant for another is received. -/
def Answered (self : ActionRun) : Prop :=
  ∀ call ∈ self.calls,
    (∀ result, call.point = .returned result →
      ∀ payload ∈ call.answers, result = actionResult payload false) ∧
    (∀ deadline, call.point = .waiting deadline →
      ∀ payload ∈ call.answers, call.box.map (·.payload) = some payload) ∧
    ∀ delivery, call.received = some delivery → delivery.meant = call.id

end ActionRun

/-- The call takes what comes through its channel. -/
def ActionPoint.opens : ActionPoint → Bool
  | .arming => true
  | .waiting _ => true
  | _ => false

/-- The call has not left its wait yet. -/
def ActionPoint.awaits : ActionPoint → Bool
  | .unregistering _ _ => false
  | .returned _ => false
  | _ => true

/-- The payload has been received. -/
def ActionCall.took (self : ActionCall) (payload : Text) : Prop :=
  self.received.map (·.payload) = some payload

/-- The payload lies in the channel, or could. -/
def ActionCall.takes (self : ActionCall) (payload : Text) : Prop :=
  self.point.opens = true ∧ (self.box = none ∨ self.box.map (·.payload) = some payload)

instance (call : ActionCall) (payload : Text) : Decidable (call.took payload) :=
  inferInstanceAs (Decidable (call.received.map (·.payload) = some payload))

instance (call : ActionCall) (payload : Text) : Decidable (call.takes payload) :=
  inferInstanceAs (Decidable (call.point.opens = true ∧
    (call.box = none ∨ call.box.map (·.payload) = some payload)))

namespace ActionRun

variable {state : ActionRun} {call : ActionCall} {event : ResultEvent} {index : Nat}

/-- An event that comes for a call in time finds the call's entry, and in its channel nothing
else. -/
def Meets (self : ActionRun) (event : ResultEvent) (call : ActionCall) : Prop :=
  match event.point with
  | .looking id _ => (self.actionWaiters.lookup id).isSome = true ∨ call.took event.payload
  | .sending _ _ => call.takes event.payload ∨ call.took event.payload
  | _ => True

/-- Ids are without bars and payloads without blanks at their ends; every event behind a marker
and in time meets its call at its wait; and nobody takes the deadline or a file while an answer
lies in the channel. -/
def Careful (self : ActionRun) : ActionInput → Prop
  | .host id payload => '|' ∉ id ∧ trim payload = payload
  | .handle index => ∀ event ∈ self.events[index]?, event.behind = true →
      ∀ call ∈ self.calls, call.id = event.id → self.inTime call = true → self.Meets event call
  | .run index .deadline => ∀ call ∈ self.calls[index]?, call.box = none
  | .run index .file => ∀ call ∈ self.calls[index]?, call.box = none
  | _ => True

instance (state : ActionRun) (event : ResultEvent) (call : ActionCall) :
    Decidable (state.Meets event call) := by
  unfold Meets
  split <;> infer_instance

instance : DecidableRel Careful := fun state input => by
  unfold Careful
  split <;> infer_instance

/-- Every answer of a call is what it received, or lies in its channel while it waits. -/
structure Expects (call : ActionCall) : Prop where
  answers : ∀ payload ∈ call.answers,
    call.took payload ∨ call.point.opens = true ∧ call.box.map (·.payload) = some payload
  received : ∀ delivery, call.received = some delivery → delivery.meant = call.id ∧
    (call.point = .unregistering delivery.payload false ∨
      call.point = .returned (actionResult delivery.payload false))
  box : ∀ delivery, call.box = some delivery → delivery.meant = call.id

/-- How far an event's handling is. -/
def Handled (ids : List Text) (event : ResultEvent) : Prop :=
  '|' ∉ event.id ∧ trim event.payload = event.payload ∧
    match event.point with
    | .looking id payload => id = event.id ∧ payload = event.payload
    | .sending waiter payload => ids[waiter]? = some event.id ∧ payload = event.payload
    | _ => True

def ids (self : ActionRun) : List Text := self.calls.map (·.id)

structure Sound (state : ActionRun) : Prop where
  calls : ∀ call ∈ state.calls, Expects call
  waiters : ∀ entry ∈ state.actionWaiters, state.ids[entry.2]? = some entry.1
  distinct : state.ids.Nodup
  events : ∀ event ∈ state.events, Handled state.ids event

theorem Expects.answered (expects : Expects call) (result : ActionResult)
    (returned : call.point = .returned result) :
    ∀ payload ∈ call.answers, result = actionResult payload false := by
  intro payload mem
  rcases expects.answers payload mem with took | ⟨opens, -⟩
  · obtain ⟨delivery, received, rfl⟩ := Option.map_eq_some_iff.mp took
    rcases (expects.received delivery received).2 with before | same
    · rw [returned] at before
      cases before
    · rw [returned] at same
      cases same
      rfl
  · rw [returned] at opens
    cases opens

theorem sound_initial : Sound initial where
  calls _ mem := absurd mem List.not_mem_nil
  waiters _ mem := absurd mem List.not_mem_nil
  distinct := List.nodup_nil
  events _ mem := absurd mem List.not_mem_nil

/-!
### Calls
-/

/-- A call that moves on keeps its id. -/
theorem ids_set {calls : List ActionCall} {moved : ActionCall}
    (here : calls[index]? = some call) (same : moved.id = call.id) :
    (calls.set index moved).map (·.id) = calls.map (·.id) := by
  apply List.ext_getElem?
  intro other
  by_cases equal : index = other
  · subst equal
    rw [List.getElem?_map, List.getElem?_map, here,
      List.getElem?_set_self (List.getElem?_eq_some_iff.mp here).1]
    exact congrArg some same
  · rw [List.getElem?_map, List.getElem?_map, List.getElem?_set_ne equal]

theorem Sound.setCall (sound : Sound state) (moved : ActionCall)
    (here : state.calls[index]? = some call) (same : moved.id = call.id)
    (expects : Expects moved) {waiters : List (Text × Nat)} {files : List (Text × Text)}
    (entries : ∀ entry ∈ waiters, state.ids[entry.2]? = some entry.1) :
    Sound { clock := state.clock, actionWaiters := waiters, calls := state.calls.set index moved,
            events := state.events, files := files } := by
  have same := ids_set here same
  constructor
  · intro other mem
    rcases List.mem_or_eq_of_mem_set mem with old | rfl
    · exact sound.calls other old
    · exact expects
  · exact fun entry mem => (congrArg (·[entry.2]?) same).trans (entries entry mem)
  · rw [ids, same]
    exact sound.distinct
  · intro event mem
    rw [ids, same]
    exact sound.events event mem

/-- A call that has received nothing expects what its channel may bring. -/
theorem expects_of_unread {moved : ActionCall} (unread : moved.received = none)
    (answers : ∀ payload ∈ moved.answers,
      moved.point.opens = true ∧ moved.box.map (·.payload) = some payload)
    (box : ∀ delivery, moved.box = some delivery → delivery.meant = moved.id) : Expects moved where
  answers payload mem := Or.inr (answers payload mem)
  received delivery impossible := by
    rw [unread] at impossible
    cases impossible
  box := box

/-- What a call received it has left its wait with. -/
theorem Expects.unread (expects : Expects call) (awaits : call.point.awaits = true) :
    call.received = none := by
  cases received : call.received with
  | none => rfl
  | some delivery =>
    rcases (expects.received delivery received).2 with left | left
    · rw [left] at awaits
      cases awaits
    · rw [left] at awaits
      cases awaits

theorem Expects.in_box (expects : Expects call) (unread : call.received = none) :
    ∀ payload ∈ call.answers,
      call.point.opens = true ∧ call.box.map (·.payload) = some payload := by
  intro payload mem
  rcases expects.answers payload mem with took | here
  · rw [ActionCall.took, unread] at took
    cases took
  · exact here

theorem Sound.answered (sound : Sound state) : state.Answered := by
  intro call mem
  have expects := sound.calls call mem
  refine ⟨expects.answered, ?_, fun delivery received => (expects.received delivery received).1⟩
  intro deadline there payload answer
  have unread := expects.unread (congrArg ActionPoint.awaits there)
  exact (expects.in_box unread payload answer).2

/-- With nothing in the channel no answer has come. -/
theorem Expects.empty (expects : Expects call) (unread : call.received = none)
    (box : call.box = none) : call.answers = [] := by
  cases answers : call.answers with
  | nil => rfl
  | cons payload rest =>
    have here := expects.in_box unread payload (by rw [answers]; exact List.mem_cons_self)
    rw [box] at here
    cases here.2

theorem Sound.go (sound : Sound state) {after : ActionRun}
    (here : state.calls[index]? = some call) (next : state.run index call .go = some after) :
    Sound after := by
  have mem := List.mem_of_getElem? here
  have expects := sound.calls call mem
  have known : state.ids[index]? = some call.id := by
    rw [ids, List.getElem?_map, here]
    rfl
  cases there : call.point with
  | emitting =>
    simp only [run, there] at next
    cases next
    have unread := expects.unread (congrArg ActionPoint.awaits there)
    refine sound.setCall { call with point := .registering } here rfl
      (expects_of_unread unread ?_ expects.box) sound.waiters
    intro payload mem
    have opens := (expects.in_box unread payload mem).1
    rw [there] at opens
    cases opens
  | registering =>
    simp only [run, there] at next
    cases next
    have unread := expects.unread (congrArg ActionPoint.awaits there)
    refine sound.setCall { call with point := .arming } here rfl
      (expects_of_unread unread ?_ expects.box) ?_
    · exact fun payload mem => ⟨rfl, (expects.in_box unread payload mem).2⟩
    · intro entry mem
      rcases List.mem_cons.mp mem with rfl | old
      · exact known
      · exact sound.waiters entry (List.mem_of_mem_filter old)
  | arming =>
    simp only [run, there] at next
    cases next
    have unread := expects.unread (congrArg ActionPoint.awaits there)
    refine sound.setCall { call with
        point := .waiting (state.clock + actionDeadline)
        deadline := some (state.clock + actionDeadline) } here rfl
      (expects_of_unread unread ?_ expects.box) sound.waiters
    exact fun payload mem => ⟨rfl, (expects.in_box unread payload mem).2⟩
  | waiting deadline =>
    simp only [run, there] at next
    cases next
  | unregistering answer timedOut =>
    simp only [run, there] at next
    cases next
    refine sound.setCall { call with point := .returned (actionResult answer timedOut) } here rfl
      ⟨?_, ?_, expects.box⟩ ?_
    · intro payload mem
      rcases expects.answers payload mem with took | ⟨opens, -⟩
      · exact Or.inl took
      · rw [there] at opens
        cases opens
    · intro delivery received
      obtain ⟨meant, before | behind⟩ := expects.received delivery received
      · rw [there] at before
        cases before
        exact ⟨meant, Or.inr rfl⟩
      · rw [there] at behind
        cases behind
    · exact fun entry mem => sound.waiters entry (List.mem_of_mem_filter mem)
  | returned result =>
    simp only [run, there] at next
    cases next

/-- A payload is taken from the channel. -/
theorem Sound.receive (sound : Sound state) {after : ActionRun}
    (here : state.calls[index]? = some call) (next : state.run index call .receive = some after) :
    Sound after := by
  have expects := sound.calls call (List.mem_of_getElem? here)
  simp only [run] at next
  split at next
  · next deadline delivery there box =>
      cases next
      have unread := expects.unread (congrArg ActionPoint.awaits there)
      refine sound.setCall { call with
          point := .unregistering delivery.payload false
          box := none
          received := some delivery } here rfl ⟨?_, ?_, ?_⟩ sound.waiters
      · intro payload mem
        have lies := (expects.in_box unread payload mem).2
        rw [box] at lies
        exact Or.inl lies
      · intro other same
        cases same
        exact ⟨expects.box delivery box, Or.inl rfl⟩
      · intro other impossible
        cases impossible
  · cases next

/-- A wait that ends otherwise had no answer. -/
theorem Sound.gives_up (sound : Sound state) (here : state.calls[index]? = some call)
    {deadline : Nat} (there : call.point = .waiting deadline) (box : call.box = none)
    {answer : Text} {timedOut : Bool} {files : List (Text × Text)} :
    Sound { state.setCall index { call with point := .unregistering answer timedOut } with
      files := files } := by
  have expects := sound.calls call (List.mem_of_getElem? here)
  have unread := expects.unread (congrArg ActionPoint.awaits there)
  refine sound.setCall { call with point := .unregistering answer timedOut } here rfl
    (expects_of_unread unread ?_ expects.box) sound.waiters
  intro payload mem
  rw [expects.empty unread box] at mem
  cases mem

theorem Sound.run (sound : Sound state) {after : ActionRun} {choice : ActionChoice}
    (here : state.calls[index]? = some call) (careful : state.Careful (.run index choice))
    (next : state.run index call choice = some after) : Sound after := by
  cases choice with
  | go => exact sound.go here next
  | receive => exact sound.receive here next
  | deadline =>
    simp only [ActionRun.run] at next
    split at next
    · next deadline there =>
        split at next
        · cases next
          exact sound.gives_up here there (careful call here)
        · cases next
    · cases next
  | file =>
    simp only [ActionRun.run] at next
    split at next
    · next deadline content there _ =>
        cases next
        exact sound.gives_up here there (careful call here)
    · cases next

/-!
### Events on their way
-/

theorem ids_credit (state : ActionRun) (event : ResultEvent) (call : ActionCall) :
    (state.credit event call).id = call.id := by
  rw [credit]
  split
  · rfl
  · rfl

/-- An answer is counted when it has been received or lies in the channel. -/
theorem Expects.credit (expects : Expects call)
    (met : call.id = event.id → event.behind = true → state.inTime call = true →
      call.took event.payload ∨
        call.point.opens = true ∧ call.box.map (·.payload) = some event.payload) :
    Expects (state.credit event call) := by
  rw [ActionRun.credit]
  split
  · next counted =>
      refine ⟨fun payload mem => ?_, expects.received, expects.box⟩
      rcases List.mem_append.mp mem with old | new
      · exact expects.answers payload old
      · rw [List.mem_singleton.mp new]
        exact met counted.1 counted.2.1 counted.2.2
  · exact expects

theorem Sound.finish (sound : Sound state) (here : state.events[index]? = some event)
    (met : ∀ call ∈ state.calls, call.id = event.id → event.behind = true →
      state.inTime call = true → call.took event.payload ∨
        call.point.opens = true ∧ call.box.map (·.payload) = some event.payload) :
    Sound (state.finish index event) := by
  have same : (state.finish index event).ids = state.ids := by
    rw [ids, ids, ActionRun.finish, List.map_map]
    exact List.map_congr_left fun call _ => ids_credit state event call
  constructor
  · intro call mem
    obtain ⟨before, there, rfl⟩ := List.mem_map.mp mem
    exact (sound.calls before there).credit (met before there)
  · intro entry mem
    rw [same]
    exact sound.waiters entry mem
  · rw [same]
    exact sound.distinct
  · intro other mem
    rw [same]
    rcases List.mem_or_eq_of_mem_set mem with old | rfl
    · exact sound.events other old
    · obtain ⟨plain, trimmed, -⟩ := sound.events event (List.mem_of_getElem? here)
      exact ⟨plain, trimmed, trivial⟩

/-- The handling goes on to its next point. -/
theorem Sound.handles (sound : Sound state) {point : ResultPoint}
    (handled : Handled state.ids { event with point := point }) :
    Sound { state with events := state.events.set index { event with point := point } } where
  calls := sound.calls
  waiters := sound.waiters
  distinct := sound.distinct
  events other mem := by
    rcases List.mem_or_eq_of_mem_set mem with old | rfl
    · exact sound.events other old
    · exact handled

/-- A payload in the channel is of the id that it was meant for. -/
theorem Expects.put (expects : Expects call) {delivery : Delivery}
    (meant : delivery.meant = call.id) : Expects (put delivery call) := by
  rw [ActionRun.put]
  cases box : call.box with
  | some _ => exact expects
  | none =>
    refine ⟨fun payload mem => ?_, expects.received, fun other same => ?_⟩
    · rcases expects.answers payload mem with took | ⟨-, lies⟩
      · exact Or.inl took
      · rw [box] at lies
        cases lies
    · cases same
      exact meant

theorem put_alike (delivery : Delivery) (call : ActionCall) :
    (put delivery call).id = call.id ∧ (put delivery call).deadline = call.deadline ∧
      (put delivery call).point = call.point ∧ (put delivery call).received = call.received := by
  rw [ActionRun.put]
  split
  · exact ⟨rfl, rfl, rfl, rfl⟩
  · exact ⟨rfl, rfl, rfl, rfl⟩

/-- Where the call may take it, the payload then lies in the channel. -/
theorem put_takes {delivery : Delivery} (takes : call.takes delivery.payload) :
    (put delivery call).point.opens = true ∧
      (put delivery call).box.map (·.payload) = some delivery.payload := by
  obtain ⟨opens, empty | lies⟩ := takes
  · rw [ActionRun.put, empty]
    exact ⟨opens, rfl⟩
  · obtain ⟨held, box, -⟩ := Option.map_eq_some_iff.mp lies
    rw [ActionRun.put, box]
    exact ⟨opens, lies⟩

theorem mem_deliver {waiter : Nat} {delivery : Delivery}
    (mem : call ∈ (state.deliver waiter delivery).calls) :
    ∃ place before, state.calls[place]? = some before ∧
      call = if waiter = place then put delivery before else before := by
  obtain ⟨place, there⟩ := List.getElem?_of_mem mem
  rw [deliver, List.getElem?_modify] at there
  obtain ⟨before, here, rfl⟩ := Option.map_eq_some_iff.mp there
  exact ⟨place, before, here, rfl⟩

theorem ids_deliver (state : ActionRun) (waiter : Nat) (delivery : Delivery) :
    (state.deliver waiter delivery).ids = state.ids := by
  apply List.ext_getElem?
  intro place
  rw [ids, ids, deliver, List.getElem?_map, List.getElem?_map, List.getElem?_modify]
  cases state.calls[place]? with
  | none => rfl
  | some call =>
    simp only [Option.map_eq_map, Option.map_some]
    split
    · rw [(put_alike delivery call).1]
    · rfl

theorem Sound.deliver (sound : Sound state) {waiter : Nat} {delivery : Delivery}
    (known : state.ids[waiter]? = some delivery.meant) : Sound (state.deliver waiter delivery) := by
  have same := ids_deliver state waiter delivery
  constructor
  · intro call mem
    obtain ⟨place, before, here, rfl⟩ := mem_deliver mem
    have expects := sound.calls before (List.mem_of_getElem? here)
    split
    · next equal =>
        subst equal
        rw [ids, List.getElem?_map, here] at known
        exact expects.put (Option.some.inj known).symm
    · exact expects
  · intro entry mem
    rw [same]
    exact sound.waiters entry mem
  · rw [same]
    exact sound.distinct
  · intro other mem
    rw [same]
    exact sound.events other mem

/-- What is sent to its waiter the waiter then has. -/
theorem Sound.sends (sound : Sound state) {waiter : Nat} {payload : Text}
    (here : state.events[index]? = some event) (there : event.point = .sending waiter payload)
    (careful : state.Careful (.handle index)) :
    Sound ((state.deliver waiter { payload := payload, meant := event.id }).finish index
      event) := by
  obtain ⟨-, -, handled⟩ := sound.events event (List.mem_of_getElem? here)
  rw [there] at handled
  obtain ⟨known, rfl⟩ := handled
  refine (sound.deliver known).finish here fun call mem same behind inTime => ?_
  obtain ⟨place, before, at', rfl⟩ := mem_deliver mem
  have mem' := List.mem_of_getElem? at'
  obtain ⟨sameId, sameDeadline, samePoint, sameReceived⟩ :=
    put_alike { payload := event.payload, meant := event.id } before
  split at same
  · next equal =>
      rw [if_pos equal] at inTime ⊢
      rw [sameId] at same
      have meets := careful event here behind before mem' same (by
        rw [ActionRun.inTime] at inTime ⊢
        rw [sameDeadline] at inTime
        exact inTime)
      rw [Meets, there] at meets
      rcases meets with takes | took
      · exact Or.inr (put_takes takes)
      · refine Or.inl ?_
        rw [ActionCall.took, sameReceived]
        exact took
  · next apart =>
      -- Two calls of one id are one.
      have bound := (List.getElem?_eq_some_iff.mp known).1
      have equal : state.ids[place]? = some event.id := by
        rw [ids, List.getElem?_map, at']
        exact congrArg some same
      exact absurd ((List.getElem?_inj bound sound.distinct).mp (known.trans equal.symm)) apart

theorem mem_of_lookup {waiters : List (Text × Nat)} {id : Text} {waiter : Nat}
    (found : waiters.lookup id = some waiter) : (id, waiter) ∈ waiters := by
  obtain ⟨before, after, rfl, -⟩ := List.lookup_eq_some_iff.mp found
  exact List.mem_append_right _ List.mem_cons_self

/-- The step lemma of an event. -/
theorem Sound.handle (sound : Sound state) {after : ActionRun}
    (here : state.events[index]? = some event) (careful : state.Careful (.handle index))
    (next : state.handle index event = some after) : Sound after := by
  obtain ⟨plain, trimmed, handled⟩ := sound.events event (List.mem_of_getElem? here)
  cases there : event.point with
  | begun =>
    simp only [ActionRun.handle, there, parseActionResult_event plain trimmed] at next
    cases next
    exact sound.handles ⟨plain, trimmed, rfl, rfl⟩
  | looking id payload =>
    rw [there] at handled
    obtain ⟨rfl, rfl⟩ := handled
    simp only [ActionRun.handle, there] at next
    cases found : state.actionWaiters.lookup event.id with
    | none =>
      rw [found] at next
      cases next
      refine sound.finish here fun call mem same behind inTime => Or.inl ?_
      have meets := careful event here behind call mem same inTime
      rw [Meets, there] at meets
      rcases meets with finds | took
      · rw [found] at finds
        cases finds
      · exact took
    | some waiter =>
      rw [found] at next
      cases next
      exact sound.handles ⟨plain, trimmed, sound.waiters _ (mem_of_lookup found), rfl⟩
  | sending waiter payload =>
    simp only [ActionRun.handle, there] at next
    cases next
    exact sound.sends here there careful
  | finished =>
    simp only [ActionRun.handle, there] at next
    cases next

theorem Sound.calling (sound : Sound state) {id : Text}
    (fresh : ¬ state.calls.any (fun call => call.id = id) = true) :
    Sound { state with
      calls := state.calls ++
        [{ id := id, point := .emitting, box := none, deadline := none, received := none,
           answers := [] }] } := by
  have grown : ∀ {place : Nat} {known : Text} (new : ActionCall),
      state.ids[place]? = some known →
        ((state.calls ++ [new]).map (·.id))[place]? = some known := by
    intro place known new there
    rw [List.map_append]
    exact (List.getElem?_append_left (List.getElem?_eq_some_iff.mp there).1).trans there
  constructor
  · intro call mem
    rcases List.mem_append.mp mem with old | new
    · exact sound.calls call old
    · rw [List.mem_singleton.mp new]
      exact ⟨fun _ mem => absurd mem List.not_mem_nil, nofun, nofun⟩
  · exact fun entry mem => grown _ (sound.waiters entry mem)
  · rw [ids, List.map_append, List.nodup_append]
    refine ⟨sound.distinct, List.nodup_singleton _, fun first mem second new same => ?_⟩
    obtain ⟨call, there, rfl⟩ := List.mem_map.mp mem
    refine fresh (List.any_eq_true.mpr ⟨call, there, decide_eq_true ?_⟩)
    exact same.trans (List.mem_singleton.mp new)
  · intro event mem
    obtain ⟨plain, trimmed, handled⟩ := sound.events event mem
    refine ⟨plain, trimmed, ?_⟩
    cases there : event.point with
    | sending waiter payload =>
      rw [there] at handled
      exact ⟨grown _ handled.1, handled.2⟩
    | looking _ _ =>
      rw [there] at handled
      exact handled
    | begun | finished => trivial

/-- The step lemma of the run. -/
theorem Sound.step (sound : Sound state) (input : ActionInput) (careful : state.Careful input) :
    Sound (state.step input).1 := by
  cases input with
  | tick elapsed => exact ⟨sound.calls, sound.waiters, sound.distinct, sound.events⟩
  | call id =>
    rw [ActionRun.step]
    split
    · exact sound
    · next fresh => exact sound.calling fresh
  | host id payload =>
    refine ⟨sound.calls, sound.waiters, sound.distinct, fun event mem => ?_⟩
    rcases List.mem_append.mp mem with old | new
    · exact sound.events event old
    · rw [List.mem_singleton.mp new]
      exact ⟨careful.1, careful.2, trivial⟩
  | handle index =>
    rw [ActionRun.step]
    cases here : state.events[index]? with
    | none => exact sound
    | some event =>
      cases next : state.handle index event with
      | none => simpa only [next, Option.getD_none] using sound
      | some after =>
        simp only [next, Option.getD_some]
        exact sound.handle here careful next
  | run index choice =>
    rw [ActionRun.step]
    cases here : state.calls[index]? with
    | none => exact sound
    | some call =>
      cases next : state.run index call choice with
      | none => simpa only [next, Option.getD_none] using sound
      | some after =>
        simp only [next, Option.getD_some]
        exact sound.run here careful next
  | writeFile id content => exact ⟨sound.calls, sound.waiters, sound.distinct, sound.events⟩

/-- However calls and events interleave, if every event behind its marker and in time meets its
call at the wait and no wait ends over an answer that lies ready, every action returns the
answer that the host sent for it. -/
theorem answered_of_careful (inputs : List ActionInput)
    (careful : Transducer.AtEveryStep step initial inputs Careful) :
    Transducer.Throughout step initial inputs Answered := by
  intro consumed within
  have sound := @Transducer.invariant_of_atEveryStep _ _ _ step Sound Careful
    (fun _ input sound careful => Sound.step sound input careful) _ _ sound_initial
      (careful.of_prefix within)
  exact sound.answered

theorem answered_one :
    Transducer.Throughout step initial
      [.call ['a'], .run 0 .go, .run 0 .go, .run 0 .go, .host ['a'] ['Y', 'Q', '=', '='],
       .handle 0, .handle 0, .handle 0, .run 0 .receive, .run 0 .go] Answered :=
  answered_of_careful _ (by decide +kernel)

/-- The host answers as soon as the marker is out, before the call's entry is there; five minutes
later the call gives up. -/
theorem answer_lost :
    ¬ ∀ inputs, Transducer.Throughout step initial inputs Answered := by
  intro always
  have answered := always
    [.call ['a'], .run 0 .go, .host ['a'] ['Y', 'Q', '=', '='], .handle 0, .handle 0, .run 0 .go,
     .run 0 .go, .tick 300000, .run 0 .deadline, .run 0 .go] _ (List.prefix_refl _)
  have returned := (answered
    { id := ['a'], point := .returned .cancelled, box := none, deadline := some 300000,
      received := none, answers := [['Y', 'Q', '=', '=']] } (by decide +kernel)).1 .cancelled rfl
  exact absurd (returned ['Y', 'Q', '=', '='] List.mem_cons_self) (by decide)

end ActionRun

end Csqtt
