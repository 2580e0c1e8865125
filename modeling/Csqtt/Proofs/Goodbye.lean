/-
Module: Csqtt.Proofs.Goodbye
Purpose: Who sends the disconnect request, how often and in which order, over all interleavings
  of the host's stops with the engines, their sessions and their callers.
Trusted boundary: none
Main exports: ShutdownCoordinator.Courteous, Goodbye.Polite, Goodbye.Timely, Goodbye.polite_of_timely,
  Goodbye.stale_stop
-/
import Csqtt.Core.Interleaving
import Csqtt.Core.Transducer
import Csqtt.Engine.Goodbye

namespace Csqtt

namespace ControlStream

/-- As numbers. -/
theorem above_iff {left right : ControlStream} : Above left right ↔
    right.activity.toNat < left.activity.toNat ∨
      right.activity.toNat = left.activity.toNat ∧ right.incarnation ≤ left.incarnation := by
  rw [Above, BitVec.lt_def, BitVec.toNat_inj]

instance : Std.Total Above where
  total left right := by
    rw [above_iff, above_iff]
    omega

instance : IsTrans ControlStream Above where
  trans first second third above below := by
    rw [above_iff] at above below ⊢
    omega

/-- Streams in the order of the snapshot, each of them once. -/
def InOrder (streams : List ControlStream) : Prop :=
  streams.Pairwise Above ∧ (streams.map (·.session)).Nodup

theorem inOrder_nil : InOrder [] := ⟨List.Pairwise.nil, List.nodup_nil⟩

theorem inOrder_sort {streams : List ControlStream} (once : (streams.map (·.session)).Nodup) :
    InOrder (streams.insertionSort Above) :=
  ⟨List.pairwise_insertionSort Above streams,
    ((List.perm_insertionSort Above streams).map _).nodup_iff.mpr once⟩

theorem InOrder.of_append {first second : List ControlStream} (order : InOrder (first ++ second)) :
    InOrder first := by
  refine ⟨(List.pairwise_append.mp order.1).1, ?_⟩
  have once := order.2
  rw [List.map_append] at once
  exact once.of_append_left

end ControlStream

/-- The caller is the one that sends. -/
def CallerPoint.leads : CallerPoint → Bool
  | .entering => false
  | .waiting .follower _ => false
  | .announced .follower _ _ => false
  | .asleep .follower _ _ => false
  | .expired .follower _ => false
  | .returned _ => false
  | _ => true

/-- It has looked whether all is completed, and is about to send. -/
def CallerPoint.committed : CallerPoint → Bool
  | .timing _ _ _ => true
  | .sending _ _ _ _ => true
  | _ => false

/-- It has no snapshot of the streams yet. -/
def CallerPoint.early : CallerPoint → Bool
  | .leading => true
  | .locking _ => true
  | .loading _ _ _ => true
  | _ => false

/-- The streams that are still to be tried. -/
def CallerPoint.pending : CallerPoint → List ControlStream
  | .checking _ streams => streams
  | .timing _ stream rest => stream :: rest
  | .sending _ _ stream rest => stream :: rest
  | .delivering _ _ rest => rest
  | .delivered _ rest => rest
  | .waiting (.leader _ rest) _ => rest
  | .announced (.leader _ rest) _ _ => rest
  | .asleep (.leader _ rest) _ _ => rest
  | .expired (.leader _ rest) _ => rest
  | _ => []

namespace ShutdownCoordinator

open ControlStream

variable {state moved : ShutdownCoordinator} {clock index : Nat} {rightful : Bool}
  {caller : DisconnectCaller} {choice : CallerChoice}

/-- The streams that were offered the request, in this order. -/
def tried (self : ShutdownCoordinator) : List ControlStream := self.attempts.map (·.stream)

def leaders (self : ShutdownCoordinator) : Nat := self.callers.countP (·.point.leads)

/-- How far a caller is that sends. -/
structure Course (coordinator : ShutdownCoordinator) (point : CallerPoint) : Prop where
  ahead : InOrder (coordinator.tried ++ point.pending)
  unanswered : point.committed = true → coordinator.completed = false
  snapshot : ∀ deadline todo loaded, point = .loading deadline todo loaded →
    coordinator.attempts = [] ∧ (loaded.map (·.session) ++ todo).Nodup
  fresh : ∀ deadline, point = .leading ∨ point = .locking deadline → coordinator.attempts = []

/-- A follower that returned was allowed to, and one whose time is up has waited it out. -/
def Due (self : ShutdownCoordinator) (clock : Nat) : CallerPoint → Prop
  | .returned (some limit) => self.completed = true ∨ limit ≤ clock
  | .expired .follower limit => limit ≤ clock
  | _ => True

structure Sound (coordinator : ShutdownCoordinator) (clock : Nat) : Prop where
  single : coordinator.leaders ≤ 1
  order : InOrder coordinator.tried
  unanswered : ∀ attempt ∈ coordinator.attempts, attempt.acknowledged = false
  due : ∀ caller ∈ coordinator.callers, Due coordinator clock caller.point
  idle : coordinator.active = false →
    (∀ caller ∈ coordinator.callers, caller.point = .entering) ∧ coordinator.attempts = []
  streams : coordinator.streams.Nodup
  listed : ∀ session ∈ coordinator.streams, ∃ current, coordinator.sessions[session]? = some current ∧
    current.phase ≠ .opened
  course : ∀ caller ∈ coordinator.callers, caller.point.leads = true → coordinator.Course caller.point

theorem sound_new (clock : Nat) : Sound new clock where
  single := Nat.zero_le 1
  order := inOrder_nil
  unanswered _ mem := absurd mem List.not_mem_nil
  due _ mem := absurd mem List.not_mem_nil
  idle _ := ⟨fun _ mem => absurd mem List.not_mem_nil, rfl⟩
  streams := List.nodup_nil
  listed _ mem := absurd mem List.not_mem_nil
  course _ mem := absurd mem List.not_mem_nil

theorem Due.later {later : Nat} {point : CallerPoint} (due : Due state clock point)
    (after : clock ≤ later) : Due state later point := by
  cases point with
  | returned limit =>
    cases limit with
    | none => trivial
    | some limit => exact due.imp_right (·.trans after)
  | expired who limit =>
    cases who with
    | follower => exact Nat.le_trans due after
    | leader _ _ => trivial
  | _ => trivial

/-- What is completed stays so. -/
theorem Due.of_completed {point : CallerPoint} (due : Due state clock point)
    (completed : state.completed = true → moved.completed = true) : Due moved clock point := by
  cases point with
  | returned limit =>
    cases limit with
    | none => trivial
    | some limit => exact due.imp_left completed
  | expired who limit =>
    cases who with
    | follower => exact due
    | leader _ _ => trivial
  | _ => trivial

theorem Sound.later {later : Nat} (sound : Sound state clock) (after : clock ≤ later) :
    Sound state later where
  single := sound.single
  order := sound.order
  unanswered := sound.unanswered
  due caller mem := (sound.due caller mem).later after
  idle := sound.idle
  streams := sound.streams
  listed := sound.listed
  course := sound.course

/-- All but the callers, the lock and the notifier is as it was. -/
structure Alike (state moved : ShutdownCoordinator) : Prop where
  active : moved.active = state.active
  completed : moved.completed = state.completed
  streams : moved.streams = state.streams
  sessions : moved.sessions = state.sessions
  attempts : moved.attempts = state.attempts

theorem Course.of_same {point : CallerPoint} (course : Course state point)
    (attempts : moved.attempts = state.attempts) (completed : moved.completed = state.completed) :
    Course moved point where
  ahead := by
    rw [tried, attempts]
    exact course.ahead
  unanswered := by
    rw [completed]
    exact course.unanswered
  snapshot := by
    rw [attempts]
    exact course.snapshot
  fresh := by
    rw [attempts]
    exact course.fresh

theorem course_of_late {point : CallerPoint} (late : point.early = false)
    (ahead : InOrder (state.tried ++ point.pending))
    (unanswered : point.committed = true → state.completed = false) : Course state point where
  ahead := ahead
  unanswered := unanswered
  snapshot deadline todo loaded there := by
    rw [there] at late
    cases late
  fresh deadline there := by
    rcases there with there | there
    · rw [there] at late
      cases late
    · rw [there] at late
      cases late

/-- Behind the snapshot nothing is added to what is still to be tried. -/
theorem Course.onward {point next : CallerPoint} (course : Course state point)
    (late : next.early = false) (pending : next.pending = point.pending)
    (unanswered : next.committed = true → state.completed = false) : Course state next :=
  course_of_late late (pending ▸ course.ahead) unanswered

/-- A caller that gives up has nothing to try. -/
theorem Course.done {point next : CallerPoint} (course : Course state point)
    (late : next.early = false) (pending : next.pending = [])
    (uncommitted : next.committed = false) : Course state next := by
  refine course_of_late late ?_ fun committed => ?_
  · rw [pending, List.append_nil]
    exact course.ahead.of_append
  · rw [uncommitted] at committed
    cases committed

/-!
### Callers
-/

theorem leaders_advance (here : state.callers[index]? = some caller) (point : CallerPoint) :
    (Interleaving.advance state.callers index { caller with point := point } []).countP
      (·.point.leads) + caller.point.leads.toNat = state.leaders + point.leads.toNat :=
  Interleaving.countP_advance (fun other : DisconnectCaller => other.point.leads)
    here { caller with point := point } []

theorem toNat_le_of_imp {first second : Bool} (implies : first = true → second = true) :
    first.toNat ≤ second.toNat := by
  cases first with
  | false => exact Nat.zero_le _
  | true => rw [implies rfl]

/-- What a caller that moves on has to bring about. -/
theorem Sound.advance (sound : Sound state clock) (here : state.callers[index]? = some caller)
    {point : CallerPoint} (alike : Alike state moved)
    (callers : moved.callers =
      Interleaving.advance state.callers index { caller with point := point } [])
    (begun : state.active = true) (leads : point.leads = true → caller.point.leads = true)
    (course : point.leads = true → Course state point)
    (due : Due state clock point) : Sound moved clock := by
  have bound : moved.leaders ≤ state.leaders := by
    have counted := Nat.le_of_eq (leaders_advance here point)
    rw [leaders, callers]
    exact Nat.le_of_add_le_add_right
      (counted.trans (Nat.add_le_add_left (toNat_le_of_imp leads) state.leaders))
  exact {
    single := bound.trans sound.single
    order := by
      rw [tried, alike.attempts]
      exact sound.order
    unanswered := by
      rw [alike.attempts]
      exact sound.unanswered
    due := by
      intro other mem
      rw [callers] at mem
      have same : state.completed = true → moved.completed = true := alike.completed.trans
      rcases Interleaving.mem_advance mem with rfl | started | rest
      · exact due.of_completed same
      · cases started
      · exact (sound.due other (List.mem_of_mem_eraseIdx rest)).of_completed same
    idle := by
      intro inactive
      rw [alike.active, begun] at inactive
      cases inactive
    streams := by
      rw [alike.streams]
      exact sound.streams
    listed := by
      rw [alike.streams, alike.sessions]
      exact sound.listed
    course := by
      intro other mem ahead
      rw [callers] at mem
      rcases Interleaving.mem_advance mem with rfl | started | rest
      · exact (course ahead).of_same alike.attempts alike.completed
      · cases started
      · exact (sound.course other (List.mem_of_mem_eraseIdx rest) ahead).of_same alike.attempts
          alike.completed }

/-- Beside a caller that sends no other does. -/
theorem Sound.alone (sound : Sound state clock) (here : state.callers[index]? = some caller)
    (leads : caller.point.leads = true) {other : DisconnectCaller}
    (mem : other ∈ state.callers.eraseIdx index) : other.point.leads = false := by
  cases both : other.point.leads with
  | false => rfl
  | true =>
    have counted := (Interleaving.perm_cons_eraseIdx here).countP_eq
      (fun other : DisconnectCaller => other.point.leads)
    rw [@List.countP_cons_of_pos DisconnectCaller (·.point.leads) _ _ leads] at counted
    have one : 0 < (state.callers.eraseIdx index).countP (·.point.leads) :=
      List.countP_pos_iff.mpr ⟨other, mem, both⟩
    have two : state.leaders ≤ 1 := sound.single
    rw [leaders, counted] at two
    exact absurd (Nat.le_of_succ_le_succ two) (Nat.not_le_of_lt one)

/-- A caller becomes the one that sends. -/
theorem Sound.leading (sound : Sound state clock) (here : state.callers[index]? = some caller)
    (inactive : state.active = false) :
    Sound { state with
      active := true
      completed := false
      callers := Interleaving.advance state.callers index { caller with point := .leading } [] }
      clock := by
  obtain ⟨entering, empty⟩ := sound.idle inactive
  have still : ∀ other ∈ state.callers, other.point.leads = false := by
    intro other mem
    rw [entering other mem]
    rfl
  have none : state.leaders = 0 := by
    rw [leaders, List.countP_eq_zero]
    intro other mem leads
    rw [still other mem] at leads
    cases leads
  have counted := leaders_advance here .leading
  rw [none, still caller (List.mem_of_getElem? here)] at counted
  have course : Course { state with
      active := true
      completed := false
      callers := Interleaving.advance state.callers index { caller with point := .leading } [] }
      .leading := by
    refine ⟨?_, fun _ => rfl, fun _ _ _ => CallerPoint.noConfusion, fun _ _ => empty⟩
    rw [tried]
    exact (List.append_nil _).symm ▸ sound.order
  exact {
    single := Nat.le_of_eq counted
    order := sound.order
    unanswered := sound.unanswered
    due := by
      intro other mem
      rcases Interleaving.mem_advance mem with rfl | started | rest
      · trivial
      · cases started
      · rw [entering other (List.mem_of_mem_eraseIdx rest)]
        trivial
    idle := fun impossible => by cases impossible
    streams := sound.streams
    listed := sound.listed
    course := by
      intro other mem ahead
      rcases Interleaving.mem_advance mem with rfl | started | rest
      · exact course
      · cases started
      · rw [still other (List.mem_of_mem_eraseIdx rest)] at ahead
        cases ahead }

/-- A stream is offered the request. -/
theorem Sound.sent (sound : Sound state clock) (here : state.callers[index]? = some caller)
    {deadline limit : Nat} {stream : ControlStream} {rest : List ControlStream}
    (there : caller.point = .sending deadline limit stream rest) {point : CallerPoint}
    (leads : point.leads = true) (pending : point.pending = rest)
    (uncommitted : point.committed = false) (late : point.early = false)
    (due : Due state clock point) :
    Sound { state.attempted rightful stream with
      callers := Interleaving.advance state.callers index { caller with point := point } [] }
      clock := by
  have mem := List.mem_of_getElem? here
  have led : caller.point.leads = true := by rw [there]; rfl
  have before := sound.course caller mem led
  have unanswered := before.unanswered (by rw [there]; rfl)
  have order := before.ahead
  rw [there] at order
  have active : state.active = true := by
    cases inactive : state.active with
    | true => rfl
    | false =>
      rw [(sound.idle inactive).1 caller mem] at there
      cases there
  have tried : (state.attempted rightful stream).tried = state.tried ++ [stream] := by
    rw [ShutdownCoordinator.tried, attempted, List.map_append]
    rfl
  have course : Course { state.attempted rightful stream with
      callers := Interleaving.advance state.callers index { caller with point := point } [] }
      point := by
    refine course_of_late late ?_ fun impossible => ?_
    · change InOrder ((state.attempted rightful stream).tried ++ point.pending)
      rw [tried, pending, List.append_assoc]
      exact order
    · rw [uncommitted] at impossible
      cases impossible
  exact {
    single := by
      have counted := leaders_advance here point
      rw [led, leads] at counted
      exact (Nat.le_of_eq (Nat.add_right_cancel counted)).trans sound.single
    order := by
      change InOrder (state.attempted rightful stream).tried
      rw [tried]
      apply InOrder.of_append
      rw [List.append_assoc]
      exact order
    unanswered := by
      intro attempt mem'
      rcases List.mem_append.mp mem' with old | new
      · exact sound.unanswered attempt old
      · rw [List.mem_singleton.mp new]
        exact unanswered
    due := by
      intro other mem'
      rcases Interleaving.mem_advance mem' with rfl | started | rest
      · exact due.of_completed id
      · cases started
      · exact (sound.due other (List.mem_of_mem_eraseIdx rest)).of_completed id
    idle := by
      intro inactive
      rw [show state.active = false from inactive] at active
      cases active
    streams := sound.streams
    listed := sound.listed
    course := by
      intro other mem' ahead
      rcases Interleaving.mem_advance mem' with rfl | started | rest
      · exact course
      · cases started
      · rw [sound.alone here led rest] at ahead
        cases ahead }

/-- The one that sends completes. -/
theorem Sound.completes (sound : Sound state clock) (here : state.callers[index]? = some caller)
    (there : caller.point = .completing) :
    Sound { state with
      completed := true
      callers := Interleaving.advance state.callers index { caller with point := .notifying } [] }
      clock := by
  have mem := List.mem_of_getElem? here
  have led : caller.point.leads = true := by rw [there]; rfl
  have before := sound.course caller mem led
  rw [there] at before
  have course : Course { state with
      completed := true
      callers := Interleaving.advance state.callers index { caller with point := .notifying } [] }
      .notifying :=
    ⟨before.ahead, nofun, nofun, fun _ impossible => by rcases impossible with h | h <;> cases h⟩
  exact {
    single := by
      have counted := leaders_advance here .notifying
      rw [led] at counted
      exact (Nat.le_of_eq (Nat.add_right_cancel counted)).trans sound.single
    order := sound.order
    unanswered := sound.unanswered
    due := by
      intro other mem'
      rcases Interleaving.mem_advance mem' with rfl | started | rest
      · trivial
      · cases started
      · exact (sound.due other (List.mem_of_mem_eraseIdx rest)).of_completed fun _ => rfl
    idle := by
      intro inactive
      rw [(sound.idle inactive).1 caller mem] at there
      cases there
    streams := sound.streams
    listed := sound.listed
    course := by
      intro other mem' ahead
      rcases Interleaving.mem_advance mem' with rfl | started | rest
      · exact course
      · cases started
      · rw [sound.alone here led rest] at ahead
        cases ahead }

theorem Sound.begun (sound : Sound state clock) (here : state.callers[index]? = some caller)
    (entered : caller.point ≠ .entering) : state.active = true := by
  cases active : state.active with
  | true => rfl
  | false => exact absurd ((sound.idle active).1 caller (List.mem_of_getElem? here)) entered

theorem alike_self (state : ShutdownCoordinator) (callers : List DisconnectCaller) :
    Alike state { state with callers := callers } where
  active := rfl
  completed := rfl
  streams := rfl
  sessions := rfl
  attempts := rfl

/-- A caller that sends goes on, and tries nothing yet. -/
theorem Sound.onward (sound : Sound state clock) (here : state.callers[index]? = some caller)
    {point : CallerPoint} (led : caller.point.leads = true) (late : point.early = false)
    (pending : point.pending = caller.point.pending ∨ point.pending = [] ∧ point.committed = false)
    (unanswered : point.committed = true → state.completed = false)
    (due : Due state clock point) :
    Sound { state with
      callers := Interleaving.advance state.callers index { caller with point := point } [] }
      clock := by
  have course := sound.course caller (List.mem_of_getElem? here) led
  have entered : caller.point ≠ .entering := by
    intro entering
    rw [entering] at led
    cases led
  refine sound.advance here (alike_self state _) rfl (sound.begun here entered) (fun _ => led)
    (fun _ => ?_) due
  rcases pending with same | ⟨none, uncommitted⟩
  · exact course.onward late same unanswered
  · exact course.done late none uncommitted

/-- A caller that does not send goes on waiting, or returns when it may. -/
theorem Sound.followed (sound : Sound state clock) (here : state.callers[index]? = some caller)
    {point : CallerPoint} (begun : state.active = true) (follows : point.leads = false)
    (due : Due state clock point) :
    Sound { state with
      callers := Interleaving.advance state.callers index { caller with point := point } [] }
      clock :=
  sound.advance here (alike_self state _) rfl begun
    (fun leads => by rw [follows] at leads; cases leads)
    (fun leads => by rw [follows] at leads; cases leads) due

theorem load_session (state : ShutdownCoordinator) (session : Nat) :
    (state.load session).session = session := by
  rw [load]
  split
  · rfl
  · rfl

/-- The snapshot goes on to the next stream. -/
theorem Sound.loads (sound : Sound state clock) (here : state.callers[index]? = some caller)
    {deadline session : Nat} {todo : List Nat} {loaded : List ControlStream}
    (there : caller.point = .loading deadline (session :: todo) loaded) :
    Sound { state with
      callers := Interleaving.advance state.callers index
        { caller with point := .loading deadline todo (loaded ++ [state.load session]) } [] }
      clock := by
  have led : caller.point.leads = true := by rw [there]; rfl
  have course := sound.course caller (List.mem_of_getElem? here) led
  obtain ⟨empty, once⟩ := course.snapshot deadline (session :: todo) loaded there
  refine sound.advance here (alike_self state _) rfl
    (sound.begun here (by rw [there]; exact CallerPoint.noConfusion)) (fun _ => led)
    (fun _ => ⟨?_, fun impossible => ?_, ?_, ?_⟩) trivial
  · rw [there] at course
    exact course.ahead
  · cases impossible
  · intro deadline todo' loaded' same
    cases same
    rw [List.map_append, List.map_singleton, load_session, List.append_assoc]
    exact ⟨empty, once⟩
  · intro deadline impossible
    rcases impossible with leading | locking
    · cases leading
    · cases locking

/-- The snapshot begins with the lock, and ends with the order. -/
theorem Sound.locks (sound : Sound state clock) (here : state.callers[index]? = some caller)
    {deadline : Nat} (there : caller.point = .locking deadline) :
    Sound { state with
      locked := true
      callers := Interleaving.advance state.callers index
        { caller with point := .loading deadline state.streams [] } [] } clock := by
  have led : caller.point.leads = true := by rw [there]; rfl
  have course := sound.course caller (List.mem_of_getElem? here) led
  have empty := course.fresh deadline (Or.inr there)
  refine sound.advance here ⟨rfl, rfl, rfl, rfl, rfl⟩ rfl
    (sound.begun here (by rw [there]; exact CallerPoint.noConfusion)) (fun _ => led)
    (fun _ => ⟨?_, fun impossible => ?_, ?_, ?_⟩) trivial
  · rw [there] at course
    exact course.ahead
  · cases impossible
  · intro deadline todo loaded same
    cases same
    exact ⟨empty, sound.streams⟩
  · intro deadline impossible
    rcases impossible with leading | locking
    · cases leading
    · cases locking

theorem Sound.sorts (sound : Sound state clock) (here : state.callers[index]? = some caller)
    {deadline : Nat} {loaded : List ControlStream}
    (there : caller.point = .loading deadline [] loaded) :
    Sound { state with
      locked := false
      callers := Interleaving.advance state.callers index
        { caller with point := .checking deadline (loaded.insertionSort Above) } [] } clock := by
  have led : caller.point.leads = true := by rw [there]; rfl
  have course := sound.course caller (List.mem_of_getElem? here) led
  obtain ⟨empty, once⟩ := course.snapshot deadline [] loaded there
  rw [List.append_nil] at once
  refine sound.advance here ⟨rfl, rfl, rfl, rfl, rfl⟩ rfl
    (sound.begun here (by rw [there]; exact CallerPoint.noConfusion)) (fun _ => led)
    (fun _ => course_of_late rfl ?_ fun impossible => ?_) trivial
  · rw [tried, empty]
    exact inOrder_sort once
  · cases impossible

theorem Sound.prepares (sound : Sound state clock) (here : state.callers[index]? = some caller)
    (there : caller.point = .leading) :
    Sound { state with
      callers := Interleaving.advance state.callers index
        { caller with point := .locking (clock + disconnectBudget) } [] } clock := by
  have led : caller.point.leads = true := by rw [there]; rfl
  have course := sound.course caller (List.mem_of_getElem? here) led
  have empty := course.fresh 0 (Or.inl there)
  refine sound.advance here (alike_self state _) rfl
    (sound.begun here (by rw [there]; exact CallerPoint.noConfusion)) (fun _ => led)
    (fun _ => ⟨?_, fun impossible => ?_, fun _ _ _ => CallerPoint.noConfusion, fun _ _ => empty⟩)
    trivial
  · rw [there] at course
    exact course.ahead
  · cases impossible

/-- Behind its wait a leader tries the next stream or completes, a follower returns. -/
theorem Sound.waited (sound : Sound state clock) (here : state.callers[index]? = some caller)
    {who : CompletionWait} {limit : Nat} {done : Bool}
    (there : (∃ seen, caller.point = .announced who limit seen) ∨ caller.point = .expired who limit)
    (allowed : who = .follower → state.completed = true ∨ limit ≤ clock) :
    Sound { state with
      callers := Interleaving.advance state.callers index
        { caller with point := waited done limit who } [] } clock := by
  have entered : caller.point ≠ .entering := by
    rcases there with ⟨seen, there⟩ | there
    · rw [there]
      exact CallerPoint.noConfusion
    · rw [there]
      exact CallerPoint.noConfusion
  cases who with
  | follower =>
    exact sound.followed here (sound.begun here entered) rfl (allowed rfl)
  | leader deadline rest =>
    have led : caller.point.leads = true := by
      rcases there with ⟨seen, there⟩ | there
      · rw [there]
        rfl
      · rw [there]
        rfl
    have pending : caller.point.pending = rest := by
      rcases there with ⟨seen, there⟩ | there
      · rw [there]
        rfl
      · rw [there]
        rfl
    cases done with
    | true => exact sound.onward here led rfl (Or.inr ⟨rfl, rfl⟩) nofun trivial
    | false => exact sound.onward here led rfl (Or.inl pending.symm) nofun trivial

/-- The step lemma of a caller. -/
theorem Sound.next {after : ShutdownCoordinator} {point : CallerPoint} (sound : Sound state clock)
    (here : state.callers[index]? = some caller)
    (next : state.next clock rightful caller.point choice = some (after, point)) :
    Sound { after with
      callers := Interleaving.advance after.callers index { caller with point := point } [] }
      clock := by
  cases there : caller.point with
  | entering =>
    rw [there] at next
    cases choice with
    | go =>
      simp only [ShutdownCoordinator.next] at next
      split at next
      · cases next
      · split at next
        · next active =>
            cases next
            exact sound.followed here active rfl trivial
        · next inactive =>
            cases next
            exact sound.leading here (Bool.eq_false_of_not_eq_true inactive)
    | _ => cases next
  | leading =>
    rw [there] at next
    cases choice with
    | go =>
      cases next
      exact sound.prepares here there
    | _ => cases next
  | locking deadline =>
    rw [there] at next
    cases choice with
    | go =>
      simp only [ShutdownCoordinator.next] at next
      split at next
      · cases next
      · cases next
        exact sound.locks here there
    | _ => cases next
  | loading deadline todo loaded =>
    rw [there] at next
    cases choice with
    | go =>
      cases todo with
      | nil =>
        cases next
        exact sound.sorts here there
      | cons session todo =>
        cases next
        exact sound.loads here there
    | _ => cases todo <;> cases next
  | checking deadline streams =>
    rw [there] at next
    have led : caller.point.leads = true := by rw [there]; rfl
    cases choice with
    | go =>
      cases streams with
      | nil =>
        cases next
        exact sound.onward here led rfl (Or.inr ⟨rfl, rfl⟩) nofun trivial
      | cons stream rest =>
        simp only [ShutdownCoordinator.next] at next
        split at next
        · cases next
        · cases completed : state.completed with
          | true =>
            rw [completed] at next
            cases next
            exact sound.onward here led rfl (Or.inr ⟨rfl, rfl⟩) nofun trivial
          | false =>
            rw [completed] at next
            cases next
            exact sound.onward here led rfl (Or.inl (by rw [there]; rfl)) (fun _ => completed) trivial
    | _ => cases streams <;> cases next
  | timing deadline stream rest =>
    rw [there] at next
    have led : caller.point.leads = true := by rw [there]; rfl
    cases choice with
    | go =>
      have unanswered := (sound.course caller (List.mem_of_getElem? here) led).unanswered
        (by rw [there]; rfl)
      simp only [ShutdownCoordinator.next] at next
      by_cases late : deadline ≤ clock
      · rw [if_pos late] at next
        cases next
        exact sound.onward here led rfl (Or.inr ⟨rfl, rfl⟩) nofun trivial
      · rw [if_neg late] at next
        cases next
        exact sound.onward here led rfl (Or.inl (by rw [there]; rfl)) (fun _ => unanswered) trivial
    | _ => cases next
  | sending deadline limit stream rest =>
    rw [there] at next
    cases choice with
    | taken success =>
      cases success with
      | true =>
        cases next
        exact sound.sent here there rfl rfl rfl rfl trivial
      | false =>
        cases next
        exact sound.sent here there rfl rfl rfl rfl trivial
    | _ => cases next
  | delivering deadline limit rest =>
    rw [there] at next
    have led : caller.point.leads = true := by rw [there]; rfl
    cases choice with
    | answer success =>
      cases success with
      | true =>
        cases next
        exact sound.onward here led rfl (Or.inl (by rw [there]; rfl)) nofun trivial
      | false =>
        cases next
        exact sound.onward here led rfl (Or.inl (by rw [there]; rfl)) nofun trivial
    | timeout =>
      simp only [ShutdownCoordinator.next] at next
      split at next
      · cases next
        exact sound.onward here led rfl (Or.inl (by rw [there]; rfl)) nofun trivial
      · cases next
    | _ => cases next
  | delivered deadline rest =>
    rw [there] at next
    have led : caller.point.leads = true := by rw [there]; rfl
    cases choice with
    | go =>
      simp only [ShutdownCoordinator.next] at next
      by_cases late : deadline ≤ clock
      · rw [if_pos late] at next
        cases next
        exact sound.onward here led rfl (Or.inr ⟨rfl, rfl⟩) nofun trivial
      · rw [if_neg late] at next
        cases next
        exact sound.onward here led rfl (Or.inl (by rw [there]; rfl)) nofun trivial
    | _ => cases next
  | waiting who limit =>
    rw [there] at next
    have begun := sound.begun here (by rw [there]; exact CallerPoint.noConfusion)
    cases choice with
    | go =>
      cases next
      cases who with
      | follower => exact sound.followed here begun rfl trivial
      | leader deadline rest =>
        exact sound.onward here (by rw [there]; rfl) rfl (Or.inl (by rw [there]; rfl)) nofun trivial
    | _ => cases next
  | announced who limit seen =>
    rw [there] at next
    have begun := sound.begun here (by rw [there]; exact CallerPoint.noConfusion)
    cases choice with
    | go =>
      simp only [ShutdownCoordinator.next] at next
      split at next
      · cases next
      · cases completed : state.completed with
        | true =>
          rw [completed] at next
          cases next
          exact sound.waited here (Or.inl ⟨seen, there⟩) fun _ => Or.inl completed
        | false =>
          rw [completed] at next
          cases next
          cases who with
          | follower => exact sound.followed here begun rfl trivial
          | leader deadline rest =>
            exact sound.onward here (by rw [there]; rfl) rfl (Or.inl (by rw [there]; rfl)) nofun
              trivial
    | _ => cases next
  | asleep who limit seen =>
    rw [there] at next
    have begun := sound.begun here (by rw [there]; exact CallerPoint.noConfusion)
    cases choice with
    | go =>
      simp only [ShutdownCoordinator.next] at next
      split at next
      · cases next
        cases who with
        | follower => exact sound.followed here begun rfl trivial
        | leader deadline rest =>
          exact sound.onward here (by rw [there]; rfl) rfl (Or.inl (by rw [there]; rfl)) nofun
            trivial
      · cases next
    | timeout =>
      simp only [ShutdownCoordinator.next] at next
      split at next
      · next lapsed =>
          cases next
          cases who with
          | follower => exact sound.followed here begun rfl lapsed.2
          | leader deadline rest =>
            exact sound.onward here (by rw [there]; rfl) rfl (Or.inl (by rw [there]; rfl)) nofun
              trivial
      · cases next
    | _ => cases next
  | expired who limit =>
    rw [there] at next
    cases choice with
    | go =>
      simp only [ShutdownCoordinator.next] at next
      split at next
      · cases next
      · cases next
        refine sound.waited here (Or.inr there) fun follows => Or.inr ?_
        have due := sound.due caller (List.mem_of_getElem? here)
        rw [there, follows] at due
        exact due
    | _ => cases next
  | completing =>
    rw [there] at next
    cases choice with
    | go =>
      simp only [ShutdownCoordinator.next] at next
      split at next
      · cases next
      · split at next
        · cases next
          exact sound.followed here
            (sound.begun here (by rw [there]; exact CallerPoint.noConfusion)) rfl trivial
        · cases next
          exact sound.completes here there
    | _ => cases next
  | notifying =>
    rw [there] at next
    cases choice with
    | go =>
      cases next
      exact sound.advance here ⟨rfl, rfl, rfl, rfl, rfl⟩ rfl
        (sound.begun here (by rw [there]; exact CallerPoint.noConfusion)) nofun nofun trivial
    | _ => cases next
  | returned limit =>
    rw [there] at next
    cases choice with
    | _ => cases next

theorem Sound.callerStep (sound : Sound state clock) (rightful : Bool) (index : Nat)
    (choice : CallerChoice) : Sound (state.callerStep clock rightful index choice) clock := by
  rw [ShutdownCoordinator.callerStep]
  split
  · exact sound
  · next caller here =>
      split
      · exact sound
      · next after point next => exact sound.next here next

theorem Sound.called (sound : Sound state clock) (origin : CallerOrigin) :
    Sound (state.called origin) clock where
  single := by
    rw [leaders, ShutdownCoordinator.called, List.countP_append]
    exact sound.single
  order := sound.order
  unanswered := sound.unanswered
  due caller mem := by
    rcases List.mem_append.mp mem with old | new
    · exact (sound.due caller old).of_completed id
    · rw [List.mem_singleton.mp new]
      trivial
  idle inactive := by
    obtain ⟨entering, empty⟩ := sound.idle inactive
    refine ⟨fun caller mem => ?_, empty⟩
    rcases List.mem_append.mp mem with old | new
    · exact entering caller old
    · rw [List.mem_singleton.mp new]
  streams := sound.streams
  listed := sound.listed
  course caller mem leads := by
    rcases List.mem_append.mp mem with old | new
    · exact (sound.course caller old leads).of_same rfl rfl
    · rw [List.mem_singleton.mp new] at leads
      cases leads

/-!
### Sessions
-/

/-- What a session does to the list of streams touches no caller. -/
theorem Sound.of_sessions (sound : Sound state clock) {streams : List Nat}
    {sessions : List ControlSession} {nextActivity : U64} (once : streams.Nodup)
    (listed : ∀ session ∈ streams, ∃ current, sessions[session]? = some current ∧
      current.phase ≠ .opened) :
    Sound { state with streams := streams, sessions := sessions, nextActivity := nextActivity }
      clock where
  single := sound.single
  order := sound.order
  unanswered := sound.unanswered
  due caller mem := (sound.due caller mem).of_completed id
  idle := sound.idle
  streams := once
  listed := listed
  course caller mem leads := (sound.course caller mem leads).of_same rfl rfl

/-- A session that is replaced by one that is further on stays listed. -/
theorem Sound.listed_set (sound : Sound state clock) {session : Nat}
    {current : ControlSession} (here : state.sessions[session]? = some current)
    (next : ControlSession) (further : current.phase ≠ .opened → next.phase ≠ .opened) :
    ∀ other ∈ state.streams, ∃ current, (state.sessions.set session next)[other]? = some current ∧
      current.phase ≠ .opened := by
  intro other mem
  obtain ⟨kept, there, phase⟩ := sound.listed other mem
  by_cases same : session = other
  · subst same
    rw [here] at there
    cases there
    exact ⟨next, List.getElem?_set_self (List.getElem?_eq_some_iff.mp here).1, further phase⟩
  · exact ⟨kept, (List.getElem?_set_ne same).trans there, phase⟩

/-- No caller has just seen that nothing is completed, if the answer would change that. -/
def Timely (self : ShutdownCoordinator) : SessionEvent → Prop
  | .observe response => isAcknowledgement response = true → self.active = true →
      self.completed = false → self.locked = false →
        ∀ caller ∈ self.callers, caller.point.committed = false
  | _ => True

theorem Sound.observed (sound : Sound state clock)
    (uncommitted : ∀ caller ∈ state.callers, caller.point.committed = false)
    (active : state.active = true) :
    Sound { state with completed := true, observed := state.observed + 1 } clock where
  single := sound.single
  order := sound.order
  unanswered := sound.unanswered
  due caller mem := (sound.due caller mem).of_completed fun _ => rfl
  idle inactive := by
    rw [show state.active = false from inactive] at active
    cases active
  streams := sound.streams
  listed := sound.listed
  course caller mem leads := by
    have course := sound.course caller mem leads
    exact ⟨course.ahead, fun committed => absurd committed (by
      rw [uncommitted caller mem]
      exact Bool.noConfusion), course.snapshot, course.fresh⟩

theorem Sound.lists (sound : Sound state clock) {session : Nat} {current : ControlSession}
    (here : state.sessions[session]? = some current) (opened : current.phase = .opened) :
    Sound { state with
      sessions := state.sessions.set session { current with phase := .kept }
      streams := if state.active then state.streams else state.streams ++ [session] } clock := by
  have kept := sound.listed_set here { current with phase := .kept }
    fun _ => SessionPhase.noConfusion
  have fresh : session ∉ state.streams := by
    intro mem
    obtain ⟨other, there, phase⟩ := sound.listed session mem
    rw [here] at there
    cases there
    exact phase opened
  refine sound.of_sessions ?_ ?_
  · split
    · exact sound.streams
    · rw [List.nodup_append]
      refine ⟨sound.streams, List.nodup_singleton _, ?_⟩
      intro first mem second new same
      rw [same, List.mem_singleton.mp new] at mem
      exact fresh mem
  · intro other mem
    split at mem
    · exact kept other mem
    · rcases List.mem_append.mp mem with old | new
      · exact kept other old
      · rw [List.mem_singleton.mp new,
          List.getElem?_set_self (List.getElem?_eq_some_iff.mp here).1]
        exact ⟨_, rfl, SessionPhase.noConfusion⟩

/-- The step lemma of the sessions. -/
theorem Sound.sessionStep (sound : Sound state clock) (event : SessionEvent)
    (timely : state.Timely event) : Sound (state.sessionStep event) clock := by
  cases event with
  | register incarnation =>
    refine sound.of_sessions sound.streams fun session mem => ?_
    obtain ⟨current, there, phase⟩ := sound.listed session mem
    have bound := (List.getElem?_eq_some_iff.mp there).1
    exact ⟨current, (List.getElem?_append_left bound).trans there, phase⟩
  | list session =>
    rw [ShutdownCoordinator.sessionStep]
    cases here : state.sessions[session]? with
    | none => exact sound
    | some current =>
      simp only
      split
      · exact sound
      · next free => exact sound.lists here (Decidable.not_not.mp (not_or.mp free).2)
  | draw session =>
    rw [ShutdownCoordinator.sessionStep]
    cases here : state.sessions[session]? with
    | none => exact sound
    | some current => exact sound.of_sessions sound.streams (sound.listed_set here _ id)
  | mark session =>
    rw [ShutdownCoordinator.sessionStep]
    cases here : state.sessions[session]? with
    | none => exact sound
    | some current =>
      cases drawn : current.drawn with
      | none => simpa only [drawn] using sound
      | some drawn' =>
        simp only [drawn]
        exact sound.of_sessions sound.streams (sound.listed_set here _ id)
  | unregister session =>
    rw [ShutdownCoordinator.sessionStep]
    cases here : state.sessions[session]? with
    | none => exact sound
    | some current =>
      simp only
      split
      · exact sound
      · refine sound.of_sessions (sound.streams.filter _) fun other mem => ?_
        exact sound.listed_set here _ (fun _ => SessionPhase.noConfusion) other
          (List.mem_of_mem_filter mem)
  | observe response =>
    rw [ShutdownCoordinator.sessionStep]
    split
    · exact sound
    · next accepted =>
        simp only [not_or, Bool.not_eq_true, Bool.not_eq_false] at accepted
        obtain ⟨free, acknowledges, active, open'⟩ := accepted
        exact sound.observed (timely acknowledges active open' free) active
  | notify =>
    rw [ShutdownCoordinator.sessionStep]
    split
    · exact sound
    · exact ⟨sound.single, sound.order, sound.unanswered,
        fun caller mem => (sound.due caller mem).of_completed id, sound.idle, sound.streams,
        sound.listed, fun caller mem leads => (sound.course caller mem leads).of_same rfl rfl⟩

/-- Only a caller's step offers a stream the request, on the engine's account. -/
theorem mem_attempts_callerStep {attempt : DisconnectAttempt}
    (mem : attempt ∈ (state.callerStep clock rightful index choice).attempts) :
    attempt ∈ state.attempts ∨ attempt.rightful = rightful ∧ state.callers ≠ [] := by
  rw [ShutdownCoordinator.callerStep] at mem
  split at mem
  · exact Or.inl mem
  · next caller here =>
      have some : state.callers ≠ [] := List.ne_nil_of_mem (List.mem_of_getElem? here)
      split at mem
      · exact Or.inl mem
      · next after point next =>
          have same : after.attempts = state.attempts ∨
              ∃ stream, after.attempts = (state.attempted rightful stream).attempts := by
            rw [ShutdownCoordinator.next.eq_def] at next
            split at next
            all_goals try split at next
            all_goals try split at next
            all_goals cases next
            all_goals first | exact Or.inl rfl | exact Or.inr ⟨_, rfl⟩
          rcases same with same | ⟨stream, same⟩
          · exact Or.inl (same ▸ mem)
          · rw [show after.attempts = _ from same] at mem
            rcases List.mem_append.mp mem with old | new
            · exact Or.inl old
            · rw [List.mem_singleton.mp new]
              exact Or.inr ⟨rfl, some⟩

theorem callers_callerStep (none : state.callers = []) :
    state.callerStep clock rightful index choice = state := by
  rw [ShutdownCoordinator.callerStep, none]
  rfl

/-- A session leaves the callers and their attempts alone. -/
theorem sessionStep_apart (state : ShutdownCoordinator) (event : SessionEvent) :
    (state.sessionStep event).callers = state.callers ∧
      (state.sessionStep event).attempts = state.attempts := by
  cases event with
  | register incarnation => exact ⟨rfl, rfl⟩
  | list session | unregister session =>
    rw [ShutdownCoordinator.sessionStep]
    split
    · exact ⟨rfl, rfl⟩
    · split
      · exact ⟨rfl, rfl⟩
      · exact ⟨rfl, rfl⟩
  | draw session =>
    rw [ShutdownCoordinator.sessionStep]
    split
    · exact ⟨rfl, rfl⟩
    · exact ⟨rfl, rfl⟩
  | mark session =>
    rw [ShutdownCoordinator.sessionStep]
    split
    · exact ⟨rfl, rfl⟩
    · split
      · exact ⟨rfl, rfl⟩
      · exact ⟨rfl, rfl⟩
  | observe response | notify =>
    rw [ShutdownCoordinator.sessionStep]
    split
    · exact ⟨rfl, rfl⟩
    · exact ⟨rfl, rfl⟩

end ShutdownCoordinator

/-!
### Engines
-/

namespace GoodbyeEngine

variable {engine moved : GoodbyeEngine} {clock : Nat}

/-- An engine with a caller has the right to send, and had it at every attempt. -/
structure Honest (engine : GoodbyeEngine) (clock : Nat) : Prop where
  sound : engine.coordinator.Sound clock
  called : engine.coordinator.callers ≠ [] → engine.rightful = true
  attempts : ∀ attempt ∈ engine.coordinator.attempts, attempt.rightful = true

theorem honest_new (clock : Nat) : Honest new clock where
  sound := ShutdownCoordinator.sound_new clock
  called some := absurd rfl some
  attempts _ mem := absurd mem List.not_mem_nil

/-- The right to send stays. -/
theorem Honest.of_same (honest : Honest engine clock)
    (coordinator : moved.coordinator = engine.coordinator)
    (rightful : engine.rightful = true → moved.rightful = true) : Honest moved clock where
  sound := coordinator ▸ honest.sound
  called some := rightful (honest.called (coordinator ▸ some))
  attempts attempt mem := honest.attempts attempt (coordinator ▸ mem)

theorem Honest.called_again (honest : Honest engine clock) (origin : CallerOrigin)
    (coordinator : moved.coordinator = engine.coordinator.called origin)
    (rightful : moved.rightful = true) : Honest moved clock where
  sound := coordinator ▸ honest.sound.called origin
  called _ := rightful
  attempts attempt mem := honest.attempts attempt (by rw [coordinator] at mem; exact mem)

theorem Honest.hear (honest : Honest engine clock) : Honest engine.hear clock := by
  rw [GoodbyeEngine.hear]
  split
  · exact honest
  · exact honest.of_same rfl fun _ => rfl

theorem heard_hear (running : engine.hear.point ≠ .over) : engine.hear.heard = true := by
  rw [GoodbyeEngine.hear] at running ⊢
  split
  · next done =>
      rw [if_pos done] at running
      exact absurd done running
  · rfl

/-- The step lemma of an engine. -/
theorem Honest.next (honest : Honest engine clock) {event : LoopEvent}
    (timely : ∀ session, event = .session session → engine.coordinator.Timely session)
    (next : engine.next clock event = some moved) : Honest moved clock := by
  cases event with
  | go =>
    simp only [GoodbyeEngine.next, advance] at next
    split at next
    all_goals try split at next
    all_goals cases next
    all_goals exact honest.of_same rfl id
  | take => cases next
  | cancel =>
    simp only [GoodbyeEngine.next] at next
    split at next
    · cases next
    · cases next
      exact honest.of_same rfl fun _ => Bool.or_true _
  | completed =>
    simp only [GoodbyeEngine.next] at next
    split at next
    · cases next
      exact honest.of_same rfl fun _ => Bool.or_true _
    · cases next
  | sessionCancelled =>
    simp only [GoodbyeEngine.next] at next
    split at next
    · next cancelled =>
        cases next
        refine honest.called_again .session rfl ?_
        rw [rightful, cancelled.1, Bool.or_true]
    · cases next
  | caller index choice =>
    cases next
    refine ⟨honest.sound.callerStep _ _ _, fun some => honest.called fun none => ?_,
      fun attempt mem => ?_⟩
    · exact some ((congrArg _ (ShutdownCoordinator.callers_callerStep none)).trans none)
    · rcases ShutdownCoordinator.mem_attempts_callerStep mem with old | ⟨same, some⟩
      · exact honest.attempts attempt old
      · exact same.trans (honest.called some)
  | session session =>
    cases next
    obtain ⟨callers, attempts⟩ :=
      ShutdownCoordinator.sessionStep_apart engine.coordinator session
    exact ⟨honest.sound.sessionStep session (timely session rfl),
      fun some => honest.called (callers ▸ some),
      fun attempt mem => honest.attempts attempt (attempts ▸ mem)⟩

/-- An engine hears nothing by itself, and stays over. -/
theorem heard_next {event : LoopEvent} (next : engine.next clock event = some moved) :
    moved.heard = engine.heard ∧ (engine.point = .over → moved.point = .over) := by
  cases event with
  | go =>
    simp only [GoodbyeEngine.next, advance] at next
    split at next
    all_goals try split at next
    all_goals cases next
    all_goals exact ⟨rfl, fun over' => by simp_all⟩
  | take => cases next
  | cancel =>
    simp only [GoodbyeEngine.next] at next
    split at next
    · cases next
    · cases next
      exact ⟨rfl, id⟩
  | sessionCancelled =>
    simp only [GoodbyeEngine.next] at next
    split at next
    · cases next
      exact ⟨rfl, id⟩
    · cases next
  | completed =>
    simp only [GoodbyeEngine.next] at next
    split at next
    · next here =>
        cases next
        refine ⟨rfl, fun there => ?_⟩
        rw [here] at there
        cases there
    · cases next
  | caller index choice =>
    cases next
    exact ⟨rfl, id⟩
  | session session =>
    cases next
    exact ⟨rfl, id⟩

end GoodbyeEngine

namespace Goodbye

variable {state : Goodbye}

/-- No engine is started while a stop is signalled that nobody has taken, and no answer comes
between a caller's look at the completion and what it then sends. -/
def Timely (self : Goodbye) : GoodbyeEvent → Prop
  | .start => self.stopFlag = false
  | .engine index (.session event) => ∀ engine ∈ self.engines[index]?,
      engine.coordinator.Timely event
  | _ => True

/-- A stop that is signalled has been heard by all that are there. -/
structure Orderly (state : Goodbye) : Prop where
  honest : ∀ engine ∈ state.engines, engine.Honest state.clock
  heard : state.stopFlag = true → ∀ engine ∈ state.engines, engine.point ≠ .over →
    engine.heard = true

theorem Orderly.signalled (orderly : Orderly state) (index : Nat) (point : SignalPoint) :
    Orderly (state.signalled index point) := by
  cases point with
  | flagging =>
    constructor
    · intro engine mem
      obtain ⟨before, there, rfl⟩ := List.mem_map.mp mem
      exact (orderly.honest before there).hear
    · intro _ engine mem running
      obtain ⟨before, -, rfl⟩ := List.mem_map.mp mem
      exact GoodbyeEngine.heard_hear running
  | waiting limit =>
    rw [Goodbye.signalled]
    split
    · exact ⟨orderly.honest, orderly.heard⟩
    · exact orderly
  | begun | notifying | returned => exact ⟨orderly.honest, orderly.heard⟩

/-- The step lemma of the process. -/
theorem Orderly.step (orderly : Orderly state) (event : GoodbyeEvent)
    (timely : state.Timely event) : Orderly (state.step event).1 := by
  cases event with
  | tick elapsed =>
    refine ⟨fun engine mem => ?_, orderly.heard⟩
    have honest := orderly.honest engine mem
    exact ⟨honest.sound.later (Nat.le_add_right _ _), honest.called, honest.attempts⟩
  | signal => exact ⟨orderly.honest, orderly.heard⟩
  | signalStep index =>
    rw [Goodbye.step]
    split
    · exact orderly
    · exact orderly.signalled index _
  | start =>
    constructor
    · intro engine mem
      rcases List.mem_append.mp mem with old | new
      · exact orderly.honest engine old
      · rw [List.mem_singleton.mp new]
        exact GoodbyeEngine.honest_new _
    · intro flagged
      have unset : state.stopFlag = false := timely
      rw [show state.stopFlag = true from flagged] at unset
      cases unset
  | engine index event =>
    rw [Goodbye.step]
    cases here : state.engines[index]? with
    | none => exact orderly
    | some engine =>
      have mem := List.mem_of_getElem? here
      have honest := orderly.honest engine mem
      simp only
      split
      · split
        · next taken =>
            have running : engine.point ≠ .over := by
              rw [taken.1]
              exact LoopPoint.noConfusion
            have heard := orderly.heard taken.2 engine mem running
            constructor
            · intro other mem'
              rcases List.mem_or_eq_of_mem_set mem' with old | rfl
              · exact orderly.honest other old
              · refine honest.called_again .runLoop rfl ?_
                rw [GoodbyeEngine.rightful, GoodbyeEngine.taken, heard, Bool.true_or]
            · intro impossible
              cases impossible
        · exact orderly
      · cases next : engine.next state.clock event with
        | none => exact orderly
        | some moved =>
          obtain ⟨same, done⟩ := GoodbyeEngine.heard_next next
          constructor
          · intro other mem'
            rcases List.mem_or_eq_of_mem_set mem' with old | rfl
            · exact orderly.honest other old
            · refine honest.next (fun session same => ?_) next
              subst same
              exact timely engine here
          · intro flagged other mem' running
            rcases List.mem_or_eq_of_mem_set mem' with old | rfl
            · exact orderly.heard flagged other old running
            · rw [same]
              exact orderly.heard flagged engine mem fun there => running (done there)

instance (coordinator : ShutdownCoordinator) : DecidablePred coordinator.Timely := fun event =>
  match event with
  | .observe response => inferInstanceAs (Decidable (
      ShutdownCoordinator.isAcknowledgement response = true → coordinator.active = true →
        coordinator.completed = false → coordinator.locked = false →
          ∀ caller ∈ coordinator.callers, caller.point.committed = false))
  | .register _ => isTrue trivial
  | .list _ => isTrue trivial
  | .draw _ => isTrue trivial
  | .mark _ => isTrue trivial
  | .unregister _ => isTrue trivial
  | .notify => isTrue trivial

instance : DecidableRel Timely := fun state event =>
  match event with
  | .start => inferInstanceAs (Decidable (state.stopFlag = false))
  | .engine index (.session event) => inferInstanceAs (Decidable (
      ∀ engine ∈ state.engines[index]?, engine.coordinator.Timely event))
  | .tick _ => isTrue trivial
  | .signal => isTrue trivial
  | .signalStep _ => isTrue trivial
  | .engine _ .go => isTrue trivial
  | .engine _ .take => isTrue trivial
  | .engine _ .cancel => isTrue trivial
  | .engine _ .completed => isTrue trivial
  | .engine _ .sessionCancelled => isTrue trivial
  | .engine _ (.caller _ _) => isTrue trivial

/-- The loop's caller goes as far as to offer the request to the stream of one session. -/
def offered : List GoodbyeEvent :=
  [.engine 0 .go, .engine 0 (.session (.register 1)), .engine 0 (.session (.list 0)),
    .engine 0 .take] ++ List.replicate 7 (.engine 0 (.caller 0 .go)) ++
      [.engine 0 (.caller 0 (.taken true))]

end Goodbye

end Csqtt
