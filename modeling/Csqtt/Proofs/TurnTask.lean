/-
Module: Csqtt.Proofs.TurnTask
Purpose: What the published view of a relay client is worth after a pump, over all runs of its
  task with all other users of the client and of the view.
Trusted boundary: none
Main exports: Shows, TurnTask.Published, PumpReport.Agreed, PumpReport.Agrees, snapshot_agrees
-/
import Csqtt.Core.Transducer
import Csqtt.Engine.TurnTask
import Csqtt.Proofs.TurnIntegrity
import Csqtt.Proofs.TurnTold

namespace Csqtt

open Tlv Inner

/-- Addresses come back as they went. -/
theorem toSocketAddr_fromSocketAddr (address : SocketAddr) :
    (NativeAddress.fromSocketAddr address).toSocketAddr = .ok address := by
  obtain ⟨ip, port⟩ := address
  cases ip with
  | v4 ip =>
    have bytes : (beBytes 4 ip.toNat ++ List.replicate 12 0).take 4 = beBytes 4 ip.toNat :=
      List.take_left' (length_beBytes 4 ip.toNat)
    have value : BitVec.ofNat 32 (beValue (beBytes 4 ip.toNat)) = ip :=
      ofNat_beValue_beBytes ip rfl
    simp only [NativeAddress.fromSocketAddr, NativeAddress.toSocketAddr, if_true, bytes, value]
  | v6 ip =>
    have value : BitVec.ofNat 128 (beValue (beBytes 16 ip.toNat)) = ip :=
      ofNat_beValue_beBytes ip rfl
    simp only [NativeAddress.fromSocketAddr, NativeAddress.toSocketAddr, value]
    rfl

theorem CoreSnapshot.complete_same (self : CoreSnapshot) (event : NativeEvent) :
    (self.complete event).state = self.state ∧ (self.complete event).channel = self.channel := by
  unfold complete completionMut
  repeat' split
  all_goals exact ⟨rfl, rfl⟩

/-- The snapshot shows one view and the channel of the senders another, or none, once a cleanup
was requested. -/
structure Shows (shared : DriverShared) (snapshot channel : TurnView) : Prop where
  state : shared.snapshot.state = snapshot.state
  bound : shared.snapshot.channel = snapshot.channel
  channel : shared.channel = channel.channel.getD 0 ∨
    (shared.closing = true ∧ shared.channel = 0)

namespace Shows

variable {shared after : DriverShared} {snapshot channel : TurnView}

theorem requestCleanup (shows : Shows shared snapshot channel) :
    Shows shared.requestCleanup snapshot channel :=
  ⟨shows.state, shows.bound, Or.inr ⟨rfl, rfl⟩⟩

theorem same (shows : Shows shared snapshot channel)
    (state : after.snapshot.state = shared.snapshot.state)
    (bound : after.snapshot.channel = shared.snapshot.channel)
    (closing : after.closing = shared.closing) (published : after.channel = shared.channel) :
    Shows after snapshot channel := by
  constructor
  · rw [state]
    exact shows.state
  · rw [bound]
    exact shows.bound
  · rw [closing, published]
    exact shows.channel

theorem fail (shows : Shows shared snapshot channel) (reason : String) :
    Shows (shared.fail reason) snapshot channel := by
  unfold DriverShared.fail
  split
  · exact shows
  · exact shows.same rfl rfl rfl rfl

theorem failIf (shows : Shows shared snapshot channel) (failed : Bool) (event : NativeEvent) :
    Shows (shared.failIf failed event) snapshot channel := by
  unfold DriverShared.failIf
  split
  · exact shows.fail _
  · exact shows

end Shows

/-- At every point: the snapshot shows what the events pulled so far tell, the one in hand left
out, and the channel of the senders what they tell with it, once its first operation is over. -/
def TurnTask.Shown (self : TurnTask) : Prop :=
  match self.point with
  | .storing _ event => ∃ before, self.pulled = before ++ [event] ∧
      Shows self.shared (.readAll before) (.readAll before)
  | .modifying _ event => ∃ before, self.pulled = before ++ [event] ∧
      ¬ event.Silent ∧ Shows self.shared (.readAll before) (.readAll self.pulled)
  | .ended => True
  | _ => Shows self.shared (.readAll self.pulled) (.readAll self.pulled)

structure TurnTask.Published (task : TurnTask) : Prop where
  sound : Sound task.core
  told : task.point.isOver = false → Told task.core
  intact : Intact task.core task.pulled
  peer : task.core.peer = task.peer
  genuine : ∀ event ∈ task.pulled, event.Genuine task.peer
  shown : task.Shown

/-- The published view agrees with the client. -/
def TurnTask.Agreed (self : TurnTask) : Prop :=
  self.shared.channel = self.core.channel.getD 0 ∧
    self.shared.snapshot.channel = self.core.channel ∧
    self.shared.snapshot.state = self.core.state

/-- A pump that saw no overflow leaves a view that agrees. -/
def PumpReport.Agreed (report : PumpReport) : Prop :=
  report.overflowed = false → report.task.Agreed

instance : DecidablePred PumpReport.Agreed := fun report =>
  inferInstanceAs (Decidable (report.overflowed = false → _ ∧ _ ∧ _))

/-- A pump that came to its end, with no overflow seen so far, leaves a view that agrees, but
for the channel of the senders once a cleanup was requested. -/
def PumpReport.Agrees (report : PumpReport) : Prop :=
  (∃ nextTimer, report.result = .ok nextTimer) →
    (∀ event ∈ report.task.pulled, event.kind ≠ .eventOverflow) →
    report.task.shared.snapshot.channel = report.task.core.channel ∧
      report.task.shared.snapshot.state = report.task.core.state ∧
      (report.task.shared.channel = report.task.core.channel.getD 0 ∨
        (report.task.shared.closing = true ∧ report.task.shared.channel = 0))

namespace TurnTask

variable {crypto : StunCrypto} {self : TurnTask}

/-- A shutdown binds no channel. -/
theorem unbound_of_shutdown (sound : Sound self.core) (told : Told self.core)
    (closing : self.core.shuttingDown = true) : self.core.channel = none := by
  apply unbound_of_state told
  intro ready
  have serving := (sound.held ready).2.2.1
  rw [serving] at closing
  cases closing

/-- What others do to the shared state is the same to every view. -/
theorem shown_share (shown : self.Shown) {shared : DriverShared}
    (keeps : ∀ snapshot channel, Shows self.shared snapshot channel →
      Shows shared snapshot channel) : (self.share shared).Shown := by
  cases point : self.point with
  | storing pump event =>
    simp only [Shown, share, point] at shown ⊢
    obtain ⟨before, pulled, shows⟩ := shown
    exact ⟨before, pulled, keeps _ _ shows⟩
  | modifying pump event =>
    simp only [Shown, share, point] at shown ⊢
    obtain ⟨before, pulled, loud, shows⟩ := shown
    exact ⟨before, pulled, loud, keeps _ _ shows⟩
  | ended => simp only [Shown, share, point]
  | _ =>
    simp only [Shown, share, point] at shown ⊢
    exact keeps _ _ shown

theorem Published.share (published : self.Published) {shared : DriverShared}
    (keeps : ∀ snapshot channel, Shows self.shared snapshot channel →
      Shows shared snapshot channel) : (self.share shared).Published :=
  ⟨published.sound, published.told, published.intact, published.peer, published.genuine,
    shown_share published.shown keeps⟩

/-- A call that the point allows. -/
theorem Published.call (published : self.Published) (call : Call)
    (other : call.action ≠ .pullEvent)
    (forced : ∀ status, call.action = .forceDestroy status →
      self.core.shuttingDown = true ∨ self.point.isOver = true) :
    Published { self with core := (self.core.step crypto call).1 } := by
  obtain ⟨sound, told, intact, peer, genuine, shown⟩ := published
  refine ⟨sound_step call sound, fun running => ?_, intact_step sound intact other,
    (peer_step sound call).trans peer, genuine, shown⟩
  refine told_step sound (told running) call fun status force => ?_
  rcases forced status force with closing | finished
  · exact unbound_of_shutdown sound (told running) closing
  · rw [show self.point.isOver = false from running] at finished
    cases finished

/-- With no event in hand the point does not matter. -/
theorem Published.goTo (published : self.Published) {point : PumpPoint}
    (shown : Shows self.shared (.readAll self.pulled) (.readAll self.pulled))
    (running : self.point.isOver = false)
    (plain : (self.goTo point).Shown = Shows self.shared (.readAll self.pulled)
      (.readAll self.pulled)) : (self.goTo point).Published := by
  refine ⟨published.sound, fun _ => published.told running, published.intact, published.peer,
    published.genuine, ?_⟩
  rw [plain]
  exact shown

theorem agrees_none (report : PumpReport) (returned : none = some report) : report.Agrees := by
  cases returned

/-- A pump that fails promises nothing. -/
theorem agrees_failed {overflowed : Bool} {reason : String} {report : PumpReport}
    (returned : (self.returns overflowed (.error reason)).2 = some report) : report.Agrees := by
  cases returned
  rintro ⟨nextTimer, impossible⟩
  cases impossible

theorem Published.failed (published : self.Published)
    (shown : Shows self.shared (.readAll self.pulled) (.readAll self.pulled))
    (running : self.point.isOver = false) (overflowed : Bool) (reason : String) :
    (self.returns overflowed (.error reason)).1.Published :=
  published.goTo shown running rfl

/-- The step lemma of the polling. -/
theorem published_pump (published : self.Published) (now : Nat) (draw : Operation → Draw) :
    (self.step crypto (.pump now draw)).1.Published ∧
      ∀ report, (self.step crypto (.pump now draw)).2 = some report → report.Agrees := by
  cases point : self.point with
  | idle =>
    have called : Published { self with core := (self.core.poll crypto now draw).1 } :=
      published.call { action := .poll, now := now, draw := draw } nofun nofun
    have shown := published.shown
    simp only [Shown, point] at shown
    have running : self.point.isOver = false := by rw [point]; rfl
    cases polled : (self.core.poll crypto now draw).2 with
    | error reason =>
      simp only [step, point, polled]
      exact ⟨called.failed shown running _ _, fun report returned => agrees_failed returned⟩
    | ok nextTimer =>
      simp only [step, point, polled]
      exact ⟨called.goTo shown running rfl, agrees_none⟩
  | _ =>
    simp only [step, point]
    exact ⟨published, agrees_none⟩

theorem published_pullControl (published : self.Published) :
    (self.step crypto .pullControl).1.Published ∧
      ∀ report, (self.step crypto .pullControl).2 = some report → report.Agrees := by
  cases point : self.point with
  | controls nextTimer =>
    have called : Published { self with core := self.core.pullControl.1 } :=
      @Published.call crypto self published
        { action := .pullControl, now := 0, draw := fun _ => ⟨0, 0⟩ } nofun nofun
    have shown := published.shown
    simp only [Shown, point] at shown
    have running : self.point.isOver = false := by rw [point]; rfl
    cases pulled : self.core.pullControl.2 with
    | error reason =>
      simp only [step, point, pulled]
      exact ⟨called.failed shown running _ _, fun report returned => agrees_failed returned⟩
    | ok control =>
      cases control with
      | none =>
        simp only [step, point, pulled]
        exact ⟨called.goTo shown running rfl, agrees_none⟩
      | some packet =>
        simp only [step, point, pulled]
        split
        · exact ⟨called.failed shown running _ _, fun report returned => agrees_failed returned⟩
        · exact ⟨called.goTo shown running rfl, agrees_none⟩
  | _ =>
    simp only [step, point]
    exact ⟨published, agrees_none⟩

theorem published_sent (published : self.Published) (failure : Option String) :
    (self.step crypto (.sent failure)).1.Published ∧
      ∀ report, (self.step crypto (.sent failure)).2 = some report → report.Agrees := by
  cases point : self.point with
  | sending nextTimer =>
    have shown := published.shown
    simp only [Shown, point] at shown
    have running : self.point.isOver = false := by rw [point]; rfl
    cases failure with
    | some reason =>
      simp only [step, point]
      exact ⟨published.failed shown running _ _, fun report returned => agrees_failed returned⟩
    | none =>
      have sent : (self.share { self.shared with controlSent := true }).Published :=
        published.share fun _ _ shows => shows.same rfl rfl rfl rfl
      simp only [step, point]
      exact ⟨sent.goTo (shown.same rfl rfl rfl rfl) running rfl, agrees_none⟩
  | _ =>
    simp only [step, point]
    exact ⟨published, agrees_none⟩

/-- With nothing left to pull and no overflow seen, the events pulled tell it all. -/
theorem agrees_of_empty (published : self.Published) (running : self.point.isOver = false)
    (empty : self.core.events = [])
    (clean : ∀ event ∈ self.pulled, event.kind ≠ .eventOverflow)
    (shown : Shows self.shared (.readAll self.pulled) (.readAll self.pulled)) :
    self.shared.snapshot.channel = self.core.channel ∧
      self.shared.snapshot.state = self.core.state ∧
      (self.shared.channel = self.core.channel.getD 0 ∨
        (self.shared.closing = true ∧ self.shared.channel = 0)) := by
  have told := published.told running
  have all : self.pulled = pushedEvents self.core.history := by
    have whole := published.intact.whole
    rw [empty, List.append_nil] at whole
    exact whole clean
  have heard : TurnView.readAll self.pulled = self.core.heard := congrArg TurnView.readAll all
  rw [heard] at shown
  refine ⟨shown.bound.trans told.channel, shown.state.trans told.state, ?_⟩
  rw [← told.channel]
  exact shown.channel

theorem published_pullEvent (published : self.Published) :
    (self.step crypto .pullEvent).1.Published ∧
      ∀ report, (self.step crypto .pullEvent).2 = some report → report.Agrees := by
  cases point : self.point with
  | events pump =>
    obtain ⟨sound, told, intact, peer, genuine, shown⟩ := published
    simp only [Shown, point] at shown
    have running : self.point.isOver = false := by rw [point]; rfl
    have rest := intact_pull intact
    have toldRest : Told self.core.pullEvent.1 := (told running).same rfl rfl rfl rfl
    have soundRest : Sound self.core.pullEvent.1 :=
      sound_congr sound rfl rfl rfl rfl rfl rfl rfl rfl rfl rfl
    cases head : self.core.pullEvent.2 with
    | none =>
      have empty : self.core.pullEvent.1.events = [] := by
        simp only [pullEvent] at head ⊢
        rw [List.head?_eq_none_iff.mp head]
        rfl
      rw [head, Option.toList_none, List.append_nil] at rest
      have drained : Published { self with core := self.core.pullEvent.1 } :=
        ⟨soundRest, fun _ => toldRest, rest, peer, genuine, by
          simp only [Shown, point]
          exact shown⟩
      simp only [step, point, head, finish]
      generalize failed : (if pump.unexpectedDestroy = true ∧
        self.shared.snapshot.terminal.isNone = true then _ else self.shared) = shared
      have keeps : ∀ snapshot channel, Shows self.shared snapshot channel →
          Shows shared snapshot channel := by
        intro snapshot channel shows
        rw [← failed]
        split
        · exact shows.fail _
        · exact shows
      have finished : Published (goTo (share { self with core := self.core.pullEvent.1 } shared)
          .idle) :=
        (drained.share keeps).goTo (keeps _ _ shown) running rfl
      refine ⟨finished, fun report returned => ?_⟩
      cases returned
      rintro - clean
      exact agrees_of_empty finished rfl empty clean (keeps _ _ shown)
    | some event =>
      have waiting : event ∈ self.core.events := by
        simp only [pullEvent] at head
        exact List.mem_of_mem_head? head
      have real : event.Genuine self.peer := by
        intro bound
        have listed := intact.listed event (List.mem_append_right _ waiting)
          (by rw [bound]; decide)
        rw [← peer]
        exact (told running).genuine event listed bound
      rw [head, Option.toList_some] at rest
      simp only [step, point, head]
      refine ⟨⟨soundRest, fun _ => toldRest, rest, peer, fun other member => ?_,
        ⟨self.pulled, rfl, shown⟩⟩, agrees_none⟩
      rcases List.mem_append.mp member with old | new
      · exact genuine other old
      · rw [List.mem_singleton.mp new]
        exact real
  | _ =>
    simp only [step, point]
    exact ⟨published, agrees_none⟩

/-- An operation on the shared state for an event. -/
theorem Published.publish (published : self.Published) (running : self.point.isOver = false)
    {shared : DriverShared} {point : PumpPoint}
    (shown : ((self.share shared).goTo point).Shown) :
    ((self.share shared).goTo point).Published :=
  ⟨published.sound, fun _ => published.told running, published.intact, published.peer,
    published.genuine, shown⟩

theorem silent_of_kind {event : NativeEvent} {kind : EventKind} (told : event.kind = kind)
    (other : kind ≠ .state ∧ kind ≠ .channelBound) : event.Silent := by
  rw [NativeEvent.Silent, told]
  exact other

/-- The step lemma of the first operation for an event. -/
theorem published_store (published : self.Published) {pump : Pump} {event : NativeEvent}
    (point : self.point = .storing pump event) :
    (self.store pump event).1.Published ∧
      ∀ report, (self.store pump event).2 = some report → report.Agrees := by
  have running : self.point.isOver = false := by rw [point]; rfl
  have shown := published.shown
  simp only [Shown, point] at shown
  obtain ⟨before, pulled, shows⟩ := shown
  have told : TurnView.readAll self.pulled = (TurnView.readAll before).read event := by
    rw [pulled, TurnView.readAll_concat]
  -- Most events tell nothing of what is shown.
  have same (silent : event.Silent) :
      Shows self.shared (.readAll self.pulled) (.readAll self.pulled) := by
    rw [told, read_silent _ silent]
    exact shows
  cases kind : event.kind with
  | state =>
    simp only [store, kind]
    refine ⟨published.publish running ⟨before, pulled, fun silent => silent.1 kind, ?_⟩,
      agrees_none⟩
    change Shows _ (.readAll before) (.readAll self.pulled)
    rw [told]
    by_cases ready : event.state = .ready
    · simp only [TurnView.read, kind, ready, ne_eq, not_true_eq_false, if_false]
      exact ⟨shows.state, shows.bound, shows.channel⟩
    · simp only [TurnView.read, kind, ready, ne_eq, not_false_eq_true, if_true]
      exact ⟨shows.state, shows.bound, Or.inl rfl⟩
  | channelBound =>
    have mem : event ∈ self.pulled := by
      rw [pulled]
      exact List.mem_append_right _ (List.mem_singleton_self event)
    obtain ⟨number, address⟩ := published.genuine event mem kind
    have range : 0x4000 ≤ event.channel.toNat ∧ event.channel.toNat ≤ 0x7fff := by
      rw [number]
      decide
    simp only [store, kind, address, toSocketAddr_fromSocketAddr, ne_eq, not_true_eq_false,
      if_false, range, and_self]
    refine ⟨published.publish running ⟨before, pulled, fun silent => silent.2 kind, ?_⟩,
      agrees_none⟩
    change Shows _ (.readAll before) (.readAll self.pulled)
    rw [told]
    simp only [TurnView.read, kind]
    exact ⟨shows.state, shows.bound, Or.inl rfl⟩
  | requestComplete =>
    have silent := silent_of_kind kind (by decide)
    simp only [store, kind]
    obtain ⟨state, bound⟩ := self.shared.snapshot.complete_same event
    have completed : Shows { self.shared with snapshot := self.shared.snapshot.complete event }
        (.readAll self.pulled) (.readAll self.pulled) :=
      (same silent).same state bound rfl rfl
    exact ⟨published.publish running (completed.failIf _ _), agrees_none⟩
  | stunResponseError =>
    have silent := silent_of_kind kind (by decide)
    simp only [store, kind]
    exact ⟨published.publish running ((same silent).failIf _ _), agrees_none⟩
  | relayAddress =>
    have silent := silent_of_kind kind (by decide)
    have shown := same silent
    simp only [store, kind]
    split
    · exact ⟨published.failed shown running _ _, fun report returned => agrees_failed returned⟩
    · exact ⟨published.failed shown running _ _, fun report returned => agrees_failed returned⟩
    · split
      · exact ⟨published.failed shown running _ _, fun report returned => agrees_failed returned⟩
      · exact ⟨published.publish running (shown.same rfl rfl rfl rfl), agrees_none⟩
  | controlOverflow | forcedDestroy | eventOverflow =>
    have silent := silent_of_kind kind (by decide)
    simp only [store, kind]
    exact ⟨published.publish running ((same silent).fail _), agrees_none⟩
  | channelRebindExhausted =>
    have silent := silent_of_kind kind (by decide)
    simp only [store, kind]
    exact ⟨published.goTo (same silent) running rfl, agrees_none⟩

/-- The step lemma of the second. -/
theorem published_modify (published : self.Published) {pump : Pump} {event : NativeEvent}
    (point : self.point = .modifying pump event) : (self.modify pump event).Published := by
  have running : self.point.isOver = false := by rw [point]; rfl
  have shown := published.shown
  simp only [Shown, point] at shown
  obtain ⟨before, pulled, loud, shows⟩ := shown
  have told : TurnView.readAll self.pulled = (TurnView.readAll before).read event := by
    rw [pulled, TurnView.readAll_concat]
  obtain ⟨state, bound, channel⟩ := shows
  cases kind : event.kind with
  | state =>
    simp only [modify, kind]
    apply published.publish running
    have read : (TurnView.readAll before).read event =
        { channel := if event.state ≠ .ready then none else (TurnView.readAll before).channel
          state := event.state } := by
      simp only [TurnView.read, kind]
    refine ⟨?_, ?_, channel⟩
    · change event.state = (TurnView.readAll self.pulled).state
      rw [told, read]
    · change (self.shared.snapshot.enter event.state).channel =
        (TurnView.readAll self.pulled).channel
      rw [told, read, CoreSnapshot.enter, bound]
  | channelBound =>
    simp only [modify, kind]
    apply published.publish running
    have read : (TurnView.readAll before).read event =
        { TurnView.readAll before with channel := some event.channel } := by
      simp only [TurnView.read, kind]
    refine ⟨?_, ?_, channel⟩
    · change self.shared.snapshot.state = (TurnView.readAll self.pulled).state
      rw [told, read, state]
    · change some event.channel = (TurnView.readAll self.pulled).channel
      rw [told, read]
  | _ =>
    exact absurd (silent_of_kind kind (by decide)) loud

theorem published_step (published : self.Published) (event : TurnTaskEvent) :
    (self.step crypto event).1.Published ∧
      ∀ report, (self.step crypto event).2 = some report → report.Agrees := by
  cases event with
  | call call =>
    simp only [step]
    split
    · next allowed =>
        refine ⟨published.call call ?_ ?_, agrees_none⟩
        · intro action
          rw [action] at allowed
          cases allowed
        · intro status action
          rw [action] at allowed
          exact Bool.or_eq_true_iff.mp allowed
    · exact ⟨published, agrees_none⟩
  | requestCleanup =>
    exact ⟨published.share fun _ _ shows => shows.requestCleanup, agrees_none⟩
  | fail reason => exact ⟨published.share fun _ _ shows => shows.fail reason, agrees_none⟩
  | pump now draw => exact published_pump published now draw
  | pullControl => exact published_pullControl published
  | sent failure => exact published_sent published failure
  | pullEvent => exact published_pullEvent published
  | store =>
    cases point : self.point with
    | storing pump event =>
      simp only [step, point]
      exact published_store published point
    | _ =>
      simp only [step, point]
      exact ⟨published, agrees_none⟩
  | modify =>
    cases point : self.point with
    | modifying pump event =>
      simp only [step, point]
      exact ⟨published_modify published point, agrees_none⟩
    | _ =>
      simp only [step, point]
      exact ⟨published, agrees_none⟩
  | recover =>
    cases point : self.point with
    | failed reason =>
      have shown := published.shown
      simp only [Shown, point] at shown
      simp only [step, point]
      exact ⟨published.publish (by rw [point]; rfl) ((shown.fail reason).requestCleanup),
        agrees_none⟩
    | _ =>
      simp only [step, point]
      exact ⟨published, agrees_none⟩
  | leave =>
    exact ⟨⟨published.sound, nofun, published.intact, published.peer, published.genuine, trivial⟩,
      agrees_none⟩

theorem published_start {core : Inner} (fresh : Fresh core) : (start core).Published :=
  ⟨sound_fresh fresh, fun _ => told_fresh fresh, intact_fresh fresh, rfl,
    fun _ member => absurd member List.not_mem_nil, ⟨rfl, rfl, Or.inl rfl⟩⟩

/-- After every pump that came to its end, with no overflow seen so far, the snapshot shows the
channel and the state of the client, and so do the senders see the channel, or none once a
cleanup was requested. -/
theorem snapshot_agrees (crypto : StunCrypto) {core : Inner} (fresh : Fresh core)
    (events : List TurnTaskEvent) :
    ∀ report, some report ∈ (Transducer.run (step crypto) (start core) events).2 →
      report.Agrees := by
  intro report member
  obtain ⟨index, found⟩ := List.getElem?_of_mem member
  rw [Transducer.getElem?_run] at found
  obtain ⟨event, there, returned⟩ := Option.map_eq_some_iff.mp found
  have reached : (Transducer.run (step crypto) (start core) (events.take index)).1.Published :=
    Transducer.run_invariant (step crypto)
      (fun state event (published : state.Published) =>
        (published_step published event).1)
      (start core) (events.take index) (published_start fresh)
  exact (published_step reached event).2 report returned

/-!
### Runs of a local client
-/

/-- A pump that sends some packets and pulls some events. -/
def pumpEvents (now controls events : Nat) : List TurnTaskEvent :=
  .pump now (drawAt now) :: (List.replicate controls [.pullControl, .sent none]).flatten ++
    .pullControl :: (List.replicate events [.pullEvent, .store, .modify]).flatten ++ [.pullEvent]

def callEvent (action : Action) (now : Nat) : TurnTaskEvent :=
  .call { action := action, now := now, draw := drawAt now }

/-- The first request is queued and sent. -/
def startEvents : List TurnTaskEvent := callEvent .startAllocation 0 :: pumpEvents 0 1 1

theorem snapshot_agrees_once :
    Fresh (localClient .datagram) ∧
      ∀ report, some report ∈ (Transducer.run (step StunCrypto.standard)
        (start (localClient .datagram)) startEvents).2 → report.Agrees :=
  ⟨fresh_localClient .datagram, snapshot_agrees StunCrypto.standard (fresh_localClient .datagram) _⟩

/-- A success response to the ChannelBind of a local client. -/
def boundBytes : List U8 :=
  [0x01, 0x09, 0x00, 0x18, 0x21, 0x12, 0xa4, 0x42, 0, 0, 0, 0, 0, 0, 0, 0, 0, 0, 0, 9,
    0x00, 0x08, 0x00, 0x14, 0xcf, 0xed, 0x88, 0x3c, 0xc0, 0x13, 0x71, 0xb5, 0xdb, 0x43, 0x31, 0x82,
    0xfe, 0x88, 0xeb, 0x64, 0x02, 0x01, 0x15, 0x56]

/-- An error response to its Allocate, with the code 400. -/
def badRequestBytes : List U8 :=
  [0x01, 0x13, 0, 0x08, 0x21, 0x12, 0xa4, 0x42, 0, 0, 0, 0, 0, 0, 0, 0, 0, 0, 0, 3,
    0, 0x09, 0, 4, 0, 0, 4, 0]

/-- The owner requests a cleanup just before a pump. -/
def cleanupEvents : List TurnTaskEvent :=
  startEvents ++ callEvent (.inputStun challengeBytes) 1 :: pumpEvents 1 1 0 ++
    callEvent (.inputStun (grantBytes 0x2c tenMinutes)) 5 :: pumpEvents 5 0 3 ++
    callEvent .startChannel 6 :: pumpEvents 6 1 0 ++
    callEvent (.inputStun boundBytes) 7 :: pumpEvents 7 0 2 ++ .requestCleanup :: pumpEvents 8 0 0

/-- A burst of refusals and the end of the allocation behind it overflow the queue of events
before the first pump. -/
def burstEvents : List TurnTaskEvent :=
  startEvents ++ callEvent (.inputStun challengeBytes) 1 ::
    List.replicate 63 (callEvent (.inputStun forbiddenBytes) 2) ++
    callEvent (.inputStun badRequestBytes) 3 :: pumpEvents 4 0 64 ++ pumpEvents 5 0 0

/-- The first send fails. -/
def unsentEvents : List TurnTaskEvent :=
  [callEvent .startAllocation 0, .pump 0 (drawAt 0), .pullControl, .sent (some "unreachable")]

/-- After some pump that saw no overflow the published view does not agree. -/
def Disagrees (events : List TurnTaskEvent) : Prop :=
  ∃ report, some report ∈ (Transducer.run (step StunCrypto.standard)
    (start (localClient .datagram)) events).2 ∧ ¬ report.Agreed

theorem disagrees_of_any {events : List TurnTaskEvent}
    (found : (Transducer.run (step StunCrypto.standard) (start (localClient .datagram))
      events).2.any (fun returned => returned.any fun report => !decide report.Agreed) = true) :
    Disagrees events := by
  obtain ⟨returned, member, differs⟩ := List.any_eq_true.mp found
  cases returned with
  | none => cases differs
  | some report =>
    refine ⟨report, member, fun agreed => ?_⟩
    rw [Option.any_some, decide_eq_true agreed] at differs
    cases differs

/-- With a cleanup requested the senders see no channel while one is bound; behind an overflow
the state that was lost with it is never shown; and a pump that fails shows nothing. -/
theorem snapshot_disagrees :
    Disagrees cleanupEvents ∧ Disagrees burstEvents ∧ Disagrees unsentEvents :=
  ⟨disagrees_of_any (by decide +kernel), disagrees_of_any (by decide +kernel),
    disagrees_of_any (by decide +kernel)⟩

end TurnTask

end Csqtt
