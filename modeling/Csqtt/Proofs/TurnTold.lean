/-
Module: Csqtt.Proofs.TurnTold
Purpose: What the events of the relay client tell about its channel and its state: whoever
  reads all of them knows both.
Trusted boundary: none
Main exports: TurnView, TurnView.read, pushedEvents, Inner.heard, Told, told_step, Intact,
  intact_step
-/
import Csqtt.Proofs.TurnLifecycle

namespace Csqtt

open Inner

/-- The bound channel and the state. -/
structure TurnView where
  channel : Option U16
  state : TurnState
deriving DecidableEq, Repr

namespace TurnView

def initial : TurnView where
  channel := none
  state := .null

/-- What an event tells. In no other state than the one in which an allocation is held is a
channel bound. -/
def read (self : TurnView) (event : NativeEvent) : TurnView :=
  match event.kind with
  | .state =>
      { channel := if event.state ≠ .ready then none else self.channel, state := event.state }
  | .channelBound => { self with channel := some event.channel }
  | _ => self

def readAll (events : List NativeEvent) : TurnView := events.foldl read initial

theorem readAll_concat (events : List NativeEvent) (event : NativeEvent) :
    readAll (events ++ [event]) = (readAll events).read event :=
  List.foldl_concat ..

end TurnView

def Entry.event : Entry → Option NativeEvent
  | .pushed event _ => some event
  | _ => none

/-- All events that were ever pushed. -/
def pushedEvents (history : List Entry) : List NativeEvent := history.filterMap Entry.event

/-- What all events together tell. -/
def Inner.heard (inner : Inner) : TurnView := .readAll (pushedEvents inner.history)

/-- The event tells nothing about channel and state. -/
def NativeEvent.Silent (event : NativeEvent) : Prop :=
  event.kind ≠ .state ∧ event.kind ≠ .channelBound

/-- The event reports the only channel there is, for this peer, if it reports a channel. -/
def NativeEvent.Genuine (peer : SocketAddr) (event : NativeEvent) : Prop :=
  event.kind = .channelBound →
    event.channel = channelNumber ∧ event.address = .fromSocketAddr peer

/-- The state is known, and the channel is at most one that an end of the allocation is still
to be reported for. -/
structure Leaving (inner : Inner) : Prop where
  state : inner.heard.state = inner.state
  known : inner.heard.channel.isSome → inner.state = .ready
  channel : inner.channel = none
  genuine : ∀ event ∈ pushedEvents inner.history, event.Genuine inner.peer

/-- The events tell the channel and the state, and a channel is bound in one state only. -/
structure Told (inner : Inner) : Prop where
  state : inner.heard.state = inner.state
  channel : inner.heard.channel = inner.channel
  bound : inner.channel.isSome → inner.state = .ready
  genuine : ∀ event ∈ pushedEvents inner.history, event.Genuine inner.peer

section Telling

variable {crypto : StunCrypto} {inner inner' : Inner}

theorem pushedEvents_append (first second : List Entry) :
    pushedEvents (first ++ second) = pushedEvents first ++ pushedEvents second :=
  List.filterMap_append

theorem heard_pushEvent (inner : Inner) (event : NativeEvent) :
    (inner.pushEvent event).heard = inner.heard.read event := by
  rw [heard, pushEvent, pushedEvents_append]
  exact TurnView.readAll_concat _ event

theorem read_silent (view : TurnView) {event : NativeEvent} (silent : event.Silent) :
    view.read event = view := by
  unfold TurnView.read
  split
  · next state => exact absurd state silent.1
  · next bound => exact absurd bound silent.2
  · rfl

theorem genuine_silent (peer : SocketAddr) {event : NativeEvent} (silent : event.Silent) :
    event.Genuine peer :=
  fun bound => absurd bound silent.2

theorem genuine_push {event : NativeEvent} (genuine : event.Genuine inner.peer)
    (before : ∀ other ∈ pushedEvents inner.history, other.Genuine inner.peer) :
    ∀ other ∈ pushedEvents (inner.pushEvent event).history, other.Genuine inner.peer := by
  intro other member
  rw [pushEvent, pushedEvents_append] at member
  rcases List.mem_append.mp member with old | new
  · exact before other old
  · rw [List.mem_singleton.mp new]
    exact genuine

/-- A change of what the events do not tell. -/
theorem Told.same (told : Told inner) (channel : inner'.channel = inner.channel)
    (state : inner'.state = inner.state) (peer : inner'.peer = inner.peer)
    (history : pushedEvents inner'.history = pushedEvents inner.history) : Told inner' := by
  have heard : inner'.heard = inner.heard := congrArg TurnView.readAll history
  constructor
  case state => rw [heard, state]; exact told.state
  case channel => rw [heard, channel]; exact told.channel
  case bound => rw [channel, state]; exact told.bound
  case genuine => rw [history, peer]; exact told.genuine

theorem told_pushEvent (told : Told inner) {event : NativeEvent} (silent : event.Silent) :
    Told (inner.pushEvent event) := by
  have heard : (inner.pushEvent event).heard = inner.heard := by
    rw [heard_pushEvent, read_silent _ silent]
  constructor
  case state => rw [heard]; exact told.state
  case channel => rw [heard]; exact told.channel
  case bound => exact told.bound
  case genuine => exact genuine_push (genuine_silent _ silent) told.genuine

theorem leaving_pushEvent (leaving : Leaving inner) {event : NativeEvent}
    (silent : event.Silent) : Leaving (inner.pushEvent event) := by
  have heard : (inner.pushEvent event).heard = inner.heard := by
    rw [heard_pushEvent, read_silent _ silent]
  constructor
  case state => rw [heard]; exact leaving.state
  case known => rw [heard]; exact leaving.known
  case channel => exact leaving.channel
  case genuine => exact genuine_push (genuine_silent _ silent) leaving.genuine

/-- Giving up the channel, which is still to be reported. -/
theorem Told.leave (told : Told inner) (channel : inner'.channel = none)
    (state : inner'.state = inner.state) (peer : inner'.peer = inner.peer)
    (history : pushedEvents inner'.history = pushedEvents inner.history) : Leaving inner' := by
  have heard : inner'.heard = inner.heard := congrArg TurnView.readAll history
  constructor
  case state => rw [heard, state]; exact told.state
  case known => rw [heard, state, told.channel]; exact told.bound
  case channel => exact channel
  case genuine => rw [history, peer]; exact told.genuine

/-- Outside the state in which an allocation is held nothing is left to report. -/
theorem told_of_leaving (leaving : Leaving inner) (finished : inner.state ≠ .ready) : Told inner := by
  constructor
  case state => exact leaving.state
  case channel =>
    rw [leaving.channel]
    cases known : inner.heard.channel with
    | none => rfl
    | some channel => exact absurd (leaving.known (by rw [known]; rfl)) finished
  case bound =>
    intro bound
    rw [leaving.channel] at bound
    cases bound
  case genuine => exact leaving.genuine

/-- The report of an end. -/
theorem told_setState (leaving : Leaving inner) {state : TurnState}
    (finished : state ≠ .ready) :
    Told (inner.setState state) := by
  unfold setState
  split
  · next same =>
      apply told_of_leaving leaving
      rw [same]
      exact finished
  · constructor
    case state => rw [heard_pushEvent]; rfl
    case channel =>
      rw [heard_pushEvent]
      simp only [TurnView.read, finished, ne_eq, not_false_eq_true, if_true]
      exact leaving.channel.symm
    case bound =>
      intro bound
      rw [show inner.channel = none from leaving.channel] at bound
      cases bound
    case genuine =>
      exact @genuine_push { inner with state := state } _ nofun leaving.genuine

/-- The report of a new state while no channel is bound. -/
theorem told_enter (told : Told inner) (unbound : inner.channel = none) (state : TurnState) :
    Told (inner.setState state) := by
  unfold setState
  split
  · exact told
  · constructor
    case state => rw [heard_pushEvent]; rfl
    case channel =>
      have none : inner.heard.channel = none := told.channel.trans unbound
      rw [heard_pushEvent]
      simp only [TurnView.read]
      rw [show Inner.heard { inner with state := state } = inner.heard from rfl, none, ite_self]
      exact unbound.symm
    case bound =>
      intro bound
      rw [show inner.channel = none from unbound] at bound
      cases bound
    case genuine => exact @genuine_push { inner with state := state } _ nofun told.genuine

theorem unbound_of_state (told : Told inner) (finished : inner.state ≠ .ready) :
    inner.channel = none := by
  cases bound : inner.channel with
  | none => rfl
  | some channel => exact absurd (told.bound (by rw [bound]; rfl)) finished

/-!
### The operations
-/

theorem told_dropOldestControl (told : Told inner) : Told inner.dropOldestControl := by
  unfold dropOldestControl
  split
  · apply told_pushEvent
    · exact told.same rfl rfl rfl rfl
    · exact ⟨nofun, nofun⟩
  · exact told

theorem told_queuePacket (told : Told inner) (cause : Cause) (packet : List U8) :
    Told (inner.queuePacket cause packet) := by
  refine (told_dropOldestControl told).same rfl rfl rfl ?_
  rw [queuePacket, pushedEvents_append]
  exact List.append_nil _

theorem told_queueKeepalive (told : Told inner) : Told inner.queueKeepalive := by
  unfold queueKeepalive
  split
  · exact told
  · exact told_queuePacket told _ _

theorem told_startOperation (told : Told inner) (draw : Draw) (operation : Operation)
    (authenticated : Bool) (nonceRetries : Nat) :
    Told (inner.startOperation crypto draw operation authenticated nonceRetries).1 := by
  unfold startOperation
  split
  · split
    · split
      · exact told_queuePacket told _ _
      · exact told
    · exact told
  · split
    · exact told
    · split
      · exact told
      · next packet built =>
          have queued := told_queuePacket told (.transmission inner.started draw.now) packet
          exact queued.same rfl rfl rfl rfl

theorem told_complete (told : Told inner) (operation : Operation) (status : Int)
    (stunCode : Nat) : Told (inner.complete operation status stunCode) :=
  told_pushEvent told ⟨nofun, nofun⟩

theorem told_destroyAllocation (told : Told inner) (operation : Operation) (status : Int)
    (stunCode : Nat) : Told (inner.destroyAllocation operation status stunCode) := by
  have completed := told_complete told operation status stunCode
  unfold destroyAllocation
  apply told_setState
  · exact completed.leave rfl rfl rfl rfl
  · split <;> exact nofun

theorem told_destroyAfterChannelRebindExhausted (told : Told inner) :
    Told inner.destroyAfterChannelRebindExhausted := by
  unfold destroyAfterChannelRebindExhausted
  apply told_setState
  · apply leaving_pushEvent
    · exact told.leave rfl rfl rfl rfl
    · exact ⟨nofun, nofun⟩
  · exact nofun

theorem told_scheduleMaintenanceRetry (told : Told inner) (operation : Operation) (now : Nat) :
    Told (inner.scheduleMaintenanceRetry operation now).1 := by
  cases operation with
  | allocate | deallocate => exact told
  | refresh | permission => exact told.same rfl rfl rfl rfl
  | channel =>
    unfold scheduleMaintenanceRetry
    simp only
    split <;> exact told.same rfl rfl rfl rfl

theorem told_completeFailure (told : Told inner) (operation : Operation) (status : Int)
    (stunCode : Nat) (now : Nat) : Told (inner.completeFailure operation status stunCode now) := by
  have completed := told_complete told operation status stunCode
  have scheduled := told_scheduleMaintenanceRetry completed operation now
  unfold completeFailure
  split
  · simp only
    split
    · exact scheduled
    · exact told_destroyAfterChannelRebindExhausted scheduled
  · exact told_destroyAllocation told operation status stunCode

theorem told_bind (told : Told inner) (ready : inner.state = .ready) :
    Told (Inner.pushEvent { inner with channel := some channelNumber, channelFailures := 0 } {
      kind := .channelBound
      channel := channelNumber
      address := .fromSocketAddr inner.peer }) := by
  constructor
  case state => rw [heard_pushEvent]; exact told.state
  case channel => rw [heard_pushEvent]; rfl
  case bound => exact fun _ => ready
  case genuine =>
    apply @genuine_push { inner with channel := some channelNumber, channelFailures := 0 }
    · exact fun _ => ⟨rfl, rfl⟩
    · exact told.genuine

theorem told_completeSuccess (told : Told inner) {operation : Operation}
    (permitted : inner.Permits operation) (draw : Draw) (message : Message) (now : Nat) :
    Told (inner.completeSuccess crypto draw operation message now).1 := by
  cases operation with
  | allocate =>
    have unbound : inner.channel = none := by
      apply unbound_of_state told
      rw [permitted.2]
      exact nofun
    cases granted : inner.grantOf message with
    | error reason =>
      simp only [completeSuccess, granted]
      exact told
    | ok found =>
      have taken : Told (inner.allocated found.1 (attributeU32 message attrLifetime) found.2
          now) := by
        apply told_pushEvent
        · exact told.same rfl rfl rfl rfl
        · exact ⟨nofun, nofun⟩
      simp only [completeSuccess, granted]
      split
      · exact told_startOperation (told_enter taken unbound _) _ _ _ _
      · exact told_complete (told_enter taken unbound _) _ _ _
  | refresh =>
    simp only [completeSuccess]
    split
    · exact told
    · apply told_complete
      exact told.same rfl rfl rfl rfl
  | deallocate =>
    have unbound : inner.channel = none := by
      apply unbound_of_state told
      rw [permitted.2.1]
      exact nofun
    simp only [completeSuccess]
    split
    · exact told
    · apply told_enter
      · apply told_complete
        exact told.same rfl rfl rfl rfl
      · exact unbound
  | permission =>
    apply told_complete
    exact told.same rfl rfl rfl rfl
  | channel => exact told_complete (told_bind told permitted.2.1) _ _ _

theorem told_timeOut (told : Told inner) (index : Nat) (pending : PendingTransaction) (now : Nat) :
    Told (inner.timeOut index pending now) := by
  apply told_completeFailure
  refine told.same rfl rfl rfl ?_
  simp only [removeQueuedTransaction]
  rw [pushedEvents_append]
  exact List.append_nil _

theorem told_retransmit (told : Told inner) (index : Nat) (pending : PendingTransaction)
    (now : Nat) : Told (inner.retransmit index pending now) :=
  (told_queuePacket told (.transmission pending.serial now) pending.packet).same rfl rfl rfl rfl

theorem told_expireLoop (now fuel index : Nat) (told : Told inner) :
    Told (expireLoop now fuel index inner).2 := by
  induction fuel generalizing index inner with
  | zero => exact told
  | succ fuel inductionHypothesis =>
    unfold expireLoop
    split
    · exact told
    · next pending found =>
        split
        · exact inductionHypothesis _ told
        · split
          · exact inductionHypothesis _ (told_timeOut told index pending now)
          · exact inductionHypothesis _ (told_retransmit told index pending now)

theorem told_andThen {result : Inner × Except String Unit}
    {next : Inner → Inner × Except String Unit} (first : Told result.1)
    (second : ∀ middle, Told middle → Told (next middle).1) : Told (andThen result next).1 := by
  unfold andThen
  split
  · exact first
  · exact second result.1 first

theorem told_startDue (told : Told inner) (draw : Operation → Draw) (operation : Operation)
    (due : Bool) {clear : Inner → Inner} (cleared : Told (clear inner)) :
    Told (inner.startDue crypto draw operation due clear).1 := by
  unfold startDue
  split
  · exact told_startOperation cleared _ _ _ _
  · exact told

theorem told_keepPathAlive (told : Told inner) (now : Nat) : Told (inner.keepPathAlive now) := by
  unfold keepPathAlive
  split
  · apply told_queueKeepalive
    exact told.same rfl rfl rfl rfl
  · exact told

theorem told_maintain (told : Told inner) (now : Nat) (draw : Operation → Draw) :
    Told (inner.maintain crypto now draw).1 := by
  unfold maintain
  apply told_andThen
  · exact told_startDue told draw _ _ (told.same rfl rfl rfl rfl)
  · intro refreshed told
    have rearmed : Told (refreshed.rearmMaintenance (isDue inner.maintenanceRefresh now) now) := by
      unfold rearmMaintenance
      split
      · exact told.same rfl rfl rfl rfl
      · exact told
    apply told_andThen
    · exact told_startDue rearmed draw _ _ (rearmed.same rfl rfl rfl rfl)
    · intro permitted told
      apply told_andThen
      · exact told_startDue told draw _ _ (told.same rfl rfl rfl rfl)
      · exact fun bound told => told_keepPathAlive told now

theorem told_poll (told : Told inner) (now : Nat) (draw : Operation → Draw) :
    Told (inner.poll crypto now draw).1 := by
  have expired : Told ((inner.expireTransactions now).expireAllocation now) := by
    have swept : Told (inner.expireTransactions now) := told_expireLoop now _ 0 told
    unfold expireAllocation
    split
    · exact told_destroyAllocation swept _ _ _
    · exact swept
  unfold poll
  split
  · exact told
  · simp only
    generalize (inner.expireTransactions now).expireAllocation now = middle at expired
    by_cases serves : middle.shuttingDown = false ∧ middle.state = .ready
    · simp only [serves, and_self, if_true]
      split <;> exact told_maintain expired now draw
    · simp only [serves, if_false]
      exact expired

theorem told_resyncAfterSuspend (told : Told inner) (now gap : Nat) :
    Told (inner.resyncAfterSuspend now gap).1 := by
  unfold resyncAfterSuspend
  split
  · exact told
  · simp only
    split
    · exact told.same rfl rfl rfl rfl
    · split
      · exact told.same rfl rfl rfl rfl
      · exact told_destroyAllocation told _ _ _

theorem told_pushResponseError (told : Told inner) (operation : Operation) (status : Int)
    (code : Nat) (state : TurnState) :
    Told (inner.pushResponseError operation status code state) :=
  told_pushEvent told ⟨nofun, nofun⟩

theorem told_reportFailure (told : Told inner) (operation : Operation) (code : Nat)
    (state : TurnState) (now : Nat) : Told (inner.reportFailure operation code state now) :=
  told_completeFailure (told_pushResponseError told operation 0 code state) _ _ _ _

theorem told_answerError (told : Told inner) (now : Nat) (draw : Operation → Draw)
    (message : Message) (pending : PendingTransaction) :
    Told (inner.answerError crypto now draw message pending) := by
  unfold answerError
  simp only
  split
  · exact told_completeFailure (told_pushResponseError told _ _ _ _) _ _ _ _
  · split
    · exact told_destroyAllocation (told_pushResponseError told _ _ _ _) _ _ _
    · split
      · exact told_reportFailure told _ _ _ _
      · next credentials taken =>
          have learned : Told (inner.setAuth crypto credentials.1 credentials.2) :=
            told.same rfl rfl rfl rfl
          have retried : Told ((inner.setAuth crypto credentials.1
              credentials.2).startOperation crypto _ _ _ _).1 :=
            told_startOperation learned (draw pending.operation) pending.operation true
              (pending.nonceRetries + 1)
          split
          · exact retried
          · exact told_reportFailure retried _ _ _ _

theorem told_answer (sound : Sound inner) (told : Told inner) {index : Nat}
    {pending : PendingTransaction} (found : inner.pending[index]? = some pending)
    (message : Message) (now : Nat) (draw : Operation → Draw) :
    Told (inner.answer crypto now draw message index pending).1 := by
  have permitted := sound.fits pending (List.mem_of_getElem? found)
  have taken : Told (inner.takePending index pending) := told.same rfl rfl rfl rfl
  unfold answer
  split
  · unfold rejectUnverified
    simp only
    split
    · exact told_pushResponseError told _ _ _ _
    · exact told
  · simp only
    split
    · exact told_completeFailure taken _ _ _ _
    · split
      · exact told_answerError taken now draw message pending
      · have completed : Told ((inner.takePending index pending).completeSuccess crypto
            _ _ _ _).1 :=
          told_completeSuccess taken permitted (draw .deallocate) message now
        unfold answerSuccess
        simp only
        split
        · exact completed
        · exact told_completeFailure completed _ _ _ _

theorem told_inputStun (sound : Sound inner) (told : Told inner) (now : Nat)
    (draw : Operation → Draw) (packet : List U8) :
    Told (inner.inputStun crypto now draw packet).1 := by
  rcases @inputStun_cases crypto now draw packet inner with same | answered
  · rw [same]
    exact told
  · obtain ⟨message, index, pending, -, -, -, -, found, -, same⟩ := answered
    rw [same]
    exact told_answer sound told found message now draw

theorem told_gracefulShutdown (told : Told inner) (draw : Operation → Draw) :
    Told (inner.gracefulShutdown crypto draw).1 := by
  have stopped : Leaving inner.beginShutdown := told.leave rfl rfl rfl rfl
  have emptied : Leaving { inner.beginShutdown with pending := [] } := told.leave rfl rfl rfl rfl
  unfold gracefulShutdown
  split
  · exact told
  · simp only
    split
    · apply told_startOperation
      exact told_setState emptied nofun
    · next other =>
        have finished : inner.state ≠ .ready := fun ready => other (Or.inl ready)
        split
        · exact told_of_leaving emptied finished
        · exact told_of_leaving stopped finished

/-- A forced end reports no channel, so it is to come when none is bound. -/
theorem told_forceDestroy (told : Told inner) (unbound : inner.channel = none) (status : Int) :
    Told (inner.forceDestroy status) := by
  unfold forceDestroy
  split
  · exact told
  · apply told_pushEvent
    · apply told_enter
      · exact told.same rfl rfl rfl rfl
      · exact unbound
    · exact ⟨nofun, nofun⟩

theorem told_startAllocation (told : Told inner) (draw : Operation → Draw) :
    Told (inner.startAllocation crypto draw).1 := by
  unfold startAllocation
  split
  · exact told
  · split
    · exact told
    · next idle =>
        have unbound : inner.channel = none := by
          apply unbound_of_state told
          rw [not_not.mp idle]
          exact nofun
        exact told_startOperation (told_enter told unbound _) _ _ _ _

/-- The calls that leave the end of a bound channel to their caller. -/
theorem told_step (sound : Sound inner) (told : Told inner) (call : Call)
    (unbound : ∀ status, call.action = .forceDestroy status → inner.channel = none) :
    Told (inner.step crypto call).1 := by
  cases action : call.action with
  | startAllocation =>
    simp only [step, action]
    exact told_startAllocation told call.draw
  | startChannel =>
    simp only [step, action, startChannel]
    split
    · exact told
    · exact told_startOperation told _ _ _ _
  | startPermission =>
    simp only [step, action, startPermission]
    split
    · exact told
    · exact told_startOperation told _ _ _ _
  | inputStun packet =>
    simp only [step, action]
    exact told_inputStun sound told call.now call.draw packet
  | poll =>
    simp only [step, action]
    exact told_poll told call.now call.draw
  | resyncAfterSuspend gap =>
    simp only [step, action]
    exact told_resyncAfterSuspend told call.now gap
  | pullControl =>
    simp only [step, action, pullControl]
    split
    · exact told
    · split
      · exact told.same rfl rfl rfl rfl
      · exact told.same rfl rfl rfl rfl
  | pullEvent =>
    simp only [step, action]
    exact told.same rfl rfl rfl rfl
  | gracefulShutdown =>
    simp only [step, action]
    exact told_gracefulShutdown told call.draw
  | forceDestroy status =>
    simp only [step, action]
    exact told_forceDestroy told (unbound status action) status

end Telling

/-!
### The queue of events
-/

/-- What was pulled and what waits was pushed, and as long as no overflow shows it is all that
was pushed. -/
structure Intact (inner : Inner) (pulled : List NativeEvent) : Prop where
  listed : ∀ event ∈ pulled ++ inner.events, event.kind ≠ .eventOverflow →
    event ∈ pushedEvents inner.history
  whole : (∀ event ∈ pulled ++ inner.events, event.kind ≠ .eventOverflow) →
    pulled ++ inner.events = pushedEvents inner.history

section Queue

variable {crypto : StunCrypto} {grant : Prop} {inner inner' : Inner} {pulled : List NativeEvent}

theorem intact_push (intact : Intact inner pulled) (event : NativeEvent) :
    Intact (inner.pushEvent event) pulled := by
  have pushed : pushedEvents (inner.pushEvent event).history =
      pushedEvents inner.history ++ [event] := by
    rw [pushEvent, pushedEvents_append]
    rfl
  by_cases full : inner.events.length = eventCapacity
  · have events : (inner.pushEvent event).events = inner.events.drop 1 ++
        [{ kind := .eventOverflow, status := resultBufferTooSmall, dropped := 1 }] := if_pos full
    constructor
    · intro other member real
      rw [pushed]
      apply List.mem_append_left
      rw [events, ← List.append_assoc] at member
      rcases List.mem_append.mp member with old | marker
      · have remains := (List.drop_sublist 1 inner.events).append_left pulled
        exact intact.listed other (remains.subset old) real
      · rw [List.mem_singleton.mp marker] at real
        exact absurd rfl real
    · intro clean
      rw [events] at clean
      refine absurd rfl (clean _ (List.mem_append_right _ (List.mem_append_right _
        (List.mem_singleton_self _))))
  · have events : (inner.pushEvent event).events = inner.events ++ [event] := if_neg full
    constructor
    · intro other member real
      rw [pushed]
      rw [events, ← List.append_assoc] at member
      rcases List.mem_append.mp member with old | new
      · exact List.mem_append_left _ (intact.listed other old real)
      · exact List.mem_append_right _ new
    · intro clean
      rw [events, ← List.append_assoc] at clean ⊢
      rw [pushed, intact.whole fun other member => clean other (List.mem_append_left _ member)]

theorem intact_same (intact : Intact inner pulled) (events : inner'.events = inner.events)
    (history : pushedEvents inner'.history = pushedEvents inner.history) :
    Intact inner' pulled := by
  constructor
  · rw [events, history]
    exact intact.listed
  · rw [events, history]
    exact intact.whole

theorem pushedEvents_concat (history : List Entry) {entry : Entry} (silent : entry.event = none) :
    pushedEvents (history ++ [entry]) = pushedEvents history := by
  rw [pushedEvents_append, pushedEvents, pushedEvents, List.filterMap_cons_none silent,
    List.filterMap_nil, List.append_nil]

theorem intact_move (move : Move crypto grant inner inner') (intact : Intact inner pulled) :
    Intact inner' pulled := by
  cases move with
  | event event real => exact intact_push intact event
  | start operation transaction time authenticated nonceRetries packet absent permitted
      credentialed proves tries built =>
      exact intact_same intact rfl (pushedEvents_concat _ rfl)
  | again pending member channel => exact intact_same intact rfl (pushedEvents_concat _ rfl)
  | keepAlive packet live running => exact intact_same intact rfl (pushedEvents_concat _ rfl)
  | timeOut index pending now found due last =>
      exact intact_same intact rfl (pushedEvents_concat _ rfl)
  | retransmit index pending now found due left =>
      exact intact_same intact rfl (pushedEvents_concat _ rfl)
  | _ => exact intact_same intact rfl rfl

theorem intact_moves (moves : Moves crypto grant inner inner') (intact : Intact inner pulled) :
    Intact inner' pulled := by
  induction moves with
  | refl => exact intact
  | tail _ move inductionHypothesis => exact intact_move move inductionHypothesis

theorem intact_step (sound : Sound inner) (intact : Intact inner pulled) {call : Call}
    (other : call.action ≠ .pullEvent) : Intact (inner.step crypto call).1 pulled :=
  intact_moves (moves_step sound call other) intact

/-- Pulling an event. -/
theorem intact_pull (intact : Intact inner pulled) :
    Intact inner.pullEvent.1 (pulled ++ inner.pullEvent.2.toList) := by
  have together : pulled ++ inner.pullEvent.2.toList ++ inner.pullEvent.1.events =
      pulled ++ inner.events := by
    rw [List.append_assoc, pullEvent]
    cases inner.events with
    | nil => rfl
    | cons event events => rfl
  constructor
  · rw [together]
    exact intact.listed
  · rw [together]
    exact intact.whole

theorem peer_moves (moves : Moves crypto grant inner inner') : inner'.peer = inner.peer := by
  induction moves with
  | refl => rfl
  | tail _ move inductionHypothesis =>
      rw [← inductionHypothesis]
      cases move <;> rfl

theorem peer_step (sound : Sound inner) (call : Call) :
    (inner.step crypto call).1.peer = inner.peer := by
  by_cases action : call.action = .pullEvent
  · rw [step_pullEvent action]
  · exact peer_moves (moves_step sound call action)

theorem channel_fresh (fresh : Fresh inner) : inner.channel = none := by
  obtain ⟨server, username, password, peer, transport, created⟩ := fresh
  unfold createWithTransport create at created
  simp only at created
  split at created
  · cases created
  · split at created
    · cases created
    · cases created
      rfl

theorem told_fresh (fresh : Fresh inner) : Told inner := by
  have blank := blank_of_fresh fresh
  have unbound := channel_fresh fresh
  have silent : pushedEvents inner.history = [] := congrArg pushedEvents blank.history
  have heard : inner.heard = .initial := congrArg TurnView.readAll silent
  constructor
  · rw [heard, blank.state]
    rfl
  · rw [heard, unbound]
    rfl
  · intro bound
    rw [unbound] at bound
    cases bound
  · rw [silent]
    exact fun event member => absurd member List.not_mem_nil

theorem intact_fresh (fresh : Fresh inner) : Intact inner [] := by
  have blank := blank_of_fresh fresh
  constructor
  · rw [blank.events]
    exact fun event member => absurd member List.not_mem_nil
  · rw [blank.events, blank.history]
    exact fun _ => rfl

end Queue

end Csqtt
