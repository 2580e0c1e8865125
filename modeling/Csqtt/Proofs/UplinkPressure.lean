/-
Module: Csqtt.Proofs.UplinkPressure
Purpose: When a packet that is to be kept under pressure is not refused.
Trusted boundary: none
Main exports: UplinkPressure.Careful, UplinkPressure.protected_of_careful, UplinkPressure.query_refused
-/
import Csqtt.Proofs.SpareProtocol
import Csqtt.Proofs.UplinkBalance
import Csqtt.Proofs.UplinkTotality

namespace Csqtt

/-!
### A call with a protected packet
-/

section Course

variable {Mark : Type*} {mark : Mark} {data : List U8}

/-- The points of a call whose packet is neither too long nor empty and goes to the latency
queue, up to where it is queued. -/
inductive Keeping (mark : Mark) (data : List U8) : InjectPoint Mark → Prop
  | slot : Keeping mark data (.slot (.packet mark data))
  | cancelled : Keeping mark data (.cancelled (.packet mark data))
  | pop : Keeping mark data (.pop .single mark data)
  | count : Keeping mark data (.count .single mark data)
  | reserve (previous : Nat) : Keeping mark data (.reserve .single mark data previous)
  | pushLatency (packet : PacketBuf) : Keeping mark data (.pushLatency .single mark packet)
  | evict (packet : PacketBuf) : Keeping mark data (.evict .single mark packet)
  | release (storage : Storage) (packet : PacketBuf) :
      Keeping mark data (.release storage (.pushAgain .single mark packet))
  | discount (packet : PacketBuf) : Keeping mark data (.discount (.pushAgain .single mark packet))
  | pushAgain (packet : PacketBuf) : Keeping mark data (.pushAgain .single mark packet)
  | latencyLength : Keeping mark data .latencyLength
  | queueLength (latency : Nat) : Keeping mark data (.queueLength latency)
  | notify : Keeping mark data .notify
  | queued : Keeping mark data (.returned 0)

/-- Where the count is read there is room for a buffer, and where a packet is pushed again
there is room for it. -/
def SharedBridge.Room (shared : SharedBridge Mark) : InjectPoint Mark → Prop
  | .count _ _ _ => shared.pool.allocated < shared.pool.allocationLimit
  | .reserve _ _ _ previous =>
      shared.pool.allocated ≠ previous → shared.pool.allocated < shared.pool.allocationLimit
  | .pushAgain _ _ _ => shared.bridge.latency.items.length < uplinkLatencyCapacity
  | _ => True

/-- Once a buffer is acquired, the packet is read into it and goes to the latency queue. -/
theorem Keeping.acquired (fits : data.length ≤ packetCapacity - packetHeadroom)
    (keep : keepUnderPressure data = true) (storage : Storage) :
    Keeping mark data (InjectWork.single.acquired mark data storage) := by
  obtain ⟨packet, read⟩ := readInto_isSome storage fits
  rw [InjectWork.acquired, if_neg (Nat.not_lt_of_le fits), read]
  dsimp only
  rw [(readInto_spec read).1, if_pos keep]
  exact .pushLatency packet

theorem SharedBridge.counted_of_room {shared : SharedBridge Mark}
    (room : shared.pool.allocated < shared.pool.allocationLimit) :
    Keeping mark data (shared.counted .single mark data) := by
  rw [counted, if_pos room]
  exact .reserve _

/-- With room where it is needed, only a bridge that is down keeps the packet from its queue. -/
theorem Keeping.perform {shared : SharedBridge Mark} {point : InjectPoint Mark}
    (keeping : Keeping mark data point) (fresh : Storage)
    (fits : data.length ≤ packetCapacity - packetHeadroom) (keep : keepUnderPressure data = true)
    (room : shared.Room point) :
    Keeping mark data (shared.perform fresh point).2 ∨
      (shared.perform fresh point).2 = .returned (-1) ∧
        (point = .slot (.packet mark data) ∧ shared.installed = false ∨
          point = .cancelled (.packet mark data) ∧ shared.bridge.cancelled = true) := by
  cases keeping with
  | slot =>
      dsimp only [SharedBridge.perform]
      split
      · exact Or.inl .cancelled
      · next down => exact Or.inr ⟨rfl, Or.inl ⟨rfl, Bool.eq_false_iff.mpr down⟩⟩
  | cancelled =>
      dsimp only [SharedBridge.perform]
      split
      · next down => exact Or.inr ⟨rfl, Or.inr ⟨rfl, down⟩⟩
      · exact Or.inl .pop
  | pop =>
      rw [SharedBridge.perform]
      split
      · exact Or.inl (.acquired fits keep _)
      · exact Or.inl .count
  | count => exact Or.inl (SharedBridge.counted_of_room room)
  | reserve previous =>
      rw [SharedBridge.perform, PacketPool.reserve]
      by_cases same : shared.pool.allocated = previous
      · rw [if_pos same]
        exact Or.inl (.acquired fits keep _)
      · rw [if_neg same]
        exact Or.inl (SharedBridge.counted_of_room (room same))
  | pushLatency packet =>
      rw [SharedBridge.perform]
      split
      · exact Or.inl .latencyLength
      · exact Or.inl (.evict packet)
  | evict packet =>
      rw [SharedBridge.perform]
      split
      · exact Or.inl (.release _ packet)
      · exact Or.inl (.pushAgain packet)
  | release storage packet =>
      rw [SharedBridge.perform]
      split
      · exact Or.inl (.pushAgain packet)
      · exact Or.inl (.discount packet)
  | discount packet => exact Or.inl (.pushAgain packet)
  | pushAgain packet =>
      rw [SharedBridge.perform]
      split
      · exact Or.inl .latencyLength
      · next full => exact absurd room (ArrayQueue.full_of_push full)
  | latencyLength => exact Or.inl (.queueLength _)
  | queueLength latency =>
      dsimp only [SharedBridge.perform]
      split
      · exact Or.inl .notify
      · exact Or.inl .queued
  | notify => exact Or.inl .queued
  | queued => exact Or.inl .queued

end Course

namespace UplinkPressure

/-- The call has one packet, which is to be kept. -/
def keeps (call : UplinkCall) : Bool :=
  match call.call with
  | .packet _ data => keepUnderPressure data
  | .packets _ => false

/-- Where the pool's count is about to be read, there are fewer buffers than the limit for so
many workers; where a packet is about to be pushed again, the latency queue is not full. -/
def HasRoom (now : UplinkPressure) : InjectPoint Unit → Prop
  | .count _ _ _ => now.buffers < packetPoolSize now.workers.length
  | .reserve _ _ _ previous =>
      now.buffers ≠ previous → now.buffers < packetPoolSize now.workers.length
  | .pushAgain _ _ _ => now.shared.bridge.latency.items.length < uplinkLatencyCapacity
  | _ => True

instance (now : UplinkPressure) : DecidablePred now.HasRoom
  | .count _ _ _ => inferInstanceAs (Decidable (_ < _))
  | .reserve _ _ _ _ => inferInstanceAs (Decidable (_ ≠ _ → _ < _))
  | .pushAgain _ _ _ => inferInstanceAs (Decidable (_ < _))
  | .returned _ | .slot _ | .cancelled _ | .pop _ _ _ | .pushLatency _ _ _ | .evict _ _ _
  | .pushQueue _ _ _ | .release _ _ | .discount _ | .latencyLength | .queueLength _ | .notify =>
      isTrue trivial

/-- An operation of a call with a packet that is to be kept has the room that it needs. -/
def Careful (now : UplinkPressure) : PressureEvent → Prop
  | .run index _ => ∀ call ∈ now.calls[index]?, keeps call = true → now.HasRoom call.point
  | _ => True

instance (now : UplinkPressure) : DecidablePred now.Careful
  | .run index _ =>
      inferInstanceAs (Decidable (∀ call ∈ now.calls[index]?,
        keeps call = true → now.HasRoom call.point))
  | .inject _ | .read | .stop | .cancel | .install _ | .offer _ _ _ | .spare _ _ | .abandon _
  | .write _ | .steal _ | .pool _ => isTrue trivial

/-- Where a call with one packet that is to be kept can be. -/
def OnCourse (call : UplinkCall) : Prop :=
  ∀ mark data, call.call = .packet mark data → keepUnderPressure data = true →
    (data = [] ∨ packetCapacity - packetHeadroom < data.length) ∧ call.point = .returned (-3) ∨
      data.length ≤ packetCapacity - packetHeadroom ∧
        (Keeping mark data call.point ∨ call.point = .returned (-1) ∧ call.foundDown = true)

variable {now : UplinkPressure}

theorem onCourse_begin (call : InjectCall Unit) :
    OnCourse { call := call, point := call.point, foundDown := false } := by
  rintro mark data rfl keep
  by_cases bad : data.isEmpty = true ∨ packetCapacity - packetHeadroom < data.length
  · refine Or.inl ⟨?_, if_pos bad⟩
    rw [List.isEmpty_iff] at bad
    exact bad
  · refine Or.inr ⟨Nat.le_of_not_lt fun long => bad (Or.inr long), Or.inl ?_⟩
    rw [InjectCall.point, if_neg bad]
    exact .slot

/-- Room by the pool's count is room by the buffers that there are. -/
theorem Conserved.room (conserved : now.Conserved) {point : InjectPoint Unit}
    (room : now.HasRoom point) : now.shared.Room point := by
  have level := conserved.level
  have limit := conserved.limit
  cases point with
  | count work mark data =>
      rw [SharedBridge.Room, level, limit]
      exact room
  | reserve work mark data previous =>
      rw [SharedBridge.Room, level, limit]
      exact room
  | pushAgain work mark packet => exact room
  | _ => trivial

theorem onCourse_run (conserved : now.Conserved) {index : Nat} {fresh : Storage}
    {call : UplinkCall} (here : now.calls[index]? = some call)
    (careful : now.Careful (.run index fresh)) (course : OnCourse call) :
    OnCourse
      { call with
        point := (now.shared.perform fresh call.point).2
        foundDown := call.foundDown || now.isDown call.point } := by
  intro mark data single keep
  have room : now.shared.Room call.point := by
    refine conserved.room (careful call here ?_)
    rw [keeps, single]
    exact keep
  rcases course mark data single keep with ⟨bad, returned⟩ | ⟨fits, keeping | ⟨returned, down⟩⟩
  · refine Or.inl ⟨bad, ?_⟩
    simp only [returned, SharedBridge.perform]
  · refine Or.inr ⟨fits, ?_⟩
    rcases keeping.perform fresh fits keep room with next | ⟨returned, found⟩
    · exact Or.inl next
    · refine Or.inr ⟨returned, Bool.or_eq_true_iff.mpr (Or.inr ?_)⟩
      rcases found with ⟨point, absent⟩ | ⟨point, cancelled⟩
      · rw [point, isDown, absent]
        rfl
      · rw [point]
        exact cancelled
  · refine Or.inr ⟨fits, Or.inr ⟨?_, ?_⟩⟩
    · simp only [returned, SharedBridge.perform]
    · exact Bool.or_eq_true_iff.mpr (Or.inl down)

theorem framed_calls (self : UplinkPressure) : self.framed.calls = self.calls := by
  rw [framed]
  split
  · dsimp only
    split <;> rfl
  · rfl

theorem onCourse_step (conserved : now.Conserved) (course : ∀ call ∈ now.calls, OnCourse call)
    {event : PressureEvent} (careful : now.Careful event) :
    ∀ call ∈ (now.step event).1.calls, OnCourse call := by
  cases event with
  | inject call =>
      intro other mem
      rcases List.mem_append.mp mem with old | new
      · exact course other old
      · rw [List.mem_singleton.mp new]
        exact onCourse_begin call
  | run index fresh =>
      rw [UplinkPressure.step]
      split
      · exact course
      · next call here =>
          intro other mem
          rcases List.mem_or_eq_of_mem_set mem with old | rfl
          · exact course other old
          · exact onCourse_run conserved here careful (course call (List.mem_of_getElem? here))
  | read =>
      rw [UplinkPressure.step, framed_calls]
      exact course
  | stop =>
      rw [UplinkPressure.step]
      split
      · exact course
      · exact course
  | cancel => exact course
  | install installed => exact course
  | offer index worker force =>
      rw [UplinkPressure.step]
      split
      · exact course
      · exact course
  | spare index other =>
      rw [UplinkPressure.step]
      split
      · split
        · split
          · exact course
          · exact course
        · exact course
      · exact course
  | abandon index =>
      rw [UplinkPressure.step]
      split
      · exact course
      · exact course
  | write worker =>
      rw [UplinkPressure.step]
      split
      · exact course
      · exact course
  | steal worker =>
      rw [UplinkPressure.step]
      split
      · exact course
      · exact course
  | pool event => exact course

/-- A call on its course is not refused for want of room. -/
theorem protected_of_onCourse (course : ∀ call ∈ now.calls, OnCourse call) : now.Protected := by
  intro call mem mark data single keep code returned
  rcases course call mem mark data single keep with ⟨bad, invalid⟩ | ⟨-, keeping | ⟨refused, down⟩⟩
  · rw [invalid] at returned
    cases returned
    exact Or.inr (Or.inr ⟨rfl, bad⟩)
  · rw [returned] at keeping
    cases keeping
    exact Or.inl rfl
  · rw [refused] at returned
    cases returned
    exact Or.inr (Or.inl ⟨rfl, down⟩)

/-- In a run of an engine that the process accepts, whose steps all have room where it is
needed, a packet that is to be kept is refused only by a bridge that is down, or for its length. -/
theorem protected_of_careful (requested hashCount : Nat) (allow : Bool)
    (events : List PressureEvent)
    (careful : Transducer.AtEveryStep step
      (start (normalizeWorkerCountForHashes requested hashCount allow)) events Careful) :
    Transducer.Throughout step (start (normalizeWorkerCountForHashes requested hashCount allow))
      events Protected := by
  intro consumed within
  generalize normalizeWorkerCountForHashes requested hashCount allow = workers at careful ⊢
  apply protected_of_onCourse
  have both := @Transducer.invariant_of_atEveryStep _ _ _ step
    (fun now => now.Conserved ∧ ∀ call ∈ now.calls, OnCourse call) Careful
    (fun now event holds room =>
      ⟨holds.1.step event, onCourse_step holds.1 holds.2 room⟩)
    (start workers) consumed ⟨conserved_reached workers [], fun call mem => absurd mem List.not_mem_nil⟩
    (careful.of_prefix within)
  exact both.2

/-!
### A full upload
-/

/-- A full packet of a TCP flow. -/
structure Bulk (data : List U8) : Prop where
  some : data.isEmpty = false
  fits : data.length ≤ packetCapacity - packetHeadroom
  ofClass : packetClass data = .bulk
  unkept : keepUnderPressure data = false
  flow : (tcpFlowId data).isSome = true

/-- A call with a packet goes all its way. -/
def upload (data : List U8) (index : Nat) : List PressureEvent :=
  .inject (.packet () data) :: List.replicate 9 (.run index .zero)

/-- The reader takes a packet and the dispatcher gives it to a worker. -/
def deliver (worker : Nat) : List PressureEvent :=
  [.read, .read, .read, .offer 0 worker false]

/-- A worker gets a full batch and then a full queue. -/
def load (data : List U8) (worker : Nat) : List PressureEvent :=
  [.write worker, .write worker] ++
    (List.range 128).flatMap (fun k =>
      upload data (256 * worker + k) ++ deliver worker ++ [.write worker]) ++
    (List.range 128).flatMap fun k => upload data (256 * worker + 128 + k) ++ deliver worker

/-- All workers are loaded, and packets are left on the bridge for as long as there are
buffers; then one more is injected. -/
def fullUpload (workers : Nat) (data lookup : List U8) : List PressureEvent :=
  (List.range workers).flatMap (load data) ++
    (List.range packetPoolShared).flatMap (fun k => upload data (256 * workers + k)) ++
    .inject (.packet () lookup) :: List.replicate 4 (.run (packetPoolSize workers) .zero)

/-- So many packets have been injected, and all of them are still held. -/
structure Uploading (workers count : Nat) (now : UplinkPressure) : Prop where
  installed : now.shared.installed = true
  alive : now.shared.bridge.cancelled = false
  free : now.shared.pool.queue.items = []
  allocated : now.shared.pool.allocated = count
  limit : now.shared.pool.allocationLimit = packetPoolSize workers
  latency : now.shared.bridge.latency.items = []
  calls : now.calls.length = count
  reader : now.reader = .popLatency
  carried : now.carried = []

/-- The packet that data is read into. -/
def Carries (packet : PacketBuf) (data : List U8) : Prop :=
  packet.asSlice = data ∧ packet.start = packetHeadroom

/-- A call with a packet of the bulk traffic finds no free buffer, adds one and leaves the packet
on the bridge. -/
theorem Bulk.turns {data : List U8} (bulk : Bulk data) {shared : SharedBridge Unit}
    (installed : shared.installed = true)
    (alive : shared.bridge.cancelled = false) (free : shared.pool.queue.items = [])
    (room : shared.pool.allocated < shared.pool.allocationLimit)
    (short : shared.bridge.queue.items.length < uplinkCapacity) :
    ∃ packet queue notify, (SharedBridge.turn .zero)^[9]
        (shared, (InjectCall.packet () data).point) =
        ({ bridge := { shared.bridge with queue := queue }, installed := true, notify := notify,
           pool := { shared.pool with allocated := shared.pool.allocated + 1 } }, .returned 0) ∧
      queue.items = shared.bridge.queue.items ++ [((), packet)] ∧ Carries packet data := by
  obtain ⟨packet, read⟩ := readInto_isSome .zero bulk.fits
  obtain ⟨bytes, start⟩ := readInto_spec read
  have long : ¬ packetCapacity - packetHeadroom < data.length := Nat.not_lt_of_le bulk.fits
  have empty : shared.pool.pop = none := by
    rw [PacketPool.pop, ArrayQueue.pop_eq_none.mpr free]
    rfl
  have acquired : InjectWork.single.acquired () data .zero = .pushQueue .single () packet := by
    rw [InjectWork.acquired, if_neg long, read]
    dsimp only
    rw [bytes, bulk.unkept]
    rfl
  obtain ⟨queue, pushed⟩ : ∃ queue, shared.bridge.queue.push ((), packet) = Option.some queue := by
    rw [ArrayQueue.push, dif_pos short]
    exact ⟨_, rfl⟩
  let reserved := { shared.pool with allocated := shared.pool.allocated + 1 }
  let after := { shared with bridge := { shared.bridge with queue := queue }, pool := reserved }
  have begins : (InjectCall.packet () data).point = .slot (.packet () data) :=
    if_neg (by rw [bulk.some]; simp [long])
  have enters : SharedBridge.turn .zero (shared, .slot (.packet () data)) =
      (shared, .cancelled (.packet () data)) := by
    simp [SharedBridge.turn, SharedBridge.perform, installed]
  have asks : SharedBridge.turn .zero (shared, .cancelled (.packet () data)) =
      (shared, .pop .single () data) := by
    simp [SharedBridge.turn, SharedBridge.perform, alive, InjectCall.first]
  have finds : SharedBridge.turn .zero (shared, .pop .single () data) =
      (shared, .count .single () data) := by
    simp [SharedBridge.turn, SharedBridge.perform, empty]
  have counts : SharedBridge.turn .zero (shared, .count .single () data) =
      (shared, .reserve .single () data shared.pool.allocated) := by
    simp [SharedBridge.turn, SharedBridge.perform, SharedBridge.counted, room]
  have reserves :
      SharedBridge.turn .zero (shared, .reserve .single () data shared.pool.allocated) =
        ({ shared with pool := reserved }, .pushQueue .single () packet) := by
    simp [SharedBridge.turn, SharedBridge.perform, PacketPool.reserve, acquired, reserved]
  have pushes :
      SharedBridge.turn .zero ({ shared with pool := reserved }, .pushQueue .single () packet) =
        (after, .latencyLength) := by
    simp [SharedBridge.turn, SharedBridge.perform, pushed, SharedBridge.pushedQueue,
      InjectWork.queued, after]
  have measures : SharedBridge.turn .zero (after, .latencyLength) =
      (after, .queueLength after.bridge.latency.items.length) := rfl
  obtain ⟨notify, ends⟩ : ∃ notify, SharedBridge.turn .zero (SharedBridge.turn .zero
      (after, .queueLength after.bridge.latency.items.length)) =
        ({ after with notify := notify }, .returned 0) := by
    by_cases first : after.bridge.latency.items.length + after.bridge.queue.items.length = 1
    · refine ⟨after.notify.notifyOne, ?_⟩
      simp [SharedBridge.turn, SharedBridge.perform, first]
    · refine ⟨after.notify, ?_⟩
      simp [SharedBridge.turn, SharedBridge.perform, first]
  refine ⟨packet, queue, notify, ?_, ArrayQueue.push_spec pushed, bytes, start⟩
  rw [begins]
  simp only [Function.iterate_succ_apply, enters, asks, finds, counts, reserves, pushes, measures,
    ends, Function.iterate_zero_apply]
  rw [← installed]

/-- A call goes on alone, turn by turn. -/
theorem run_turns (now : UplinkPressure) (calls : List UplinkCall) (call : UplinkCall)
    (fresh : Storage) (turns : Nat) :
    ∃ foundDown, (Transducer.run step { now with calls := calls ++ [call] }
        (List.replicate turns (.run calls.length fresh))).1 =
      { now with
        shared := ((SharedBridge.turn fresh)^[turns] (now.shared, call.point)).1
        calls := calls ++ [{ call with
          point := ((SharedBridge.turn fresh)^[turns] (now.shared, call.point)).2
          foundDown := foundDown }] } := by
  induction turns generalizing now call with
  | zero => exact ⟨call.foundDown, rfl⟩
  | succ turns inductionHypothesis =>
      have stepped : (step { now with calls := calls ++ [call] } (.run calls.length fresh)).1 =
          { now with
            shared := (now.shared.perform fresh call.point).1
            calls := calls ++ [{ call with
              point := (now.shared.perform fresh call.point).2
              foundDown := call.foundDown ||
                isDown { now with calls := calls ++ [call] } call.point }] } := by
        simp [step]
      rw [List.replicate_succ, Transducer.run_cons, stepped, Function.iterate_succ_apply]
      exact inductionHypothesis { now with shared := (now.shared.perform fresh call.point).1 } _

variable {workers count worker : Nat} {target : UplinkWorker} {data : List U8}

theorem Uploading.uploaded (uploading : Uploading workers count now) (bulk : Bulk data)
    (room : count < packetPoolSize workers)
    (short : now.shared.bridge.queue.items.length < uplinkCapacity) :
    ∃ packet, Uploading workers (count + 1) (Transducer.run step now (upload data count)).1 ∧
      (Transducer.run step now (upload data count)).1.shared.bridge.queue.items =
        now.shared.bridge.queue.items ++ [((), packet)] ∧ Carries packet data ∧
      (Transducer.run step now (upload data count)).1.workers = now.workers := by
  have below : now.shared.pool.allocated < now.shared.pool.allocationLimit := by
    rw [uploading.allocated, uploading.limit]
    exact room
  obtain ⟨packet, queue, notify, turns, items, carries⟩ :=
    bulk.turns uploading.installed uploading.alive uploading.free below short
  obtain ⟨foundDown, whole⟩ := run_turns now now.calls
    { call := .packet () data, point := (InjectCall.packet () data).point,
      foundDown := false } .zero 9
  rw [turns, uploading.calls] at whole
  have begun : (step now (.inject (.packet () data))).1 =
      { now with
        calls := now.calls ++ [{ call := .packet () data, point := (InjectCall.packet () data).point,
                                 foundDown := false }] } := rfl
  rw [← begun] at whole
  rw [upload, Transducer.run_cons]
  refine ⟨packet, ?_, ?_, carries, ?_⟩
  · rw [whole]
    exact {
      installed := rfl
      alive := uploading.alive
      free := uploading.free
      allocated := congrArg (· + 1) uploading.allocated
      limit := uploading.limit
      latency := uploading.latency
      calls := by rw [List.length_append, uploading.calls, List.length_singleton]
      reader := uploading.reader
      carried := uploading.carried }
  · rw [whole]
    exact items
  · rw [whole]

/-- Framed, the packet still counts as one of the bulk traffic. -/
theorem Bulk.framed (bulk : Bulk data) {packet : PacketBuf} (carries : Carries packet data)
    (sequences : FlowSequencer) :
    ∃ next framed, frameOutboundPacket sequences packet = (next, framed, true) ∧
      packetClass framed.asSlice = .bulk := by
  obtain ⟨rfl, start⟩ := carries
  obtain ⟨flowId, flow⟩ := Option.isSome_iff_exists.mp bulk.flow
  have headroom : frameLen ≤ packet.start := by
    rw [start]
    decide
  obtain ⟨framed, framing, shape, -, -⟩ :=
    @frameOutboundPacket_of_some sequences packet flowId flow headroom
  refine ⟨_, framed, framing, ?_⟩
  have same := bulk.ofClass
  rw [packetClass, payload_of_tcpFlowId flow] at same
  rw [shape, packetClass, payload_framed]
  exact same

/-- The worker with one more packet in its queue of bulk traffic. -/
def withBulk (target : UplinkWorker) (packet : Unit × PacketBuf) : UplinkWorker :=
  target.setQueue .bulk
    { target.queue .bulk with items := (target.queue .bulk).items ++ [packet] }

theorem withBulk_bulk (target : UplinkWorker) (packet : Unit × PacketBuf) :
    (withBulk target packet).queue .bulk =
      { target.queue .bulk with items := (target.queue .bulk).items ++ [packet] } := by
  simp [withBulk, UplinkWorker.setQueue]

/-- The reader and the dispatcher move the only packet on the bridge into a worker's queue. -/
theorem Uploading.delivered (uploading : Uploading workers count now) (bulk : Bulk data)
    {packet : PacketBuf} (waiting : now.shared.bridge.queue.items = [((), packet)])
    (carries : Carries packet data) (there : now.workers[worker]? = some target)
    (active : (target.queue .bulk).active = true)
    (room : (target.queue .bulk).items.length < (target.queue .bulk).capacity) :
    ∃ framed, Uploading workers count (Transducer.run step now (deliver worker)).1 ∧
      (Transducer.run step now (deliver worker)).1.shared.bridge.queue.items = [] ∧
      (Transducer.run step now (deliver worker)).1.workers =
        now.workers.set worker (withBulk target ((), framed)) := by
  obtain ⟨next, framed, framing, ofClass⟩ := bulk.framed carries now.sequences
  obtain ⟨queue, popped, rest⟩ := ArrayQueue.pop_of_cons waiting
  let looked : UplinkPressure := { now with reader := .popQueue }
  let taken : UplinkPressure :=
    { now with
      shared := now.shared.pushedQueue queue
      reader := .reading ((), packet)
      sequences := next
      carried := [((), framed)] }
  have first : (now.step .read).1 = looked := by
    simp [step, uploading.reader, SharedBridge.read, ArrayQueue.pop_eq_none.mpr uploading.latency,
      UplinkPressure.framed, looked]
  have second : (looked.step .read).1 = taken := by
    simp [step, SharedBridge.read, popped, UplinkPressure.framed, looked, taken, framing,
      uploading.carried]
  have third : (taken.step .read).1 = { taken with reader := .popLatency } := by
    simp [step, SharedBridge.read, UplinkPressure.framed, taken]
  have offered : target.offer ((), framed) false =
      (withBulk target ((), framed), none, []) := by
    simp [UplinkWorker.offer, ofClass, BoundedFifo.call, active, room, withBulk]
  let placed : UplinkPressure :=
    { taken with
      reader := .popLatency
      carried := []
      workers := now.workers.set worker (withBulk target ((), framed)) }
  have fourth : (step { taken with reader := .popLatency } (.offer 0 worker false)).1 =
      placed := by
    simp [step, taken, there, offered, dropped, placed]
  have after : (Transducer.run step now (deliver worker)).1 = placed := by
    rw [deliver, Transducer.run_cons, first, Transducer.run_cons, second, Transducer.run_cons,
      third, Transducer.run_cons, fourth, Transducer.run_nil]
  refine ⟨framed, ?_, ?_, ?_⟩
  · rw [after]
    exact {
      installed := uploading.installed
      alive := uploading.alive
      free := uploading.free
      allocated := uploading.allocated
      limit := uploading.limit
      latency := uploading.latency
      calls := uploading.calls
      reader := rfl
      carried := rfl }
  · rw [after]
    exact rest
  · rw [after]

/-- A worker gets packets, one by one, while those after it are new. -/
structure Loading (workers worker count : Nat) (target : UplinkWorker) (now : UplinkPressure) :
    Prop where
  uploading : Uploading workers count now
  empty : now.shared.bridge.queue.items = []
  there : now.workers[worker]? = some target
  fresh : ∀ later, worker < later → later < workers → now.workers[later]? = some .new

theorem fresh_set {now : UplinkPressure} (fresh : ∀ later, worker < later → later < workers →
      now.workers[later]? = some .new) (target : UplinkWorker) :
    ∀ later, worker < later → later < workers →
      (now.workers.set worker target)[later]? = some .new := by
  intro later after before
  rw [List.getElem?_set_ne (Nat.ne_of_lt after)]
  exact fresh later after before

theorem Loading.delivered (loading : Loading workers worker count target now) (bulk : Bulk data)
    (room : count < packetPoolSize workers) (active : (target.queue .bulk).active = true)
    (short : (target.queue .bulk).items.length < (target.queue .bulk).capacity) :
    ∃ packet, Loading workers worker (count + 1) (withBulk target packet)
      (Transducer.run step now (upload data count ++ deliver worker)).1 := by
  obtain ⟨uploading, empty, there, fresh⟩ := loading
  have roomy : now.shared.bridge.queue.items.length < uplinkCapacity := by
    rw [empty]
    decide
  obtain ⟨packet, uploaded, waiting, carries, same⟩ := uploading.uploaded bulk room roomy
  simp only [Transducer.run_append]
  generalize (Transducer.run step now (upload data count)).1 = between at uploaded waiting same ⊢
  rw [empty, List.nil_append] at waiting
  rw [← same] at there fresh
  obtain ⟨framed, after, none, placed⟩ := uploaded.delivered bulk waiting carries there active short
  refine ⟨((), framed), ?_⟩
  refine ⟨after, none, ?_, ?_⟩
  · rw [placed, List.getElem?_set_self (List.getElem?_eq_some_iff.mp there).1]
  · rw [placed]
    exact fresh_set fresh _

theorem Loading.write (loading : Loading workers worker count target now)
    (silent : target.write.2 = []) :
    Loading workers worker count target.write.1 (now.step (.write worker)).1 := by
  obtain ⟨uploading, empty, there, fresh⟩ := loading
  have after : (now.step (.write worker)).1 =
      { now with workers := now.workers.set worker target.write.1 } := by
    simp [step, there, silent, dropped]
  rw [after]
  refine ⟨?_, empty, ?_, fresh_set fresh _⟩
  · exact {
      installed := uploading.installed
      alive := uploading.alive
      free := uploading.free
      allocated := uploading.allocated
      limit := uploading.limit
      latency := uploading.latency
      calls := uploading.calls
      reader := uploading.reader
      carried := uploading.carried }
  · exact List.getElem?_set_self (List.getElem?_eq_some_iff.mp there).1

/-- So many packets are in the batch, and the writer waits for another. -/
structure Batching (batched : Nat) (target : UplinkWorker) : Prop where
  bulk : target.queue .bulk = { capacity := workerCapacity .bulk, active := true, items := [] }
  small : (target.queue .small).items = []
  medium : (target.queue .medium).items = []
  batch : target.batch.length = batched
  point : target.point = .next .bulk ∨ target.point = .extending .bulk

theorem Batching.write {batched : Nat} (batching : Batching batched target)
    (room : batched < writerBatchLimit .bulk) (packet : Unit × PacketBuf) :
    (withBulk target packet).write.2 = [] ∧ Batching (batched + 1) (withBulk target packet).write.1 := by
  obtain ⟨bulk, small, medium, batch, point⟩ := batching
  have taken : (withBulk target packet).write =
      ({ target with
          queue := Function.update target.queue .bulk
            { capacity := workerCapacity .bulk, active := true, items := [] }
          batch := target.batch ++ [packet]
          point := .extending .bulk }, []) := by
    rcases point with next | extending
    · simp [UplinkWorker.write, withBulk, UplinkWorker.setQueue, next, bulk, BoundedFifo.call]
    · have extends' : target.batch.length < writerBatchLimit .bulk := batch ▸ room
      simp [UplinkWorker.write, withBulk, UplinkWorker.setQueue, extending, bulk, BoundedFifo.call,
        UplinkWorker.canExtend, small, medium, extends']
  rw [taken]
  refine ⟨rfl, ?_, small, medium, ?_, Or.inr rfl⟩
  · simp
  · rw [List.length_append, batch, List.length_singleton]

/-- So many packets are in the worker's queue. -/
structure Queueing (waiting : Nat) (target : UplinkWorker) : Prop where
  capacity : (target.queue .bulk).capacity = workerCapacity .bulk
  active : (target.queue .bulk).active = true
  items : (target.queue .bulk).items.length = waiting

theorem Queueing.queued {waiting : Nat} (queueing : Queueing waiting target)
    (packet : Unit × PacketBuf) : Queueing (waiting + 1) (withBulk target packet) := by
  obtain ⟨capacity, active, items⟩ := queueing
  refine ⟨?_, ?_, ?_⟩
  · simpa [withBulk_bulk] using capacity
  · simpa [withBulk_bulk] using active
  · simpa [withBulk_bulk] using items

/-- A packet for the worker's batch. -/
theorem Loading.batch {batched : Nat} (loading : Loading workers worker count target now)
    (batching : Batching batched target) (bulk : Bulk data) (room : count < packetPoolSize workers)
    (short : batched < writerBatchLimit .bulk) :
    ∃ after, Loading workers worker (count + 1) after
        (Transducer.run step now (upload data count ++ deliver worker ++ [.write worker])).1 ∧
      Batching (batched + 1) after := by
  obtain ⟨packet, delivered⟩ := loading.delivered bulk room (by rw [batching.bulk])
    (by rw [batching.bulk]; decide)
  obtain ⟨silent, taken⟩ := batching.write short packet
  refine ⟨_, ?_, taken⟩
  simp only [Transducer.run_concat]
  exact delivered.write silent

/-- A packet for the worker's queue. -/
theorem Loading.queue {waiting : Nat} (loading : Loading workers worker count target now)
    (queueing : Queueing waiting target) (bulk : Bulk data) (room : count < packetPoolSize workers)
    (short : waiting < workerCapacity .bulk) :
    ∃ after, Loading workers worker (count + 1) after
        (Transducer.run step now (upload data count ++ deliver worker)).1 ∧
      Queueing (waiting + 1) after := by
  obtain ⟨packet, delivered⟩ := loading.delivered bulk room queueing.active
    (by rw [queueing.items, queueing.capacity]; exact short)
  exact ⟨_, delivered, queueing.queued packet⟩

theorem packetPoolSize_eq (workers : Nat) : packetPoolSize workers = 256 * workers + 512 := by
  rw [packetPoolSize, Nat.mul_comm, packetPoolPerWorker, packetPoolShared]

/-- So many workers have a full batch and a full queue, and the others are new. -/
structure Loaded (workers loaded : Nat) (now : UplinkPressure) : Prop where
  uploading : Uploading workers (256 * loaded) now
  empty : now.shared.bridge.queue.items = []
  fresh : ∀ later, loaded ≤ later → later < workers → now.workers[later]? = some .new

theorem Loaded.load (loaded : Loaded workers worker now) (bulk : Bulk data)
    (before : worker < workers) :
    Loaded workers (worker + 1) (Transducer.run step now (load data worker)).1 := by
  have size := packetPoolSize_eq workers
  have begun : Loading workers worker (256 * worker) .new now :=
    ⟨loaded.uploading, loaded.empty, loaded.fresh worker (Nat.le_refl _) before,
      fun later after => loaded.fresh later (Nat.le_of_lt after)⟩
  have looked : Loading workers worker (256 * worker) UplinkWorker.new.write.1.write.1
      (Transducer.run step now [.write worker, .write worker]).1 := (begun.write rfl).write rfl
  have new : Batching 0 UplinkWorker.new.write.1.write.1 := ⟨rfl, rfl, rfl, rfl, Or.inl rfl⟩
  obtain ⟨full, batch, batching⟩ := @Transducer.run_rounds _ _ _ step
    (fun k now => ∃ target, Loading workers worker (256 * worker + k) target now ∧
      Batching k target)
    (fun k => upload data (256 * worker + k) ++ deliver worker ++ [.write worker]) 128 _
    ⟨_, looked, new⟩ (by
      rintro k short now ⟨target, loading, batching⟩
      rw [← Nat.add_assoc]
      exact loading.batch batching bulk (by omega) short)
  have none : Queueing 0 full := by
    refine ⟨?_, ?_, ?_⟩
    · rw [batching.bulk]
    · rw [batching.bulk]
    · rw [batching.bulk, List.length_nil]
  obtain ⟨last, queue, -⟩ := @Transducer.run_rounds _ _ _ step
    (fun k now => ∃ target, Loading workers worker (256 * worker + 128 + k) target now ∧
      Queueing k target)
    (fun k => upload data (256 * worker + 128 + k) ++ deliver worker) 128 _
    ⟨full, batch, none⟩ (by
      rintro k short now ⟨target, loading, queueing⟩
      rw [← Nat.add_assoc]
      exact loading.queue queueing bulk (by omega) short)
  rw [UplinkPressure.load, Transducer.run_append_fst, Transducer.run_append_fst]
  have all : 256 * worker + 128 + 128 = 256 * (worker + 1) := by omega
  rw [all] at queue
  exact ⟨queue.uploading, queue.empty, queue.fresh⟩

theorem loaded_start (workers : Nat) : Loaded workers 0 (start workers) := by
  refine ⟨?_, rfl, ?_⟩
  · exact {
      installed := rfl
      alive := rfl
      free := rfl
      allocated := rfl
      limit := (conserved_reached workers []).limit.trans (by
        rw [Transducer.run_nil, start, List.length_replicate])
      latency := rfl
      calls := rfl
      reader := rfl
      carried := rfl }
  · intro later _ before
    exact List.getElem?_replicate_of_lt before

/-- With all workers loaded, a call finds all buffers taken while there is room on the bridge. -/
theorem Uploading.refused (uploading : Uploading workers (packetPoolSize workers) now)
    {lookup : List U8} (some : lookup.isEmpty = false)
    (fits : lookup.length ≤ packetCapacity - packetHeadroom) :
    ∃ call ∈ (Transducer.run step now (.inject (.packet () lookup) ::
        List.replicate 4 (.run (packetPoolSize workers) .zero))).1.calls,
      call.call = .packet () lookup ∧ call.point = .returned (-2) := by
  have long : ¬ packetCapacity - packetHeadroom < lookup.length := Nat.not_lt_of_le fits
  have begins : (InjectCall.packet () lookup).point = .slot (.packet () lookup) :=
    if_neg (by rw [some]; simp [long])
  have empty : now.shared.pool.pop = none := by
    rw [PacketPool.pop, ArrayQueue.pop_eq_none.mpr uploading.free]
    rfl
  have full : ¬ now.shared.pool.allocated < now.shared.pool.allocationLimit := by
    rw [uploading.allocated, uploading.limit]
    exact Nat.lt_irrefl _
  have turns : (SharedBridge.turn .zero)^[4] (now.shared, (InjectCall.packet () lookup).point) =
      (now.shared, .returned (-2)) := by
    rw [begins]
    simp [SharedBridge.turn, SharedBridge.perform, uploading.installed, uploading.alive,
      InjectCall.first, empty, SharedBridge.counted, full, InjectWork.failed]
  obtain ⟨foundDown, whole⟩ := run_turns now now.calls
    { call := .packet () lookup, point := (InjectCall.packet () lookup).point,
      foundDown := false } .zero 4
  rw [turns, uploading.calls] at whole
  have begun : (step now (.inject (.packet () lookup))).1 =
      { now with
        calls := now.calls ++
          [{ call := .packet () lookup, point := (InjectCall.packet () lookup).point,
             foundDown := false }] } := rfl
  rw [← begun] at whole
  rw [Transducer.run_cons, whole]
  exact ⟨_, List.mem_append_right _ List.mem_cons_self, rfl, rfl⟩

/-- Whatever the number of workers, a full upload leaves no buffer for a packet that is to be
kept, while the bridge is up. -/
theorem not_protected_of_fullUpload (workers : Nat) (bulk : Bulk data) {lookup : List U8}
    (some : lookup.isEmpty = false) (fits : lookup.length ≤ packetCapacity - packetHeadroom)
    (keep : keepUnderPressure lookup = true) :
    ¬ (Transducer.run step (start workers) (fullUpload workers data lookup)).1.Protected := by
  intro holds
  have size := packetPoolSize_eq workers
  have loaded := @Transducer.run_rounds _ _ _ step (Loaded workers) (load data) workers _
    (loaded_start workers) fun worker before now loaded => loaded.load bulk before
  obtain ⟨uploading, -⟩ := @Transducer.run_rounds _ _ _ step
    (fun k now => Uploading workers (256 * workers + k) now ∧
      now.shared.bridge.queue.items.length = k)
    (fun k => upload data (256 * workers + k)) packetPoolShared _
    ⟨loaded.uploading, congrArg List.length loaded.empty⟩ (by
      rintro k short now ⟨uploading, waiting⟩
      rw [packetPoolShared] at short
      obtain ⟨packet, uploaded, after, -⟩ := uploading.uploaded bulk (by omega)
        (by rw [waiting, uplinkCapacity]; omega)
      rw [← Nat.add_assoc]
      refine ⟨uploaded, ?_⟩
      rw [after, List.length_append, waiting, List.length_singleton])
  have all : 256 * workers + packetPoolShared = packetPoolSize workers := by
    rw [size, packetPoolShared]
  rw [all] at uploading
  obtain ⟨call, mem, single, returned⟩ := uploading.refused some fits
  rw [fullUpload, Transducer.run_append_fst, Transducer.run_append_fst] at holds
  rcases holds call mem () lookup single keep (-2) returned with queued | ⟨down, -⟩ | ⟨invalid, -⟩
  · cases queued
  · cases down
  · cases invalid

/-- A full segment of a TCP flow. -/
def segment : List U8 :=
  [0x45#8, 0#8, 0x05#8, 0xdc#8, 0#8, 0#8, 0#8, 0#8, 64#8, 6#8, 0#8, 0#8, 10#8, 0#8, 0#8, 2#8,
    1#8, 1#8, 1#8, 1#8, 200#8, 1#8, 1#8, 187#8, 0#8, 0#8, 0#8, 0#8, 0#8, 0#8, 0#8, 0#8,
    0x50#8, 0x18#8, 255#8, 255#8, 0#8, 0#8, 0#8, 0#8] ++ List.replicate 1460 0#8

/-- A query to a name server. -/
def lookup : List U8 :=
  [0x45#8, 0#8, 0#8, 28#8, 0#8, 0#8, 0#8, 0#8, 64#8, 17#8, 0#8, 0#8, 10#8, 0#8, 0#8, 2#8,
    1#8, 1#8, 1#8, 1#8, 200#8, 2#8, 0#8, 53#8, 0#8, 8#8, 0#8, 0#8]

theorem segment_bulk : Bulk segment where
  some := by decide +kernel
  fits := by decide +kernel
  ofClass := by decide +kernel
  unkept := by decide +kernel
  flow := by decide +kernel

theorem lookup_keep : keepUnderPressure lookup = true := by decide +kernel

/-- A name is looked up when nine workers have an upload to send. -/
theorem lookup_refused :
    ¬ Transducer.Throughout step (start (normalizeWorkerCountForHashes 9 1 false))
      (fullUpload 9 segment lookup) Protected := by
  intro holds
  have nine : normalizeWorkerCountForHashes 9 1 false = 9 := by decide
  rw [nine] at holds
  exact not_protected_of_fullUpload 9 segment_bulk (by decide) (by decide) lookup_keep
    (holds _ (List.prefix_refl _))

/-- The query on a bridge without other traffic. -/
theorem lookup_queued :
    Transducer.Throughout step (start (normalizeWorkerCountForHashes 9 1 false))
      (.inject (.packet () lookup) :: List.replicate 9 (.run 0 .zero)) Protected :=
  protected_of_careful 9 1 false _ (by decide +kernel)

end UplinkPressure

end Csqtt
