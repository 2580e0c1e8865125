/-
Module: Csqtt.Engine.BridgeRun
Purpose: The in-process bridge of the uplink: two bounded queues, chosen by the class of the
  injected packet, one call at a time and with any number of injecting threads and one reader,
  where each step is one atomic operation of one of them.
Trusted boundary: the order of atomic operations is one for all threads
Main exports: UplinkBridge, enqueueUplink, injectPacket, SharedBridge, InjectPoint, perform,
  ReaderPoint, read, BridgeEvent, BridgeRun, step
-/
import Csqtt.Core.ArrayQueue
import Csqtt.Core.Notify
import Csqtt.Engine.Packet
import Csqtt.Engine.PacketPool
import Csqtt.Engine.StripedScheduler

namespace Csqtt

def uplinkCapacity : Nat := 1024
def uplinkLatencyCapacity : Nat := 256

/-- The queues of the bridge. A queued packet carries a mark that the code neither
reads nor needs (its own runs have `Unit` marks): it tells the injections apart. -/
structure UplinkBridge (Mark : Type*) where
  queue : ArrayQueue (Mark × PacketBuf) uplinkCapacity
  latency : ArrayQueue (Mark × PacketBuf) uplinkLatencyCapacity
  cancelled : Bool

namespace UplinkBridge

variable {Mark : Type*}

def new : UplinkBridge Mark where
  queue := .empty
  latency := .empty
  cancelled := false

/-- A full latency queue gives up its oldest packet for the new one, a full bulk
queue rejects the new one. -/
def enqueueUplink (self : UplinkBridge Mark) (mark : Mark) (packet : PacketBuf) :
    UplinkBridge Mark × Bool :=
  if keepUnderPressure packet.asSlice then
    match self.latency.push (mark, packet) with
    | some latency => ({ self with latency := latency }, true)
    | none =>
        let rest :=
          match self.latency.pop with
          | some (_, rest) => rest
          | none => self.latency
        match rest.push (mark, packet) with
        | some latency => ({ self with latency := latency }, true)
        | none => ({ self with latency := rest }, false)
  else
    match self.queue.push (mark, packet) with
    | some queue => ({ self with queue := queue }, true)
    | none => (self, false)

end UplinkBridge

/-- A buffer into which data has been read. -/
def readInto (storage : Storage) (data : List U8) : Option PacketBuf :=
  ((PacketBuf.acquired storage.val storage.property).write packetHeadroom data).setReadLen
    data.length

/-- Inject one packet, with the storage the pool gives, if any. The result is 0 on
success, -1 if the bridge is down, -2 if a queue is full or the pool exhausted,
and -3 for a packet of invalid length. -/
def injectPacket {Mark : Type*} (slot : Option (UplinkBridge Mark)) (mark : Mark)
    (data : List U8) (storage : Option Storage) : Option (UplinkBridge Mark) × Int :=
  if data.isEmpty ∨ packetCapacity - packetHeadroom < data.length then (slot, -3)
  else
    match slot with
    | none => (none, -1)
    | some bridge =>
        if bridge.cancelled then (some bridge, -1)
        else
          match storage with
          | none => (some bridge, -2)
          | some storage =>
              match readInto storage data with
              | none => (some bridge, -3)
              | some packet =>
                  let queued := bridge.enqueueUplink mark packet
                  (some queued.1, if queued.2 then 0 else -2)

/-- The bridge, whether it is the installed one, the reader's wake-ups and the pool. -/
structure SharedBridge (Mark : Type*) where
  bridge : UplinkBridge Mark
  installed : Bool
  notify : Notify
  pool : PacketPool

/-- What a call is given. -/
inductive InjectCall (Mark : Type*) where
  | packet (mark : Mark) (data : List U8)
  | packets (list : List (Mark × List U8))

/-- What is left of a call after the packet at hand: nothing, or the rest of a burst, with
the numbers of packets queued and failed so far. -/
inductive InjectWork (Mark : Type*) where
  | single
  | burst (rest : List (Mark × List U8)) (queued failed : Nat)

/-- What follows on a packet's being dropped: it has failed, or was the evicted one, and
the new one is pushed again. -/
inductive InjectNext (Mark : Type*) where
  | failed (work : InjectWork Mark) (code : Int)
  | pushAgain (work : InjectWork Mark) (mark : Mark) (packet : PacketBuf)

/-- The points of an injecting call. -/
inductive InjectPoint (Mark : Type*) where
  | returned (code : Int)
  | slot (call : InjectCall Mark)
  | cancelled (call : InjectCall Mark)
  | pop (work : InjectWork Mark) (mark : Mark) (data : List U8)
  | count (work : InjectWork Mark) (mark : Mark) (data : List U8)
  | reserve (work : InjectWork Mark) (mark : Mark) (data : List U8) (previous : Nat)
  | pushLatency (work : InjectWork Mark) (mark : Mark) (packet : PacketBuf)
  | evict (work : InjectWork Mark) (mark : Mark) (packet : PacketBuf)
  | pushAgain (work : InjectWork Mark) (mark : Mark) (packet : PacketBuf)
  | pushQueue (work : InjectWork Mark) (mark : Mark) (packet : PacketBuf)
  | release (storage : Storage) (next : InjectNext Mark)
  | discount (next : InjectNext Mark)
  | latencyLength
  | queueLength (latency : Nat)
  | notify

variable {Mark : Type*}

/-- The next packet of a burst. Empty ones are passed over, and at the end the reader is
woken if any was queued. -/
def nextPacket : List (Mark × List U8) → Nat → Nat → InjectPoint Mark
  | [], queued, failed =>
      if 0 < queued then .notify else .returned (if 0 < failed then -2 else 0)
  | (mark, data) :: rest, queued, failed =>
      if data.isEmpty then nextPacket rest queued failed
      else .pop (.burst rest queued failed) mark data

namespace InjectWork

def failed (code : Int) : InjectWork Mark → InjectPoint Mark
  | .single => .returned code
  | .burst rest queued failed => nextPacket rest queued (failed + 1)

def queued : InjectWork Mark → InjectPoint Mark
  | .single => .latencyLength
  | .burst rest queued failed => nextPacket rest (queued + 1) failed

/-- A buffer was acquired for the packet. -/
def acquired (work : InjectWork Mark) (mark : Mark) (data : List U8) (storage : Storage) :
    InjectPoint Mark :=
  if packetCapacity - packetHeadroom < data.length then .release storage (.failed work (-3))
  else
    match readInto storage data with
    | none => .release storage (.failed work (-3))
    | some packet =>
        if keepUnderPressure packet.asSlice then .pushLatency work mark packet
        else .pushQueue work mark packet

end InjectWork

def InjectNext.point : InjectNext Mark → InjectPoint Mark
  | .failed work code => work.failed code
  | .pushAgain work mark packet => .pushAgain work mark packet

/-- Where a call begins: only a single packet's length is looked at before the bridge. -/
def InjectCall.point : InjectCall Mark → InjectPoint Mark
  | .packet mark data =>
      if data.isEmpty ∨ packetCapacity - packetHeadroom < data.length then .returned (-3)
      else .slot (.packet mark data)
  | .packets list => if list.isEmpty then .returned 0 else .slot (.packets list)

def InjectCall.first : InjectCall Mark → InjectPoint Mark
  | .packet mark data => .pop .single mark data
  | .packets list => nextPacket list 0 0

/-- The storage of a packet that is dropped. -/
def PacketBuf.dropped (packet : PacketBuf) : Storage := ⟨packet.storage, packet.sized⟩

namespace SharedBridge

/-- What the pool's count says to one who wants a buffer. -/
def counted (self : SharedBridge Mark) (work : InjectWork Mark) (mark : Mark)
    (data : List U8) : InjectPoint Mark :=
  if self.pool.allocated < self.pool.allocationLimit then
    .reserve work mark data self.pool.allocated
  else work.failed (-2)

def pushedLatency (self : SharedBridge Mark)
    (latency : ArrayQueue (Mark × PacketBuf) uplinkLatencyCapacity) : SharedBridge Mark :=
  { self with bridge := { self.bridge with latency := latency } }

def pushedQueue (self : SharedBridge Mark)
    (queue : ArrayQueue (Mark × PacketBuf) uplinkCapacity) : SharedBridge Mark :=
  { self with bridge := { self.bridge with queue := queue } }

/-- One atomic operation of an injecting call. -/
def perform (self : SharedBridge Mark) (fresh : Storage) :
    InjectPoint Mark → SharedBridge Mark × InjectPoint Mark
  | .returned code => (self, .returned code)
  | .slot call => (self, if self.installed then .cancelled call else .returned (-1))
  | .cancelled call => (self, if self.bridge.cancelled then .returned (-1) else call.first)
  | .pop work mark data =>
      match self.pool.pop with
      | some (storage, pool) => ({ self with pool := pool }, work.acquired mark data storage)
      | none => (self, .count work mark data)
  | .count work mark data => (self, self.counted work mark data)
  | .reserve work mark data previous =>
      match self.pool.reserve previous with
      | some pool => ({ self with pool := pool }, work.acquired mark data fresh)
      | none => (self, self.counted work mark data)
  | .pushLatency work mark packet =>
      match self.bridge.latency.push (mark, packet) with
      | some latency => (self.pushedLatency latency, work.queued)
      | none => (self, .evict work mark packet)
  | .evict work mark packet =>
      match self.bridge.latency.pop with
      | some (evicted, latency) =>
          (self.pushedLatency latency, .release evicted.2.dropped (.pushAgain work mark packet))
      | none => (self, .pushAgain work mark packet)
  | .pushAgain work mark packet =>
      match self.bridge.latency.push (mark, packet) with
      | some latency => (self.pushedLatency latency, work.queued)
      | none => (self, .release packet.dropped (.failed work (-2)))
  | .pushQueue work mark packet =>
      match self.bridge.queue.push (mark, packet) with
      | some queue => (self.pushedQueue queue, work.queued)
      | none => (self, .release packet.dropped (.failed work (-2)))
  | .release storage next =>
      match self.pool.push storage with
      | some pool => ({ self with pool := pool }, next.point)
      | none => (self, .discount next)
  | .discount next => ({ self with pool := self.pool.discount }, next.point)
  | .latencyLength => (self, .queueLength self.bridge.latency.items.length)
  | .queueLength latency =>
      (self, if latency + self.bridge.queue.items.length = 1 then .notify else .returned 0)
  | .notify => ({ self with notify := self.notify.notifyOne }, .returned 0)

section Alone

-- The equations of `perform` are made here once, not by each proof that rewrites with them.
attribute [local simp] perform

variable {self : SharedBridge Mark} {fresh : Storage}

/-- One operation of an injecting call after the other. -/
def turn (fresh : Storage) (found : SharedBridge Mark × InjectPoint Mark) :
    SharedBridge Mark × InjectPoint Mark :=
  found.1.perform fresh found.2

/-- A call that is alone comes from one point to the other. -/
def Comes (fresh : Storage) (before after : SharedBridge Mark × InjectPoint Mark) : Prop :=
  ∃ turns, (turn fresh)^[turns] before = after

theorem Comes.refl (found : SharedBridge Mark × InjectPoint Mark) : Comes fresh found found :=
  ⟨0, rfl⟩

theorem Comes.next {point : InjectPoint Mark} {after : SharedBridge Mark × InjectPoint Mark}
    (rest : Comes fresh (self.perform fresh point) after) : Comes fresh (self, point) after := by
  obtain ⟨turns, whole⟩ := rest
  exact ⟨turns + 1, whole⟩

theorem Comes.trans {before between after : SharedBridge Mark × InjectPoint Mark}
    (first : Comes fresh before between) (second : Comes fresh between after) :
    Comes fresh before after := by
  obtain ⟨few, whole⟩ := first
  obtain ⟨more, rest⟩ := second
  refine ⟨more + few, ?_⟩
  rw [Function.iterate_add_apply, whole, rest]

/-- A call that asks for a buffer gets one, or is refused. -/
theorem acquire_alone (self : SharedBridge Mark) (fresh : Storage) (work : InjectWork Mark)
    (mark : Mark) (data : List U8) :
    ∃ pool, (∃ storage, Comes fresh (self, .pop work mark data)
        ({ self with pool := pool }, work.acquired mark data storage)) ∨
      Comes fresh (self, .pop work mark data) ({ self with pool := pool }, work.failed (-2)) := by
  cases popped : self.pool.pop with
  | some pair =>
      refine ⟨pair.2, Or.inl ⟨pair.1, .next ?_⟩⟩
      rw [perform, popped]
      exact .refl _
  | none =>
      have counts :
          Comes fresh (self, .pop work mark data) (self, self.counted work mark data) := by
        refine .next ?_
        rw [perform, popped]
        exact .next (.refl _)
      rw [counted] at counts
      split at counts
      · refine ⟨{ self.pool with allocated := self.pool.allocated + 1 }, Or.inl ⟨fresh, ?_⟩⟩
        refine counts.trans (.next ?_)
        rw [perform, PacketPool.reserve, if_pos rfl]
        exact .refl _
      · exact ⟨self.pool, Or.inr counts⟩

theorem release_alone (self : SharedBridge Mark) (fresh storage : Storage)
    (next : InjectNext Mark) :
    ∃ pool, Comes fresh (self, .release storage next) ({ self with pool := pool }, next.point) := by
  cases pushed : self.pool.push storage with
  | some pool =>
      refine ⟨pool, .next ?_⟩
      rw [perform, pushed]
      exact .refl _
  | none =>
      refine ⟨self.pool.discount, .next ?_⟩
      rw [perform, pushed]
      exact .next (.refl _)

/-- A call returns, with this bridge and this code. -/
def Returns (fresh : Storage) (found : SharedBridge Mark × InjectPoint Mark)
    (bridge : UplinkBridge Mark) (code : Int) : Prop :=
  ∃ shared, Comes fresh found (shared, .returned code) ∧ shared.bridge = bridge ∧
    shared.installed = found.1.installed

theorem Comes.returns {before between : SharedBridge Mark × InjectPoint Mark}
    {bridge : UplinkBridge Mark} {code : Int} (first : Comes fresh before between)
    (same : between.1.installed = before.1.installed) (rest : Returns fresh between bridge code) :
    Returns fresh before bridge code := by
  obtain ⟨shared, comes, reached, installed⟩ := rest
  exact ⟨shared, first.trans comes, reached, installed.trans same⟩

/-- What is left to do after the push does not touch the queues. -/
theorem measure_alone (self : SharedBridge Mark) (fresh : Storage) :
    Returns fresh (self, .latencyLength) self.bridge 0 := by
  have measured : Comes fresh (self, .latencyLength)
      (self, if self.bridge.latency.items.length + self.bridge.queue.items.length = 1 then .notify
        else .returned 0) := .next (.next (.refl _))
  split at measured
  · exact ⟨_, measured.trans (.next (.refl _)), rfl, rfl⟩
  · exact ⟨_, measured, rfl, rfl⟩

theorem drop_alone (self : SharedBridge Mark) (fresh storage : Storage) (code : Int) :
    Returns fresh (self, .release storage (.failed .single code)) self.bridge code := by
  obtain ⟨pool, comes⟩ := self.release_alone fresh storage (.failed .single code)
  exact ⟨_, comes, rfl, rfl⟩

theorem pushAgain_alone (self : SharedBridge Mark) (fresh : Storage) (mark : Mark)
    (packet : PacketBuf) :
    match self.bridge.latency.push (mark, packet) with
    | some latency => Returns fresh (self, .pushAgain .single mark packet)
        { self.bridge with latency := latency } 0
    | none => Returns fresh (self, .pushAgain .single mark packet) self.bridge (-2) := by
  cases pushed : self.bridge.latency.push (mark, packet) with
  | some latency =>
      refine Comes.returns (.next (.refl _)) ?_ ?_
      · rw [perform, pushed]
        rfl
      · rw [perform, pushed]
        exact measure_alone _ fresh
  | none =>
      refine Comes.returns (.next (.refl _)) ?_ ?_
      · rw [perform, pushed]
      · rw [perform, pushed]
        exact self.drop_alone fresh _ _

/-- The oldest packet is given up, if there is one, before the new one is pushed. -/
theorem evict_alone (self : SharedBridge Mark) (fresh : Storage) (mark : Mark)
    (packet : PacketBuf) :
    ∃ pool rest, Comes fresh (self, .evict .single mark packet)
        ({ self.pushedLatency rest with pool := pool }, .pushAgain .single mark packet) ∧
      rest = (self.bridge.latency.pop.map Prod.snd).getD self.bridge.latency := by
  cases popped : self.bridge.latency.pop with
  | some pair =>
      obtain ⟨pool, comes⟩ := (self.pushedLatency pair.2).release_alone fresh pair.1.2.dropped
        (.pushAgain .single mark packet)
      refine ⟨pool, pair.2, .next ?_, rfl⟩
      rw [perform, popped]
      exact comes
  | none =>
      refine ⟨self.pool, self.bridge.latency, .next ?_, rfl⟩
      rw [perform, popped]
      exact .refl _

/-- A packet that has been read into a buffer is put on the bridge. -/
theorem enqueue_alone (self : SharedBridge Mark) (fresh : Storage) (mark : Mark)
    (packet : PacketBuf) :
    Returns fresh (self,
        if keepUnderPressure packet.asSlice then .pushLatency .single mark packet
        else .pushQueue .single mark packet)
      (self.bridge.enqueueUplink mark packet).1
      (if (self.bridge.enqueueUplink mark packet).2 then 0 else -2) := by
  rw [UplinkBridge.enqueueUplink]
  split
  · cases pushed : self.bridge.latency.push (mark, packet) with
    | some latency =>
        refine Comes.returns (.next (.refl _)) ?_ ?_
        · rw [perform, pushed]
          rfl
        · rw [perform, pushed]
          exact measure_alone _ fresh
    | none =>
        have full : Comes fresh (self, .pushLatency .single mark packet)
            (self, .evict .single mark packet) := by
          refine .next ?_
          rw [perform, pushed]
          exact .refl _
        obtain ⟨pool, rest, evicts, left⟩ := self.evict_alone fresh mark packet
        refine (full.trans evicts).returns rfl ?_
        have again :=
          pushAgain_alone { self.pushedLatency rest with pool := pool } fresh mark packet
        cases popped : self.bridge.latency.pop with
        | some pair =>
            obtain rfl : rest = pair.2 := by rw [left, popped]; rfl
            cases accepted : pair.2.push (mark, packet) with
            | some latency => simpa [pushedLatency, accepted] using again
            | none => simpa [pushedLatency, accepted] using again
        | none =>
            obtain rfl : rest = self.bridge.latency := by rw [left, popped]; rfl
            simpa [pushedLatency, pushed] using again
  · cases pushed : self.bridge.queue.push (mark, packet) with
    | some queue =>
        refine Comes.returns (.next (.refl _)) ?_ ?_
        · rw [perform, pushed]
          rfl
        · rw [perform, pushed]
          exact measure_alone _ fresh
    | none =>
        refine Comes.returns (.next (.refl _)) ?_ ?_
        · rw [perform, pushed]
        · rw [perform, pushed]
          exact self.drop_alone fresh _ _

/-- A call that has a buffer reads its packet into it and puts it on the bridge. -/
theorem acquired_alone (self : SharedBridge Mark) (fresh : Storage) (mark : Mark)
    {data : List U8} (fits : ¬ packetCapacity - packetHeadroom < data.length)
    (storage : Storage) :
    ∃ bridge code, Returns fresh (self, InjectWork.single.acquired mark data storage) bridge code ∧
      (match readInto storage data with
        | none => (some self.bridge, -3)
        | some packet =>
            (some (self.bridge.enqueueUplink mark packet).1,
              if (self.bridge.enqueueUplink mark packet).2 then 0 else -2)) =
        (some bridge, code) := by
  rw [InjectWork.acquired, if_neg fits]
  cases readInto storage data with
  | some packet => exact ⟨_, _, self.enqueue_alone fresh mark packet, rfl⟩
  | none => exact ⟨_, _, self.drop_alone fresh storage (-3), rfl⟩

/-- A call that is alone does what the sequential call does, with the buffer that the pool
gives it, if any. -/
theorem inject_alone (self : SharedBridge Mark) (fresh : Storage) (mark : Mark)
    (data : List U8) :
    ∃ storage shared code,
      Comes fresh (self, (InjectCall.packet mark data).point) (shared, .returned code) ∧
      injectPacket (if self.installed then some self.bridge else none) mark data storage =
        (if self.installed then some shared.bridge else none, code) := by
  by_cases bad : data.isEmpty ∨ packetCapacity - packetHeadroom < data.length
  · refine ⟨none, self, -3, ?_, ?_⟩
    · rw [InjectCall.point, if_pos bad]
      exact .refl _
    · exact if_pos bad
  · have entered (storage : Option Storage) (bridge : Option (UplinkBridge Mark)) :
        injectPacket bridge mark data storage = _ := if_neg bad
    simp only [entered]
    rw [InjectCall.point, if_neg bad]
    by_cases installed : self.installed = true
    · by_cases cancelled : self.bridge.cancelled = true
      · refine ⟨none, self, -1, ?_, ?_⟩
        · refine .next (.next ?_)
          simpa [perform, installed, cancelled] using Comes.refl _
        · simp [installed, cancelled]
      · have begins :
            Comes fresh (self, .slot (.packet mark data)) (self, .pop .single mark data) := by
          refine .next (.next ?_)
          simpa [perform, installed, cancelled, InjectCall.first] using Comes.refl _
        obtain ⟨pool, ⟨storage, acquired⟩ | refused⟩ := self.acquire_alone fresh .single mark data
        · obtain ⟨bridge, code, returns, called⟩ := acquired_alone
            { self with pool := pool } fresh mark (fun long => bad (Or.inr long)) storage
          obtain ⟨shared, comes, reached, -⟩ := (begins.trans acquired).returns rfl returns
          refine ⟨some storage, shared, code, comes, ?_⟩
          simp only [installed, cancelled, reached, if_true]
          exact called
        · refine ⟨none, _, -2, begins.trans refused, ?_⟩
          simp [installed, cancelled]
    · refine ⟨none, self, -1, ?_, ?_⟩
      · refine .next ?_
        simpa [perform, installed] using Comes.refl _
      · simp [installed]

end Alone

end SharedBridge

/-- The points of the reader. -/
inductive ReaderPoint (Mark : Type*) where
  | popLatency
  | popQueue
  | reading (packet : Mark × PacketBuf)
  | notified
  | claim (seen : Nat)
  | enlist (seen : Nat)
  | waiting
  | stopped

/-- One atomic operation of the reader. What it does with a packet does not touch the
bridge. -/
def SharedBridge.read (self : SharedBridge Mark) :
    ReaderPoint Mark → SharedBridge Mark × ReaderPoint Mark
  | .popLatency =>
      match self.bridge.latency.pop with
      | some (packet, latency) => (self.pushedLatency latency, .reading packet)
      | none => (self, .popQueue)
  | .popQueue =>
      match self.bridge.queue.pop with
      | some (packet, queue) => (self.pushedQueue queue, .reading packet)
      | none => (self, .notified)
  | .reading _ => (self, .popLatency)
  | .notified => (self, .claim self.notify.notified)
  | .claim seen =>
      match self.notify.claim with
      | some notify => ({ self with notify := notify }, .popLatency)
      | none => (self, .enlist seen)
  | .enlist seen =>
      let listed := self.notify.enlist seen
      ({ self with notify := listed.1 }, if listed.2 then .popLatency else .waiting)
  | .waiting =>
      match self.notify.poll with
      | some notify => ({ self with notify := notify }, .popLatency)
      | none => (self, .waiting)
  | .stopped => (self, .stopped)

/-- The reader stops where it waits for a wake-up or the end. -/
def SharedBridge.stop (self : SharedBridge Mark) :
    ReaderPoint Mark → SharedBridge Mark × ReaderPoint Mark
  | .claim _ => (self, .stopped)
  | .enlist _ => (self, .stopped)
  | .waiting => ({ self with notify := self.notify.leave }, .stopped)
  | point => (self, point)

/-- A call begins or makes a step, the reader makes a step or sees that all is cancelled,
and what happens around: the bridge is cancelled, taken out of its slot or put in, and
other holders of buffers work on the pool. -/
inductive BridgeEvent (Mark : Type*) where
  | begin (call : InjectCall Mark)
  | run (index : Nat) (fresh : Storage)
  | read
  | stop
  | cancel
  | install (installed : Bool)
  | others (pool : PacketPool)

abbrev InjectTask (Mark : Type*) := Thread (InjectPoint Mark) Unit

structure BridgeRun (Mark : Type*) where
  shared : SharedBridge Mark
  tasks : List (InjectTask Mark)
  reader : ReaderPoint Mark

namespace BridgeRun

def start (buffers : Nat) : BridgeRun Mark where
  shared := { bridge := .new, installed := true, notify := .new, pool := .new buffers }
  tasks := []
  reader := .popLatency

def ran (self : BridgeRun Mark) (fresh : Storage) (index : Nat) (current : InjectTask Mark) :
    BridgeRun Mark :=
  let after := self.shared.perform fresh current.point
  { self with
    shared := after.1
    tasks := Interleaving.advance self.tasks index { current with point := after.2 } [] }

def step (self : BridgeRun Mark) : BridgeEvent Mark → BridgeRun Mark × Unit
  | .begin call =>
      ({ self with tasks := self.tasks ++ [{ point := call.point, tag := () }] }, ())
  | .run index fresh =>
      match self.tasks[index]? with
      | none => (self, ())
      | some current => (self.ran fresh index current, ())
  | .read =>
      let after := self.shared.read self.reader
      ({ self with shared := after.1, reader := after.2 }, ())
  | .stop =>
      if self.shared.bridge.cancelled then
        let after := self.shared.stop self.reader
        ({ self with shared := after.1, reader := after.2 }, ())
      else (self, ())
  | .cancel =>
      ({ self with
          shared := { self.shared with bridge := { self.shared.bridge with cancelled := true } } },
        ())
  | .install installed => ({ self with shared := { self.shared with installed := installed } }, ())
  | .others pool => ({ self with shared := { self.shared with pool := pool } }, ())

end BridgeRun

end Csqtt
