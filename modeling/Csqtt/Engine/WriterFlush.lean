/-
Module: Csqtt.Engine.WriterFlush
Purpose: The loop of a writer over its three queues: batches of packets are taken, wrapped
  and put on a socket or a stream that may refuse any of them.
Trusted boundary: the tasks that fill the queues are a parameter
Main exports: Network, SocketWriter, flushQueuedData, WriterLimits, WriterQueues, takeBatch,
  WriterLoop, WriterAction, runWriter
-/
import Csqtt.Engine.ChannelDataWire
import Csqtt.Engine.BridgeRun
import Csqtt.Engine.PacketQueue

namespace Csqtt

inductive TurnOutbound where
  | udp
  | stream
deriving DecidableEq

/-- The answer to a try to send that does not have to wait: what is offered is taken up to some
place behind its first datagram, or the try fails. -/
inductive SendAnswer where
  | took (more : Nat)
  | failed

/-- The way out, with its answer to every try. -/
structure Network where
  outbound : TurnOutbound
  answers : Nat → SendAnswer

def maxDatagrams : Nat := 128

/-- The slices of a batch that go into one call each. -/
def chunks {Item : Type*} (size : Nat) (items : List Item) : List (List Item) :=
  (List.range ((items.length + size - 1) / size)).map fun index =>
    (items.drop (index * size)).take size

/-- A writer, and how often it has tried to send. The datagrams it has offered, each with the
answer, only tell what has happened. -/
structure SocketWriter (Rng : Type*) extends TransportWriter Rng where
  attempts : Nat
  offered : List (List U8 × Bool)

namespace SocketWriter

section Send

variable {Rng : Type*} (network : Network)

def offer (self : SocketWriter Rng) (datagram : List U8) (taken : Bool) : SocketWriter Rng :=
  { self with
    sent := if taken then self.sent ++ [datagram] else self.sent
    offered := self.offered ++ [(datagram, taken)] }

def tried (self : SocketWriter Rng) : SocketWriter Rng :=
  { self with attempts := self.attempts + 1 }

/-- Hand on a single datagram. -/
def sendOne (datagram : List U8) (self : SocketWriter Rng) : SocketWriter Rng × Bool :=
  match network.answers self.attempts with
  | .took _ => (self.tried.offer datagram true, true)
  | .failed => (self.tried.offer datagram false, false)

/-- Hand on the datagrams of one chunk. Some of them the last try has taken already. -/
def sendConnected : Nat → List (List U8) → SocketWriter Rng → SocketWriter Rng × Bool
  | _, [], self => (self, true)
  | more + 1, datagram :: datagrams, self =>
      sendConnected more datagrams (self.offer datagram true)
  | 0, datagram :: datagrams, self =>
      match network.answers self.attempts with
      | .took more => sendConnected more datagrams (self.tried.offer datagram true)
      | .failed => (self.tried.offer datagram false, false)

def sendChunks : List (List (List U8)) → SocketWriter Rng → SocketWriter Rng × Bool
  | [], self => (self, true)
  | chunk :: rest, self =>
      match sendConnected network 0 chunk self with
      | (sent, true) => sendChunks rest sent
      | (sent, false) => (sent, false)

/-- Hand on datagrams one by one. -/
def sendEach : List (List U8) → SocketWriter Rng → SocketWriter Rng × Bool
  | [], self => (self, true)
  | datagram :: datagrams, self =>
      match sendOne network datagram self with
      | (sent, true) => sendEach datagrams sent
      | (sent, false) => (sent, false)

def sendDatagrams (datagrams : List (List U8)) (self : SocketWriter Rng) :
    SocketWriter Rng × Bool :=
  match network.outbound with
  | .udp => sendChunks network (chunks maxDatagrams datagrams) self
  | .stream => sendEach network datagrams self

end Send

section Flush

variable {Rng : Type*} (network : Network) (shared : TransportShared Rng)

def sendError : TurnOutbound → String
  | .udp => "TURN UDP send"
  | .stream => "TURN stream data queue closed"

def batchError : TurnOutbound → String
  | .udp => "TURN UDP batch send"
  | .stream => "TURN stream data queue closed"

/-- Send a packet. Its duplicate is for a socket only, and may be refused. -/
def sendWithDuplicate (self : SocketWriter Rng) (packet : PacketBuf) (duplicate : Bool) :
    SocketWriter Rng × Except String Unit :=
  match shared.allocation.sendWithDuplicate packet false with
  | .error error => (self, .error error)
  | .ok datagrams =>
      match sendEach network datagrams self with
      | (sent, false) => (sent, .error (sendError network.outbound))
      | (sent, true) =>
          if duplicate then
            match network.outbound with
            | .udp => ((sendEach network datagrams sent).1, .ok ())
            | .stream => (sent, .ok ())
          else (sent, .ok ())

def preparePacket (self : SocketWriter Rng) (reading : Reading) (packet : PacketBuf) :
    (SocketWriter Rng × PacketBuf) × Except String Bool :=
  let prepared := self.toTransportWriter.preparePacket shared reading packet
  (({ self with toTransportWriter := prepared.1.1 }, prepared.1.2), prepared.2)

def sendPacket (self : SocketWriter Rng) (reading : Reading) (packet : PacketBuf) :
    SocketWriter Rng × Except String Unit :=
  let prepared := self.preparePacket shared reading packet
  match prepared.2 with
  | .error error => (prepared.1.1, .error error)
  | .ok duplicate => prepared.1.1.sendWithDuplicate network shared prepared.1.2 duplicate

def flushMmsgData (self : SocketWriter Rng) : SocketWriter Rng × Except String Unit :=
  if self.mmsgData.isEmpty then (self, .ok ())
  else
    let encoded := shared.allocation.sendDataBatchInPlace self.mmsgData
    match encoded.2 with
    | .error error => ({ self with mmsgData := encoded.1 }, .error error)
    | .ok datagrams =>
        match sendDatagrams network datagrams self with
        | (sent, true) => ({ sent with mmsgData := [] }, .ok ())
        | (sent, false) =>
            -- The stream has drained the batch, a socket leaves it where it is.
            let left := match network.outbound with
              | .udp => encoded.1
              | .stream => []
            ({ sent with mmsgData := left }, .error (batchError network.outbound))

/-- One packet of a longer queue. One that is sent twice goes behind those before it. -/
def flushPacket (limit : Nat) (self : SocketWriter Rng) (reading : Reading)
    (packet : PacketBuf) : SocketWriter Rng × Except String Unit :=
  let prepared := self.preparePacket shared reading packet
  match prepared.2 with
  | .error error => (prepared.1.1, .error error)
  | .ok true =>
      match prepared.1.1.flushMmsgData network shared with
      | (flushed, .error error) => (flushed, .error error)
      | (flushed, .ok ()) => flushed.sendWithDuplicate network shared prepared.1.2 true
  | .ok false =>
      let queued :=
        { prepared.1.1 with mmsgData := prepared.1.1.mmsgData ++ [prepared.1.2] }
      if queued.mmsgData.length = limit then queued.flushMmsgData network shared
      else (queued, .ok ())

def flushLoop (limit : Nat) : List (Reading × PacketBuf) → SocketWriter Rng →
    SocketWriter Rng × Except String Unit
  | [], self => self.flushMmsgData network shared
  | (reading, packet) :: pending, self =>
      match self.flushPacket network shared limit reading packet with
      | (flushed, .error error) => (flushed, .error error)
      | (flushed, .ok ()) => flushLoop limit pending flushed

/-- Send what is queued. Every packet comes with the clocks at its turn. -/
def flushQueuedData (limit : Nat) (self : SocketWriter Rng)
    (pending : List (Reading × PacketBuf)) : SocketWriter Rng × Except String Unit :=
  match pending with
  | [(reading, packet)] => self.sendPacket network shared reading packet
  | pending => flushLoop network shared limit pending self

end Flush

end SocketWriter

/-- How many packets of a class one flush takes. -/
structure WriterLimits where
  latency : Nat
  priority : Nat
  bulk : Nat

/-- The limits in use. -/
def writerLimits : WriterLimits where
  latency := 16
  priority := 64
  bulk := writerBulkBatchLimit

def WriterLimits.of (limits : WriterLimits) : PacketClass → Nat
  | .small => limits.latency
  | .medium => limits.priority
  | .bulk => limits.bulk

structure WriterQueues (Mark : Type*) where
  latency : PacketQueue Mark
  priority : PacketQueue Mark
  bulk : PacketQueue Mark

namespace WriterQueues

variable {Mark : Type*}

def tryRecv (self : WriterQueues Mark) : PacketClass → WriterQueues Mark × Option PacketBuf
  | .small =>
      let received := self.latency.tryRecv
      ({ self with latency := received.1 }, received.2.map (·.2))
  | .medium =>
      let received := self.priority.tryRecv
      ({ self with priority := received.1 }, received.2.map (·.2))
  | .bulk =>
      let received := self.bulk.tryRecv
      ({ self with bulk := received.1 }, received.2.map (·.2))

end WriterQueues

def writerBatchCanExtend (ofClass : PacketClass) (latencyPending priorityPending : Bool) : Bool :=
  match ofClass with
  | .small => true
  | .medium => !latencyPending
  | .bulk => !latencyPending && !priorityPending

/-- The queues as the writer comes upon them: at every look other tasks have done to them what
they like. The packets that it has taken from them only tell what has happened. -/
structure QueueView (Mark : Type*) where
  queues : WriterQueues Mark
  looks : Nat
  dequeued : List PacketBuf

namespace QueueView

variable {Mark : Type*} (others : Nat → WriterQueues Mark → WriterQueues Mark)

def look (self : QueueView Mark) : QueueView Mark :=
  { self with queues := others self.looks self.queues, looks := self.looks + 1 }

def tryRecv (self : QueueView Mark) (ofClass : PacketClass) :
    QueueView Mark × Option PacketBuf :=
  let seen := self.look others
  let received := seen.queues.tryRecv ofClass
  ({ seen with
      queues := received.1
      dequeued := seen.dequeued ++ received.2.toList },
    received.2)

/-- The first packet of a batch, with its class. -/
def nextWriterPacket (self : QueueView Mark) :
    QueueView Mark × Option (PacketClass × PacketBuf) :=
  match self.tryRecv others .small with
  | (seen, some packet) => (seen, some (.small, packet))
  | (seen, none) =>
      match seen.tryRecv others .medium with
      | (seen, some packet) => (seen, some (.medium, packet))
      | (seen, none) =>
          let received := seen.tryRecv others .bulk
          (received.1, received.2.map (.bulk, ·))

/-- The other packets of a batch, no more than there is room for. -/
def takeBatch (ofClass : PacketClass) : Nat → QueueView Mark → QueueView Mark × List PacketBuf
  | 0, self => (self, [])
  | room + 1, self =>
      let latencySeen := self.look others
      let prioritySeen := latencySeen.look others
      if writerBatchCanExtend ofClass (latencySeen.queues.latency.queued != 0)
          (prioritySeen.queues.priority.queued != 0) then
        match prioritySeen.tryRecv others ofClass with
        | (seen, none) => (seen, [])
        | (seen, some packet) =>
            let rest := takeBatch ofClass room seen
            (rest.1, packet :: rest.2)
      else (prioritySeen, [])

end QueueView

/-- One flush: what was to be sent, each packet with the clocks at its turn, the writer before
and behind it, and the error it ended with. -/
structure WriterFlush (Rng : Type*) where
  pending : List (Reading × PacketBuf)
  before : SocketWriter Rng
  after : SocketWriter Rng
  failure : Option String

/-- A writer at work, with all its flushes. -/
structure WriterLoop (Rng Mark : Type*) where
  writer : SocketWriter Rng
  view : QueueView Mark
  flushes : List (WriterFlush Rng)
  failure : Option String

/-- What the loop does next: it sends the bytes of a command, in a buffer that the pool may not
have, or it looks for a packet. -/
inductive WriterAction where
  | command (reading : Reading) (storage : Option Storage) (data : List U8)
  | turn (clock : Nat → Reading)

section Loop

variable {Rng Mark : Type*} (network : Network) (shared : TransportShared Rng)
  (limits : WriterLimits) (others : Nat → WriterQueues Mark → WriterQueues Mark)

def SocketWriter.sendBytes (self : SocketWriter Rng) (reading : Reading)
    (storage : Option Storage) (data : List U8) : SocketWriter Rng × Except String Unit :=
  match storage with
  | none => (self, .error "packet budget exhausted")
  | some storage =>
      match readInto storage data with
      | none => (self, .error s!"transport payload too large: {data.length}")
      | some packet => self.sendPacket network shared reading packet

/-- The flush of some packets. -/
def SocketWriter.flush (self : SocketWriter Rng) (pending : List (Reading × PacketBuf)) :
    WriterFlush Rng :=
  let flushed := self.flushQueuedData network shared limits.bulk pending
  { pending := pending
    before := self
    after := flushed.1
    failure := match flushed.2 with
      | .error error => some error
      | .ok () => none }

/-- A batch from its first packet on. -/
def sendWriterBatch (self : WriterLoop Rng Mark) (clock : Nat → Reading)
    (first : PacketClass × PacketBuf) : WriterLoop Rng Mark :=
  let taken := self.view.takeBatch others first.1 (limits.of first.1 - 1)
  let pending := (first.2 :: taken.2).mapIdx fun index packet => (clock index, packet)
  let flush := self.writer.flush network shared limits pending
  { writer := flush.after
    view := taken.1
    flushes := self.flushes ++ [flush]
    failure := flush.failure }

/-- One turn of the loop. The result of a command is reported to whoever gave it, an error of a
flush ends the loop. -/
def writerStep (self : WriterLoop Rng Mark) (action : WriterAction) : WriterLoop Rng Mark :=
  match self.failure, action with
  | some _, _ => self
  | none, .command reading storage data =>
      { self with writer := (self.writer.sendBytes network shared reading storage data).1 }
  | none, .turn clock =>
      match self.view.nextWriterPacket others with
      | (seen, none) => { self with view := seen }
      | (seen, some first) =>
          sendWriterBatch network shared limits others { self with view := seen } clock first

def runWriter (self : WriterLoop Rng Mark) (actions : List WriterAction) : WriterLoop Rng Mark :=
  actions.foldl (writerStep network shared limits others) self

/-- A writer that has not sent anything yet. -/
def WriterLoop.new (state : ObfsState Rng) (now : Nat) (queues : WriterQueues Mark) :
    WriterLoop Rng Mark where
  writer :=
    { writeState := state
      fecBudget := .new now
      mmsgData := []
      sent := []
      attempts := 0
      offered := [] }
  view := { queues := queues, looks := 0, dequeued := [] }
  flushes := []
  failure := none

end Loop

end Csqtt
