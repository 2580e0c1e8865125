/-
Module: Csqtt.Engine.TransportWriter
Purpose: The writing half of a transport: queued packets are wrapped, made messages of the
  relay and sent, some of them twice.
Trusted boundary: the socket takes every datagram
Main exports: channelDataPadding, encodeChannelData, Budget, Allocation, TransportWriter,
  preparePacket, flushQueuedData
-/
import Csqtt.Engine.Obfs
import Csqtt.Engine.Packet
import Csqtt.Engine.SelectiveFec

namespace Csqtt

def channelDataPadding (packet : PacketBuf) (channel : U16) : Except String Nat :=
  if ¬ (0x4000 ≤ channel ∧ channel ≤ 0x7fff) then .error "TURN channel is invalid"
  else if 65535 < packet.len then .error "TURN payload too large"
  else
    let padding := (4 - packet.len % 4) % 4
    if packet.start < 4 ∨ packetCapacity < packet.stop + padding then
      .error "TURN ChannelData exceeds packet buffer"
    else .ok padding

/-- The header: the channel and the length of the payload. -/
def channelDataBytes (channel : U16) (payloadLength : Nat) : List U8 :=
  beBytes 2 channel.toNat ++ beBytes 2 payloadLength

/-- Make a packet a message, in place. -/
def encodeChannelData (packet : PacketBuf) (channel : U16) : PacketBuf × Except String Unit :=
  match channelDataPadding packet channel with
  | .error error => (packet, .error error)
  | .ok padding =>
      match packet.extendTail padding with
      | none => (packet, .error "packet tail exceeds capacity")
      | some extended =>
          let filled := extended.write packet.stop (List.replicate padding 0)
          match filled.prepend 4 with
          | none => (filled, .error "packet prepend exceeds headroom")
          | some headed =>
              (headed.write headed.start (channelDataBytes channel packet.len), .ok ())

def duplicatesPerSecond : Nat := 80
def duplicateBurst : U32 := 16
/-- Nanoseconds: the whole milliseconds of the interval between two duplicates. -/
def refillInterval : Nat := 1000 / duplicatesPerSecond * 1000000
def writerBulkBatchLimit : Nat := 128

/-- How many packets may still be sent twice. -/
structure Budget where
  tokens : U32
  updated : Nat

namespace Budget

def new (now : Nat) : Budget where
  tokens := duplicateBurst
  updated := now

def refilled (self : Budget) (now : Nat) : Budget :=
  let refill := (now - self.updated) / refillInterval
  if refill = 0 then self
  else
    let refill := min refill (2 ^ 32 - 1)
    let tokens := saturatingAdd self.tokens (BitVec.ofNat 32 refill)
    { tokens := if tokens < duplicateBurst then tokens else duplicateBurst
      updated := self.updated + refillInterval * refill }

def allow (self : Budget) (now : Nat) : Budget × Bool :=
  let self := self.refilled now
  if self.tokens = 0 then (self, false) else ({ self with tokens := self.tokens - 1 }, true)

end Budget

/-- What a send looks at: whether the allocation is open, and its channel. -/
structure Allocation where
  closing : Bool
  terminal : Option String
  channel : U16

namespace Allocation

def ensureOpen (self : Allocation) : Except String Unit :=
  if self.closing then .error "TURN allocation closing"
  else
    match self.terminal with
    | some reason => .error reason
    | none => .ok ()

def bound (self : Allocation) : Except String Unit := do
  self.ensureOpen
  if self.channel = 0 then .error "TURN ChannelBind обязателен" else .ok ()

/-- A packet as the datagram that is sent. -/
def encoded (self : Allocation) (packet : PacketBuf) : Except String (List U8) :=
  let encoded := encodeChannelData packet self.channel
  encoded.2.map fun _ => encoded.1.asSlice

def sendWithDuplicate (self : Allocation) (packet : PacketBuf) (duplicate : Bool) :
    Except String (List (List U8)) := do
  self.bound
  let datagram ← self.encoded packet
  return if duplicate then [datagram, datagram] else [datagram]

/-- All packets are looked at before the first one is changed. -/
def sendDataBatch (self : Allocation) (packets : List PacketBuf) :
    Except String (List (List U8)) :=
  if packets.isEmpty then .ok []
  else do
    self.bound
    forM packets fun packet => (channelDataPadding packet self.channel).map fun _ => ()
    packets.mapM self.encoded

end Allocation

/-- The clocks, read when a packet is prepared: the age of the obfuscation state, and the
time in nanoseconds. -/
structure Reading where
  elapsed : Duration
  now : Nat

/-- The packets wrapped for the next batch, and the datagrams sent so far. -/
structure TransportWriter (Rng : Type*) where
  writeState : ObfsState Rng
  fecBudget : Budget
  mmsgData : List PacketBuf
  sent : List (List U8)

/-- What a writer shares with its transport. -/
structure TransportShared (Rng : Type*) where
  cipher : ObfsCipher
  random : RandomSource Rng
  config : ObfsConfig
  allocation : Allocation
  fecEnabled : Bool

namespace TransportWriter

variable {Rng : Type*} (shared : TransportShared Rng)

/-- Wrap a packet; the answer is whether to send it twice. -/
def preparePacket (self : TransportWriter Rng) (reading : Reading) (packet : PacketBuf) :
    (TransportWriter Rng × PacketBuf) × Except String Bool :=
  let budget :=
    if shared.fecEnabled && shouldDuplicate packet.asSlice then self.fecBudget.allow reading.now
    else (self.fecBudget, false)
  let wrapped :=
    wrap shared.cipher shared.random shared.config self.writeState reading.elapsed packet
  (({ self with writeState := wrapped.1.1, fecBudget := budget.1 }, wrapped.1.2),
    wrapped.2.map fun _ => budget.2)

def sendWithDuplicate (self : TransportWriter Rng) (packet : PacketBuf) (duplicate : Bool) :
    TransportWriter Rng × Except String Unit :=
  match shared.allocation.sendWithDuplicate packet duplicate with
  | .error error => (self, .error error)
  | .ok datagrams => ({ self with sent := self.sent ++ datagrams }, .ok ())

def sendPacket (self : TransportWriter Rng) (reading : Reading) (packet : PacketBuf) :
    TransportWriter Rng × Except String Unit :=
  let prepared := self.preparePacket shared reading packet
  match prepared.2 with
  | .error error => (prepared.1.1, .error error)
  | .ok duplicate => prepared.1.1.sendWithDuplicate shared prepared.1.2 duplicate

def flushMmsgData (self : TransportWriter Rng) : TransportWriter Rng × Except String Unit :=
  if self.mmsgData.isEmpty then (self, .ok ())
  else
    match shared.allocation.sendDataBatch self.mmsgData with
    | .error error => (self, .error error)
    | .ok datagrams => ({ self with mmsgData := [], sent := self.sent ++ datagrams }, .ok ())

/-- One packet of a longer queue. One that is sent twice goes behind those before it. -/
def flushPacket (self : TransportWriter Rng) (reading : Reading) (packet : PacketBuf) :
    TransportWriter Rng × Except String Unit :=
  let prepared := self.preparePacket shared reading packet
  match prepared.2 with
  | .error error => (prepared.1.1, .error error)
  | .ok true =>
      match prepared.1.1.flushMmsgData shared with
      | (flushed, .error error) => (flushed, .error error)
      | (flushed, .ok ()) => flushed.sendWithDuplicate shared prepared.1.2 true
  | .ok false =>
      let queued :=
        { prepared.1.1 with mmsgData := prepared.1.1.mmsgData ++ [prepared.1.2] }
      if queued.mmsgData.length = writerBulkBatchLimit then queued.flushMmsgData shared
      else (queued, .ok ())

def flushLoop : List (Reading × PacketBuf) → TransportWriter Rng →
    TransportWriter Rng × Except String Unit
  | [], self => self.flushMmsgData shared
  | (reading, packet) :: pending, self =>
      match self.flushPacket shared reading packet with
      | (flushed, .error error) => (flushed, .error error)
      | (flushed, .ok ()) => flushLoop pending flushed

/-- Send what is queued. Every packet comes with the clocks at its turn. -/
def flushQueuedData (self : TransportWriter Rng) (pending : List (Reading × PacketBuf)) :
    TransportWriter Rng × Except String Unit :=
  match pending with
  | [(reading, packet)] => self.sendPacket shared reading packet
  | pending => flushLoop shared pending self

end TransportWriter

end Csqtt
