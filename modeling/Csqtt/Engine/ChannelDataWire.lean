/-
Module: Csqtt.Engine.ChannelDataWire
Purpose: ChannelData messages at both ends: what the reader takes from one, the batch that the
  writer makes of its packets in place, and the messages cut out of a byte stream.
Trusted boundary: the bytes of a stream come in pieces of any size
Main exports: channelDataHeader, PacketBuf.truncate, PacketAction, processPacket,
  encodeInPlace, Allocation.sendDataBatchInPlace, TurnStreamFrame, decodeFrame, readFrame
-/
import Csqtt.Engine.BridgeRun
import Csqtt.Engine.FlowFrame
import Csqtt.Engine.StunCodec
import Csqtt.Engine.TransportWriter

namespace Csqtt

/-- Channel and length of the payload of a message. Up to three bytes may follow it. -/
def channelDataHeader (wire : List U8) : Option (U16 × Nat) :=
  if wire.length < 4 ∨ byteAt wire 0 &&& 0xc0#8 ≠ 0x40#8 then none
  else
    let channel : U16 := BitVec.ofNat 16 (beValue (wire.extract 0 2))
    if ¬ (0x4000 ≤ channel ∧ channel ≤ 0x7fff) then none
    else
      let payloadLength := beValue (wire.extract 2 4)
      if wire.length - 4 < payloadLength then none
      else if 3 < wire.length - 4 - payloadLength then none
      else some (channel, payloadLength)

def PacketBuf.truncate (self : PacketBuf) (len : Nat) : Option PacketBuf :=
  if fits : len ≤ self.len then
    some
      { self with
        stop := self.start + len
        ordered := Nat.le_add_right _ _
        bounded := by
          have ordered := self.ordered
          have bounded := self.bounded
          simp only [PacketBuf.len] at fits
          omega }
  else none

def isStun (wire : List U8) : Bool :=
  decide (20 ≤ wire.length) && byteAt wire 0 &&& 0xc0#8 == 0 &&
    wire.extract 4 8 == beBytes 4 magicCookie.toNat

/-- What becomes of a received datagram: its payload goes to the owner of the transport, the
control part reads it, or it is dropped. -/
inductive PacketAction where
  | deliver (packet : PacketBuf)
  | control
  | dropped

/-- A datagram received while the owner's channel is the given one. -/
def processPacket (bound : U16) (packet : PacketBuf) : PacketAction :=
  match channelDataHeader packet.asSlice with
  | some (channel, payloadLength) =>
      if channel ≠ bound then .dropped
      else
        match packet.trimFront 4 with
        | none => .dropped
        | some trimmed =>
            match trimmed.truncate payloadLength with
            | none => .dropped
            | some payload => .deliver payload
  | none => if isStun packet.asSlice then .control else .dropped

/-- Make packets messages one after the other, up to the first that cannot be made one. -/
def encodeInPlace (channel : U16) : List PacketBuf → List PacketBuf × Except String Unit
  | [] => ([], .ok ())
  | packet :: packets =>
      match encodeChannelData packet channel with
      | (changed, .error error) => (changed :: packets, .error error)
      | (changed, .ok ()) =>
          let rest := encodeInPlace channel packets
          (changed :: rest.1, rest.2)

/-- The first pass over a batch: nothing is changed yet. -/
def validateBatch (channel : U16) (packets : List PacketBuf) : Except String Unit :=
  forM packets fun packet => (channelDataPadding packet channel).map fun _ => ()

/-- `send_data_batch` with the packets as it leaves them, and the datagrams it sends. -/
def Allocation.sendDataBatchInPlace (self : Allocation) (packets : List PacketBuf) :
    List PacketBuf × Except String (List (List U8)) :=
  if packets.isEmpty then (packets, .ok [])
  else
    match self.bound with
    | .error error => (packets, .error error)
    | .ok () =>
        match validateBatch self.channel packets with
        | .error error => (packets, .error error)
        | .ok () =>
            let encoded := encodeInPlace self.channel packets
            (encoded.1, encoded.2.map fun _ => encoded.1.map (·.asSlice))

def maxControlFrameBytes : Nat := 4096
def maxDataFrameBytes : Nat := packetCapacity - packetHeadroom
def streamReadBufferBytes : Nat := maxControlFrameBytes

inductive TurnStreamFrame where
  | control (bytes : List U8)
  | data (packet : PacketBuf)
  | dataDropped

/-- What a frame turns out to be at its first bytes, and how long it is. -/
inductive FrameKind where
  | control (frameBytes : Nat)
  | channelData (frameBytes padding : Nat)
deriving DecidableEq, Repr

/-- `none` when there are too few bytes to tell. -/
def frameStart (bytes : List U8) : Except String (Option FrameKind) :=
  if bytes.length < 4 then .ok none
  else
    let declared := beValue (bytes.extract 2 4)
    if byteAt bytes 0 &&& 0xc0 = 0 then
      if declared % 4 ≠ 0 then .error "TURN stream control frame has an unaligned length"
      else
        let frameBytes := 20 + declared
        if maxControlFrameBytes < frameBytes then
          .error "TURN stream control frame exceeds the hard limit"
        else if bytes.length < 8 then .ok none
        else if bytes.extract 4 8 ≠ [0x21, 0x12, 0xa4, 0x42] then
          .error "TURN stream control frame has an invalid magic cookie"
        else .ok (some (.control frameBytes))
    else if byteAt bytes 0 &&& 0xc0 ≠ 0x40 then
      .error "TURN stream received a frame in the reserved type range"
    else
      let frameBytes := 4 + declared
      let padding := (4 - declared % 4) % 4
      if maxDataFrameBytes < frameBytes + padding then
        .error "TURN stream ChannelData frame exceeds packet capacity"
      else .ok (some (.channelData frameBytes padding))

/-- A message with its padding becomes a packet, in the storage the pool gives, if any. -/
def copyChannelData (wire : List U8) (storage : Option Storage) : Except String TurnStreamFrame :=
  match storage with
  | none => .ok .dataDropped
  | some storage =>
      match readInto storage wire with
      | none => .error "packet read length exceeds capacity"
      | some packet => .ok (.data packet)

/-- Cut a whole frame off the buffer; `none` when there is none yet. -/
def decodeFrame (buffer : List U8) (storage : Option Storage) :
    Except String (Option (TurnStreamFrame × List U8)) := do
  match ← frameStart buffer with
  | none => return none
  | some (.control frameBytes) =>
      if buffer.length < frameBytes then return none
      else return some (.control (buffer.take frameBytes), buffer.drop frameBytes)
  | some (.channelData frameBytes padding) =>
      if buffer.length < frameBytes + padding then return none
      else
        let frame ← copyChannelData (buffer.take (frameBytes + padding)) storage
        return some (frame, buffer.drop (frameBytes + padding))

/-- What one read of the stream gives: some bytes, none at its end, or an error. -/
inductive StreamRead where
  | bytes (chunk : List U8)
  | failed

/-- How far a call comes with the reads there are: to a frame, to an error, or it waits for
more with what is in the buffer. -/
inductive ReadFrame where
  | frame (frame : TurnStreamFrame) (buffer : List U8) (reads : List StreamRead)
  | error (reason : String)
  | waiting (buffer : List U8)

/-- Before every read: a whole frame is taken, and a full buffer without one is an error. -/
def beforeRead (storage : Option Storage) (buffer : List U8) :
    Except String (Option (TurnStreamFrame × List U8)) :=
  match decodeFrame buffer storage with
  | .ok none =>
      if streamReadBufferBytes ≤ buffer.length then
        .error "TURN stream frame buffer reached its hard limit"
      else .ok none
  | decoded => decoded

/-- Read until there is a frame. -/
def readFrame (storage : Option Storage) : List U8 → List StreamRead → ReadFrame
  | buffer, [] =>
      match beforeRead storage buffer with
      | .error reason => .error reason
      | .ok (some (frame, rest)) => .frame frame rest []
      | .ok none => .waiting buffer
  | buffer, read :: reads =>
      match beforeRead storage buffer with
      | .error reason => .error reason
      | .ok (some (frame, rest)) => .frame frame rest (read :: reads)
      | .ok none =>
          match read with
          | .failed => .error "TURN stream read failed"
          | .bytes chunk =>
              if chunk.isEmpty then .error "TURN stream closed by remote peer"
              else readFrame storage (buffer ++ chunk) reads

/-- Call after call, each with what the pool gives meanwhile: the frames, and how the last
call ended if it gave none. -/
def readFrames (buffer : List U8) (reads : List StreamRead) :
    List (Option Storage) → List TurnStreamFrame × ReadFrame
  | [] => ([], .waiting buffer)
  | storage :: calls =>
      match readFrame storage buffer reads with
      | .frame frame buffer reads =>
          let later := readFrames buffer reads calls
          (frame :: later.1, later.2)
      | ended => ([], ended)

end Csqtt
