/-
Module: Csqtt.Engine.Dispatcher
Purpose: The two ends of a reordered path: the sender frames a packet in place, the
  receiver decodes it, trims the frame and queues what the reorder buffer hands on;
  and the task that reads the bridge.
Trusted boundary: none
Main exports: frameOutboundPacket, readBridge, ReturnReorder, ReturnReorder.call
-/
import Csqtt.Engine.FlowReassembler
import Csqtt.Engine.BridgeRun

namespace Csqtt

/-- Frame a packet in place; `false` when the caller drops it. A packet that
belongs to no flow is left as it is. -/
def frameOutboundPacket (sequences : FlowSequencer) (packet : PacketBuf) :
    FlowSequencer × PacketBuf × Bool :=
  match sequences.next packet.asSlice with
  | (none, sequences) => (sequences, packet, true)
  | (some header, sequences) =>
      match packet.prepend frameLen with
      | none => (sequences, packet, false)
      | some packet =>
          match header.encode (packet.asSlice.take frameLen) with
          | none => (sequences, packet, false)
          | some framed => (sequences, packet.write packet.start framed, true)

/-- The reading task of the bridge, between two pops. -/
structure BridgeReader where
  sequences : FlowSequencer
  /-- The latency queue was just found empty, so the bulk queue is next. -/
  latencyEmpty : Bool

/-- One pop of `read_bridge`, and what follows it up to the next pop: a packet is
framed and dispatched, or dropped when it cannot be framed. -/
def readBridge {Mark : Type*} (reader : BridgeReader) (uplink : UplinkBridge Mark) :
    BridgeReader × UplinkBridge Mark × Option (Mark × PacketBuf) :=
  let frame (mark : Mark) (packet : PacketBuf) : BridgeReader × Option (Mark × PacketBuf) :=
    let framed := frameOutboundPacket reader.sequences packet
    ({ sequences := framed.1, latencyEmpty := false },
      if framed.2.2 then some (mark, framed.2.1) else none)
  if reader.latencyEmpty then
    match uplink.queue.pop with
    | none => ({ reader with latencyEmpty := false }, uplink, none)
    | some ((mark, packet), queue) =>
        let framed := frame mark packet
        (framed.1, { uplink with queue := queue }, framed.2)
  else
    match uplink.latency.pop with
    | none => ({ reader with latencyEmpty := true }, uplink, none)
    | some ((mark, packet), latency) =>
        let framed := frame mark packet
        (framed.1, { uplink with latency := latency }, framed.2)

structure ReturnReorder where
  reassembler : FlowReassembler PacketBuf
  ready : List PacketBuf

namespace ReturnReorder

def new : ReturnReorder where
  reassembler := .new
  ready := []

/-- A frame goes through the reorder buffer, any other packet is ready at once.
The time is the one `FlowReassembler::push` reads from its clock. -/
def push (self : ReturnReorder) (packet : PacketBuf) (nowMs : Nat) : ReturnReorder :=
  match FrameHeader.decode packet.asSlice with
  | some (header, _) =>
      match packet.trimFront frameLen with
      | some packet =>
          let pushed := self.reassembler.pushAt header packet nowMs
          { reassembler := pushed.1, ready := self.ready ++ pushed.2 }
      | none => self
  | none => { self with ready := self.ready ++ [packet] }

def pop (self : ReturnReorder) : ReturnReorder × Option PacketBuf :=
  match self.ready with
  | [] => (self, none)
  | packet :: ready => ({ self with ready := ready }, some packet)

/-- One call of the receiving task. -/
inductive Call where
  | push (packet : PacketBuf) (nowMs : Nat)
  | pop

/-- A call as a step that emits the packets it returns. -/
def call (self : ReturnReorder) : Call → ReturnReorder × List PacketBuf
  | .push packet nowMs => (self.push packet nowMs, [])
  | .pop =>
      let popped := self.pop
      (popped.1, popped.2.toList)

/-- Packet and time of a pushing call. -/
def Call.arrival? : Call → Option (PacketBuf × Nat)
  | .push packet nowMs => some (packet, nowMs)
  | .pop => none

end ReturnReorder

end Csqtt
