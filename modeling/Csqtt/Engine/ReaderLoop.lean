/-
Module: Csqtt.Engine.ReaderLoop
Purpose: The reader of a session: which packets of the relay are authentic, and what it does
  with each of them.
Trusted boundary: whether the receiver of a configuration still takes it
Main exports: authenticateInbound, TransportReader, ShutdownState, observeControlResponse,
  ReaderLoop, ReaderEffect, step
-/
import Csqtt.Engine.FlowFrame
import Csqtt.Engine.Goodbye
import Csqtt.Engine.Idle
import Csqtt.Engine.ObfsUnwrap
import Csqtt.Engine.Protocol
import Csqtt.Engine.ReplayWindow

namespace Csqtt

def isRtpPacket (wire : List U8) : Bool :=
  let payloadType := byteAt wire 1 &&& 0x7f
  decide (13 ≤ wire.length) && byteAt wire 0 >>> 6 == 2 &&
    (payloadType == 111 || payloadType == 96 || payloadType == 6)

/-- The packet as it is left, and whether it is unwrapped under a number that is not used up. -/
def authenticateInbound (cipher : OpeningCipher) (config : ObfsConfig) (replay : ReplayWindow)
    (packet : PacketBuf) : (ReplayWindow × PacketBuf) × Bool :=
  if isRtpPacket packet.asSlice then
    match unwrap cipher packet config.mode with
    | (unwrapped, .ok sequence) =>
        let accepted := replay.acceptRtp sequence
        ((accepted.1, unwrapped), accepted.2)
    | (unwrapped, .error _) => ((replay, unwrapped), false)
  else ((replay, packet), false)

/-- The reading half of a transport. -/
structure TransportReader where
  replay : ReplayWindow

namespace TransportReader

def new : TransportReader where
  replay := .new

section Receive

variable (cipher : OpeningCipher) (config : ObfsConfig)

/-- Take packets off what the relay hands on, up to the first authentic one. `none` when it
waits for more. -/
def recv (self : TransportReader) :
    List PacketBuf → TransportReader × Option (PacketBuf × List PacketBuf)
  | [] => (self, none)
  | packet :: incoming =>
      match authenticateInbound cipher config self.replay packet with
      | ((replay, packet), true) => ({ self with replay := replay }, some (packet, incoming))
      | ((replay, _), false) => recv { self with replay := replay } incoming

end Receive

end TransportReader

/-- A disconnect that is under way, or answered. -/
structure ShutdownState where
  active : Bool
  completed : Bool
deriving DecidableEq, Repr

/-- The first answer to a disconnect completes it. -/
def ShutdownState.observeControlResponse (self : ShutdownState) (response : List U8) :
    ShutdownState × Bool :=
  if response ≠ asciiBytes "OK:disconnected" ∧ !(asciiBytes "DENIED:").isPrefixOf response then
    (self, false)
  else if !self.active || self.completed then (self, false)
  else ({ self with completed := true }, true)

structure ReaderLoop where
  repair : RepairState
  shutdown : ShutdownState
deriving DecidableEq, Repr

/-- A packet, and the idle state as it is then. -/
structure Inbound where
  packet : PacketBuf
  idle : Idle

/-- What becomes of a packet: an event, an applied command, an answer that completes the
disconnect, a configuration for the one who waits for it, nothing, or a packet for the
dispatcher. -/
inductive ReaderEffect where
  | panelRestart
  | repaired (workerIds : List U16) (result : RepairApplyResult)
  | alive (applied : Nat)
  | completed
  | config (sent : Option String)
  | ignored
  | returned (packet : PacketBuf)

namespace ReaderLoop

/-- Workers that the idle mode has parked are not restarted. -/
def retain (idle : Idle) (command : StreamRepairCommand) : StreamRepairCommand :=
  { command with workerIds := command.workerIds.filter fun id => idle.allows id.toNat }

def step (self : ReaderLoop) (inbound : Inbound) : ReaderLoop × ReaderEffect :=
  let response := inbound.packet.asSlice
  if isPanelRestartNotice response then (self, .panelRestart)
  else
    match parseStreamRepair response with
    | some command =>
        let command := retain inbound.idle command
        let applied := self.repair.applyRepair command
        ({ self with repair := applied.1 }, .repaired command.workerIds applied.2)
    | none =>
        match parseStreamAlive response with
        | some command =>
            let applied := self.repair.applyAlive command
            ({ self with repair := applied.1 }, .alive applied.2)
        | none =>
            let observed := self.shutdown.observeControlResponse response
            if observed.2 then ({ self with shutdown := observed.1 }, .completed)
            else if (asciiBytes "TUNCONF:").isPrefixOf response then
              (self, .config
                (match parseConfigResponse response with
                  | .ok (.config text) => some text
                  | _ => none))
            else if isControlResponse response then (self, .ignored)
            else (self, .returned inbound.packet)

end ReaderLoop

end Csqtt
