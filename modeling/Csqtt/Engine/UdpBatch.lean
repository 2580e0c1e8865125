/-
Module: Csqtt.Engine.UdpBatch
Purpose: Receiving datagrams in a batch and one by one, and the driver that receives.
Trusted boundary: the system calls: a datagram longer than its buffer is cut, and a message of a
  batch tells so; a socket without datagrams would block
Main exports: IoError, Message, recv, recvMmsg, portableTryRecvConnected, tryRecvMmsg,
  tryRecvConnected, Receiver, Receiver.step
-/
import Csqtt.Core.Transducer
import Csqtt.Engine.Packet

namespace Csqtt

inductive IoErrorKind where
  | wouldBlock
  | invalidInput
  | invalidData
deriving DecidableEq, Repr

structure IoError where
  kind : IoErrorKind
  text : String
deriving DecidableEq, Repr

namespace UdpBatch

def maxDatagrams : Nat := 128

/-- The room of a read area. -/
def readArea : Nat := packetCapacity - packetHeadroom

abbrev Datagram := List U8

/-- What the kernel leaves of a datagram in a buffer, and whether it had to cut it. -/
structure Message where
  data : List U8
  trunc : Bool
deriving DecidableEq, Repr

def Message.of (datagram : Datagram) : Message where
  data := datagram.take readArea
  trunc := readArea < datagram.length

/-- One datagram off the socket. -/
def recv : List Datagram → Option (List U8 × List Datagram)
  | [] => none
  | datagram :: queue => some ((Message.of datagram).data, queue)

/-- As many messages as there are buffers and datagrams. -/
def recvMmsg (count : Nat) (queue : List Datagram) : Option (List Message × List Datagram) :=
  if queue.isEmpty then none else some ((queue.take count).map Message.of, queue.drop count)

def wouldBlock : IoError := ⟨.wouldBlock, "operation would block"⟩

/-- What a receive returns, the buffers after it and what the socket still holds. -/
structure Received where
  result : Except IoError Nat
  packets : List PacketBuf
  queue : List Datagram

/-- What the kernel writes into a packet's read area. -/
def land (packet : PacketBuf) (data : List U8) : PacketBuf := packet.write packetHeadroom data

def portableTryRecvConnected (received : Nat) (queue : List Datagram) :
    List PacketBuf → Received
  | [] => ⟨.ok received, [], queue⟩
  | packet :: packets =>
      match recv queue with
      | some (data, queue) =>
          match (land packet data).setReadLen data.length with
          | some packet =>
              let rest := portableTryRecvConnected (received + 1) queue packets
              { rest with packets := packet :: rest.packets }
          | none =>
              ⟨.error ⟨.invalidData, "packet read length exceeds capacity"⟩,
                land packet data :: packets, queue⟩
      | none =>
          ⟨if received > 0 then .ok received else .error wouldBlock, packet :: packets, queue⟩

def landAll : List PacketBuf → List Message → List PacketBuf
  | packet :: packets, message :: messages =>
      land packet message.data :: landAll packets messages
  | packets, _ => packets

def setReadLens : List PacketBuf → List Message → Option (List PacketBuf)
  | packet :: packets, message :: messages =>
      match packet.setReadLen message.data.length, setReadLens packets messages with
      | some packet, some packets => some (packet :: packets)
      | _, _ => none
  | packets, _ => some packets

/-- The first message that the batch is refused for. -/
def refusal (messages : List Message) : Option String :=
  messages.findSome? fun message =>
    if message.trunc then some "received UDP datagram exceeds PacketBuf capacity"
    else if message.data.length > packetCapacity - packetHeadroom then
      some "recvmmsg reported an invalid UDP datagram length"
    else none

def tryRecvMmsg (queue : List Datagram) (packets : List PacketBuf) : Received :=
  if packets.isEmpty then ⟨.ok 0, packets, queue⟩
  else
    match recvMmsg packets.length queue with
    | none => ⟨.error wouldBlock, packets, queue⟩
    | some (messages, queue) =>
        let packets := landAll packets messages
        if messages.length > packets.length then
          ⟨.error ⟨.invalidData, "recvmmsg returned more datagrams than requested"⟩, packets, queue⟩
        else
          match refusal messages with
          | some text => ⟨.error ⟨.invalidData, text⟩, packets, queue⟩
          | none =>
              match setReadLens packets messages with
              | some packets => ⟨.ok messages.length, packets, queue⟩
              | none =>
                  ⟨.error ⟨.invalidData, "packet read length exceeds capacity"⟩, packets, queue⟩

def batchTooLong (length : Nat) : IoError :=
  ⟨.invalidInput,
    "UDP batch contains " ++ toString length ++ " datagrams; limit is " ++ toString maxDatagrams⟩

/-- `mmsg` tells whether the system has `recvmmsg`. -/
def tryRecvConnected (mmsg : Bool) (queue : List Datagram) (packets : List PacketBuf) : Received :=
  if packets.length ≤ maxDatagrams then
    if mmsg then tryRecvMmsg queue packets else portableTryRecvConnected 0 queue packets
  else ⟨.error (batchTooLong packets.length), packets, queue⟩

/-- The driver of an allocation, as far as it receives: an error fails the allocation. -/
structure Receiver where
  queue : List Datagram
  failed : Bool
deriving DecidableEq, Repr

/-- A receive: what has arrived since the last one, and the buffers. -/
structure ReceiveCall where
  arrived : List Datagram
  packets : List PacketBuf

/-- The output is what the receive delivers or reports, unless the allocation has failed. -/
def Receiver.step (mmsg : Bool) (self : Receiver) (call : ReceiveCall) :
    Receiver × Option (Except IoError (List (List U8))) :=
  if self.failed then (self, none)
  else
    let received := tryRecvConnected mmsg (self.queue ++ call.arrived) call.packets
    match received.result with
    | .ok count =>
        (⟨received.queue, false⟩, some (.ok ((received.packets.take count).map PacketBuf.asSlice)))
    | .error error => (⟨received.queue, error.kind ≠ .wouldBlock⟩, some (.error error))

end UdpBatch

end Csqtt
