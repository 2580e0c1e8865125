/-
Module: Csqtt.Proofs.UplinkRun
Purpose: The uplink as a state machine, injections on one side and the pops of the
  reading task on the other, with what one step can do and what every run keeps.
Trusted boundary: none
Main exports: Uplink, UplinkEvent, Uplink.step, inject_spec, read_spec, framed
-/
import Csqtt.Proofs.OutboundFraming

namespace Csqtt

open Transducer

structure Uplink (Mark : Type*) where
  bridge : UplinkBridge Mark
  reader : BridgeReader

/-- A packet is injected, the bridge is cancelled, or the reading task pops once. -/
inductive UplinkEvent (Mark : Type*) where
  | inject (mark : Mark) (data : List U8) (storage : Option Storage)
  | cancel
  | read

namespace Uplink

variable {Mark Mark' : Type*}

def start (senderId : U64) : Uplink Mark where
  bridge := .new
  reader := { sequences := .withSenderId senderId, latencyEmpty := false }

/-- An event as a step that emits the packet it dispatches. -/
def step (self : Uplink Mark) : UplinkEvent Mark → Uplink Mark × List (Mark × PacketBuf)
  | .inject mark data storage =>
      match (injectPacket (some self.bridge) mark data storage).1 with
      | some bridge => ({ self with bridge := bridge }, [])
      | none => (self, [])
  | .cancel => ({ self with bridge := { self.bridge with cancelled := true } }, [])
  | .read =>
      let read := readBridge self.reader self.bridge
      ({ bridge := read.2.1, reader := read.1 }, read.2.2.toList)

/-- All queued packets. -/
def queued (self : Uplink Mark) : List (Mark × PacketBuf) :=
  self.bridge.latency.items ++ self.bridge.queue.items

/-- The queue that the next pop takes from. -/
def next (self : Uplink Mark) : List (Mark × PacketBuf) :=
  if self.reader.latencyEmpty then self.bridge.queue.items else self.bridge.latency.items

/-- What waits in the other queue meanwhile. -/
def waiting (self : Uplink Mark) : List (Mark × PacketBuf) :=
  if self.reader.latencyEmpty then self.bridge.latency.items else self.bridge.queue.items

end Uplink

/-- A buffer holds the data read into it, behind the headroom. -/
theorem readInto_spec {storage : Storage} {data : List U8} {packet : PacketBuf}
    (read : readInto storage data = some packet) :
    packet.asSlice = data ∧ packet.start = packetHeadroom := by
  simp only [readInto, PacketBuf.setReadLen] at read
  split at read
  · rename_i fits
    obtain rfl := Option.some.inj read
    refine ⟨?_, rfl⟩
    apply List.ext_getElem?
    intro index
    rw [PacketBuf.getElem?_asSlice]
    by_cases inside : index < data.length
    · rw [if_pos (by simp only [PacketBuf.len]; omega)]
      have stored := @PacketBuf.getElem?_write (packetHeadroom + index)
        (PacketBuf.acquired storage.val storage.property) packetHeadroom data
        (by simp only [packetCapacity, packetHeadroom] at fits ⊢; omega)
      rw [if_pos ⟨by omega, by omega⟩, Nat.add_sub_cancel_left] at stored
      exact stored
    · rw [if_neg (by simp only [PacketBuf.len]; omega), List.getElem?_eq_none (by omega)]
  · simp at read

namespace Uplink

variable {Mark : Type*}

/-- What an injection can do to the queues: nothing, or append the packet to one of
them, the latency queue perhaps giving up its oldest packets. -/
inductive Injects (mark : Mark) (data : List U8) (before : UplinkBridge Mark) :
    UplinkBridge Mark → Prop where
  | refused : Injects mark data before before
  | latency {after : UplinkBridge Mark} {packet : PacketBuf} (dropped : Nat)
      (content : packet.asSlice = data) (start : packet.start = packetHeadroom)
      (appended : after.latency.items = before.latency.items.drop dropped ++ [(mark, packet)])
      (other : after.queue = before.queue) : Injects mark data before after
  | bulk {after : UplinkBridge Mark} {packet : PacketBuf}
      (content : packet.asSlice = data) (start : packet.start = packetHeadroom)
      (appended : after.queue.items = before.queue.items ++ [(mark, packet)])
      (other : after.latency = before.latency) : Injects mark data before after

theorem enqueueUplink_spec (self : UplinkBridge Mark) (mark : Mark) {packet : PacketBuf}
    {data : List U8} (content : packet.asSlice = data) (start : packet.start = packetHeadroom) :
    Injects mark data self (self.enqueueUplink mark packet).1 := by
  rw [UplinkBridge.enqueueUplink]
  split
  · cases pushed : self.latency.push (mark, packet) with
    | some latency =>
        exact .latency 0 content start (by simpa using ArrayQueue.push_spec pushed) rfl
    | none =>
        cases popped : self.latency.pop with
        | none =>
            -- A queue without an oldest packet is empty, and so not full.
            have empty := ArrayQueue.pop_eq_none.mp popped
            simp [ArrayQueue.push, empty, uplinkLatencyCapacity] at pushed
        | some oldest =>
            obtain ⟨first, rest⟩ := oldest
            have listed := ArrayQueue.pop_spec popped
            have bounded := self.latency.bounded
            rw [listed, List.length_cons] at bounded
            cases again : rest.push (mark, packet) with
            | none =>
                rw [ArrayQueue.push, dif_pos (by omega)] at again
                exact absurd again (by simp)
            | some latency =>
                simp only [again]
                refine .latency 1 content start ?_ rfl
                rw [ArrayQueue.push_spec again, listed]
                rfl
  · cases pushed : self.queue.push (mark, packet) with
    | some queue => exact .bulk content start (ArrayQueue.push_spec pushed) rfl
    | none => exact .refused

theorem inject_spec (self : Uplink Mark) (mark : Mark) (data : List U8)
    (storage : Option Storage) :
    (self.step (.inject mark data storage)).2 = [] ∧
      (self.step (.inject mark data storage)).1.reader = self.reader ∧
      Injects mark data self.bridge (self.step (.inject mark data storage)).1.bridge := by
  simp only [step, injectPacket]
  split
  · rename_i bridge result
    split at result
    · obtain rfl := Option.some.inj result
      exact ⟨rfl, rfl, .refused⟩
    · split at result
      · obtain rfl := Option.some.inj result
        exact ⟨rfl, rfl, .refused⟩
      · cases storage with
        | none =>
            obtain rfl := Option.some.inj result
            exact ⟨rfl, rfl, .refused⟩
        | some storage =>
            cases read : readInto storage data with
            | none =>
                simp only [read] at result
                obtain rfl := Option.some.inj result
                exact ⟨rfl, rfl, .refused⟩
            | some packet =>
                simp only [read] at result
                obtain rfl := Option.some.inj result
                obtain ⟨content, start⟩ := readInto_spec read
                exact ⟨rfl, rfl, enqueueUplink_spec self.bridge mark content start⟩
  · exact ⟨rfl, rfl, .refused⟩

/-- What a pop can do: find the next queue empty and turn to the other one, or take
its oldest packet, frame it and begin anew. -/
inductive Reads (before : Uplink Mark) : Uplink Mark → List (Mark × PacketBuf) → Prop where
  | empty (nothing : before.next = []) :
      Reads before
        { before with
          reader := { before.reader with latencyEmpty := !before.reader.latencyEmpty } } []
  | takes {after : Uplink Mark} {mark : Mark} {packet : PacketBuf}
      {rest : List (Mark × PacketBuf)}
      (first : before.next = (mark, packet) :: rest)
      (latency : after.bridge.latency.items =
        if before.reader.latencyEmpty then before.bridge.latency.items else rest)
      (queue : after.bridge.queue.items =
        if before.reader.latencyEmpty then rest else before.bridge.queue.items)
      (anew : after.reader.latencyEmpty = false)
      (numbered : after.reader.sequences =
        (frameOutboundPacket before.reader.sequences packet).1) :
      Reads before after
        (if (frameOutboundPacket before.reader.sequences packet).2.2 then
          [(mark, (frameOutboundPacket before.reader.sequences packet).2.1)] else [])

theorem read_spec (self : Uplink Mark) :
    Reads self (self.step .read).1 (self.step .read).2 := by
  have output (framed : Bool) (entry : Mark × PacketBuf) :
      (if framed then some entry else none).toList = if framed then [entry] else [] := by
    cases framed <;> rfl
  simp only [step, readBridge]
  cases phase : self.reader.latencyEmpty with
  | true =>
      cases popped : self.bridge.queue.pop with
      | none =>
          have nothing : self.next = [] := by
            simp only [next, phase, if_true, ArrayQueue.pop_eq_none.mp popped]
          have idle := Reads.empty nothing
          rw [phase] at idle
          exact idle
      | some entry =>
          obtain ⟨⟨mark, packet⟩, queue⟩ := entry
          have listed := ArrayQueue.pop_spec popped
          simp only [if_true, output]
          refine @Reads.takes _ self _ mark packet queue.items ?_ ?_ ?_ rfl rfl
          · simp only [next, phase, if_true, listed]
          · simp only [phase, if_true]
          · simp only [phase, if_true]
  | false =>
      cases popped : self.bridge.latency.pop with
      | none =>
          have nothing : self.next = [] := by
            simp only [next, phase, Bool.false_eq_true, if_false,
              ArrayQueue.pop_eq_none.mp popped]
          have idle := Reads.empty nothing
          rw [phase] at idle
          exact idle
      | some entry =>
          obtain ⟨⟨mark, packet⟩, latency⟩ := entry
          have listed := ArrayQueue.pop_spec popped
          simp only [Bool.false_eq_true, if_false, output]
          refine @Reads.takes _ self _ mark packet latency.items ?_ ?_ ?_ rfl rfl
          · simp only [next, phase, Bool.false_eq_true, if_false, listed]
          · simp only [phase, Bool.false_eq_true, if_false]
          · simp only [phase, Bool.false_eq_true, if_false]

/-!
### Marks
-/

variable {Mark' : Type*}

def map (f : Mark → Mark') (self : Uplink Mark) : Uplink Mark' where
  bridge :=
    { queue := self.bridge.queue.map (Prod.map f id)
      latency := self.bridge.latency.map (Prod.map f id)
      cancelled := self.bridge.cancelled }
  reader := self.reader

end Uplink

def UplinkEvent.map {Mark Mark' : Type*} (f : Mark → Mark') :
    UplinkEvent Mark → UplinkEvent Mark'
  | .inject mark data storage => .inject (f mark) data storage
  | .cancel => .cancel
  | .read => .read

namespace Uplink

variable {Mark Mark' : Type*}

theorem enqueueUplink_map (f : Mark → Mark') (self : Uplink Mark) (mark : Mark)
    (packet : PacketBuf) :
    (self.map f).bridge.enqueueUplink (f mark) packet =
      ((map f { self with bridge := (self.bridge.enqueueUplink mark packet).1 }).bridge,
        (self.bridge.enqueueUplink mark packet).2) := by
  have pushLatency := ArrayQueue.push_map (Prod.map f id) self.bridge.latency (mark, packet)
  have pushQueue := ArrayQueue.push_map (Prod.map f id) self.bridge.queue (mark, packet)
  have pop := ArrayQueue.pop_map (Prod.map f id) self.bridge.latency
  simp only [Prod.map_apply, id_eq] at pushLatency pushQueue pop
  simp only [UplinkBridge.enqueueUplink, map]
  split
  · rw [pushLatency]
    cases self.bridge.latency.push (mark, packet) with
    | some latency => rfl
    | none =>
        simp only [Option.map_none, pop]
        cases self.bridge.latency.pop with
        | none =>
            simp only [Option.map_none, pushLatency]
            cases self.bridge.latency.push (mark, packet) <;> rfl
        | some oldest =>
            have again := ArrayQueue.push_map (Prod.map f id) oldest.2 (mark, packet)
            simp only [Prod.map_apply, id_eq] at again
            simp only [Option.map_some, again]
            cases oldest.2.push (mark, packet) <;> rfl
  · rw [pushQueue]
    cases self.bridge.queue.push (mark, packet) <;> rfl

private theorem dispatched_map (f : Mark → Mark') (framed : Bool) (mark : Mark)
    (packet : PacketBuf) :
    (if framed then some (f mark, packet) else none).toList =
      (if framed then some (mark, packet) else none).toList.map (Prod.map f id) := by
  cases framed <;> rfl

theorem step_map (f : Mark → Mark') (self : Uplink Mark) (event : UplinkEvent Mark) :
    (self.map f).step (event.map f) =
      ((self.step event).1.map f, (self.step event).2.map (Prod.map f id)) := by
  cases event with
  | inject mark data storage =>
      simp only [UplinkEvent.map, step, injectPacket]
      by_cases invalid : data.isEmpty ∨ packetCapacity - packetHeadroom < data.length
      · simp only [invalid, if_true]
        rfl
      · simp only [invalid, if_false]
        have sameFlag : (self.map f).bridge.cancelled = self.bridge.cancelled := rfl
        rw [sameFlag]
        cases self.bridge.cancelled with
        | true => rfl
        | false =>
            cases storage with
            | none => rfl
            | some storage =>
                cases read : readInto storage data with
                | none =>
                    simp only [Bool.false_eq_true, if_false, read]
                    rfl
                | some packet =>
                    simp only [Bool.false_eq_true, if_false, read, enqueueUplink_map]
                    rfl
  | cancel => rfl
  | read =>
      obtain ⟨⟨queue, latency, cancelled⟩, ⟨sequences, phase⟩⟩ := self
      have popLatency := ArrayQueue.pop_map (Prod.map f id) latency
      have popQueue := ArrayQueue.pop_map (Prod.map f id) queue
      simp only [UplinkEvent.map, step, readBridge, map]
      cases phase with
      | true =>
          simp only [if_true, popQueue]
          cases queue.pop with
          | none => rfl
          | some entry =>
              simp only [Option.map_some, Prod.map, id_eq]
              exact congrArg (Prod.mk _) (dispatched_map f _ entry.1.1 _)
      | false =>
          simp only [Bool.false_eq_true, if_false, popLatency]
          cases latency.pop with
          | none => rfl
          | some entry =>
              simp only [Option.map_some, Prod.map, id_eq]
              exact congrArg (Prod.mk _) (dispatched_map f _ entry.1.1 _)

theorem run_map (f : Mark → Mark') (self : Uplink Mark) (events : List (UplinkEvent Mark)) :
    run step (self.map f) (events.map (UplinkEvent.map f)) =
      ((run step self events).1.map f,
        (run step self events).2.map (List.map (Prod.map f id))) := by
  induction events generalizing self with
  | nil => rfl
  | cons event events inductionHypothesis =>
      simp only [List.map_cons, run_cons, step_map, inductionHypothesis]

end Uplink

/-- The mark of an injection in a run: its position, and its data. -/
structure Injection where
  number : Nat
  data : List U8
deriving DecidableEq, Repr

/-- Flow of an injected packet. -/
def Injection.flow (self : Injection) : Option U64 :=
  tcpFlowId self.data

/-- The event with the mark of its position. -/
def UplinkEvent.numbered (number : Nat) : UplinkEvent Unit → UplinkEvent Injection
  | .inject _ data storage => .inject { number := number, data := data } data storage
  | .cancel => .cancel
  | .read => .read

namespace Uplink

/-- The events of a run, its injections told apart. -/
def numbered (events : List (UplinkEvent Unit)) : List (UplinkEvent Injection) :=
  events.zipIdx.map fun (event, number) => event.numbered number

/-- The packets a run dispatches, in order, each with the injection it comes from. -/
def framed (senderId : U64) (events : List (UplinkEvent Unit)) : List (Injection × PacketBuf) :=
  (run step (start senderId) (numbered events)).2.flatten

/-- Telling the injections apart does not change what is dispatched. -/
theorem framed_packets (senderId : U64) (events : List (UplinkEvent Unit)) :
    (framed senderId events).map Prod.snd =
      (run step (start senderId) events).2.flatten.map Prod.snd := by
  have unmarked : (numbered events).map (UplinkEvent.map fun _ => ()) = events := by
    rw [numbered, List.map_map]
    have same : (UplinkEvent.map fun _ => ()) ∘ (fun (event, number) =>
        UplinkEvent.numbered number event) = (Prod.fst : UplinkEvent Unit × Nat → _) := by
      funext entry
      obtain ⟨event, number⟩ := entry
      cases event <;> rfl
    rw [same, List.zipIdx_map_fst]
  have natural := run_map (fun _ => ()) (start senderId : Uplink Injection) (numbered events)
  rw [unmarked] at natural
  have begins : (start senderId : Uplink Injection).map (fun _ => ()) = start senderId := rfl
  rw [begins] at natural
  rw [natural, framed, ← List.map_flatten, List.map_map]
  rfl

end Uplink

end Csqtt
