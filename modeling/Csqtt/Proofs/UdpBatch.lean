/-
Module: Csqtt.Proofs.UdpBatch
Purpose: The two ways to receive agree exactly as long as no datagram is longer than a read area.
Trusted boundary: none
Main exports: Fits, landed, portableTryRecvConnected_eq, tryRecvMmsg_of_fits,
  batch_equals_portable_iff
-/
import Csqtt.Engine.UdpBatch

namespace Csqtt.UdpBatch

/-- The datagrams that a receive with so many buffers takes fit into them. -/
def Fits (queue : List Datagram) (count : Nat) : Prop :=
  ∀ datagram ∈ queue.take count, datagram.length ≤ readArea

theorem length_data (datagram : Datagram) : (Message.of datagram).data.length ≤ readArea :=
  List.length_take_le _ _

/-- A packet that holds what is left of a datagram. -/
def landed (packet : PacketBuf) (data : List U8) (short : data.length ≤ readArea) : PacketBuf :=
  { land packet data with
    start := packetHeadroom
    stop := packetHeadroom + data.length
    ordered := Nat.le_add_right _ _
    bounded := Nat.add_le_of_le_sub' (by decide) short }

theorem setReadLen_land (packet : PacketBuf) (data : List U8) (short : data.length ≤ readArea) :
    (land packet data).setReadLen data.length = some (landed packet data short) :=
  dif_pos short

/-- The buffers after a receive of what fits. -/
def fill : List PacketBuf → List Datagram → List PacketBuf
  | packet :: packets, datagram :: queue =>
      landed packet (Message.of datagram).data (length_data datagram) :: fill packets queue
  | packets, _ => packets

/-- One by one, every datagram lands, cut or not. -/
theorem portableTryRecvConnected_eq (received : Nat) (queue : List Datagram)
    (packets : List PacketBuf) :
    portableTryRecvConnected received queue packets =
      { result :=
          if packets = [] ∨ queue ≠ [] ∨ 0 < received then
            .ok (received + min packets.length queue.length)
          else .error wouldBlock
        packets := fill packets queue
        queue := queue.drop packets.length } := by
  induction packets generalizing received queue with
  | nil => simp [portableTryRecvConnected, fill]
  | cons packet packets inductionHypothesis =>
      cases queue with
      | nil =>
          by_cases some : 0 < received
          · simp [portableTryRecvConnected, recv, fill, some]
          · simp [portableTryRecvConnected, recv, fill, some]
      | cons datagram queue =>
          rw [portableTryRecvConnected, recv]
          dsimp only
          rw [setReadLen_land packet _ (length_data datagram)]
          simp [inductionHypothesis, fill]
          omega

theorem landAll_map (packets : List PacketBuf) (queue : List Datagram) :
    (landAll packets ((queue.take packets.length).map Message.of)).length = packets.length ∧
      setReadLens (landAll packets ((queue.take packets.length).map Message.of))
        ((queue.take packets.length).map Message.of) = some (fill packets queue) := by
  induction packets generalizing queue with
  | nil => simp [landAll, setReadLens, fill]
  | cons packet packets inductionHypothesis =>
      cases queue with
      | nil => simp [landAll, setReadLens, fill]
      | cons datagram queue =>
          obtain ⟨length, lens⟩ := inductionHypothesis queue
          rw [List.length_cons, List.take_succ_cons, List.map_cons, landAll, List.length_cons,
            setReadLens, setReadLen_land packet _ (length_data datagram), lens, length]
          exact ⟨rfl, rfl⟩

theorem refusal_eq_none_iff (queue : List Datagram) (count : Nat) :
    refusal ((queue.take count).map Message.of) = none ↔ Fits queue count := by
  rw [refusal, List.findSome?_eq_none_iff, List.forall_mem_map]
  refine forall₂_congr fun datagram _ => ?_
  have length : ¬ (Message.of datagram).data.length > packetCapacity - packetHeadroom :=
    Nat.not_lt_of_le (length_data datagram)
  rw [if_neg length]
  by_cases cut : readArea < datagram.length
  · have trunc : (Message.of datagram).trunc = true := decide_eq_true cut
    simp [trunc, cut]
  · have trunc : (Message.of datagram).trunc = false := decide_eq_false cut
    simp [trunc, Nat.le_of_not_lt cut]

/-- In a batch everything lands if everything fits. -/
theorem tryRecvMmsg_of_fits {queue : List Datagram} {packets : List PacketBuf}
    (fits : Fits queue packets.length) :
    tryRecvMmsg queue packets = portableTryRecvConnected 0 queue packets := by
  obtain ⟨length, lens⟩ := landAll_map packets queue
  rw [portableTryRecvConnected_eq, tryRecvMmsg]
  cases packets with
  | nil => simp [fill]
  | cons packet packets =>
      rw [List.isEmpty_cons, if_neg Bool.false_ne_true, recvMmsg]
      cases queue with
      | nil => simp [fill]
      | cons datagram queue =>
          rw [List.isEmpty_cons, if_neg Bool.false_ne_true]
          dsimp only
          rw [(refusal_eq_none_iff _ _).mpr fits, lens, length, List.length_map, List.length_take,
            if_neg (Nat.not_lt_of_le (Nat.min_le_left _ _))]
          simp

/-- Otherwise nothing of the batch is received. -/
theorem tryRecvMmsg_of_not_fits {queue : List Datagram} {packets : List PacketBuf}
    (cut : ¬ Fits queue packets.length) :
    ∃ text, (tryRecvMmsg queue packets).result = .error ⟨.invalidData, text⟩ := by
  have offered : packets ≠ [] := by
    rintro rfl
    exact cut fun _ mem => absurd mem List.not_mem_nil
  have waiting : queue ≠ [] := by
    rintro rfl
    exact cut fun _ mem => by simp at mem
  obtain ⟨length, -⟩ := landAll_map packets queue
  obtain ⟨text, refused⟩ : ∃ text,
      refusal ((queue.take packets.length).map Message.of) = some text :=
    Option.ne_none_iff_exists'.mp fun none => cut ((refusal_eq_none_iff _ _).mp none)
  refine ⟨text, ?_⟩
  rw [tryRecvMmsg, if_neg (mt List.isEmpty_iff.mp offered), recvMmsg,
    if_neg (mt List.isEmpty_iff.mp waiting)]
  dsimp only
  rw [refused, length, List.length_map, List.length_take,
    if_neg (Nat.not_lt_of_le (Nat.min_le_left _ _))]

/-- Nothing is refused one by one. -/
theorem portableTryRecvConnected_result (queue : List Datagram) (packets : List PacketBuf)
    (text : String) :
    (portableTryRecvConnected 0 queue packets).result ≠ .error ⟨.invalidData, text⟩ := by
  rw [portableTryRecvConnected_eq]
  dsimp only
  split
  · exact nofun
  · intro same
    cases same

/-- The datagrams that the receive takes fit; one with too many buffers takes none. -/
def Within (self : Receiver) (call : ReceiveCall) : Prop :=
  self.failed = false → call.packets.length ≤ maxDatagrams →
    Fits (self.queue ++ call.arrived) call.packets.length

section Step

variable {self : Receiver} {call : ReceiveCall}

theorem step_of_within (fits : Within self call) :
    self.step true call = self.step false call := by
  rw [Receiver.step, Receiver.step]
  cases failed : self.failed with
  | true => rfl
  | false =>
      have same : tryRecvConnected true (self.queue ++ call.arrived) call.packets =
          tryRecvConnected false (self.queue ++ call.arrived) call.packets := by
        rw [tryRecvConnected, tryRecvConnected]
        split
        · next few => exact tryRecvMmsg_of_fits (fits failed few)
        · rfl
      rw [same]

theorem step_of_not_within (cut : ¬ Within self call) :
    (self.step true call).2 ≠ (self.step false call).2 := by
  rw [Within] at cut
  push Not at cut
  obtain ⟨failed, few, cut⟩ := cut
  obtain ⟨text, refused⟩ := tryRecvMmsg_of_not_fits cut
  have delivers := portableTryRecvConnected_result (self.queue ++ call.arrived) call.packets text
  rw [Receiver.step, Receiver.step, failed, if_neg Bool.false_ne_true, if_neg Bool.false_ne_true,
    tryRecvConnected, tryRecvConnected, if_pos few, if_pos few, if_pos rfl,
    if_neg Bool.false_ne_true]
  dsimp only
  rw [refused]
  generalize portableTryRecvConnected 0 (self.queue ++ call.arrived) call.packets = portable
    at delivers ⊢
  cases result : portable.result with
  | ok count =>
      intro same
      cases same
  | error error =>
      intro same
      cases same
      exact delivers result

end Step

/-- Over any arrivals and any receives, both ways deliver and report the same exactly when no
receive takes a datagram that does not fit. -/
theorem batch_equals_portable_iff (self : Receiver) (calls : List ReceiveCall) :
    (Transducer.run (Receiver.step true) self calls).2 =
        (Transducer.run (Receiver.step false) self calls).2 ↔
      Transducer.AtEveryStep (Receiver.step false) self calls Within := by
  induction calls generalizing self with
  | nil => exact ⟨fun _ => Transducer.atEveryStep_nil _, fun _ => rfl⟩
  | cons call calls inductionHypothesis =>
      rw [Transducer.run_cons, Transducer.run_cons, Transducer.atEveryStep_cons, List.cons_eq_cons]
      by_cases fits : Within self call
      · rw [step_of_within fits, inductionHypothesis]
        simp only [fits, true_and]
      · simp only [fits, false_and, iff_false, not_and]
        exact fun same => absurd same (step_of_not_within fits)

/-- A datagram of 3000 bytes between two of one byte, and 16 buffers. -/
def oversizedBetween : ReceiveCall where
  arrived := [[1], List.replicate 3000 0, [2]]
  packets := List.replicate 16 (.acquired _ length_zeros)

theorem batch_refuses_neighbours :
    (Transducer.run (Receiver.step true) ⟨[], false⟩ [oversizedBetween]).2 ≠
      (Transducer.run (Receiver.step false) ⟨[], false⟩ [oversizedBetween]).2 := by
  intro same
  refine step_of_not_within (fun fits => ?_) (List.cons.inj same).1
  have short := fits rfl (by decide) (List.replicate 3000 0)
    (List.mem_cons_of_mem _ List.mem_cons_self)
  rw [List.length_replicate] at short
  exact absurd short (by decide)

end Csqtt.UdpBatch
