/-
Module: Csqtt.Proofs.TurnIngress
Purpose: Each payload of a relay client reaches the reader of the session once and in order or is
  lost for one of the known reasons.
Trusted boundary: none
Main exports: Ledger, Booked, Ledger.Kept, booked_step, kept_reached, ingress_conserves
-/
import Csqtt.Engine.TurnIngress

namespace Csqtt

open scoped List

/-!
### What has become of each payload
-/

/-- The payloads that were sent into the channel, those that were read from the stash and those
that are held there, the one at hand, those that were lost, all that came, the count of those lost
to a full channel, and whether nobody reads any more. -/
structure Ledger where
  channel : List Numbered
  read : List Numbered
  held : List Numbered
  hand : List Numbered
  lost : List (Numbered × IngressLoss)
  arrived : List PacketBuf
  fullDrops : Nat
  gone : Bool

namespace Ledger

/-- All that came into the stash, those that had to leave it last. -/
def stashed (self : Ledger) : List Numbered :=
  self.read ++ self.held ++
    (self.lost.filter fun loss => loss.2 = .evicted).map Prod.fst

/-- What a step does to the ledger. -/
inductive Booked (self : Ledger) : Ledger → Prop
  | same : Booked self self
  | arrives (payload : PacketBuf) (free : self.hand = []) :
      Booked self
        { self with
          hand := [(payload, self.arrived.length)]
          arrived := self.arrived ++ [payload] }
  | sent (packet : Numbered) (hand : self.hand = [packet]) :
      Booked self
        { self with
          channel := self.channel ++ [packet]
          hand := [] }
  | full (packet : Numbered) (hand : self.hand = [packet])
      (plain : keepUnderPressure packet.1.asSlice = false) :
      Booked self
        { self with
          hand := []
          lost := self.lost ++ [(packet, .full)]
          fullDrops := self.fullDrops + 1 }
  | closed (packet : Numbered) (hand : self.hand = [packet]) (gone : self.gone = true) :
      Booked self
        { self with
          hand := []
          lost := self.lost ++ [(packet, .closed)] }
  | stashed (packet : Numbered) (count : Nat) (hand : self.hand = [packet])
      (kept : keepUnderPressure packet.1.asSlice = true)
      (room : self.held.length + 1 = count + protectedIncoming ∨
        count = 0 ∧ self.held.length < protectedIncoming) :
      Booked self
        { self with
          held := self.held.drop count ++ [packet]
          hand := []
          lost := self.lost ++ (self.held.take count).map fun packet => (packet, .evicted) }
  | taken (packet : Numbered) (rest : List Numbered) (held : self.held = packet :: rest) :
      Booked self
        { self with
          read := self.read ++ [packet]
          held := rest }
  | dropped (front back : List Numbered) (channel : self.channel = front ++ back) :
      Booked self
        { self with
          channel := front
          lost := self.lost ++ back.map fun packet => (packet, .closed)
          gone := true }

/-- Each payload stands in one place, each of the two ways keeps the order, and what was lost was
lost for its reason. -/
structure Kept (ledger : Ledger) : Prop where
  whole : ledger.channel ++ (ledger.read ++ ledger.held) ++ ledger.hand ++
    ledger.lost.map Prod.fst ~ ledger.arrived.zipIdx
  channelOrder : (ledger.channel.map Prod.snd).Pairwise (· < ·)
  stashOrder : ((ledger.read ++ ledger.held).map Prod.snd).Pairwise (· < ·)
  last : ∀ packet ∈ ledger.hand, packet.2 + 1 = ledger.arrived.length
  room : ledger.held.length ≤ protectedIncoming
  full : ∀ packet, (packet, .full) ∈ ledger.lost →
    keepUnderPressure packet.1.asSlice = false
  counted : ledger.fullDrops = ledger.lost.countP fun loss => loss.2 = .full
  closed : ∀ packet, (packet, .closed) ∈ ledger.lost → ledger.gone = true
  kept : ∀ packet ∈ ledger.stashed, keepUnderPressure packet.1.asSlice = true
  evicted : ∀ packet, (packet, .evicted) ∈ ledger.lost →
    protectedIncoming ≤ ledger.stashed.countP fun other => packet.2 < other.2

variable {self later : Ledger}

/-- The payload at hand is the last one that came. -/
theorem Kept.lt_of_hand (kept : self.Kept) {packet other : Numbered} (hand : self.hand = [packet])
    (mem : other ∈ self.channel ++ (self.read ++ self.held)) : other.2 < packet.2 := by
  have last := kept.last packet (hand ▸ List.mem_singleton_self packet)
  have inside : other ∈ self.arrived.zipIdx := by
    refine kept.whole.mem_iff.mp ?_
    exact List.mem_append_left _ (List.mem_append_left _ mem)
  have bound : other.2 < self.arrived.length := by
    obtain ⟨payload, index⟩ := other
    exact (List.mem_zipIdx' inside).1
  have distinct : ((self.channel ++ (self.read ++ self.held) ++ self.hand ++
      self.lost.map Prod.fst).map Prod.snd).Nodup := by
    refine (kept.whole.map Prod.snd).nodup_iff.mpr ?_
    rw [List.zipIdx_map_snd]
    exact List.nodup_range'
  have apart : other.2 ≠ packet.2 := by
    rw [hand, List.map_append, List.map_append] at distinct
    have front := (List.nodup_append.mp distinct).1
    exact (List.nodup_append.mp front).2.2 _ (List.mem_map_of_mem mem) _
      (List.mem_map_of_mem (List.mem_singleton_self packet))
  omega

section Losses

variable (packets : List Numbered) (lost : List (Numbered × IngressLoss)) (reason : IngressLoss)

theorem fst_losses : (packets.map fun packet => (packet, reason)).map Prod.fst = packets := by
  rw [List.map_map]
  exact List.map_id packets

theorem evicted_losses (other : reason ≠ .evicted) :
    (lost ++ packets.map fun packet => (packet, reason)).filter (fun loss => loss.2 = .evicted) =
      lost.filter fun loss => loss.2 = .evicted := by
  rw [List.filter_append, List.append_right_eq_self, List.filter_eq_nil_iff]
  intro loss mem
  obtain ⟨packet, _, rfl⟩ := List.mem_map.mp mem
  simpa using other

theorem full_losses (other : reason ≠ .full) :
    (lost ++ packets.map fun packet => (packet, reason)).countP (fun loss => loss.2 = .full) =
      lost.countP fun loss => loss.2 = .full := by
  rw [List.countP_append, Nat.add_eq_left, List.countP_eq_zero]
  intro loss mem
  obtain ⟨packet, _, rfl⟩ := List.mem_map.mp mem
  simpa using other

variable {packets lost reason}

theorem mem_losses {packet : Numbered} {loss : IngressLoss}
    (mem : (packet, loss) ∈ lost ++ packets.map fun packet => (packet, reason)) :
    (packet, loss) ∈ lost ∨ packet ∈ packets ∧ loss = reason := by
  rcases List.mem_append.mp mem with before | new
  · exact Or.inl before
  · obtain ⟨other, among, same⟩ := List.mem_map.mp new
    obtain ⟨rfl, rfl⟩ := Prod.mk.inj same
    exact Or.inr ⟨among, rfl⟩

end Losses

/-- One more number behind all the others. -/
theorem pairwise_concat {packets : List Numbered} {packet : Numbered}
    (order : (packets.map Prod.snd).Pairwise (· < ·))
    (later : ∀ other ∈ packets, other.2 < packet.2) :
    ((packets ++ [packet]).map Prod.snd).Pairwise (· < ·) := by
  rw [List.map_append, List.pairwise_append]
  refine ⟨order, List.pairwise_singleton _ _, ?_⟩
  intro number mem other this
  obtain ⟨before, among, rfl⟩ := List.mem_map.mp mem
  rw [List.map_singleton, List.mem_singleton] at this
  rw [this]
  exact later before among

theorem perm_hand (front lost : List Numbered) (packet : Numbered) :
    front ++ [] ++ (lost ++ [packet]) ~ front ++ [packet] ++ lost := by
  rw [List.append_nil, List.append_assoc]
  exact List.perm_append_comm.append_left front

/-- What leaves the hand for a loss that is not an eviction. -/
theorem Kept.lose (kept : self.Kept) {packet : Numbered} (hand : self.hand = [packet])
    {reason : IngressLoss} (other : reason ≠ .evicted) {drops : Nat}
    (counted : drops = (self.lost ++ [(packet, reason)]).countP fun loss => loss.2 = .full)
    (full : reason = .full → keepUnderPressure packet.1.asSlice = false)
    (closed : reason = .closed → self.gone = true) :
    Kept
      { self with
        hand := []
        lost := self.lost ++ [(packet, reason)]
        fullDrops := drops } := by
  have stashed : Ledger.stashed
      { self with
        hand := []
        lost := self.lost ++ [(packet, reason)]
        fullDrops := drops } = self.stashed :=
    congrArg (fun losses => self.read ++ self.held ++ losses.map Prod.fst)
      (evicted_losses [packet] self.lost reason other)
  exact
    { whole := by
        have whole := kept.whole
        rw [hand] at whole
        refine List.Perm.trans ?_ whole
        rw [List.map_append]
        exact perm_hand _ _ _
      channelOrder := kept.channelOrder
      stashOrder := kept.stashOrder
      last := fun _ mem => nomatch mem
      room := kept.room
      full := by
        intro lost mem
        rcases @mem_losses [packet] self.lost reason _ _ mem with before | ⟨this, same⟩
        · exact kept.full lost before
        · rw [List.mem_singleton.mp this]
          exact full same.symm
      counted := counted
      closed := by
        intro lost mem
        rcases @mem_losses [packet] self.lost reason _ _ mem with before | ⟨_, same⟩
        · exact kept.closed lost before
        · exact closed same.symm
      kept := by
        rw [stashed]
        exact kept.kept
      evicted := by
        intro lost mem
        rw [stashed]
        rcases @mem_losses [packet] self.lost reason _ _ mem with before | ⟨_, same⟩
        · exact kept.evicted lost before
        · exact absurd same.symm other }

theorem Kept.arrives (kept : self.Kept) (payload : PacketBuf) (free : self.hand = []) :
    Kept
      { self with
        hand := [(payload, self.arrived.length)]
        arrived := self.arrived ++ [payload] } where
  whole := by
    have whole := kept.whole
    rw [free, List.append_nil] at whole
    rw [List.zipIdx_append, Nat.zero_add, List.append_assoc]
    refine List.Perm.trans (List.perm_append_comm.append_left _) ?_
    rw [← List.append_assoc]
    exact whole.append_right _
  channelOrder := kept.channelOrder
  stashOrder := kept.stashOrder
  last := by
    intro packet mem
    rw [List.mem_singleton.mp mem, List.length_append]
    rfl
  room := kept.room
  full := kept.full
  counted := kept.counted
  closed := kept.closed
  kept := kept.kept
  evicted := kept.evicted

theorem Kept.sent (kept : self.Kept) {packet : Numbered} (hand : self.hand = [packet]) :
    Kept
      { self with
        channel := self.channel ++ [packet]
        hand := [] } where
  whole := by
    refine List.Perm.trans ?_ kept.whole
    rw [hand, List.append_nil]
    refine List.Perm.append_right _ ?_
    rw [List.append_assoc, List.append_assoc]
    exact List.perm_append_comm.append_left _
  channelOrder := pairwise_concat kept.channelOrder fun _ mem =>
    kept.lt_of_hand hand (List.mem_append_left _ mem)
  stashOrder := kept.stashOrder
  last := fun _ mem => nomatch mem
  room := kept.room
  full := kept.full
  counted := kept.counted
  closed := kept.closed
  kept := kept.kept
  evicted := kept.evicted

theorem Kept.taken (kept : self.Kept) {packet : Numbered} {rest : List Numbered}
    (held : self.held = packet :: rest) :
    Kept
      { self with
        read := self.read ++ [packet]
        held := rest } := by
  have same : self.read ++ [packet] ++ rest = self.read ++ self.held := by
    rw [held, List.append_assoc]
    rfl
  have stashed : Ledger.stashed
      { self with
        read := self.read ++ [packet]
        held := rest } = self.stashed :=
    congrArg (· ++ (self.lost.filter fun loss => loss.2 = .evicted).map Prod.fst) same
  exact
    { whole := by
        change self.channel ++ (self.read ++ [packet] ++ rest) ++ self.hand ++
          self.lost.map Prod.fst ~ self.arrived.zipIdx
        rw [same]
        exact kept.whole
      channelOrder := kept.channelOrder
      stashOrder := by
        change ((self.read ++ [packet] ++ rest).map Prod.snd).Pairwise (· < ·)
        rw [same]
        exact kept.stashOrder
      last := kept.last
      room := by
        have room := kept.room
        rw [held, List.length_cons] at room
        exact Nat.le_of_succ_le room
      full := kept.full
      counted := kept.counted
      closed := kept.closed
      kept := by
        rw [stashed]
        exact kept.kept
      evicted := by
        rw [stashed]
        exact kept.evicted }

theorem Kept.dropped (kept : self.Kept) {front back : List Numbered}
    (channel : self.channel = front ++ back) :
    Kept
      { self with
        channel := front
        lost := self.lost ++ back.map fun packet => (packet, .closed)
        gone := true } := by
  have stashed : Ledger.stashed
      { self with
        channel := front
        lost := self.lost ++ back.map fun packet => (packet, .closed)
        gone := true } = self.stashed :=
    congrArg (fun losses => self.read ++ self.held ++ losses.map Prod.fst)
      (evicted_losses back self.lost .closed (by decide))
  exact
    { whole := by
        refine List.Perm.trans ?_ kept.whole
        rw [channel, List.map_append, fst_losses]
        classical
        refine List.perm_iff_count.mpr fun number => ?_
        simp only [List.count_append]
        omega
      channelOrder := by
        have order := kept.channelOrder
        rw [channel, List.map_append] at order
        exact (List.pairwise_append.mp order).1
      stashOrder := kept.stashOrder
      last := kept.last
      room := kept.room
      full := by
        intro packet mem
        rcases mem_losses mem with before | ⟨_, same⟩
        · exact kept.full packet before
        · cases same
      counted := kept.counted.trans (full_losses back self.lost .closed (by decide)).symm
      closed := fun _ _ => rfl
      kept := by
        rw [stashed]
        exact kept.kept
      evicted := by
        intro packet mem
        rw [stashed]
        rcases mem_losses mem with before | ⟨_, same⟩
        · exact kept.evicted packet before
        · cases same }

/-- What comes into a full stash pushes the oldest one out. -/
theorem Kept.stashes (kept : self.Kept) {packet : Numbered} {count : Nat}
    (hand : self.hand = [packet]) (keep : keepUnderPressure packet.1.asSlice = true)
    (room : self.held.length + 1 = count + protectedIncoming ∨
      count = 0 ∧ self.held.length < protectedIncoming) :
    Kept
      { self with
        held := self.held.drop count ++ [packet]
        hand := []
        lost := self.lost ++ (self.held.take count).map fun packet => (packet, .evicted) } := by
  have split := List.take_append_drop count self.held
  have behind : ∀ other ∈ self.read ++ self.held, other.2 < packet.2 := fun other mem =>
    kept.lt_of_hand hand (List.mem_append_right _ mem)
  have order := kept.stashOrder
  have kept' : (self.read ++ self.held.drop count).Sublist (self.read ++ self.held) :=
    (List.drop_sublist count self.held).append_left _
  -- The payloads that ever came into the stash are the same ones and the new one.
  have stashed : Ledger.stashed
      { self with
        held := self.held.drop count ++ [packet]
        hand := []
        lost := self.lost ++ (self.held.take count).map fun packet => (packet, .evicted) } ~
        self.stashed ++ [packet] := by
    have losses : ((self.lost ++ (self.held.take count).map fun packet =>
        (packet, IngressLoss.evicted)).filter fun loss => loss.2 = .evicted) =
          (self.lost.filter fun loss => loss.2 = .evicted) ++
            (self.held.take count).map fun packet => (packet, IngressLoss.evicted) := by
      rw [List.filter_append, List.append_cancel_left_eq, List.filter_eq_self]
      intro loss mem
      obtain ⟨other, _, rfl⟩ := List.mem_map.mp mem
      rfl
    rw [Ledger.stashed, losses, List.map_append, fst_losses, Ledger.stashed]
    classical
    refine List.perm_iff_count.mpr fun number => ?_
    have whole := congrArg (List.count number) split
    simp only [List.count_append] at whole ⊢
    omega
  exact
    { whole := by
        refine List.Perm.trans ?_ kept.whole
        rw [hand, List.map_append, fst_losses]
        classical
        refine List.perm_iff_count.mpr fun number => ?_
        have whole := congrArg (List.count number) split
        simp only [List.count_append, List.count_nil] at whole ⊢
        omega
      channelOrder := kept.channelOrder
      stashOrder := by
        change ((self.read ++ (self.held.drop count ++ [packet])).map Prod.snd).Pairwise (· < ·)
        rw [← List.append_assoc]
        refine pairwise_concat (order.sublist (kept'.map _)) fun other mem => ?_
        exact behind other (kept'.subset mem)
      last := fun _ mem => nomatch mem
      room := by
        have bound := kept.room
        rw [List.length_append, List.length_drop, List.length_singleton]
        have positive : 0 < protectedIncoming := by decide
        rcases room with full | ⟨rfl, free⟩
        · omega
        · exact free
      full := by
        intro other mem
        rcases mem_losses mem with before | ⟨_, same⟩
        · exact kept.full other before
        · cases same
      counted := kept.counted.trans (full_losses _ self.lost .evicted (by decide)).symm
      closed := by
        intro other mem
        rcases mem_losses mem with before | ⟨_, same⟩
        · exact kept.closed other before
        · cases same
      kept := by
        intro other mem
        rcases List.mem_append.mp (stashed.mem_iff.mp mem) with before | this
        · exact kept.kept other before
        · rw [List.mem_singleton.mp this]
          exact keep
      evicted := by
        intro other mem
        rw [stashed.countP_eq, List.countP_append]
        rcases mem_losses mem with before | ⟨taken, _⟩
        · exact Nat.le_add_right_of_le (kept.evicted other before)
        · -- All that stays in the stash came later, and so did the new one.
          have bound := kept.room
          have positive : 0 < protectedIncoming := by decide
          cases held : self.held with
          | nil =>
              rw [held, List.take_nil] at taken
              cases taken
          | cons first rest =>
              rw [held, List.length_cons] at bound room
              have one : count = 1 := by
                cases count with
                | zero => cases taken
                | succ count =>
                    rcases room with full | ⟨none, _⟩
                    · omega
                    · cases none
              rw [one, held, List.take_succ_cons, List.take_zero, List.mem_singleton] at taken
              subst taken
              have length : rest.length + 1 = protectedIncoming := by
                rcases room with full | ⟨none, _⟩
                · omega
                · omega
              have later : rest.countP (fun packet => other.2 < packet.2) = rest.length := by
                refine List.countP_eq_length.mpr fun packet mem => decide_eq_true ?_
                rw [held, List.map_append] at order
                have inner := (List.pairwise_append.mp order).2.1
                exact List.rel_of_pairwise_cons inner (List.mem_map_of_mem mem)
              have some : rest.countP (fun packet => other.2 < packet.2) ≤
                  self.stashed.countP fun packet => other.2 < packet.2 := by
                refine List.Sublist.countP_le ?_
                rw [Ledger.stashed, held]
                refine List.Sublist.trans ?_ (List.sublist_append_left _ _)
                exact (List.sublist_cons_self _ _).trans (List.sublist_append_right _ _)
              have this : [packet].countP (fun packet => other.2 < packet.2) = 1 := by
                refine List.countP_eq_length.mpr fun new mem => decide_eq_true ?_
                rw [List.mem_singleton.mp mem]
                refine behind other (List.mem_append_right _ ?_)
                rw [held]
                exact List.mem_cons_self
              omega }

theorem Kept.booked (kept : self.Kept) (booked : self.Booked later) : later.Kept := by
  cases booked with
  | same => exact kept
  | arrives payload free => exact kept.arrives payload free
  | sent packet hand => exact kept.sent hand
  | full packet hand plain =>
      refine @Kept.lose _ kept packet hand .full (by decide) _ ?_ (fun _ => plain) nofun
      rw [List.countP_append, ← kept.counted]
      rfl
  | closed packet hand gone =>
      refine @Kept.lose _ kept packet hand .closed (by decide) _ ?_ nofun fun _ => gone
      exact kept.counted.trans (full_losses [packet] self.lost .closed (by decide)).symm
  | stashed packet count hand keep room => exact kept.stashes hand keep room
  | taken packet rest held => exact kept.taken held
  | dropped front back channel => exact kept.dropped channel

end Ledger

open Ledger

/-- The payload that a call has taken from the channel and not returned yet. -/
def RecvPoint.inHand : RecvPoint → List Numbered
  | .leave (.taken packet) => [packet]
  | _ => []

def DriverPoint.inHand : DriverPoint → List Numbered
  | .sending packet | .stashing packet => [packet]
  | _ => []

/-- What a call has returned, if it came this way. -/
def handedOn (lane : IngressLane) : Except String (IngressLane × Numbered) → Option Numbered
  | .ok (other, packet) => if other = lane then some packet else none
  | .error _ => none

namespace TurnIngress

variable {self : TurnIngress}

/-- All that the calls of the reader have returned on one of the ways. -/
def handed (self : TurnIngress) (lane : IngressLane) : List Numbered :=
  self.results.filterMap (handedOn lane)

def ledger (self : TurnIngress) : Ledger where
  channel := self.handed .incoming ++ (self.receiver.inHand ++ self.incoming.items)
  read := self.handed .stash
  held := self.stash.items
  hand := self.driver.inHand
  lost := self.lost
  arrived := self.arrived
  fullDrops := self.queueFullDrops
  gone := self.ownerGone

/-- What is stashed is to be kept. -/
def Stashes (self : TurnIngress) : Prop :=
  ∀ packet, self.driver = .stashing packet → keepUnderPressure packet.1.asSlice = true

theorem handed_concat (lane : IngressLane) (result : Except String (IngressLane × Numbered)) :
    (self.results ++ [result]).filterMap (handedOn lane) =
      self.handed lane ++ (handedOn lane result).toList := by
  rw [List.filterMap_append, handed]
  cases handed : handedOn lane result with
  | none => rw [List.filterMap_cons_none handed, List.filterMap_nil, Option.toList_none]
  | some packet =>
      rw [List.filterMap_cons_some handed, List.filterMap_nil, Option.toList_some]

theorem booked_goOn {point : RecvPoint} (before : self.receiver.inHand = [])
    (after : point.inHand = []) : self.ledger.Booked (self.goOn point).ledger := by
  have same : (self.goOn point).ledger = self.ledger := by
    rw [ledger, ledger, before]
    change Ledger.mk (self.handed .incoming ++ (point.inHand ++ self.incoming.items)) _ _ _ _ _ _
      _ = _
    rw [after]
    rfl
  rw [same]
  exact .same

theorem booked_failed {reason : String} (before : self.receiver.inHand = []) :
    self.ledger.Booked (self.returned (.error reason)).ledger := by
  have same : (self.returned (.error reason)).ledger = self.ledger := by
    have incoming := @handed_concat self .incoming (.error reason)
    have stash := @handed_concat self .stash (.error reason)
    rw [handedOn, Option.toList_none, List.append_nil] at incoming stash
    rw [ledger, ledger, before]
    change Ledger.mk (List.filterMap _ (self.results ++ _) ++ _)
      (List.filterMap _ (self.results ++ _)) _ _ _ _ _ _ = _
    rw [incoming, stash]
    rfl
  rw [same]
  exact .same

theorem booked_popProtected {otherwise : RecvPoint} (before : self.receiver.inHand = [])
    (after : otherwise.inHand = []) :
    self.ledger.Booked (self.popProtected otherwise).ledger := by
  rw [popProtected]
  split
  · exact .same
  · cases popped : self.stash.pop with
    | none => exact booked_goOn before after
    | some taken =>
        obtain ⟨packet, stash⟩ := taken
        have held := ArrayQueue.pop_spec popped
        have booked := @Booked.taken self.ledger packet stash.items held
        have incoming := @handed_concat self .incoming (.ok (.stash, packet))
        have read := @handed_concat self .stash (.ok (.stash, packet))
        rw [handedOn, if_neg (by decide), Option.toList_none, List.append_nil] at incoming
        rw [handedOn, if_pos rfl, Option.toList_some] at read
        have same : ({ self with stash := stash }.returned (.ok (.stash, packet))).ledger =
            { self.ledger with
              read := self.ledger.read ++ [packet]
              held := stash.items } := by
          rw [ledger, ledger, before]
          change Ledger.mk (List.filterMap _ (self.results ++ _) ++ _)
            (List.filterMap _ (self.results ++ _)) _ _ _ _ _ _ = _
          rw [incoming, read]
          rfl
        dsimp only
        rw [same]
        exact booked

theorem booked_poll (self : TurnIngress) : self.ledger.Booked self.poll.ledger := by
  rw [poll]
  cases stands : self.receiver with
  | idle => exact .same
  | terminal =>
      have before : self.receiver.inHand = [] := by rw [stands]; rfl
      cases self.terminalReason with
      | some reason => exact booked_failed before
      | none => exact booked_goOn before rfl
  | popFirst => exact booked_popProtected (by rw [stands]; rfl) rfl
  | announce => exact booked_goOn (by rw [stands]; rfl) rfl
  | popAgain seen => exact booked_popProtected (by rw [stands]; rfl) rfl
  | claim seen =>
      have before : self.receiver.inHand = [] := by rw [stands]; rfl
      cases self.notify.claim with
      | some notify => exact @booked_goOn self .terminal before rfl
      | none => exact booked_goOn before rfl
  | enlist seen =>
      have before : self.receiver.inHand = [] := by rw [stands]; rfl
      dsimp only
      split
      · exact @booked_goOn self .terminal before rfl
      · exact @booked_goOn self .state before rfl
  | state =>
      have before : self.receiver.inHand = [] := by rw [stands]; rfl
      dsimp only
      split
      · exact @booked_goOn self (.leave .again) before rfl
      · exact booked_goOn before rfl
  | incoming =>
      have before : self.receiver.inHand = [] := by rw [stands]; rfl
      cases popped : self.incoming.pop with
      | none =>
          refine booked_goOn before ?_
          split <;> rfl
      | some taken =>
          obtain ⟨packet, incoming⟩ := taken
          have items := ArrayQueue.pop_spec popped
          have same : ({ self with incoming := incoming }.goOn (.leave (.taken packet))).ledger =
              self.ledger := by
            rw [ledger, ledger, before, items]
            rfl
          have booked : self.ledger.Booked
              ({ self with incoming := incoming }.goOn (.leave (.taken packet))).ledger := by
            rw [same]
            exact .same
          exact booked
  | parked =>
      have before : self.receiver.inHand = [] := by rw [stands]; rfl
      dsimp only
      split
      · exact booked_goOn before rfl
      · exact .same
  | woken =>
      have before : self.receiver.inHand = [] := by rw [stands]; rfl
      cases self.notify.poll with
      | some notify => exact @booked_goOn self .terminal before rfl
      | none => exact booked_goOn before rfl
  | leave next =>
      cases next with
      | again => exact @booked_goOn self .terminal (by rw [stands]; rfl) rfl
      | closed => exact @booked_failed self _ (by rw [stands]; rfl)
      | taken packet =>
          have incoming := @handed_concat self .incoming (.ok (.incoming, packet))
          have read := @handed_concat self .stash (.ok (.incoming, packet))
          rw [handedOn, if_pos rfl, Option.toList_some] at incoming
          rw [handedOn, if_neg (by decide), Option.toList_none, List.append_nil] at read
          have hand : self.receiver.inHand = [packet] := by
            rw [stands]
            rfl
          have same : (self.leaveNotified.returned (.ok (.incoming, packet))).ledger =
              self.ledger := by
            rw [ledger, ledger, hand]
            change Ledger.mk (List.filterMap _ (self.results ++ _) ++ _)
              (List.filterMap _ (self.results ++ _)) _ _ _ _ _ _ = _
            rw [incoming, read, List.append_assoc]
            rfl
          dsimp only
          rw [same]
          exact .same

theorem booked_drive (stashes : self.Stashes) : self.ledger.Booked self.drive.ledger := by
  rw [drive]
  cases stands : self.driver with
  | idle => exact .same
  | ended => exact .same
  | notifying =>
      have hand : self.driver.inHand = [] := by
        rw [stands]
        rfl
      have same : TurnIngress.ledger
          { self with
            driver := .idle
            notify := self.notify.notifyOne } = self.ledger := by
        rw [ledger, ledger, hand]
        rfl
      dsimp only
      rw [same]
      exact .same
  | sending packet =>
      have hand : self.ledger.hand = [packet] := by
        rw [ledger, stands]
        rfl
      dsimp only
      rw [trySend]
      split
      · next gone => exact .closed packet hand gone
      · cases pushed : self.incoming.push packet with
        | some incoming =>
            have items := ArrayQueue.push_spec pushed
            have same : TurnIngress.ledger
                { self with
                  driver := .idle
                  incoming := incoming } =
                { self.ledger with
                  channel := self.ledger.channel ++ [packet]
                  hand := [] } := by
              rw [ledger, ledger, items, List.append_assoc, List.append_assoc]
              rfl
            dsimp only
            rw [same]
            exact .sent packet hand
        | none =>
            dsimp only
            split
            · have same : TurnIngress.ledger { self with driver := .stashing packet } =
                  self.ledger := by
                rw [ledger, ledger, stands]
                rfl
              rw [same]
              exact .same
            · next plain => exact .full packet hand (Bool.eq_false_iff.mpr plain)
  | stashing packet =>
      have hand : self.ledger.hand = [packet] := by
        rw [ledger, stands]
        rfl
      refine .stashed packet _ hand (stashes packet stands) ?_
      have bound := self.stash.bounded
      change self.stash.items.length + 1 = _ ∨ _ ∧ self.stash.items.length < protectedIncoming
      omega

/-- What a step does is one of the things that the ledger knows. -/
theorem booked_step (stashes : self.Stashes) (event : IngressEvent) :
    self.ledger.Booked (self.step event).1.ledger := by
  have free : ∀ {next : TurnIngress},
      (self.driver.inHand = [] → self.ledger.Booked next.ledger) →
        self.ledger.Booked (self.whenFree next).ledger := by
    intro next booked
    rw [whenFree]
    split
    · next stands => exact booked (by rw [stands]; rfl)
    · exact .same
  have idle : ∀ {next : TurnIngress},
      (self.receiver.inHand = [] → self.ledger.Booked next.ledger) →
        self.ledger.Booked (self.whenIdle next).ledger := by
    intro next booked
    rw [whenIdle]
    split
    · next stands => exact booked (by rw [stands]; rfl)
    · exact .same
  cases event with
  | packet wire =>
      refine free fun hand => ?_
      rw [TurnIngress.packet]
      split
      · exact .arrives _ hand
      · exact .same
      · exact .same
  | deficit wire =>
      refine free fun _ => ?_
      rw [processDeficitPacket]
      split
      · split
        · exact .same
        · exact .same
      · exact .same
  | drive => exact booked_drive stashes
  | driverEnds =>
      refine free fun hand => ?_
      have same : TurnIngress.ledger { self with driver := .ended } = self.ledger := by
        rw [ledger, ledger, hand]
        rfl
      rw [same]
      exact .same
  | bind channel => exact free fun _ => .same
  | requestCleanup => exact .same
  | publish reason => exact .same
  | announce => exact .same
  | modify => exact .same
  | call =>
      refine idle fun before => ?_
      split
      · exact .same
      · exact booked_goOn before rfl
  | poll => exact booked_poll self
  | cancel =>
      dsimp only [step]
      rw [whenParked]
      split
      · next stands => exact @booked_goOn self .idle (by rw [stands]; rfl) rfl
      · exact .same
  | dropReceiver =>
      refine idle fun before => ?_
      have booked := @Booked.dropped self.ledger (self.handed .incoming) self.incoming.items (by
        rw [ledger, before]
        rfl)
      have same : self.dropReceiver.ledger =
          { self.ledger with
            channel := self.handed .incoming
            lost := self.lost ++ self.incoming.items.map fun packet => (packet, .closed)
            gone := true } := by
        rw [ledger, ledger]
        change Ledger.mk (self.handed .incoming ++ (self.receiver.inHand ++ [])) _ _ _ _ _ _ _ = _
        rw [before, List.append_nil, List.append_nil]
        rfl
      rw [same]
      exact booked

theorem driver_poll (self : TurnIngress) : self.poll.driver = self.driver := by
  have popped : ∀ otherwise, (self.popProtected otherwise).driver = self.driver := by
    intro otherwise
    rw [popProtected]
    split
    · rfl
    · cases self.stash.pop <;> rfl
  rw [poll]
  cases self.receiver with
  | idle => rfl
  | terminal => cases self.terminalReason <;> rfl
  | popFirst => exact popped _
  | announce => rfl
  | popAgain seen => exact popped _
  | claim seen => cases self.notify.claim <;> rfl
  | enlist seen => rfl
  | state =>
      dsimp only
      split <;> rfl
  | incoming => cases self.incoming.pop <;> rfl
  | parked =>
      dsimp only
      split <;> rfl
  | woken => cases self.notify.poll <;> rfl
  | leave next => cases next <;> rfl

theorem Stashes.step (stashes : self.Stashes) (event : IngressEvent) :
    (self.step event).1.Stashes := by
  have same : ∀ {next : TurnIngress}, next.driver = self.driver → next.Stashes := by
    intro next driver packet stands
    rw [driver] at stands
    exact stashes packet stands
  have free : ∀ {next : TurnIngress}, next.Stashes → (self.whenFree next).Stashes := by
    intro next later
    rw [whenFree]
    split
    · exact later
    · exact stashes
  cases event with
  | packet wire =>
      refine free ?_
      rw [TurnIngress.packet]
      split
      · exact nofun
      · exact stashes
      · exact stashes
  | deficit wire =>
      refine free (same ?_)
      rw [processDeficitPacket]
      split
      · split <;> rfl
      · rfl
  | drive =>
      dsimp only [TurnIngress.step]
      rw [drive]
      cases stands : self.driver with
      | idle => exact stashes
      | ended => exact stashes
      | notifying => exact nofun
      | stashing packet => exact nofun
      | sending packet =>
          dsimp only
          rw [trySend]
          split
          · exact nofun
          · cases self.incoming.push packet with
            | some incoming => exact nofun
            | none =>
                dsimp only
                split
                · next keep =>
                    intro other same
                    rw [← DriverPoint.stashing.inj same]
                    exact keep
                · exact nofun
  | driverEnds => exact free nofun
  | bind channel => exact free (same rfl)
  | requestCleanup => exact same rfl
  | publish reason => exact same rfl
  | announce => exact same rfl
  | modify => exact same rfl
  | call =>
      refine same ?_
      dsimp only [TurnIngress.step]
      rw [whenIdle]
      split
      · split <;> rfl
      · rfl
  | poll => exact same (driver_poll self)
  | cancel =>
      refine same ?_
      dsimp only [TurnIngress.step]
      rw [whenParked]
      split <;> rfl
  | dropReceiver =>
      refine same ?_
      dsimp only [TurnIngress.step]
      rw [whenIdle]
      split <;> rfl

theorem Kept.start : start.ledger.Kept where
  whole := .nil
  channelOrder := .nil
  stashOrder := .nil
  last := nofun
  room := Nat.zero_le _
  full := nofun
  counted := rfl
  closed := nofun
  kept := nofun
  evicted := nofun

theorem kept_reached (events : List IngressEvent) : (reached events).ledger.Kept := by
  refine (@Transducer.run_invariant _ _ _ step (fun self => self.Stashes ∧ self.ledger.Kept)
    ?_ start events ⟨nofun, Kept.start⟩).2
  rintro self event ⟨stashes, kept⟩
  exact ⟨stashes.step event, kept.booked (booked_step stashes event)⟩

end TurnIngress

open TurnIngress

/-- Each payload that came is at one place: handed out by one of the two ways or waiting there, at
the task's hand, or lost. Both ways keep the order. A full channel costs only what is not to be
kept, and is counted; what had to leave the stash left it to 32 later ones. -/
theorem ingress_conserves (events : List IngressEvent) :
    let ingress := reached events
    let incoming := ingress.handed .incoming ++
      (ingress.receiver.inHand ++ ingress.incoming.items)
    let stash := ingress.handed .stash ++ ingress.stash.items
    let evicted := (ingress.lost.filter fun loss => loss.2 = .evicted).map Prod.fst
    incoming ++ stash ++ ingress.driver.inHand ++ ingress.lost.map Prod.fst ~
        ingress.arrived.zipIdx ∧
      (incoming.map Prod.snd).Pairwise (· < ·) ∧ (stash.map Prod.snd).Pairwise (· < ·) ∧
      (∀ packet, (packet, .full) ∈ ingress.lost →
        keepUnderPressure packet.1.asSlice = false) ∧
      ingress.queueFullDrops = ingress.lost.countP (fun loss => loss.2 = .full) ∧
      (∀ packet, (packet, .closed) ∈ ingress.lost → ingress.ownerGone = true) ∧
      (∀ packet ∈ stash ++ evicted, keepUnderPressure packet.1.asSlice = true) ∧
      ∀ packet ∈ evicted,
        protectedIncoming ≤ (stash ++ evicted).countP fun other => packet.2 < other.2 := by
  have kept := kept_reached events
  refine ⟨kept.whole, kept.channelOrder, kept.stashOrder, kept.full, kept.counted, kept.closed,
    kept.kept, fun packet mem => ?_⟩
  obtain ⟨⟨lost, reason⟩, among, rfl⟩ := List.mem_map.mp mem
  obtain ⟨among, evicted⟩ := List.mem_filter.mp among
  obtain rfl : reason = .evicted := of_decide_eq_true evicted
  exact kept.evicted lost among

end Csqtt
