/-
Module: Csqtt.Proofs.PacketRange
Purpose: The range operations on machine words keep the range inside the storage, and one that
  fails changes nothing.
Trusted boundary: none
Main exports: PacketBuf.raw, RangeOperation.onBuf, exec_perform, reached_raw,
  packet_range_invariant
-/
import Csqtt.Core.Transducer
import Csqtt.Engine.ChannelDataWire
import Csqtt.Engine.PacketRange

namespace Csqtt

/-- The buffer as it stands in memory. -/
def PacketBuf.raw (self : PacketBuf) : RawPacket where
  storage := self.storage
  start := BitVec.ofNat 64 self.start
  stop := BitVec.ofNat 64 self.stop

namespace RangeOperation

/-- What an operation does to a buffer that keeps its invariant. -/
def onBuf : RangeOperation → PacketBuf → Option PacketBuf
  | .setReadLen len, self => self.setReadLen len.toNat
  | .prepend len, self => self.prepend len.toNat
  | .extendTail len, self => self.extendTail len.toNat
  | .trimFront len, self => self.trimFront len.toNat
  | .truncate len, self => self.truncate len.toNat
  | .setRange start stop, self => self.setRange start.toNat stop.toNat

/-- The area that an operation hands out. -/
def area : RangeOperation → PacketBuf → Option Area
  | .prepend len, self => some {
      start := BitVec.ofNat 64 (self.start - len.toNat), stop := BitVec.ofNat 64 self.start }
  | .extendTail len, self => some {
      start := BitVec.ofNat 64 self.stop, stop := BitVec.ofNat 64 (self.stop + len.toNat) }
  | _, _ => none

end RangeOperation

variable (self : PacketBuf)

theorem PacketBuf.toNat_start : self.raw.start.toNat = self.start := by
  have ordered := self.ordered
  have bounded := self.bounded
  rw [packetCapacity] at bounded
  exact Nat.mod_eq_of_lt (by omega)

theorem PacketBuf.toNat_stop : self.raw.stop.toNat = self.stop := by
  have bounded := self.bounded
  rw [packetCapacity] at bounded
  exact Nat.mod_eq_of_lt (by omega)

theorem PacketBuf.toNat_raw_len : self.raw.len.toNat = self.len := by
  have start := self.toNat_start
  have stop := self.toNat_stop
  have ordered := self.ordered
  rw [RawPacket.len, PacketBuf.len]
  split
  · next before =>
      rw [BitVec.toNat_sub_of_le (BitVec.le_of_lt before), start, stop]
  · next reached =>
      have empty : ¬ self.start < self.stop := by
        rwa [BitVec.lt_def, start, stop] at reached
      exact (Nat.sub_eq_zero_of_le (Nat.not_lt.mp empty)).symm

theorem PacketBuf.ofNat_start : BitVec.ofNat 64 self.start = self.raw.start := rfl

theorem PacketBuf.ofNat_stop : BitVec.ofNat 64 self.stop = self.raw.stop := rfl

/-- A word is the sum of the words of its parts. -/
theorem ofNat_add_toNat (offset : Nat) (len : U64) :
    BitVec.ofNat 64 offset + len = BitVec.ofNat 64 (offset + len.toNat) := by
  rw [BitVec.ofNat_add, BitVec.ofNat_toNat, BitVec.setWidth_eq]

theorem ofNat_sub_toNat {offset : Nat} {len : U64} (small : offset < 2 ^ 64)
    (fits : len.toNat ≤ offset) :
    BitVec.ofNat 64 offset - len = BitVec.ofNat 64 (offset - len.toNat) := by
  have whole : (BitVec.ofNat 64 offset).toNat = offset := Nat.mod_eq_of_lt small
  have within : len ≤ BitVec.ofNat 64 offset := by rwa [BitVec.le_def, whole]
  apply BitVec.eq_of_toNat_eq
  rw [BitVec.toNat_sub_of_le within, whole, BitVec.toNat_ofNat, Nat.mod_eq_of_lt (by omega)]

namespace RangeAction

variable {Value Next : Type} (packet : RawPacket)

theorem exec_bind (action : RangeAction Value) (next : Value → RangeAction Next) :
    (action >>= next).exec packet =
      match action.exec packet with
      | (.ok value, after) => (next value).exec after
      | (.error reason, after) => (.error reason, after) := by
  have unfolded : (action >>= next).exec packet =
      (ExceptT.bindCont next (action.exec packet).1 : StateM RawPacket (Except String Next))
        (action.exec packet).2 := rfl
  rw [unfolded]
  rcases action.exec packet with ⟨reason | value, after⟩ <;> rfl

theorem exec_setReadLen (len : U64) :
    (setReadLen len).exec packet =
      if BitVec.ofNat 64 (packetCapacity - packetHeadroom) < len then
        (.error "packet read length exceeds capacity", packet)
      else (.ok (), { packet with
        start := BitVec.ofNat 64 packetHeadroom
        stop := BitVec.ofNat 64 packetHeadroom + len }) := by
  rw [setReadLen]
  split <;> rfl

theorem exec_prepend (len : U64) :
    (prepend len).exec packet =
      if packet.start < len then (.error "packet prepend exceeds headroom", packet)
      else (.ok ⟨packet.start - len, packet.start - len + len⟩,
        { packet with start := packet.start - len }) := by
  change (if packet.start < len then _ else _ : RangeAction Area) packet = _
  split <;> rfl

theorem exec_extendTail (len : U64) :
    (extendTail len).exec packet =
      if 2 ^ 64 ≤ packet.stop.toNat + len.toNat then (.error "packet tail length overflow", packet)
      else if BitVec.ofNat 64 packetCapacity < packet.stop + len then
        (.error "packet tail exceeds capacity", packet)
      else (.ok ⟨packet.stop, packet.stop + len⟩, { packet with stop := packet.stop + len }) := by
  change (if 2 ^ 64 ≤ packet.stop.toNat + len.toNat then _ else _ : RangeAction Area) packet = _
  split
  · rfl
  · change (if BitVec.ofNat 64 packetCapacity < packet.stop + len then _ else _ :
      RangeAction Area) packet = _
    split <;> rfl

theorem exec_trimFront (len : U64) :
    (trimFront len).exec packet =
      if packet.len < len then (.error "packet trim exceeds length", packet)
      else (.ok (), { packet with start := packet.start + len }) := by
  change (if packet.len < len then _ else _ : RangeAction Unit) packet = _
  split <;> rfl

theorem exec_truncate (len : U64) :
    (truncate len).exec packet =
      if packet.len < len then (.error "packet truncate exceeds length", packet)
      else (.ok (), { packet with stop := packet.start + len }) := by
  change (if packet.len < len then _ else _ : RangeAction Unit) packet = _
  split <;> rfl

theorem exec_setRange (start stop : U64) :
    (setRange start stop).exec packet =
      if stop < start ∨ BitVec.ofNat 64 packetCapacity < stop then
        (.error "packet range is invalid", packet)
      else (.ok (), { packet with start := start, stop := stop }) := by
  rw [setRange]
  split <;> rfl

end RangeAction

/-- The words do what is done to the buffer; where that fails they are left as they are. -/
def PacketBuf.FollowedBy (outcome : Option PacketBuf) (area : Option Area)
    (result : Except String (Option Area) × RawPacket) : Prop :=
  match outcome with
  | some after => result = (.ok area, after.raw)
  | none => ∃ reason, result = (.error reason, self.raw)

namespace RangeOperation

theorem follows_setReadLen (len : U64) :
    self.FollowedBy (self.setReadLen len.toNat) none
      ((RangeOperation.setReadLen len).perform.exec self.raw) := by
  rw [perform, RangeAction.exec_bind, RangeAction.exec_setReadLen, PacketBuf.setReadLen]
  by_cases fits : len.toNat ≤ packetCapacity - packetHeadroom
  · have within : ¬ BitVec.ofNat 64 (packetCapacity - packetHeadroom) < len := Nat.not_lt.mpr fits
    rw [if_neg within, dif_pos fits, ofNat_add_toNat]
    rfl
  · have beyond : BitVec.ofNat 64 (packetCapacity - packetHeadroom) < len := Nat.lt_of_not_le fits
    rw [if_pos beyond, dif_neg fits]
    exact ⟨_, rfl⟩

theorem follows_prepend (len : U64) :
    self.FollowedBy (self.prepend len.toNat) ((RangeOperation.prepend len).area self)
      ((RangeOperation.prepend len).perform.exec self.raw) := by
  have start := self.toNat_start
  rw [perform, RangeAction.exec_bind, RangeAction.exec_prepend, PacketBuf.prepend]
  by_cases fits : len.toNat ≤ self.start
  · have within : ¬ self.raw.start < len := by rwa [BitVec.lt_def, start, Nat.not_lt]
    rw [if_neg within, if_pos fits, BitVec.sub_add_cancel, ← self.ofNat_start,
      ofNat_sub_toNat (start ▸ self.raw.start.isLt) fits]
    rfl
  · have beyond : self.raw.start < len := by
      rw [BitVec.lt_def, start]
      exact Nat.lt_of_not_le fits
    rw [if_pos beyond, if_neg fits]
    exact ⟨_, rfl⟩

theorem follows_extendTail (len : U64) :
    self.FollowedBy (self.extendTail len.toNat) ((RangeOperation.extendTail len).area self)
      ((RangeOperation.extendTail len).perform.exec self.raw) := by
  have stop := self.toNat_stop
  rw [perform, RangeAction.exec_bind, RangeAction.exec_extendTail, PacketBuf.extendTail, stop]
  by_cases overflow : 2 ^ 64 ≤ self.stop + len.toNat
  · have beyond : ¬ self.stop + len.toNat ≤ packetCapacity := by
      rw [packetCapacity]
      omega
    rw [if_pos overflow, dif_neg beyond]
    exact ⟨_, rfl⟩
  · have sum : (self.raw.stop + len).toNat = self.stop + len.toNat := by
      rw [BitVec.toNat_add, stop, Nat.mod_eq_of_lt (Nat.lt_of_not_le overflow)]
    rw [if_neg overflow]
    by_cases fits : self.stop + len.toNat ≤ packetCapacity
    · have within : ¬ BitVec.ofNat 64 packetCapacity < self.raw.stop + len := by
        rw [BitVec.lt_def, sum]
        exact Nat.not_lt.mpr fits
      rw [if_neg within, dif_pos fits, ← self.ofNat_stop, ofNat_add_toNat]
      rfl
    · have beyond : BitVec.ofNat 64 packetCapacity < self.raw.stop + len := by
        rw [BitVec.lt_def, sum]
        exact Nat.lt_of_not_le fits
      rw [if_pos beyond, dif_neg fits]
      exact ⟨_, rfl⟩

theorem follows_trimFront (len : U64) :
    self.FollowedBy (self.trimFront len.toNat) none
      ((RangeOperation.trimFront len).perform.exec self.raw) := by
  have length := self.toNat_raw_len
  rw [perform, RangeAction.exec_bind, RangeAction.exec_trimFront, PacketBuf.trimFront]
  by_cases fits : len.toNat ≤ self.len
  · have within : ¬ self.raw.len < len := by rwa [BitVec.lt_def, length, Nat.not_lt]
    rw [if_neg within, dif_pos fits, ← self.ofNat_start, ofNat_add_toNat]
    rfl
  · have beyond : self.raw.len < len := by
      rw [BitVec.lt_def, length]
      exact Nat.lt_of_not_le fits
    rw [if_pos beyond, dif_neg fits]
    exact ⟨_, rfl⟩

theorem follows_truncate (len : U64) :
    self.FollowedBy (self.truncate len.toNat) none
      ((RangeOperation.truncate len).perform.exec self.raw) := by
  have length := self.toNat_raw_len
  rw [perform, RangeAction.exec_bind, RangeAction.exec_truncate, PacketBuf.truncate]
  by_cases fits : len.toNat ≤ self.len
  · have within : ¬ self.raw.len < len := by rwa [BitVec.lt_def, length, Nat.not_lt]
    rw [if_neg within, dif_pos fits, ← self.ofNat_start, ofNat_add_toNat]
    rfl
  · have beyond : self.raw.len < len := by
      rw [BitVec.lt_def, length]
      exact Nat.lt_of_not_le fits
    rw [if_pos beyond, dif_neg fits]
    exact ⟨_, rfl⟩

theorem follows_setRange (start stop : U64) :
    self.FollowedBy (self.setRange start.toNat stop.toNat) none
      ((RangeOperation.setRange start stop).perform.exec self.raw) := by
  rw [perform, RangeAction.exec_bind, RangeAction.exec_setRange, PacketBuf.setRange]
  by_cases fits : start.toNat ≤ stop.toNat ∧ stop.toNat ≤ packetCapacity
  · have within : ¬ (stop < start ∨ BitVec.ofNat 64 packetCapacity < stop) :=
      not_or.mpr ⟨Nat.not_lt.mpr fits.1, Nat.not_lt.mpr fits.2⟩
    rw [if_neg within, dif_pos fits]
    have back (word : U64) : BitVec.ofNat 64 word.toNat = word := by
      rw [BitVec.ofNat_toNat, BitVec.setWidth_eq]
    change (_, RawPacket.mk _ start stop) = (_, RawPacket.mk _ (BitVec.ofNat 64 _) _)
    rw [back, back]
    rfl
  · have beyond : stop < start ∨ BitVec.ofNat 64 packetCapacity < stop :=
      (not_and_or.mp fits).imp Nat.lt_of_not_le Nat.lt_of_not_le
    rw [if_pos beyond, dif_neg fits]
    exact ⟨_, rfl⟩

/-- Every operation on the words follows the buffer. -/
theorem follows (operation : RangeOperation) :
    self.FollowedBy (operation.onBuf self) (operation.area self)
      (operation.perform.exec self.raw) := by
  cases operation with
  | setReadLen len => exact follows_setReadLen self len
  | prepend len => exact follows_prepend self len
  | extendTail len => exact follows_extendTail self len
  | trimFront len => exact follows_trimFront self len
  | truncate len => exact follows_truncate self len
  | setRange start stop => exact follows_setRange self start stop

/-- An operation goes through as on the buffer, or fails and leaves the words as they are. -/
theorem performed (operation : RangeOperation) :
    (∃ after, operation.onBuf self = some after ∧
      operation.perform.exec self.raw = (.ok (operation.area self), after.raw)) ∨
    operation.onBuf self = none ∧
      ∃ reason, operation.perform.exec self.raw = (.error reason, self.raw) := by
  have follows := follows self operation
  cases outcome : operation.onBuf self with
  | some after =>
    rw [outcome] at follows
    exact Or.inl ⟨after, rfl, follows⟩
  | none =>
    rw [outcome] at follows
    exact Or.inr ⟨rfl, follows⟩

end RangeOperation

/-!
### Runs
-/

theorem PacketBuf.write_raw (offset : Nat) (bytes : List U8) :
    self.raw.write offset bytes = (self.write offset bytes).raw := by
  rw [RawPacket.write, PacketBuf.raw, self.sized]
  rfl

/-- Every event leads from a buffer that keeps its invariant to another. -/
theorem step_raw (event : PacketEvent) :
    ∃ after : PacketBuf, (self.raw.step event).1 = after.raw := by
  cases event with
  | operate operation =>
    rcases operation.performed self with ⟨after, -, done⟩ | ⟨-, _, failed⟩
    · exact ⟨after, congrArg Prod.snd done⟩
    · exact ⟨self, congrArg Prod.snd failed⟩
  | write offset bytes => exact ⟨_, self.write_raw offset bytes⟩

theorem reached_raw (events : List PacketEvent) :
    ∃ after : PacketBuf, (Transducer.run RawPacket.step self.raw events).1 = after.raw :=
  @Transducer.run_invariant _ _ _ RawPacket.step (fun packet => ∃ after : PacketBuf,
    packet = after.raw) (fun _ event sound => by
      obtain ⟨before, rfl⟩ := sound
      exact step_raw before event) _ events ⟨self, rfl⟩

theorem error_unchanged {operation : RangeOperation} {reason : String} {after : RawPacket}
    (failed : operation.perform.exec self.raw = (.error reason, after)) : after = self.raw := by
  rcases operation.performed self with ⟨_, -, done⟩ | ⟨-, _, same⟩
  · rw [done] at failed
    cases failed
  · rw [same] at failed
    exact (congrArg Prod.snd failed).symm

/-- An area that is handed out lies inside the storage. -/
theorem area_inside {operation : RangeOperation} {area : Area} {after : RawPacket}
    (made : operation.perform.exec self.raw = (.ok (some area), after)) :
    area.start.toNat ≤ area.stop.toNat ∧ area.stop.toNat ≤ packetCapacity := by
  have start := self.toNat_start
  have stop := self.toNat_stop
  have ordered := self.ordered
  have bounded := self.bounded
  rcases operation.performed self with ⟨packet, done, same⟩ | ⟨-, _, same⟩
  · rw [same] at made
    have handed := Except.ok.inj (congrArg Prod.fst made)
    cases operation with
    | prepend len =>
      obtain rfl := Option.some.inj handed
      have low : (BitVec.ofNat 64 (self.start - len.toNat)).toNat ≤ self.start :=
        (Nat.mod_le _ _).trans (Nat.sub_le _ _)
      exact ⟨low.trans_eq start.symm, start.trans_le (ordered.trans bounded)⟩
    | extendTail len =>
      obtain rfl := Option.some.inj handed
      have after := packet.toNat_stop
      rw [RangeOperation.onBuf, PacketBuf.extendTail] at done
      split at done
      · next fits =>
          obtain rfl := Option.some.inj done
          exact ⟨(stop.trans_le (Nat.le_add_right _ _)).trans_eq after.symm, after.trans_le fits⟩
      · cases done
    | _ => cases handed
  · rw [same] at made
    cases made

theorem PacketBuf.raw_bytes : self.raw.bytes = self.asSlice := by
  rw [RawPacket.bytes, self.toNat_start, self.toNat_stop]
  rfl

/-- Bytes written before a range are not seen in it. -/
theorem PacketBuf.asSlice_of_write {filled : PacketBuf} {offset : Nat} {bytes : List U8}
    (storage : filled.storage = (self.write offset bytes).storage)
    (start : filled.start = self.start) (stop : filled.stop = self.stop)
    (before : offset + bytes.length ≤ self.start) : filled.asSlice = self.asSlice := by
  apply List.ext_getElem?
  intro index
  have length : filled.len = self.len := by rw [PacketBuf.len, PacketBuf.len, start, stop]
  rw [getElem?_asSlice, getElem?_asSlice, length, start, storage]
  split
  · next within =>
      have bounded := self.bounded
      rw [PacketBuf.len] at within
      rw [getElem?_write self offset bytes (by omega), if_neg (by omega)]
  · rfl

/-- What is prepended and trimmed away again leaves the packet as it was, whatever was written
before it. -/
theorem prepend_trimFront {len : U64} {area : Area} {prepended : RawPacket}
    (made : (RangeOperation.prepend len).perform.exec self.raw = (.ok (some area), prepended))
    {bytes : List U8} (fits : bytes.length ≤ len.toNat) :
    ∃ trimmed, (RangeOperation.trimFront len).perform.exec
        (prepended.write area.start.toNat bytes) = (.ok none, trimmed) ∧
      trimmed.start = self.raw.start ∧ trimmed.stop = self.raw.stop ∧
        trimmed.bytes = self.raw.bytes := by
  have ordered := self.ordered
  rcases (RangeOperation.prepend len).performed self with ⟨packet, outcome, done⟩ | ⟨-, _, failed⟩
  · rw [done] at made
    obtain rfl : packet.raw = prepended := congrArg Prod.snd made
    obtain rfl := Option.some.inj (Except.ok.inj (congrArg Prod.fst made))
    rw [RangeOperation.onBuf, PacketBuf.prepend] at outcome
    split at outcome
    · next room =>
        obtain rfl := Option.some.inj outcome
        have small : self.start < 2 ^ 64 := self.toNat_start ▸ self.raw.start.isLt
        have offset : (BitVec.ofNat 64 (self.start - len.toNat)).toNat = self.start - len.toNat :=
          Nat.mod_eq_of_lt (by omega)
        rw [offset, PacketBuf.write_raw]
        rcases (RangeOperation.trimFront len).performed (PacketBuf.write _ _ bytes) with
          ⟨trimmed, cut, done⟩ | ⟨cut, -⟩
        · refine ⟨trimmed.raw, done, ?_⟩
          rw [RangeOperation.onBuf, PacketBuf.trimFront] at cut
          split at cut
          · obtain rfl := Option.some.inj cut
            have start : self.start - len.toNat + len.toNat = self.start :=
              Nat.sub_add_cancel room
            refine ⟨congrArg (BitVec.ofNat 64) start, rfl, ?_⟩
            rw [PacketBuf.raw_bytes, PacketBuf.raw_bytes]
            exact self.asSlice_of_write rfl start rfl (by omega)
          · cases cut
        · rw [RangeOperation.onBuf, PacketBuf.trimFront, dif_pos] at cut
          · cases cut
          · change len.toNat ≤ self.stop - (self.start - len.toNat)
            omega
    · cases outcome
  · rw [failed] at made
    cases made

/-- In every run of range operations and writes the range stays ordered and inside the storage, an
operation that fails changes nothing, an area that is handed out lies inside the storage, and what
is prepended and trimmed away again leaves the packet as it was. -/
theorem packet_range_invariant (packet : PacketBuf) (events : List PacketEvent) :
    let reached := (Transducer.run RawPacket.step packet.raw events).1
    (reached.start.toNat ≤ reached.stop.toNat ∧ reached.stop.toNat ≤ packetCapacity ∧
      reached.storage.length = packetCapacity) ∧
    (∀ (operation : RangeOperation) reason after,
      operation.perform.exec reached = (.error reason, after) → after = reached) ∧
    (∀ (operation : RangeOperation) area after,
      operation.perform.exec reached = (.ok (some area), after) →
        area.start.toNat ≤ area.stop.toNat ∧ area.stop.toNat ≤ packetCapacity) ∧
    ∀ len area prepended bytes,
      (RangeOperation.prepend len).perform.exec reached = (.ok (some area), prepended) →
      List.length bytes ≤ len.toNat →
      ∃ trimmed, (RangeOperation.trimFront len).perform.exec
          (prepended.write area.start.toNat bytes) = (.ok none, trimmed) ∧
        trimmed.start = reached.start ∧ trimmed.stop = reached.stop ∧
          trimmed.bytes = reached.bytes := by
  intro reached
  obtain ⟨after, same⟩ : ∃ after : PacketBuf, reached = after.raw := reached_raw packet events
  rw [same]
  refine ⟨⟨?_, ?_, after.sized⟩, fun _ _ _ failed => error_unchanged after failed,
    fun _ _ _ made => area_inside after made,
    fun _ _ _ _ made fits => prepend_trimFront after made fits⟩
  · rw [after.toNat_start, after.toNat_stop]
    exact after.ordered
  · rw [after.toNat_stop]
    exact after.bounded

end Csqtt
