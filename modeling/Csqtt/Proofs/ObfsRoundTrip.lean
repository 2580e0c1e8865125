/-
Module: Csqtt.Proofs.ObfsRoundTrip
Purpose: Unwrapping undoes wrapping, a packet that is not wrapped is left alone, and no
  received bytes lead outside of the packet.
Trusted boundary: the ciphers are correct
Main exports: Yields, unwrap_inside, unwrap_wrap, obfs_round_trip
-/
import Csqtt.Engine.ObfsCiphers
import Csqtt.Proofs.NonceUse

namespace Csqtt

/-!
### Inside the packet
-/

/-- No access outside of the packet, and what holds of the value if there is one. -/
def Yields {Value : Type} (result : Except UnwrapFault Value) (post : Value → Prop) : Prop :=
  match result with
  | .ok value => post value
  | .error fault => fault ≠ .outside

namespace Yields

variable {Value Result : Type} {post : Value → Prop}

theorem bind {first : Except UnwrapFault Value} {next : Value → Except UnwrapFault Result}
    {last : Result → Prop} (here : Yields first post)
    (rest : ∀ value, post value → Yields (next value) last) : Yields (first >>= next) last := by
  cases first with
  | error fault => exact here
  | ok value => exact rest value here

end Yields

theorem yields_bailIf (bad : Prop) [Decidable bad] (reason : String) :
    Yields (bailIf bad reason) fun _ => ¬ bad := by
  rw [bailIf]
  split
  · exact UnwrapFault.noConfusion
  · assumption

theorem yields_difference {whole part : Nat} (fits : part ≤ whole) :
    Yields (difference whole part) (· = whole - part) := by
  rw [difference, if_pos fits]
  rfl

theorem yields_byteIn {wire : List U8} {index : Nat} (within : index < wire.length) :
    Yields (byteIn wire index) (· = wire[index]) := by
  rw [byteIn, List.getElem?_eq_getElem within]
  rfl

theorem yields_bytesIn {wire : List U8} {start stop : Nat} (ordered : start ≤ stop)
    (within : stop ≤ wire.length) :
    Yields (bytesIn wire start stop) (· = wire.extract start stop) := by
  rw [bytesIn, if_pos ⟨ordered, within⟩]
  rfl

namespace PacketBuf

theorem yields_byteWithin {self : PacketBuf} {index : Nat} (low : self.start ≤ index)
    (high : index < self.stop) :
    Yields (self.byteWithin index) fun byte => self.storage[index]? = some byte := by
  have within : index < self.storage.length := by
    rw [self.sized]
    exact Nat.lt_of_lt_of_le high self.bounded
  rw [byteWithin, if_pos ⟨low, high⟩, byteIn, List.getElem?_eq_getElem within]
  rfl

theorem yields_bytesWithin {self : PacketBuf} {start stop : Nat} (low : self.start ≤ start)
    (ordered : start ≤ stop) (high : stop ≤ self.stop) :
    Yields (self.bytesWithin start stop) (· = self.storage.extract start stop) := by
  rw [bytesWithin, if_pos ⟨low, high⟩]
  apply yields_bytesIn ordered
  rw [self.sized]
  exact Nat.le_trans high self.bounded

theorem narrowed_inside (self : PacketBuf) (start stop : Nat) (sequence : U16) :
    (self.narrowed start stop sequence).2 ≠ .error .outside := by
  rw [narrowed]
  split
  · rintro ⟨⟩
  · rintro ⟨⟩

end PacketBuf

theorem yields_headerLength (wire : List U8) (first : U8) :
    Yields (headerLength wire first) (12 ≤ ·) := by
  rw [headerLength]
  split
  · exact Nat.le_refl 12
  · apply Yields.bind (yields_bailIf _ _)
    intro _ long
    apply Yields.bind (yields_bytesIn (by decide) (Nat.le_of_not_lt long))
    intro words _
    exact Nat.le_add_right 12 _

theorem yields_readFields (wire : List U8) :
    Yields (readFields wire) fun fields =>
      13 ≤ wire.length ∧ 12 ≤ fields.headerLen ∧ fields.headerLen ≤ wire.length := by
  rw [readFields]
  apply Yields.bind (yields_bailIf _ _)
  intro _ short
  have long := Nat.le_of_not_lt short
  have reach {index : Nat} (small : index ≤ 12) : index < wire.length :=
    Nat.lt_of_lt_of_le (Nat.lt_succ_of_le small) long
  apply Yields.bind (yields_byteIn (reach (by decide)))
  intro first _
  apply Yields.bind (yields_bailIf _ _)
  intro _ _
  apply Yields.bind (yields_byteIn (reach (by decide)))
  intro second _
  apply Yields.bind (yields_bailIf _ _)
  intro _ _
  apply Yields.bind (yields_bytesIn (by decide) (Nat.le_of_lt (reach (by decide))))
  intro sequence _
  apply Yields.bind (yields_bytesIn (by decide) (Nat.le_of_lt (reach (by decide))))
  intro timestamp _
  apply Yields.bind (yields_bytesIn (by decide) (Nat.le_of_lt (reach (by decide))))
  intro ssrc _
  apply Yields.bind (yields_headerLength wire first)
  intro headerLen least
  apply Yields.bind (yields_bailIf _ _)
  intro _ whole
  exact ⟨long, least, Nat.le_of_not_lt whole⟩

/-- Padding is taken off down to the end of the header at most. -/
theorem yields_paddedEnd {packet : PacketBuf} {headerLen stop : Nat} (stage : String)
    (behind : packet.start + headerLen ≤ stop) (some : packet.start < stop)
    (within : stop ≤ packet.stop) :
    Yields (paddedEnd packet headerLen stop stage) fun payloadEnd =>
      packet.start + headerLen ≤ payloadEnd ∧ payloadEnd ≤ stop := by
  rw [paddedEnd]
  apply Yields.bind (PacketBuf.yields_byteWithin (Nat.le_refl _) (Nat.lt_of_lt_of_le some within))
  intro first _
  split
  · exact ⟨behind, Nat.le_refl _⟩
  · apply Yields.bind (yields_difference (Nat.one_le_of_lt some))
    intro last same
    have low : packet.start ≤ last := same ▸ Nat.le_sub_one_of_lt some
    have high : last < packet.stop := by omega
    apply Yields.bind (PacketBuf.yields_byteWithin low high)
    intro padding _
    apply Yields.bind (yields_bailIf _ _)
    intro _ _
    apply Yields.bind (yields_difference (Nat.le_of_lt some))
    intro used isUsed
    apply Yields.bind (yields_difference (by omega))
    intro room isRoom
    apply Yields.bind (yields_bailIf _ _)
    intro _ enough
    rw [difference, if_pos (by omega)]
    exact ⟨by omega, Nat.sub_le _ _⟩

theorem yields_srtpPart (cipher : OpeningCipher) (packet : PacketBuf) {fields : RtpFields}
    (least : 12 ≤ fields.headerLen) :
    Yields (srtpPart cipher packet fields) fun _ => True := by
  rw [srtpPart]
  apply Yields.bind (yields_bailIf _ _)
  intro _ short
  have long : fields.headerLen + 10 ≤ packet.stop - packet.start := Nat.le_of_not_lt short
  apply Yields.bind (yields_difference (by omega))
  rintro tagStart rfl
  apply Yields.bind (PacketBuf.yields_bytesWithin (Nat.le_refl _) (by omega) (Nat.sub_le _ _))
  intro signed _
  apply Yields.bind (PacketBuf.yields_bytesWithin (by omega) (Nat.sub_le _ _) (Nat.le_refl _))
  intro tag _
  apply Yields.bind (yields_bailIf _ _)
  intro _ _
  apply Yields.bind (yields_paddedEnd _ (by omega) (by omega) (Nat.sub_le _ _))
  intro payloadEnd ⟨behind, before⟩
  have within := Nat.le_trans before (Nat.sub_le packet.stop 10)
  apply Yields.bind (PacketBuf.yields_bytesWithin (Nat.le_add_right _ _) behind within)
  intro encrypted _
  trivial

theorem yields_sealedPart {packet : PacketBuf} {fields : RtpFields}
    (least : 12 ≤ fields.headerLen) (whole : fields.headerLen ≤ packet.len) :
    Yields (sealedPart packet fields) fun _ => True := by
  have long : fields.headerLen ≤ packet.stop - packet.start := whole
  rw [sealedPart]
  apply Yields.bind (yields_bailIf _ _)
  intro _ _
  apply Yields.bind (yields_paddedEnd _ (by omega) (by omega) (Nat.le_refl _))
  intro payloadEnd ⟨_, before⟩
  apply Yields.bind (yields_bailIf _ _)
  intro _ some
  apply Yields.bind (yields_difference (by omega))
  rintro tagStart rfl
  apply Yields.bind (PacketBuf.yields_bytesWithin (by omega) (Nat.sub_le _ _) before)
  intro tag _
  apply Yields.bind
    (PacketBuf.yields_bytesWithin (Nat.le_refl _) (Nat.le_add_right _ _) (by omega))
  intro aad _
  apply Yields.bind (PacketBuf.yields_bytesWithin (Nat.le_add_right _ _) (by omega) (by omega))
  intro encrypted _
  trivial

/-- Whatever was received, it is not read outside of the packet. -/
theorem unwrap_inside (cipher : OpeningCipher) (packet : PacketBuf) (mode : ObfsMode) :
    (unwrap cipher packet mode).2 ≠ .error .outside := by
  have header := yields_readFields packet.asSlice
  rw [unwrap]
  cases read : readFields packet.asSlice with
  | error fault =>
      rw [read] at header
      exact fun outside => header (by cases outside; rfl)
  | ok fields =>
      rw [read] at header
      obtain ⟨-, least, whole⟩ := header
      rw [PacketBuf.length_asSlice] at whole
      cases mode with
      | video =>
          have yields := yields_srtpPart cipher packet least
          dsimp only
          cases found : srtpPart cipher packet fields with
          | error fault =>
              rw [found] at yields
              exact fun outside => yields (by cases outside; rfl)
          | ok part => exact PacketBuf.narrowed_inside _ _ _ _
      | audio =>
          have yields := yields_sealedPart least whole
          dsimp only
          cases found : sealedPart packet fields with
          | error fault =>
              rw [found] at yields
              exact fun outside => yields (by cases outside; rfl)
          | ok part =>
              dsimp only
              split
              · exact PacketBuf.narrowed_inside _ _ _ _
              · rintro ⟨⟩

/-!
### What was wrapped
-/

theorem ok_bind {Value Result : Type} (value : Value)
    (next : Value → Except UnwrapFault Result) : (Except.ok value >>= next) = next value := rfl

theorem bailIf_pass {bad : Prop} [Decidable bad] {Result : Type} (reason : String)
    (next : Unit → Except UnwrapFault Result) (good : ¬ bad) :
    (bailIf bad reason >>= next) = next () := by
  rw [bailIf, if_neg good]
  rfl

namespace PacketBuf

theorem extract_asSlice {self : PacketBuf} {front middle back : List U8}
    (wire : self.asSlice = front ++ middle ++ back) :
    self.storage.extract (self.start + front.length)
      (self.start + front.length + middle.length) = middle := by
  have length := congrArg List.length wire
  rw [length_asSlice, len, List.length_append, List.length_append] at length
  have whole : self.asSlice.extract front.length (front.length + middle.length) = middle := by
    rw [wire, List.append_assoc, List.extract_eq_take_drop, List.drop_left,
      Nat.add_sub_cancel_left, List.take_left]
  rw [asSlice, List.extract_eq_take_drop, List.extract_eq_take_drop, List.drop_take,
    List.take_take, List.drop_drop, Nat.add_sub_cancel_left, Nat.min_eq_left (by omega)] at whole
  rw [List.extract_eq_take_drop, Nat.add_sub_cancel_left]
  exact whole

theorem bytesWithin_slice {self : PacketBuf} {front middle back : List U8} {start stop : Nat}
    (wire : self.asSlice = front ++ middle ++ back) (begins : start = self.start + front.length)
    (ends : stop = self.start + front.length + middle.length) :
    self.bytesWithin start stop = .ok middle := by
  have length := congrArg List.length wire
  rw [length_asSlice, len, List.length_append, List.length_append] at length
  have bounded := self.bounded
  have ordered := self.ordered
  rw [bytesWithin, if_pos ⟨by omega, by omega⟩, bytesIn, if_pos ⟨by omega, by rw [self.sized]; omega⟩,
    begins, ends, extract_asSlice wire]

theorem byteWithin_slice {self : PacketBuf} {front back : List U8} {byte : U8} {index : Nat}
    (wire : self.asSlice = front ++ byte :: back) (here : index = self.start + front.length) :
    self.byteWithin index = .ok byte := by
  have length := congrArg List.length wire
  rw [length_asSlice, len, List.length_append, List.length_cons] at length
  have found : self.asSlice[front.length]? = some byte := by
    rw [wire, List.getElem?_append_right (Nat.le_refl _), Nat.sub_self]
    rfl
  rw [getElem?_asSlice, if_pos (by rw [len]; omega)] at found
  rw [here, byteWithin, if_pos ⟨by omega, by omega⟩, byteIn, found]

theorem byteWithin_first {self : PacketBuf} {first : U8} {rest : List U8}
    (wire : self.asSlice = first :: rest) : self.byteWithin self.start = .ok first :=
  @byteWithin_slice self [] rest first _ wire rfl

/-- The payload put in place is what the packet then is. -/
theorem narrowed_write {self : PacketBuf} {start : Nat} {bytes : List U8} (sequence : U16)
    (fits : start + bytes.length ≤ packetCapacity) :
    ∃ packet, (self.write start bytes).narrowed start (start + bytes.length) sequence =
      (packet, .ok sequence) ∧ packet.asSlice = bytes := by
  rw [narrowed, setRange, dif_pos ⟨Nat.le_add_right _ _, fits⟩]
  refine ⟨_, rfl, ?_⟩
  have front : (self.storage.take start).length = start := by
    rw [List.length_take, self.sized]
    exact Nat.min_eq_left (Nat.le_trans (Nat.le_add_right _ _) fits)
  have whole : bytes.take (packetCapacity - start) = bytes :=
    List.take_of_length_le (Nat.le_sub_of_add_le' fits)
  change (self.storage.take start ++ bytes.take (packetCapacity - start) ++
    self.storage.drop (start + bytes.length)).extract start (start + bytes.length) = bytes
  rw [whole, List.append_assoc, List.extract_eq_take_drop, Nat.add_sub_cancel_left]
  nth_rewrite 1 [← front]
  rw [List.drop_left, List.take_left]

end PacketBuf

theorem paddingBytes_eq {Rng : Type*} (random : RandomSource Rng) (rng : Rng) (count : Nat) :
    ∃ filler, (paddingBytes random rng count).1 = filler ++ [BitVec.ofNat 8 (count + 1)] ∧
      filler.length = count := by
  rw [paddingBytes]
  split
  · next none => exact ⟨[], rfl, none.symm⟩
  · exact ⟨_, rfl, random.length_bytes rng count⟩

/-- The last byte of the padding leads back to where it began. -/
theorem paddedEnd_eq {packet : PacketBuf} {headerLen payloadEnd count : Nat} {first : U8}
    (stage : String) (begins : packet.byteWithin packet.start = .ok first)
    (padded : first &&& 0x20 ≠ 0)
    (ends : packet.byteWithin (payloadEnd + count) = .ok (BitVec.ofNat 8 (count + 1)))
    (small : count < 255) (behind : packet.start + headerLen ≤ payloadEnd) :
    paddedEnd packet headerLen (payloadEnd + (count + 1)) stage = .ok payloadEnd := by
  have counted : (BitVec.ofNat 8 (count + 1)).toNat = count + 1 :=
    Nat.mod_eq_of_lt (Nat.succ_lt_succ small)
  have last : difference (payloadEnd + (count + 1)) 1 = .ok (payloadEnd + count) :=
    if_pos (Nat.le_add_left 1 _)
  have used : difference (payloadEnd + (count + 1)) packet.start =
      .ok (payloadEnd + (count + 1) - packet.start) := if_pos (by omega)
  have room : difference (payloadEnd + (count + 1) - packet.start) headerLen =
      .ok (payloadEnd + (count + 1) - packet.start - headerLen) := if_pos (by omega)
  have rest : difference (payloadEnd + (count + 1)) (count + 1) = .ok payloadEnd := by
    rw [difference, if_pos (Nat.le_add_left _ _), Nat.add_sub_cancel]
  rw [paddedEnd, begins, ok_bind, if_neg padded, last, ok_bind, ends, ok_bind, counted]
  dsimp only
  rw [bailIf_pass _ _ (Nat.succ_ne_zero count), used, ok_bind, room, ok_bind,
    bailIf_pass _ _ (by omega), rest]

section Header

variable {config : ObfsConfig} (marker : Bool) (sequence : U16)
  (timestamp absoluteSendTime : U32) (transportSequence : U16) (body : List U8)

/-- The header says how it was made. -/
theorem readFields_rtpHeader (known : config.payloadType = 111 ∨ config.payloadType = 96) :
    readFields (rtpHeader config marker sequence timestamp absoluteSendTime transportSequence ++
      body) = .ok {
        payloadType := config.payloadType
        sequence := sequence
        timestamp := timestamp
        ssrc := config.ssrc
        headerLen := 24 } := by
  have long : 24 ≤ (rtpHeader config marker sequence timestamp absoluteSendTime
      transportSequence ++ body).length := by
    rw [List.length_append, length_rtpHeader]
    exact Nat.le_add_right _ _
  have within {start stop : Nat} (ordered : start ≤ stop) (small : stop ≤ 24) :
      bytesIn (rtpHeader config marker sequence timestamp absoluteSendTime transportSequence ++
        body) start stop = .ok ((rtpHeader config marker sequence timestamp absoluteSendTime
          transportSequence ++ body).extract start stop) :=
    if_pos ⟨ordered, Nat.le_trans small long⟩
  have first : byteIn (rtpHeader config marker sequence timestamp absoluteSendTime
      transportSequence ++ body) 0 = .ok 0xb0 := rfl
  have second : byteIn (rtpHeader config marker sequence timestamp absoluteSendTime
      transportSequence ++ body) 1 =
        .ok ((config.payloadType &&& 0x7f) ||| (if marker then 0x80 else 0)) := rfl
  have words : (rtpHeader config marker sequence timestamp absoluteSendTime transportSequence ++
      body).extract 14 16 = [0, 2] := by
    rfl
  have length : headerLength (rtpHeader config marker sequence timestamp absoluteSendTime
      transportSequence ++ body) 0xb0 = .ok 24 := by
    rw [headerLength, if_neg (by decide), bailIf_pass _ _ (by omega), within (by decide) (by decide),
      ok_bind, words]
    rfl
  have payloadType : ((config.payloadType &&& 0x7f) ||| (if marker then 0x80 else 0)) &&& 0x7f =
      config.payloadType := by
    rcases known with known | known
    · rw [known]
      cases marker with
      | true => rfl
      | false => rfl
    · rw [known]
      cases marker with
      | true => rfl
      | false => rfl
  rw [readFields, bailIf_pass _ _ (by omega), first, ok_bind, bailIf_pass _ _ (by decide), second,
    ok_bind, payloadType]
  dsimp only
  have supported : ¬ (config.payloadType ≠ 111 ∧ config.payloadType ≠ 96 ∧
      config.payloadType ≠ 6) := fun unknown =>
    known.elim (fun audio => unknown.1 audio) fun video => unknown.2.1 video
  rw [bailIf_pass _ _ supported, within (by decide) (by decide), within (by decide) (by decide),
    within (by decide) (by decide), ok_bind, ok_bind, ok_bind, length, ok_bind,
    bailIf_pass _ _ (Nat.not_lt_of_le long), extract_sequence, extract_timestamp, extract_ssrc,
    @ofNat_beValue_beBytes 16 2 sequence rfl, @ofNat_beValue_beBytes 32 4 timestamp rfl,
    @ofNat_beValue_beBytes 32 4 config.ssrc rfl]
  rfl

end Header

section RoundTrip

variable {Rng : Type*} {cipher : OpeningCipher} {packet : PacketBuf} {header payload : List U8}
  (random : RandomSource Rng) (rng : Rng) (count : Nat)

/-- A payload under the keystream, with padding and MAC behind it, is found. -/
theorem srtpPart_protected (fields : RtpFields) (headed : header.length = fields.headerLen)
    (padded : ∃ first rest, header = first :: rest ∧ first &&& 0x20 ≠ 0) (small : count < 255)
    (encrypted : List U8)
    (wire : packet.asSlice = header ++ encrypted ++ (paddingBytes random rng count).1 ++
      (cipher.hmac (header ++ encrypted ++ (paddingBytes random rng count).1)).take 10) :
    ∃ part, srtpPart cipher packet fields = .ok part ∧
      part.start = packet.start + fields.headerLen ∧
      part.stop = packet.start + fields.headerLen + encrypted.length ∧
      part.encrypted = encrypted := by
  obtain ⟨filler, padding, filled⟩ := paddingBytes_eq random rng count
  obtain ⟨first, rest, starts, bit⟩ := padded
  rw [padding] at wire
  generalize signed : header ++ encrypted ++ (filler ++ [BitVec.ofNat 8 (count + 1)]) = front at wire
  have tagLength : ((cipher.hmac front).take 10).length = 10 := by
    rw [List.length_take, cipher.length_hmac]
    rfl
  have split : front = header ++ encrypted ++ filler ++ [BitVec.ofNat 8 (count + 1)] := by
    rw [← signed, List.append_assoc (header ++ encrypted)]
  have frontLength : front.length = fields.headerLen + encrypted.length + (count + 1) := by
    simp [← signed, headed, filled, Nat.add_assoc]
  have length := congrArg List.length wire
  rw [PacketBuf.length_asSlice, PacketBuf.len, List.length_append, tagLength, frontLength] at length
  have ordered := packet.ordered
  have tagStart : difference packet.stop 10 =
      .ok (packet.start + fields.headerLen + encrypted.length + (count + 1)) := by
    rw [difference, if_pos (by omega)]
    congr 1
    omega
  have covered : packet.bytesWithin packet.start
      (packet.start + fields.headerLen + encrypted.length + (count + 1)) = .ok front :=
    @PacketBuf.bytesWithin_slice packet [] front _ _ _ wire rfl (by simp [frontLength, Nat.add_assoc])
  have tag : packet.bytesWithin
      (packet.start + fields.headerLen + encrypted.length + (count + 1)) packet.stop =
        .ok ((cipher.hmac front).take 10) :=
    @PacketBuf.bytesWithin_slice packet front _ [] _ _ (by rw [wire, List.append_nil])
      (by rw [frontLength]; omega) (by rw [frontLength, tagLength]; omega)
  have genuine : verifyTruncatedLeft (cipher.hmac front) ((cipher.hmac front).take 10) = true := by
    rw [verifyTruncatedLeft, tagLength, cipher.length_hmac, beq_self_eq_true]
    cases taken : (cipher.hmac front).take 10 with
    | nil =>
        rw [taken] at tagLength
        cases tagLength
    | cons byte bytes => rfl
  have begins : packet.byteWithin packet.start = .ok first :=
    PacketBuf.byteWithin_first (by rw [wire, ← signed, starts]; rfl)
  have ends : packet.byteWithin (packet.start + fields.headerLen + encrypted.length + count) =
      .ok (BitVec.ofNat 8 (count + 1)) :=
    @PacketBuf.byteWithin_slice packet (header ++ encrypted ++ filler)
      ((cipher.hmac front).take 10) _ _ (wire.trans (by rw [List.append_cons, ← split]))
      (by simp [headed, filled, Nat.add_assoc])
  have inner : packet.bytesWithin (packet.start + fields.headerLen)
      (packet.start + fields.headerLen + encrypted.length) = .ok encrypted :=
    @PacketBuf.bytesWithin_slice packet header encrypted _ _ _
      (by rw [wire, ← signed, List.append_assoc (header ++ encrypted)])
      (by rw [headed]) (by rw [headed])
  rw [srtpPart, bailIf_pass _ _ (by rw [PacketBuf.len]; omega), tagStart, ok_bind, covered, ok_bind,
    tag, ok_bind, bailIf_pass _ _ (by rw [genuine]; exact Bool.noConfusion),
    paddedEnd_eq _ begins bit ends small (Nat.le_add_right _ _), ok_bind]
  dsimp only
  rw [inner]
  exact ⟨_, rfl, rfl, rfl, rfl⟩

/-- A sealed payload, with tag and padding behind it, is found. -/
theorem sealedPart_protected (fields : RtpFields) (headed : header.length = fields.headerLen)
    (padded : ∃ first rest, header = first :: rest ∧ first &&& 0x20 ≠ 0) (small : count < 255)
    (audio : fields.payloadType = 111) {encrypted tag : List U8} (some : encrypted ≠ [])
    (sized : tag.length = 16)
    (wire : packet.asSlice = header ++ encrypted ++ tag ++ (paddingBytes random rng count).1) :
    ∃ part, sealedPart packet fields = .ok part ∧
      part.start = packet.start + fields.headerLen ∧
      part.stop = packet.start + fields.headerLen + encrypted.length ∧
      part.encrypted = encrypted ∧ part.aad = header ∧ part.tag = tag := by
  obtain ⟨filler, padding, filled⟩ := paddingBytes_eq random rng count
  obtain ⟨first, rest, starts, bit⟩ := padded
  rw [padding] at wire
  have length := congrArg List.length wire
  simp only [PacketBuf.length_asSlice, PacketBuf.len, List.length_append, sized, headed, filled,
    List.length_singleton] at length
  have ordered := packet.ordered
  have long := List.length_pos_of_ne_nil some
  have stop : packet.stop =
      packet.start + fields.headerLen + encrypted.length + 16 + (count + 1) := by omega
  have begins : packet.byteWithin packet.start = .ok first :=
    PacketBuf.byteWithin_first (by rw [wire, starts]; rfl)
  have ends : packet.byteWithin (packet.start + fields.headerLen + encrypted.length + 16 + count) =
      .ok (BitVec.ofNat 8 (count + 1)) :=
    @PacketBuf.byteWithin_slice packet (header ++ encrypted ++ tag ++ filler) [] _ _
      (by rw [wire]; simp) (by simp [headed, filled, sized, Nat.add_assoc])
  have tagStart : difference (packet.start + fields.headerLen + encrypted.length + 16) 16 =
      .ok (packet.start + fields.headerLen + encrypted.length) := by
    rw [difference, if_pos (Nat.le_add_left _ _), Nat.add_sub_cancel]
  have tagBytes : packet.bytesWithin (packet.start + fields.headerLen + encrypted.length)
      (packet.start + fields.headerLen + encrypted.length + 16) = .ok tag :=
    @PacketBuf.bytesWithin_slice packet (header ++ encrypted) tag _ _ _ wire
      (by simp [headed, Nat.add_assoc]) (by simp [headed, sized, Nat.add_assoc])
  have aad : packet.bytesWithin packet.start (packet.start + fields.headerLen) = .ok header :=
    @PacketBuf.bytesWithin_slice packet [] header _ _ _
      (by rw [wire, List.append_assoc header, List.append_assoc header]; rfl) rfl (by rw [headed]; rfl)
  have inner : packet.bytesWithin (packet.start + fields.headerLen)
      (packet.start + fields.headerLen + encrypted.length) = .ok encrypted :=
    @PacketBuf.bytesWithin_slice packet header encrypted _ _ _
      (by rw [wire, List.append_assoc (header ++ encrypted)]) (by rw [headed]) (by rw [headed])
  rw [sealedPart, bailIf_pass _ _ (not_not.mpr audio), stop,
    paddedEnd_eq _ begins bit ends small (by omega), ok_bind]
  dsimp only
  rw [bailIf_pass _ _ (by omega), tagStart, ok_bind, tagBytes, ok_bind, aad, ok_bind, inner]
  exact ⟨_, rfl, rfl, rfl, rfl, rfl, rfl⟩

theorem payloadType_new (mode : ObfsMode) (ssrc : U32) :
    (ObfsConfig.new mode ssrc).payloadType = 111 ∨ (ObfsConfig.new mode ssrc).payloadType = 96 := by
  cases mode with
  | audio => exact Or.inl rfl
  | video => exact Or.inr rfl

/-- What was protected is unwrapped, wherever it lies in the packet it is received in. -/
theorem unwrap_protect (correct : cipher.Correct) {mode : ObfsMode} {ssrc : U32} {sequence : U16}
    {timestamp : U32} {extended : PacketBuf} (marker : Bool) (absoluteSendTime : U32)
    (transportSequence : U16) (some : payload ≠ []) (short : payload.length ≤ maxPlaintext)
    (small : count < 255)
    (headed : extended.asSlice.take 24 = rtpHeader (.new mode ssrc) marker sequence timestamp
      absoluteSendTime transportSequence)
    (room : extended.len = 24 + payload.length + tailLen mode (count + 1)) :
    let filled := protect cipher.toObfsCipher random (.new mode ssrc) sequence timestamp count
      (rtpHeader (.new mode ssrc) marker sequence timestamp absoluteSendTime transportSequence)
      payload rng extended
    filled.2 = .ok () ∧ ∀ received : PacketBuf, received.asSlice = filled.1.2.asSlice →
      ∃ opened, unwrap cipher received mode = (opened, .ok sequence) ∧
        opened.asSlice = payload := by
  have headerLength := length_rtpHeader (.new mode ssrc) marker sequence timestamp
    absoluteSendTime transportSequence
  have read (body : List U8) := readFields_rtpHeader marker sequence timestamp absoluteSendTime
    transportSequence body (payloadType_new mode ssrc)
  have starts : ∃ first rest, rtpHeader (.new mode ssrc) marker sequence timestamp
      absoluteSendTime transportSequence = first :: rest ∧ first &&& 0x20 ≠ 0 :=
    ⟨0xb0, _, rfl, by decide⟩
  generalize rtpHeader (.new mode ssrc) marker sequence timestamp absoluteSendTime
    transportSequence = header at headed headerLength read starts ⊢
  have filled (body : List U8) (whole : 24 + body.length = extended.len) :
      (extended.write (extended.start + 24) body).asSlice = header ++ body := by
    rw [PacketBuf.asSlice_write_behind whole, headed]
  have fits {received : PacketBuf} {body : List U8} (arrived : received.asSlice = header ++ body)
      (covers : payload.length ≤ body.length) :
      received.start + 24 + payload.length ≤ packetCapacity := by
    have bounded := received.bounded
    have ordered := received.ordered
    have length := congrArg List.length arrived
    rw [PacketBuf.length_asSlice, PacketBuf.len, List.length_append] at length
    omega
  cases mode with
  | video =>
      refine ⟨rfl, fun received arrived => ?_⟩
      have wire := filled (cipher.applyKeystream (srtpIv ssrc sequence timestamp) payload ++
        (paddingBytes random rng count).1 ++ (cipher.hmac (header ++
          cipher.applyKeystream (srtpIv ssrc sequence timestamp) payload ++
            (paddingBytes random rng count).1)).take 10) (by
        simp only [List.length_append, cipher.length_applyKeystream, length_paddingBytes,
          List.length_take, cipher.length_hmac, room, tailLen]
        omega)
      simp only [protect, ObfsConfig.new] at arrived
      rw [wire] at arrived
      have whole := arrived
      rw [← List.append_assoc, ← List.append_assoc] at whole
      obtain ⟨part, found, start, stop, encrypted⟩ := srtpPart_protected random rng count
        ⟨96, sequence, timestamp, ssrc, 24⟩ headerLength starts small _ whole
      rw [cipher.length_applyKeystream] at stop
      rw [unwrap, arrived, read]
      dsimp only [ObfsConfig.new]
      rw [found]
      dsimp only
      rw [encrypted, correct.unmask, start, stop]
      apply PacketBuf.narrowed_write sequence (fits arrived _)
      rw [List.length_append, List.length_append, cipher.length_applyKeystream, Nat.add_assoc]
      exact Nat.le_add_right _ _
  | audio =>
      obtain ⟨⟨encrypted, tag⟩, sealing⟩ := Option.isSome_iff_exists.mp
        (correct.seals (nonce ssrc sequence timestamp) header payload short)
      obtain ⟨sameLength, tagLength⟩ := cipher.length_seal _ _ _ _ _ sealing
      have someEncrypted : encrypted ≠ [] := by
        rintro rfl
        exact some (List.length_eq_zero_iff.mp sameLength.symm)
      have wire := filled (encrypted ++ tag ++ (paddingBytes random rng count).1) (by
        simp only [List.length_append, sameLength, tagLength, length_paddingBytes, room, tailLen]
        omega)
      simp only [protect, ObfsConfig.new, sealing]
      refine ⟨trivial, fun received arrived => ?_⟩
      rw [wire] at arrived
      have whole := arrived
      rw [← List.append_assoc, ← List.append_assoc] at whole
      obtain ⟨part, found, start, stop, isEncrypted, aad, isTag⟩ := sealedPart_protected random rng
        count ⟨111, sequence, timestamp, ssrc, 24⟩ headerLength starts small rfl someEncrypted
        tagLength whole
      rw [sameLength] at stop
      rw [unwrap, arrived, read]
      dsimp only [ObfsConfig.new]
      rw [found]
      dsimp only
      rw [isEncrypted, aad, isTag, correct.opens _ _ _ _ _ sealing, start, stop, if_pos rfl]
      apply PacketBuf.narrowed_write sequence (fits arrived _)
      rw [List.length_append, List.length_append, sameLength, Nat.add_assoc]
      exact Nat.le_add_right _ _

end RoundTrip

/-!
### Wrapping and back
-/

/-- There is room for the header in front of the packet and for the tail behind it. -/
def Fits {Rng : Type*} (random : RandomSource Rng) (config : ObfsConfig) (state : ObfsState Rng)
    (packet : PacketBuf) : Prop :=
  24 ≤ packet.start ∧
    packet.stop + tailLen config.mode ((drawPadding random config state.rng).1 + 1) ≤
      packetCapacity

section Wrap

variable {Rng : Type*} {cipher : OpeningCipher} {random : RandomSource Rng} {mode : ObfsMode}
  {ssrc : U32} {state : ObfsState Rng} {packet : PacketBuf}

theorem drawPadding_lt (random : RandomSource Rng) (mode : ObfsMode) (ssrc : U32) (rng : Rng) :
    (drawPadding random (.new mode ssrc) rng).1 < (ObfsConfig.new mode ssrc).paddingMax := by
  cases mode with
  | audio => exact random.range_lt rng 24 (by decide)
  | video => exact random.range_lt rng 60 (by decide)

theorem paddingMax_le (mode : ObfsMode) (ssrc : U32) : (ObfsConfig.new mode ssrc).paddingMax ≤ 60 := by
  cases mode with
  | audio => exact (by decide : 24 ≤ 60)
  | video => exact Nat.le_refl 60

/-- A packet that fits is wrapped, and unwrapped again from what arrives of it. -/
theorem unwrap_wrapped (correct : cipher.Correct) (elapsed : Duration)
    (some : packet.isEmpty = false) (fits : Fits random (.new mode ssrc) state packet) :
    (wrap cipher.toObfsCipher random (.new mode ssrc) state elapsed packet).2 = .ok () ∧
      ∀ received : PacketBuf, received.asSlice =
          (wrap cipher.toObfsCipher random (.new mode ssrc) state elapsed packet).1.2.asSlice →
        ∃ opened, unwrap cipher received mode =
            (opened, .ok ((ObfsConfig.new mode ssrc).initialSequence state state.count)) ∧
          opened.asSlice = packet.asSlice := by
  have payload : packet.asSlice ≠ [] := by
    intro none
    have length := packet.length_asSlice
    rw [none] at length
    rw [PacketBuf.isEmpty, ← length] at some
    cases some
  have short : packet.asSlice.length ≤ maxPlaintext := by
    have bounded := packet.bounded
    rw [PacketBuf.length_asSlice, PacketBuf.len]
    exact Nat.le_trans (Nat.sub_le _ _) (Nat.le_trans bounded (by decide))
  have small : (drawPadding random (.new mode ssrc) state.rng).1 < 255 := by
    have drawn := drawPadding_lt random mode ssrc state.rng
    have most := paddingMax_le mode ssrc
    omega
  obtain ⟨marker, absoluteSendTime, rng, extended, headed, -, room, wrapped, result⟩ :=
    wrap_eq_protect cipher.toObfsCipher elapsed some fits.1 fits.2
  have sameMode : (ObfsConfig.new mode ssrc).mode = mode := by
    cases mode with
    | audio => rfl
    | video => rfl
  have sameSsrc : (ObfsConfig.new mode ssrc).ssrc = ssrc := by
    cases mode with
    | audio => rfl
    | video => rfl
  rw [sameMode] at room
  rw [wrapped, result]
  exact unwrap_protect random rng _ correct marker absoluteSendTime state.transportSequence payload
    short small headed room

/-- A packet that fits is wrapped and unwrapped again. -/
theorem unwrap_wrap (correct : cipher.Correct) (elapsed : Duration)
    (some : packet.isEmpty = false) (fits : Fits random (.new mode ssrc) state packet) :
    (wrap cipher.toObfsCipher random (.new mode ssrc) state elapsed packet).2 = .ok () ∧
      ∃ opened, unwrap cipher
          (wrap cipher.toObfsCipher random (.new mode ssrc) state elapsed packet).1.2 mode =
        (opened, .ok ((ObfsConfig.new mode ssrc).initialSequence state state.count)) ∧
        opened.asSlice = packet.asSlice := by
  obtain ⟨succeeds, opens⟩ := unwrap_wrapped correct elapsed some fits
  exact ⟨succeeds, opens _ rfl⟩

/-- A packet that is not wrapped is left as it was. -/
theorem wrap_error (correct : cipher.Correct) {elapsed : Duration} {reason : String}
    (failed : (wrap cipher.toObfsCipher random (.new mode ssrc) state elapsed packet).2 =
      .error reason) :
    (wrap cipher.toObfsCipher random (.new mode ssrc) state elapsed packet).1.2 = packet := by
  cases some : packet.isEmpty with
  | true => simp [wrap, some]
  | false =>
      by_cases fits : Fits random (.new mode ssrc) state packet
      · rw [(unwrap_wrap correct elapsed some fits).1] at failed
        cases failed
      · have tooLarge : packet.start < 24 ∨ packetCapacity < packet.stop +
            tailLen (ObfsConfig.new mode ssrc).mode
              ((drawPadding random (.new mode ssrc) state.rng).1 + 1) := by
          rw [Fits] at fits
          omega
        simp [wrap, some, ObfsState.next, tooLarge]

end Wrap

/-- What is wrapped is unwrapped to what it was, under the number it was given; what is not
wrapped is left alone; and no received bytes lead outside of the packet. -/
theorem obfs_round_trip {Rng : Type*} {cipher : OpeningCipher} (correct : cipher.Correct)
    (random : RandomSource Rng) (mode : ObfsMode) (ssrc : U32) (state : ObfsState Rng)
    (elapsed : Duration) (packet : PacketBuf) :
    (packet.isEmpty = false → Fits random (.new mode ssrc) state packet →
      (wrap cipher.toObfsCipher random (.new mode ssrc) state elapsed packet).2 = .ok () ∧
      ∃ opened, unwrap cipher
          (wrap cipher.toObfsCipher random (.new mode ssrc) state elapsed packet).1.2 mode =
        (opened, .ok ((ObfsConfig.new mode ssrc).initialSequence state state.count)) ∧
        opened.asSlice = packet.asSlice) ∧
    (∀ reason,
      (wrap cipher.toObfsCipher random (.new mode ssrc) state elapsed packet).2 = .error reason →
        (wrap cipher.toObfsCipher random (.new mode ssrc) state elapsed packet).1.2 = packet) ∧
    (unwrap cipher packet mode).2 ≠ .error .outside :=
  ⟨fun some fits => unwrap_wrap correct elapsed some fits, fun _ failed => wrap_error correct failed,
    unwrap_inside cipher packet mode⟩

/-- A generator that counts. -/
def RandomSource.counting : RandomSource Nat where
  range rng bound := (rng % bound, rng + 1)
  bytes rng count := (List.replicate count (BitVec.ofNat 8 rng), rng + 1)
  range_lt rng _ positive := Nat.mod_lt rng positive
  length_bytes _ _ := List.length_replicate

theorem obfs_round_trip_audio :
    ∃ opened, unwrap (.standard (List.replicate 32 7))
        (wrap (OpeningCipher.standard (List.replicate 32 7)).toObfsCipher .counting
          (.new .audio 7) ⟨5, 6, 7, 8, 9, 23⟩ ⟨1, 0, by decide⟩ shortPacket).1.2 .audio =
      (opened, .ok 13) ∧ opened.asSlice = shortPacket.asSlice :=
  ((obfs_round_trip (standard_correct (List.replicate 32 7)) .counting .audio 7
    ⟨5, 6, 7, 8, 9, 23⟩ ⟨1, 0, by decide⟩ shortPacket).1 rfl ⟨by decide, by decide⟩).2

end Csqtt
