/-
Module: Csqtt.Proofs.TurnStream
Purpose: The frames of a byte stream are read as they were written, however the stream is
  cut into reads, and what is not a frame is refused.
Trusted boundary: none
Main exports: StreamFrame, FrameRead, beforeRead_eq, readFrame_valid, readFrame_refuses,
  stream_framing
-/
import Csqtt.Engine.ChannelDataWire
import Csqtt.Proofs.UplinkTotality

namespace Csqtt

/-!
### Frames as they are written
-/

def cookieBytes : List U8 := [0x21, 0x12, 0xa4, 0x42]

/-- The length that the third and fourth byte declare. -/
def declaredLength (bytes : List U8) : Nat := beValue (bytes.extract 2 4)

/-- The first four bytes are those of a control message, aligned and not too long. -/
structure StunStart (bytes : List U8) : Prop where
  kind : byteAt bytes 0 &&& 0xc0 = 0
  aligned : declaredLength bytes % 4 = 0
  short : 20 + declaredLength bytes ≤ maxControlFrameBytes

structure StunHeader (bytes : List U8) : Prop extends StunStart bytes where
  cookie : bytes.extract 4 8 = cookieBytes

/-- The first two bytes are the number of a channel. -/
def ChannelNumber (bytes : List U8) : Prop :=
  0x4000 ≤ beValue (bytes.extract 0 2) ∧ beValue (bytes.extract 0 2) ≤ 0x7fff

/-- The frames that the relay writes, data with its padding. -/
inductive StreamFrame where
  | control (bytes : List U8)
  | data (bytes : List U8)

def StreamFrame.wire : StreamFrame → List U8
  | .control bytes => bytes
  | .data bytes => bytes

def channelPadding (declared : Nat) : Nat := (4 - declared % 4) % 4

/-- A frame is as long as its header says, and not too long. -/
inductive StreamFrame.Valid : StreamFrame → Prop
  | control {bytes : List U8} (header : StunHeader bytes)
      (length : bytes.length = 20 + declaredLength bytes) : Valid (.control bytes)
  | data {bytes : List U8} (channel : ChannelNumber bytes)
      (length : bytes.length =
        4 + declaredLength bytes + channelPadding (declaredLength bytes))
      (short : bytes.length ≤ maxDataFrameBytes) : Valid (.data bytes)

/-- What a frame is read as, with the storage that the pool gives, if any. -/
inductive FrameRead : StreamFrame → Option Storage → TurnStreamFrame → Prop
  | control (bytes : List U8) (storage : Option Storage) :
      FrameRead (.control bytes) storage (.control bytes)
  | data (bytes : List U8) (storage : Storage) (packet : PacketBuf)
      (whole : packet.asSlice = bytes) : FrameRead (.data bytes) (some storage) (.data packet)
  | dropped (bytes : List U8) : FrameRead (.data bytes) none .dataDropped

/-- The bytes of a frame with its padding. -/
def FrameKind.size : FrameKind → Nat
  | .control frameBytes => frameBytes
  | .channelData frameBytes padding => frameBytes + padding

def StreamFrame.kind : StreamFrame → FrameKind
  | .control bytes => .control (20 + declaredLength bytes)
  | .data bytes => .channelData (4 + declaredLength bytes) (channelPadding (declaredLength bytes))

/-!
### The start of a frame
-/

theorem extract_append {bytes : List U8} (rest : List U8) (start : Nat) {stop : Nat}
    (within : stop ≤ bytes.length) :
    (bytes ++ rest).extract start stop = bytes.extract start stop := by
  rw [List.extract_eq_take_drop, List.extract_eq_take_drop]
  by_cases ordered : start ≤ bytes.length
  · rw [List.drop_append_of_le_length ordered, List.take_append_of_le_length]
    rw [List.length_drop]
    exact Nat.sub_le_sub_right within start
  · rw [Nat.sub_eq_zero_of_le (Nat.le_trans within (Nat.le_of_not_le ordered)), List.take_zero,
      List.take_zero]

theorem byteAt_append {bytes : List U8} (rest : List U8) {index : Nat} (within : index < bytes.length) :
    byteAt (bytes ++ rest) index = byteAt bytes index := by
  rw [byteAt, byteAt, List.getD_eq_getElem?_getD, List.getElem?_append_left within,
    List.getD_eq_getElem?_getD]

/-- The top bits of the first byte tell a channel. -/
theorem channelNumber_iff {bytes : List U8} (long : 2 ≤ bytes.length) :
    ChannelNumber bytes ↔ byteAt bytes 0 &&& 0xc0 = 0x40 := by
  obtain ⟨first, second, rest, rfl⟩ : ∃ first second rest, bytes = first :: second :: rest := by
    match bytes, long with
    | first :: second :: rest, _ => exact ⟨first, second, rest, rfl⟩
  have value : beValue ((first :: second :: rest).extract 0 2) =
      first.toNat * 256 + second.toNat := by
    simp [List.extract_eq_take_drop, beValue]
  have bits : ∀ byte : U8, byte &&& 0xc0 = 0x40 ↔ 0x40 ≤ byte.toNat ∧ byte.toNat ≤ 0x7f := by
    decide +kernel
  have small := second.isLt
  rw [ChannelNumber, value, byteAt, List.getD_cons_zero, bits]
  omega

theorem frameStart_short {bytes : List U8} (short : bytes.length < 4) :
    frameStart bytes = .ok none := if_pos short

theorem frameStart_control {bytes : List U8} (long : 4 ≤ bytes.length) (start : StunStart bytes)
    (cookie : 8 ≤ bytes.length → bytes.extract 4 8 = cookieBytes) :
    frameStart bytes =
      .ok (if bytes.length < 8 then none else some (.control (20 + declaredLength bytes))) := by
  obtain ⟨kind, aligned, short⟩ := start
  rw [declaredLength] at aligned short
  rw [frameStart, if_neg (Nat.not_lt_of_le long), if_pos kind, if_neg (not_not.mpr aligned)]
  dsimp only
  rw [if_neg (Nat.not_lt_of_le short)]
  split
  · rfl
  · next enough => exact if_neg (not_not.mpr (cookie (Nat.le_of_not_lt enough)))

theorem frameStart_data {bytes : List U8} (long : 4 ≤ bytes.length)
    (channel : ChannelNumber bytes)
    (short : 4 + declaredLength bytes + channelPadding (declaredLength bytes) ≤
      maxDataFrameBytes) :
    frameStart bytes = .ok (some (.channelData (4 + declaredLength bytes)
      (channelPadding (declaredLength bytes)))) := by
  have kind := (channelNumber_iff (Nat.le_trans (by decide) long)).mp channel
  have other : byteAt bytes 0 &&& 0xc0 ≠ 0 := by
    rw [kind]
    decide
  rw [declaredLength, channelPadding] at short
  rw [frameStart, if_neg (Nat.not_lt_of_le long), if_neg other, if_neg (not_not.mpr kind)]
  exact if_neg (Nat.not_lt_of_le short)

/-- What the first bytes were when more are needed to tell. -/
theorem frameStart_none {bytes : List U8} (unknown : frameStart bytes = .ok none) :
    bytes.length < 4 ∨ bytes.length < 8 ∧ StunStart bytes := by
  unfold frameStart at unknown
  dsimp only at unknown
  split_ifs at unknown with few kind unaligned long header
  · exact .inl few
  · exact .inr ⟨header, kind, not_not.mp unaligned, Nat.le_of_not_lt long⟩
  · cases unknown
  · cases unknown

/-- A frame begins as a control message or with a channel, and its size is bounded. -/
theorem frameStart_some {bytes : List U8} {kind : FrameKind}
    (known : frameStart bytes = .ok (some kind)) :
    kind.size ≤ maxControlFrameBytes ∧
      (8 ≤ bytes.length ∧ StunHeader bytes ∨ 4 ≤ bytes.length ∧ ChannelNumber bytes) := by
  unfold frameStart at known
  dsimp only at known
  split_ifs at known with few control unaligned long header cookie reserved capacity
  · cases known
  · cases known
  · cases known
    exact ⟨Nat.le_of_not_lt long, .inl ⟨Nat.le_of_not_lt header,
      ⟨control, not_not.mp unaligned, Nat.le_of_not_lt long⟩, not_not.mp cookie⟩⟩
  · cases known
    have four := Nat.le_of_not_lt few
    refine ⟨?_, .inr ⟨four, (channelNumber_iff (Nat.le_of_succ_le (Nat.le_of_succ_le four))).mpr
      (not_not.mp reserved)⟩⟩
    calc FrameKind.size (.channelData _ _) ≤ maxDataFrameBytes := Nat.le_of_not_lt capacity
      _ ≤ maxControlFrameBytes := by decide

/-- The bytes of a buffer that agrees with a stream are those of the stream. -/
theorem extract_agree {buffer more bytes rest : List U8} (agrees : buffer ++ more = bytes ++ rest)
    (start : Nat) {stop : Nat} (read : stop ≤ buffer.length) (within : stop ≤ bytes.length) :
    buffer.extract start stop = bytes.extract start stop := by
  rw [← extract_append more start read, agrees, extract_append rest start within]

theorem byteAt_agree {buffer more bytes rest : List U8} (agrees : buffer ++ more = bytes ++ rest)
    {index : Nat} (read : index < buffer.length) (within : index < bytes.length) :
    byteAt buffer index = byteAt bytes index := by
  rw [← byteAt_append more read, agrees, byteAt_append rest within]

theorem StunStart.agree {buffer more bytes rest : List U8}
    (agrees : buffer ++ more = bytes ++ rest) (read : 4 ≤ buffer.length)
    (within : 4 ≤ bytes.length) (start : StunStart bytes) : StunStart buffer := by
  have declared : declaredLength buffer = declaredLength bytes :=
    congrArg beValue (extract_agree agrees 2 read within)
  have first : byteAt buffer 0 = byteAt bytes 0 :=
    byteAt_agree agrees (Nat.lt_of_lt_of_le (by decide) read)
      (Nat.lt_of_lt_of_le (by decide) within)
  exact ⟨first ▸ start.kind, declared ▸ start.aligned, declared ▸ start.short⟩

theorem StunHeader.agree {buffer more bytes rest : List U8}
    (agrees : buffer ++ more = bytes ++ rest) (read : 8 ≤ buffer.length)
    (within : 8 ≤ bytes.length) (header : StunHeader bytes) : StunHeader buffer :=
  ⟨header.toStunStart.agree agrees (Nat.le_trans (by decide) read)
    (Nat.le_trans (by decide) within), (extract_agree agrees 4 read within).trans header.cookie⟩

theorem ChannelNumber.agree {buffer more bytes rest : List U8}
    (agrees : buffer ++ more = bytes ++ rest) (read : 2 ≤ buffer.length)
    (within : 2 ≤ bytes.length) (channel : ChannelNumber bytes) : ChannelNumber buffer := by
  rw [ChannelNumber, extract_agree agrees 0 read within]
  exact channel

/-!
### Frames cut off the buffer
-/

/-- Data becomes a packet if the pool has storage, and is dropped only if it has none. -/
theorem copyChannelData_received {bytes : List U8} (short : bytes.length ≤ maxDataFrameBytes)
    (storage : Option Storage) :
    ∃ frame, copyChannelData bytes storage = .ok frame ∧ FrameRead (.data bytes) storage frame := by
  cases storage with
  | none => exact ⟨.dataDropped, rfl, .dropped bytes⟩
  | some storage =>
    obtain ⟨packet, read⟩ := readInto_isSome storage short
    refine ⟨.data packet, ?_, .data bytes storage packet (readInto_spec read).1⟩
    rw [copyChannelData, read]

namespace StreamFrame.Valid

variable {frame : StreamFrame} {buffer more tail : List U8}

theorem length_wire (valid : frame.Valid) : frame.wire.length = frame.kind.size := by
  cases valid with
  | control _ length => exact length
  | data _ length _ => exact length

theorem header_le (valid : frame.Valid) : 4 ≤ frame.wire.length := by
  rw [valid.length_wire]
  cases valid with
  | control _ _ => exact Nat.le_trans (by decide) (Nat.le_add_right 20 _)
  | data _ _ _ => exact Nat.le_trans (Nat.le_add_right 4 _) (Nat.le_add_right _ _)

theorem length_le (valid : frame.Valid) : frame.wire.length ≤ maxControlFrameBytes := by
  cases valid with
  | control header length => exact length.trans_le header.short
  | data _ _ short => exact Nat.le_trans short (by decide)

/-- As soon as the start of a frame can be told, it is told. -/
theorem start (valid : frame.Valid) (agrees : buffer ++ more = frame.wire ++ tail) :
    buffer.length < frame.wire.length ∧ frameStart buffer = .ok none ∨
      frameStart buffer = .ok (some frame.kind) := by
  have enough := valid.header_le
  by_cases long : 4 ≤ buffer.length
  · have declared : declaredLength buffer = declaredLength frame.wire :=
      congrArg beValue (extract_agree agrees 2 long enough)
    cases valid with
    | @control bytes header length =>
      have whole : 8 ≤ bytes.length := by
        rw [length]
        exact Nat.le_trans (by decide) (Nat.le_add_right 20 _)
      have told := frameStart_control long (header.toStunStart.agree agrees long enough)
        fun read => (extract_agree agrees 4 read whole).trans header.cookie
      rw [told, declared]
      by_cases short : buffer.length < 8
      · rw [if_pos short]
        exact .inl ⟨Nat.lt_of_lt_of_le short whole, rfl⟩
      · rw [if_neg short]
        exact .inr rfl
    | @data bytes channel length short =>
      rw [length] at short
      have two : 2 ≤ 4 := by decide
      have told := frameStart_data long
        (channel.agree agrees (Nat.le_trans two long) (Nat.le_trans two enough))
        (by rw [declared]; exact short)
      rw [told, declared]
      exact .inr rfl
  · have short := Nat.lt_of_not_le long
    exact .inl ⟨Nat.lt_of_lt_of_le short enough, frameStart_short short⟩

/-- Nothing is cut off before the frame is whole. -/
theorem decodeFrame_short (valid : frame.Valid) (storage : Option Storage)
    (agrees : buffer ++ more = frame.wire ++ tail)
    (short : buffer.length < frame.wire.length) : decodeFrame buffer storage = .ok none := by
  obtain ⟨-, unknown⟩ | known := valid.start agrees
  · rw [decodeFrame, unknown]
    rfl
  · rw [valid.length_wire] at short
    cases valid with
    | control _ _ =>
      rw [decodeFrame, known]
      exact if_pos short
    | data _ _ _ =>
      rw [decodeFrame, known]
      exact if_pos short

/-- Once it is, it is cut off and the rest stays. -/
theorem decodeFrame_whole (valid : frame.Valid) (rest : List U8) (storage : Option Storage) :
    ∃ received, decodeFrame (frame.wire ++ rest) storage = .ok (some (received, rest)) ∧
      FrameRead frame storage received := by
  have whole : frame.wire.length ≤ (frame.wire ++ rest).length := by
    rw [List.length_append]
    exact Nat.le_add_right _ _
  obtain ⟨short, -⟩ | known := valid.start (List.append_nil (frame.wire ++ rest))
  · exact absurd short (Nat.not_lt_of_le whole)
  · rw [valid.length_wire] at whole
    have front : (frame.wire ++ rest).take frame.kind.size = frame.wire := by
      rw [← valid.length_wire, List.take_left]
    have back : (frame.wire ++ rest).drop frame.kind.size = rest := by
      rw [← valid.length_wire, List.drop_left]
    cases valid with
    | @control bytes _ _ =>
      refine ⟨.control bytes, ?_, .control bytes storage⟩
      rw [decodeFrame, known]
      refine (if_neg (Nat.not_lt_of_le whole)).trans ?_
      exact congrArg (Except.ok ∘ some) (Prod.ext (congrArg TurnStreamFrame.control front) back)
    | @data bytes _ _ short =>
      obtain ⟨received, copied, meaning⟩ := copyChannelData_received short storage
      refine ⟨received, ?_, meaning⟩
      rw [decodeFrame, known]
      refine (if_neg (Nat.not_lt_of_le whole)).trans ?_
      change ((copyChannelData (List.take (StreamFrame.kind (.data bytes)).size _) storage).bind
        fun frame => .ok (some (frame, List.drop (StreamFrame.kind (.data bytes)).size _))) = _
      rw [front, back]
      exact congrArg (Except.bind · _) copied

end StreamFrame.Valid

/-- A frame is cut off only where a control message or a channel begins. -/
theorem decodeFrame_some {buffer rest : List U8} {storage : Option Storage}
    {frame : TurnStreamFrame} (cut : decodeFrame buffer storage = .ok (some (frame, rest))) :
    8 ≤ buffer.length ∧ StunHeader buffer ∨ 4 ≤ buffer.length ∧ ChannelNumber buffer := by
  match started : frameStart buffer with
  | .error reason =>
    rw [decodeFrame, started] at cut
    cases cut
  | .ok none =>
    rw [decodeFrame, started] at cut
    cases cut
  | .ok (some kind) => exact (frameStart_some started).2

/-- While a frame is not whole, the buffer holds less than the longest frame. -/
theorem decodeFrame_none {buffer : List U8} {storage : Option Storage}
    (wanting : decodeFrame buffer storage = .ok none) :
    buffer.length < streamReadBufferBytes ∧ (buffer.length < 4 ∨
      buffer.length < 8 ∧ StunStart buffer ∨
      StunHeader buffer ∨ ChannelNumber buffer) := by
  match started : frameStart buffer with
  | .error reason =>
    rw [decodeFrame, started] at wanting
    cases wanting
  | .ok none =>
    have unknown := frameStart_none started
    refine ⟨?_, unknown.imp_right .inl⟩
    obtain few | ⟨few, -⟩ := unknown
    · exact Nat.lt_trans few (by decide)
    · exact Nat.lt_trans few (by decide)
  | .ok (some kind) =>
    obtain ⟨bound, header⟩ := frameStart_some started
    rw [decodeFrame, started] at wanting
    have short : buffer.length < kind.size := by
      cases kind with
      | control frameBytes =>
        by_contra whole
        cases (if_neg whole).symm.trans wanting
      | channelData frameBytes padding =>
        by_contra whole
        have copied := (if_neg whole).symm.trans wanting
        match copy : copyChannelData (buffer.take (frameBytes + padding)) storage with
        | .error _ =>
          rw [copy] at copied
          cases copied
        | .ok _ =>
          rw [copy] at copied
          cases copied
    refine ⟨Nat.lt_of_lt_of_le short bound, .inr (.inr ?_)⟩
    exact header.imp And.right And.right

/-!
### The hard limit
-/

def hardLimit : String := "TURN stream frame buffer reached its hard limit"

/-- A full buffer always holds a frame. -/
theorem beforeRead_eq (storage : Option Storage) (buffer : List U8) :
    beforeRead storage buffer = decodeFrame buffer storage := by
  match decoded : decodeFrame buffer storage with
  | .error _ => rw [beforeRead, decoded]
  | .ok (some _) => rw [beforeRead, decoded]
  | .ok none =>
    have room := (decodeFrame_none decoded).1
    rw [beforeRead, decoded]
    exact if_neg (Nat.not_le_of_lt room)

theorem frameStart_error {bytes : List U8} {reason : String}
    (refused : frameStart bytes = .error reason) : reason ≠ hardLimit := by
  unfold frameStart at refused
  dsimp only at refused
  split_ifs at refused <;> cases refused <;> simp [hardLimit]

theorem copyChannelData_error {bytes : List U8} {storage : Option Storage} {reason : String}
    (refused : copyChannelData bytes storage = .error reason) : reason ≠ hardLimit := by
  cases storage with
  | none => cases refused
  | some storage =>
    rw [copyChannelData] at refused
    match read : readInto storage bytes with
    | none =>
      rw [read] at refused
      cases refused
      simp [hardLimit]
    | some packet =>
      rw [read] at refused
      cases refused

theorem decodeFrame_error {buffer : List U8} {storage : Option Storage} {reason : String}
    (refused : decodeFrame buffer storage = .error reason) : reason ≠ hardLimit := by
  match started : frameStart buffer with
  | .error other =>
    rw [decodeFrame, started] at refused
    cases refused
    exact frameStart_error started
  | .ok none =>
    rw [decodeFrame, started] at refused
    cases refused
  | .ok (some (.control frameBytes)) =>
    rw [decodeFrame, started] at refused
    by_cases short : buffer.length < frameBytes
    · cases (if_pos short).symm.trans refused
    · cases (if_neg short).symm.trans refused
  | .ok (some (.channelData frameBytes padding)) =>
    rw [decodeFrame, started] at refused
    by_cases short : buffer.length < frameBytes + padding
    · cases (if_pos short).symm.trans refused
    · have copied := (if_neg short).symm.trans refused
      match copy : copyChannelData (buffer.take (frameBytes + padding)) storage with
      | .error _ =>
        rw [copy] at copied
        cases copied
        exact copyChannelData_error copy
      | .ok _ =>
        rw [copy] at copied
        cases copied

section Steps

variable {storage : Option Storage} {buffer rest : List U8} {frame : TurnStreamFrame}

theorem readFrame_cut (decoded : decodeFrame buffer storage = .ok (some (frame, rest)))
    (reads : List StreamRead) : readFrame storage buffer reads = .frame frame rest reads := by
  cases reads <;> simp only [readFrame, beforeRead_eq, decoded]

theorem readFrame_refused {reason : String} (decoded : decodeFrame buffer storage = .error reason)
    (reads : List StreamRead) : readFrame storage buffer reads = .error reason := by
  cases reads <;> simp only [readFrame, beforeRead_eq, decoded]

theorem readFrame_waits (decoded : decodeFrame buffer storage = .ok none) :
    readFrame storage buffer [] = .waiting buffer := by
  simp only [readFrame, beforeRead_eq, decoded]

theorem readFrame_failed (decoded : decodeFrame buffer storage = .ok none)
    (reads : List StreamRead) :
    readFrame storage buffer (.failed :: reads) = .error "TURN stream read failed" := by
  simp only [readFrame, beforeRead_eq, decoded]

theorem readFrame_closed (decoded : decodeFrame buffer storage = .ok none)
    (reads : List StreamRead) :
    readFrame storage buffer (.bytes [] :: reads) =
      .error "TURN stream closed by remote peer" := by
  simp only [readFrame, beforeRead_eq, decoded, List.isEmpty_nil, if_true]

theorem readFrame_more (decoded : decodeFrame buffer storage = .ok none) {chunk : List U8}
    (some : chunk ≠ []) (reads : List StreamRead) :
    readFrame storage buffer (.bytes chunk :: reads) =
      readFrame storage (buffer ++ chunk) reads := by
  have full : chunk.isEmpty = false := by
    rw [List.isEmpty_eq_false_iff]
    exact some
  simp only [readFrame, beforeRead_eq, decoded, full, Bool.false_eq_true, if_false]

end Steps

/-- No call ends at the hard limit. -/
theorem readFrame_not_full (storage : Option Storage) (buffer : List U8)
    (reads : List StreamRead) : readFrame storage buffer reads ≠ .error hardLimit := by
  induction reads generalizing buffer with
  | nil =>
    match decoded : decodeFrame buffer storage with
    | .error _ =>
      rw [readFrame_refused decoded]
      exact fun full => decodeFrame_error decoded (ReadFrame.error.inj full)
    | .ok (some (_, _)) =>
      rw [readFrame_cut decoded]
      exact nofun
    | .ok none =>
      rw [readFrame_waits decoded]
      exact nofun
  | cons read reads inductionHypothesis =>
    match decoded : decodeFrame buffer storage with
    | .error _ =>
      rw [readFrame_refused decoded]
      exact fun full => decodeFrame_error decoded (ReadFrame.error.inj full)
    | .ok (some (_, _)) =>
      rw [readFrame_cut decoded]
      exact nofun
    | .ok none =>
      cases read with
      | failed =>
        rw [readFrame_failed decoded]
        simp [hardLimit]
      | bytes chunk =>
        by_cases ended : chunk = []
        · rw [ended, readFrame_closed decoded]
          simp [hardLimit]
        · rw [readFrame_more decoded ended]
          exact inductionHypothesis (buffer ++ chunk)

theorem readFrames_not_full (buffer : List U8) (reads : List StreamRead)
    (calls : List (Option Storage)) : (readFrames buffer reads calls).2 ≠ .error hardLimit := by
  induction calls generalizing buffer reads with
  | nil => exact nofun
  | cons storage calls inductionHypothesis =>
    have single := readFrame_not_full storage buffer reads
    rw [readFrames]
    match result : readFrame storage buffer reads with
    | .frame _ rest remaining => exact inductionHypothesis rest remaining
    | .error reason =>
      rw [result] at single
      exact single
    | .waiting _ => exact nofun

/-!
### Whole frames, however the stream is cut
-/

/-- Some bytes come with every read of a stream that has not ended. -/
def Pieces (chunks : List (List U8)) : Prop := ∀ chunk ∈ chunks, chunk ≠ []

/-- A frame that is whole in the buffer is cut off it. -/
theorem readFrame_whole {frame : StreamFrame} (valid : frame.Valid) (storage : Option Storage)
    {chunks : List (List U8)} {buffer tail : List U8}
    (stream : buffer ++ chunks.flatten = frame.wire ++ tail)
    (whole : frame.wire.length ≤ buffer.length) (reads : List StreamRead) :
    ∃ received rest, FrameRead frame storage received ∧
      readFrame storage buffer reads = .frame received rest reads ∧
      rest ++ chunks.flatten = tail := by
  obtain ⟨rest, rfl⟩ : frame.wire <+: buffer :=
    List.prefix_of_prefix_length_le (List.prefix_append frame.wire tail)
      (stream ▸ List.prefix_append buffer chunks.flatten) whole
  rw [List.append_assoc] at stream
  obtain ⟨received, decoded, meaning⟩ := valid.decodeFrame_whole rest storage
  exact ⟨received, rest, meaning, readFrame_cut decoded reads, List.append_cancel_left stream⟩

/-- Read after read until the frame is whole. -/
theorem readFrame_valid {frame : StreamFrame} (valid : frame.Valid) (storage : Option Storage)
    {chunks : List (List U8)} (pieces : Pieces chunks) {buffer tail : List U8}
    (stream : buffer ++ chunks.flatten = frame.wire ++ tail) (later : List StreamRead) :
    ∃ received rest remaining, FrameRead frame storage received ∧
      readFrame storage buffer (chunks.map .bytes ++ later) =
        .frame received rest (remaining.map .bytes ++ later) ∧
      Pieces remaining ∧ rest ++ remaining.flatten = tail := by
  induction chunks generalizing buffer with
  | nil =>
    have whole : frame.wire.length ≤ buffer.length := by
      rw [List.flatten_nil, List.append_nil] at stream
      rw [stream, List.length_append]
      exact Nat.le_add_right _ _
    obtain ⟨received, rest, meaning, read, beyond⟩ :=
      readFrame_whole valid storage stream whole (([] : List (List U8)).map .bytes ++ later)
    exact ⟨received, rest, [], meaning, read, pieces, beyond⟩
  | cons chunk chunks inductionHypothesis =>
    by_cases short : buffer.length < frame.wire.length
    · have decoded := valid.decodeFrame_short storage stream short
      have some : chunk ≠ [] := pieces chunk List.mem_cons_self
      have others : Pieces chunks := fun other mem => pieces other (List.mem_cons_of_mem chunk mem)
      rw [List.flatten_cons, ← List.append_assoc] at stream
      rw [List.map_cons, List.cons_append, readFrame_more decoded some]
      exact inductionHypothesis others stream
    · obtain ⟨received, rest, meaning, read, beyond⟩ :=
        readFrame_whole valid storage stream (Nat.le_of_not_lt short) _
      exact ⟨received, rest, chunk :: chunks, meaning, read, pieces, beyond⟩

/-- What a list of frames is read as, call by call. -/
def FramesRead : List StreamFrame → List (Option Storage) → List TurnStreamFrame → Prop
  | [], [], [] => True
  | frame :: frames, storage :: calls, received :: later =>
      FrameRead frame storage received ∧ FramesRead frames calls later
  | _, _, _ => False

/-- Call after call, and the calls after them go on where these stop. -/
theorem readFrames_valid {frames : List StreamFrame} (valid : ∀ frame ∈ frames, frame.Valid)
    {calls : List (Option Storage)} (each : calls.length = frames.length)
    {chunks : List (List U8)} (pieces : Pieces chunks) {buffer tail : List U8}
    (stream : buffer ++ chunks.flatten = (frames.map StreamFrame.wire).flatten ++ tail)
    (later : List StreamRead) :
    ∃ received rest remaining, FramesRead frames calls received ∧ Pieces remaining ∧
      rest ++ remaining.flatten = tail ∧
      ∀ extra, readFrames buffer (chunks.map .bytes ++ later) (calls ++ extra) =
        (received ++ (readFrames rest (remaining.map .bytes ++ later) extra).1,
          (readFrames rest (remaining.map .bytes ++ later) extra).2) := by
  induction frames generalizing calls chunks buffer with
  | nil =>
    obtain rfl := List.length_eq_zero_iff.mp each
    exact ⟨[], buffer, chunks, trivial, pieces, stream, fun _ => rfl⟩
  | cons frame frames inductionHypothesis =>
    match calls, each with
    | storage :: calls, each =>
      obtain ⟨first, others⟩ := List.forall_mem_cons.mp valid
      rw [List.map_cons, List.flatten_cons, List.append_assoc] at stream
      obtain ⟨received, rest, remaining, meaning, read, pieces, beyond⟩ :=
        readFrame_valid first storage pieces stream later
      obtain ⟨all, last, left, meanings, pieces, beyond, goesOn⟩ :=
        inductionHypothesis others (Nat.succ.inj each) pieces beyond
      refine ⟨received :: all, last, left, ⟨meaning, meanings⟩, pieces, beyond, fun extra => ?_⟩
      rw [List.cons_append, readFrames, read]
      dsimp only
      rw [goesOn extra, List.cons_append]

/-!
### Streams that are refused
-/

/-- What is there decides against both kinds of frame: four bytes that begin neither, eight
bytes, or all that the stream gives before it ends. -/
inductive Undone (bytes : List U8) (later : List StreamRead) : Prop
  | start (read : 4 ≤ bytes.length) (other : ¬ StunStart bytes)
  | header (read : 8 ≤ bytes.length)
  | ended (reads : List StreamRead) (closes : later = .bytes [] :: reads)

section Refused

variable {tail buffer : List U8} (storage : Option Storage)

/-- No prefix of such a stream is cut off as a frame. -/
theorem decodeFrame_never (stun : ¬ StunHeader tail) (channel : ¬ ChannelNumber tail)
    {more : List U8} (stream : buffer ++ more = tail) (frame : TurnStreamFrame)
    (rest : List U8) : decodeFrame buffer storage ≠ .ok (some (frame, rest)) := by
  intro cut
  have agrees : tail ++ [] = buffer ++ more := by rw [List.append_nil, stream]
  have covers : buffer.length ≤ tail.length := by
    rw [← stream, List.length_append]
    exact Nat.le_add_right _ _
  obtain ⟨read, header⟩ | ⟨read, number⟩ := decodeFrame_some cut
  · exact stun (header.agree agrees (Nat.le_trans read covers) read)
  · have two : 2 ≤ buffer.length := Nat.le_trans (by decide) read
    exact channel (number.agree agrees (Nat.le_trans two covers) two)

/-- When all of it is there and it still waits, only the end of the stream is left. -/
theorem Undone.closes (stun : ¬ StunHeader tail) (channel : ¬ ChannelNumber tail)
    {later : List StreamRead} (undone : Undone tail later)
    (wanting : decodeFrame tail storage = .ok none) : ∃ reads, later = .bytes [] :: reads := by
  obtain ⟨-, few | ⟨few, begun⟩ | header | number⟩ := decodeFrame_none wanting
  · cases undone with
    | start read _ => exact absurd few (Nat.not_lt_of_le read)
    | header read => exact absurd (Nat.lt_trans few (by decide)) (Nat.not_lt_of_le read)
    | ended reads closes => exact ⟨reads, closes⟩
  · cases undone with
    | start _ other => exact absurd begun other
    | header read => exact absurd few (Nat.not_lt_of_le read)
    | ended reads closes => exact ⟨reads, closes⟩
  · exact absurd header stun
  · exact absurd number channel

/-- Neither a control message nor a channel is next, and so the call is refused. -/
theorem readFrame_refuses (stun : ¬ StunHeader tail) (channel : ¬ ChannelNumber tail)
    {chunks : List (List U8)} (pieces : Pieces chunks)
    (stream : buffer ++ chunks.flatten = tail) {later : List StreamRead}
    (undone : Undone tail later) :
    ∃ reason, readFrame storage buffer (chunks.map .bytes ++ later) = .error reason := by
  induction chunks generalizing buffer with
  | nil =>
    rw [List.flatten_nil, List.append_nil] at stream
    subst stream
    match decoded : decodeFrame buffer storage with
    | .error reason => exact ⟨reason, readFrame_refused decoded _⟩
    | .ok (some (frame, rest)) =>
      exact absurd decoded (decodeFrame_never storage stun channel (List.append_nil buffer) frame rest)
    | .ok none =>
      obtain ⟨reads, rfl⟩ := undone.closes storage stun channel decoded
      exact ⟨_, readFrame_closed decoded reads⟩
  | cons chunk chunks inductionHypothesis =>
    match decoded : decodeFrame buffer storage with
    | .error reason => exact ⟨reason, readFrame_refused decoded _⟩
    | .ok (some (frame, rest)) =>
      exact absurd decoded (decodeFrame_never storage stun channel stream frame rest)
    | .ok none =>
      have some : chunk ≠ [] := pieces chunk List.mem_cons_self
      have others : Pieces chunks := fun other mem => pieces other (List.mem_cons_of_mem chunk mem)
      rw [List.flatten_cons, ← List.append_assoc] at stream
      rw [List.map_cons, List.cons_append, readFrame_more decoded some]
      exact inductionHypothesis others stream

end Refused

/-!
### The stream
-/

/-- After valid frames comes nothing, or bytes that begin neither kind of frame. However the
stream is cut into reads, the frames are read in order, data being dropped only where the
pool gives no storage. Then the next call waits at the end of what was sent, or it is refused
at the other bytes. No call, on whatever it reads, ends at the hard limit. -/
theorem stream_framing :
    (∀ frames : List StreamFrame, (∀ frame ∈ frames, frame.Valid) →
      ∀ calls : List (Option Storage), calls.length = frames.length →
        ∀ (storage : Option Storage) (extra : List (Option Storage)),
        ∀ chunks : List (List U8), Pieces chunks →
          (chunks.flatten = (frames.map StreamFrame.wire).flatten →
            ∃ received, FramesRead frames calls received ∧
              readFrames [] (chunks.map .bytes) (calls ++ storage :: extra) =
                (received, .waiting [])) ∧
          (∀ tail later, ¬ StunHeader tail → ¬ ChannelNumber tail → Undone tail later →
            chunks.flatten = (frames.map StreamFrame.wire).flatten ++ tail →
            ∃ received reason, FramesRead frames calls received ∧
              readFrames [] (chunks.map .bytes ++ later) (calls ++ storage :: extra) =
                (received, .error reason))) ∧
      ∀ (buffer : List U8) (reads : List StreamRead) (calls : List (Option Storage)),
        (readFrames buffer reads calls).2 ≠ .error hardLimit := by
  refine ⟨fun frames valid calls each storage extra chunks pieces => ⟨fun stream => ?_,
    fun tail later stun channel undone stream => ?_⟩, readFrames_not_full⟩
  · rw [← List.append_nil (frames.map StreamFrame.wire).flatten,
      ← List.nil_append chunks.flatten] at stream
    obtain ⟨received, rest, remaining, meanings, pieces, beyond, goesOn⟩ :=
      readFrames_valid valid each pieces stream []
    refine ⟨received, meanings, ?_⟩
    obtain ⟨rfl, nothing⟩ := List.append_eq_nil_iff.mp beyond
    obtain rfl : remaining = [] := List.eq_nil_iff_forall_not_mem.mpr fun chunk mem =>
      pieces chunk mem (List.flatten_eq_nil_iff.mp nothing chunk mem)
    have last := goesOn (storage :: extra)
    rw [List.append_nil] at last
    rw [last, List.map_nil, List.append_nil, readFrames,
      readFrame_waits (show decodeFrame [] storage = .ok none from rfl)]
    simp only [List.append_nil]
  · rw [← List.nil_append chunks.flatten] at stream
    obtain ⟨received, rest, remaining, meanings, pieces, beyond, goesOn⟩ :=
      readFrames_valid valid each pieces stream later
    obtain ⟨reason, refused⟩ :=
      readFrame_refuses storage stun channel pieces beyond undone
    refine ⟨received, reason, meanings, ?_⟩
    rw [goesOn, readFrames, refused]
    simp only [List.append_nil]

/-- A request and a byte of data, cut within both headers and the padding; then bytes of
neither kind. -/
theorem stream_framing_pieces :
    let request : List U8 := [0, 1, 0, 0, 0x21, 0x12, 0xa4, 0x42, 1, 2, 3, 4, 5, 6, 7, 8, 9, 10,
      11, 12]
    let chunks : List (List U8) := [[0], [1, 0, 0, 0x21, 0x12], [0xa4, 0x42, 1, 2, 3, 4, 5, 6, 7,
      8, 9, 10, 11, 12, 0x40, 0], [0, 1, 9, 0], [0, 0]]
    (∃ received, FramesRead [.control request, .data [0x40, 0, 0, 1, 9, 0, 0, 0]]
        [none, some Storage.zero] received ∧
      readFrames [] (chunks.map .bytes) [none, some Storage.zero, none] =
        (received, .waiting [])) ∧
      ∃ received reason, FramesRead [] [] received ∧
        readFrames [] ([[0xff, 0], [0, 0]].map .bytes ++ []) [none] =
          (received, .error reason) := by
  intro request chunks
  have stun : StunHeader request := ⟨⟨by decide, by decide, by decide⟩, by decide⟩
  have channel : ChannelNumber [0x40, 0, 0, 1, 9, 0, 0, 0] := by
    unfold ChannelNumber
    decide
  have valid : ∀ frame ∈ [StreamFrame.control request, .data [0x40, 0, 0, 1, 9, 0, 0, 0]],
      frame.Valid := List.forall_mem_cons.mpr ⟨.control stun (by decide),
        List.forall_mem_singleton.mpr (.data channel (by decide) (by decide))⟩
  constructor
  · exact (stream_framing.1 _ valid [none, some Storage.zero] rfl none [] chunks
      (by unfold Pieces; decide)).1 (by decide)
  · have other : ¬ StunStart [0xff, 0, 0, 0] := fun start => absurd start.kind (by decide)
    refine (stream_framing.1 [] (by simp) [] rfl none [] [[0xff, 0], [0, 0]]
      (by unfold Pieces; decide)).2 [0xff, 0, 0, 0] [] (fun header => other header.toStunStart)
      ?_ (.start (by decide) other) (by decide)
    unfold ChannelNumber
    decide

end Csqtt
