/-
Module: Csqtt.Engine.ObfsUnwrap
Purpose: The obfuscation layer read back: what a received packet is checked for before its
  payload is decrypted in place.
Trusted boundary: the ciphers are parameters
Main exports: OpeningCipher, UnwrapFault, RtpFields, readFields, unwrap
-/
import Csqtt.Engine.Obfs

namespace Csqtt

/-- The keyed ciphers with the way back. Opening decrypts in place, and leaves whatever it
leaves where the tag is wrong. -/
structure OpeningCipher extends ObfsCipher where
  openInPlace : List U8 → List U8 → List U8 → List U8 → List U8 × Bool
  length_open : ∀ nonce aad tag bytes, (openInPlace nonce aad tag bytes).1.length = bytes.length

/-- The longest plaintext that ChaCha20-Poly1305 encrypts under one nonce. -/
def maxPlaintext : Nat := 274877906880

/-- What the ciphers promise: the keystream is taken off as it was put on, every plaintext
that is not too long is sealed, and what was sealed is opened. -/
structure OpeningCipher.Correct (cipher : OpeningCipher) : Prop where
  unmask : ∀ iv bytes, cipher.applyKeystream iv (cipher.applyKeystream iv bytes) = bytes
  seals : ∀ nonce aad bytes, bytes.length ≤ maxPlaintext →
    (cipher.sealInPlace nonce aad bytes).isSome = true
  opens : ∀ nonce aad bytes encrypted tag,
    cipher.sealInPlace nonce aad bytes = some (encrypted, tag) →
      cipher.openInPlace nonce aad tag encrypted = (bytes, true)

/-- Why a packet is not unwrapped: an access outside of it, or a refusal. -/
inductive UnwrapFault where
  | outside
  | refused (reason : String)
deriving DecidableEq, Repr

section Accesses

def bailIf (bad : Prop) [Decidable bad] (reason : String) : Except UnwrapFault Unit :=
  if bad then .error (.refused reason) else .ok ()

def difference (whole part : Nat) : Except UnwrapFault Nat :=
  if part ≤ whole then .ok (whole - part) else .error .outside

def byteIn (wire : List U8) (index : Nat) : Except UnwrapFault U8 :=
  match wire[index]? with
  | some byte => .ok byte
  | none => .error .outside

def bytesIn (wire : List U8) (start stop : Nat) : Except UnwrapFault (List U8) :=
  if start ≤ stop ∧ stop ≤ wire.length then .ok (wire.extract start stop) else .error .outside

namespace PacketBuf

/-- A byte of the storage, which must lie in the range in use. -/
def byteWithin (self : PacketBuf) (index : Nat) : Except UnwrapFault U8 :=
  if self.start ≤ index ∧ index < self.stop then byteIn self.storage index else .error .outside

def bytesWithin (self : PacketBuf) (start stop : Nat) : Except UnwrapFault (List U8) :=
  if self.start ≤ start ∧ stop ≤ self.stop then bytesIn self.storage start stop
  else .error .outside

end PacketBuf

end Accesses

/-- What the header says. -/
structure RtpFields where
  payloadType : U8
  sequence : U16
  timestamp : U32
  ssrc : U32
  headerLen : Nat

/-- The length of the header with its extension, if there is one. -/
def headerLength (wire : List U8) (first : U8) : Except UnwrapFault Nat :=
  if first &&& 0x10 = 0 then .ok 12
  else do
    bailIf (wire.length < 16) "obfs: packet too short for extension header"
    let words ← bytesIn wire 14 16
    return 12 + (4 + beValue words * 4)

def readFields (wire : List U8) : Except UnwrapFault RtpFields := do
  bailIf (wire.length < 13) "obfs: not RTP v2"
  let first ← byteIn wire 0
  bailIf (first >>> 6 ≠ 2) "obfs: not RTP v2"
  let payloadType := (← byteIn wire 1) &&& 0x7f
  bailIf (payloadType ≠ 111 ∧ payloadType ≠ 96 ∧ payloadType ≠ 6)
    ("obfs: unsupported payload type " ++ toString payloadType.toNat)
  let sequence ← bytesIn wire 2 4
  let timestamp ← bytesIn wire 4 8
  let ssrc ← bytesIn wire 8 12
  let headerLen ← headerLength wire first
  bailIf (wire.length < headerLen) "obfs: packet too short for calculated RTP header"
  return {
    payloadType := payloadType
    sequence := BitVec.ofNat 16 (beValue sequence)
    timestamp := BitVec.ofNat 32 (beValue timestamp)
    ssrc := BitVec.ofNat 32 (beValue ssrc)
    headerLen := headerLen }

section Unwrap

/-- The end of the payload without the padding, whose last byte counts it. -/
def paddedEnd (packet : PacketBuf) (headerLen stop : Nat) (stage : String) :
    Except UnwrapFault Nat := do
  let first ← packet.byteWithin packet.start
  if first &&& 0x20 = 0 then return stop
  else
    let last ← difference stop 1
    let padding := (← packet.byteWithin last).toNat
    let reason := stage ++ ": invalid padding length " ++ toString padding
    bailIf (padding = 0) reason
    let used ← difference stop packet.start
    let room ← difference used headerLen
    bailIf (room < padding) reason
    difference stop padding

/-- The left part of a MAC is compared with a tag that is neither empty nor too long. -/
def verifyTruncatedLeft (mac tag : List U8) : Bool :=
  !tag.isEmpty && decide (tag.length ≤ mac.length) && mac.take tag.length == tag

/-- Where the encrypted payload starts and ends, its bytes, and for an AEAD the header
and the tag. -/
structure EncryptedPart where
  start : Nat
  stop : Nat
  encrypted : List U8
  aad : List U8
  tag : List U8

/-- The payload of a video packet whose truncated MAC is right. -/
def srtpPart (cipher : OpeningCipher) (packet : PacketBuf) (fields : RtpFields) :
    Except UnwrapFault EncryptedPart := do
  bailIf (packet.len < fields.headerLen + 10) "obfs srtp: missing authentication tag"
  let tagStart ← difference packet.stop 10
  let signed ← packet.bytesWithin packet.start tagStart
  let tag ← packet.bytesWithin tagStart packet.stop
  bailIf (verifyTruncatedLeft (cipher.hmac signed) tag = false) "obfs srtp: authentication failed"
  let payloadEnd ← paddedEnd packet fields.headerLen tagStart "obfs srtp"
  let payloadStart := packet.start + fields.headerLen
  let encrypted ← packet.bytesWithin payloadStart payloadEnd
  return {
    start := payloadStart
    stop := payloadEnd
    encrypted := encrypted
    aad := []
    tag := tag }

/-- The sealed payload of an audio packet, with its tag in front of the padding. -/
def sealedPart (packet : PacketBuf) (fields : RtpFields) : Except UnwrapFault EncryptedPart := do
  bailIf (fields.payloadType ≠ 111) "obfs audio: expected payload type 111"
  let payloadEnd ← paddedEnd packet fields.headerLen packet.stop "obfs"
  let payloadStart := packet.start + fields.headerLen
  bailIf (payloadEnd ≤ payloadStart + 16) "obfs: empty encrypted payload or missing tag"
  let tagStart ← difference payloadEnd 16
  let tag ← packet.bytesWithin tagStart payloadEnd
  let aad ← packet.bytesWithin packet.start payloadStart
  let encrypted ← packet.bytesWithin payloadStart tagStart
  return {
    start := payloadStart
    stop := tagStart
    encrypted := encrypted
    aad := aad
    tag := tag }

/-- The range in use becomes that of the payload. -/
def PacketBuf.narrowed (self : PacketBuf) (start stop : Nat) (sequence : U16) :
    PacketBuf × Except UnwrapFault U16 :=
  match self.setRange start stop with
  | some packet => (packet, .ok sequence)
  | none => (self, .error (.refused "packet range is invalid"))

/-- Unwrap a packet in place. -/
def unwrap (cipher : OpeningCipher) (packet : PacketBuf) (mode : ObfsMode) :
    PacketBuf × Except UnwrapFault U16 :=
  match readFields packet.asSlice with
  | .error fault => (packet, .error fault)
  | .ok fields =>
      match mode with
      | .video =>
          match srtpPart cipher packet fields with
          | .error fault => (packet, .error fault)
          | .ok part =>
              let iv := srtpIv fields.ssrc fields.sequence fields.timestamp
              (packet.write part.start (cipher.applyKeystream iv part.encrypted)).narrowed
                part.start part.stop fields.sequence
      | .audio =>
          match sealedPart packet fields with
          | .error fault => (packet, .error fault)
          | .ok part =>
              let opened := cipher.openInPlace
                (nonce fields.ssrc fields.sequence fields.timestamp) part.aad part.tag
                part.encrypted
              let packet := packet.write part.start opened.1
              if opened.2 then packet.narrowed part.start part.stop fields.sequence
              else (packet, .error (.refused "obfs: auth (ChaCha20-Poly1305)"))

end Unwrap

end Csqtt
