/-
Module: Csqtt.Engine.Obfs
Purpose: The obfuscation layer: a packet wrapped as an RTP packet, encrypted under a
  nonce made of its header fields.
Trusted boundary: the ciphers and the generator are parameters
Main exports: ObfsMode, ObfsConfig, ObfsState, ObfsCipher, durationTicks, nonce, wrap
-/
import Csqtt.Engine.Packet

namespace Csqtt

inductive ObfsMode where
  | audio
  | video
deriving DecidableEq, Repr

structure ObfsConfig where
  paddingMax : Nat
  ssrc : U32
  payloadType : U8
  mode : ObfsMode

/-- The configuration of a mode, under a drawn stream id. -/
def ObfsConfig.new (mode : ObfsMode) (ssrc : U32) : ObfsConfig :=
  match mode with
  | .audio => { paddingMax := 24, ssrc := ssrc, payloadType := 111, mode := mode }
  | .video => { paddingMax := 60, ssrc := ssrc, payloadType := 96, mode := mode }

/-- A random generator: a number below a bound, and a string of bytes. -/
structure RandomSource (Rng : Type*) where
  range : Rng → Nat → Nat × Rng
  bytes : Rng → Nat → List U8 × Rng
  range_lt : ∀ rng bound, 0 < bound → (range rng bound).1 < bound
  length_bytes : ∀ rng count, (bytes rng count).1.length = count

/-- The keyed ciphers: AES in counter mode, HMAC-SHA1 and ChaCha20-Poly1305. -/
structure ObfsCipher where
  applyKeystream : List U8 → List U8 → List U8
  hmac : List U8 → List U8
  sealInPlace : List U8 → List U8 → List U8 → Option (List U8 × List U8)
  length_applyKeystream : ∀ iv bytes, (applyKeystream iv bytes).length = bytes.length
  length_hmac : ∀ bytes, (hmac bytes).length = 20
  length_seal : ∀ nonce aad bytes sealed tag, sealInPlace nonce aad bytes = some (sealed, tag) →
    sealed.length = bytes.length ∧ tag.length = 16

structure Duration where
  secs : U64
  subsecNanos : Nat
  subsec : subsecNanos < 1000000000

namespace Duration

/-- A number of whole seconds has no fraction. -/
theorem whole : 0 < 1000000000 := by decide

def asNanos (self : Duration) : Nat :=
  self.secs.toNat * 1000000000 + self.subsecNanos

/-- Full ticks of a clock in this time. -/
def ticks (self : Duration) (clockRate : U32) : Nat :=
  self.asNanos * clockRate.toNat / 1000000000

end Duration

structure ObfsState (Rng : Type*) where
  count : U64
  initialTimestamp : U32
  initialAbsSendTime : U32
  initialSequence : U16
  transportSequence : U16
  rng : Rng

/-- Number of the next packet and its transport sequence number. -/
def ObfsState.next {Rng : Type*} (self : ObfsState Rng) : (U64 × U16) × ObfsState Rng :=
  ((self.count, self.transportSequence),
    { self with
      count := self.count + 1
      transportSequence := self.transportSequence + 1 })

def ObfsConfig.initialSequence {Rng : Type*} (_ : ObfsConfig) (state : ObfsState Rng)
    (count : U64) : U16 :=
  state.initialSequence + count.setWidth 16

def rtpClockRate (payloadType : U8) : U32 :=
  if payloadType = 96 then 90000 else 48000

/-- Ticks of a clock in some time, modulo the width of a timestamp. -/
def durationTicks (elapsed : Duration) (clockRate : U32) : U32 :=
  let rate : U64 := clockRate.setWidth 64
  (elapsed.secs * rate + (BitVec.ofNat 64 elapsed.subsecNanos * rate) / 1000000000).setWidth 32

def nonce (ssrc : U32) (sequence : U16) (timestamp : U32) : List U8 :=
  beBytes 4 ssrc.toNat ++ beBytes 2 sequence.toNat ++ [0, 0] ++ beBytes 4 timestamp.toNat

def srtpIv (ssrc : U32) (sequence : U16) (timestamp : U32) : List U8 :=
  beBytes 4 ssrc.toNat ++ beBytes 2 sequence.toNat ++ [0, 0] ++ beBytes 4 timestamp.toNat ++
    [0, 0, 0, 0]

/-- The 24 bytes in front of a packet: the RTP header and its extension. -/
def rtpHeader (config : ObfsConfig) (marker : Bool) (sequence : U16) (timestamp : U32)
    (absoluteSendTime : U32) (transportSequence : U16) : List U8 :=
  ([0xb0 ||| 0x20, (config.payloadType &&& 0x7f) ||| (if marker then 0x80 else 0)] : List U8) ++
    beBytes 2 sequence.toNat ++ beBytes 4 timestamp.toNat ++ beBytes 4 config.ssrc.toNat ++
    beBytes 2 0xbede ++ beBytes 2 2 ++
    ([0x32, (absoluteSendTime >>> 16).setWidth 8, (absoluteSendTime >>> 8).setWidth 8,
      absoluteSendTime.setWidth 8, 0x51] : List U8) ++
    beBytes 2 transportSequence.toNat ++ [0]

section Wrap

variable {Rng : Type*}

/-- Random padding, if any was drawn, and the byte that counts it. -/
def paddingBytes (random : RandomSource Rng) (rng : Rng) (paddingRandom : Nat) : List U8 × Rng :=
  let last := [BitVec.ofNat 8 (paddingRandom + 1)]
  if paddingRandom = 0 then (last, rng)
  else
    let drawn := random.bytes rng paddingRandom
    (drawn.1 ++ last, drawn.2)

/-- Encrypt the payload of a packet that already carries its header and room for the
tail, and fill the tail. The packet is left alone when the cipher refuses. -/
def protect (cipher : ObfsCipher) (random : RandomSource Rng) (config : ObfsConfig)
    (sequence : U16) (timestamp : U32) (paddingRandom : Nat) (header payload : List U8)
    (rng : Rng) (packet : PacketBuf) : (Rng × PacketBuf) × Except String Unit :=
  match config.mode with
  | .video =>
      let encrypted := cipher.applyKeystream (srtpIv config.ssrc sequence timestamp) payload
      let padding := paddingBytes random rng paddingRandom
      let tag := (cipher.hmac (header ++ encrypted ++ padding.1)).take 10
      ((padding.2, packet.write (packet.start + 24) (encrypted ++ padding.1 ++ tag)), .ok ())
  | .audio =>
      match cipher.sealInPlace (nonce config.ssrc sequence timestamp) header payload with
      | none => ((rng, packet), .error "obfs: chacha encrypt")
      | some (encrypted, tag) =>
          let padding := paddingBytes random rng paddingRandom
          ((padding.2, packet.write (packet.start + 24) (encrypted ++ tag ++ padding.1)), .ok ())

/-- Bytes behind the payload for a drawn amount of padding. -/
def tailLen (mode : ObfsMode) (paddingTotal : Nat) : Nat :=
  match mode with
  | .video => paddingTotal + 10
  | .audio => paddingTotal + 16

def drawPadding (random : RandomSource Rng) (config : ObfsConfig) (rng : Rng) : Nat × Rng :=
  if config.paddingMax = 0 then (0, rng) else random.range rng config.paddingMax

/-- One video packet in five is marked as the last of its frame. -/
def drawMarker (random : RandomSource Rng) (config : ObfsConfig) (rng : Rng) : Bool × Rng :=
  if config.payloadType = 96 then
    let drawn := random.range rng 5
    (drawn.1 == 0, drawn.2)
  else (false, rng)

/-- Wrap a packet in place, `elapsed` after the state was made. -/
def wrap (cipher : ObfsCipher) (random : RandomSource Rng) (config : ObfsConfig)
    (state : ObfsState Rng) (elapsed : Duration) (packet : PacketBuf) :
    (ObfsState Rng × PacketBuf) × Except String Unit :=
  if packet.isEmpty then ((state, packet), .error "obfs: empty payload")
  else
    let payload := packet.asSlice
    let next := state.next
    let count := next.1.1
    let transportSequence := next.1.2
    let state := next.2
    let sequence := config.initialSequence state count
    let timestamp := state.initialTimestamp + durationTicks elapsed (rtpClockRate config.payloadType)
    let padding := drawPadding random config state.rng
    let tail := tailLen config.mode (padding.1 + 1)
    if packet.start < 24 ∨ packetCapacity < packet.stop + tail then
      (({ state with rng := padding.2 }, packet), .error "obfs: packet exceeds buffer capacity")
    else
      let absoluteSendTime :=
        (state.initialAbsSendTime + durationTicks elapsed 262144) &&& 0x00ffffff
      match packet.prepend 24 with
      | none => (({ state with rng := padding.2 }, packet), .error "packet prepend exceeds headroom")
      | some packet =>
          let marker := drawMarker random config padding.2
          let header := rtpHeader config marker.1 sequence timestamp absoluteSendTime transportSequence
          match (packet.write packet.start header).extendTail tail with
          | none =>
              (({ state with rng := marker.2 }, packet.write packet.start header),
                .error "packet tail exceeds capacity")
          | some packet =>
              let filled := protect cipher random config sequence timestamp padding.1 header
                payload marker.2 packet
              (({ state with rng := filled.1.1 }, filled.1.2), filled.2)

end Wrap

end Csqtt
