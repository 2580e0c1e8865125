/-
Module: Csqtt.Engine.ObfsCiphers
Purpose: The ciphers of the obfuscation layer written out, for use where a concrete packet
  is wrapped.
Trusted boundary: none
Main exports: aesEncrypt, chachaBlock, poly1305, OpeningCipher.standard, standard_correct
-/
import Csqtt.Engine.FlowFrame
import Csqtt.Engine.ObfsUnwrap
import Csqtt.Engine.StunMessage

namespace Csqtt

namespace ObfsCiphers

open StunHashes (leBytes leValue)

/-- Bytes with a keystream on them. -/
def mask (stream : Nat → U8) (bytes : List U8) : List U8 :=
  bytes.mapIdx fun index byte => byte ^^^ stream index

@[simp] theorem length_mask (stream : Nat → U8) (bytes : List U8) :
    (mask stream bytes).length = bytes.length := List.length_mapIdx

theorem mask_mask (stream : Nat → U8) (bytes : List U8) :
    mask stream (mask stream bytes) = bytes := by
  apply List.ext_getElem?
  intro index
  rw [mask, mask, List.getElem?_mapIdx, List.getElem?_mapIdx]
  cases bytes[index]? with
  | none => rfl
  | some byte =>
      rw [Option.map_some, Option.map_some, BitVec.xor_assoc, BitVec.xor_self, BitVec.xor_zero]

/-- A string cut into pieces of a size. -/
def pieces (size : Nat) (bytes : List U8) : List (List U8) :=
  (List.range (bytes.length / size)).map fun index => Tlv.slice bytes (size * index) size

/-!
### AES-128 in counter mode
-/

/-- A byte times two in the field. -/
def double (byte : U8) : U8 :=
  (byte <<< 1) ^^^ (if byte.msb then 0x1b else 0)

def substitutions : List U8 := [
  0x63, 0x7c, 0x77, 0x7b, 0xf2, 0x6b, 0x6f, 0xc5, 0x30, 0x01, 0x67, 0x2b, 0xfe, 0xd7, 0xab, 0x76,
  0xca, 0x82, 0xc9, 0x7d, 0xfa, 0x59, 0x47, 0xf0, 0xad, 0xd4, 0xa2, 0xaf, 0x9c, 0xa4, 0x72, 0xc0,
  0xb7, 0xfd, 0x93, 0x26, 0x36, 0x3f, 0xf7, 0xcc, 0x34, 0xa5, 0xe5, 0xf1, 0x71, 0xd8, 0x31, 0x15,
  0x04, 0xc7, 0x23, 0xc3, 0x18, 0x96, 0x05, 0x9a, 0x07, 0x12, 0x80, 0xe2, 0xeb, 0x27, 0xb2, 0x75,
  0x09, 0x83, 0x2c, 0x1a, 0x1b, 0x6e, 0x5a, 0xa0, 0x52, 0x3b, 0xd6, 0xb3, 0x29, 0xe3, 0x2f, 0x84,
  0x53, 0xd1, 0x00, 0xed, 0x20, 0xfc, 0xb1, 0x5b, 0x6a, 0xcb, 0xbe, 0x39, 0x4a, 0x4c, 0x58, 0xcf,
  0xd0, 0xef, 0xaa, 0xfb, 0x43, 0x4d, 0x33, 0x85, 0x45, 0xf9, 0x02, 0x7f, 0x50, 0x3c, 0x9f, 0xa8,
  0x51, 0xa3, 0x40, 0x8f, 0x92, 0x9d, 0x38, 0xf5, 0xbc, 0xb6, 0xda, 0x21, 0x10, 0xff, 0xf3, 0xd2,
  0xcd, 0x0c, 0x13, 0xec, 0x5f, 0x97, 0x44, 0x17, 0xc4, 0xa7, 0x7e, 0x3d, 0x64, 0x5d, 0x19, 0x73,
  0x60, 0x81, 0x4f, 0xdc, 0x22, 0x2a, 0x90, 0x88, 0x46, 0xee, 0xb8, 0x14, 0xde, 0x5e, 0x0b, 0xdb,
  0xe0, 0x32, 0x3a, 0x0a, 0x49, 0x06, 0x24, 0x5c, 0xc2, 0xd3, 0xac, 0x62, 0x91, 0x95, 0xe4, 0x79,
  0xe7, 0xc8, 0x37, 0x6d, 0x8d, 0xd5, 0x4e, 0xa9, 0x6c, 0x56, 0xf4, 0xea, 0x65, 0x7a, 0xae, 0x08,
  0xba, 0x78, 0x25, 0x2e, 0x1c, 0xa6, 0xb4, 0xc6, 0xe8, 0xdd, 0x74, 0x1f, 0x4b, 0xbd, 0x8b, 0x8a,
  0x70, 0x3e, 0xb5, 0x66, 0x48, 0x03, 0xf6, 0x0e, 0x61, 0x35, 0x57, 0xb9, 0x86, 0xc1, 0x1d, 0x9e,
  0xe1, 0xf8, 0x98, 0x11, 0x69, 0xd9, 0x8e, 0x94, 0x9b, 0x1e, 0x87, 0xe9, 0xce, 0x55, 0x28, 0xdf,
  0x8c, 0xa1, 0x89, 0x0d, 0xbf, 0xe6, 0x42, 0x68, 0x41, 0x99, 0x2d, 0x0f, 0xb0, 0x54, 0xbb, 0x16]

def substitute (byte : U8) : U8 := byteAt substitutions byte.toNat

def shiftRows (state : List U8) : List U8 :=
  (List.range 16).map fun index => byteAt state ((index + 4 * (index % 4)) % 16)

def mixColumns (state : List U8) : List U8 :=
  (List.range 16).map fun index =>
    let other (rows : Nat) : U8 := byteAt state (index / 4 * 4 + (index + rows) % 4)
    double (other 0) ^^^ double (other 1) ^^^ other 1 ^^^ other 2 ^^^ other 3

def xorBytes (one other : List U8) : List U8 :=
  List.zipWith (· ^^^ ·) one other

def nextRoundKey (key : List U8) (constant : U8) : List U8 :=
  let turned := [13, 14, 15, 12].map fun index => substitute (byteAt key index)
  let first := xorBytes (xorBytes (key.take 4) turned) [constant, 0, 0, 0]
  let second := xorBytes (key.extract 4 8) first
  let third := xorBytes (key.extract 8 12) second
  first ++ second ++ third ++ xorBytes (key.extract 12 16) third

def roundConstants : List U8 := [0x01, 0x02, 0x04, 0x08, 0x10, 0x20, 0x40, 0x80, 0x1b, 0x36]

/-- One block. The last round does not mix. -/
def aesEncrypt (key block : List U8) : List U8 :=
  let round (last : Bool) (found : List U8 × List U8) (constant : U8) : List U8 × List U8 :=
    let key := nextRoundKey found.1 constant
    let shifted := shiftRows (found.2.map substitute)
    (key, xorBytes (if last then shifted else mixColumns shifted) key)
  let inner := (roundConstants.take 9).foldl (round false) (key, xorBytes block key)
  (round true inner 0x36).2

def aesStream (key iv : List U8) (index : Nat) : U8 :=
  byteAt (aesEncrypt key (beBytes 16 ((beValue iv + index / 16) % 2 ^ 128))) (index % 16)

example : aesEncrypt (List.range 16 |>.map (BitVec.ofNat 8 ·))
    (List.range 16 |>.map fun index => BitVec.ofNat 8 (17 * index)) =
      [0x69, 0xc4, 0xe0, 0xd8, 0x6a, 0x7b, 0x04, 0x30, 0xd8, 0xcd, 0xb7, 0x80, 0x70, 0xb4, 0xc5,
        0x5a] := by
  decide +kernel

/-!
### ChaCha20 and Poly1305
-/

def quarterRound (state : List U32) (places : Nat × Nat × Nat × Nat) : List U32 :=
  let (a, b, c, d) := places
  let word (state : List U32) (place : Nat) : U32 := state.getD place 0
  let turn (state : List U32) (sum other key bits : Nat) : List U32 :=
    let state := state.set sum (word state sum + word state other)
    state.set key ((word state key ^^^ word state sum).rotateLeft bits)
  let state := turn state a b d 16
  let state := turn state c d b 12
  let state := turn state a b d 8
  turn state c d b 7

def doubleRound (state : List U32) : List U32 :=
  [(0, 4, 8, 12), (1, 5, 9, 13), (2, 6, 10, 14), (3, 7, 11, 15),
    (0, 5, 10, 15), (1, 6, 11, 12), (2, 7, 8, 13), (3, 4, 9, 14)].foldl quarterRound state

def chachaBlock (key nonce : List U8) (counter : Nat) : List U8 :=
  let words (bytes : List U8) : List U32 :=
    (pieces 4 bytes).map fun piece => BitVec.ofNat 32 (leValue piece)
  let start := [0x61707865, 0x3320646e, 0x79622d32, 0x6b206574] ++ words key ++
    [BitVec.ofNat 32 counter] ++ words nonce
  let mixed := (List.range 10).foldl (fun state _ => doubleRound state) start
  (List.zipWith (· + ·) mixed start).flatMap fun word => leBytes 4 word.toNat

example : (chachaBlock (List.range 32 |>.map (BitVec.ofNat 8 ·))
    [0, 0, 0, 0x09, 0, 0, 0, 0x4a, 0, 0, 0, 0] 1).take 16 =
      [0x10, 0xf1, 0xe7, 0xe4, 0xd1, 0x3b, 0x59, 0x15, 0x50, 0x0f, 0xdd, 0x1f, 0xa3, 0x20, 0x71,
        0xc4] := by
  decide +kernel

/-- The first block of the stream is the key of the MAC. -/
def chachaStream (key nonce : List U8) (index : Nat) : U8 :=
  byteAt (chachaBlock key nonce (1 + index / 64)) (index % 64)

def poly1305 (key message : List U8) : List U8 :=
  let r := leValue (key.take 16) &&& 0x0ffffffc0ffffffc0ffffffc0fffffff
  let total := (pieces 16 message).foldl
    (fun total piece => (total + leValue (piece ++ [1])) * r % (2 ^ 130 - 5)) 0
  leBytes 16 ((total + leValue (key.drop 16)) % 2 ^ 128)

def aeadTag (key nonce aad encrypted : List U8) : List U8 :=
  let filled (bytes : List U8) : List U8 :=
    bytes ++ List.replicate ((16 - bytes.length % 16) % 16) 0
  poly1305 ((chachaBlock key nonce 0).take 32)
    (filled aad ++ filled encrypted ++ leBytes 8 aad.length ++ leBytes 8 encrypted.length)

end ObfsCiphers

/-- The ciphers under a key of 32 bytes. -/
def OpeningCipher.standard (key : List U8) : OpeningCipher where
  applyKeystream iv bytes := ObfsCiphers.mask (ObfsCiphers.aesStream (key.take 16) iv) bytes
  hmac := StunHashes.hmacSha1 (key.drop 16)
  sealInPlace nonce aad bytes :=
    if bytes.length ≤ maxPlaintext then
      let encrypted := ObfsCiphers.mask (ObfsCiphers.chachaStream key nonce) bytes
      some (encrypted, ObfsCiphers.aeadTag key nonce aad encrypted)
    else none
  openInPlace nonce aad tag encrypted :=
    (ObfsCiphers.mask (ObfsCiphers.chachaStream key nonce) encrypted,
      tag == ObfsCiphers.aeadTag key nonce aad encrypted)
  length_applyKeystream iv bytes := ObfsCiphers.length_mask _ bytes
  length_hmac := StunHashes.length_hmacSha1 _
  length_seal nonce aad bytes encrypted tag sealing := by
    split at sealing
    · cases sealing
      exact ⟨ObfsCiphers.length_mask _ bytes, by
        simp [ObfsCiphers.aeadTag, ObfsCiphers.poly1305, StunHashes.leBytes]⟩
    · cases sealing
  length_open nonce aad tag bytes := ObfsCiphers.length_mask _ bytes

theorem standard_correct (key : List U8) : (OpeningCipher.standard key).Correct where
  unmask iv bytes := ObfsCiphers.mask_mask _ bytes
  seals nonce aad bytes short := by
    simp [OpeningCipher.standard, short]
  opens nonce aad bytes encrypted tag sealing := by
    simp only [OpeningCipher.standard] at sealing ⊢
    split at sealing
    · cases sealing
      rw [ObfsCiphers.mask_mask, beq_self_eq_true]
    · cases sealing

end Csqtt
