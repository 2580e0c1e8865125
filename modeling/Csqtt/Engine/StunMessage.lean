/-
Module: Csqtt.Engine.StunMessage
Purpose: The writing of STUN requests, the check of their integrity and the reading of the
  attributes the relay client uses; the hash functions written out, for use where a concrete
  input is run.
Trusted boundary: the hash functions are a parameter
Main exports: StunCrypto, SocketAddr, MessageBuilder, verifyIntegrity, errorCode,
  responseRequiresIntegrity, encodeXorAddress, decodeXorAddress, sha1, hmacSha1, md5, crc32,
  StunCrypto.standard
-/
import Csqtt.Engine.StunCodec

namespace Csqtt

open Tlv

/-- The hash functions of the protocol: HMAC-SHA1 under a key, MD5 and CRC32. -/
structure StunCrypto where
  hmacSha1 : List U8 → List U8 → List U8
  md5 : List U8 → List U8
  crc32 : List U8 → U32
  length_hmacSha1 : ∀ key bytes, (hmacSha1 key bytes).length = 20

inductive IpAddr where
  | v4 (address : U32)
  | v6 (address : BitVec 128)
deriving DecidableEq, Repr

structure SocketAddr where
  ip : IpAddr
  port : U16
deriving DecidableEq, Repr

def SocketAddr.isIpv4 (address : SocketAddr) : Bool :=
  match address.ip with
  | .v4 _ => true
  | .v6 _ => false

def attrUsername : U16 := 0x0006
def attrMessageIntegrity : U16 := 0x0008
def attrErrorCode : U16 := 0x0009
def attrChannelNumber : U16 := 0x000c
def attrLifetime : U16 := 0x000d
def attrXorPeerAddress : U16 := 0x0012
def attrRealm : U16 := 0x0014
def attrNonce : U16 := 0x0015
def attrXorRelayedAddress : U16 := 0x0016
def attrRequestedAddressFamily : U16 := 0x0017
def attrRequestedTransport : U16 := 0x0019

/-!
### Addresses

An address in a message is masked with the magic cookie and the transaction.
-/

/-- What the bytes of an address of version 6 are masked with. -/
def xorMask (transaction : Transaction) : List U8 :=
  beBytes 4 magicCookie.toNat ++ beBytes 12 transaction.toNat

def encodeXorAddress (address : SocketAddr) (transaction : Transaction) : List U8 :=
  let port := address.port ^^^ (magicCookie >>> 16).setWidth 16
  match address.ip with
  | .v4 ip => [0, 1] ++ beBytes 2 port.toNat ++ beBytes 4 (ip ^^^ magicCookie).toNat
  | .v6 ip =>
      [0, 2] ++ beBytes 2 port.toNat ++
        List.zipWith (· ^^^ ·) (beBytes 16 ip.toNat) (xorMask transaction)

def decodeXorAddress (value : List U8) (transaction : Transaction) : Except String SocketAddr :=
  match value with
  | 0 :: family :: high :: low :: rest =>
      let port := BitVec.ofNat 16 (beValue [high, low]) ^^^ (magicCookie >>> 16).setWidth 16
      if family = 1 ∧ value.length = 8 then
        .ok { ip := .v4 (BitVec.ofNat 32 (beValue rest) ^^^ magicCookie), port := port }
      else if family = 2 ∧ value.length = 20 then
        .ok {
          ip := .v6 (BitVec.ofNat 128
            (beValue (List.zipWith (· ^^^ ·) rest (xorMask transaction))))
          port := port }
      else .error "TURN XOR address family is invalid"
  | _ => .error "TURN XOR address is malformed"

/-!
### Requests
-/

structure MessageBuilder where
  bytes : List U8
  transaction : Transaction

/-- Replace the bytes of a string from a position on. -/
def overwrite (bytes : List U8) (position : Nat) (patch : List U8) : List U8 :=
  bytes.take position ++ patch ++ bytes.drop (position + patch.length)

/-- Write the length of the message, with some bytes still to come, into its header. -/
def setMessageLength (bytes : List U8) (trailing : Nat) : Except String (List U8) :=
  let length := bytes.length - 20 + trailing
  if length < 65536 then .ok (overwrite bytes 2 (beBytes 2 length))
  else .error "STUN message too large for u16 length"

def MessageBuilder.withTransaction (kind : U16) (transaction : Transaction) : MessageBuilder :=
  { bytes := beBytes 2 kind.toNat ++ beBytes 2 0 ++ beBytes 4 magicCookie.toNat ++
      beBytes 12 transaction.toNat
    transaction := transaction }

/-- Append an attribute and pad the message to a multiple of four bytes. -/
def MessageBuilder.attribute (builder : MessageBuilder) (kind : U16) (value : List U8) :
    MessageBuilder :=
  let bytes := builder.bytes ++ beBytes 2 kind.toNat ++ beBytes 2 value.length ++ value
  { builder with bytes := bytes ++ List.replicate ((4 - bytes.length % 4) % 4) 0 }

def MessageBuilder.xorAddress (builder : MessageBuilder) (kind : U16) (address : SocketAddr) :
    MessageBuilder :=
  builder.attribute kind (encodeXorAddress address builder.transaction)

def MessageBuilder.finish (crypto : StunCrypto) (builder : MessageBuilder) :
    Except String (List U8) := do
  let bytes ← setMessageLength builder.bytes 8
  let fingerprint := crypto.crc32 bytes ^^^ fingerprintXor
  let builder : MessageBuilder := { builder with bytes := bytes }
  return (builder.attribute attrFingerprint (beBytes 4 fingerprint.toNat)).bytes

def MessageBuilder.finishAuthenticated (crypto : StunCrypto) (builder : MessageBuilder)
    (key : List U8) : Except String (List U8) := do
  let bytes ← setMessageLength builder.bytes 24
  let builder : MessageBuilder := { builder with bytes := bytes }
  (builder.attribute attrMessageIntegrity (crypto.hmacSha1 key bytes)).finish crypto

/-!
### Responses
-/

/-- Whether the message carries the MAC of all that precedes it, under a length that ends
with the MAC. -/
def verifyIntegrity (crypto : StunCrypto) (packet : List U8) (message : Message)
    (key : Option (List U8)) : Bool :=
  match key, message.attribute attrMessageIntegrity with
  | some key, some integrity =>
      if integrity.value.length ≠ 20 ∨ integrity.headerStart < 20 then false
      else
        let signedLength := integrity.headerStart + 24 - 20
        if 65536 ≤ signedLength then false
        else
          let signed := overwrite (packet.take integrity.headerStart) 2 (beBytes 2 signedLength)
          crypto.hmacSha1 key signed == integrity.value
  | _, _ => false

def errorCode (message : Message) : Option Nat :=
  match message.attribute attrErrorCode with
  | none => none
  | some found =>
      match found.value with
      | _ :: _ :: hundreds :: number :: _ =>
          if 6 < hundreds.toNat ∨ 99 < number.toNat then none
          else some (hundreds.toNat * 100 + number.toNat)
      | _ => none

def responseRequiresIntegrity (message : Message) : Bool :=
  match message.class with
  | .success => true
  | .error => errorCode message ∉ [some 400, some 401, some 420, some 438]
  | _ => false

def isFingerprintedAllocationMismatch (crypto : StunCrypto) (message : Message) : Bool :=
  message.class = .error ∧ errorCode message = some 437 ∧
    message.fingerprintValid crypto.crc32 = some true

def attributeU32 (message : Message) (kind : U16) : Option U32 :=
  match message.attribute kind with
  | none => none
  | some found =>
      if found.value.length = 4 then some (BitVec.ofNat 32 (beValue found.value)) else none

namespace StunHashes

/-- A message cut into blocks of 64 bytes. -/
def blocks (bytes : List U8) : List (List U8) :=
  (List.range (bytes.length / 64)).map fun index => Tlv.slice bytes (64 * index) 64

/-- The mark and the zeros that fill a message up to eight bytes short of a block. -/
def filling (length : Nat) : List U8 :=
  0x80 :: List.replicate ((119 - length % 64) % 64) 0

def leBytes (count value : Nat) : List U8 :=
  (beBytes count value).reverse

def leValue (bytes : List U8) : Nat :=
  beValue bytes.reverse

/-!
### SHA-1
-/

/-- The eighty words of a block, the latest first. -/
def sha1Schedule (block : List U8) : List U32 :=
  let start := (List.range 16).map fun index =>
    BitVec.ofNat 32 (beValue (Tlv.slice block (4 * index) 4))
  (List.range 64).foldl (fun words _ =>
    ((words.getD 2 0 ^^^ words.getD 7 0 ^^^ words.getD 13 0 ^^^ words.getD 15 0).rotateLeft 1) ::
      words) start.reverse

structure Sha1State where
  a : U32
  b : U32
  c : U32
  d : U32
  e : U32

def sha1Mix (round : Nat) (b c d : U32) : U32 × U32 :=
  if round < 20 then ((b &&& c) ||| (~~~b &&& d), 0x5a827999)
  else if round < 40 then (b ^^^ c ^^^ d, 0x6ed9eba1)
  else if round < 60 then ((b &&& c) ||| (b &&& d) ||| (c &&& d), 0x8f1bbcdc)
  else (b ^^^ c ^^^ d, 0xca62c1d6)

def sha1Round (state : Sha1State) (round : U32 × Nat) : Sha1State :=
  let mix := sha1Mix round.2 state.b state.c state.d
  { a := state.a.rotateLeft 5 + mix.1 + state.e + mix.2 + round.1
    b := state.a
    c := state.b.rotateLeft 30
    d := state.c
    e := state.d }

def sha1Block (state : Sha1State) (block : List U8) : Sha1State :=
  let last := (sha1Schedule block).reverse.zipIdx.foldl sha1Round state
  { a := state.a + last.a
    b := state.b + last.b
    c := state.c + last.c
    d := state.d + last.d
    e := state.e + last.e }

def sha1 (bytes : List U8) : List U8 :=
  let message := bytes ++ filling bytes.length ++ beBytes 8 (8 * bytes.length)
  let last := (blocks message).foldl sha1Block
    { a := 0x67452301, b := 0xefcdab89, c := 0x98badcfe, d := 0x10325476, e := 0xc3d2e1f0 }
  beBytes 4 last.a.toNat ++ beBytes 4 last.b.toNat ++ beBytes 4 last.c.toNat ++
    beBytes 4 last.d.toNat ++ beBytes 4 last.e.toNat

/-- The MAC under a key no longer than a block. -/
def hmacSha1 (key bytes : List U8) : List U8 :=
  let padded := key ++ List.replicate (64 - key.length) 0
  sha1 (padded.map (· ^^^ 0x5c) ++ sha1 (padded.map (· ^^^ 0x36) ++ bytes))

@[simp] theorem length_hmacSha1 (key bytes : List U8) : (hmacSha1 key bytes).length = 20 := by
  simp [hmacSha1, sha1]

/-!
### MD5
-/

def md5Constants : List U32 := [
  0xd76aa478, 0xe8c7b756, 0x242070db, 0xc1bdceee, 0xf57c0faf, 0x4787c62a, 0xa8304613, 0xfd469501,
  0x698098d8, 0x8b44f7af, 0xffff5bb1, 0x895cd7be, 0x6b901122, 0xfd987193, 0xa679438e, 0x49b40821,
  0xf61e2562, 0xc040b340, 0x265e5a51, 0xe9b6c7aa, 0xd62f105d, 0x02441453, 0xd8a1e681, 0xe7d3fbc8,
  0x21e1cde6, 0xc33707d6, 0xf4d50d87, 0x455a14ed, 0xa9e3e905, 0xfcefa3f8, 0x676f02d9, 0x8d2a4c8a,
  0xfffa3942, 0x8771f681, 0x6d9d6122, 0xfde5380c, 0xa4beea44, 0x4bdecfa9, 0xf6bb4b60, 0xbebfbc70,
  0x289b7ec6, 0xeaa127fa, 0xd4ef3085, 0x04881d05, 0xd9d4d039, 0xe6db99e5, 0x1fa27cf8, 0xc4ac5665,
  0xf4292244, 0x432aff97, 0xab9423a7, 0xfc93a039, 0x655b59c3, 0x8f0ccc92, 0xffeff47d, 0x85845dd1,
  0x6fa87e4f, 0xfe2ce6e0, 0xa3014314, 0x4e0811a1, 0xf7537e82, 0xbd3af235, 0x2ad7d2bb, 0xeb86d391]

structure Md5State where
  a : U32
  b : U32
  c : U32
  d : U32

/-- The mix of a round, the word it takes and the amount it rotates by. -/
def md5Mix (round : Nat) (b c d : U32) : U32 × Nat × Nat :=
  if round < 16 then
    ((b &&& c) ||| (~~~b &&& d), round, [7, 12, 17, 22].getD (round % 4) 0)
  else if round < 32 then
    ((d &&& b) ||| (~~~d &&& c), (5 * round + 1) % 16, [5, 9, 14, 20].getD (round % 4) 0)
  else if round < 48 then
    (b ^^^ c ^^^ d, (3 * round + 5) % 16, [4, 11, 16, 23].getD (round % 4) 0)
  else (c ^^^ (b ||| ~~~d), 7 * round % 16, [6, 10, 15, 21].getD (round % 4) 0)

def md5Round (words : List U32) (state : Md5State) (round : U32 × Nat) : Md5State :=
  let mix := md5Mix round.2 state.b state.c state.d
  { a := state.d
    b := state.b + (state.a + mix.1 + round.1 + words.getD mix.2.1 0).rotateLeft mix.2.2
    c := state.b
    d := state.c }

def md5Block (state : Md5State) (block : List U8) : Md5State :=
  let words := (List.range 16).map fun index =>
    BitVec.ofNat 32 (leValue (Tlv.slice block (4 * index) 4))
  let last := md5Constants.zipIdx.foldl (md5Round words) state
  { a := state.a + last.a
    b := state.b + last.b
    c := state.c + last.c
    d := state.d + last.d }

def md5 (bytes : List U8) : List U8 :=
  let message := bytes ++ filling bytes.length ++ leBytes 8 (8 * bytes.length)
  let last := (blocks message).foldl md5Block
    { a := 0x67452301, b := 0xefcdab89, c := 0x98badcfe, d := 0x10325476 }
  leBytes 4 last.a.toNat ++ leBytes 4 last.b.toNat ++ leBytes 4 last.c.toNat ++
    leBytes 4 last.d.toNat

/-!
### CRC32
-/

def crc32Bits : Nat → U32 → U32
  | 0, value => value
  | bits + 1, value =>
      crc32Bits bits (if value &&& 1 = 1 then (value >>> 1) ^^^ 0xedb88320 else value >>> 1)

def crc32 (bytes : List U8) : U32 :=
  ~~~bytes.foldl (fun value byte => crc32Bits 8 (value ^^^ byte.setWidth 32)) 0xffffffff

end StunHashes

/-- The hash functions that the protocol names. -/
def StunCrypto.standard : StunCrypto where
  hmacSha1 := StunHashes.hmacSha1
  md5 := StunHashes.md5
  crc32 := StunHashes.crc32
  length_hmacSha1 := StunHashes.length_hmacSha1

end Csqtt
