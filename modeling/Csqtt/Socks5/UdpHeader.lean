/-
Module: Csqtt.Socks5.UdpHeader
Purpose: The addresses of the standard library, as far as the protocol uses them, and the
  header of a relayed datagram, read and written.
Trusted boundary: the resolver, and the parser of the addresses that it returns
Main exports: Addr, Addr.fromSlice, AddrPort, Resolver, parseSocksUDP, buildSocksUDPHeader
-/
import Csqtt.Core.Access
import Csqtt.Core.Word

namespace Csqtt.Socks5

/-- An address, or none. An address of version 6 may have a zone. -/
inductive Addr where
  | zero
  | v4 (value : U32)
  | v6 (value : BitVec 128) (zone : String)
deriving DecidableEq, Repr

namespace Addr

def isValid : Addr → Bool
  | .zero => false
  | _ => true

/-- The address of 4 or 16 bytes. -/
def fromSlice (bytes : List U8) : Addr :=
  if bytes.length = 4 then .v4 (BitVec.ofNat 32 (beValue bytes))
  else if bytes.length = 16 then .v6 (BitVec.ofNat 128 (beValue bytes)) ""
  else .zero

end Addr

structure AddrPort where
  addr : Addr
  port : U16
deriving DecidableEq, Repr

theorem Addr.fromSlice_four (value : U32) : fromSlice (beBytes 4 value.toNat) = .v4 value := by
  rw [fromSlice, if_pos (length_beBytes _ _), ofNat_beValue_beBytes value rfl]

theorem Addr.fromSlice_sixteen (value : BitVec 128) :
    fromSlice (beBytes 16 value.toNat) = .v6 value "" := by
  have apart : (beBytes 16 value.toNat).length ≠ 4 := by
    rw [length_beBytes]
    decide
  rw [fromSlice, if_neg apart, if_pos (length_beBytes _ _), ofNat_beValue_beBytes value rfl]

/-- What looks a name up, if it can, and the parser of its answers; the zero address stands for
what is no address. -/
structure Resolver where
  lookupHost : List U8 → Option (List String)
  parseAddr : String → Addr

/-- The port and the payload behind an address. -/
def parseSocksPort (p : List U8) (ip : Addr) (off : Nat) :
    Access (Option (AddrPort × List U8)) := do
  let high ← byteChecked p off
  let low ← byteChecked p (off + 1)
  let data ← sliceChecked p (off + 2) p.length
  return some (⟨ip, BitVec.ofNat 16 (beValue [high, low])⟩, data)

/-- The address behind the four bytes that tell its type, and what follows it. -/
def parseSocksTarget (resolver : Resolver) (p : List U8) (atyp : U8) :
    Access (Option (AddrPort × List U8)) :=
  if atyp = 0x01 then
    if p.length < 4 + 4 + 2 then return none
    else do
      let b ← sliceChecked p 4 (4 + 4)
      parseSocksPort p (.fromSlice b) (4 + 4)
  else if atyp = 0x04 then
    if p.length < 4 + 16 + 2 then return none
    else do
      let b ← sliceChecked p 4 (4 + 16)
      parseSocksPort p (.fromSlice b) (4 + 16)
  else if atyp = 0x03 then
    if p.length < 4 + 1 then return none
    else do
      let l ← byteChecked p 4
      if p.length < 5 + l.toNat + 2 then return none
      else
        let host ← sliceChecked p 5 (5 + l.toNat)
        match resolver.lookupHost host with
        | some (ip :: _) => parseSocksPort p (resolver.parseAddr ip) (5 + l.toNat)
        | _ => return none
  else return none

def parseSocksUDP (resolver : Resolver) (p : List U8) :
    Access (Option (AddrPort × List U8)) :=
  if p.length < 4 then return none
  else do
    let frag ← byteChecked p 2
    if frag ≠ 0x00 then return none
    else
      let atyp ← byteChecked p 3
      parseSocksTarget resolver p atyp

def buildSocksUDPHeader (t : AddrPort) : List U8 :=
  (match t.addr with
    | .v4 value => [0, 0, 0, 0x01] ++ beBytes 4 value.toNat
    | .v6 value _ => [0, 0, 0, 0x04] ++ beBytes 16 value.toNat
    | .zero => [0, 0, 0, 0x04] ++ beBytes 16 0) ++ beBytes 2 t.port.toNat

end Csqtt.Socks5
