/-
Module: Csqtt.Socks5.Handshake
Purpose: The greeting, the authentication and the request of a client.
Trusted boundary: none
Main exports: Conn, Handshake, SocksRequest, socksHandshake
-/
import Csqtt.Socks5.UdpHeader

namespace Csqtt.Socks5

/-- A connection: the bytes that will come before it ends, how many writes go through before it
breaks, and what has been written. -/
structure Conn where
  unread : List U8
  writes : Nat
  written : List (List U8)
deriving DecidableEq, Repr

/-- What reads and writes, and may give up. -/
abbrev Handshake := OptionT (StateM Conn)

namespace Handshake

variable {Value : Type}

def exec (action : Handshake Value) (conn : Conn) : Option Value × Conn := action.run.run conn

def readByte : Handshake U8 := OptionT.mk fun conn =>
  match conn.unread with
  | [] => (none, conn)
  | byte :: rest => (some byte, { conn with unread := rest })

def readFull (count : Nat) : Handshake (List U8) := OptionT.mk fun conn =>
  if count ≤ conn.unread.length then
    (some (conn.unread.take count), { conn with unread := conn.unread.drop count })
  else (none, { conn with unread := [] })

def write (bytes : List U8) : Handshake Unit := OptionT.mk fun conn =>
  if 0 < conn.writes then
    (some (), { conn with writes := conn.writes - 1, written := conn.written ++ [bytes] })
  else (none, conn)

def require (condition : Prop) [Decidable condition] : Handshake Unit :=
  if condition then pure () else failure

/-- Give up, with a reply whose write is not checked. -/
def requireElse (condition : Prop) [Decidable condition] (reply : List U8) : Handshake Unit :=
  if condition then pure ()
  else do
    write reply
    failure

end Handshake

open Handshake

def socksCmdConnect : U8 := 0x01
def socksCmdUDPAssociate : U8 := 0x03

def socksRep (rep : U8) : List U8 := [0x05, rep, 0x00, 0x01, 0, 0, 0, 0, 0, 0]

/-- A field behind one byte of its length. -/
def socksReadLP : Handshake (List U8) := do
  let n ← readByte
  readFull n.toNat

structure SocksRequest where
  cmd : U8
  host : List U8
  ip : Addr
  port : U16
deriving DecidableEq, Repr

namespace SocksRequest

/-- The client has sent an address and no name. -/
def isIP (self : SocksRequest) : Bool := self.host == []

end SocksRequest

/-- The name, or the address, that the request is for. -/
def socksReadTarget (atyp : U8) : Handshake (List U8 × Addr) :=
  if atyp = 0x01 then do
    let b ← readFull 4
    return ([], .fromSlice b)
  else if atyp = 0x03 then do
    let b ← socksReadLP
    return (b, .zero)
  else if atyp = 0x04 then do
    let b ← readFull 16
    return ([], .fromSlice b)
  else do
    write (socksRep 0x08)
    failure

def socksGreeting : Handshake Unit := do
  let version ← readByte
  require (version = 0x05)
  let nm ← readByte
  let _methods ← readFull nm.toNat
  write [0x05, 0x02]

def socksAuth (user pass : List U8) : Handshake Unit := do
  let version ← readByte
  require (version = 0x01)
  let gu ← socksReadLP
  let gp ← socksReadLP
  requireElse (gu = user ∧ gp = pass) [0x01, 0x01]
  write [0x01, 0x00]

def socksReadRequest : Handshake SocksRequest := do
  let hdr ← readFull 4
  let cmd := hdr.getD 1 0
  requireElse (hdr.getD 0 0 = 0x05 ∧ (cmd = socksCmdConnect ∨ cmd = socksCmdUDPAssociate))
    (socksRep 0x07)
  let target ← socksReadTarget (hdr.getD 3 0)
  let pp ← readFull 2
  return {
    cmd := cmd
    host := target.1
    ip := target.2
    port := BitVec.ofNat 16 (beValue pp) }

def socksHandshake (user pass : List U8) : Handshake SocksRequest := do
  socksGreeting
  socksAuth user pass
  socksReadRequest

end Csqtt.Socks5
