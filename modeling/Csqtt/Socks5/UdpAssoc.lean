/-
Module: Csqtt.Socks5.UdpAssoc
Purpose: The relay of datagrams for one client: its serving loop, the pump of each connection to
  a target, the sweeper of idle ones and the lookups of names, one locked section or one call of
  the system at a time.
Trusted boundary: what arrives and from whom, which dials, reads and writes fail, what the
  module's resolver answers, and the parser of addresses
Main exports: AsyncSocksResolver, lookupHost, requestedHost, UdpNatEntry, sweepIdleUDPTargets,
  ServePoint, PumpPoint, UdpAssociation, serve, pump, UdpEvent, step, reached
-/
import Csqtt.Core.HashTable
import Csqtt.Core.Transducer
import Csqtt.Socks5.UdpHeader

namespace Csqtt.Socks5

/-!
### Names
-/

/-- The answers that are kept, the names that are being asked for, the lookups that run for them,
and all that these have answered so far. -/
structure AsyncSocksResolver where
  cache : HashTable (List U8) (List String)
  inflight : Finset (List U8)
  running : List (List U8)
  answers : List (List U8 × List String)

/-- The name that the header of a datagram asks for, when it is whole. -/
def requestedHost (p : List U8) : Option (List U8) :=
  match p with
  | _ :: _ :: frag :: atyp :: l :: rest =>
      if frag ≠ 0x00 ∨ atyp ≠ 0x03 ∨ rest.length < l.toNat + 2 then none
      else some (rest.take l.toNat)
  | _ => none

namespace AsyncSocksResolver

def newAsyncSocksResolver : AsyncSocksResolver where
  cache := ∅
  inflight := ∅
  running := []
  answers := []

def lookupHost (self : AsyncSocksResolver) (host : List U8) :
    AsyncSocksResolver × Option (List String) :=
  match self.cache.lookup host with
  | some ips => (self, some ips)
  | none =>
      if host ∈ self.inflight then (self, none)
      else
        ({ self with
            inflight := insert host self.inflight
            running := self.running ++ [host] }, none)

/-- A lookup returns, with addresses or with an error. -/
def answered (self : AsyncSocksResolver) (index : Nat) (ips : Option (List String)) :
    AsyncSocksResolver :=
  match self.running[index]? with
  | none => self
  | some host =>
      { cache :=
          match ips with
          | some (ip :: others) => self.cache.insert host (ip :: others)
          | _ => self.cache
        inflight := self.inflight.erase host
        running := self.running.eraseIdx index
        answers := self.answers ++ (ips.map fun ips => (host, ips)).toList }

/-- What the parser of a datagram takes the resolver for. -/
def resolver (self : AsyncSocksResolver) (parseAddr : String → Addr) : Resolver where
  lookupHost := fun host => (self.lookupHost host).2
  parseAddr := parseAddr

/-- The resolver once a datagram has been parsed. -/
def asked (self : AsyncSocksResolver) (p : List U8) : AsyncSocksResolver :=
  match requestedHost p with
  | some host => (self.lookupHost host).1
  | none => self

end AsyncSocksResolver

/-!
### Connections to targets
-/

/-- Where the pump of a connection stands; its payload is what it has read and not yet passed on. -/
inductive PumpPoint where
  | unstarted
  | starting
  | reading
  | holding (payload : List U8)
  | answering (payload : List U8) (ca : AddrPort)
  | ended
deriving DecidableEq, Repr

/-- A dialed connection, with the times of its last use and of its closing and with what its pump
has read. -/
structure UdpConn where
  target : AddrPort
  used : Nat
  closed : Option Nat
  pump : PumpPoint
  arrived : List (List U8)
deriving DecidableEq, Repr

def UdpConn.close (self : UdpConn) (now : Nat) : UdpConn :=
  { self with closed := some (self.closed.getD now) }

structure UdpNatEntry where
  conn : Nat
  last : Nat
deriving DecidableEq, Repr

/-- In nanoseconds. -/
def socksUDPIdleTTL : Nat := 60 * 10 ^ 9

def UdpNatEntry.idle (self : UdpNatEntry) (now : Nat) : Bool :=
  decide (socksUDPIdleTTL ≤ now - self.last)

/-- The entries that are left, and the connections of the others. -/
def sweepIdleUDPTargets (targets : HashTable AddrPort UdpNatEntry) (now : Nat) :
    HashTable AddrPort UdpNatEntry × List Nat :=
  (targets.retain fun e => !e.idle now,
    (targets.entries.filter fun entry => entry.2.idle now).map fun entry => entry.2.conn)

/-!
### The association
-/

/-- Where the serving loop stands. -/
inductive ServePoint where
  | reading
  | parsing (p : List U8)
  | finding (dst : AddrPort) (data : List U8)
  | dialing (dst : AddrPort) (data : List U8)
  | inserting (dst : AddrPort) (data : List U8) (uc : Nat)
  | awaiting (uc : Nat) (data : List U8)
  | writing (uc : Nat) (data : List U8)
  | leaving
  | closing
  | left
  | crashed
deriving DecidableEq, Repr

/-- A datagram that was read, with how many lookups had been answered by then. -/
structure Datagram where
  src : AddrPort
  p : List U8
  known : Nat
deriving DecidableEq, Repr

/-- What became of a datagram. -/
inductive Outcome where
  | parseFailed
  | dialFailed (dst : AddrPort)
  | written (uc : Nat) (data : List U8) (sent : Bool)
deriving DecidableEq, Repr

/-- A datagram given to the relay for a client, on behalf of a connection. -/
structure Reply where
  conn : Nat
  ca : AddrPort
  out : List U8
  sent : Bool
deriving DecidableEq, Repr

/-- All that the tasks of an association share, with what was read, done and replied so far. Once
the loop has been left the targets are none. -/
structure UdpAssociation where
  now : Nat
  dns : AsyncSocksResolver
  targets : HashTable AddrPort UdpNatEntry
  clientAddr : Option AddrPort
  relayClosed : Bool
  conns : List UdpConn
  point : ServePoint
  received : List Datagram
  outcomes : List Outcome
  replies : List Reply

namespace UdpAssociation

def start : UdpAssociation where
  now := 0
  dns := .newAsyncSocksResolver
  targets := ∅
  clientAddr := none
  relayClosed := false
  conns := []
  point := .reading
  received := []
  outcomes := []
  replies := []

def closeConns (self : UdpAssociation) (which : List Nat) : UdpAssociation :=
  { self with
    conns := self.conns.mapIdx fun index conn =>
      if index ∈ which then conn.close self.now else conn }

def sweep (self : UdpAssociation) (now : Nat) : UdpAssociation :=
  let swept := sweepIdleUDPTargets self.targets now
  { self.closeConns swept.2 with targets := swept.1 }

/-- The loop is done with a datagram. -/
def finish (self : UdpAssociation) (outcome : Outcome) : UdpAssociation :=
  { self with
    point := .reading
    outcomes := self.outcomes ++ [outcome] }

/-- A datagram is read, and the first one's sender is the client from then on: no other task sees
the datagram before that. -/
def datagram (self : UdpAssociation) (src : AddrPort) (p : List U8) : UdpAssociation :=
  { self with
    clientAddr := some (self.clientAddr.getD src)
    point := .parsing p
    received := self.received ++ [⟨src, p, self.dns.answers.length⟩] }

def parse (self : UdpAssociation) (parseAddr : String → Addr) (p : List U8) : UdpAssociation :=
  let asked := { self with dns := self.dns.asked p }
  match parseSocksUDP (self.dns.resolver parseAddr) p with
  | .read (some (dst, data)) => { asked with point := .finding dst data }
  | .read none => asked.finish .parseFailed
  | _ => { asked with point := .crashed }

/-- The locked section that looks a target up; the clock is read once for the sweep and, a while
later, once for the entry. -/
def find (self : UdpAssociation) (elapsed : Nat) (dst : AddrPort) (data : List U8) :
    UdpAssociation :=
  let swept := { self.sweep self.now with now := self.now + elapsed }
  match swept.targets.lookup dst with
  | some e =>
      { swept with
        targets := swept.targets.insert dst { e with last := swept.now }
        conns := swept.conns.modify e.conn fun conn => { conn with used := swept.now }
        point := .writing e.conn data }
  | none => { swept with point := .dialing dst data }

def dialed (self : UdpAssociation) (dst : AddrPort) (data : List U8) : UdpAssociation :=
  { self with
    conns := self.conns ++ [⟨dst, self.now, none, .unstarted, []⟩]
    point := .inserting dst data self.conns.length }

/-- The locked section that enters a new connection, after which its pump is started. -/
def insert (self : UdpAssociation) (dst : AddrPort) (data : List U8) (uc : Nat) :
    UdpAssociation :=
  { self with
    targets := self.targets.insert dst ⟨uc, self.now⟩
    conns := self.conns.modify uc fun conn => { conn with used := self.now, pump := .starting }
    point := .awaiting uc data }

/-- The loop goes on once the pump is about to read. -/
def await (self : UdpAssociation) (uc : Nat) (data : List U8) : UdpAssociation :=
  match self.conns[uc]? with
  | some conn => if conn.pump = .starting then self else { self with point := .writing uc data }
  | none => self

/-- Whether a write to a connection succeeds, when the network would let it. -/
def sent (self : UdpAssociation) (uc : Nat) (ok : Bool) : Bool :=
  match self.conns[uc]? with
  | some conn => ok && conn.closed.isNone
  | none => false

/-- What the loop defers: the connections of all targets are closed. -/
def leave (self : UdpAssociation) : UdpAssociation :=
  { self.closeConns (self.targets.entries.map fun entry => entry.2.conn) with
    targets := ∅
    point := .closing }

/-- The next step of the serving loop. -/
def serve (self : UdpAssociation) (parseAddr : String → Addr) (elapsed : Nat) (ok : Bool) :
    UdpAssociation :=
  match self.point with
  | .parsing p => self.parse parseAddr p
  | .finding dst data => self.find elapsed dst data
  | .dialing dst data => if ok then self.dialed dst data else self.finish (.dialFailed dst)
  | .inserting dst data uc => self.insert dst data uc
  | .awaiting uc data => self.await uc data
  | .writing uc data => self.finish (.written uc data (self.sent uc ok))
  | .leaving => self.leave
  | .closing =>
      { self with
        relayClosed := true
        point := .left }
  | .reading | .left | .crashed => self

def setPump (self : UdpAssociation) (index : Nat) (pump : PumpPoint) : UdpAssociation :=
  { self with conns := self.conns.modify index fun conn => { conn with pump := pump } }

/-- A read of a connection returns; one that is closed has nothing more to read. -/
def arrive (self : UdpAssociation) (index : Nat) (conn : UdpConn) (arrives : Option (List U8)) :
    UdpAssociation :=
  match arrives, conn.closed with
  | some payload, none =>
      { self with
        conns := self.conns.modify index fun conn =>
          { conn with
            pump := .holding payload
            arrived := conn.arrived ++ [payload] } }
  | _, _ => self.setPump index .ended

/-- The next step of a connection's pump. -/
def pump (self : UdpAssociation) (index : Nat) (arrives : Option (List U8)) (ok : Bool) :
    UdpAssociation :=
  match self.conns[index]? with
  | none => self
  | some conn =>
      match conn.pump with
      | .unstarted | .ended => self
      | .starting => self.setPump index .reading
      | .reading => self.arrive index conn arrives
      | .holding payload =>
          match self.clientAddr with
          | none => self.setPump index .reading
          | some ca => self.setPump index (.answering payload ca)
      | .answering payload ca =>
          { self.setPump index .reading with
            replies := self.replies ++
              [⟨index, ca, buildSocksUDPHeader conn.target ++ payload,
                ok && !self.relayClosed⟩] }

end UdpAssociation

/-- Time goes by; a read of the relay returns; the loop or a pump moves on; the sweeper runs with
the time of a tick; a lookup returns; the control connection is at its end. -/
inductive UdpEvent where
  | pass (elapsed : Nat)
  | datagram (src : AddrPort) (p : List U8)
  | readFails
  | serve (elapsed : Nat) (ok : Bool)
  | pump (index : Nat) (arrives : Option (List U8)) (ok : Bool)
  | sweep (age : Nat)
  | answer (index : Nat) (ips : Option (List String))
  | ctrlEnds
deriving DecidableEq, Repr

namespace UdpAssociation

def step (parseAddr : String → Addr) (self : UdpAssociation) : UdpEvent → UdpAssociation × Unit
  | .pass elapsed => ({ self with now := self.now + elapsed }, ())
  | .datagram src p =>
      (if self.point = .reading ∧ self.relayClosed = false then self.datagram src p else self, ())
  | .readFails =>
      (if self.point = .reading then { self with point := .leaving } else self, ())
  | .serve elapsed ok => (self.serve parseAddr elapsed ok, ())
  | .pump index arrives ok => (self.pump index arrives ok, ())
  | .sweep age => (self.sweep (self.now - age), ())
  | .answer index ips => ({ self with dns := self.dns.answered index ips }, ())
  | .ctrlEnds => ({ self with relayClosed := true }, ())

/-- The association after a run of its tasks. -/
def reached (parseAddr : String → Addr) (events : List UdpEvent) : UdpAssociation :=
  (Transducer.run (step parseAddr) start events).1

end UdpAssociation

end Csqtt.Socks5
