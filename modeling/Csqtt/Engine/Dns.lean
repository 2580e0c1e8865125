/-
Module: Csqtt.Engine.Dns
Purpose: The queries to a name server and the reading of its responses, every access to the bytes
  checked and the walk over a name cut off; and the resolver with its cache, one locked section or
  one round of queries of a lookup at a time.
Trusted boundary: the recognition of literal addresses, the system's resolver
Main exports: buildQuery, DnsParse, skipName, parseResponse, queryDnsServer, queryYandex, cached,
  remember, LookupPoint, ResolverRun, ResolverRun.step
-/
import Csqtt.Core.Access
import Csqtt.Core.Interleaving
import Csqtt.Core.RecencyTable
import Csqtt.Engine.StunMessage
import Mathlib.Data.List.DropRight

namespace Csqtt.Dns

def dnsARecord : U16 := 1
def dnsAaaaRecord : U16 := 28

/-- Why a name cannot be asked for: the name, or one of its labels. -/
inductive QueryError where
  | name (host : List U8)
  | label (label : List U8)
deriving DecidableEq, Repr

def queryLabels : List (List U8) → Except QueryError (List U8)
  | [] => .ok []
  | label :: labels =>
      if label.isEmpty ∨ label.length > 63 ∨ !label.all (· < 0x80) then .error (.label label)
      else
        match queryLabels labels with
        | .ok rest => .ok (BitVec.ofNat 8 label.length :: label ++ rest)
        | .error error => .error error

/-- The host without the dots at its end. -/
def trimEndDots (host : List U8) : List U8 := host.rdropWhile (· == 0x2e)

def buildQuery (host : List U8) (queryId recordType : U16) : Except QueryError (List U8) :=
  let host := trimEndDots host
  if host.isEmpty ∨ host.length > 253 then .error (.name host)
  else
    match queryLabels (host.splitOn 0x2e) with
    | .ok labels =>
        .ok (beBytes 2 queryId.toNat ++ beBytes 2 0x0100 ++ beBytes 2 1 ++ beBytes 2 0 ++
          beBytes 2 0 ++ beBytes 2 0 ++ labels ++ [0] ++ beBytes 2 recordType.toNat ++ beBytes 2 1)
    | .error error => .error error

/-- A reading comes to a value or to an error, if it stays within the bytes and ends. -/
abbrev DnsParse := ExceptT String Access

/-- `get` with a range, and a conversion. -/
def readU16 (message : List U8) (offset : Nat) : DnsParse U16 :=
  if offset + 2 ≤ message.length then
    pure (BitVec.ofNat 16 (beValue (message.extract offset (offset + 2))))
  else throw "обрезанный DNS-заголовок"

/-- The offset moved on, if it stays within the bytes. -/
def advance (message : List U8) (offset count : Nat) (context : String) : DnsParse Nat :=
  if offset + count ≤ message.length then pure (offset + count) else throw context

def skipName (message : List U8) : Nat → Nat → DnsParse Nat
  | 0, _ => ExceptT.lift .unfinished
  | turns + 1, offset =>
      match message[offset]? with
      | none => throw "повреждён DNS name"
      | some length =>
          if length &&& 0xc0 = 0xc0 then
            advance message offset 2 "повреждён DNS compression pointer"
          else if length &&& 0xc0 ≠ 0 then throw "некорректный DNS name"
          else if length = 0 then pure (offset + 1)
          else do
            let next ← advance message (offset + 1) length.toNat "обрезанный DNS name"
            skipName message turns next

def skipQuestions (message : List U8) (turns : Nat) : Nat → Nat → DnsParse Nat
  | 0, offset => pure offset
  | questions + 1, offset => do
      let offset ← skipName message turns offset
      let offset ← advance message offset 4 "повреждён DNS-вопрос"
      skipQuestions message turns questions offset

/-- An address is taken once. -/
def pushAddress (addresses : List IpAddr) (address : IpAddr) : List IpAddr :=
  if addresses.contains address then addresses else addresses ++ [address]

/-- The addresses with that of a record of four bytes, if it is one. -/
def takeIpv4 (message : List U8) (recordType recordClass : U16) (dataLength dataOffset : Nat)
    (addresses : List IpAddr) : DnsParse (List IpAddr) :=
  if recordClass = 1 ∧ recordType = dnsARecord ∧ dataLength = 4 then do
    let first ← ExceptT.lift (byteChecked message dataOffset)
    let second ← ExceptT.lift (byteChecked message (dataOffset + 1))
    let third ← ExceptT.lift (byteChecked message (dataOffset + 2))
    let fourth ← ExceptT.lift (byteChecked message (dataOffset + 3))
    pure (pushAddress addresses (.v4 (BitVec.ofNat 32 (beValue [first, second, third, fourth]))))
  else pure addresses

def takeIpv6 (message : List U8) (recordType recordClass : U16)
    (dataLength dataOffset nextOffset : Nat) (addresses : List IpAddr) :
    DnsParse (List IpAddr) :=
  if recordClass = 1 ∧ recordType = dnsAaaaRecord ∧ dataLength = 16 then do
    let octets ← ExceptT.lift (sliceChecked message dataOffset nextOffset)
    pure (pushAddress addresses (.v6 (BitVec.ofNat 128 (beValue octets))))
  else pure addresses

def readAnswers (message : List U8) (turns : Nat) :
    Nat → Nat → List IpAddr → DnsParse (List IpAddr)
  | 0, _, addresses => pure addresses
  | answers + 1, offset, addresses => do
      let offset ← skipName message turns offset
      let recordType ← readU16 message offset
      let recordClass ← readU16 message (offset + 2)
      let dataLength ← readU16 message (offset + 8)
      let dataOffset ← advance message offset 10 "повреждён DNS-ответ"
      let nextOffset ← advance message dataOffset dataLength.toNat "повреждён DNS resource record"
      let addresses ← takeIpv4 message recordType recordClass dataLength.toNat dataOffset addresses
      let addresses ← takeIpv6 message recordType recordClass dataLength.toNat dataOffset nextOffset
        addresses
      readAnswers message turns answers nextOffset addresses

/-- The code of a response that is none without an error. -/
def checkFlags (flags : U16) : Except String Unit :=
  if flags &&& 0x8000 = 0 then .error "DNS-ответ без флага response"
  else if flags &&& 0x0200 ≠ 0 then .error "DNS-ответ требует TCP-повторения"
  else if flags &&& 0x000f ≠ 0 then
    .error ("DNS-ответ с кодом " ++ toString (flags &&& 0x000f).toNat)
  else .ok ()

def parseResponse (turns : Nat) (response : List U8) (queryId : U16) : DnsParse (List IpAddr) :=
  if response.length < 12 then throw "слишком короткий DNS-ответ"
  else do
    let id ← readU16 response 0
    if id ≠ queryId then throw "DNS-ответ с чужим идентификатором"
    else
      let flags ← readU16 response 2
      match checkFlags flags with
      | .error reason => throw reason
      | .ok () =>
          let questions ← readU16 response 4
          let answers ← readU16 response 6
          let offset ← skipQuestions response turns questions.toNat 12
          readAnswers response turns answers.toNat offset []

/-!
### The query to both servers
-/

/-- Milliseconds. -/
def dnsTimeout : Nat := 5000

def yandexDnsServers : SocketAddr × SocketAddr :=
  (⟨.v4 0x4d580808, 53⟩, ⟨.v4 0x4d580801, 53⟩)

/-- What the socket comes to next: a datagram with its sender, or that it cannot be bound, sent
from or received from. -/
structure SocketArrival where
  after : Nat
  received : Except String (SocketAddr × List U8)
deriving DecidableEq

/-- What the query to a server comes to, and how long after it. -/
structure ServerReply where
  after : Nat
  answer : Except String (List IpAddr)
deriving DecidableEq

/-- A datagram of anybody else is passed over. -/
def queryDnsServer (server : SocketAddr) (queryId : U16) :
    List SocketArrival → Access (Option ServerReply)
  | [] => return none
  | arrival :: later =>
      match arrival.received with
      | .error reason => return some ⟨arrival.after, .error reason⟩
      | .ok (source, datagram) =>
          if source ≠ server then queryDnsServer server queryId later
          else do
            let response := datagram.take 1500
            let answer ← (parseResponse (response.length + 1) response queryId).run
            return some ⟨arrival.after, answer⟩

/-- Why there is no answer. -/
inductive YandexDnsError where
  | timedOut
  | query (error : QueryError)
  | refused (first second : String)
deriving DecidableEq, Repr

/-- The replies in the order in which they come; of two at once either may be seen first. -/
def inOrder (primaryFirst : Bool) : Option ServerReply → Option ServerReply → List ServerReply
  | some primary, some secondary =>
      if primary.after < secondary.after ∨ (primary.after = secondary.after ∧ primaryFirst) then
        [primary, secondary]
      else [secondary, primary]
  | primary, secondary => primary.toList ++ secondary.toList

/-- The first answer in time is taken; an error waits for the other server. -/
def queryYandex (primaryFirst : Bool) (primary secondary : Option ServerReply) :
    Except YandexDnsError (List IpAddr) :=
  match (inOrder primaryFirst primary secondary).filter (·.after ≤ dnsTimeout) with
  | ⟨_, .ok addresses⟩ :: _ => .ok addresses
  | ⟨_, .error _⟩ :: ⟨_, .ok addresses⟩ :: _ => .ok addresses
  | ⟨_, .error first⟩ :: ⟨_, .error second⟩ :: _ => .error (.refused first second)
  | _ => .error .timedOut

/-!
### The cache
-/

def dnsCacheFresh : Nat := 60_000

def dnsCacheStaleMax : Nat := 21_600_000

def dnsCacheMax : Nat := 64

structure CacheEntry where
  addresses : List IpAddr
  resolvedAt : Nat
deriving DecidableEq, Repr

abbrev DnsCache := HashTable (List U8) CacheEntry

def cached (cache : DnsCache) (now : Nat) (host : List U8) (maxAge : Nat) : Option (List IpAddr) :=
  ((cache.lookup host).filter fun entry => now - entry.resolvedAt ≤ maxAge).map (·.addresses)

def remember (cache : DnsCache) (now : Nat) (host : List U8) (addresses : List IpAddr) :
    DnsCache :=
  RecencyTable.put CacheEntry.resolvedAt dnsCacheMax cache host ⟨addresses, now⟩

/-!
### Lookups under way
-/

inductive LookupError where
  | emptyYandex (host : List U8)
  | silentYandex (host : List U8)
  | yandex (host : List U8) (error : YandexDnsError)
  | system (host : List U8) (reason : String)
  | emptySystem (host : List U8)
deriving DecidableEq, Repr

/-- What the system found, every address once. -/
def systemLookup (host : List U8) :
    Except String (List SocketAddr) → Except LookupError (List IpAddr)
  | .error reason => .error (.system host reason)
  | .ok found =>
      let addresses := found.foldl (fun addresses address => pushAddress addresses address.ip) []
      if addresses.isEmpty then .error (.emptySystem host) else .ok addresses

/-- Where a lookup stands. A query knows its number; the query for A records comes first. What is
returned in place of an error is logged with it. -/
inductive LookupPoint where
  | called
  | querying (recordType queryId : U16)
  | resolving
  | resolved (addresses : List IpAddr)
  | failed (error : LookupError)
  | returned (result : Except LookupError (List IpAddr)) (logged : Option LookupError) (time : Nat)
  | crashed
deriving DecidableEq

/-- The next query of a lookup, if the name can be asked for. -/
def beginQuery (host : List U8) (recordType queryId : U16) : LookupPoint :=
  match buildQuery host queryId recordType with
  | .ok _ => .querying recordType queryId
  | .error error => .failed (.yandex host (.query error))

/-- A lookup behind its query. The system is asked only before the tunnel stands. -/
def afterQuery (tunnelActive : Bool) (host : List U8) (recordType queryId : U16) :
    Except YandexDnsError (List IpAddr) → LookupPoint
  | .ok [] =>
      if recordType = dnsARecord then beginQuery host dnsAaaaRecord (queryId + 1)
      else .failed (.emptyYandex host)
  | .ok addresses => .resolved addresses
  | .error .timedOut => if tunnelActive then .failed (.silentYandex host) else .resolving
  | .error error => .failed (.yandex host error)

def afterSystem : Except LookupError (List IpAddr) → LookupPoint
  | .ok addresses => .resolved addresses
  | .error error => .failed error

inductive ResolverEvent where
  | lookup (host : List U8)
  | look (index : Nat) (queryId : U16)
  | queried (index : Nat) (primary secondary : List SocketArrival) (primaryFirst : Bool)
  | system (index : Nat) (found : Except String (List SocketAddr))
  | remember (index : Nat)
  | fallBack (index : Nat)
  | pass (time : Nat)
  | markTunnelActive
deriving DecidableEq

/-- The resolver with the lookups that were called. What was remembered, the latest first, is kept
besides. -/
structure ResolverRun where
  now : Nat
  tunnelActive : Bool
  cache : DnsCache
  lookups : List (Thread LookupPoint (List U8))
  remembered : List (List U8 × CacheEntry)
deriving DecidableEq

namespace ResolverRun

def start : ResolverRun where
  now := 0
  tunnelActive := false
  cache := ∅
  lookups := []
  remembered := []

/-- The lookup at the index moves on. -/
def move (self : ResolverRun) (index : Nat) (lookup : Thread LookupPoint (List U8))
    (next : LookupPoint) : ResolverRun :=
  { self with lookups := Interleaving.advance self.lookups index { lookup with point := next } [] }

/-- A literal address is its own answer, and a fresh entry is taken without a query. -/
def look (self : ResolverRun) (parse : List U8 → Option IpAddr) (host : List U8)
    (queryId : U16) : LookupPoint :=
  match parse host with
  | some address => .returned (.ok [address]) none self.now
  | none =>
      match cached self.cache self.now host dnsCacheFresh with
      | some addresses => .returned (.ok addresses) none self.now
      | none => beginQuery host dnsARecord queryId

/-- Both servers' replies, unless reading one of them fails. -/
def queried (self : ResolverRun) (host : List U8) (recordType queryId : U16)
    (primary secondary : List SocketArrival) (primaryFirst : Bool) : LookupPoint :=
  match queryDnsServer yandexDnsServers.1 queryId primary,
      queryDnsServer yandexDnsServers.2 queryId secondary with
  | .read primary, .read secondary =>
      afterQuery self.tunnelActive host recordType queryId
        (queryYandex primaryFirst primary secondary)
  | _, _ => .crashed

/-- In place of an error the last answer, if it is not too old. -/
def fallBack (self : ResolverRun) (host : List U8) (error : LookupError) : LookupPoint :=
  match cached self.cache self.now host dnsCacheStaleMax with
  | some addresses => .returned (.ok addresses) (some error) self.now
  | none => .returned (.error error) none self.now

def step (parse : List U8 → Option IpAddr) (self : ResolverRun) : ResolverEvent → ResolverRun
  | .lookup host => { self with lookups := self.lookups ++ [⟨.called, host⟩] }
  | .look index queryId =>
      match self.lookups[index]? with
      | some ⟨.called, host⟩ =>
          self.move index ⟨.called, host⟩ (self.look parse host queryId)
      | _ => self
  | .queried index primary secondary primaryFirst =>
      match self.lookups[index]? with
      | some ⟨.querying recordType queryId, host⟩ =>
          self.move index ⟨.querying recordType queryId, host⟩
            (self.queried host recordType queryId primary secondary primaryFirst)
      | _ => self
  | .system index found =>
      match self.lookups[index]? with
      | some ⟨.resolving, host⟩ =>
          self.move index ⟨.resolving, host⟩ (afterSystem (systemLookup host found))
      | _ => self
  | .remember index =>
      match self.lookups[index]? with
      | some ⟨.resolved addresses, host⟩ =>
          { self.move index ⟨.resolved addresses, host⟩
              (.returned (.ok addresses) none self.now) with
            cache := remember self.cache self.now host addresses
            remembered := (host, ⟨addresses, self.now⟩) :: self.remembered }
      | _ => self
  | .fallBack index =>
      match self.lookups[index]? with
      | some ⟨.failed error, host⟩ =>
          self.move index ⟨.failed error, host⟩ (self.fallBack host error)
      | _ => self
  | .pass time => { self with now := self.now + time }
  | .markTunnelActive => { self with tunnelActive := true }

def run (parse : List U8 → Option IpAddr) (events : List ResolverEvent) : ResolverRun :=
  events.foldl (step parse) start

end ResolverRun

end Csqtt.Dns
