/-
Module: Csqtt.Helper.DnsResolver
Purpose: The helper's resolver with its cache: what LookupHost and SetServers do, one
  locked section or one round of queries at a time, and who leads or joins a flight.
Trusted boundary: the answers of the servers and the recognition of literal addresses
Main exports: ProtectedResolver, normalizeDNSServers, queryAll, rememberLocked, DnsPoint, DnsRun,
  step, DnsFlights, DnsFlights.Agreed
-/
import Csqtt.Core.Text

namespace Csqtt

/-- Nanoseconds. -/
def dnsCacheTTL : Nat := 60_000_000_000

def dnsNegCacheTTL : Nat := 15_000_000_000

def dnsCacheMax : Nat := 256

/-- The addresses, or the text of the error. -/
abbrev DnsResult := Except String (List String)

/-- An entry remembers which list of servers it was obtained from: how many lists had been
set when the query took its list. The source has no such field. -/
structure DnsCacheEntry where
  ips : List String
  expires : Nat
  negative : Bool
  source : Nat
deriving DecidableEq, Repr

/-- A query in flight is known by the call that runs it; its channel is that call's. -/
structure ProtectedResolver where
  servers : List String
  cache : List (String × DnsCacheEntry)
  inFlight : List (String × Nat)
deriving DecidableEq, Repr

def joinHostPort (host port : String) : String :=
  if host.toList.any fun character => character = ':' ∨ character = '%' then
    "[" ++ host ++ "]:" ++ port
  else host ++ ":" ++ port

/-- Bare addresses get the port; blanks go. -/
def normalizeDNSServers (parseIP : String → Bool) (servers : List String) : List String :=
  servers.filterMap fun server =>
    let server := String.ofList (trim server.toList)
    if server.isEmpty then none
    else if parseIP server then some (joinHostPort server "53")
    else some server

def noRecords (host : String) : String := "dns: no records for " ++ host

/-- The answers of several servers, in the order of their arrival: the first with addresses
is taken, else the last error. -/
def queryParallel (host : String) : List DnsResult → Option String → DnsResult
  | [], lastErr => .error (lastErr.getD (noRecords host))
  | .ok [] :: later, lastErr => queryParallel host later lastErr
  | .ok (ip :: ips) :: _, _ => .ok (ip :: ips)
  | .error err :: later, _ => queryParallel host later (some err)

/-- One server's answer is taken as it is. -/
def queryTypeParallel (host : String) : List DnsResult → DnsResult
  | [answer] => answer
  | answers => queryParallel host answers none

/-- AAAA counts only if there is no address in A. -/
def queryAll (host : String) (a aaaa : List DnsResult) : DnsResult :=
  match queryTypeParallel host a with
  | .ok (ip :: ips) => .ok (ip :: ips)
  | first =>
      match queryTypeParallel host aaaa, first with
      | .ok (ip :: ips), _ => .ok (ip :: ips)
      | _, .error err => .error err
      | .error err, .ok _ => .error err
      | .ok [], .ok _ => .error (noRecords host)

def concurrentFailed (host : String) : String :=
  "dns: concurrent resolve of " ++ host ++ " failed"

def cachedLookup (host : String) (e : DnsCacheEntry) : DnsResult :=
  if e.negative then .error (noRecords host) else .ok e.ips

/-- What is evicted: the first expired name that the iteration meets, else its first name. -/
def evicted (cache : List (String × DnsCacheEntry)) (now : Nat) : List String → String → String
  | [], chosen => chosen
  | name :: later, chosen =>
      if (cache.lookup name).any (·.expires < now) then name
      else evicted cache now later (if chosen.isEmpty then name else chosen)

/-- The cache behind an insertion; the iteration over the full map has the given order. -/
def rememberLocked (cache : List (String × DnsCacheEntry)) (now : Nat) (order : List String)
    (host : String) (e : DnsCacheEntry) : List (String × DnsCacheEntry) :=
  let kept :=
    if dnsCacheMax ≤ cache.length ∧ (cache.lookup host).isNone then
      let evicted := evicted cache now order ""
      if evicted.isEmpty then cache else cache.filter (·.1 ≠ evicted)
    else cache
  (host, e) :: kept.filter (·.1 ≠ host)

/-- A flight's result as an entry. -/
def DnsResult.entry (result : DnsResult) (now source : Nat) : DnsCacheEntry :=
  match result with
  | .ok ips => { ips := ips, expires := now + dnsCacheTTL, negative := false, source := source }
  | .error _ => { ips := [], expires := now + dnsNegCacheTTL, negative := true, source := source }

/-- What a call returned, and the number of the list it was obtained from, if from any. -/
structure DnsAnswer where
  result : DnsResult
  source : Option Nat
deriving DecidableEq, Repr

/-- Where a call stands. A round of queries knows the servers it asks and their number. -/
inductive DnsPoint where
  | lookup (host : String)
  | system (source : Nat)
  | locking (host : String)
  | waiting (host : String) (channel : Nat)
  | woken (host : String)
  | opening (host : String)
  | querying (host : String) (servers : List String) (source : Nat)
  | storing (host : String) (result : DnsResult) (source : Nat)
  | closing (result : DnsResult) (source : Nat)
  | answered (answer : DnsAnswer)
  | setting (servers : List String)
  | replacing (normalized : List String)
  | replaced (source : Nat)
  | done
deriving DecidableEq, Repr

/-- What comes from outside: the system's answer, the servers' answers as they arrive, and
the order of an iteration. -/
inductive DnsChoice where
  | go
  | system (result : DnsResult)
  | answers (a aaaa : List DnsResult)
  | order (names : List String)
deriving DecidableEq, Repr

/-- A call, with the number of the last list whose SetServers had returned when it began. -/
structure DnsCall where
  point : DnsPoint
  since : Nat
deriving DecidableEq, Repr

/-- The resolver, the clock, the closed channels and the calls; how many lists were set, and
the number of the last whose SetServers has returned. -/
structure DnsRun where
  resolver : ProtectedResolver
  now : Nat
  closed : List Nat
  calls : List DnsCall
  version : Nat
  settled : Nat
deriving DecidableEq, Repr

inductive DnsEvent where
  | lookupHost (host : String)
  | setServers (servers : List String)
  | tick (elapsed : Nat)
  | move (call : Nat) (choice : DnsChoice)
deriving DecidableEq, Repr

namespace DnsRun

/-- The state with a call moved on. -/
def moved (self : DnsRun) (call : Nat) (point : DnsPoint) : DnsRun :=
  { self with calls := self.calls.modify call fun old => { old with point := point } }

/-- A name without a fresh entry is waited for, or a query is begun. -/
def flown (self : DnsRun) (call : Nat) (host : String) : Option Nat → DnsRun
  | some channel => self.moved call (.waiting host channel)
  | none =>
      { self with
        resolver := { self.resolver with
          inFlight := (host, call) :: self.resolver.inFlight } }.moved call (.opening host)

variable (parseIP : String → Bool)

def start (dnsServersCsv : List String) : DnsRun where
  resolver := { servers := normalizeDNSServers parseIP dnsServersCsv, cache := [], inFlight := [] }
  now := 0
  closed := []
  calls := []
  version := 0
  settled := 0

/-- One step of a call, if it can take one. -/
def advance (self : DnsRun) (call : Nat) : DnsPoint → DnsChoice → Option DnsRun
  | .lookup host, .go =>
      if parseIP host then
        some (self.moved call (.answered { result := .ok [host], source := none }))
      else if self.resolver.servers.isEmpty then some (self.moved call (.system self.version))
      else some (self.moved call (.locking host))
  | .system source, .system result =>
      some (self.moved call (.answered { result := result, source := some source }))
  | .locking host, .go =>
      match self.resolver.cache.lookup host, self.resolver.inFlight.lookup host with
      | some e, flight =>
          if self.now < e.expires then
            some (self.moved call
              (.answered { result := cachedLookup host e, source := some e.source }))
          else some (self.flown call host flight)
      | none, flight => some (self.flown call host flight)
  | .waiting host channel, .go =>
      if channel ∈ self.closed then some (self.moved call (.woken host)) else none
  | .woken host, .go =>
      match self.resolver.cache.lookup host with
      | some e =>
          if self.now < e.expires then
            some (self.moved call
              (.answered { result := cachedLookup host e, source := some e.source }))
          else
            some (self.moved call
              (.answered { result := .error (concurrentFailed host), source := none }))
      | none =>
          some (self.moved call
            (.answered { result := .error (concurrentFailed host), source := none }))
  | .opening host, .go =>
      some (self.moved call (.querying host self.resolver.servers self.version))
  | .querying host servers source, .answers a aaaa =>
      if a.length = servers.length ∧ aaaa.length = servers.length then
        some (self.moved call (.storing host (queryAll host a aaaa) source))
      else none
  | .storing host result source, .order names =>
      if names.Perm (self.resolver.cache.map (·.1)) then
        some ({ self with
          resolver := { self.resolver with
            inFlight := self.resolver.inFlight.filter (·.1 ≠ host)
            cache := rememberLocked self.resolver.cache self.now names host
              (result.entry self.now source) } }.moved call (.closing result source))
      else none
  | .closing result source, .go =>
      some ({ self with closed := call :: self.closed }.moved call
        (.answered { result := result, source := some source }))
  | .setting servers, .go =>
      match normalizeDNSServers parseIP servers with
      | [] => some (self.moved call .done)
      | normalized => some (self.moved call (.replacing normalized))
  | .replacing normalized, .go =>
      some ({ self with
        resolver := { self.resolver with servers := normalized, cache := [] }
        version := self.version + 1 }.moved call (.replaced (self.version + 1)))
  | .replaced source, .go =>
      some ({ self with settled := max self.settled source }.moved call .done)
  | _, _ => none

/-- A step that a call cannot take leaves the state as it is. -/
def step (self : DnsRun) : DnsEvent → DnsRun × Unit
  | .lookupHost host =>
      ({ self with calls := self.calls ++ [⟨.lookup host, self.settled⟩] }, ())
  | .setServers servers =>
      ({ self with calls := self.calls ++ [⟨.setting servers, self.settled⟩] }, ())
  | .tick elapsed => ({ self with now := self.now + elapsed }, ())
  | .move call choice =>
      match self.calls[call]? with
      | none => (self, ())
      | some here => ((self.advance parseIP call here.point choice).getD self, ())

/-- No call that began after a SetServers had returned returns an answer obtained from an
earlier list. -/
def Fresh (self : DnsRun) : Prop :=
  ∀ call ∈ self.calls, ∀ result source,
    call.point = .answered { result := result, source := some source } → call.since ≤ source

end DnsRun

/-- The host whose flight the call leads. -/
def DnsPoint.leads : DnsPoint → Option String
  | .opening host => some host
  | .querying host _ _ => some host
  | .storing host _ _ => some host
  | _ => none

/-- The leader whose flight the call is blocked on, until the channel is closed. -/
def DnsPoint.awaits : DnsPoint → Option Nat
  | .waiting _ channel => some channel
  | _ => none

def DnsPoint.outcome : DnsPoint → Option DnsResult
  | .answered answer => some answer.result
  | _ => none

/-- The same addresses, or an error if the leader failed. -/
def DnsResult.Agrees (caller leader : DnsResult) : Prop :=
  match leader with
  | .ok ips => caller = .ok ips
  | .error _ => caller.isOk = false

/-- Where a call stands. -/
def DnsRun.point (self : DnsRun) (call : Nat) : Option DnsPoint :=
  self.calls[call]?.map (·.point)

/-- The run, and each caller that joined a flight with the flight's leader. The code does not
keep the latter. -/
structure DnsFlights where
  run : DnsRun
  joined : List (Nat × Nat)
deriving DecidableEq, Repr

namespace DnsFlights

variable (parseIP : String → Bool)

def start (dnsServersCsv : List String) : DnsFlights where
  run := DnsRun.start parseIP dnsServersCsv
  joined := []

/-- A call that has come to a channel has joined its flight. -/
def newly (run : DnsRun) : DnsEvent → List (Nat × Nat)
  | .move call _ => (((run.point call).bind DnsPoint.awaits).map fun leader => (call, leader)).toList
  | _ => []

def step (self : DnsFlights) (event : DnsEvent) : DnsFlights × Unit :=
  let next := (self.run.step parseIP event).1
  ({ run := next, joined := newly next event ++ self.joined }, ())

/-- One leader a host, nobody blocked on a leader that has returned, and the leader's outcome for
everyone who joined. -/
structure Agreed (flights : DnsFlights) : Prop where
  apart : ∀ first second host, (flights.run.point first).bind DnsPoint.leads = some host →
    (flights.run.point second).bind DnsPoint.leads = some host → first = second
  unblocked : ∀ caller leader, (flights.run.point caller).bind DnsPoint.awaits = some leader →
    ((flights.run.point leader).bind DnsPoint.outcome).isSome = true → leader ∈ flights.run.closed
  agree : ∀ pair ∈ flights.joined, ∀ result,
    (flights.run.point pair.1).bind DnsPoint.outcome = some result →
      ∃ led, (flights.run.point pair.2).bind DnsPoint.outcome = some led ∧ result.Agrees led

end DnsFlights

end Csqtt
