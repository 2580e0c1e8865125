/-
Module: Csqtt.Helper.HostDns
Purpose: The servers that the host sends: the stored list, the resolvers that have subscribed to
  it, and the calls that change both, one locked section at a time.
Trusted boundary: the recognition of literal addresses; texts are valid UTF-8
Main exports: normalizeDNSCsv, parseConfig, dnsEvent, RememberCall, HostDns, step
-/
import Csqtt.Core.Text
import Csqtt.Helper.DnsResolver

namespace Csqtt

/-- One line of the configuration; comments and lines without a key are passed over. -/
def parseConfigLine (line : Text) : Option (Text × Text) :=
  let line := trim line
  let key := line.takeWhile (· ≠ '=')
  if line.head? = some '#' then none
  else if '=' ∈ line ∧ key ≠ [] then
    some (trim key, trim ((line.dropWhile (· ≠ '=')).drop 1))
  else none

/-- The last line of a key counts, so the lines stand in reverse. -/
def parseConfig (content : Text) : List (Text × Text) :=
  ((content.splitOn '\n').filterMap parseConfigLine).reverse

def dnsServersKey : Text := ['D', 'N', 'S', '_', 'S', 'E', 'R', 'V', 'E', 'R', 'S']

/-- What the configuration has under `DNS_SERVERS`, if anything. -/
def configServers (content : Text) : Text :=
  ((parseConfig content).lookup dnsServersKey).getD []

def dnsEventMarker : Text := ['d', 'n', 's', '=']

/-- The list that comes with an event, if it is one of this kind. -/
def dnsEvent (event : Text) : Option Text :=
  let event := trim event
  if dnsEventMarker.isPrefixOf event then some (event.drop dnsEventMarker.length) else none

/-- A call of `rememberHostDNSServers` with a list that is not empty. `watchers` is what is left
of its snapshot of the subscriptions; before the list is stored there is none. -/
structure RememberCall where
  normalized : List String
  watchers : Option (List Nat)
deriving DecidableEq, Repr

/-- The calls stand in the order in which their lists came. A resolver is known by its index; it
has been created once it is among `hostDNSWatchers`. -/
structure HostDns where
  hostDNSList : List String
  hostDNSWatchers : List Nat
  resolvers : List (List String)
  calls : List RememberCall
deriving DecidableEq, Repr

inductive HostDnsInput where
  | config (content : Text)
  | event (event : Text)
  | newProtectedResolver (dnsServersCsv : Text)
  | subscribe (resolver : Nat)
  | remember (call : Nat)
deriving DecidableEq, Repr

variable (parseIP : String → Bool)

def normalizeDNSCsv (csv : Text) : List String :=
  normalizeDNSServers parseIP ((csv.splitOn ',').map String.ofList)

/-- A resolver's list behind `SetServers`, which normalizes again; an empty list is not taken. -/
def setServers (servers old : List String) : List String :=
  match normalizeDNSServers parseIP servers with
  | [] => old
  | normalized => normalized

namespace HostDns

def initial : HostDns where
  hostDNSList := []
  hostDNSWatchers := []
  resolvers := []
  calls := []

/-- An empty list ends the call at once. -/
def rememberHostDNSServers (self : HostDns) (csv : Text) : HostDns :=
  match normalizeDNSCsv parseIP csv with
  | [] => self
  | normalized =>
      { self with calls := self.calls ++ [{ normalized := normalized, watchers := none }] }

/-- One operation of a call: the list is stored and the subscriptions are copied, or the next
resolver of the copy gets the list. -/
def advance (self : HostDns) (index : Nat) (call : RememberCall) : HostDns :=
  match call.watchers with
  | none =>
      { self with
        hostDNSList := call.normalized
        calls := self.calls.set index { call with watchers := some self.hostDNSWatchers } }
  | some [] => self
  | some (watcher :: rest) =>
      { self with
        resolvers := self.resolvers.modify watcher (setServers parseIP call.normalized)
        calls := self.calls.set index { call with watchers := some rest } }

def step (self : HostDns) : HostDnsInput → HostDns × Unit
  | .config content => (self.rememberHostDNSServers parseIP (configServers content), ())
  | .event event =>
      match dnsEvent event with
      | none => (self, ())
      | some csv => (self.rememberHostDNSServers parseIP csv, ())
  | .newProtectedResolver dnsServersCsv =>
      ({ self with resolvers := self.resolvers ++ [normalizeDNSCsv parseIP dnsServersCsv] }, ())
  | .subscribe resolver =>
      if resolver < self.resolvers.length ∧ resolver ∉ self.hostDNSWatchers then
        ({ self with hostDNSWatchers := self.hostDNSWatchers ++ [resolver] }, ())
      else (self, ())
  | .remember call =>
      match self.calls[call]? with
      | none => (self, ())
      | some here => (self.advance parseIP call here, ())

def hostDNSServers (self : HostDns) : List String := self.hostDNSList

/-- The last list that came from the host and was not empty. -/
def received (self : HostDns) : List String :=
  (self.calls.getLast?.map (·.normalized)).getD []

/-- No call is in progress. -/
def Quiet (self : HostDns) : Prop :=
  (∀ call ∈ self.calls, call.watchers = some []) ∧
    ∀ resolver < self.resolvers.length, resolver ∈ self.hostDNSWatchers

/-- When all is quiet, the stored list and the list of every resolver are the last that came. -/
def Agrees (self : HostDns) : Prop :=
  self.Quiet → self.hostDNSServers = self.received ∧
    ∀ servers ∈ self.resolvers, servers = self.received

end HostDns

end Csqtt
