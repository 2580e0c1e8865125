/-
Module: Csqtt.Proofs.DnsCache
Purpose: Lookups of the engine's resolver under way at once: what is handed back was answered for
  that very name by a name server or the system, and how long ago; and what the cache remembers.
Trusted boundary: the recognition of literal addresses, the system's resolver
Main exports: Replied, Answered, Forgotten, Traced, traced_run, lookups_answered, lookups_remember
-/
import Csqtt.Proofs.Dns

namespace Csqtt.Dns

/-!
### The replies of both servers
-/

/-- The datagram is the first one from the server, and comes in time. -/
def FirstFrom (server : SocketAddr) (arrivals : List SocketArrival) (datagram : List U8) : Prop :=
  ∃ ignored after later, arrivals = ignored ++ ⟨after, .ok (server, datagram)⟩ :: later ∧
    (∀ other ∈ ignored, ∃ source foreign, other.received = .ok (source, foreign) ∧
      source ≠ server) ∧
    after ≤ dnsTimeout

/-- The response of one of the two servers, with the number of the query, gives the addresses. -/
def Replied (queryId : U16) (primary secondary : List SocketArrival)
    (addresses : List IpAddr) : Prop :=
  ∃ datagram, (FirstFrom yandexDnsServers.1 primary datagram ∨
      FirstFrom yandexDnsServers.2 secondary datagram) ∧
    Matches (datagram.take 1500) queryId ∧
    parseResponse ((datagram.take 1500).length + 1) (datagram.take 1500) queryId = pure addresses

section Replies

variable {server : SocketAddr} {queryId : U16} {arrivals : List SocketArrival}
  {addresses : List IpAddr}

/-- No arrivals make the reading of a reply fail. -/
theorem queryDnsServer_read (server : SocketAddr) (queryId : U16) (arrivals : List SocketArrival) :
    ∃ reply, queryDnsServer server queryId arrivals = .read reply := by
  induction arrivals with
  | nil => exact ⟨none, rfl⟩
  | cons arrival later inductionHypothesis =>
      unfold queryDnsServer
      cases arrival.received with
      | error reason => exact ⟨_, rfl⟩
      | ok pair =>
          obtain ⟨source, datagram⟩ := pair
          dsimp only
          split
          · exact inductionHypothesis
          · obtain ⟨answer, read⟩ := @settles_parseResponse (datagram.take 1500) _
              (Nat.lt_succ_self _) queryId
            rw [read]
            exact ⟨_, rfl⟩

theorem queryDnsServer_eq_ok {after : Nat} :
    queryDnsServer server queryId arrivals = .read (some ⟨after, .ok addresses⟩) ↔
      ∃ ignored datagram later, arrivals = ignored ++ ⟨after, .ok (server, datagram)⟩ :: later ∧
        (∀ other ∈ ignored, ∃ source foreign, other.received = .ok (source, foreign) ∧
          source ≠ server) ∧
        parseResponse ((datagram.take 1500).length + 1) (datagram.take 1500) queryId =
          pure addresses := by
  induction arrivals with
  | nil =>
      refine ⟨nofun, ?_⟩
      rintro ⟨ignored, datagram, later, split, -⟩
      cases ignored <;> cases split
  | cons arrival rest inductionHypothesis =>
      obtain ⟨when, received⟩ := arrival
      unfold queryDnsServer
      cases received with
      | error reason =>
          refine ⟨nofun, ?_⟩
          rintro ⟨ignored, datagram, later, split, foreign, -⟩
          cases ignored with
          | nil => cases split
          | cons first ignored =>
              cases split
              obtain ⟨_, _, received, -⟩ := foreign _ List.mem_cons_self
              cases received
      | ok pair =>
          obtain ⟨source, datagram⟩ := pair
          dsimp only
          by_cases same : source = server
          · subst same
            obtain ⟨answer, read⟩ := @settles_parseResponse (datagram.take 1500) _
              (Nat.lt_succ_self _) queryId
            rw [if_neg (not_not.mpr rfl), read]
            constructor
            · intro replied
              cases replied
              exact ⟨[], datagram, rest, rfl, nofun, read⟩
            · rintro ⟨ignored, other, later, split, foreign, parsed⟩
              cases ignored with
              | nil =>
                  cases split
                  rw [parsed] at read
                  cases read
                  rfl
              | cons first ignored =>
                  cases split
                  obtain ⟨_, _, received, apart⟩ := foreign _ List.mem_cons_self
                  cases received
                  exact absurd rfl apart
          · rw [if_pos same, inductionHypothesis]
            constructor
            · rintro ⟨ignored, other, later, rfl, foreign, parsed⟩
              refine ⟨⟨when, .ok (source, datagram)⟩ :: ignored, other, later, rfl, ?_, parsed⟩
              exact List.forall_mem_cons.mpr ⟨⟨source, datagram, rfl, same⟩, foreign⟩
            · rintro ⟨ignored, other, later, split, foreign, parsed⟩
              cases ignored with
              | nil =>
                  cases split
                  exact absurd rfl same
              | cons first ignored =>
                  cases split
                  exact ⟨ignored, other, later, rfl, (List.forall_mem_cons.mp foreign).2, parsed⟩

end Replies

section Race

variable {primaryFirst : Bool} {primary secondary : Option ServerReply} {addresses : List IpAddr}

theorem mem_inOrder {reply : ServerReply} :
    reply ∈ inOrder primaryFirst primary secondary ↔
      primary = some reply ∨ secondary = some reply := by
  unfold inOrder
  split
  · split <;> simp [eq_comm, or_comm]
  · simp

theorem length_inOrder : (inOrder primaryFirst primary secondary).length ≤ 2 := by
  unfold inOrder
  split
  · split <;> exact Nat.le_refl 2
  · rw [List.length_append]
    cases primary <;> cases secondary <;> simp

/-- What is taken is an answer of one of them in time. -/
theorem queryYandex_eq_ok (taken : queryYandex primaryFirst primary secondary = .ok addresses) :
    ∃ after ≤ dnsTimeout, primary = some ⟨after, .ok addresses⟩ ∨
      secondary = some ⟨after, .ok addresses⟩ := by
  have each : ∀ reply ∈ (inOrder primaryFirst primary secondary).filter (·.after ≤ dnsTimeout),
      reply.after ≤ dnsTimeout ∧ (primary = some reply ∨ secondary = some reply) := by
    intro reply member
    obtain ⟨inside, soon⟩ := List.mem_filter.mp member
    exact ⟨of_decide_eq_true soon, Iff.mp mem_inOrder inside⟩
  unfold queryYandex at taken
  generalize (inOrder primaryFirst primary secondary).filter (·.after ≤ dnsTimeout) = replies
    at each taken
  split at taken
  · next after answer _ =>
      cases taken
      exact ⟨after, each _ List.mem_cons_self⟩
  · next after answer _ =>
      cases taken
      exact ⟨after, each _ (List.mem_cons_of_mem _ List.mem_cons_self)⟩
  · cases taken
  · cases taken

/-- There is no timeout where one of them answers in time. -/
theorem queryYandex_answered {after : Nat} (soon : after ≤ dnsTimeout)
    (answered : primary = some ⟨after, .ok addresses⟩ ∨ secondary = some ⟨after, .ok addresses⟩) :
    ∃ taken, queryYandex primaryFirst primary secondary = .ok taken := by
  have inside : ⟨after, .ok addresses⟩ ∈
      (inOrder primaryFirst primary secondary).filter (·.after ≤ dnsTimeout) :=
    List.mem_filter.mpr ⟨Iff.mpr mem_inOrder answered, decide_eq_true soon⟩
  have few : ((inOrder primaryFirst primary secondary).filter (·.after ≤ dnsTimeout)).length ≤ 2 :=
    (List.length_filter_le _ _).trans length_inOrder
  unfold queryYandex
  generalize (inOrder primaryFirst primary secondary).filter (·.after ≤ dnsTimeout) = replies
    at inside few ⊢
  match replies with
  | [] => cases inside
  | ⟨_, .ok first⟩ :: _ => exact ⟨first, rfl⟩
  | ⟨_, .error _⟩ :: ⟨_, .ok second⟩ :: _ => exact ⟨second, rfl⟩
  | [⟨_, .error _⟩] => cases List.mem_singleton.mp inside
  | [⟨_, .error _⟩, ⟨_, .error _⟩] =>
      rcases List.mem_cons.mp inside with same | last
      · cases same
      · cases List.mem_singleton.mp last
  | _ :: _ :: _ :: _ =>
      simp only [List.length_cons] at few
      omega

end Race

section Both

variable {queryId : U16} {primary secondary : List SocketArrival} {addresses : List IpAddr}
  {after : Nat}

theorem replied_of_read (soon : after ≤ dnsTimeout)
    (either :
      queryDnsServer yandexDnsServers.1 queryId primary = .read (some ⟨after, .ok addresses⟩) ∨
      queryDnsServer yandexDnsServers.2 queryId secondary = .read (some ⟨after, .ok addresses⟩)) :
    Replied queryId primary secondary addresses := by
  rcases either with read | read
  · obtain ⟨ignored, datagram, later, split, foreign, parsed⟩ := Iff.mp queryDnsServer_eq_ok read
    exact ⟨datagram, .inl ⟨ignored, after, later, split, foreign, soon⟩,
      matches_of_accepted parsed, parsed⟩
  · obtain ⟨ignored, datagram, later, split, foreign, parsed⟩ := Iff.mp queryDnsServer_eq_ok read
    exact ⟨datagram, .inr ⟨ignored, after, later, split, foreign, soon⟩,
      matches_of_accepted parsed, parsed⟩

theorem read_of_replied (replied : Replied queryId primary secondary addresses) :
    ∃ after ≤ dnsTimeout,
      queryDnsServer yandexDnsServers.1 queryId primary = .read (some ⟨after, .ok addresses⟩) ∨
      queryDnsServer yandexDnsServers.2 queryId secondary =
        .read (some ⟨after, .ok addresses⟩) := by
  obtain ⟨datagram, either, -, parsed⟩ := replied
  rcases either with ⟨ignored, after, later, split, foreign, soon⟩ |
    ⟨ignored, after, later, split, foreign, soon⟩
  · exact ⟨after, soon, .inl (Iff.mpr queryDnsServer_eq_ok
      ⟨ignored, datagram, later, split, foreign, parsed⟩)⟩
  · exact ⟨after, soon, .inr (Iff.mpr queryDnsServer_eq_ok
      ⟨ignored, datagram, later, split, foreign, parsed⟩)⟩

end Both

/-!
### What happened in a run
-/

section Run

open ResolverRun

variable (parse : List U8 → Option IpAddr)

/-- The system was asked for the host: before the tunnel stood, when neither server answered. -/
def SystemAsked (events : List ResolverEvent) (index : Nat) (host : List U8) : Prop :=
  ∃ before after recordType queryId primary secondary primaryFirst,
    events = before ++ .queried index primary secondary primaryFirst :: after ∧
      (run parse before).lookups[index]? = some ⟨.querying recordType queryId, host⟩ ∧
      ResolverEvent.markTunnelActive ∉ before ∧
      ∀ addresses, ¬ Replied queryId primary secondary addresses

/-- Where the addresses of a host came from. -/
inductive Answered (events : List ResolverEvent) (host : List U8) (addresses : List IpAddr) :
    Prop where
  | yandex (before after : List ResolverEvent) (index : Nat) (recordType queryId : U16)
      (primary secondary : List SocketArrival) (primaryFirst : Bool) (query : List U8)
      (happened : events = before ++ .queried index primary secondary primaryFirst :: after)
      (asking : (run parse before).lookups[index]? = some ⟨.querying recordType queryId, host⟩)
      (built : buildQuery host queryId recordType = .ok query)
      (replied : Replied queryId primary secondary addresses)
  | system (before after : List ResolverEvent) (index : Nat) (found : List SocketAddr)
      (happened : events = before ++ .system index (.ok found) :: after)
      (asked : SystemAsked parse before index host)
      (each : addresses = (found.map (·.ip)).eraseDups)

/-- What was remembered for the host last gave way to others remembered no earlier. -/
def Forgotten (remembered : List (List U8 × CacheEntry)) (host : List U8) (entry : CacheEntry) :
    Prop :=
  ∃ others : List (List U8), others.Nodup ∧ others.length = dnsCacheMax ∧ host ∉ others ∧
    ∀ other ∈ others, ∃ later, RecencyTable.lastPut remembered other = some later ∧
      entry.resolvedAt ≤ later.resolvedAt

/-- Nothing remembered for the host could be used: it was too old or gave way. -/
def Unknown (self : ResolverRun) (host : List U8) (maxAge : Nat) : Prop :=
  ∀ entry, RecencyTable.lastPut self.remembered host = some entry →
    maxAge < self.now - entry.resolvedAt ∨ Forgotten self.remembered host entry

/-- What a lookup may hand back at a time: what the name itself says, what was answered for it not
long before, or what was answered longer before if the lookup came to an error of its own. -/
def Justified (events : List ResolverEvent) (host : List U8) (addresses : List IpAddr)
    (logged : Option LookupError) (time : Nat) : Prop :=
  (∃ address, parse host = some address ∧ addresses = [address]) ∨
    (addresses ≠ [] ∧ ∃ resolvedAt ≤ time, Answered parse events host addresses ∧
      (host, ⟨addresses, resolvedAt⟩) ∈ (run parse events).remembered ∧
      (time - resolvedAt ≤ dnsCacheFresh ∨
        logged.isSome ∧ time - resolvedAt ≤ dnsCacheStaleMax))

/-- A lookup failed when nothing that was remembered could be used. -/
def FailedUnknown (events : List ResolverEvent) (index : Nat) (host : List U8)
    (error : LookupError) (time : Nat) : Prop :=
  ∃ before after, events = before ++ .fallBack index :: after ∧
    (run parse before).lookups[index]? = some ⟨.failed error, host⟩ ∧
    (run parse before).now = time ∧ Unknown (run parse before) host dnsCacheStaleMax

/-- What is known of a lookup by where it stands. -/
def Known (events : List ResolverEvent) (index : Nat) (host : List U8) : LookupPoint → Prop
  | .called => True
  | .querying recordType queryId => ∃ query, buildQuery host queryId recordType = .ok query
  | .resolving => SystemAsked parse events index host
  | .resolved addresses => addresses ≠ [] ∧ Answered parse events host addresses
  | .failed _ => True
  | .returned (.ok addresses) logged time => Justified parse events host addresses logged time
  | .returned (.error error) _ time => FailedUnknown parse events index host error time
  | .crashed => False

/-- What holds in every run. -/
structure Traced (events : List ResolverEvent) : Prop where
  lookups : ∀ index point host, (run parse events).lookups[index]? = some ⟨point, host⟩ →
    Known parse events index host point
  remembered : ∀ host entry, (host, entry) ∈ (run parse events).remembered →
    entry.addresses ≠ [] ∧ entry.resolvedAt ≤ (run parse events).now ∧
      Answered parse events host entry.addresses
  cache : RecencyTable.Recent CacheEntry.resolvedAt dnsCacheMax (run parse events).cache
    (run parse events).remembered

variable {parse} {events : List ResolverEvent} {host : List U8} {index : Nat}

theorem run_concat (events : List ResolverEvent) (event : ResolverEvent) :
    run parse (events ++ [event]) = (run parse events).step parse event := by
  rw [run, run, List.foldl_append]
  rfl

theorem SystemAsked.later (asked : SystemAsked parse events index host) (event : ResolverEvent) :
    SystemAsked parse (events ++ [event]) index host := by
  obtain ⟨before, after, recordType, queryId, primary, secondary, first, rfl, rest⟩ := asked
  exact ⟨before, after ++ [event], recordType, queryId, primary, secondary, first,
    List.append_assoc _ _ _, rest⟩

theorem Answered.later {addresses : List IpAddr} (answered : Answered parse events host addresses)
    (event : ResolverEvent) : Answered parse (events ++ [event]) host addresses := by
  cases answered with
  | yandex before after index recordType queryId primary secondary first query happened asking built
      replied =>
      refine .yandex before (after ++ [event]) index recordType queryId primary secondary first
        query ?_ asking built replied
      rw [happened, List.append_assoc, List.cons_append]
  | system before after index found happened asked each =>
      refine .system before (after ++ [event]) index found ?_ asked each
      rw [happened, List.append_assoc, List.cons_append]

theorem Known.later {point : LookupPoint} (known : Known parse events index host point)
    (event : ResolverEvent)
    (kept : (run parse events).remembered ⊆ (run parse (events ++ [event])).remembered) :
    Known parse (events ++ [event]) index host point := by
  cases point with
  | called => trivial
  | querying recordType queryId => exact known
  | resolving => exact SystemAsked.later known event
  | resolved addresses => exact ⟨known.1, known.2.later event⟩
  | failed error => trivial
  | returned result logged time =>
      cases result with
      | ok addresses =>
          rcases known with literal | ⟨some, resolvedAt, before, answered, member, age⟩
          · exact .inl literal
          · exact .inr ⟨some, resolvedAt, before, answered.later event, kept member, age⟩
      | error error =>
          obtain ⟨before, after, rfl, rest⟩ := known
          exact ⟨before, after ++ [event], List.append_assoc _ _ _, rest⟩
  | crashed => exact known

/-!
### One step
-/

theorem tunnelActive_step (self : ResolverRun) (event : ResolverEvent) :
    (self.step parse event).tunnelActive = true ↔
      self.tunnelActive = true ∨ event = .markTunnelActive := by
  cases event with
  | markTunnelActive => exact ⟨fun _ => .inr rfl, fun _ => rfl⟩
  | lookup host => simp [step]
  | pass time => simp [step]
  | look index queryId => simp only [step, reduceCtorEq, or_false]; split <;> rfl
  | queried index primary secondary primaryFirst =>
      simp only [step, reduceCtorEq, or_false]; split <;> rfl
  | system index found => simp only [step, reduceCtorEq, or_false]; split <;> rfl
  | remember index => simp only [step, reduceCtorEq, or_false]; split <;> rfl
  | fallBack index => simp only [step, reduceCtorEq, or_false]; split <;> rfl

theorem tunnelActive_run (events : List ResolverEvent) :
    (run parse events).tunnelActive = true ↔ ResolverEvent.markTunnelActive ∈ events := by
  induction events using List.reverseRecOn with
  | nil => exact ⟨nofun, nofun⟩
  | append_singleton events event inductionHypothesis =>
      rw [run_concat, tunnelActive_step, inductionHypothesis, List.mem_append,
        List.mem_singleton, eq_comm]

theorem move_lookups {self : ResolverRun} {point next moved : LookupPoint} {other : Nat}
    {name : List U8} (here : self.lookups[index]? = some ⟨point, host⟩)
    (found : (self.move index ⟨point, host⟩ next).lookups[other]? = some ⟨moved, name⟩) :
    (other = index ∧ moved = next ∧ name = host) ∨ self.lookups[other]? = some ⟨moved, name⟩ := by
  by_cases same : other = index
  · subst same
    rw [move, Interleaving.getElem?_advance_self here] at found
    cases found
    exact .inl ⟨rfl, rfl, rfl⟩
  · rw [move, Interleaving.getElem?_advance_alone same] at found
    exact .inr found

theorem cached_eq_some {cache : DnsCache} {now maxAge : Nat} {addresses : List IpAddr}
    (found : cached cache now host maxAge = some addresses) :
    ∃ entry, cache.lookup host = some entry ∧ entry.addresses = addresses ∧
      now - entry.resolvedAt ≤ maxAge := by
  obtain ⟨entry, kept, same⟩ := Option.map_eq_some_iff.mp found
  obtain ⟨looked, young⟩ := Option.filter_eq_some_iff.mp kept
  exact ⟨entry, looked, same, of_decide_eq_true young⟩

theorem cached_eq_none {cache : DnsCache} {now maxAge : Nat} {entry : CacheEntry}
    (missing : cached cache now host maxAge = none) (looked : cache.lookup host = some entry) :
    maxAge < now - entry.resolvedAt := by
  rw [cached, looked, Option.map_eq_none_iff, Option.filter_some] at missing
  by_contra young
  rw [decide_eq_true (Nat.le_of_not_lt young)] at missing
  cases missing

theorem known_beginQuery (recordType queryId : U16) :
    Known parse events index host (beginQuery host recordType queryId) := by
  rw [beginQuery]
  cases built : buildQuery host queryId recordType with
  | ok query => exact ⟨query, built⟩
  | error error => trivial

theorem foldl_ips (found : List SocketAddr) :
    found.foldl (fun addresses address => pushAddress addresses address.ip) [] =
      (found.map (·.ip)).eraseDups := by
  rw [← foldl_pushAddress, List.foldl_map]

section Step

variable (traced : Traced parse events)

include traced

/-- What the cache gives was remembered and answered. -/
theorem Traced.cached {maxAge : Nat} {addresses : List IpAddr}
    (found : cached (run parse events).cache (run parse events).now host maxAge = some addresses) :
    addresses ≠ [] ∧ ∃ resolvedAt ≤ (run parse events).now, Answered parse events host addresses ∧
      (host, ⟨addresses, resolvedAt⟩) ∈ (run parse events).remembered ∧
      (run parse events).now - resolvedAt ≤ maxAge := by
  obtain ⟨entry, looked, rfl, young⟩ := cached_eq_some found
  have member := RecencyTable.Recent.mem_of_lastPut (traced.cache.last host entry looked)
  obtain ⟨some, before, answered⟩ := traced.remembered host entry member
  exact ⟨some, entry.resolvedAt, before, answered, member, young⟩

theorem Traced.unknown {maxAge : Nat}
    (missing : Dns.cached (run parse events).cache (run parse events).now host maxAge = none) :
    Unknown (run parse events) host maxAge := by
  intro entry put
  by_cases inside : host ∈ (run parse events).cache
  · obtain ⟨kept, looked⟩ := Option.isSome_iff_exists.mp (AList.lookup_isSome.mpr inside)
    have same := traced.cache.last host kept looked
    rw [put] at same
    cases same
    exact .inl (cached_eq_none missing looked)
  · exact .inr (traced.cache.forgotten put inside)

/-- A step that leaves the cache alone, and after which the lookups that moved are known. -/
theorem Traced.quiet {event : ResolverEvent}
    (now : (run parse events).now ≤ ((run parse events).step parse event).now)
    (cache : ((run parse events).step parse event).cache = (run parse events).cache)
    (same : ((run parse events).step parse event).remembered = (run parse events).remembered)
    (lookups : ∀ index point host,
      ((run parse events).step parse event).lookups[index]? = some ⟨point, host⟩ →
        (run parse events).lookups[index]? = some ⟨point, host⟩ ∨
          Known parse (events ++ [event]) index host point) :
    Traced parse (events ++ [event]) := by
  rw [← run_concat] at now cache same lookups
  refine ⟨fun index point host found => ?_, fun host entry member => ?_, ?_⟩
  · rcases lookups index point host found with before | moved
    · refine (traced.lookups index point host before).later event ?_
      rw [same]
      exact List.Subset.refl _
    · exact moved
  · rw [same] at member
    obtain ⟨some, before, answered⟩ := traced.remembered host entry member
    exact ⟨some, before.trans now, answered.later event⟩
  · rw [same, cache]
    exact traced.cache

/-- A lookup that moves to a point at which it is known. -/
theorem Traced.move {event : ResolverEvent} {point next : LookupPoint}
    (here : (run parse events).lookups[index]? = some ⟨point, host⟩)
    (stepped : (run parse events).step parse event =
      (run parse events).move index ⟨point, host⟩ next)
    (known : Known parse (events ++ [event]) index host next) :
    Traced parse (events ++ [event]) := by
  refine traced.quiet (by rw [stepped]; rfl) (by rw [stepped]; rfl) (by rw [stepped]; rfl) ?_
  intro other moved name found
  rw [stepped] at found
  rcases move_lookups here found with ⟨rfl, rfl, rfl⟩ | before
  · exact .inr known
  · exact .inl before

/-- An event that concerns no lookup. -/
theorem Traced.idle {event : ResolverEvent}
    (stepped : (run parse events).step parse event = run parse events) :
    Traced parse (events ++ [event]) := by
  refine traced.quiet (by rw [stepped]) (by rw [stepped]) (by rw [stepped]) ?_
  intro index point host found
  rw [stepped] at found
  exact .inl found

theorem known_look (queryId : U16) :
    Known parse (events ++ [.look index queryId]) index host
      ((run parse events).look parse host queryId) := by
  rw [look]
  cases literal : parse host with
  | some address => exact .inl ⟨address, literal, rfl⟩
  | none =>
      dsimp only
      cases found : Dns.cached (run parse events).cache (run parse events).now host
          dnsCacheFresh with
      | some addresses =>
          obtain ⟨some, resolvedAt, before, answered, member, young⟩ := traced.cached found
          refine .inr ⟨some, resolvedAt, before, answered.later _, ?_, .inl young⟩
          rw [run_concat]
          simp only [step]
          split <;> exact member
      | none => exact known_beginQuery dnsARecord queryId

theorem known_queried {recordType queryId : U16} {primary secondary : List SocketArrival}
    {primaryFirst : Bool}
    (here : (run parse events).lookups[index]? = some ⟨.querying recordType queryId, host⟩) :
    Known parse (events ++ [.queried index primary secondary primaryFirst]) index host
      ((run parse events).queried host recordType queryId primary secondary primaryFirst) := by
  obtain ⟨query, built⟩ := traced.lookups index _ host here
  obtain ⟨first, readFirst⟩ := queryDnsServer_read yandexDnsServers.1 queryId primary
  obtain ⟨second, readSecond⟩ := queryDnsServer_read yandexDnsServers.2 queryId secondary
  rw [queried, readFirst, readSecond]
  dsimp only
  cases outcome : queryYandex primaryFirst first second with
  | ok addresses =>
      cases addresses with
      | nil =>
          rw [afterQuery]
          split
          · exact known_beginQuery dnsAaaaRecord (queryId + 1)
          · trivial
      | cons address addresses =>
          refine ⟨List.cons_ne_nil _ _, .yandex events [] index recordType queryId primary secondary
            primaryFirst query rfl here built ?_⟩
          obtain ⟨after, soon, either⟩ := queryYandex_eq_ok outcome
          rcases either with rfl | rfl
          · exact replied_of_read soon (.inl readFirst)
          · exact replied_of_read soon (.inr readSecond)
  | error error =>
      cases error with
      | timedOut =>
          rw [afterQuery]
          split
          · trivial
          · next inactive =>
              refine ⟨events, [], recordType, queryId, primary, secondary, primaryFirst, rfl, here,
                fun marked => inactive ((tunnelActive_run events).mpr marked), ?_⟩
              intro addresses replied
              obtain ⟨after, soon, either⟩ := read_of_replied replied
              rw [readFirst, readSecond] at either
              obtain ⟨taken, some⟩ := @queryYandex_answered primaryFirst first second addresses
                after soon (either.imp (fun read => by cases read; rfl)
                  fun read => by cases read; rfl)
              rw [outcome] at some
              cases some
      | query error => trivial
      | refused first second => trivial

theorem known_system {found : Except String (List SocketAddr)}
    (here : (run parse events).lookups[index]? = some ⟨.resolving, host⟩) :
    Known parse (events ++ [.system index found]) index host
      (afterSystem (systemLookup host found)) := by
  cases looked : systemLookup host found with
  | error error => trivial
  | ok addresses =>
      cases found with
      | error reason => cases looked
      | ok found =>
          have asked : SystemAsked parse events index host := traced.lookups index _ host here
          rw [systemLookup, foldl_ips] at looked
          split at looked
          · cases looked
          · next some =>
              cases looked
              refine ⟨fun empty => some (List.isEmpty_iff.mpr empty), ?_⟩
              exact .system events [] index found rfl asked rfl

theorem known_fallBack {error : LookupError}
    (here : (run parse events).lookups[index]? = some ⟨.failed error, host⟩) :
    Known parse (events ++ [.fallBack index]) index host
      ((run parse events).fallBack host error) := by
  rw [fallBack]
  cases found : Dns.cached (run parse events).cache (run parse events).now host
      dnsCacheStaleMax with
  | some addresses =>
      obtain ⟨some, resolvedAt, before, answered, member, young⟩ := traced.cached found
      refine .inr ⟨some, resolvedAt, before, answered.later _, ?_, .inr ⟨rfl, young⟩⟩
      rw [run_concat]
      simp only [step]
      split <;> exact member
  | none => exact ⟨events, [], rfl, here, rfl, traced.unknown found⟩

/-- The lookup that remembers its addresses is justified by what it remembers. -/
theorem Traced.remember {addresses : List IpAddr}
    (here : (run parse events).lookups[index]? = some ⟨.resolved addresses, host⟩) :
    Traced parse (events ++ [.remember index]) := by
  have stepped : run parse (events ++ [.remember index]) =
      { (run parse events).move index ⟨.resolved addresses, host⟩
          (.returned (.ok addresses) none (run parse events).now) with
        cache := Dns.remember (run parse events).cache (run parse events).now host addresses
        remembered := (host, ⟨addresses, (run parse events).now⟩) ::
          (run parse events).remembered } := by
    rw [run_concat]
    simp only [step, here]
  obtain ⟨some, answered⟩ := traced.lookups index _ host here
  refine ⟨fun other point name found => ?_, fun name entry member => ?_, ?_⟩
  · rw [stepped] at found
    rcases move_lookups here found with ⟨rfl, rfl, rfl⟩ | before
    · refine .inr ⟨some, (run parse events).now, Nat.le_refl _, answered.later _, ?_, .inl ?_⟩
      · rw [stepped]
        exact List.mem_cons_self
      · rw [Nat.sub_self]
        exact Nat.zero_le _
    · refine (traced.lookups other point name before).later _ ?_
      rw [stepped]
      exact List.subset_cons_self _ _
  · rw [stepped] at member ⊢
    rcases List.mem_cons.mp member with same | before
    · cases same
      exact ⟨some, Nat.le_refl _, answered.later _⟩
    · obtain ⟨some, before, answered⟩ := traced.remembered name entry before
      exact ⟨some, before, answered.later _⟩
  · rw [stepped]
    exact traced.cache.put (by decide) fun entry member =>
      (traced.remembered entry.1 entry.2 member).2.1

theorem Traced.concat (event : ResolverEvent) : Traced parse (events ++ [event]) := by
  cases event with
  | lookup name =>
      refine traced.quiet (Nat.le_refl _) rfl rfl fun other point host found => ?_
      simp only [step] at found
      rw [List.getElem?_append] at found
      split at found
      · exact .inl found
      · cases List.mem_singleton.mp (List.mem_of_getElem? found)
        exact .inr trivial
  | look index queryId =>
      rcases here : (run parse events).lookups[index]? with _ | ⟨point, host⟩
      · exact traced.idle (by simp only [step, here])
      cases point with
      | called => exact traced.move here (by simp only [step, here]) (known_look traced queryId)
      | _ => exact traced.idle (by simp only [step, here])
  | queried index primary secondary primaryFirst =>
      rcases here : (run parse events).lookups[index]? with _ | ⟨point, host⟩
      · exact traced.idle (by simp only [step, here])
      cases point with
      | querying recordType queryId =>
          exact traced.move here (by simp only [step, here]) (known_queried traced here)
      | _ => exact traced.idle (by simp only [step, here])
  | system index found =>
      rcases here : (run parse events).lookups[index]? with _ | ⟨point, host⟩
      · exact traced.idle (by simp only [step, here])
      cases point with
      | resolving => exact traced.move here (by simp only [step, here]) (known_system traced here)
      | _ => exact traced.idle (by simp only [step, here])
  | remember index =>
      rcases here : (run parse events).lookups[index]? with _ | ⟨point, host⟩
      · exact traced.idle (by simp only [step, here])
      cases point with
      | resolved addresses => exact traced.remember here
      | _ => exact traced.idle (by simp only [step, here])
  | fallBack index =>
      rcases here : (run parse events).lookups[index]? with _ | ⟨point, host⟩
      · exact traced.idle (by simp only [step, here])
      cases point with
      | failed error =>
          exact traced.move here (by simp only [step, here]) (known_fallBack traced here)
      | _ => exact traced.idle (by simp only [step, here])
  | pass time =>
      exact traced.quiet (Nat.le_add_right _ _) rfl rfl fun _ _ _ found => .inl found
  | markTunnelActive =>
      exact traced.quiet (Nat.le_refl _) rfl rfl fun _ _ _ found => .inl found

end Step

theorem traced_run (parse : List U8 → Option IpAddr) (events : List ResolverEvent) :
    Traced parse events := by
  induction events using List.reverseRecOn with
  | nil =>
      refine ⟨fun index point host found => ?_, fun host entry member => ?_, .empty⟩
      · rw [show run parse [] = start from rfl, start, List.getElem?_nil] at found
        cases found
      · cases member
  | append_singleton events event inductionHypothesis => exact inductionHypothesis.concat event

end Run

/-- However lookups interleave and whatever datagrams come, none of them crashes, and what one
hands back is the address its name spells, or was given by a response of one of the two servers
with the number of a query for that very name, or by the system before the tunnel stood; within a
minute, or within six hours where the lookup failed and says so. -/
theorem lookups_answered (parse : List U8 → Option IpAddr) (events : List ResolverEvent)
    (index : Nat) (host : List U8) (point : LookupPoint)
    (here : (ResolverRun.run parse events).lookups[index]? = some ⟨point, host⟩) :
    point ≠ .crashed ∧
      ∀ addresses logged time, point = .returned (.ok addresses) logged time →
        Justified parse events host addresses logged time := by
  have known := (traced_run parse events).lookups index point host here
  constructor
  · rintro rfl
    exact known
  · rintro addresses logged time rfl
    exact known

/-- A name server answers with an address, and a second lookup takes it from the cache. -/
def twoLookups : List ResolverEvent :=
  let host : List U8 := [0x76, 0x6b]
  [.lookup host, .lookup host, .look 0 7,
    .queried 0
      [⟨20, .ok (⟨.v4 0x01020304, 53⟩, [])⟩,
        ⟨30, .ok (yandexDnsServers.1, [0, 7, 0x81, 0x80, 0, 0, 0, 1, 0, 0, 0, 0, 0, 0, 1, 0, 1,
          0, 0, 0, 60, 0, 4, 10, 1, 2, 3])⟩] [] true,
    .remember 0, .pass 1000, .look 1 9]

theorem lookups_answered_cached :
    Justified (fun _ => none) twoLookups [0x76, 0x6b] [.v4 0x0a010203] none 1000 :=
  (lookups_answered _ twoLookups 1 _ _ rfl).2 _ _ _ rfl

/-- The cache is small, but a query is sent only where nothing remembered is fresh, and an error
is handed back only where nothing remembered is of the last six hours, unless as many other hosts
as there is room for were remembered no earlier. -/
theorem lookups_remember (parse : List U8 → Option IpAddr) (events : List ResolverEvent) :
    HashTable.size (ResolverRun.run parse events).cache ≤ dnsCacheMax ∧
    (∀ index host error logged time, (ResolverRun.run parse events).lookups[index]? =
        some ⟨.returned (.error error) logged time, host⟩ →
      FailedUnknown parse events index host error time) ∧
    ∀ index host queryId recordType nextId,
      (ResolverRun.run parse events).lookups[index]? = some ⟨.called, host⟩ →
      (ResolverRun.run parse (events ++ [.look index queryId])).lookups[index]? =
        some ⟨.querying recordType nextId, host⟩ →
      Unknown (ResolverRun.run parse events) host dnsCacheFresh := by
  have traced := traced_run parse events
  refine ⟨traced.cache.small, fun index host error logged time here => ?_,
    fun index host queryId recordType nextId here asking => ?_⟩
  · exact traced.lookups index _ host here
  · rw [run_concat] at asking
    simp only [ResolverRun.step, here, ResolverRun.move,
      Interleaving.getElem?_advance_self here] at asking
    apply traced.unknown
    cases missing : cached (ResolverRun.run parse events).cache (ResolverRun.run parse events).now
        host dnsCacheFresh with
    | none => rfl
    | some addresses =>
        rw [ResolverRun.look, missing] at asking
        cases literal : parse host with
        | none =>
            rw [literal] at asking
            cases asking
        | some address =>
            rw [literal] at asking
            cases asking

/-- Nobody answers, and nothing was remembered. -/
def lookupFails : List ResolverEvent :=
  [.lookup [0x76, 0x6b], .look 0 7, .queried 0 [] [] true, .system 0 (.error "no network"),
    .fallBack 0]

theorem lookups_remember_nothing :
    FailedUnknown (fun _ => none) lookupFails 0 [0x76, 0x6b] (.system [0x76, 0x6b] "no network")
      0 :=
  (lookups_remember _ lookupFails).2.1 0 _ _ _ _ rfl

end Csqtt.Dns
