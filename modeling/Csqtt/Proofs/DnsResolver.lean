/-
Module: Csqtt.Proofs.DnsResolver
Purpose: When no call gets an answer from a list of servers that had been replaced before it
  began, over all interleavings of the resolver's calls.
Trusted boundary: none
Main exports: DnsRun.Timely, DnsRun.Sound, DnsRun.cache_fresh, DnsRun.cache_stale
-/
import Csqtt.Core.Transducer
import Csqtt.Helper.DnsResolver

namespace Csqtt

/-- An insertion leaves old entries or puts the new one in. -/
theorem mem_rememberLocked {cache : List (String × DnsCacheEntry)} {now : Nat}
    {order : List String} {host : String} {e : DnsCacheEntry} {pair : String × DnsCacheEntry}
    (mem : pair ∈ rememberLocked cache now order host e) : pair = (host, e) ∨ pair ∈ cache := by
  rw [rememberLocked, List.mem_cons] at mem
  obtain new | old := mem
  · exact Or.inl new
  · refine Or.inr ?_
    have kept := (List.mem_filter.mp old).1
    split at kept
    · dsimp only at kept
      split at kept
      · exact kept
      · exact (List.mem_filter.mp kept).1
    · exact kept

theorem source_entry (result : DnsResult) (now source : Nat) :
    (result.entry now source).source = source := by
  cases result <;> rfl

/-- What a call knows of lists is no older than its beginning. -/
def DnsPoint.Fits (since version : Nat) : DnsPoint → Prop
  | .system source => since ≤ source
  | .querying _ _ source => since ≤ source
  | .storing _ _ source => since ≤ source
  | .closing _ source => since ≤ source
  | .answered answer => ∀ source, answer.source = some source → since ≤ source
  | .replaced source => source ≤ version
  | _ => True

namespace DnsRun

/-- The number of the list whose result a step of the point stores. -/
def stores : DnsPoint → DnsChoice → Option Nat
  | .storing _ _ source, .order _ => some source
  | _, _ => none

def storedBy (self : DnsRun) : DnsEvent → Option Nat
  | .move call choice => self.calls[call]?.bind fun here => stores here.point choice
  | _ => none

/-- A flight that comes to store its result was begun with the list that is still set. -/
def Timely (self : DnsRun) (event : DnsEvent) : Prop :=
  ∀ source ∈ self.storedBy event, source = self.version

instance : DecidableRel Timely := fun self event =>
  inferInstanceAs (Decidable (∀ source ∈ self.storedBy event, source = self.version))

/-- Every entry is of the current list, and no call of an older one than when it began. -/
structure Sound (run : DnsRun) : Prop where
  settled : run.settled ≤ run.version
  current : ∀ pair ∈ run.resolver.cache, pair.2.source = run.version
  began : ∀ call ∈ run.calls, call.since ≤ run.version
  fits : ∀ call ∈ run.calls, call.point.Fits call.since run.version

variable {parseIP : String → Bool} {self : DnsRun} {call : Nat} {here : DnsCall}

theorem sound_start (parseIP : String → Bool) (servers : List String) :
    (start parseIP servers).Sound where
  settled := Nat.le_refl 0
  current _ mem := by cases mem
  began _ mem := by cases mem
  fits _ mem := by cases mem

theorem Sound.fresh (sound : self.Sound) : self.Fresh := by
  intro call mem result source answered
  have fits := sound.fits call mem
  rw [answered] at fits
  exact fits source rfl

theorem mem_moved {other : DnsCall} {point : DnsPoint} (found : self.calls[call]? = some here)
    (mem : other ∈ (self.moved call point).calls) :
    other = { here with point := point } ∨ other ∈ self.calls := by
  obtain ⟨place, there⟩ := List.getElem?_of_mem mem
  rw [moved, List.getElem?_modify] at there
  by_cases same : call = place
  · subst same
    rw [found] at there
    left
    simpa using there.symm
  · right
    exact List.mem_of_getElem? (i := place) (by simpa [same] using there)

/-- A call that moves on to a fitting point keeps everything sound. -/
theorem Sound.moved (sound : self.Sound) (found : self.calls[call]? = some here)
    {point : DnsPoint} (fits : point.Fits here.since self.version) :
    (self.moved call point).Sound where
  settled := sound.settled
  current := sound.current
  began other mem := by
    obtain rfl | old := mem_moved found mem
    · exact sound.began here (List.mem_of_getElem? found)
    · exact sound.began other old
  fits other mem := by
    obtain rfl | old := mem_moved found mem
    · exact fits
    · exact sound.fits other old

/-- Nothing is said of the queries in flight and the closed channels. -/
theorem Sound.flights (sound : self.Sound) (inFlight : List (String × Nat)) (closed : List Nat) :
    ({ self with
      resolver := { self.resolver with inFlight := inFlight }
      closed := closed } : DnsRun).Sound where
  settled := sound.settled
  current := sound.current
  began := sound.began
  fits := sound.fits

/-- A fresh result of the current list goes into the cache. -/
theorem Sound.remembered (sound : self.Sound) (inFlight : List (String × Nat))
    (names : List String) (host : String) {e : DnsCacheEntry} (current : e.source = self.version) :
    ({ self with
      resolver := { self.resolver with
        inFlight := inFlight
        cache := rememberLocked self.resolver.cache self.now names host e } } : DnsRun).Sound where
  settled := sound.settled
  current pair mem := by
    obtain rfl | old := mem_rememberLocked mem
    · exact current
    · exact sound.current pair old
  began := sound.began
  fits := sound.fits

/-- A new list empties the cache. -/
theorem Sound.replaced (sound : self.Sound) (servers : List String) :
    ({ self with
      resolver := { self.resolver with servers := servers, cache := [] }
      version := self.version + 1 } : DnsRun).Sound where
  settled := Nat.le_succ_of_le sound.settled
  current _ mem := by cases mem
  began other mem := Nat.le_succ_of_le (sound.began other mem)
  fits other mem := by
    have fits := sound.fits other mem
    cases point : other.point with
    | replaced source =>
      rw [point] at fits
      exact Nat.le_succ_of_le fits
    | _ => rw [point] at fits; exact fits

theorem Sound.returned (sound : self.Sound) {source : Nat} (known : source ≤ self.version) :
    ({ self with settled := max self.settled source } : DnsRun).Sound where
  settled := Nat.max_le.mpr ⟨sound.settled, known⟩
  current := sound.current
  began := sound.began
  fits := sound.fits

/-- A cached answer is of the current list. -/
theorem Sound.cached (sound : self.Sound) (found : self.calls[call]? = some here)
    {host : String} {e : DnsCacheEntry} (entry : self.resolver.cache.lookup host = some e) :
    (self.moved call
      (.answered { result := cachedLookup host e, source := some e.source })).Sound := by
  refine sound.moved found fun source same => ?_
  cases same
  obtain ⟨_, _, whole, -⟩ := List.lookup_eq_some_iff.mp entry
  have member : (host, e) ∈ self.resolver.cache := by
    rw [whole]
    exact List.mem_append_right _ List.mem_cons_self
  have current := sound.current (host, e) member
  exact (sound.began here (List.mem_of_getElem? found)).trans_eq current.symm

theorem Sound.flown (sound : self.Sound) (found : self.calls[call]? = some here) (host : String)
    (flight : Option Nat) : (self.flown call host flight).Sound := by
  cases flight with
  | some channel => exact sound.moved found trivial
  | none =>
    have begun := sound.flights ((host, call) :: self.resolver.inFlight) self.closed
    exact begun.moved found trivial

/-- The step lemma: a timely step of a call keeps everything sound. -/
theorem Sound.advance (sound : self.Sound) (found : self.calls[call]? = some here)
    {choice : DnsChoice} (timely : self.Timely (.move call choice)) {next : DnsRun}
    (advances : self.advance parseIP call here.point choice = some next) : next.Sound := by
  have began := sound.began here (List.mem_of_getElem? found)
  have fits := sound.fits here (List.mem_of_getElem? found)
  obtain ⟨point, since⟩ := here
  cases point with
  | lookup host =>
    cases choice with
    | go =>
      simp only [DnsRun.advance] at advances
      split at advances
      · cases advances
        exact sound.moved found nofun
      · split at advances
        · cases advances
          exact sound.moved found began
        · cases advances
          exact sound.moved found trivial
    | _ => cases advances
  | system source =>
    cases choice with
    | system result =>
      cases advances
      refine sound.moved found fun source same => ?_
      cases same
      exact fits
    | _ => cases advances
  | locking host =>
    cases choice with
    | go =>
      cases entry : self.resolver.cache.lookup host with
      | none =>
        simp only [DnsRun.advance, entry] at advances
        cases advances
        exact sound.flown found host _
      | some e =>
        simp only [DnsRun.advance, entry] at advances
        split at advances
        · cases advances
          exact sound.cached found entry
        · cases advances
          exact sound.flown found host _
    | _ => cases advances
  | waiting host channel =>
    cases choice with
    | go =>
      simp only [DnsRun.advance] at advances
      split at advances
      · cases advances
        exact sound.moved found trivial
      · cases advances
    | _ => cases advances
  | woken host =>
    cases choice with
    | go =>
      simp only [DnsRun.advance] at advances
      split at advances
      · next e entry =>
          split at advances
          · cases advances
            exact sound.cached found entry
          · cases advances
            exact sound.moved found nofun
      · cases advances
        exact sound.moved found nofun
    | _ => cases advances
  | opening host =>
    cases choice with
    | go =>
      cases advances
      exact sound.moved found began
    | _ => cases advances
  | querying host servers source =>
    cases choice with
    | answers a aaaa =>
      simp only [DnsRun.advance] at advances
      split at advances
      · cases advances
        exact sound.moved found fits
      · cases advances
    | _ => cases advances
  | storing host result source =>
    cases choice with
    | order names =>
      simp only [DnsRun.advance] at advances
      split at advances
      · cases advances
        have current : source = self.version :=
          timely source (by simp only [storedBy, found, Option.bind_some, stores, Option.mem_some])
        have remembered := sound.remembered (self.resolver.inFlight.filter (·.1 ≠ host)) names host
          ((source_entry result self.now source).trans current)
        exact remembered.moved found fits
      · cases advances
    | _ => cases advances
  | closing result source =>
    cases choice with
    | go =>
      cases advances
      refine (sound.flights self.resolver.inFlight (call :: self.closed)).moved found
        fun source same => ?_
      cases same
      exact fits
    | _ => cases advances
  | answered answer => cases advances
  | setting servers =>
    cases choice with
    | go =>
      simp only [DnsRun.advance] at advances
      split at advances
      · cases advances
        exact sound.moved found trivial
      · cases advances
        exact sound.moved found trivial
    | _ => cases advances
  | replacing normalized =>
    cases choice with
    | go =>
      cases advances
      exact (sound.replaced normalized).moved found (Nat.le_refl _)
    | _ => cases advances
  | replaced source =>
    cases choice with
    | go =>
      cases advances
      exact (sound.returned fits).moved found trivial
    | _ => cases advances
  | done => cases advances

/-- A call begins. -/
theorem Sound.begin (sound : self.Sound) {point : DnsPoint}
    (fits : point.Fits self.settled self.version) :
    ({ self with calls := self.calls ++ [⟨point, self.settled⟩] } : DnsRun).Sound where
  settled := sound.settled
  current := sound.current
  began other mem := by
    obtain old | new := List.mem_append.mp mem
    · exact sound.began other old
    · obtain rfl := List.mem_singleton.mp new
      exact sound.settled
  fits other mem := by
    obtain old | new := List.mem_append.mp mem
    · exact sound.fits other old
    · obtain rfl := List.mem_singleton.mp new
      exact fits

theorem Sound.step (sound : self.Sound) {event : DnsEvent} (timely : self.Timely event) :
    (self.step parseIP event).1.Sound := by
  cases event with
  | lookupHost host => exact sound.begin trivial
  | setServers servers => exact sound.begin trivial
  | tick elapsed => exact ⟨sound.settled, sound.current, sound.began, sound.fits⟩
  | move call choice =>
    simp only [DnsRun.step]
    split
    · exact sound
    · next here found =>
        cases advances : self.advance parseIP call here.point choice with
        | none => exact sound
        | some next => exact sound.advance found timely advances

/-- In every interleaving in which a flight only ever stores what it got from the list that
is still set, a lookup that begins after SetServers has returned never gets an answer from
an earlier list. -/
theorem cache_fresh (parseIP : String → Bool) (servers : List String) (events : List DnsEvent)
    (timely : Transducer.AtEveryStep (DnsRun.step parseIP) (start parseIP servers) events Timely) :
    Transducer.Throughout (DnsRun.step parseIP) (start parseIP servers) events Fresh := by
  intro consumed within
  have keeps (state : DnsRun) (event : DnsEvent) (sound : state.Sound)
      (timely : state.Timely event) : (DnsRun.step parseIP state event).1.Sound :=
    sound.step timely
  have sound := Transducer.invariant_of_atEveryStep (DnsRun.step parseIP) keeps
    (sound_start parseIP servers) (timely.of_prefix within)
  exact sound.fresh

/-- A call that looks a name up by itself: it finds nothing, asks the servers and stores
what they say. -/
def lookupAlone (call : Nat) (names : List String) (host : String) (answers : List DnsResult) :
    List DnsEvent :=
  [.lookupHost host, .move call .go, .move call .go, .move call .go,
    .move call (.answers answers answers), .move call (.order names), .move call .go]

/-- The texts of the two runs below that are addresses. -/
def literal (text : String) : Bool := ["10.0.0.1", "10.0.0.2"].contains text

def setAlone (call : Nat) (servers : List String) : List DnsEvent :=
  [.setServers servers, .move call .go, .move call .go, .move call .go]

/-- With the list set between two lookups of a name the second gets its own answer. -/
theorem cache_fresh_between :
    Transducer.Throughout (DnsRun.step literal) (start literal ["10.0.0.1"])
      (lookupAlone 0 [] "host" [.ok ["1.1.1.1"]] ++ setAlone 1 ["10.0.0.2"] ++
        lookupAlone 2 [] "host" [.error "timeout"]) Fresh :=
  cache_fresh _ _ _ (by decide)

/-- The list is replaced while the first lookup waits for its answer, and the second lookup,
begun after that, gets this answer from the cache. -/
theorem cache_stale :
    ¬ Transducer.Throughout (DnsRun.step literal) (start literal ["10.0.0.1"])
      ([.lookupHost "host", .move 0 .go, .move 0 .go, .move 0 .go] ++
        setAlone 1 ["10.0.0.2"] ++
        [.move 0 (.answers [.error "timeout"] [.error "timeout"]), .move 0 (.order []),
          .move 0 .go, .lookupHost "host", .move 2 .go, .move 2 .go]) Fresh := by
  intro fresh
  have stale := fresh _ (List.prefix_refl _)
  have answered := stale ⟨.answered { result := .error (noRecords "host"), source := some 0 }, 1⟩
    (by decide) (.error (noRecords "host")) 0 rfl
  exact Nat.not_succ_le_zero 0 answered

end DnsRun

end Csqtt
