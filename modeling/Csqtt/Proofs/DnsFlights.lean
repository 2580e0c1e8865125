/-
Module: Csqtt.Proofs.DnsFlights
Purpose: A host has one leader, nobody is left blocked, and when all who joined a flight return
  what its leader obtained, over all interleavings of the resolver's calls.
Trusted boundary: none
Main exports: DnsMove, DnsRun.advance_moves, DnsRun.Flying, DnsFlights.Careful,
  DnsFlights.agreed_of_careful, DnsFlights.outcome_lost
-/
import Csqtt.Core.Transducer
import Csqtt.Helper.DnsResolver

namespace Csqtt

/-!
### What a step of a call does to the flights
-/

/-- The call neither leads nor has joined a flight, and has not returned. -/
def DnsPoint.apart : DnsPoint → Bool
  | .lookup _ => true
  | .system _ => true
  | .locking _ => true
  | .setting _ => true
  | .replaced _ => true
  | .done => true
  | _ => false

/-- What a caller finds in the cache once its flight is over. -/
def DnsRun.found (self : DnsRun) (host : String) : DnsResult :=
  match self.resolver.cache.lookup host with
  | some e => if self.now < e.expires then cachedLookup host e else .error (concurrentFailed host)
  | none => .error (concurrentFailed host)

/-- From one point to another, with the flights, the cache and the closed channels behind it. -/
inductive DnsMove (self : DnsRun) (call : Nat) : DnsPoint → DnsPoint → DnsChoice →
    List (String × Nat) → List (String × DnsCacheEntry) → List Nat → Prop where
  | aside {before after : DnsPoint} {choice : DnsChoice} (apart : before.apart = true)
      (settles : after.apart = true ∨ (∃ answer, after = .answered answer) ∨
        ∃ normalized, after = .replacing normalized) :
      DnsMove self call before after choice self.resolver.inFlight self.resolver.cache self.closed
  | joins {host : String} {channel : Nat}
      (flight : self.resolver.inFlight.lookup host = some channel) :
      DnsMove self call (.locking host) (.waiting host channel) .go self.resolver.inFlight
        self.resolver.cache self.closed
  | begins {host : String} (free : self.resolver.inFlight.lookup host = none) :
      DnsMove self call (.locking host) (.opening host) .go
        ((host, call) :: self.resolver.inFlight) self.resolver.cache self.closed
  | goesOn {before after : DnsPoint} {choice : DnsChoice} {host : String}
      (leads : before.leads = some host) (still : after.leads = some host) :
      DnsMove self call before after choice self.resolver.inFlight self.resolver.cache self.closed
  | stores {host : String} {result : DnsResult} {source : Nat} {names : List String} :
      DnsMove self call (.storing host result source) (.closing result source) (.order names)
        (self.resolver.inFlight.filter (·.1 ≠ host))
        (rememberLocked self.resolver.cache self.now names host (result.entry self.now source))
        self.closed
  | closes {result : DnsResult} {source : Nat} :
      DnsMove self call (.closing result source)
        (.answered { result := result, source := some source }) .go self.resolver.inFlight
        self.resolver.cache (call :: self.closed)
  | wakes {host : String} {channel : Nat} (closed : channel ∈ self.closed) :
      DnsMove self call (.waiting host channel) (.woken host) .go self.resolver.inFlight
        self.resolver.cache self.closed
  | reads {host : String} {answer : DnsAnswer} (found : answer.result = self.found host) :
      DnsMove self call (.woken host) (.answered answer) .go self.resolver.inFlight
        self.resolver.cache self.closed
  | replaces {normalized : List String} {source : Nat} :
      DnsMove self call (.replacing normalized) (.replaced source) .go self.resolver.inFlight []
        self.closed

namespace DnsRun

variable {parseIP : String → Bool} {self next : DnsRun} {call : Nat} {before : DnsPoint}

/-- The call has moved on, and this is what it left. -/
structure Left (run next : DnsRun) (call : Nat) (after : DnsPoint)
    (inFlight : List (String × Nat)) (cache : List (String × DnsCacheEntry))
    (closed : List Nat) : Prop where
  calls : next.calls = (run.moved call after).calls
  inFlight : next.resolver.inFlight = inFlight
  cache : next.resolver.cache = cache
  closed : next.closed = closed

theorem left_moved (self : DnsRun) (call : Nat) (after : DnsPoint) :
    Left self (self.moved call after) call after self.resolver.inFlight self.resolver.cache
      self.closed := ⟨rfl, rfl, rfl, rfl⟩

/-- Every step of a call is one of the moves. -/
theorem advance_moves {choice : DnsChoice}
    (advances : self.advance parseIP call before choice = some next) :
    ∃ after inFlight cache closed, DnsMove self call before after choice inFlight cache closed ∧
      Left self next call after inFlight cache closed := by
  cases before with
  | lookup host =>
    cases choice with
    | go =>
      simp only [advance] at advances
      split at advances
      · cases advances
        exact ⟨_, _, _, _, .aside rfl (.inr (.inl ⟨_, rfl⟩)), left_moved _ _ _⟩
      · split at advances
        · cases advances
          exact ⟨_, _, _, _, .aside rfl (.inl rfl), left_moved _ _ _⟩
        · cases advances
          exact ⟨_, _, _, _, .aside rfl (.inl rfl), left_moved _ _ _⟩
    | _ => cases advances
  | system source =>
    cases choice with
    | system result =>
      cases advances
      exact ⟨_, _, _, _, .aside rfl (.inr (.inl ⟨_, rfl⟩)), left_moved _ _ _⟩
    | _ => cases advances
  | locking host =>
    cases choice with
    | go =>
      have flown : ∀ flight, self.resolver.inFlight.lookup host = flight →
          ∃ after inFlight cache closed,
            DnsMove self call (.locking host) after .go inFlight cache closed ∧
              Left self (self.flown call host flight) call after inFlight cache closed := by
        intro flight same
        cases flight with
        | none => exact ⟨_, _, _, _, .begins same, rfl, rfl, rfl, rfl⟩
        | some channel => exact ⟨_, _, _, _, .joins same, left_moved _ _ _⟩
      cases entry : self.resolver.cache.lookup host with
      | none =>
        simp only [advance, entry] at advances
        cases advances
        exact flown _ rfl
      | some e =>
        simp only [advance, entry] at advances
        split at advances
        · cases advances
          exact ⟨_, _, _, _, .aside rfl (.inr (.inl ⟨_, rfl⟩)), left_moved _ _ _⟩
        · cases advances
          exact flown _ rfl
    | _ => cases advances
  | waiting host channel =>
    cases choice with
    | go =>
      simp only [advance] at advances
      split at advances
      · next closed =>
          cases advances
          exact ⟨_, _, _, _, .wakes closed, left_moved _ _ _⟩
      · cases advances
    | _ => cases advances
  | woken host =>
    cases choice with
    | go =>
      simp only [advance] at advances
      split at advances
      · next e entry =>
          split at advances
          · next fresh =>
              cases advances
              exact ⟨_, _, _, _, .reads (by rw [found, entry]; exact (if_pos fresh).symm),
                left_moved _ _ _⟩
          · next stale =>
              cases advances
              exact ⟨_, _, _, _, .reads (by rw [found, entry]; exact (if_neg stale).symm),
                left_moved _ _ _⟩
      · next entry =>
          cases advances
          exact ⟨_, _, _, _, .reads (by rw [found, entry]), left_moved _ _ _⟩
    | _ => cases advances
  | opening host =>
    cases choice with
    | go =>
      cases advances
      exact ⟨_, _, _, _, .goesOn rfl rfl, left_moved _ _ _⟩
    | _ => cases advances
  | querying host servers source =>
    cases choice with
    | answers a aaaa =>
      simp only [advance] at advances
      split at advances
      · cases advances
        exact ⟨_, _, _, _, .goesOn rfl rfl, left_moved _ _ _⟩
      · cases advances
    | _ => cases advances
  | storing host result source =>
    cases choice with
    | order names =>
      simp only [advance] at advances
      split at advances
      · cases advances
        exact ⟨_, _, _, _, .stores, rfl, rfl, rfl, rfl⟩
      · cases advances
    | _ => cases advances
  | closing result source =>
    cases choice with
    | go =>
      cases advances
      exact ⟨_, _, _, _, .closes, rfl, rfl, rfl, rfl⟩
    | _ => cases advances
  | answered answer => cases advances
  | setting servers =>
    cases choice with
    | go =>
      simp only [advance] at advances
      split at advances
      · cases advances
        exact ⟨_, _, _, _, .aside rfl (.inl rfl), left_moved _ _ _⟩
      · cases advances
        exact ⟨_, _, _, _, .aside rfl (.inr (.inr ⟨_, rfl⟩)), left_moved _ _ _⟩
    | _ => cases advances
  | replacing normalized =>
    cases choice with
    | go =>
      cases advances
      exact ⟨_, _, _, _, .replaces, rfl, rfl, rfl, rfl⟩
    | _ => cases advances
  | replaced source =>
    cases choice with
    | go =>
      cases advances
      exact ⟨_, _, _, _, .aside rfl (.inl rfl), rfl, rfl, rfl, rfl⟩
    | _ => cases advances
  | done => cases advances

theorem point_left {after : DnsPoint} {inFlight : List (String × Nat)}
    {cache : List (String × DnsCacheEntry)} {closed : List Nat}
    (left : Left self next call after inFlight cache closed)
    (here : self.point call = some before) (other : Nat) :
    next.point other = if call = other then some after else self.point other := by
  rw [point, left.calls, moved]
  split
  · next same =>
      subst same
      obtain ⟨old, there, -⟩ := Option.map_eq_some_iff.mp here
      rw [List.getElem?_modify_eq, there]
      rfl
  · next apart =>
      rw [List.getElem?_modify_ne _ _ apart]
      rfl

/-!
### Leaders and channels
-/

/-- The leader has yet to close its channel, or it is closed. -/
def Alive (run : DnsRun) (host : String) (leader : Nat) : Prop :=
  (run.point leader).bind DnsPoint.leads = some host ∨
    (∃ result source, run.point leader = some (.closing result source)) ∨ leader ∈ run.closed

/-- The flights are those of the leaders, a channel is closed by a call that returns, and nobody
waits for another. -/
structure Flying (run : DnsRun) : Prop where
  led : ∀ call host, (run.point call).bind DnsPoint.leads = some host ↔
    run.resolver.inFlight.lookup host = some call
  shut : ∀ call ∈ run.closed, ∃ result, (run.point call).bind DnsPoint.outcome = some result
  waits : ∀ caller host leader, run.point caller = some (.waiting host leader) →
    Alive run host leader

end DnsRun

section Moves

variable {self next : DnsRun} {call : Nat} {before after : DnsPoint} {choice : DnsChoice}
  {inFlight : List (String × Nat)} {cache : List (String × DnsCacheEntry)} {closed : List Nat}

/-- A call that has returned moves no more. -/
theorem DnsMove.running (move : DnsMove self call before after choice inFlight cache closed) :
    before.outcome = none := by
  cases move with
  | aside apart _ =>
    cases before with
    | answered _ => cases apart
    | _ => rfl
  | goesOn leads _ =>
    cases before with
    | answered _ => cases leads
    | _ => rfl
  | joins _ => rfl
  | begins _ => rfl
  | stores => rfl
  | closes => rfl
  | wakes _ => rfl
  | reads _ => rfl
  | replaces => rfl

/-- A leader leads on until it has stored its result. -/
theorem DnsMove.own {host : String}
    (move : DnsMove self call before after choice inFlight cache closed)
    (leads : before.leads = some host) :
    after.leads = some host ∨ ∃ result source, after = .closing result source := by
  cases move with
  | aside apart _ =>
    cases before with
    | opening _ => cases apart
    | querying _ _ _ => cases apart
    | storing _ _ _ => cases apart
    | _ => cases leads
  | goesOn leading still =>
    rw [leads] at leading
    cases leading
    exact Or.inl still
  | stores => exact Or.inr ⟨_, _, rfl⟩
  | joins _ => cases leads
  | begins _ => cases leads
  | closes => cases leads
  | wakes _ => cases leads
  | reads _ => cases leads
  | replaces => cases leads

theorem DnsMove.grows (move : DnsMove self call before after choice inFlight cache closed)
    {channel : Nat} (mem : channel ∈ self.closed) : channel ∈ closed := by
  cases move with
  | closes => exact List.mem_cons_of_mem _ mem
  | _ => exact mem

theorem DnsMove.closing {result : DnsResult} {source : Nat}
    (move : DnsMove self call (.closing result source) after choice inFlight cache closed) :
    call ∈ closed ∧ after = .answered { result := result, source := some source } := by
  cases move with
  | aside apart _ => cases apart
  | goesOn leads _ => cases leads
  | closes => exact ⟨List.mem_cons_self, rfl⟩

theorem DnsMove.shuts (move : DnsMove self call before after choice inFlight cache closed)
    {channel : Nat} (mem : channel ∈ closed) :
    channel ∈ self.closed ∨ channel = call ∧ ∃ result, after.outcome = some result := by
  cases move with
  | closes =>
    rcases List.mem_cons.mp mem with new | old
    · exact Or.inr ⟨new, _, rfl⟩
    · exact Or.inl old
  | _ => exact Or.inl mem

theorem DnsMove.waiting {host : String} {channel : Nat}
    (move : DnsMove self call before (.waiting host channel) choice inFlight cache closed) :
    self.resolver.inFlight.lookup host = some channel ∧ inFlight = self.resolver.inFlight := by
  cases move with
  | aside _ settles => rcases settles with apart | ⟨_, other⟩ | ⟨_, other⟩ <;> cases ‹_›
  | joins flight => exact ⟨flight, rfl⟩
  | goesOn _ still => cases still

namespace DnsRun

theorem Alive.left {host : String} {leader : Nat} (alive : Alive self host leader)
    (here : self.point call = some before)
    (move : DnsMove self call before after choice inFlight cache closed)
    (left : Left self next call after inFlight cache closed) : Alive next host leader := by
  have there := point_left left here leader
  rcases alive with leads | ⟨result, source, closing⟩ | closed
  · by_cases same : call = leader
    · subst same
      rw [here] at leads
      rw [if_pos rfl] at there
      rcases move.own leads with still | ⟨result, source, rfl⟩
      · exact Or.inl (by rw [there]; exact still)
      · exact Or.inr (Or.inl ⟨result, source, there⟩)
    · rw [if_neg same] at there
      exact Or.inl (there ▸ leads)
  · by_cases same : call = leader
    · subst same
      rw [here] at closing
      cases closing
      exact Or.inr (Or.inr (left.closed ▸ move.closing.1))
    · rw [if_neg same] at there
      exact Or.inr (Or.inl ⟨result, source, there.trans closing⟩)
  · exact Or.inr (Or.inr (left.closed ▸ move.grows closed))

/-- A flight that is removed is found no more, the others are. -/
theorem lookup_filter_ne {flights : List (String × Nat)} {host other : String} :
    (flights.filter (·.1 ≠ host)).lookup other =
      if other = host then none else flights.lookup other := by
  induction flights with
  | nil => exact (ite_self none).symm
  | cons flight flights inductionHypothesis =>
    by_cases gone : flight.1 = host
    · rw [List.filter_cons_of_neg (by simp [gone]), inductionHypothesis]
      split
      · rfl
      · next apart =>
          rw [List.lookup_cons, gone, beq_false_of_ne apart]
    · rw [List.filter_cons_of_pos (by simp [gone]), List.lookup_cons, List.lookup_cons,
        inductionHypothesis]
      by_cases equal : other = flight.1
      · subst equal
        rw [beq_self_eq_true, if_neg gone, if_neg gone]
      · rw [beq_false_of_ne equal]

/-- The flights behind a move are those of the leaders. -/
theorem Flying.led_left (flying : Flying self) (here : self.point call = some before)
    (move : DnsMove self call before after choice inFlight cache closed)
    (left : Left self next call after inFlight cache closed) (other : Nat) (host : String) :
    (next.point other).bind DnsPoint.leads = some host ↔
      next.resolver.inFlight.lookup host = some other := by
  rw [point_left left here, left.inFlight]
  -- Where neither the flights nor what the call leads change there is nothing to show.
  have kept (same : after.leads = before.leads) :
      (if call = other then some after else self.point other).bind DnsPoint.leads = some host ↔
        self.resolver.inFlight.lookup host = some other := by
    rw [← flying.led other host]
    split
    · next equal =>
        subst equal
        rw [here, Option.bind_some, Option.bind_some, same]
    · rfl
  cases move with
  | aside apart settles =>
    refine kept ?_
    have none : before.leads = none := by
      cases before with
      | opening _ => cases apart
      | querying _ _ _ => cases apart
      | storing _ _ _ => cases apart
      | _ => rfl
    rw [none]
    rcases settles with apart | ⟨_, rfl⟩ | ⟨_, rfl⟩
    · cases after with
      | opening _ => cases apart
      | querying _ _ _ => cases apart
      | storing _ _ _ => cases apart
      | _ => rfl
    · rfl
    · rfl
  | goesOn leads still => exact kept (still.trans leads.symm)
  | joins _ => exact kept rfl
  | closes => exact kept rfl
  | wakes _ => exact kept rfl
  | reads _ => exact kept rfl
  | replaces => exact kept rfl
  | @begins begun free =>
    rw [List.lookup_cons]
    by_cases equal : host = begun
    · subst equal
      rw [beq_self_eq_true]
      constructor
      · intro leads
        split at leads
        · next same => exact congrArg some same
        · rw [flying.led, free] at leads
          cases leads
      · intro same
        rw [if_pos (Option.some.inj same)]
        rfl
    · rw [beq_false_of_ne equal, ← flying.led other host]
      split
      · next same =>
          subst same
          rw [here]
          exact iff_of_false (fun same => equal (Option.some.inj same).symm)
            (Option.some_ne_none _).symm
      · rfl
  | @stores stored result source names =>
    have single := (flying.led call stored).mp (by rw [here]; rfl)
    rw [lookup_filter_ne]
    by_cases gone : host = stored
    · subst gone
      rw [if_pos rfl]
      split
      · exact iff_of_false (Option.some_ne_none _).symm (Option.some_ne_none _).symm
      · next apart =>
          rw [flying.led, single]
          exact iff_of_false (fun same => apart (Option.some.inj same))
            (Option.some_ne_none _).symm
    · rw [if_neg gone, ← flying.led other host]
      split
      · next same =>
          subst same
          rw [here]
          exact iff_of_false (Option.some_ne_none _).symm fun same =>
            gone (Option.some.inj same).symm
      · rfl

/-- The step lemma of a call. -/
theorem Flying.left (flying : Flying self) (here : self.point call = some before)
    (move : DnsMove self call before after choice inFlight cache closed)
    (left : Left self next call after inFlight cache closed) : Flying next := by
  refine ⟨flying.led_left here move left, fun other mem => ?_, fun caller host leader waits => ?_⟩
  · rw [point_left left here]
    rw [left.closed] at mem
    rcases move.shuts mem with old | ⟨rfl, result, outcome⟩
    · obtain ⟨result, outcome⟩ := flying.shut other old
      split
      · next same =>
          subst same
          rw [here, Option.bind_some, move.running] at outcome
          cases outcome
      · exact ⟨result, outcome⟩
    · rw [if_pos rfl]
      exact ⟨result, outcome⟩
  · rw [point_left left here] at waits
    split at waits
    · next same =>
        cases waits
        have alive : Alive self host leader := Or.inl ((flying.led _ _).mpr move.waiting.1)
        exact alive.left here move left
    · exact (flying.waits caller host leader waits).left here move left

end DnsRun

end Moves

/-!
### Callers that joined
-/

/-- The host that a caller which joined is to read. -/
def DnsPoint.reads : DnsPoint → Option String
  | .waiting host _ => some host
  | .woken host => some host
  | _ => none

/-- What a leader has stored. -/
def DnsPoint.stored : DnsPoint → Option DnsResult
  | .closing result _ => some result
  | .answered answer => some answer.result
  | _ => none

/-- A reader finds the outcome in the cache. -/
def Holds (cache : List (String × DnsCacheEntry)) (host : String) (result : DnsResult) : Prop :=
  match result with
  | .ok ips => (cache.lookup host).map (fun e => (e.negative, e.ips)) = some (false, ips)
  | .error _ => ∀ e ∈ cache.lookup host, e.negative = true

theorem holds_remembered (cache : List (String × DnsCacheEntry)) (now : Nat) (names : List String)
    (host : String) (result : DnsResult) (source : Nat) :
    Holds (rememberLocked cache now names host (result.entry now source)) host result := by
  have found : (rememberLocked cache now names host (result.entry now source)).lookup host =
      some (result.entry now source) := by
    rw [rememberLocked, List.lookup_cons, beq_self_eq_true]
  cases result with
  | ok ips =>
    rw [Holds, found]
    rfl
  | error err =>
    rw [Holds, found]
    intro e same
    cases same
    rfl

/-- Between the store and the read, no entry that a caller is to read goes or becomes another,
and none has expired when it is read. -/
theorem found_agrees {run : DnsRun} {host : String} {result : DnsResult}
    (holds : Holds run.resolver.cache host result)
    (fresh : ∀ e ∈ run.resolver.cache.lookup host, e.negative = true ∨ run.now < e.expires) :
    (run.found host).Agrees result := by
  rw [DnsRun.found]
  cases entry : run.resolver.cache.lookup host with
  | none =>
    cases result with
    | ok ips =>
      rw [Holds, entry] at holds
      cases holds
    | error err => rfl
  | some e =>
    cases result with
    | ok ips =>
      rw [Holds, entry] at holds
      obtain ⟨positive, rfl⟩ := Prod.mk.inj (Option.some.inj holds)
      have inTime := (fresh e entry).resolve_left (by rw [positive]; exact Bool.false_ne_true)
      simp only [if_pos inTime]
      rw [cachedLookup, positive]
      rfl
    | error err =>
      have negative := holds e entry
      dsimp only
      split
      · rw [cachedLookup, negative]
        rfl
      · rfl

/-- How a caller stands to the leader whose flight it joined. -/
inductive Followed (run : DnsRun) (caller leader : Nat) : Prop where
  | waiting {host : String} (waits : run.point caller = some (.waiting host leader))
      (leads : (run.point leader).bind DnsPoint.leads = some host)
  | stored {host : String} {result : DnsResult}
      (waits : run.point caller = some (.waiting host leader))
      (stored : (run.point leader).bind DnsPoint.stored = some result)
      (holds : Holds run.resolver.cache host result)
  | woken {host : String} {result : DnsResult} (woken : run.point caller = some (.woken host))
      (outcome : (run.point leader).bind DnsPoint.outcome = some result)
      (holds : Holds run.resolver.cache host result)
  | returned {answer : DnsAnswer} {result : DnsResult}
      (returned : run.point caller = some (.answered answer))
      (outcome : (run.point leader).bind DnsPoint.outcome = some result)
      (agrees : answer.result.Agrees result)

theorem stored_of_outcome {point : Option DnsPoint} {result : DnsResult}
    (outcome : point.bind DnsPoint.outcome = some result) :
    point.bind DnsPoint.stored = some result := by
  obtain ⟨there, rfl, outcome⟩ := Option.bind_eq_some_iff.mp outcome
  cases there with
  | answered _ => exact outcome
  | _ => cases outcome

namespace DnsFlights

/-- What the callers that joined have yet to read is in the cache. -/
def Keeps (self : DnsFlights) (cache : List (String × DnsCacheEntry)) : Prop :=
  ∀ pair ∈ self.joined, ∀ host ∈ (self.run.point pair.1).bind DnsPoint.reads,
    ∀ result ∈ (self.run.point pair.2).bind DnsPoint.stored, Holds cache host result

/-- Between the store and the read of a caller that joined, no other list empties the cache of
what was resolved, no later store evicts it or puts another outcome in its place, and it does
not expire. -/
def Careful (self : DnsFlights) : DnsEvent → Prop
  | .move call choice =>
      match self.run.point call, choice with
      | some (.storing host result source), .order names =>
          self.Keeps (rememberLocked self.run.resolver.cache self.run.now names host
            (result.entry self.run.now source))
      | some (.replacing _), .go => self.Keeps []
      | some (.woken host), .go => ∀ e ∈ self.run.resolver.cache.lookup host,
          e.negative = true ∨ self.run.now < e.expires
      | _, _ => True
  | _ => True

structure Sound (state : DnsFlights) : Prop where
  flying : state.run.Flying
  joined : ∀ caller leader, (state.run.point caller).bind DnsPoint.awaits = some leader →
    (caller, leader) ∈ state.joined
  followed : ∀ pair ∈ state.joined, Followed state.run pair.1 pair.2

variable {parseIP : String → Bool} {state : DnsFlights}

theorem Sound.agreed (sound : state.Sound) : state.Agreed where
  apart first second host one two := by
    rw [sound.flying.led] at one two
    exact Option.some.inj (one.symm.trans two)
  unblocked caller leader awaits returned := by
    obtain ⟨point, waits, awaits⟩ := Option.bind_eq_some_iff.mp awaits
    obtain ⟨result, outcome⟩ := Option.isSome_iff_exists.mp returned
    obtain ⟨led, there, outcome⟩ := Option.bind_eq_some_iff.mp outcome
    cases led with
    | answered answer =>
      cases point with
      | waiting host channel =>
        cases awaits
        rcases sound.flying.waits caller host leader waits with leads | ⟨_, _, closing⟩ | closed
        · rw [there] at leads
          cases leads
        · rw [there] at closing
          cases closing
        · exact closed
      | _ => cases awaits
    | _ => cases outcome
  agree pair mem result outcome := by
    cases sound.followed pair mem with
    | waiting waits _ =>
      rw [waits] at outcome
      cases outcome
    | stored waits _ _ =>
      rw [waits] at outcome
      cases outcome
    | woken woken _ _ =>
      rw [woken] at outcome
      cases outcome
    | @returned answer led returned stored agrees =>
      rw [returned] at outcome
      cases outcome
      exact ⟨led, stored, agrees⟩

end DnsFlights

section Moves

variable {run next : DnsRun} {call caller leader : Nat} {before after : DnsPoint}
  {choice : DnsChoice} {inFlight : List (String × Nat)} {cache : List (String × DnsCacheEntry)}
  {closed : List Nat}

/-- What is stored stays stored. -/
theorem DnsMove.stored {result : DnsResult}
    (move : DnsMove run call before after choice inFlight cache closed)
    (stored : before.stored = some result) : after.stored = some result := by
  cases before with
  | closing held source =>
    rw [move.closing.2]
    exact stored
  | answered answer => cases move.running
  | _ => cases stored

theorem DnsMove.storing {result : DnsResult} {source : Nat} {host : String}
    (move : DnsMove run call before (.closing result source) choice inFlight cache closed)
    (leads : before.leads = some host) : Holds cache host result := by
  cases move with
  | aside _ settles => rcases settles with apart | ⟨_, other⟩ | ⟨_, other⟩ <;> cases ‹_›
  | goesOn _ still => cases still
  | stores =>
    cases leads
    exact holds_remembered _ _ _ _ _ _

theorem DnsMove.waits {host : String}
    (move : DnsMove run call (.waiting host leader) after choice inFlight cache closed) :
    after = .woken host ∧ leader ∈ run.closed ∧ cache = run.resolver.cache := by
  cases move with
  | aside apart _ => cases apart
  | goesOn leads _ => cases leads
  | wakes closed => exact ⟨rfl, closed, rfl⟩

theorem DnsMove.woken {host : String}
    (move : DnsMove run call (.woken host) after choice inFlight cache closed) :
    ∃ answer, after = .answered answer ∧ answer.result = run.found host ∧ choice = .go := by
  cases move with
  | aside apart _ => cases apart
  | goesOn leads _ => cases leads
  | reads found => exact ⟨_, rfl, found, rfl⟩

namespace DnsRun

/-- A leader that is not the one that moves, or moves on, still has stored what it had. -/
theorem stored_left {result : DnsResult} (here : run.point call = some before)
    (move : DnsMove run call before after choice inFlight cache closed)
    (left : Left run next call after inFlight cache closed)
    (stored : (run.point leader).bind DnsPoint.stored = some result) :
    (next.point leader).bind DnsPoint.stored = some result := by
  rw [point_left left here]
  split
  · next same =>
      subst same
      rw [here] at stored
      exact move.stored stored
  · exact stored

theorem outcome_left {result : DnsResult} (here : run.point call = some before)
    (move : DnsMove run call before after choice inFlight cache closed)
    (left : Left run next call after inFlight cache closed)
    (outcome : (run.point leader).bind DnsPoint.outcome = some result) :
    (next.point leader).bind DnsPoint.outcome = some result := by
  rw [point_left left here]
  split
  · next same =>
      subst same
      rw [here, Option.bind_some, move.running] at outcome
      cases outcome
  · exact outcome

end DnsRun

open DnsRun in
/-- The step lemma of a caller that joined. -/
theorem Followed.left (flying : run.Flying) (followed : Followed run caller leader)
    (here : run.point call = some before)
    (move : DnsMove run call before after choice inFlight cache closed)
    (left : Left run next call after inFlight cache closed)
    (keeps : ∀ host ∈ (run.point caller).bind DnsPoint.reads,
      ∀ result ∈ (run.point leader).bind DnsPoint.stored, Holds cache host result)
    (fresh : ∀ host, before = .woken host → ∀ e ∈ run.resolver.cache.lookup host,
      e.negative = true ∨ run.now < e.expires) : Followed next caller leader := by
  have there := point_left left here caller
  have led := point_left left here leader
  cases followed with
  | @waiting host waits leads =>
    by_cases own : call = caller
    · -- Its channel is open while the leader leads.
      subst own
      rw [here] at waits
      cases waits
      obtain ⟨-, mem, -⟩ := move.waits
      obtain ⟨result, outcome⟩ := flying.shut leader mem
      obtain ⟨point, stands, outcome⟩ := Option.bind_eq_some_iff.mp outcome
      rw [stands] at leads
      cases point with
      | answered _ => cases leads
      | _ => cases outcome
    · rw [if_neg own] at there
      have waits := there.trans waits
      by_cases equal : call = leader
      · subst equal
        rw [here] at leads
        rw [if_pos rfl] at led
        rcases move.own leads with still | ⟨result, source, rfl⟩
        · exact .waiting waits (by rw [led]; exact still)
        · exact .stored waits (by rw [led]; rfl) (left.cache ▸ move.storing leads)
      · rw [if_neg equal] at led
        exact .waiting waits (led ▸ leads)
  | @stored host result waits stored holds =>
    by_cases own : call = caller
    · subst own
      rw [here] at waits
      cases waits
      obtain ⟨rfl, mem, same⟩ := move.waits
      rw [if_pos rfl] at there
      obtain ⟨answer, outcome⟩ := flying.shut leader mem
      have equal := (stored_of_outcome outcome).symm.trans stored
      cases equal
      exact .woken there (outcome_left here move left outcome) (by rw [left.cache, same]; exact holds)
    · rw [if_neg own] at there
      have kept := keeps host (by rw [waits]; rfl) result stored
      exact .stored (there.trans waits) (stored_left here move left stored) (left.cache ▸ kept)
  | @woken host result woken outcome holds =>
    by_cases own : call = caller
    · subst own
      rw [here] at woken
      cases woken
      obtain ⟨answer, rfl, found, -⟩ := move.woken
      rw [if_pos rfl] at there
      refine .returned there (outcome_left here move left outcome) ?_
      rw [found]
      exact found_agrees holds (fresh host rfl)
    · rw [if_neg own] at there
      have kept := keeps host (by rw [woken]; rfl) result (stored_of_outcome outcome)
      exact .woken (there.trans woken) (outcome_left here move left outcome) (left.cache ▸ kept)
  | returned returned outcome agrees =>
    by_cases own : call = caller
    · subst own
      rw [here] at returned
      cases returned
      cases move.running
    · rw [if_neg own] at there
      exact .returned (there.trans returned) (outcome_left here move left outcome) agrees

/-- A caller that has yet to read finds what its leader stored. -/
theorem Followed.holds (followed : Followed run caller leader) :
    ∀ host ∈ (run.point caller).bind DnsPoint.reads,
      ∀ result ∈ (run.point leader).bind DnsPoint.stored,
        Holds run.resolver.cache host result := by
  intro host reads result stored
  cases followed with
  | waiting _ leads =>
    obtain ⟨point, stands, stored⟩ := Option.bind_eq_some_iff.mp stored
    rw [stands] at leads
    cases point with
    | closing _ _ => cases leads
    | answered _ => cases leads
    | _ => cases stored
  | stored waits had holds =>
    rw [waits] at reads
    cases reads
    cases had.symm.trans stored
    exact holds
  | woken woken outcome holds =>
    rw [woken] at reads
    cases reads
    cases (stored_of_outcome outcome).symm.trans stored
    exact holds
  | returned returned _ _ =>
    rw [returned] at reads
    cases reads

/-- Where other calls begin, or time passes, a caller stands as it did. -/
theorem Followed.kept (followed : Followed run caller leader)
    (more : ∀ call point, run.point call = some point → next.point call = some point)
    (cache : next.resolver.cache = run.resolver.cache) : Followed next caller leader := by
  have still {Seen : Type} {look : DnsPoint → Option Seen} {seen : Seen}
      (before : (run.point leader).bind look = some seen) :
      (next.point leader).bind look = some seen := by
    obtain ⟨point, stands, sees⟩ := Option.bind_eq_some_iff.mp before
    rw [more leader point stands]
    exact sees
  cases followed with
  | waiting waits leads => exact .waiting (more _ _ waits) (still leads)
  | stored waits stored holds => exact .stored (more _ _ waits) (still stored) (cache ▸ holds)
  | woken woken outcome holds => exact .woken (more _ _ woken) (still outcome) (cache ▸ holds)
  | returned returned outcome agrees => exact .returned (more _ _ returned) (still outcome) agrees

theorem DnsRun.Flying.kept (flying : run.Flying)
    (more : ∀ call point, run.point call = some point → next.point call = some point)
    (fewer : ∀ call point, next.point call = some point →
      run.point call = some point ∨ point.apart = true)
    (inFlight : next.resolver.inFlight = run.resolver.inFlight)
    (closed : next.closed = run.closed) : next.Flying := by
  constructor
  · intro call host
    rw [inFlight, ← flying.led]
    constructor
    · intro leads
      obtain ⟨point, stands, leads⟩ := Option.bind_eq_some_iff.mp leads
      rcases fewer call point stands with before | apart
      · rw [before]
        exact leads
      · cases point with
        | opening _ => cases apart
        | querying _ _ _ => cases apart
        | storing _ _ _ => cases apart
        | _ => cases leads
    · intro leads
      obtain ⟨point, stands, leads⟩ := Option.bind_eq_some_iff.mp leads
      rw [more call point stands]
      exact leads
  · intro call mem
    obtain ⟨result, outcome⟩ := flying.shut call (closed ▸ mem)
    obtain ⟨point, stands, outcome⟩ := Option.bind_eq_some_iff.mp outcome
    exact ⟨result, by rw [more call point stands]; exact outcome⟩
  · intro caller host leader waits
    rcases fewer caller _ waits with before | apart
    · rcases flying.waits caller host leader before with leads | ⟨result, source, closing⟩ | shut
      · obtain ⟨point, stands, leads⟩ := Option.bind_eq_some_iff.mp leads
        exact Or.inl (by rw [more leader point stands]; exact leads)
      · exact Or.inr (Or.inl ⟨result, source, more leader _ closing⟩)
      · exact Or.inr (Or.inr (closed ▸ shut))
    · cases apart

end Moves

namespace DnsRun

variable {parseIP : String → Bool}

/-- A call that begins leaves the others where they are. -/
theorem point_began (run : DnsRun) (begun : DnsCall) (call : Nat) (old : DnsPoint)
    (stands : run.point call = some old) :
    point { run with calls := run.calls ++ [begun] } call = some old := by
  obtain ⟨there, here, rfl⟩ := Option.map_eq_some_iff.mp stands
  rw [point, List.getElem?_append_left (List.getElem?_eq_some_iff.mp here).1, here]
  rfl

theorem began_point (run : DnsRun) (begun : DnsCall) (apart : begun.point.apart = true) (call : Nat)
    (new : DnsPoint) (stands : point { run with calls := run.calls ++ [begun] } call = some new) :
    run.point call = some new ∨ new.apart = true := by
  obtain ⟨there, here, rfl⟩ := Option.map_eq_some_iff.mp stands
  by_cases old : call < run.calls.length
  · rw [List.getElem?_append_left old] at here
    exact Or.inl (by rw [point, here]; rfl)
  · rw [List.getElem?_append_right (Nat.le_of_not_lt old)] at here
    rw [List.mem_singleton.mp (List.mem_of_getElem? here)]
    exact Or.inr apart

theorem Flying.step {run : DnsRun} (flying : run.Flying) (event : DnsEvent) :
    (run.step parseIP event).1.Flying := by
  cases event with
  | lookupHost host => exact flying.kept (point_began _ _) (began_point _ _ rfl) rfl rfl
  | setServers servers => exact flying.kept (point_began _ _) (began_point _ _ rfl) rfl rfl
  | tick elapsed => exact flying.kept (fun _ _ => id) (fun _ _ => Or.inl) rfl rfl
  | move call choice =>
    rw [DnsRun.step]
    cases found : run.calls[call]? with
    | none => exact flying
    | some here =>
      cases advances : run.advance parseIP call here.point choice with
      | none => simpa only [advances, Option.getD_none] using flying
      | some next =>
        obtain ⟨_, _, _, _, move, left⟩ := advance_moves advances
        have stands : run.point call = some here.point := by
          rw [point, found]
          rfl
        simpa only [advances, Option.getD_some] using flying.left stands move left

/-- In every run a host has one leader, and a caller is only blocked on a leader that has yet to
close its channel. -/
theorem flying_throughout (parseIP : String → Bool) (servers : List String)
    (events : List DnsEvent) :
    Transducer.Throughout (DnsRun.step parseIP) (start parseIP servers) events Flying :=
  fun consumed _ => @Transducer.run_invariant _ _ _ (DnsRun.step parseIP) Flying
    (fun _ event flying => Flying.step flying event) _ consumed
    ⟨fun _ _ => iff_of_false nofun nofun, nofun, nofun⟩

end DnsRun

namespace DnsFlights

variable {parseIP : String → Bool} {state : DnsFlights} {next : DnsRun}

theorem sound_start (parseIP : String → Bool) (servers : List String) :
    (start parseIP servers).Sound where
  flying := ⟨fun _ _ => iff_of_false nofun nofun, nofun, nofun⟩
  joined := nofun
  followed := nofun

theorem Sound.kept (sound : state.Sound)
    (more : ∀ call point, state.run.point call = some point → next.point call = some point)
    (fewer : ∀ call point, next.point call = some point →
      state.run.point call = some point ∨ point.apart = true)
    (inFlight : next.resolver.inFlight = state.run.resolver.inFlight)
    (cache : next.resolver.cache = state.run.resolver.cache)
    (closed : next.closed = state.run.closed) : Sound { run := next, joined := state.joined } where
  flying := sound.flying.kept more fewer inFlight closed
  joined caller leader awaits := by
    obtain ⟨point, stands, awaits⟩ := Option.bind_eq_some_iff.mp awaits
    rcases fewer caller point stands with before | apart
    · exact sound.joined caller leader (by rw [before]; exact awaits)
    · cases point with
      | waiting _ _ => cases apart
      | _ => cases awaits
  followed pair mem := (sound.followed pair mem).kept more cache

/-- A call begins. -/
theorem Sound.began (sound : state.Sound) {point : DnsPoint} (apart : point.apart = true) :
    Sound { run := { state.run with calls := state.run.calls ++ [⟨point, state.run.settled⟩] }
            joined := state.joined } :=
  sound.kept (DnsRun.point_began _ _) (DnsRun.began_point _ _ apart) rfl rfl rfl

theorem Sound.moves (sound : state.Sound) {call : Nat} {before : DnsPoint} {choice : DnsChoice}
    (here : state.run.point call = some before)
    (advances : state.run.advance parseIP call before choice = some next)
    (careful : state.Careful (.move call choice)) :
    Sound { run := next, joined := newly next (.move call choice) ++ state.joined } := by
  obtain ⟨after, inFlight, cache, closed, move, left⟩ := DnsRun.advance_moves advances
  have flying := sound.flying.left here move left
  refine ⟨flying, fun caller leader awaits => ?_, fun pair mem => ?_⟩
  · have there := DnsRun.point_left left here caller
    by_cases same : call = caller
    · subst same
      refine List.mem_append_left _ ?_
      rw [newly, awaits]
      exact List.mem_singleton_self _
    · rw [if_neg same] at there
      exact List.mem_append_right _ (sound.joined caller leader (there ▸ awaits))
  · rcases List.mem_append.mp mem with new | old
    · obtain ⟨leader, awaits, rfl⟩ := Option.map_eq_some_iff.mp (Option.mem_toList.mp new)
      obtain ⟨point, stands, awaits⟩ := Option.bind_eq_some_iff.mp awaits
      have there := (DnsRun.point_left left here call).symm.trans stands
      rw [if_pos rfl] at there
      cases there
      cases after with
      | waiting host channel =>
        cases awaits
        obtain ⟨flight, same⟩ := move.waiting
        refine .waiting stands ((flying.led _ _).mpr ?_)
        rw [left.inFlight, same]
        exact flight
      | _ => cases awaits
    · have followed := sound.followed pair old
      refine followed.left sound.flying here move left ?_ ?_
      · cases move with
        | stores =>
          simp only [Careful, here] at careful
          exact careful pair old
        | replaces =>
          simp only [Careful, here] at careful
          exact careful pair old
        | _ => exact followed.holds
      · rintro host rfl
        obtain ⟨_, _, _, rfl⟩ := move.woken
        simp only [Careful, here] at careful
        exact careful

/-- The step lemma. -/
theorem Sound.step (sound : state.Sound) (event : DnsEvent) (careful : state.Careful event) :
    (state.step parseIP event).1.Sound := by
  cases event with
  | lookupHost host => exact sound.began rfl
  | setServers servers => exact sound.began rfl
  | tick elapsed =>
    exact sound.kept (fun _ _ => id) (fun _ _ => Or.inl) rfl rfl rfl
  | move call choice =>
    have still : Sound { run := state.run
                         joined := newly state.run (.move call choice) ++ state.joined } := by
      have known : ∀ pair ∈ newly state.run (.move call choice), pair ∈ state.joined := by
        intro pair mem
        obtain ⟨leader, awaits, rfl⟩ := Option.map_eq_some_iff.mp (Option.mem_toList.mp mem)
        exact sound.joined call leader awaits
      refine ⟨sound.flying, fun caller leader awaits => ?_, fun pair mem => ?_⟩
      · exact List.mem_append_right _ (sound.joined caller leader awaits)
      · exact sound.followed pair ((List.mem_append.mp mem).elim (known pair) id)
    cases found : state.run.calls[call]? with
    | none =>
      rw [DnsFlights.step, DnsRun.step]
      simpa only [found] using still
    | some here =>
      have stands : state.run.point call = some here.point := by
        rw [DnsRun.point, found]
        rfl
      cases advances : state.run.advance parseIP call here.point choice with
      | none =>
        rw [DnsFlights.step, DnsRun.step]
        simpa only [found, advances, Option.getD_none] using still
      | some next =>
        have moves := sound.moves stands advances careful
        rw [DnsFlights.step, DnsRun.step]
        simpa only [found, advances, Option.getD_some] using moves

/-- However lookups, changes of the servers and evictions interleave, a host has one leader and
nobody is blocked on a leader that has returned; and if what callers that joined have yet to
read stays in the cache and is read in time, they return what their leaders obtained. -/
theorem agreed_of_careful (parseIP : String → Bool) (servers : List String)
    (events : List DnsEvent)
    (careful : Transducer.AtEveryStep (step parseIP) (start parseIP servers) events Careful) :
    Transducer.Throughout (step parseIP) (start parseIP servers) events Agreed := by
  intro consumed within
  have sound := @Transducer.invariant_of_atEveryStep _ _ _ (step parseIP) Sound Careful
    (fun _ event sound careful => Sound.step sound event careful) _ _
    (sound_start parseIP servers) (careful.of_prefix within)
  exact sound.agreed

instance (cache : List (String × DnsCacheEntry)) (host : String) :
    ∀ result, Decidable (Holds cache host result)
  | .ok ips => inferInstanceAs
      (Decidable ((cache.lookup host).map (fun e => (e.negative, e.ips)) = some (false, ips)))
  | .error _ => inferInstanceAs (Decidable (∀ e ∈ cache.lookup host, e.negative = true))

instance : DecidableRel Keeps := fun self cache =>
  inferInstanceAs (Decidable (∀ pair ∈ self.joined,
    ∀ host ∈ (self.run.point pair.1).bind DnsPoint.reads,
      ∀ result ∈ (self.run.point pair.2).bind DnsPoint.stored, Holds cache host result))

instance : DecidableRel Careful := fun state event => by
  unfold Careful
  split
  · split <;> infer_instance
  · infer_instance

/-- Two lookups of a name, of which the second joins the first's flight. -/
def twoLookups : List DnsEvent :=
  [.lookupHost "host", .lookupHost "host", .move 0 .go, .move 0 .go, .move 1 .go, .move 1 .go,
   .move 0 .go, .move 0 (.answers [.ok ["10.0.0.1"]] [.ok []]), .move 0 (.order []),
   .move 0 .go]

theorem agreed_two :
    Transducer.Throughout (step fun _ => false) (start (fun _ => false) ["server"])
      (twoLookups ++ [.move 1 .go, .move 1 .go]) Agreed :=
  agreed_of_careful _ _ _ (by decide +kernel)

/-- Between the leader's store and the other's read the host changes the servers, which empties
the cache: the leader has the address, the other an error. -/
theorem outcome_lost :
    ¬ ∀ (parseIP : String → Bool) (servers : List String) (events : List DnsEvent),
      Transducer.Throughout (step parseIP) (start parseIP servers) events Agreed := by
  intro always
  have agreed := always (fun _ => false) ["server"]
    (twoLookups ++ [.setServers ["other"], .move 2 .go, .move 2 .go, .move 1 .go, .move 1 .go]) _
    (List.prefix_refl _)
  obtain ⟨led, outcome, agrees⟩ := agreed.agree (1, 0) (by decide +kernel)
    (.error (concurrentFailed "host")) (by decide +kernel)
  obtain rfl : Except.ok ["10.0.0.1"] = led :=
    Option.some.inj ((by decide +kernel : some (Except.ok ["10.0.0.1"]) = _).trans outcome)
  cases agrees

end DnsFlights

end Csqtt
