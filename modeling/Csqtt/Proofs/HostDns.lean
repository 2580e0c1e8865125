/-
Module: Csqtt.Proofs.HostDns
Purpose: When the stored list of servers and every resolver agree on the last list that the host
  sent, over all interleavings of events, start-up and subscriptions.
Trusted boundary: an address with a port is not a literal address
Main exports: normalizeDNSServers_again, HostDns.Careful, HostDns.agrees_of_careful,
  HostDns.network_missed
-/
import Csqtt.Core.Transducer
import Csqtt.Helper.HostDns

namespace Csqtt

/-!
### Normalizing twice
-/

section Normalizing

variable {parseIP : String → Bool}

/-- What one entry of a list becomes. -/
def normalized (parseIP : String → Bool) (server : String) : Option String :=
  let server := String.ofList (trim server.toList)
  if server.isEmpty then none
  else if parseIP server then some (joinHostPort server "53")
  else some server

theorem trim_joinHostPort {host : String} (trimmed : trim host.toList = host.toList) :
    trim (joinHostPort host "53").toList = (joinHostPort host "53").toList := by
  have ends : ∀ front : Text, ∀ character ∈ (front ++ [':', '5', '3']).getLast?,
      isWhitespace character = false := by
    intro front character last
    rw [List.getLast?_append] at last
    obtain rfl : '3' = character := Option.some.inj last
    rfl
  rw [joinHostPort]
  split
  · have shape : ("[" ++ host ++ "]:" ++ "53").toList =
        ('[' :: host.toList ++ [']']) ++ [':', '5', '3'] := by simp
    rw [shape]
    apply trim_eq_self
    · intro character first
      obtain rfl : '[' = character := Option.some.inj first
      rfl
    · exact ends _
  · have shape : (host ++ ":" ++ "53").toList = host.toList ++ [':', '5', '3'] := by simp
    rw [shape]
    apply trim_eq_self
    · intro character first
      cases begins : host.toList with
      | nil =>
        rw [begins] at first
        obtain rfl : ':' = character := Option.some.inj first
        rfl
      | cons head rest =>
        rw [begins] at first
        obtain rfl : head = character := Option.some.inj first
        apply head?_trim host.toList
        rw [trimmed, begins]
        rfl
    · exact ends _

theorem joinHostPort_ne_empty (host : String) : (joinHostPort host "53").isEmpty = false := by
  rw [joinHostPort]
  split
  · simp [String.isEmpty]
  · simp [String.isEmpty]

theorem normalized_self {server : String} (trimmed : trim server.toList = server.toList)
    (filled : server.isEmpty = false) (plain : parseIP server = false) :
    normalized parseIP server = some server := by
  simp [normalized, trimmed, String.ofList_toList, filled, plain]

/-- What an entry has become stays as it is. -/
theorem normalized_again
    (joined : ∀ server, parseIP server = true → parseIP (joinHostPort server "53") = false)
    {server result : String} (becomes : normalized parseIP server = some result) :
    normalized parseIP result = some result := by
  have trimmed : trim (String.ofList (trim server.toList)).toList =
      (String.ofList (trim server.toList)).toList := by
    rw [String.toList_ofList, trim_trim]
  simp only [normalized] at becomes
  split at becomes
  · exact absurd becomes.symm (Option.some_ne_none _)
  · next filled =>
      split at becomes
      · next literal =>
          rw [← Option.some.inj becomes]
          exact normalized_self (trim_joinHostPort trimmed) (joinHostPort_ne_empty _)
            (joined _ literal)
      · next plain =>
          rw [← Option.some.inj becomes]
          exact normalized_self trimmed (eq_false_of_ne_true filled)
            (eq_false_of_ne_true plain)

theorem normalizeDNSServers_eq (servers : List String) :
    normalizeDNSServers parseIP servers = servers.filterMap (normalized parseIP) := rfl

theorem normalizeDNSServers_again
    (joined : ∀ server, parseIP server = true → parseIP (joinHostPort server "53") = false)
    (servers : List String) :
    normalizeDNSServers parseIP (normalizeDNSServers parseIP servers) =
      normalizeDNSServers parseIP servers := by
  have fixed : ∀ server ∈ normalizeDNSServers parseIP servers,
      normalized parseIP server = some server := by
    intro server mem
    rw [normalizeDNSServers_eq] at mem
    obtain ⟨before, -, becomes⟩ := List.mem_filterMap.mp mem
    exact normalized_again joined becomes
  rw [normalizeDNSServers_eq (normalizeDNSServers parseIP servers)]
  exact (List.filterMap_congr fixed).trans List.filterMap_some

/-- A list that came from the host is what a resolver then has. -/
theorem setServers_normalized
    (joined : ∀ server, parseIP server = true → parseIP (joinHostPort server "53") = false)
    {csv : Text} (filled : normalizeDNSCsv parseIP csv ≠ []) (old : List String) :
    setServers parseIP (normalizeDNSCsv parseIP csv) old = normalizeDNSCsv parseIP csv := by
  have again : normalizeDNSServers parseIP (normalizeDNSCsv parseIP csv) =
      normalizeDNSCsv parseIP csv := normalizeDNSServers_again joined _
  rw [setServers, again]
  split
  · next empty => exact absurd empty filled
  · rfl

end Normalizing

/-!
### The last list stored
-/

/-- The list of the last call that has stored its own. -/
def latest : List RememberCall → List String → List String
  | [], list => list
  | call :: later, list => latest later (if call.watchers.isNone then list else call.normalized)

theorem latest_append (calls later : List RememberCall) (list : List String) :
    latest (calls ++ later) list = latest later (latest calls list) := by
  induction calls generalizing list with
  | nil => rfl
  | cons call calls inductionHypothesis => exact inductionHypothesis _

theorem latest_of_pending {calls : List RememberCall}
    (pending : ∀ call ∈ calls, call.watchers = none) (list : List String) :
    latest calls list = list := by
  induction calls with
  | nil => rfl
  | cons call calls inductionHypothesis =>
    rw [latest, pending call List.mem_cons_self]
    exact inductionHypothesis fun other mem => pending other (List.mem_cons_of_mem _ mem)

/-- With all lists stored the last to come is the last stored. -/
theorem latest_of_stored {calls : List RememberCall}
    (stored : ∀ call ∈ calls, call.watchers = some []) (list : List String) :
    latest calls list = (calls.getLast?.map (·.normalized)).getD list := by
  induction calls using List.reverseRecOn with
  | nil => rfl
  | append_singleton calls call inductionHypothesis =>
    rw [latest_append, latest, stored call (List.mem_append_right _ List.mem_cons_self),
      List.getLast?_concat]
    rfl

/-- The list is either the given one or that of a call. -/
theorem latest_cases (calls : List RememberCall) (list : List String) :
    latest calls list = list ∨
      ∃ call ∈ calls, call.watchers ≠ none ∧ latest calls list = call.normalized := by
  induction calls generalizing list with
  | nil => exact Or.inl rfl
  | cons call calls inductionHypothesis =>
    rw [latest]
    rcases inductionHypothesis (if call.watchers.isNone then list else call.normalized) with
      same | ⟨later, mem, stored, same⟩
    · rw [same]
      cases stored : call.watchers with
      | none => exact Or.inl rfl
      | some _ =>
        exact Or.inr ⟨call, List.mem_cons_self, by rw [stored]; exact Option.some_ne_none _, rfl⟩
    · exact Or.inr ⟨later, List.mem_cons_of_mem _ mem, stored, same⟩

theorem latest_split {calls : List RememberCall} {index : Nat} {call : RememberCall}
    (here : calls[index]? = some call) (list : List String) :
    latest calls list = latest (calls.drop (index + 1))
      (if call.watchers.isNone then latest (calls.take index) list else call.normalized) := by
  obtain ⟨bound, rfl⟩ := List.getElem?_eq_some_iff.mp here
  calc latest calls list
      = latest (calls.take index ++ calls[index] :: calls.drop (index + 1)) list := by
        rw [List.getElem_cons_drop, List.take_append_drop]
    _ = _ := latest_append _ _ _

/-- A call that is set anew counts from its place on. -/
theorem latest_set {calls : List RememberCall} {index : Nat} {call : RememberCall}
    (here : calls[index]? = some call) (moved : RememberCall)
    (stored : moved.watchers.isNone = false) (list : List String) :
    latest (calls.set index moved) list = latest (calls.drop (index + 1)) moved.normalized := by
  have there : (calls.set index moved)[index]? = some moved :=
    List.getElem?_set_self (List.getElem?_eq_some_iff.mp here).1
  rw [latest_split there, List.drop_set_of_lt (Nat.lt_succ_self index), stored]
  rfl

namespace HostDns

variable {parseIP : String → Bool} {state : HostDns}

/-- What the call does next the later one has yet to do. -/
def Precedes (call later : RememberCall) : Prop :=
  match call.watchers, later.watchers with
  | none, some _ => False
  | some (watcher :: _), some rest => watcher ∈ rest
  | _, _ => True

/-- No list overtakes an earlier one, neither where it is stored nor on its way to a resolver; and
a resolver subscribes with the list that is stored, or while one is still to be stored. -/
def Careful (self : HostDns) : HostDnsInput → Prop
  | .remember call =>
      ∀ here ∈ self.calls[call]?, ∀ later ∈ self.calls.drop (call + 1), Precedes here later
  | .subscribe resolver =>
      self.resolvers[resolver]? = some self.hostDNSList ∨
        ∃ call ∈ self.calls, call.watchers = none
  | _ => True

/-- The call has yet to give the resolver the list. -/
def Brings (list : List String) (watcher : Nat) (call : RememberCall) : Prop :=
  match call.watchers with
  | none => True
  | some rest => call.normalized = list ∧ watcher ∈ rest

structure Sound (parseIP : String → Bool) (state : HostDns) : Prop where
  again : ∀ call ∈ state.calls, ∀ old, setServers parseIP call.normalized old = call.normalized
  stored : state.hostDNSList = latest state.calls []
  known : ∀ watcher ∈ state.hostDNSWatchers, watcher < state.resolvers.length
  follows : ∀ watcher ∈ state.hostDNSWatchers, ∀ servers,
    state.resolvers[watcher]? = some servers →
      servers = state.hostDNSList ∨ ∃ call ∈ state.calls, Brings state.hostDNSList watcher call

theorem sound_initial : Sound parseIP initial where
  again _ mem := absurd mem List.not_mem_nil
  stored := rfl
  known _ mem := absurd mem List.not_mem_nil
  follows _ mem := absurd mem List.not_mem_nil

/-- When all is quiet nothing is on its way. -/
theorem Sound.agrees (sound : Sound parseIP state) : state.Agrees := by
  rintro ⟨told, created⟩
  have same : state.hostDNSList = state.received :=
    sound.stored.trans (latest_of_stored told [])
  refine ⟨same, fun servers mem => ?_⟩
  obtain ⟨watcher, there⟩ := List.getElem?_of_mem mem
  have bound := (List.getElem?_eq_some_iff.mp there).1
  rcases sound.follows watcher (created watcher bound) servers there with
    equal | ⟨call, mem, brings⟩
  · exact equal.trans same
  · rw [Brings, told call mem] at brings
    cases brings.2

theorem Sound.remembers (sound : Sound parseIP state)
    (joined : ∀ server, parseIP server = true → parseIP (joinHostPort server "53") = false)
    (csv : Text) : Sound parseIP (state.rememberHostDNSServers parseIP csv) := by
  rw [rememberHostDNSServers]
  split
  · exact sound
  · next filled =>
      constructor
      · intro call mem old
        rcases List.mem_append.mp mem with before | new
        · exact sound.again call before old
        · rw [List.mem_singleton.mp new]
          exact setServers_normalized joined filled old
      · rw [latest_append]
        exact sound.stored
      · exact sound.known
      · intro watcher mem servers there
        rcases sound.follows watcher mem servers there with same | ⟨call, mem, brings⟩
        · exact Or.inl same
        · exact Or.inr ⟨call, List.mem_append_left _ mem, brings⟩

/-- A list is stored. -/
theorem Sound.stores (sound : Sound parseIP state) {index : Nat} {call : RememberCall}
    (here : state.calls[index]? = some call)
    (careful : ∀ later ∈ state.calls.drop (index + 1), later.watchers = none) :
    Sound parseIP { state with
      hostDNSList := call.normalized
      calls := state.calls.set index { call with watchers := some state.hostDNSWatchers } } := by
  have bound := (List.getElem?_eq_some_iff.mp here).1
  constructor
  · intro other mem
    rcases List.mem_or_eq_of_mem_set mem with old | rfl
    · exact sound.again other old
    · exact sound.again call (List.mem_of_getElem? here)
  · exact ((latest_set here { call with watchers := some state.hostDNSWatchers } rfl []).trans
      (latest_of_pending careful _)).symm
  · exact sound.known
  · intro watcher mem servers _
    exact Or.inr ⟨_, List.mem_set bound _, rfl, mem⟩

/-- A resolver gets the list of a call. -/
theorem Sound.tells (sound : Sound parseIP state) {index : Nat} {call : RememberCall}
    (here : state.calls[index]? = some call) {told : Nat} {rest : List Nat}
    (copied : call.watchers = some (told :: rest))
    (careful : ∀ later ∈ state.calls.drop (index + 1), ∀ watchers,
      later.watchers = some watchers → told ∈ watchers) :
    Sound parseIP { state with
      resolvers := state.resolvers.modify told (setServers parseIP call.normalized)
      calls := state.calls.set index { call with watchers := some rest } } := by
  have mem := List.mem_of_getElem? here
  have bound := (List.getElem?_eq_some_iff.mp here).1
  have last : state.hostDNSList = latest (state.calls.drop (index + 1)) call.normalized := by
    rw [sound.stored, latest_split here, copied]
    rfl
  constructor
  · intro other mem
    rcases List.mem_or_eq_of_mem_set mem with old | rfl
    · exact sound.again other old
    · exact sound.again call (List.mem_of_getElem? here)
  · exact last.trans (latest_set here { call with watchers := some rest } rfl []).symm
  · intro watcher mem
    exact (List.length_modify _ _ _).symm ▸ sound.known watcher mem
  · intro watcher mem servers there
    rw [List.getElem?_modify] at there
    obtain ⟨old, before, rfl⟩ := Option.map_eq_some_iff.mp there
    by_cases equal : told = watcher
    · subst equal
      rw [if_pos rfl, sound.again call (List.mem_of_getElem? here)]
      -- A later list that is stored already is still on its way to the resolver.
      rcases latest_cases (state.calls.drop (index + 1)) call.normalized with
        same | ⟨later, inside, stored, same⟩
      · exact Or.inl (last.trans same).symm
      · obtain ⟨watchers, left⟩ := Option.ne_none_iff_exists'.mp stored
        refine Or.inr ⟨later, ?_, ?_⟩
        · apply List.mem_of_mem_drop
          rw [List.drop_set_of_lt (Nat.lt_succ_self index)]
          exact inside
        · rw [Brings, left]
          exact ⟨(last.trans same).symm, careful later inside watchers left⟩
    · rw [if_neg equal]
      rcases sound.follows watcher mem old before with same | ⟨other, mem, brings⟩
      · exact Or.inl same
      · obtain ⟨place, at'⟩ := List.getElem?_of_mem mem
        by_cases self : index = place
        · subst self
          rw [here] at at'
          cases at'
          rw [Brings, copied] at brings
          refine Or.inr ⟨_, List.mem_set bound _, brings.1, ?_⟩
          exact (List.mem_cons.mp brings.2).resolve_left (Ne.symm equal)
        · refine Or.inr ⟨other, ?_, brings⟩
          apply List.mem_of_getElem?
          rw [List.getElem?_set_ne self]
          exact at'

theorem Sound.advance (sound : Sound parseIP state) {index : Nat} {call : RememberCall}
    (here : state.calls[index]? = some call) (careful : state.Careful (.remember index)) :
    Sound parseIP (state.advance parseIP index call) := by
  have careful := careful call here
  rw [HostDns.advance]
  cases copied : call.watchers with
  | none =>
    refine sound.stores here fun later mem => ?_
    have pending := careful later mem
    rw [Precedes, copied] at pending
    cases left : later.watchers with
    | none => rfl
    | some _ =>
      rw [left] at pending
      cases pending
  | some watchers =>
    cases watchers with
    | nil => exact sound
    | cons told rest =>
      refine sound.tells here copied fun later mem watchers left => ?_
      have behind := careful later mem
      rw [Precedes, copied, left] at behind
      exact behind

theorem Sound.creates (sound : Sound parseIP state) (servers : List String) :
    Sound parseIP { state with resolvers := state.resolvers ++ [servers] } := by
  refine ⟨sound.again, sound.stored, fun watcher mem => ?_, fun watcher mem other there => ?_⟩
  · rw [List.length_append]
    exact Nat.lt_add_right _ (sound.known watcher mem)
  · rw [List.getElem?_append_left (sound.known watcher mem)] at there
    exact sound.follows watcher mem other there

theorem Sound.subscribes (sound : Sound parseIP state) {resolver : Nat}
    (created : resolver < state.resolvers.length)
    (careful : state.Careful (.subscribe resolver)) :
    Sound parseIP { state with hostDNSWatchers := state.hostDNSWatchers ++ [resolver] } := by
  refine ⟨sound.again, sound.stored, fun watcher mem => ?_, fun watcher mem servers there => ?_⟩
  · rcases List.mem_append.mp mem with old | new
    · exact sound.known watcher old
    · rw [List.mem_singleton.mp new]
      exact created
  · rcases List.mem_append.mp mem with old | new
    · exact sound.follows watcher old servers there
    · rw [List.mem_singleton.mp new] at there ⊢
      rcases careful with same | ⟨call, mem, pending⟩
      · exact Or.inl (Option.some.inj (there.symm.trans same))
      · refine Or.inr ⟨call, mem, ?_⟩
        rw [Brings, pending]
        trivial

/-- The step lemma. -/
theorem Sound.step (sound : Sound parseIP state)
    (joined : ∀ server, parseIP server = true → parseIP (joinHostPort server "53") = false)
    (input : HostDnsInput) (careful : state.Careful input) :
    Sound parseIP (state.step parseIP input).1 := by
  cases input with
  | config content => exact sound.remembers joined _
  | event event =>
    rw [HostDns.step]
    split
    · exact sound
    · exact sound.remembers joined _
  | newProtectedResolver dnsServersCsv => exact sound.creates _
  | subscribe resolver =>
    rw [HostDns.step]
    split
    · next fresh => exact sound.subscribes fresh.1 careful
    · exact sound
  | remember index =>
    rw [HostDns.step]
    cases here : state.calls[index]? with
    | none => exact sound
    | some call => exact sound.advance here careful

/-- However events, start-up and subscriptions interleave, if no list overtakes an earlier one and
every resolver subscribes with the list stored, all agree on the last list whenever all is
quiet. -/
theorem agrees_of_careful (parseIP : String → Bool)
    (joined : ∀ server, parseIP server = true → parseIP (joinHostPort server "53") = false)
    (inputs : List HostDnsInput)
    (careful : Transducer.AtEveryStep (step parseIP) initial inputs Careful) :
    Transducer.Throughout (step parseIP) initial inputs Agrees := by
  intro consumed within
  have sound := @Transducer.invariant_of_atEveryStep _ _ _ (step parseIP) (Sound parseIP) Careful
    (fun _ input sound careful => sound.step joined input careful) _ _ sound_initial
    (careful.of_prefix within)
  exact sound.agrees

instance : DecidableRel Precedes := fun call later => by
  unfold Precedes
  split
  · infer_instance
  · infer_instance
  · infer_instance

instance : DecidableRel Careful := fun state input => by
  unfold Careful
  split
  · infer_instance
  · infer_instance
  · infer_instance

instance : DecidablePred Quiet := fun self =>
  inferInstanceAs (Decidable ((∀ call ∈ self.calls, call.watchers = some []) ∧
    ∀ resolver < self.resolvers.length, resolver ∈ self.hostDNSWatchers))

/-- Two literal addresses. -/
def twoAddresses (server : String) : Bool := server = "1.1.1.1" ∨ server = "2.2.2.2"

theorem twoAddresses_joined (server : String) (literal : twoAddresses server = true) :
    twoAddresses (joinHostPort server "53") = false := by
  rcases of_decide_eq_true literal with rfl | rfl
  · decide +kernel
  · decide +kernel

theorem agrees_changed :
    Transducer.Throughout (step twoAddresses) initial
      [.config "DNS_SERVERS=1.1.1.1".toList, .remember 0,
       .newProtectedResolver "1.1.1.1".toList, .subscribe 0,
       .event "dns=2.2.2.2".toList, .remember 1, .remember 1] Agrees :=
  agrees_of_careful twoAddresses twoAddresses_joined _ (by decide +kernel)

/-- The network changes after the configuration was read and before the resolver that is made
from it subscribes: the resolver keeps the list of the network that is gone. -/
theorem network_missed :
    ¬ ∀ parseIP : String → Bool,
      (∀ server, parseIP server = true → parseIP (joinHostPort server "53") = false) →
        ∀ inputs, Transducer.Throughout (step parseIP) initial inputs Agrees := by
  intro always
  have agrees := always twoAddresses twoAddresses_joined
    [.config "DNS_SERVERS=1.1.1.1".toList, .remember 0,
     .event "dns=2.2.2.2".toList, .remember 1,
     .newProtectedResolver "1.1.1.1".toList, .subscribe 0] _ (List.prefix_refl _)
  have same := (agrees (by decide +kernel)).2 ["1.1.1.1:53"] (by decide +kernel)
  exact absurd same (by decide +kernel)

end HostDns

end Csqtt
