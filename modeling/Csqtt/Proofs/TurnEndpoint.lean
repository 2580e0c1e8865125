/-
Module: Csqtt.Proofs.TurnEndpoint
Purpose: An endpoint's authority names its host and port alone and is read back as they are; a
  session goes to a relay in the way its mode and the relay's address allow, and its worker comes
  to every relay it can use in turn.
Trusted boundary: a counter of attempts does not come to its end
Main exports: splitOnce_eq_some, splitOnce_eq_none, splitOnce_append, ReadsBack,
  socketAuthority_inj, resolve_eq_ok, authority_round_trip, session_endpoint
-/
import Csqtt.Core.Delimited
import Csqtt.Engine.TurnEndpoint
import Mathlib.Data.List.Infix

namespace Csqtt

/-!
### The first place of a pattern
-/

section Split

variable {pattern text front back : Text}

/-- What is split is put together again, and the pattern stands nowhere before. -/
theorem splitOnce_eq_some (nonempty : pattern ≠ [])
    (split : splitOnce pattern text = some (front, back)) :
    text = front ++ (pattern ++ back) ∧ ∀ place < front.length, ¬ pattern <+: text.drop place := by
  induction text generalizing front with
  | nil =>
      rw [splitOnce] at split
      split at split
      · next here =>
          exact absurd (List.prefix_nil.mp (List.isPrefixOf_iff_prefix.mp here)) nonempty
      · cases split
  | cons character rest inductionHypothesis =>
      rw [splitOnce] at split
      split at split
      · next here =>
          cases split
          obtain ⟨back, whole⟩ := List.isPrefixOf_iff_prefix.mp here
          refine ⟨?_, fun place before => absurd before (Nat.not_lt_zero place)⟩
          rw [← whole, List.drop_left]
          rfl
      · next there =>
          obtain ⟨⟨first, last⟩, found, same⟩ := Option.map_eq_some_iff.mp split
          cases same
          obtain ⟨whole, nowhere⟩ := inductionHypothesis found
          refine ⟨by rw [whole]; rfl, fun place before => ?_⟩
          cases place with
          | zero => exact fun here => there (List.isPrefixOf_iff_prefix.mpr here)
          | succ place => exact nowhere place (Nat.lt_of_succ_lt_succ before)

theorem splitOnce_eq_none (nonempty : pattern ≠ []) :
    splitOnce pattern text = none ↔ ¬ pattern <:+: text := by
  induction text with
  | nil =>
      rw [splitOnce, if_neg]
      · exact iff_of_true rfl fun inside => nonempty (List.infix_nil.mp inside)
      · exact fun here => nonempty (List.prefix_nil.mp (List.isPrefixOf_iff_prefix.mp here))
  | cons character rest inductionHypothesis =>
      rw [splitOnce, List.infix_cons_iff, ← List.isPrefixOf_iff_prefix]
      split
      · next here => exact iff_of_false nofun fun nowhere => nowhere (.inl here)
      · next there =>
          rw [Option.map_eq_none_iff, inductionHypothesis]
          exact ⟨fun nowhere either => either.elim there nowhere, fun nowhere later =>
            nowhere (.inr later)⟩

theorem splitOnce_append (nonempty : pattern ≠ [])
    (nowhere : ∀ place < front.length, ¬ pattern <+: (front ++ (pattern ++ back)).drop place) :
    splitOnce pattern (front ++ (pattern ++ back)) = some (front, back) := by
  induction front with
  | nil =>
      have here : pattern.isPrefixOf (pattern ++ back) = true :=
        List.isPrefixOf_iff_prefix.mpr (List.prefix_append pattern back)
      rw [List.nil_append]
      generalize whole : pattern ++ back = text at here ⊢
      cases text with
      | nil => exact absurd (List.append_eq_nil_iff.mp whole).1 nonempty
      | cons first later => rw [splitOnce, if_pos here, ← whole, List.drop_left]
  | cons character front inductionHypothesis =>
      have first := nowhere 0 (Nat.succ_pos _)
      rw [List.drop_zero, List.cons_append] at first
      rw [List.cons_append, splitOnce,
        if_neg fun here => first (List.isPrefixOf_iff_prefix.mp here),
        inductionHypothesis fun place before => nowhere (place + 1) (Nat.succ_lt_succ before)]
      rfl

theorem splitOnce_singleton {separator : Char} (clear : separator ∉ front) :
    splitOnce [separator] (front ++ separator :: back) = some (front, back) := by
  refine @splitOnce_append [separator] front back (List.cons_ne_nil _ _) fun place before here => ?_
  rw [List.drop_append_of_le_length (Nat.le_of_lt before), List.drop_eq_getElem_cons before] at here
  have same := (List.cons_prefix_cons.mp here).1
  rw [same] at clear
  exact clear (List.getElem_mem before)

theorem rsplitOnce_append {separator : Char} (clear : separator ∉ back) :
    rsplitOnce separator (front ++ separator :: back) = some (front, back) := by
  rw [rsplitOnce, List.reverse_append, List.reverse_cons, List.append_assoc, List.singleton_append,
    splitOnce_singleton (fun member => clear (List.mem_reverse.mp member))]
  simp

theorem eq_of_rsplitOnce {separator : Char}
    (split : rsplitOnce separator text = some (front, back)) :
    text = front ++ separator :: back := by
  obtain ⟨⟨first, last⟩, found, same⟩ := Option.map_eq_some_iff.mp split
  cases same
  have whole := (splitOnce_eq_some (List.cons_ne_nil _ _) found).1
  rw [← List.reverse_reverse text, whole]
  simp

theorem not_mem_of_rsplitOnce {separator : Char} (split : rsplitOnce separator text = none) :
    separator ∉ text := by
  intro member
  refine (splitOnce_eq_none (List.cons_ne_nil _ _)).mp (Option.map_eq_none_iff.mp split) ?_
  exact (List.singleton_infix_iff separator _).mpr (List.mem_reverse.mpr member)

/-- A pattern that stands nowhere before the end of the front is not in the front. -/
theorem not_infix_of_nowhere (whole : text = front ++ back)
    (nowhere : ∀ place < front.length, ¬ pattern <+: text.drop place) (nonempty : pattern ≠ []) :
    ¬ pattern <:+: front := by
  rintro ⟨before, after, rfl⟩
  refine nowhere before.length ?_ ?_
  · have positive := List.length_pos_iff.mpr nonempty
    simp only [List.length_append]
    omega
  · rw [whole, List.append_assoc, List.append_assoc, List.drop_left]
    exact List.prefix_append _ _

/-- A bracket and a colon are not found across the end of the text before them. -/
theorem splitOnce_bracket (nowhere : ¬ [']', ':'] <:+: front) :
    splitOnce [']', ':'] (front ++ ']' :: ':' :: back) = some (front, back) := by
  refine @splitOnce_append [']', ':'] front back (List.cons_ne_nil _ _) fun place before here => ?_
  rw [List.drop_append_of_le_length (Nat.le_of_lt before)] at here
  by_cases last : place + 1 = front.length
  · obtain ⟨character, single⟩ : ∃ character, front.drop place = [character] :=
      List.length_eq_one_iff.mp (by rw [List.length_drop]; omega)
    rw [single] at here
    simp at here
  · refine nowhere ((List.prefix_of_prefix_length_le here (List.prefix_append _ _) ?_).isInfix.trans
      (List.drop_suffix place front).isInfix)
    rw [List.length_drop]
    simp only [List.length_cons, List.length_nil]
    omega

end Split

/-!
### Authorities
-/

section Authority

variable {host : Text} {port : U16} {scheme : TurnScheme}

theorem symbol_not_mem_decimal {symbol : Char} (other : symbol.isDigit = false) (n : Nat) :
    symbol ∉ decimal n := Delimited.not_mem_toDigits other n

/-- A port is read back from its digits. -/
theorem parseU16_decimal (port : U16) : parseU16 (decimal port.toNat) = some port := by
  have plain : ¬ (decimal port.toNat).head? = some '+' := fun first =>
    @symbol_not_mem_decimal '+' (by decide) _ (List.mem_of_head? first)
  have digits : (decimal port.toNat).all Char.isDigit = true :=
    List.all_eq_true.mpr fun character member =>
      Nat.isDigit_of_mem_toDigits (by decide) (by decide) member
  rw [parseU16, if_neg plain]
  dsimp only
  rw [if_neg, decimal, Nat.ofDigitChars_ten_toDigits, if_pos port.isLt, BitVec.ofNat_toNat,
    BitVec.setWidth_eq]
  rintro (none | symbols)
  · exact Nat.toDigits_ne_nil none
  · rw [digits] at symbols
    cases symbols

theorem readPort_decimal (port : U16) : readPort (decimal port.toNat) = .ok port := by
  rw [readPort, parseU16_decimal]

/-- A host that stands in an authority as it is. -/
def ReadsBack (host : Text) : Prop :=
  host ≠ [] ∧ if ':' ∈ host then ¬ [']', ':'] <:+: host else host.head? ≠ some '['

instance (host : Text) : Decidable (ReadsBack host) := by
  unfold ReadsBack
  infer_instance

theorem map_eq_ok {Read Made : Type} {read : Except String Read} {make : Read → Made} {made : Made}
    (same : read.map make = .ok made) : ∃ value, read = .ok value ∧ make value = made := by
  cases read with
  | error reason => cases same
  | ok value => exact ⟨value, rfl, Except.ok.inj same⟩

/-- The digits of a port end the text. -/
theorem getLast?_digits (front : Text) (n : Nat) :
    (front ++ ':' :: decimal n).getLast? ≠ some ']' := by
  intro last
  have digit : (decimal n).getLast? = some ']' := by
    obtain ⟨first, rest, same⟩ := List.exists_cons_of_ne_nil (@Nat.toDigits_ne_nil n 10)
    rw [List.getLast?_append_cons, decimal, same, List.getLast?_cons_cons, ← same] at last
    exact last
  exact @symbol_not_mem_decimal ']' (by decide) n (List.mem_of_getLast? digit)

theorem parseAuthority_bracketed (rest : Text) (scheme : TurnScheme) :
    parseAuthority ('[' :: rest) scheme =
      match splitOnce [']', ':'] rest with
      | none =>
          if rest.getLast? = some ']' then .ok (rest.dropLast, defaultPort scheme)
          else .error "TURN IPv6 address is malformed"
      | some (host, port) => (readPort port).map fun port => (host, port) := rfl

theorem parseAuthority_bare {value : Text} (bare : value.head? ≠ some '[') (scheme : TurnScheme) :
    parseAuthority value scheme =
      if 1 < value.count ':' then .error "TURN IPv6 address must use brackets"
      else
        match rsplitOnce ':' value with
        | some (host, port) =>
            if host = [] then .error "TURN host is empty"
            else (readPort port).map fun port => (host, port)
        | none => .ok (value, defaultPort scheme) := by
  unfold parseAuthority
  split
  · exact absurd rfl bare
  · rfl

/-- In brackets a host is read back unless a bracket and a colon stand in it. -/
theorem parseAuthority_colon_iff :
    parseAuthority ('[' :: host ++ ']' :: ':' :: decimal port.toNat) scheme = .ok (host, port) ↔
      ¬ [']', ':'] <:+: host := by
  rw [List.cons_append, parseAuthority_bracketed]
  constructor
  · intro parsed inside
    cases split : splitOnce [']', ':'] (host ++ ']' :: ':' :: decimal port.toNat) with
    | none =>
        refine (splitOnce_eq_none (List.cons_ne_nil _ _)).mp split (inside.trans ?_)
        exact (List.prefix_append _ _).isInfix
    | some halves =>
        obtain ⟨first, back⟩ := halves
        obtain ⟨-, nowhere⟩ := splitOnce_eq_some (List.cons_ne_nil _ _) split
        rw [split] at parsed
        obtain ⟨_, -, same⟩ := map_eq_ok parsed
        cases same
        exact not_infix_of_nowhere rfl nowhere (List.cons_ne_nil _ _) inside
  · intro clear
    rw [splitOnce_bracket clear]
    dsimp only
    rw [readPort_decimal]
    rfl

/-- Without brackets a host is read back if there is one that opens none. -/
theorem parseAuthority_plain_iff (plain : ':' ∉ host) :
    parseAuthority (host ++ ':' :: decimal port.toNat) scheme = .ok (host, port) ↔
      host ≠ [] ∧ host.head? ≠ some '[' := by
  cases host with
  | nil =>
      refine iff_of_false (fun parsed => ?_) fun both => both.1 rfl
      have once := @rsplitOnce_append [] (decimal port.toNat) ':'
        (symbol_not_mem_decimal (by decide) _)
      rw [parseAuthority_bare (by simp), once] at parsed
      dsimp only at parsed
      rw [if_pos rfl] at parsed
      split at parsed <;> cases parsed
  | cons character tail =>
      by_cases opens : character = '['
      · subst opens
        refine iff_of_false (fun parsed => ?_) fun both => both.2 rfl
        rw [List.cons_append, parseAuthority_bracketed] at parsed
        cases split : splitOnce [']', ':'] (tail ++ ':' :: decimal port.toNat) with
        | none =>
            rw [split] at parsed
            dsimp only at parsed
            rw [if_neg (getLast?_digits tail port.toNat)] at parsed
            cases parsed
        | some halves =>
            obtain ⟨first, back⟩ := halves
            obtain ⟨whole, -⟩ := splitOnce_eq_some (List.cons_ne_nil _ _) split
            rw [split] at parsed
            dsimp only at parsed
            obtain ⟨_, -, same⟩ := map_eq_ok parsed
            cases same
            -- The first colon stands behind the host and not two places further on.
            have here := @splitOnce_singleton tail (decimal port.toNat) ':' fun member =>
              plain (List.mem_cons_of_mem _ member)
            have there := @splitOnce_singleton ('[' :: tail ++ [']']) back ':' fun member => by
              rcases List.mem_append.mp member with inside | last
              · exact plain inside
              · simp at last
            rw [List.append_assoc] at there
            rw [whole] at here
            have lengths := congrArg List.length
              (congrArg Prod.fst (Option.some.inj (there.symm.trans here)))
            simp only [List.length_append, List.length_cons, List.length_nil] at lengths
            omega
      · have bare : (character :: tail ++ ':' :: decimal port.toNat).head? ≠ some '[' :=
          fun first => opens (Option.some.inj first)
        have single : (character :: tail ++ ':' :: decimal port.toNat).count ':' = 1 := by
          rw [List.count_append, List.count_cons_self, List.count_eq_zero_of_not_mem plain,
            List.count_eq_zero_of_not_mem (symbol_not_mem_decimal (by decide) _)]
        refine iff_of_true ?_ ⟨List.cons_ne_nil _ _, fun first => opens (Option.some.inj first)⟩
        rw [parseAuthority_bare bare, single, if_neg (Nat.lt_irrefl 1),
          rsplitOnce_append (symbol_not_mem_decimal (by decide) _)]
        dsimp only
        rw [if_neg (List.cons_ne_nil _ _), readPort_decimal]
        rfl

theorem parseAuthority_socketAuthority_iff (endpoint : TurnEndpoint) (scheme : TurnScheme) :
    parseAuthority endpoint.socketAuthority scheme = .ok (endpoint.host, endpoint.port) ↔
      ReadsBack endpoint.host := by
  rw [TurnEndpoint.socketAuthority, ReadsBack]
  by_cases colon : ':' ∈ endpoint.host
  · rw [if_pos colon, if_pos colon, parseAuthority_colon_iff]
    exact ⟨fun clear => ⟨List.ne_nil_of_mem colon, clear⟩, And.right⟩
  · rw [if_neg colon, if_neg colon, parseAuthority_plain_iff colon]

/-- An authority is that of one host and port. -/
theorem socketAuthority_inj {first second : TurnEndpoint}
    (same : first.socketAuthority = second.socketAuthority) :
    first.host = second.host ∧ first.port = second.port := by
  have last (endpoint : TurnEndpoint) :
      rsplitOnce ':' endpoint.socketAuthority =
        some (if ':' ∈ endpoint.host then '[' :: endpoint.host ++ [']'] else endpoint.host,
          decimal endpoint.port.toNat) := by
    rw [TurnEndpoint.socketAuthority]
    have clear := @symbol_not_mem_decimal ':' (by decide) endpoint.port.toNat
    split
    · have split := @rsplitOnce_append ('[' :: endpoint.host ++ [']']) _ _ clear
      rw [List.append_assoc] at split
      exact split
    · exact rsplitOnce_append clear
  have halves := Option.some.inj ((last first).symm.trans ((congrArg _ same).trans (last second)))
  obtain ⟨hosts, ports⟩ := Prod.mk.inj halves
  refine ⟨?_, BitVec.eq_of_toNat_eq (Delimited.toDigits_inj ports)⟩
  split at hosts
  · next colon =>
      split at hosts
      · exact List.append_cancel_right (List.cons.inj hosts).2
      · next plain =>
          rw [← hosts] at plain
          exact absurd (List.mem_append_left _ (List.mem_cons_of_mem _ colon)) plain
  · next plain =>
      split at hosts
      · next colon =>
          rw [hosts] at plain
          exact absurd (List.mem_append_left _ (List.mem_cons_of_mem _ colon)) plain
      · exact hosts

end Authority

/-!
### Endpoints
-/

/-- The endpoint that an address leads to in a session's mode and with its settings. -/
def LeadsTo (config : TurnSettings) (address : Text) (endpoint : TurnEndpoint) : Prop :=
  ∃ scheme authority uriTransport host port,
    parseTurnUri address = .ok (scheme, authority, uriTransport) ∧
    parseAuthority authority scheme = .ok (host, port) ∧
    endpoint.host = (overriding config.turnHost).getD host ∧ endpoint.host ≠ [] ∧
    (overriding config.turnPort).elim (some port) parseU16 = some endpoint.port ∧
    match config.turnTransport with
    | .udp => endpoint.transport = .udp ∧ scheme ≠ .turns ∧ uriTransport ≠ some .tcp
    | .tcpTls => endpoint.transport = (if scheme = .turns then .tls else .tcp) ∧
        uriTransport ≠ some .udp

section Resolve

variable {config : TurnSettings} {address : Text}

theorem wireTransport_eq_ok {scheme : TurnScheme} {uriTransport : Option UriTransport}
    {mode : TurnTransportMode} {transport : TurnWireTransport} :
    wireTransport scheme uriTransport mode = .ok transport ↔
      match mode with
      | .udp => transport = .udp ∧ scheme ≠ .turns ∧ uriTransport ≠ some .tcp
      | .tcpTls => transport = (if scheme = .turns then .tls else .tcp) ∧
          uriTransport ≠ some .udp := by
  cases mode <;> cases scheme <;> rcases uriTransport with _ | _ | _ <;> cases transport <;>
    simp [wireTransport]

theorem choosePort_eq_ok {overridePort : Option Text} {originalPort port : U16} :
    choosePort overridePort originalPort = .ok port ↔
      (overriding overridePort).elim (some originalPort) parseU16 = some port := by
  rw [choosePort]
  cases overriding overridePort with
  | none => simp
  | some text =>
      dsimp only [Option.elim]
      rw [readPort]
      cases parseU16 text <;> simp

/-- An address leads to one endpoint or to none. -/
theorem resolve_eq_ok {endpoints : List TurnEndpoint} :
    config.resolve address = .ok endpoints ↔
      ∃ endpoint, endpoints = [endpoint] ∧ LeadsTo config address endpoint := by
  rw [TurnSettings.resolve, resolveTurnEndpoints]
  constructor
  · intro resolved
    cases uri : parseTurnUri address with
    | error reason =>
        rw [uri] at resolved
        cases resolved
    | ok parts =>
        obtain ⟨scheme, authority, uriTransport⟩ := parts
        simp only [uri, bind, Except.bind] at resolved
        cases split : parseAuthority authority scheme with
        | error reason =>
            rw [split] at resolved
            cases resolved
        | ok pair =>
            obtain ⟨host, originalPort⟩ := pair
            simp only [split] at resolved
            cases chosen : choosePort config.turnPort originalPort with
            | error reason =>
                rw [chosen] at resolved
                cases resolved
            | ok port =>
                simp only [chosen] at resolved
                split at resolved
                · cases resolved
                · next named =>
                    cases wire : wireTransport scheme uriTransport config.turnTransport with
                    | error reason =>
                        rw [wire] at resolved
                        cases resolved
                    | ok transport =>
                        rw [wire] at resolved
                        cases resolved
                        exact ⟨_, rfl, scheme, authority, uriTransport, host, originalPort, uri,
                          split, rfl, named, Iff.mp choosePort_eq_ok chosen,
                          Iff.mp wireTransport_eq_ok wire⟩
  · rintro ⟨⟨host, port, transport⟩, rfl, scheme, authority, uriTransport, original, originalPort,
      uri, split, rfl, named, chosen, wire⟩
    simp only [uri, split, Iff.mpr choosePort_eq_ok chosen, Iff.mpr wireTransport_eq_ok wire, bind,
      Except.bind]
    rw [if_neg named]
    rfl

end Resolve

/-!
### The choice of a session
-/

section Choice

variable {addresses : List Text} {config : TurnSettings} {address : Text}

/-- Going around, every place is reached from every other one. -/
theorem around_reaches {count place : Nat} (inside : place < count) (start : Nat) :
    ∃ offset < count, (start + offset) % count = place := by
  have below := Nat.mod_lt start (Nat.zero_lt_of_lt inside)
  by_cases behind : start % count ≤ place
  · refine ⟨place - start % count, by omega, ?_⟩
    rw [Nat.add_mod, Nat.mod_eq_of_lt (by omega : place - start % count < count),
      Nat.add_sub_cancel' behind, Nat.mod_eq_of_lt inside]
  · refine ⟨place + count - start % count, by omega, ?_⟩
    rw [Nat.add_mod, Nat.mod_eq_of_lt (by omega : place + count - start % count < count),
      Nat.add_sub_cancel' (by omega), Nat.add_mod_right, Nat.mod_eq_of_lt inside]

theorem turnEndpointIndex_eq (id cursor count : Nat) :
    turnEndpointIndex id cursor count = (id + cursor) % count := (Nat.add_mod id cursor count).symm

/-- The addresses from the worker's place on and around. -/
def around (addresses : List Text) (start : Nat) : List Text :=
  (List.range addresses.length).filterMap fun offset =>
    addresses[(start + offset) % addresses.length]?

theorem mem_around {start : Nat} : address ∈ around addresses start ↔ address ∈ addresses := by
  rw [around, List.mem_filterMap]
  constructor
  · rintro ⟨offset, -, found⟩
    exact List.mem_of_getElem? found
  · intro member
    obtain ⟨place, found⟩ := List.getElem?_of_mem member
    obtain ⟨offset, below, reached⟩ :=
      around_reaches (List.getElem?_eq_some_iff.mp found).1 start
    exact ⟨offset, List.mem_range.mpr below, by rw [reached, found]⟩

theorem around_first {start : Nat} (found : addresses[start % addresses.length]? = some address) :
    ∃ rest, around addresses start = address :: rest := by
  have positive := List.length_pos_of_mem (List.mem_of_getElem? found)
  obtain ⟨count, length⟩ := Nat.exists_eq_succ_of_ne_zero (Nat.ne_of_gt positive)
  rw [around, length, List.range_succ_eq_map, ← length, List.filterMap_cons, Nat.add_zero, found]
  exact ⟨_, rfl⟩

theorem isOk_resolve_iff :
    (config.resolve address).isOk = true ↔ ∃ endpoint, LeadsTo config address endpoint := by
  cases resolved : config.resolve address with
  | error reason =>
      refine iff_of_false nofun ?_
      rintro ⟨endpoint, leads⟩
      have read := Iff.mpr resolve_eq_ok ⟨endpoint, rfl, leads⟩
      rw [resolved] at read
      cases read
  | ok endpoints =>
      obtain ⟨endpoint, -, leads⟩ := Iff.mp resolve_eq_ok resolved
      exact iff_of_true rfl ⟨endpoint, leads⟩

theorem selectTurnAddress_eq (addresses : List Text) (config : TurnSettings) :
    selectTurnAddress addresses config =
      match (around addresses (turnEndpointIndex config.id config.turnEndpointCursor
          addresses.length)).find? fun address => (config.resolve address).isOk with
      | some address => .ok address
      | none => .error "Нет TURN endpoint для выбранного транспорта" := rfl

theorem selectTurnAddress_eq_ok (selected : selectTurnAddress addresses config = .ok address) :
    address ∈ addresses ∧ ∃ endpoint, LeadsTo config address endpoint := by
  rw [selectTurnAddress_eq] at selected
  split at selected
  · next found =>
      cases selected
      have usable : (config.resolve address).isOk = true := by
        have first := List.find?_some found
        exact first
      exact ⟨Iff.mp mem_around (List.mem_of_find?_eq_some found), Iff.mp isOk_resolve_iff usable⟩
  · cases selected

theorem selectTurnAddress_eq_error_iff :
    (∃ reason, selectTurnAddress addresses config = .error reason) ↔
      ∀ address ∈ addresses, ∀ endpoint, ¬ LeadsTo config address endpoint := by
  rw [selectTurnAddress_eq]
  split
  · next address found =>
      refine iff_of_false nofun fun none => ?_
      have usable : (config.resolve address).isOk = true := by
        have first := List.find?_some found
        exact first
      obtain ⟨endpoint, leads⟩ := Iff.mp isOk_resolve_iff usable
      exact none address (Iff.mp mem_around (List.mem_of_find?_eq_some found)) endpoint leads
  · next found =>
      refine iff_of_true ⟨_, rfl⟩ fun address member endpoint leads => ?_
      refine List.find?_eq_none.mp found address (Iff.mpr mem_around member) ?_
      exact Iff.mpr isOk_resolve_iff ⟨endpoint, leads⟩

/-- An address that can be used is taken at one of the next attempts. -/
theorem selectTurnAddress_reaches (member : address ∈ addresses) {endpoint : TurnEndpoint}
    (leads : LeadsTo config address endpoint) :
    ∃ tries < addresses.length, selectTurnAddress addresses
      { config with turnEndpointCursor := config.turnEndpointCursor + tries } = .ok address := by
  obtain ⟨place, found⟩ := List.getElem?_of_mem member
  have inside := (List.getElem?_eq_some_iff.mp found).1
  obtain ⟨tries, few, reached⟩ := around_reaches inside (config.id + config.turnEndpointCursor)
  refine ⟨tries, few, ?_⟩
  have start : turnEndpointIndex config.id (config.turnEndpointCursor + tries) addresses.length =
      place := by
    rw [turnEndpointIndex_eq, ← Nat.add_assoc, reached]
  have usable : (config.resolve address).isOk = true := Iff.mpr isOk_resolve_iff ⟨endpoint, leads⟩
  have settings : TurnSettings.resolve
      { config with turnEndpointCursor := config.turnEndpointCursor + tries } =
        config.resolve := rfl
  obtain ⟨rest, first⟩ := @around_first addresses address place
    (by rw [Nat.mod_eq_of_lt inside, found])
  rw [selectTurnAddress_eq, settings]
  dsimp only
  rw [start, first,
    List.find?_cons_of_pos (p := fun address => (config.resolve address).isOk) usable]

theorem plain_of_bare {value host : Text} {scheme : TurnScheme} {port : U16}
    (bare : value.head? ≠ some '[') (parsed : parseAuthority value scheme = .ok (host, port)) :
    ':' ∉ host ∧ (host ≠ [] → host.head? ≠ some '[') := by
  rw [parseAuthority_bare bare] at parsed
  split at parsed
  · cases parsed
  · next few =>
      cases split : rsplitOnce ':' value with
      | none =>
          rw [split] at parsed
          cases parsed
          exact ⟨not_mem_of_rsplitOnce split, fun _ => bare⟩
      | some halves =>
          obtain ⟨first, back⟩ := halves
          obtain rfl := eq_of_rsplitOnce split
          rw [split] at parsed
          dsimp only at parsed
          split at parsed
          · cases parsed
          · obtain ⟨_, -, same⟩ := map_eq_ok parsed
            cases same
            rw [List.count_append, List.count_cons_self] at few
            refine ⟨fun member => few ?_, fun named first => bare ?_⟩
            · have one := List.count_pos_iff.mpr member
              omega
            · rw [List.head?_append_of_ne_nil _ named, first]

/-- A host read from an authority is read back from the endpoint's, unless brackets stand around
one that opens a bracket itself. -/
theorem parseAuthority_readsBack {value host : Text} {scheme : TurnScheme} {port : U16}
    (parsed : parseAuthority value scheme = .ok (host, port)) (named : host ≠ []) :
    ReadsBack host ↔ ':' ∈ host ∨ host.head? ≠ some '[' := by
  have clear : ':' ∈ host → ¬ [']', ':'] <:+: host := by
    intro colon inside
    by_cases opens : value.head? = some '['
    · obtain ⟨rest, rfl⟩ := List.head?_eq_some_iff.mp opens
      rw [parseAuthority_bracketed] at parsed
      cases split : splitOnce [']', ':'] rest with
      | none =>
          rw [split] at parsed
          dsimp only at parsed
          split at parsed
          · cases parsed
            exact (splitOnce_eq_none (List.cons_ne_nil _ _)).mp split
              (inside.trans (List.dropLast_prefix rest).isInfix)
          · cases parsed
      | some halves =>
          obtain ⟨first, back⟩ := halves
          obtain ⟨whole, nowhere⟩ := splitOnce_eq_some (List.cons_ne_nil _ _) split
          rw [split] at parsed
          obtain ⟨_, -, same⟩ := map_eq_ok parsed
          cases same
          exact not_infix_of_nowhere whole nowhere (List.cons_ne_nil _ _) inside
    · exact (plain_of_bare opens parsed).1 colon
  rw [ReadsBack]
  split
  · next colon => exact iff_of_true ⟨named, clear colon⟩ (.inl colon)
  · next plain => exact ⟨fun both => .inr both.2, fun either => ⟨named, either.resolve_left plain⟩⟩

end Choice

/-- The authority of an endpoint is that of no other host and port, and reads as that host and
port exactly if nothing in the host stands in the way. A host that was itself read from an
authority stands in the way only where brackets were put around a name that opens one. -/
theorem authority_round_trip :
    (∀ first second : TurnEndpoint, first.socketAuthority = second.socketAuthority →
      first.host = second.host ∧ first.port = second.port) ∧
    (∀ (endpoint : TurnEndpoint) scheme,
      parseAuthority endpoint.socketAuthority scheme = .ok (endpoint.host, endpoint.port) ↔
        ReadsBack endpoint.host) ∧
    ∀ value scheme host port, parseAuthority value scheme = .ok (host, port) → host ≠ [] →
      (ReadsBack host ↔ ':' ∈ host ∨ host.head? ≠ some '[') :=
  ⟨fun _ _ => socketAuthority_inj, parseAuthority_socketAuthority_iff,
    fun _ _ _ _ => parseAuthority_readsBack⟩

theorem authority_round_trip_ipv6 :
    parseAuthority (TurnEndpoint.mk "::1".toList 3478 .udp).socketAuthority .bare =
      .ok ("::1".toList, 3478) :=
  ((And.right authority_round_trip).1 ⟨"::1".toList, 3478, .udp⟩ .bare).mpr (by decide)

/-- A session takes an address of the list that leads to an endpoint in its mode and by its
settings, if there is one; it connects to that endpoint alone, and counts its path under a key that
no other host or port has. As often as there are addresses, its worker tries again and takes
each one that can be used. -/
theorem session_endpoint (addresses : List Text) (config : TurnSettings) :
    (∀ address, selectTurnAddress addresses config = .ok address → address ∈ addresses ∧
      ∃ endpoint, LeadsTo config address endpoint ∧ config.resolve address = .ok [endpoint] ∧
        turnPathKey address config = .ok endpoint.socketAuthority ∧
        ∀ (others : TurnSettings) other another, LeadsTo others other another →
          turnPathKey other others = turnPathKey address config →
          another.host = endpoint.host ∧ another.port = endpoint.port) ∧
    ((∃ reason, selectTurnAddress addresses config = .error reason) ↔
      ∀ address ∈ addresses, ∀ endpoint, ¬ LeadsTo config address endpoint) ∧
    ∀ address ∈ addresses, ∀ endpoint, LeadsTo config address endpoint →
      ∃ tries < addresses.length, selectTurnAddress addresses
        { config with turnEndpointCursor := config.turnEndpointCursor + tries } = .ok address := by
  have keyed {settings : TurnSettings} {address : Text} {endpoint : TurnEndpoint}
      (leads : LeadsTo settings address endpoint) :
      settings.resolve address = .ok [endpoint] ∧
        turnPathKey address settings = .ok endpoint.socketAuthority := by
    have resolved := Iff.mpr resolve_eq_ok ⟨endpoint, rfl, leads⟩
    exact ⟨resolved, by rw [turnPathKey, resolved]⟩
  refine ⟨fun address selected => ?_, selectTurnAddress_eq_error_iff,
    fun address member endpoint leads => selectTurnAddress_reaches member leads⟩
  obtain ⟨member, endpoint, leads⟩ := selectTurnAddress_eq_ok selected
  obtain ⟨resolved, key⟩ := keyed leads
  refine ⟨member, endpoint, leads, resolved, key, fun others other another leads same => ?_⟩
  rw [(keyed leads).2, key] at same
  exact socketAuthority_inj (Except.ok.inj same)

/-- The second of two addresses is for the mode. -/
def overTcp : TurnSettings where
  id := 0
  turnEndpointCursor := 0
  turnHost := none
  turnPort := none
  turnTransport := .tcpTls

def twoAddresses : List Text :=
  ["turn:relay.example:3478?transport=udp".toList, "turn:relay.example:3478?transport=tcp".toList]

theorem session_endpoint_tcp :
    ∃ endpoint, LeadsTo overTcp "turn:relay.example:3478?transport=tcp".toList endpoint ∧
      turnPathKey "turn:relay.example:3478?transport=tcp".toList overTcp =
        .ok endpoint.socketAuthority := by
  obtain ⟨-, endpoint, leads, -, key, -⟩ :=
    (session_endpoint twoAddresses overTcp).1 "turn:relay.example:3478?transport=tcp".toList rfl
  exact ⟨endpoint, leads, key⟩

end Csqtt
