/-
Module: Csqtt.Proofs.CsqttLink
Purpose: When the link that a configuration is normalised to is read back as the configuration.
Trusted boundary: what is read from an escaped URL is what was escaped
Main exports: StrippedOnce, stripVkCallURL_eq_self_iff, NetUrl.Reads, link_round_trip_iff
-/
import Csqtt.Helper.CsqttLink
import Csqtt.Proofs.CallHashes
import Mathlib.Data.List.DropRight

namespace Csqtt

/-!
### What is taken off a hash
-/

theorem length_dropBytes {count : Nat} {text : Text} (within : count ≤ text.length) :
    4 * (dropBytes count text).length + count ≤ 4 * text.length + 12 := by
  induction text generalizing count with
  | nil =>
    obtain rfl := Nat.le_zero.mp within
    exact Nat.zero_le _
  | cons head rest inductionHypothesis =>
    have most := Char.utf8Size_le_four head
    have least := Char.utf8Size_pos head
    cases count with
    | zero => exact Nat.le_add_right _ _
    | succ count =>
      rw [List.length_cons] at within ⊢
      rw [dropBytes]
      split
      · have shorter : count + 1 - head.utf8Size ≤ rest.length := by omega
        have bound := inductionHypothesis shorter
        omega
      · rw [List.length_append, List.length_replicate]
        omega

/-- A front that is found is taken off, whatever characters stand for it. -/
theorem length_stripFront_lt {front text : Text} (known : front ∈ callFronts)
    (within : front <+: text.map toLower) : (stripFront text).length < text.length := by
  have long : ∀ front ∈ callFronts, 16 ≤ front.length := by decide
  rw [stripFront]
  split
  · next none =>
      have missing := List.find?_eq_none.mp none front known
      exact absurd (List.isPrefixOf_iff_prefix.mpr within) missing
  · next found some =>
      have least := long found (List.mem_of_find?_eq_some some)
      have matched : found.isPrefixOf (text.map toLower) = true :=
        List.find?_some (p := fun front : Text => front.isPrefixOf (text.map toLower)) some
      have most := (List.isPrefixOf_iff_prefix.mp matched).length_le
      rw [List.length_map] at most
      have bound := length_dropBytes most
      omega

theorem stripFront_eq_self {text : Text}
    (bare : ∀ front ∈ callFronts, ¬ front <+: text.map toLower) : stripFront text = text := by
  rw [stripFront, List.find?_eq_none.mpr]
  exact fun front known within => bare front known (List.isPrefixOf_iff_prefix.mp within)

theorem length_stripFront_le (text : Text) : (stripFront text).length ≤ text.length := by
  by_cases bare : ∀ front ∈ callFronts, ¬ front <+: text.map toLower
  · exact (congrArg List.length (stripFront_eq_self bare)).le
  · push Not at bare
    obtain ⟨front, known, within⟩ := bare
    exact (length_stripFront_lt known within).le

theorem length_stripVkCallURL_le (text : Text) :
    (stripVkCallURL text).length ≤ (stripFront (trim text)).length := by
  rw [stripVkCallURL]
  split
  · exact Nat.zero_le _
  · exact ((trimMatches_sublist _ _).trans
      ((trimMatches_sublist _ _).trans (List.takeWhile_sublist _))).length_le

/-- Neither end of what is left of a field is a slash. -/
theorem trimMatches_stripVkCallURL (field : Text) :
    trimMatches (· = '/') (stripVkCallURL field) = stripVkCallURL field := by
  rw [stripVkCallURL]
  split
  · rfl
  · exact trimMatches_eq_self (fun _ first => head?_trimMatches _ first)
      (fun _ last => getLast?_trimMatches _ last)

/-- What is left of a field when the call's front, its query and the slashes around it are taken
off has no blanks at its ends and begins with no other front. -/
structure StrippedOnce (field : Text) : Prop where
  ends : trim (stripVkCallURL field) = stripVkCallURL field
  bare : ∀ front ∈ callFronts, ¬ front <+: (stripVkCallURL field).map toLower

/-- A hash is not stripped twice exactly if there is nothing left to be stripped. -/
theorem stripVkCallURL_eq_self_iff (field : Text) :
    stripVkCallURL (stripVkCallURL field) = stripVkCallURL field ↔ StrippedOnce field := by
  have slashes := trimMatches_stripVkCallURL field
  have marks (character : Char) (mem : character ∈ stripVkCallURL field) :=
    (mem_stripVkCallURL mem).2
  generalize made : stripVkCallURL field = hash at *
  constructor
  · intro same
    have shorter := length_stripVkCallURL_le hash
    rw [same] at shorter
    have ends : trim hash = hash :=
      (trimMatches_sublist _ _).eq_of_length_le (shorter.trans (length_stripFront_le _))
    subst made
    refine ⟨ends, fun front known within => ?_⟩
    rw [ends] at shorter
    exact absurd (length_stripFront_lt known within) (Nat.not_lt.mpr shorter)
  · rintro ⟨ends, bare⟩
    rw [made] at ends bare
    have whole : (hash.takeWhile fun character => character ≠ '?' ∧ character ≠ '#') = hash :=
      List.takeWhile_eq_self_iff.mpr fun character mem => decide_eq_true (marks character mem)
    rw [stripVkCallURL, ends]
    dsimp only
    split
    · next empty => exact empty.symm
    · rw [stripFront_eq_self bare, whole, ends, slashes]

instance (field : Text) : Decidable (StrippedOnce field) :=
  decidable_of_iff _ (stripVkCallURL_eq_self_iff field)

/-!
### The list
-/

theorem stripVkCallURL_of_trim_eq {text other : Text} (same : trim text = trim other) :
    stripVkCallURL text = stripVkCallURL other := by
  rw [stripVkCallURL, stripVkCallURL, same]

/-- The empty fields make no difference. -/
theorem splitHashes_eq (raw : Text) :
    splitHashes raw = ((raw.splitOnP isHashSeparator).map stripVkCallURL).filter (· ≠ []) := by
  rw [splitHashes, fieldsFunc]
  induction raw.splitOnP isHashSeparator with
  | nil => rfl
  | cons field later inductionHypothesis =>
    by_cases empty : field = []
    · subst empty
      exact inductionHypothesis
    · rw [List.filter_cons, if_pos (decide_eq_true empty), List.map_cons, List.map_cons,
        List.filter_cons, List.filter_cons, inductionHypothesis]

theorem splitHashes_cons {character : Char} (blank : isWhitespace character = true)
    (text : Text) : splitHashes (character :: text) = splitHashes text := by
  rw [splitHashes_eq, splitHashes_eq, List.splitOnP_cons_eq_if_modifyHead]
  split
  · rfl
  · obtain ⟨first, later, split⟩ :=
      List.exists_cons_of_ne_nil (List.splitOnP_ne_nil isHashSeparator text)
    rw [split, List.modifyHead_cons, List.map_cons, List.map_cons,
      stripVkCallURL_of_trim_eq (trim_cons blank first)]

/-- A character at the end goes to the last part. -/
theorem splitOnP_concat {p : Char → Bool} {character : Char} (clear : p character = false)
    (text : Text) : ∃ parts part, text.splitOnP p = parts ++ [part] ∧
      (text ++ [character]).splitOnP p = parts ++ [part ++ [character]] := by
  induction text with
  | nil =>
    refine ⟨[], [], rfl, List.splitOnP_eq_singleton fun other mem => ?_⟩
    rw [List.mem_singleton.mp mem, clear]
  | cons head rest inductionHypothesis =>
    obtain ⟨parts, part, whole, longer⟩ := inductionHypothesis
    rw [List.cons_append, List.splitOnP_cons_eq_if_modifyHead,
      List.splitOnP_cons_eq_if_modifyHead, whole, longer]
    split
    · exact ⟨[] :: parts, part, rfl, rfl⟩
    · cases parts with
      | nil => exact ⟨[], head :: part, rfl, rfl⟩
      | cons first parts => exact ⟨(head :: first) :: parts, part, rfl, rfl⟩

theorem splitHashes_concat {character : Char} (blank : isWhitespace character = true)
    (text : Text) : splitHashes (text ++ [character]) = splitHashes text := by
  rw [splitHashes_eq, splitHashes_eq]
  by_cases separates : isHashSeparator character = true
  · rw [List.splitOnP_append_cons text [] separates, List.map_append, List.filter_append]
    exact List.append_nil _
  · obtain ⟨parts, part, whole, longer⟩ :=
      splitOnP_concat (Bool.not_eq_true _ ▸ separates) text
    rw [whole, longer, List.map_append, List.map_append, List.map_singleton, List.map_singleton,
      stripVkCallURL_of_trim_eq (trim_concat blank part)]

/-- The blanks around the list make no difference. -/
theorem splitHashes_trim (raw : Text) : splitHashes (trim raw) = splitHashes raw := by
  have front (text : Text) : splitHashes (text.dropWhile isWhitespace) = splitHashes text := by
    induction text with
    | nil => rfl
    | cons head rest inductionHypothesis =>
      by_cases blank : isWhitespace head = true
      · rw [List.dropWhile_cons_of_pos blank, inductionHypothesis, splitHashes_cons blank]
      · rw [List.dropWhile_cons_of_neg blank]
  have back (text : Text) : splitHashes (text.rdropWhile isWhitespace) = splitHashes text := by
    induction text using List.reverseRecOn with
    | nil => rfl
    | append_singleton rest last inductionHypothesis =>
      by_cases blank : isWhitespace last = true
      · rw [List.rdropWhile_concat_pos _ _ _ blank, inductionHypothesis,
          splitHashes_concat blank]
      · rw [List.rdropWhile_concat_neg _ _ _ blank]
  exact (back _).trans (front raw)

/-- The joined list is read back exactly if no hash in it is stripped twice. -/
theorem splitHashes_join_iff (raw : Text) :
    splitHashes (joinWithSpaces (splitHashes raw)) = splitHashes raw ↔
      ∀ field ∈ fieldsFunc raw isHashSeparator, StrippedOnce field := by
  have again : splitHashes (joinWithSpaces (splitHashes raw)) =
      ((splitHashes raw).map stripVkCallURL).filter (· ≠ []) := by
    by_cases empty : splitHashes raw = []
    · rw [empty]
      rfl
    · have clear : ∀ hash ∈ splitHashes raw, ∀ character ∈ hash,
          isHashSeparator character = false :=
        fun hash mem character inside => ((split_splitHashes mem).2 character inside).1
      rw [splitHashes_eq, joinWithSpaces, splitOnP_intercalate (by decide) empty clear]
  constructor
  · intro same field mem
    by_cases empty : stripVkCallURL field = []
    · rw [← stripVkCallURL_eq_self_iff, empty]
      rfl
    · have listed : stripVkCallURL field ∈ splitHashes raw :=
        List.mem_filter.mpr ⟨List.mem_map_of_mem mem, decide_eq_true empty⟩
      rw [again, ← List.filterMap_eq_filter, List.filterMap_map] at same
      have fixed := fixed_of_filterMap_eq_self same _ listed
      exact (stripVkCallURL_eq_self_iff field).mp (Option.guard_eq_some_iff.mp fixed).1
  · intro settled
    have fixed : ∀ hash ∈ splitHashes raw, stripVkCallURL hash = hash := by
      intro hash mem
      obtain ⟨field, inside, rfl⟩ := List.mem_map.mp (List.mem_filter.mp mem).1
      exact (stripVkCallURL_eq_self_iff field).mpr (settled field inside)
    rw [again, List.map_congr_left fixed, List.map_id', List.filter_eq_self]
    exact fun hash mem => decide_eq_true (split_splitHashes mem).1

/-!
### The link
-/

/-- What is read from a link is what was written to it, and no escaped text has blanks. -/
structure NetUrl.Reads (net : NetUrl) (values : List (Text × Text)) (fragment : Text) : Prop where
  parsed : ∃ url, net.parse (linkText net values fragment) = some url ∧
    url.scheme = linkScheme ∧ url.host = linkHostConnect ∧ url.fragment = fragment ∧
    ∀ key, url.query key = (values.lookup key).getD []
  query_solid : ∀ character ∈ net.encode values, isWhitespace character = false
  fragment_solid : ∀ character ∈ net.pathEscape fragment, isWhitespace character = false

/-- What a configuration says about the link. -/
def configLink (m : Text → JsonValue) : CsqttLink where
  host := trim (jsonText m "host".toList)
  peer := trim (jsonText m "peer".toList)
  password := trim (jsonText m "password".toList)
  hashes := splitHashes (jsonText m "hashes".toList)
  name := trim (jsonText m "name".toList)

theorem solid_of_any {text : Text} (none : text.any isWhitespace = false) :
    ∀ character ∈ text, isWhitespace character = false :=
  fun character mem => Bool.not_eq_true _ ▸ List.any_eq_false.mp none character mem

theorem trim_linkText {net : NetUrl} {values : List (Text × Text)} {name : Text}
    (correct : net.Reads values name) :
    trim (linkText net values name) = linkText net values name := by
  have solid : ∀ character ∈ linkText net values name, isWhitespace character = false := by
    have front : (linkScheme ++ "://".toList ++ linkHostConnect ++ ['?']).any isWhitespace =
        false := by decide
    intro character mem
    rcases List.mem_append.mp mem with mem | mem
    · exact (List.mem_append.mp mem).elim (solid_of_any front character)
        (correct.query_solid character)
    · split at mem
      · cases mem
      · rcases List.mem_cons.mp mem with rfl | mem
        · decide
        · exact correct.fragment_solid character mem
  exact trim_eq_self (fun character first => solid character (List.mem_of_mem_head? first))
    (fun character last => solid character (List.mem_of_getLast? last))

/-- A link that was written is read as one with values. -/
theorem parseCsqttLink_linkText {net : NetUrl} {values : List (Text × Text)} {name : Text}
    (correct : net.Reads values name) :
    ∃ url, parseCsqttLink net (linkText net values name) = parseConnectLink url ∧
      url.fragment = name ∧ ∀ key, url.query key = (values.lookup key).getD [] := by
  obtain ⟨url, parsed, scheme, host, fragment, query⟩ := correct.parsed
  refine ⟨url, ?_, fragment, query⟩
  have filled : linkText net values name ≠ [] := List.cons_ne_nil 'c' _
  have folded : equalFold linkScheme linkScheme = true := by decide
  have lower : (trim linkHostConnect).map toLower = linkHostConnect := by decide
  rw [parseCsqttLink, trim_linkText correct]
  rw [if_neg filled, parsed]
  dsimp only
  rw [scheme, host, folded, lower]
  rfl

/-- A link that is made carries what the configuration says. -/
theorem normalizeCsqtt_spec {net : NetUrl} {json : ConfigJson} {raw : Text}
    {m : Text → JsonValue} (read : json.unmarshal (trim raw) = some m)
    (made : normalizeCsqtt net json raw ≠ []) :
    normalizeCsqtt net json raw = linkText net (linkValues m) (configLink m).name ∧
      (configLink m).password ≠ [] ∧ ¬ ((configLink m).host = [] ∧ (configLink m).peer = []) := by
  rw [normalizeCsqtt, read] at made ⊢
  dsimp only at made ⊢
  split at made
  · exact absurd rfl made
  · next begun =>
      rw [if_neg begun]
      split at made
      · exact absurd rfl made
      · next object =>
          rw [if_neg object]
          split at made
          · exact absurd rfl made
          · next stated =>
              rw [if_neg stated]
              exact ⟨rfl, fun none => stated (Or.inl none), fun none => stated (Or.inr none)⟩

theorem lookup_entry (stated key value other : Text) :
    (if stated = [] then [] else [(key, value)]).lookup other =
      if stated = [] ∨ other ≠ key then none else some value := by
  by_cases empty : stated = []
  · rw [if_pos empty, if_pos (Or.inl empty)]
    rfl
  · rw [if_neg empty, List.lookup_cons]
    by_cases same : other = key
    · rw [same, beq_self_eq_true, if_neg (by simp [empty])]
    · rw [beq_false_of_ne same, if_pos (Or.inr same)]
      rfl

/-- Under each key there is its own value. -/
theorem lookup_linkValues (m : Text → JsonValue) :
    ((linkValues m).lookup "host".toList).getD [] = (configLink m).host ∧
      ((linkValues m).lookup "peer".toList).getD [] = (configLink m).peer ∧
      ((linkValues m).lookup "password".toList).getD [] = (configLink m).password ∧
      ((linkValues m).lookup "hashes".toList).getD [] =
        joinWithSpaces (configLink m).hashes := by
  have none (empty : trim (jsonText m "hashes".toList) = []) :
      splitHashes (jsonText m "hashes".toList) = [] := by
    rw [← splitHashes_trim, empty]
    rfl
  simp only [linkValues, configLink, splitHashes_trim]
  generalize trim (jsonText m "host".toList) = host
  generalize trim (jsonText m "peer".toList) = peer
  generalize trim (jsonText m "password".toList) = password
  generalize trim (jsonText m "hashes".toList) = stated at *
  generalize splitHashes (jsonText m "hashes".toList) = hashes at *
  simp only [List.lookup_append, optionalValue, lookup_entry, List.append_assoc]
  refine ⟨?_, ?_, ?_, ?_⟩
  · by_cases empty : host = []
    · simp [List.lookup_cons, empty]
    · simp [List.lookup_cons, empty]
  · by_cases empty : peer = []
    · simp [List.lookup_cons, empty]
    · simp [List.lookup_cons, empty]
  · simp [List.lookup_cons]
  · by_cases empty : stated = []
    · simp [List.lookup_cons, empty, none empty, joinWithSpaces]
    · simp [List.lookup_cons, empty]

/-- The URLs of one link with a fragment that needs no escapes. -/
def NetUrl.single (values : List (Text × Text)) (query name : Text) : NetUrl where
  parse text :=
    if text = linkScheme ++ "://".toList ++ linkHostConnect ++ ['?'] ++ query ++ '#' :: name then
      some {
        scheme := linkScheme
        user := none
        host := linkHostConnect
        path := []
        query := fun key => (values.lookup key).getD []
        fragment := name }
    else none
  encode given := if given = values then query else []
  pathEscape given := given
  splitHostPort _ := none
  joinHostPort host port := host ++ ':' :: port

theorem NetUrl.single_reads {values : List (Text × Text)} {query name : Text} (named : name ≠ [])
    (query_solid : query.any isWhitespace = false) (name_solid : name.any isWhitespace = false) :
    (NetUrl.single values query name).Reads values name := by
  have encoded : (NetUrl.single values query name).encode values = query := if_pos rfl
  refine ⟨⟨_, if_pos ?_, rfl, rfl, rfl, fun _ => rfl⟩, ?_, solid_of_any name_solid⟩
  · rw [linkText, if_neg named, encoded]
    rfl
  · rw [encoded]
    exact solid_of_any query_solid

/-- A configuration with its texts, and the reading of it. -/
def textValues (texts : List (Text × Text)) (key : Text) : JsonValue :=
  match texts.lookup key with
  | some text => .string text
  | none => .other

def ConfigJson.single (raw : Text) (texts : List (Text × Text)) : ConfigJson where
  unmarshal text := if text = raw then some (textValues texts) else none

theorem ConfigJson.single_reads {raw : Text} {texts : List (Text × Text)}
    (solid : trim raw = raw) :
    (ConfigJson.single raw texts).unmarshal (trim raw) = some (textValues texts) := by
  rw [ConfigJson.single, solid]
  exact if_pos rfl

/-- A link that is made from a configuration is read back as what the configuration says exactly
if its hashes are stripped once for all. -/
theorem link_round_trip_iff {net : NetUrl} {json : ConfigJson} {raw : Text} {m : Text → JsonValue}
    (read : json.unmarshal (trim raw) = some m) (made : normalizeCsqtt net json raw ≠ [])
    (correct : net.Reads (linkValues m) (configLink m).name) :
    parseCsqttLink net (normalizeCsqtt net json raw) = .ok (configLink m) ↔
      ∀ field ∈ fieldsFunc (jsonText m "hashes".toList) isHashSeparator, StrippedOnce field := by
  obtain ⟨link, password, address⟩ := normalizeCsqtt_spec read made
  obtain ⟨url, taken, fragment, query⟩ := parseCsqttLink_linkText correct
  obtain ⟨host, peer, secret, hashes⟩ := lookup_linkValues m
  have parsed : parseConnectLink url = .ok { configLink m with
      hashes := splitHashes (joinWithSpaces (configLink m).hashes) } := by
    have settled (text : Text) : trim (trim text) = trim text := trim_trim text
    rw [parseConnectLink, query, query, query, query, host, peer, secret, hashes, fragment]
    simp only [configLink, settled] at password address ⊢
    rw [if_neg password, if_neg address]
  rw [link, taken, parsed, ← splitHashes_join_iff]
  constructor
  · intro same
    exact congrArg CsqttLink.hashes (Except.ok.inj same)
  · intro same
    exact congrArg (fun hashes => Except.ok { configLink m with hashes := hashes }) same

def plainTexts : List (Text × Text) :=
  [("host".toList, "h".toList), ("password".toList, "p".toList),
    ("hashes".toList, "https://vk.com/call/join/abc?t=1 d".toList), ("name".toList, "n".toList)]

def plainConfig : Text :=
  ("\x7b\"host\":\"h\",\"password\":\"p\"," ++
    "\"hashes\":\"https://vk.com/call/join/abc?t=1 d\",\"name\":\"n\"\x7d").toList

def plainNet : NetUrl :=
  .single (linkValues (textValues plainTexts)) "hashes=abc+d&host=h&password=p&v=2".toList
    "n".toList

theorem plain_link_round_trip :
    parseCsqttLink plainNet
        (normalizeCsqtt plainNet (.single plainConfig plainTexts) plainConfig) =
      .ok (configLink (textValues plainTexts)) := by
  have read := @ConfigJson.single_reads plainConfig plainTexts (by decide +kernel)
  have correct : plainNet.Reads (linkValues (textValues plainTexts)) "n".toList :=
    NetUrl.single_reads (by decide) (by decide +kernel) (by decide)
  exact (link_round_trip_iff read (by decide +kernel) correct).mpr (by decide +kernel)

def nestedTexts : List (Text × Text) :=
  [("host".toList, "h".toList), ("password".toList, "p".toList),
    ("hashes".toList, "vk.com/call/join/vk.com/call/join/abc".toList), ("name".toList, "n".toList)]

def nestedConfig : Text :=
  ("\x7b\"host\":\"h\",\"password\":\"p\"," ++
    "\"hashes\":\"vk.com/call/join/vk.com/call/join/abc\",\"name\":\"n\"\x7d").toList

def nestedNet : NetUrl :=
  .single (linkValues (textValues nestedTexts))
    "hashes=vk.com%2Fcall%2Fjoin%2Fabc&host=h&password=p&v=2".toList "n".toList

/-- Of two fronts the second goes when the link is read. -/
theorem nested_link_changed :
    ¬ ∀ {net : NetUrl} {json : ConfigJson} {raw : Text} {m : Text → JsonValue},
      json.unmarshal (trim raw) = some m → normalizeCsqtt net json raw ≠ [] →
      net.Reads (linkValues m) (configLink m).name →
      parseCsqttLink net (normalizeCsqtt net json raw) = .ok (configLink m) := by
  intro always
  have read := @ConfigJson.single_reads nestedConfig nestedTexts (by decide +kernel)
  have correct : nestedNet.Reads (linkValues (textValues nestedTexts)) "n".toList :=
    NetUrl.single_reads (by decide) (by decide +kernel) (by decide)
  have same := always read (by decide +kernel) correct
  exact absurd same (by decide +kernel)

end Csqtt
