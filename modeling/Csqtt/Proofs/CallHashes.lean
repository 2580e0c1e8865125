/-
Module: Csqtt.Proofs.CallHashes
Purpose: When the engine reads from the joined list of call hashes the list that the helper made.
Trusted boundary: none
Main exports: Plain, normalizeHash_eq_some_iff, HashSource.agree_iff, HashSource.hash_shortened
-/
import Csqtt.Helper.CallHashes
import Mathlib.Data.List.Nodup
import Mathlib.Data.List.TakeWhile

namespace Csqtt

/-!
### Lists of hashes
-/

theorem addHashes_nodup {out : List Text} (distinct : out.Nodup) (hashes : List Text) :
    (addHashes out hashes).Nodup := by
  induction hashes generalizing out with
  | nil => exact distinct
  | cons hash later inductionHypothesis =>
    rw [addHashes]
    split
    · exact inductionHypothesis distinct
    · next fresh =>
        have grown : (out ++ [hash]).Nodup :=
          List.nodup_append.mpr ⟨distinct, List.nodup_singleton _, fun one mem two new same =>
            fresh (List.contains_iff_mem.mpr ((same.trans (List.mem_singleton.mp new)) ▸ mem))⟩
        split
        · exact grown
        · exact inductionHypothesis grown

theorem mem_addHashes {hash : Text} {out hashes : List Text}
    (mem : hash ∈ addHashes out hashes) : hash ∈ out ∨ hash ∈ hashes := by
  induction hashes generalizing out with
  | nil => exact Or.inl mem
  | cons next later inductionHypothesis =>
    have added (mem : hash ∈ out ++ [next]) : hash ∈ out ∨ hash ∈ next :: later :=
      (List.mem_append.mp mem).imp id fun new =>
        List.mem_cons.mpr (Or.inl (List.mem_singleton.mp new))
    rw [addHashes] at mem
    split at mem
    · exact (inductionHypothesis mem).imp id (List.mem_cons_of_mem _)
    · split at mem
      · exact added mem
      · exact (inductionHypothesis mem).elim added fun old => Or.inr (List.mem_cons_of_mem _ old)

theorem firstSeen_sublist (seen hashes : List Text) : (firstSeen seen hashes).Sublist hashes := by
  induction hashes generalizing seen with
  | nil => exact List.Sublist.refl _
  | cons hash later inductionHypothesis =>
    rw [firstSeen]
    split
    · exact (inductionHypothesis seen).cons _
    · exact (inductionHypothesis _).cons_cons _

/-- Where nothing comes twice nothing goes. -/
theorem firstSeen_of_nodup {seen hashes : List Text} (distinct : hashes.Nodup)
    (fresh : ∀ hash ∈ hashes, hash ∉ seen) : firstSeen seen hashes = hashes := by
  induction hashes generalizing seen with
  | nil => rfl
  | cons hash later inductionHypothesis =>
    obtain ⟨apart, distinct⟩ := List.nodup_cons.mp distinct
    rw [firstSeen, if_neg (fresh hash List.mem_cons_self), inductionHypothesis distinct]
    intro other mem old
    rcases List.mem_cons.mp old with rfl | old
    · exact apart mem
    · exact fresh other (List.mem_cons_of_mem _ mem) old

/-- A partial function that gives a list back gives each of its elements back. -/
theorem fixed_of_filterMap_eq_self {α : Type} {f : α → Option α} {items : List α}
    (same : items.filterMap f = items) : ∀ item ∈ items, f item = some item := by
  induction items with
  | nil => exact fun _ mem => absurd mem List.not_mem_nil
  | cons item later inductionHypothesis =>
    cases image : f item with
    | none =>
      rw [List.filterMap_cons_none image] at same
      have longer := List.length_filterMap_le f later
      rw [same] at longer
      exact absurd longer (Nat.not_succ_le_self _)
    | some first =>
      rw [List.filterMap_cons_some image] at same
      obtain ⟨rfl, rest⟩ := List.cons.inj same
      intro other mem
      rcases List.mem_cons.mp mem with rfl | mem
      · exact image
      · exact inductionHypothesis rest other mem

/-- No part of a split has a character at which it was split. -/
theorem splitOnP_clear {p : Char → Bool} {text part : Text} (mem : part ∈ text.splitOnP p) :
    ∀ character ∈ part, p character = false := by
  induction text generalizing part with
  | nil =>
    rw [List.splitOnP_nil] at mem
    rw [List.mem_singleton.mp mem]
    exact fun _ none => absurd none List.not_mem_nil
  | cons head rest inductionHypothesis =>
    rw [List.splitOnP_cons_eq_if_modifyHead] at mem
    split at mem
    · rcases List.mem_cons.mp mem with rfl | mem
      · exact fun _ none => absurd none List.not_mem_nil
      · exact inductionHypothesis mem
    · next clear =>
        obtain ⟨first, later, split⟩ := List.exists_cons_of_ne_nil (List.splitOnP_ne_nil p rest)
        rw [split] at mem inductionHypothesis
        rcases List.mem_cons.mp mem with rfl | mem
        · intro character mem
          rcases List.mem_cons.mp mem with rfl | mem
          · exact Bool.not_eq_true _ ▸ clear
          · exact inductionHypothesis List.mem_cons_self character mem
        · exact inductionHypothesis (List.mem_cons_of_mem _ mem)

/-- Joined parts are split again where no part has a character to split at. -/
theorem splitOnP_intercalate {p : Char → Bool} {separator : Char} (splits : p separator = true)
    {parts : List Text} (nonempty : parts ≠ [])
    (clear : ∀ part ∈ parts, ∀ character ∈ part, p character = false) :
    ([separator].intercalate parts).splitOnP p = parts := by
  induction parts with
  | nil => exact absurd rfl nonempty
  | cons part later inductionHypothesis =>
    have first := clear part List.mem_cons_self
    cases later with
    | nil =>
      rw [List.intercalate_singleton]
      exact List.splitOnP_eq_singleton first
    | cons next later =>
      rw [List.intercalate_cons_cons, List.append_assoc, List.singleton_append,
        List.splitOnP_append_cons_of_forall_mem first separator splits,
        inductionHypothesis (List.cons_ne_nil _ _)
          fun other mem => clear other (List.mem_cons_of_mem _ mem)]

/-!
### What the helper lets through
-/

theorem mem_dropBytes {character : Char} {count : Nat} {text : Text}
    (mem : character ∈ dropBytes count text) : character ∈ text ∨ character = '\ufffd' := by
  induction text generalizing count with
  | nil =>
    cases count with
    | zero => exact Or.inl mem
    | succ count => exact Or.inl mem
  | cons head rest inductionHypothesis =>
    cases count with
    | zero => exact Or.inl mem
    | succ count =>
      rw [dropBytes] at mem
      split at mem
      · exact (inductionHypothesis mem).imp (List.mem_cons_of_mem _) id
      · rcases List.mem_append.mp mem with cut | old
        · exact Or.inr (List.eq_of_mem_replicate cut)
        · exact Or.inl (List.mem_cons_of_mem _ old)

theorem mem_stripFront {character : Char} {text : Text} (mem : character ∈ stripFront text) :
    character ∈ text ∨ character = '\ufffd' := by
  rw [stripFront] at mem
  split at mem
  · exact Or.inl mem
  · exact mem_dropBytes mem

/-- What the helper's list has none of. -/
def Split (hash : Text) : Prop :=
  hash ≠ [] ∧ ∀ character ∈ hash, isHashSeparator character = false ∧ character ≠ '?' ∧
    character ≠ '#'

theorem mem_stripVkCallURL {character : Char} {field : Text}
    (mem : character ∈ stripVkCallURL field) :
    (character ∈ field ∨ character = '\ufffd') ∧ character ≠ '?' ∧ character ≠ '#' := by
  rw [stripVkCallURL] at mem
  split at mem
  · cases mem
  · have kept := (trimMatches_sublist _ _).subset ((trimMatches_sublist _ _).subset mem)
    have marks := List.mem_takeWhile_imp kept
    rw [decide_eq_true_eq] at marks
    exact ⟨(mem_stripFront ((List.takeWhile_sublist _).subset kept)).imp
      (fun old => (trimMatches_sublist _ _).subset old) id, marks⟩

theorem split_splitHashes {raw hash : Text} (mem : hash ∈ splitHashes raw) : Split hash := by
  obtain ⟨made, filled⟩ := List.mem_filter.mp mem
  obtain ⟨field, inside, rfl⟩ := List.mem_map.mp made
  refine ⟨of_decide_eq_true filled, fun character mem => ?_⟩
  have clear := splitOnP_clear (List.mem_filter.mp inside).1
  obtain ⟨origin, marks⟩ := mem_stripVkCallURL mem
  refine ⟨?_, marks⟩
  rcases origin with old | rfl
  · exact clear character old
  · decide

theorem split_uniqHashes {raw : List Text} {hash : Text} (mem : hash ∈ uniqHashes raw) :
    Split hash := by
  rcases mem_addHashes mem with none | mem
  · cases none
  · obtain ⟨chunk, -, mem⟩ := List.mem_flatMap.mp mem
    exact split_splitHashes mem

namespace HashSource

variable {Value : Type} (json : FormJson Value)

/-- Every list is made by `uniqHashes`. -/
theorem hashes_made (source : HashSource) :
    source.hashes json = [] ∨ ∃ raw, source.hashes json = uniqHashes raw := by
  cases source with
  | manual cfg link persisted => exact Or.inr ⟨_, rfl⟩
  | form res =>
    rw [hashes, parseHashFormResult]
    dsimp only
    split
    · exact Or.inl rfl
    · split
      · exact Or.inr ⟨_, rfl⟩
      · exact Or.inr ⟨_, rfl⟩

theorem hashes_split (source : HashSource) : ∀ hash ∈ source.hashes json, Split hash := by
  intro hash mem
  rcases source.hashes_made json with none | ⟨raw, same⟩
  · rw [none] at mem
    cases mem
  · rw [same] at mem
    exact split_uniqHashes mem

theorem hashes_nodup (source : HashSource) : (source.hashes json).Nodup := by
  rcases source.hashes_made json with none | ⟨raw, same⟩
  · rw [none]
    exact List.nodup_nil
  · rw [same]
    exact addHashes_nodup List.nodup_nil _

end HashSource

/-!
### What the engine makes of a hash
-/

/-- What may stand in a hash that both sides take for the same: no semicolon, no carriage return
and no slash, and neither a blank nor a quote or bracket at an end. -/
def Plain (hash : Text) : Prop :=
  (∀ character ∈ hash, character ≠ ';' ∧ character ≠ '\r' ∧ character ≠ '/') ∧
    (∀ character ∈ hash.head?, isWhitespace character = false ∧ isQuote character = false) ∧
    ∀ character ∈ hash.getLast?, isWhitespace character = false ∧ isQuote character = false

theorem eq_slash_of_toLower {character : Char} (lower : character.toLower = '/') :
    character = '/' := by
  delta Char.toLower at lower
  split at lower
  · next upper =>
      -- No capital is thirty-two below the slash.
      have shifted : character.val + 32 = 47 := congrArg Char.val lower
      have sum : (character.val.toNat + 32) % 2 ^ 32 = 47 := congrArg UInt32.toNat shifted
      have least : 65 ≤ character.val.toNat := UInt32.le_iff_toNat_le.mp upper.1
      have most : character.val.toNat ≤ 90 := UInt32.le_iff_toNat_le.mp upper.2
      omega
  · exact lower

/-- A text without slashes begins with no link. -/
theorem not_isPrefixOf_lower {front text : Text} (slash : '/' ∈ front) (clear : '/' ∉ text) :
    front.isPrefixOf (text.map Char.toLower) = false := by
  refine eq_false_of_ne_true fun within => ?_
  have mem := (List.isPrefixOf_iff_prefix.mp within).subset slash
  obtain ⟨character, inside, lower⟩ := List.mem_map.mp mem
  rw [eq_slash_of_toLower lower] at inside
  exact clear inside

theorem afterFirst_of_clear {text : Text} (clear : '/' ∉ text) :
    afterFirst callJoin text = none := by
  have slash : '/' ∈ callJoin := by decide
  induction text with
  | nil => rfl
  | cons character rest inductionHypothesis =>
    rw [afterFirst, if_neg (ne_true_of_eq_false (not_isPrefixOf_lower slash clear))]
    exact inductionHypothesis fun mem => clear (List.mem_cons_of_mem _ mem)

theorem afterFirst_sublist {marker text rest : Text} (found : afterFirst marker text = some rest) :
    rest.Sublist text := by
  induction text with
  | nil =>
    rw [afterFirst] at found
    split at found
    · cases found
      exact List.Sublist.refl _
    · cases found
  | cons character later inductionHypothesis =>
    rw [afterFirst] at found
    split at found
    · cases found
      exact List.drop_sublist _ _
    · exact (inductionHypothesis found).cons _

theorem not_mem_slash_takeWhile (value : Text) :
    '/' ∉ value.takeWhile fun character => !endsHash character := fun mem => by
  have kept := List.mem_takeWhile_imp mem
  cases kept

theorem trimMatches_slash {text : Text} (clear : '/' ∉ text) :
    trimMatches (· = '/') text = text := by
  apply trimMatches_eq_self
  · intro character first
    refine decide_eq_false ?_
    rintro rfl
    exact clear (List.mem_of_mem_head? first)
  · intro character last
    refine decide_eq_false ?_
    rintro rfl
    exact clear (List.mem_of_getLast? last)

/-- A hash is a part of what it was made from, up to a slash and without blanks at its ends. -/
theorem normalizeHash_spec {input hash : Text} (made : normalizeHash input = some hash) :
    ∃ value : Text, value.Sublist (trimMatches isQuote (trim input)) ∧
      hash = trim (value.takeWhile fun character => !endsHash character) := by
  have cut {value : Text} (some :
      (let value := trimMatches (· = '/') (trim (value.takeWhile fun character =>
          !endsHash character))
        if value = [] then none else some value) = some hash) :
      hash = trim (value.takeWhile fun character => !endsHash character) := by
    dsimp only at some
    split at some
    · cases some
    · cases some
      apply trimMatches_slash
      exact fun mem => not_mem_slash_takeWhile value ((trimMatches_sublist _ _).subset mem)
  rw [normalizeHash] at made
  dsimp only at made
  split at made
  · cases made
  · obtain ⟨value, taken, some⟩ := Option.bind_eq_some_iff.mp made
    refine ⟨value, ?_, cut some⟩
    split at taken
    · next rest found =>
        cases taken
        exact afterFirst_sublist found
    · split at taken
      · cases taken
      · cases taken
        exact List.Sublist.refl _

theorem normalizeHash_plain {hash : Text} (split : Split hash) (plain : Plain hash) :
    normalizeHash hash = some hash := by
  obtain ⟨inside, first, last⟩ := plain
  have clear : '/' ∉ hash := fun mem => (inside '/' mem).2.2 rfl
  have blanks : trim hash = hash :=
    trim_eq_self (fun _ mem => (first _ mem).1) (fun _ mem => (last _ mem).1)
  have quotes : trimMatches isQuote hash = hash :=
    trimMatches_eq_self (fun _ mem => (first _ mem).2) (fun _ mem => (last _ mem).2)
  have whole : (hash.takeWhile fun character => !endsHash character) = hash := by
    apply List.takeWhile_eq_self_iff.mpr
    intro character mem
    obtain ⟨-, question, number⟩ := split.2 character mem
    simp [endsHash, question, number, (inside character mem).2.2]
  have http : "http://".toList.isPrefixOf (hash.map Char.toLower) = false :=
    not_isPrefixOf_lower (by decide) clear
  have https : "https://".toList.isPrefixOf (hash.map Char.toLower) = false :=
    not_isPrefixOf_lower (by decide) clear
  simp only [normalizeHash, blanks, quotes, if_neg split.1, afterFirst_of_clear clear, http, https,
    Bool.false_eq_true, or_self, if_false, Option.bind_some, whole, trimMatches_slash clear]

/-- A hash that the engine gives back has no quotes or brackets at its ends, for they would make
it shorter. -/
theorem ends_of_fixed {hash : Text} (fixed : normalizeHash hash = some hash) :
    trimMatches isQuote hash = hash ∧ trim hash = hash := by
  obtain ⟨value, within, same⟩ := normalizeHash_spec fixed
  have blanks : trim hash = hash := by
    rw [same, trim_trim, ← same]
  rw [blanks] at within
  have longest : hash.length ≤ (trimMatches isQuote hash).length := by
    calc hash.length
        = (trim (value.takeWhile fun character => !endsHash character)).length :=
          congrArg List.length same
      _ ≤ (value.takeWhile fun character => !endsHash character).length :=
          (trimMatches_sublist _ _).length_le
      _ ≤ value.length := (List.takeWhile_sublist _).length_le
      _ ≤ (trimMatches isQuote hash).length := within.length_le
  exact ⟨(trimMatches_sublist _ _).eq_of_length_le longest, blanks⟩

theorem plain_of_fixed {hash : Text} (fixed : normalizeHash hash = some hash)
    (clear : ∀ character ∈ hash, isHashDelimiter character = false) : Plain hash := by
  obtain ⟨quotes, blanks⟩ := ends_of_fixed fixed
  refine ⟨fun character mem => ⟨?_, ?_, ?_⟩, fun character first => ⟨?_, ?_⟩,
    fun character last => ⟨?_, ?_⟩⟩
  · rintro rfl
    cases clear ';' mem
  · rintro rfl
    cases clear '\r' mem
  · rintro rfl
    obtain ⟨value, -, same⟩ := normalizeHash_spec fixed
    rw [same] at mem
    exact not_mem_slash_takeWhile value ((trimMatches_sublist _ _).subset mem)
  · rw [← blanks] at first
    exact head?_trim hash character first
  · rw [← quotes] at first
    exact head?_trimMatches character first
  · rw [← blanks] at last
    exact getLast?_trim hash character last
  · rw [← quotes] at last
    exact getLast?_trimMatches character last

/-!
### The list
-/

/-- A hash that the engine reads has no delimiter. -/
theorem parseHashes_clear {raw hash : Text} (mem : hash ∈ parseHashes raw) :
    ∀ character ∈ hash, isHashDelimiter character = false := by
  obtain ⟨part, inside, made⟩ := List.mem_filterMap.mp ((firstSeen_sublist _ _).subset mem)
  obtain ⟨value, within, rfl⟩ := normalizeHash_spec made
  intro character mem
  apply splitOnP_clear inside
  have cut := (List.takeWhile_sublist _).subset ((trimMatches_sublist _ _).subset mem)
  have kept := within.subset cut
  exact (trimMatches_sublist _ _).subset ((trimMatches_sublist _ _).subset kept)

theorem parseHashes_join_iff {hashes : List Text} (split : ∀ hash ∈ hashes, Split hash)
    (distinct : hashes.Nodup) :
    parseHashes (joinHashes hashes) = hashes ↔ ∀ hash ∈ hashes, Plain hash := by
  by_cases nonempty : hashes = []
  · subst nonempty
    exact iff_of_true (by decide) fun _ mem => absurd mem List.not_mem_nil
  constructor
  · intro same
    have clear : ∀ hash ∈ hashes, ∀ character ∈ hash, isHashDelimiter character = false := by
      intro hash mem
      rw [← same] at mem
      exact parseHashes_clear mem
    have parts := splitOnP_intercalate (by decide : isHashDelimiter ',' = true) nonempty clear
    rw [parseHashes, joinHashes, parts] at same
    have longest := congrArg List.length same
    have shorter := List.length_filterMap_le normalizeHash hashes
    have whole := (firstSeen_sublist [] (hashes.filterMap normalizeHash)).eq_of_length_le
      (shorter.trans_eq longest.symm)
    rw [whole] at same
    exact fun hash mem => plain_of_fixed (fixed_of_filterMap_eq_self same hash mem) (clear hash mem)
  · intro plain
    have clear : ∀ hash ∈ hashes, ∀ character ∈ hash, isHashDelimiter character = false := by
      intro hash mem character inside
      obtain ⟨semicolon, line, -⟩ := (plain hash mem).1 character inside
      obtain ⟨separator, -, -⟩ := (split hash mem).2 character inside
      simp [isHashSeparator] at separator
      simp [isHashDelimiter, semicolon, line, separator]
    have parts := splitOnP_intercalate (by decide : isHashDelimiter ',' = true) nonempty clear
    have fixed : hashes.filterMap normalizeHash = hashes :=
      (List.filterMap_congr fun hash mem =>
        normalizeHash_plain (split hash mem) (plain hash mem)).trans List.filterMap_some
    rw [parseHashes, joinHashes, parts, fixed]
    exact firstSeen_of_nodup distinct fun _ _ => List.not_mem_nil

namespace HashSource

/-- The engine reads back the list that the helper made exactly if every hash in it is plain. -/
theorem agree_iff {Value : Type} (json : FormJson Value) (source : HashSource) :
    parseHashes (joinHashes (source.hashes json)) = source.hashes json ↔
      ∀ hash ∈ source.hashes json, Plain hash :=
  parseHashes_join_iff (source.hashes_split json) (source.hashes_nodup json)

/-- The helper keeps what follows a slash inside a hash, the engine does not. -/
theorem hash_shortened :
    ¬ ∀ {Value : Type} (json : FormJson Value) (source : HashSource),
      parseHashes (joinHashes (source.hashes json)) = source.hashes json := by
  intro always
  have same := @always Unit ⟨fun _ => none, fun _ => none, fun _ => []⟩
    (.manual [("SETTING_vkHash1".toList, "abc/def".toList)] [] [])
  exact absurd same (by decide +kernel)

end HashSource

end Csqtt
