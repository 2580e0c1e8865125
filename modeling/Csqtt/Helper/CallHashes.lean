/-
Module: Csqtt.Helper.CallHashes
Purpose: The call hashes as the helper collects them, from the link, the settings and what was
  kept, or from the form, and as the engine reads them from their joined text.
Trusted boundary: the reading and printing of JSON; texts are valid UTF-8
Main exports: splitHashes, stripVkCallURL, collectManualHashes, uniqHashes, FormJson,
  parseHashFormResult, HashSource, normalizeHash, parseHashes
-/
import Csqtt.Core.Text

namespace Csqtt

/-- The helper takes fewer than the engine. -/
def helperMaxVkHashes : Nat := 4

def isHashSeparator (character : Char) : Bool :=
  character = '+' ∨ character = ',' ∨ character = ' ' ∨ character = '\t' ∨ character = '\n'

/-- The parts between the characters that meet the predicate, without the empty ones. -/
def fieldsFunc (text : Text) (p : Char → Bool) : List Text :=
  (text.splitOnP p).filter (· ≠ [])

/-- Outside ASCII two characters have their lower case in it; the others cannot make a difference
to what is compared with ASCII. -/
def toLower (character : Char) : Char :=
  if character = '\u0130' then 'i'
  else if character = '\u212a' then 'k'
  else character.toLower

def callFronts : List Text :=
  ["https://vk.com/call/join/".toList, "http://vk.com/call/join/".toList,
   "https://m.vk.com/call/join/".toList, "http://m.vk.com/call/join/".toList,
   "m.vk.com/call/join/".toList, "vk.com/call/join/".toList,
   "https://vk.ru/call/join/".toList, "http://vk.ru/call/join/".toList,
   "https://m.vk.ru/call/join/".toList, "http://m.vk.ru/call/join/".toList,
   "m.vk.ru/call/join/".toList, "vk.ru/call/join/".toList]

/-- The text from a byte on. Of a character that is cut the bytes left are no text; each is read
as the replacement character. -/
def dropBytes : Nat → Text → Text
  | 0, text => text
  | _ + 1, [] => []
  | count + 1, character :: rest =>
      if character.utf8Size ≤ count + 1 then dropBytes (count + 1 - character.utf8Size) rest
      else List.replicate (character.utf8Size - (count + 1)) '\ufffd' ++ rest

/-- The link's front is looked for in lower case and cut off by its length. -/
def stripFront (text : Text) : Text :=
  match callFronts.find? fun front => front.isPrefixOf (text.map toLower) with
  | none => text
  | some front => dropBytes front.length text

def stripVkCallURL (raw : Text) : Text :=
  let text := trim raw
  if text = [] then []
  else
    let text := (stripFront text).takeWhile fun character => character ≠ '?' ∧ character ≠ '#'
    trimMatches (· = '/') (trim text)

def splitHashes (raw : Text) : List Text :=
  ((fieldsFunc raw isHashSeparator).map stripVkCallURL).filter (· ≠ [])

/-- The hashes that are new, until there are enough. -/
def addHashes (out : List Text) : List Text → List Text
  | [] => out
  | hash :: later =>
      if out.contains hash then addHashes out later
      else if helperMaxVkHashes ≤ (out ++ [hash]).length then out ++ [hash]
      else addHashes (out ++ [hash]) later

def hashSetting (index : Nat) : Text := "SETTING_vkHash".toList ++ decimal index

def collectManualHashes (cfg : List (Text × Text)) (linkHashes : List Text) : List Text :=
  let setting key := (cfg.lookup key).getD []
  let raw := linkHashes
    ++ (List.range helperMaxVkHashes).map (fun index => setting (hashSetting (index + 1)))
    ++ [setting "SETTING_vkHashes".toList]
  addHashes [] (raw.flatMap splitHashes)

/-- How a missing value is printed. -/
def nilText : Text := ['<', 'n', 'i', 'l', '>']

def uniqHashes (raw : List Text) : List Text :=
  addHashes [] ((raw.filter (· ≠ nilText)).flatMap splitHashes)

/-- What is read from a text as an object, which values are objects, and how a value is
printed. -/
structure FormJson (Value : Type) where
  unmarshal : Text → Option (List (Text × Value))
  object : Value → Option (List (Text × Value))
  sprint : Value → Text

def hashField (index : Nat) : Text := "hash".toList ++ decimal index

/-- The form's answer: an object with the values, the values themselves, or a bare text. -/
def parseHashFormResult {Value : Type} (json : FormJson Value) (res : Text) : List Text :=
  let res := trim res
  if res = [] ∨ res.map Char.toUpper = "CANCELLED".toList then []
  else
    match json.unmarshal res with
    | none => uniqHashes [res]
    | some obj =>
        let obj := ((obj.lookup "values".toList).bind json.object).getD obj
        uniqHashes ((List.range helperMaxVkHashes).map fun index =>
          ((obj.lookup (hashField (index + 1))).map json.sprint).getD nilText)

/-- Where the list comes from: the settings, the link's list and what was kept, or the form. -/
inductive HashSource where
  | manual (cfg : List (Text × Text)) (link : Text) (persisted : List Text)
  | form (res : Text)
deriving DecidableEq, Repr

def HashSource.hashes {Value : Type} (json : FormJson Value) : HashSource → List Text
  | .manual cfg link persisted =>
      uniqHashes (collectManualHashes cfg (splitHashes link) ++ persisted)
  | .form res => parseHashFormResult json res

def isHashDelimiter (character : Char) : Bool :=
  character = ',' ∨ character = ';' ∨ character = '\n' ∨ character = '\r' ∨ character = '\t' ∨
    character = ' '

def isQuote (character : Char) : Bool :=
  character = '<' ∨ character = '>' ∨ character = '"' ∨ character = '\''

def callJoin : Text := "/call/join/".toList

/-- What follows the first place at which the text, in lower case, has the marker. -/
def afterFirst (marker : Text) : Text → Option Text
  | [] => if marker.isPrefixOf [] then some [] else none
  | character :: rest =>
      if marker.isPrefixOf ((character :: rest).map Char.toLower) then
        some ((character :: rest).drop marker.length)
      else afterFirst marker rest

def endsHash (character : Char) : Bool := character = '?' ∨ character = '#' ∨ character = '/'

/-- Links of other kinds are not taken. -/
def normalizeHash (input : Text) : Option Text :=
  let value := trimMatches isQuote (trim input)
  if value = [] then none
  else
    let lower := value.map Char.toLower
    let value :=
      match afterFirst callJoin value with
      | some rest => some rest
      | none =>
          if "http://".toList.isPrefixOf lower ∨ "https://".toList.isPrefixOf lower then none
          else some value
    value.bind fun value =>
      let value := value.takeWhile fun character => !endsHash character
      let value := trimMatches (· = '/') (trim value)
      if value = [] then none else some value

/-- Every hash once, where it is first. -/
def firstSeen (seen : List Text) : List Text → List Text
  | [] => []
  | hash :: later =>
      if hash ∈ seen then firstSeen seen later else hash :: firstSeen (hash :: seen) later

def parseHashes (raw : Text) : List Text :=
  firstSeen [] ((raw.splitOnP isHashDelimiter).filterMap normalizeHash)

/-- As the helper hands the list over. -/
def joinHashes (hashes : List Text) : Text := [','].intercalate hashes

end Csqtt
