/-
Module: Csqtt.Helper.CsqttLink
Purpose: The link that a configuration is normalised to, and the reading of a link.
Trusted boundary: the escaping and the parsing of URLs, and the reading of JSON; texts are valid
  UTF-8
Main exports: LinkUrl, NetUrl, ConfigJson, CsqttLink, parseCsqttLink, linkValues, normalizeCsqtt
-/
import Csqtt.Helper.CallHashes

namespace Csqtt

def linkScheme : Text := "csqtt".toList
def linkHostConnect : Text := "connect".toList

/-- What is looked at of a parsed URL. -/
structure LinkUrl where
  scheme : Text
  user : Option (Text × Option Text)
  host : Text
  path : Text
  query : Text → Text
  fragment : Text

/-- The URLs of the standard library. -/
structure NetUrl where
  parse : Text → Option LinkUrl
  encode : List (Text × Text) → Text
  pathEscape : Text → Text
  splitHostPort : Text → Option Text
  joinHostPort : Text → Text → Text

/-- A value of an object: a text, or none. -/
inductive JsonValue where
  | string (text : Text)
  | other
deriving DecidableEq, Repr

structure ConfigJson where
  unmarshal : Text → Option (Text → JsonValue)

structure CsqttLink where
  host : Text
  peer : Text
  password : Text
  hashes : List Text
  name : Text
deriving DecidableEq, Repr

/-- Why a link is not taken. What is wrong with a URL is not told here. -/
inductive LinkError where
  | parse (raw : Text)
  | text (message : String)
deriving DecidableEq, Repr

/-- Two characters outside ASCII fold to one in it; the others cannot make a difference to what
is compared with ASCII. -/
def foldCase (character : Char) : Char :=
  if character = '\u017f' then 's'
  else if character = '\u212a' then 'k'
  else character.toLower

def equalFold (text ascii : Text) : Bool := text.map foldCase == ascii.map foldCase

def CsqttLink.peerAddr (net : NetUrl) (self : CsqttLink) : Text :=
  let peer := trim self.peer
  let host := trim self.host
  if peer.contains ':' then peer
  else if host = [] then peer
  else if peer = [] then host
  else net.joinHostPort host peer

/-- The link that carries its values as a query. -/
def parseConnectLink (url : LinkUrl) : Except LinkError CsqttLink :=
  let link : CsqttLink := {
    host := trim (url.query "host".toList)
    peer := trim (url.query "peer".toList)
    password := trim (url.query "password".toList)
    hashes := splitHashes (url.query "hashes".toList)
    name := trim url.fragment }
  if link.password = [] then .error (.text "connect: missing password=")
  else if link.host = [] ∧ link.peer = [] then .error (.text "connect: missing host=/peer=")
  else .ok link

/-- The host and the password that the user part of an older link gives. -/
def legacyUser : Option (Text × Option Text) → Text × Text
  | none => ([], [])
  | some (username, some password) => (username, password)
  | some (username, none) => ([], username)

def parseLegacyLink (net : NetUrl) (url : LinkUrl) : Except LinkError CsqttLink :=
  let user := legacyUser url.user
  let address := trim url.host
  let extra := url.query "hashes".toList
  let link : CsqttLink := {
    host :=
      if address = [] then user.1
      else
        match net.splitHostPort address with
        | some host => host
        | none => address
    peer := address
    password := user.2
    hashes := if extra = [] then [] else splitHashes extra
    name := trim url.fragment }
  if link.password = [] ∨ link.peerAddr net = [] then
    .error (.text "legacy link needs password@host:port")
  else .ok link

def parseCsqttLink (net : NetUrl) (raw : Text) : Except LinkError CsqttLink :=
  let s := trim raw
  if s = [] then .error (.text "empty link")
  else
    match net.parse s with
    | none => .error (.parse s)
    | some url =>
        if !equalFold url.scheme linkScheme then .error (.text "not a csqtt:// link")
        else if (trim url.host).map toLower = linkHostConnect ∨
            url.host = [] ∧ equalFold (trimMatches (· = '/') url.path) linkHostConnect then
          parseConnectLink url
        else parseLegacyLink net url

/-- The text at a key, if there is one. -/
def jsonText (m : Text → JsonValue) (key : Text) : Text :=
  match m key with
  | .string text => text
  | .other => []

def optionalValue (key value : Text) : List (Text × Text) :=
  if value = [] then [] else [(key, value)]

def joinWithSpaces (hashes : List Text) : Text := [' '].intercalate hashes

/-- The values that a configuration's link carries. -/
def linkValues (m : Text → JsonValue) : List (Text × Text) :=
  let str key := trim (jsonText m key)
  [("v".toList, "2".toList)] ++ optionalValue "host".toList (str "host".toList) ++
    optionalValue "peer".toList (str "peer".toList) ++
    [("password".toList, str "password".toList)] ++
    (if str "hashes".toList = [] then []
      else [("hashes".toList, joinWithSpaces (splitHashes (str "hashes".toList)))])

def linkText (net : NetUrl) (values : List (Text × Text)) (name : Text) : Text :=
  linkScheme ++ "://".toList ++ linkHostConnect ++ ['?'] ++ net.encode values ++
    (if name = [] then [] else '#' :: net.pathEscape name)

def normalizeCsqtt (net : NetUrl) (json : ConfigJson) (raw : Text) : Text :=
  let s := trim raw
  if s = [] ∨ (linkScheme ++ "://".toList).isPrefixOf (s.map toLower) then []
  else if ['\x7b'].isPrefixOf s = false then []
  else
    match json.unmarshal s with
    | none => []
    | some m =>
        let str key := trim (jsonText m key)
        if str "password".toList = [] ∨ str "host".toList = [] ∧ str "peer".toList = [] then []
        else linkText net (linkValues m) (str "name".toList)

end Csqtt
