/-
Module: Csqtt.Engine.TurnEndpoint
Purpose: The addresses of relays as they stand in credentials: how they are read, which way to the
  relay they name in each mode, and which of them a session takes.
Trusted boundary: the recognition of literal addresses; a counter of attempts does not come to
  its end
Main exports: TurnTransportMode, TurnWireTransport, TurnEndpoint, parseTurnUri, parseAuthority,
  resolveTurnEndpoints, serverAddresses, selectTurnAddress, turnPathKey
-/
import Csqtt.Core.Text
import Csqtt.Core.Word

namespace Csqtt

/-!
### Texts
-/

def toAsciiLowercase (text : Text) : Text := text.map Char.toLower

def eqIgnoreAsciiCase (first second : Text) : Bool :=
  toAsciiLowercase first = toAsciiLowercase second

/-- The text before the first place at which the pattern stands, and the text behind it. -/
def splitOnce (pattern : Text) : Text → Option (Text × Text)
  | [] => if pattern.isPrefixOf [] then some ([], []) else none
  | character :: rest =>
      if pattern.isPrefixOf (character :: rest) then
        some ([], (character :: rest).drop pattern.length)
      else (splitOnce pattern rest).map fun halves => (character :: halves.1, halves.2)

/-- The text before the last place of the character, and the text behind it. -/
def rsplitOnce (separator : Char) (text : Text) : Option (Text × Text) :=
  (splitOnce [separator] text.reverse).map fun halves => (halves.2.reverse, halves.1.reverse)

/-- A sign may stand in front of the digits. -/
def parseU16 (text : Text) : Option U16 :=
  let digits := if text.head? = some '+' then text.tail else text
  if digits = [] ∨ !digits.all Char.isDigit then none
  else
    let number := Nat.ofDigitChars 10 digits 0
    if number < 65536 then some (BitVec.ofNat 16 number) else none

/-!
### Endpoints
-/

inductive TurnTransportMode where
  | udp
  | tcpTls
deriving DecidableEq, Repr

inductive TurnWireTransport where
  | udp
  | tcp
  | tls
deriving DecidableEq, Repr

structure TurnEndpoint where
  host : Text
  port : U16
  transport : TurnWireTransport
deriving DecidableEq, Repr

inductive TurnScheme where
  | turn
  | turns
  | bare
deriving DecidableEq, Repr

inductive UriTransport where
  | udp
  | tcp
deriving DecidableEq, Repr

namespace TurnEndpoint

def socketAuthority (self : TurnEndpoint) : Text :=
  if ':' ∈ self.host then '[' :: self.host ++ ']' :: ':' :: decimal self.port.toNat
  else self.host ++ ':' :: decimal self.port.toNat

def tlsServerName (isIpAddr : Text → Bool) (self : TurnEndpoint) : Except String Text :=
  if self.transport ≠ .tls then .error "TURN endpoint is not TLS"
  else if isIpAddr self.host then .error "TURN TLS endpoint requires a DNS hostname"
  else .ok self.host

end TurnEndpoint

/-- The transport after another parameter of the query. -/
def takeParameter (uriTransport : Option UriTransport) (parameter : Text) :
    Except String (Option UriTransport) :=
  let halves := (splitOnce ['='] parameter).getD (parameter, [])
  if eqIgnoreAsciiCase halves.1 "transport".toList then
    let value := toAsciiLowercase halves.2
    let parsed : Except String UriTransport :=
      if value = "udp".toList then .ok .udp
      else if value = "tcp".toList then .ok .tcp
      else .error "TURN URI contains an unsupported transport"
    parsed.bind fun parsed =>
      if uriTransport.isSome then .error "TURN URI contains duplicate transport parameters"
      else .ok (some parsed)
  else .ok uriTransport

def turnsPrefix : Text := "turns:".toList

def turnPrefix : Text := "turn:".toList

/-- The scheme, and the text behind it. -/
def splitScheme (value : Text) : TurnScheme × Text :=
  let lower := toAsciiLowercase value
  if turnsPrefix.isPrefixOf lower then (.turns, value.drop turnsPrefix.length)
  else if turnPrefix.isPrefixOf lower then (.turn, value.drop turnPrefix.length)
  else (.bare, value)

def parseTurnUri (value : Text) : Except String (TurnScheme × Text × Option UriTransport) :=
  let value := trim value
  if value = [] then .error "TURN endpoint is empty"
  else
    let schemed := splitScheme value
    let halves := (splitOnce ['?'] schemed.2).getD (schemed.2, [])
    if halves.1 = [] then .error "TURN authority is empty"
    else
      let parameters := (halves.2.splitOn '&').filter (· ≠ [])
      (parameters.foldlM takeParameter none).bind fun uriTransport =>
        if schemed.1 = .turns ∧ uriTransport = some .udp then .error "turns URI cannot use UDP"
        else .ok (schemed.1, halves.1, uriTransport)

def isSupportedTurnUri (value : Text) : Bool := (parseTurnUri value).isOk

def defaultPort : TurnScheme → U16
  | .turns => 5349
  | .turn | .bare => 3478

def readPort (port : Text) : Except String U16 :=
  match parseU16 port with
  | some port => .ok port
  | none => .error "TURN port is invalid"

def parseAuthority (value : Text) (scheme : TurnScheme) : Except String (Text × U16) :=
  match value with
  | '[' :: rest =>
      match splitOnce [']', ':'] rest with
      | none =>
          if rest.getLast? = some ']' then .ok (rest.dropLast, defaultPort scheme)
          else .error "TURN IPv6 address is malformed"
      | some (host, port) => (readPort port).map fun port => (host, port)
  | value =>
      if 1 < value.count ':' then .error "TURN IPv6 address must use brackets"
      else
        match rsplitOnce ':' value with
        | some (host, port) =>
            if host = [] then .error "TURN host is empty"
            else (readPort port).map fun port => (host, port)
        | none => .ok (value, defaultPort scheme)

/-- The way to the relay that the mode takes. -/
def wireTransport (scheme : TurnScheme) (uriTransport : Option UriTransport) :
    TurnTransportMode → Except String TurnWireTransport
  | .udp =>
      match scheme, uriTransport with
      | .turns, _ => .error "TURN TLS endpoint cannot be used in UDP mode"
      | _, some .tcp => .error "TURN TCP endpoint cannot be used in UDP mode"
      | _, _ => .ok .udp
  | .tcpTls =>
      match scheme, uriTransport with
      | _, some .udp => .error "TURN UDP endpoint cannot be used in TCP mode"
      | .turns, _ => .ok .tls
      | _, some .tcp => .ok .tcp
      | _, none => .ok .tcp

/-- A setting that is not blank. -/
def overriding (setting : Option Text) : Option Text :=
  (setting.filter fun value => trim value ≠ []).map trim

def choosePort (overridePort : Option Text) (originalPort : U16) : Except String U16 :=
  match overriding overridePort with
  | some port => readPort port
  | none => .ok originalPort

def resolveTurnEndpoints (value : Text) (overrideHost overridePort : Option Text)
    (mode : TurnTransportMode) : Except String (List TurnEndpoint) := do
  let (scheme, authority, uriTransport) ← parseTurnUri value
  let (originalHost, originalPort) ← parseAuthority authority scheme
  let host := (overriding overrideHost).getD originalHost
  let port ← choosePort overridePort originalPort
  if host = [] then .error "TURN host is empty"
  else
    let transport ← wireTransport scheme uriTransport mode
    return [{ host := host, port := port, transport := transport }]

/-!
### The choice of a session
-/

/-- The addresses that are kept of the credentials. -/
def serverAddresses (urls : List Text) : Except String (List Text) :=
  let addresses := (urls.map trim).filter isSupportedTurnUri
  if addresses = [] then .error "no valid TURN addresses found" else .ok addresses

/-- What a session knows of the relay: the number of its worker, how often the worker tried, and
the settings. -/
structure TurnSettings where
  id : Nat
  turnEndpointCursor : Nat
  turnHost : Option Text
  turnPort : Option Text
  turnTransport : TurnTransportMode
deriving DecidableEq, Repr

namespace TurnSettings

def resolve (self : TurnSettings) (address : Text) : Except String (List TurnEndpoint) :=
  resolveTurnEndpoints address self.turnHost self.turnPort self.turnTransport

end TurnSettings

def turnEndpointIndex (id cursor endpointCount : Nat) : Nat :=
  (id % endpointCount + cursor % endpointCount) % endpointCount

/-- The first address that can be used, from the worker's place on and around. -/
def selectTurnAddress (addresses : List Text) (config : TurnSettings) : Except String Text :=
  let start := turnEndpointIndex config.id config.turnEndpointCursor addresses.length
  let around := (List.range addresses.length).filterMap fun offset =>
    addresses[(start + offset) % addresses.length]?
  match around.find? fun address => (config.resolve address).isOk with
  | some address => .ok address
  | none => .error "Нет TURN endpoint для выбранного транспорта"

def turnPathKey (address : Text) (config : TurnSettings) : Except String Text :=
  match config.resolve address with
  | .error _ => .error "TURN endpoint is invalid"
  | .ok (endpoint :: _) => .ok endpoint.socketAuthority
  | .ok [] => .error "TURN endpoint list is empty"

end Csqtt
