/-
Module: Csqtt.Engine.GetConf
Purpose: The registration request: what the engine accepts for its values and how it
  writes them on one line.
Trusted boundary: the peer, the hashes and the obfuscation mode play no part beyond the
  checks shown here
Main exports: configRequest, EngineJson, argumentsFromJson, Arguments.check, GetConf
-/
import Csqtt.Core.Text
import Csqtt.Engine.Idle

namespace Csqtt

def wireProtocolRevision : Text := "CSQTT-WIRE-3".toList

def configRequest (localPort deviceId password : Text) (generationId : U64) (salt : Text)
    (workerId : Nat) (desiredCount : Option Nat) : Text :=
  let desiredCount := desiredCount.elim [] decimal
  "GETCONF:".toList ++ localPort ++ '|' :: deviceId ++ '|' :: password ++
    '|' :: decimal generationId.toNat ++ '|' :: salt ++ '|' :: decimal workerId ++
    '|' :: desiredCount ++ '|' :: wireProtocolRevision

/-- The configuration that the host passes in, with an absent field empty. -/
structure EngineJson where
  peer : Text
  password : Text
  hashes : Text
  vkHashMode : Text
  vkJsToken : Text
  vkAuthMode : Text
  deviceId : Text
  generation : U64
  salt : Text
deriving DecidableEq, Repr

structure Arguments where
  vk : Text
  vkHashMode : Text
  vkJsToken : Text
  peer : Text
  deviceId : Text
  password : Text
  vkAuthMode : Text
  generation : U64
  salt : Text
deriving DecidableEq, Repr

def argumentsFromJson (cfg : EngineJson) : Except String Arguments :=
  if (trim cfg.peer).isEmpty ∨ (trim cfg.password).isEmpty then
    .error "peer and password are required"
  else
    let hashMode :=
      if (trim cfg.vkHashMode).isEmpty then
        if (trim cfg.hashes).isEmpty then "auto_js".toList else "manual".toList
      else (trim cfg.vkHashMode).map Char.toLower
    if hashMode = "auto_js".toList ∧ (trim cfg.vkJsToken).isEmpty then
      .error "auto_js requires vk_js_token"
    else if hashMode ≠ "auto_js".toList ∧ (trim cfg.hashes).isEmpty then
      .error "vk hashes are required"
    else
      .ok {
        vk := cfg.hashes
        vkHashMode := hashMode
        vkJsToken := cfg.vkJsToken
        peer := cfg.peer
        deviceId := if cfg.deviceId.isEmpty then "antinet".toList else cfg.deviceId
        password := cfg.password
        vkAuthMode := if cfg.vkAuthMode.isEmpty then "vkcalls".toList else cfg.vkAuthMode
        generation := cfg.generation
        salt := cfg.salt
      }

/-- What `run` checks before it starts anything. -/
def Arguments.check (arguments : Arguments) : Except String Unit :=
  if arguments.vkAuthMode = "auto_js".toList ∧ arguments.vkHashMode ≠ "auto_js".toList then
    .error "[КЛИЕНТ] Режим авторизации Auto JS требует режим хешей Auto JS"
  else if arguments.peer.isEmpty ∨
      (arguments.vkHashMode ≠ "auto_js".toList ∧ arguments.vk.isEmpty) then
    .error "[КЛИЕНТ] Нужны -peer и хеши VK"
  else if arguments.password.isEmpty then
    .error "[КЛИЕНТ] Нужен -password: WRAP ключ выводится из пароля подключения"
  else
    .ok ()

structure SessionConfig where
  id : Nat
  localPort : Text
  deviceId : Text
  password : Text
  generation : U64
  salt : Text
deriving DecidableEq, Repr

/-- The parameters of the worker's session. The port is the bound socket's, or zero with
the in-process bridge. -/
def Arguments.session (arguments : Arguments) (localPort : U16) (id : Nat) : SessionConfig where
  id := id
  localPort := decimal localPort.toNat
  deviceId := arguments.deviceId
  password := arguments.password
  generation := arguments.generation
  salt := arguments.salt

/-- The payload for what was read of the idle state. -/
def SessionConfig.buildRegistrationPayload (config : SessionConfig)
    (registration : Registration) : Text :=
  configRequest config.localPort config.deviceId config.password registration.generation
    config.salt config.id (some registration.declared)

/-- The values of a request that the engine accepts. -/
structure GetConf where
  localPort : U16
  deviceId : Text
  password : Text
  generation : U64
  salt : Text
  worker : Nat
  count : Nat
  accepted : ∃ arguments : Arguments, arguments.check = .ok () ∧
    arguments.deviceId = deviceId ∧ arguments.password = password ∧ arguments.salt = salt
  counted : 0 < count

namespace GetConf

def encode (values : GetConf) : Text :=
  configRequest (decimal values.localPort.toNat) values.deviceId values.password
    values.generation values.salt values.worker (some values.count)

/-- What the server is to find between the separators. -/
def fields (values : GetConf) : List Text :=
  ["GETCONF:".toList ++ decimal values.localPort.toNat, values.deviceId, values.password,
    decimal values.generation.toNat, values.salt, decimal values.worker, decimal values.count,
    wireProtocolRevision]

/-- The values of the worker's payload. -/
def ofRegistration (arguments : Arguments) (accepted : arguments.check = .ok ())
    (localPort : U16) (id : Nat) (registration : Registration)
    (counted : 0 < registration.declared) : GetConf where
  localPort := localPort
  deviceId := arguments.deviceId
  password := arguments.password
  generation := registration.generation
  salt := arguments.salt
  worker := id
  count := registration.declared
  accepted := ⟨arguments, accepted, rfl, rfl, rfl⟩
  counted := counted

/-- A session's payload is the encoding of accepted values. -/
theorem encode_ofRegistration (arguments : Arguments) (accepted : arguments.check = .ok ())
    (localPort : U16) (id : Nat) (registration : Registration)
    (counted : 0 < registration.declared) :
    (ofRegistration arguments accepted localPort id registration counted).encode =
      (arguments.session localPort id).buildRegistrationPayload registration := by
  rfl

/-- The splitting of the request at its separators gives the fields, and no other accepted
values have the same request. -/
def Unambiguous (values : GetConf) : Prop :=
  values.encode.splitOn '|' = values.fields ∧
    ∀ other : GetConf, other.encode = values.encode → other = values

end GetConf

end Csqtt
