/-
Module: Csqtt.Engine.Protocol
Purpose: What the server says on a stream besides packets: the control texts, the notice of a
  restart and the commands that name workers.
Trusted boundary: none
Main exports: ConfigResponse, parseConfigResponse, isControlResponse, isPanelRestartNotice,
  parseStreamCommand
-/
import Csqtt.Engine.Repair
import Csqtt.Engine.SelectiveFec

namespace Csqtt

def panelRestartNotice : List U8 :=
  0xff#8 :: asciiBytes "CSQTT_PANEL_RESTART_V1" ++ [0x00#8, 0x91#8, 0x7d#8, 0x03#8, 0xa8#8]

def streamRepairPrefix : List U8 := 0xff#8 :: asciiBytes "CSQTT_STREAM_REPAIR_V1"
def streamAlivePrefix : List U8 := 0xff#8 :: asciiBytes "CSQTT_STREAM_ALIVE_V1"
def maxStreamWorkers : Nat := 126

inductive ConfigResponse where
  | config (text : String)
  | noConfig
deriving DecidableEq, Repr

/-- The text that the bytes encode. -/
def fromUtf8 (bytes : List U8) : Option String :=
  String.fromUTF8? ⟨(bytes.map UInt8.ofBitVec).toArray⟩

def deniedError (reason : String) : String :=
  if reason = "wrong_password" then "FATAL_AUTH: неверный пароль подключения"
  else if reason = "expired" then "FATAL_AUTH: срок действия пароля истёк"
  else if reason = "device_mismatch" then
    "FATAL_AUTH: пароль привязан к другому устройству — «Отвязать» в панели сервера CSQTT или " ++
      "вставьте Device ID этого клиента в настройку модуля"
  else if reason = "protocol_mismatch" ∨ reason = "invalid_worker_count" then
    "FATAL_PROTOCOL: клиент и сервер используют разные версии протокола; выполните деплой из " ++
      "этой версии приложения"
  else "FATAL_AUTH: доступ запрещён (" ++ reason ++ ")"

def parseConfigResponse (response : List U8) : Except String ConfigResponse :=
  match fromUtf8 response with
  | none => .error "invalid utf-8 sequence"
  | some text =>
      if text = "NOCONF" then .ok .noConfig
      else if "DENIED:".toList.isPrefixOf text.toList then
        .error (deniedError (String.ofList (text.toList.drop 7)))
      else if "TUNCONF:".toList.isPrefixOf text.toList then .ok (.config text)
      else .error "unexpected GETCONF response"

def isPanelRestartNotice (response : List U8) : Bool := response == panelRestartNotice

def controlPrefixes : List (List U8) :=
  [asciiBytes "TUNCONF:", asciiBytes "NOCONF", asciiBytes "DENIED:", asciiBytes "READY_OK",
    asciiBytes "OK:disconnected", streamRepairPrefix, streamAlivePrefix]

def isControlResponse (response : List U8) : Bool :=
  isPanelRestartNotice response || controlPrefixes.any (·.isPrefixOf response)

/-- The ids, two bytes each; none if one is out of range. -/
def streamWorkerIds (desiredCount : U16) : List U8 → Option (List U16)
  | high :: low :: rest =>
      let workerId : U16 := BitVec.ofNat 16 (beValue [high, low])
      if workerId = 0 ∨ desiredCount < workerId then none
      else (streamWorkerIds desiredCount rest).map (workerId :: ·)
  | _ => some []

def parseStreamCommand (payload marker : List U8) : Option StreamRepairCommand :=
  if marker.isPrefixOf payload then
    let rest := payload.drop marker.length
    if rest.length < 11 then none
    else
      let sequence : U64 := BitVec.ofNat 64 (beValue (rest.extract 0 8))
      let desiredCount : U16 := BitVec.ofNat 16 (beValue (rest.extract 8 10))
      let count := (byteAt rest 10).toNat
      let ids := rest.drop 11
      if numbered : sequence = 0 then none
      else if desiredCount = 0 ∨ maxStreamWorkers < desiredCount.toNat ∨ ids.length ≠ count * 2 then
        none
      else
        match streamWorkerIds desiredCount ids with
        | none => none
        | some workerIds =>
            if workerIds.isEmpty then none
            else
              some {
                sequence := sequence
                desiredCount := desiredCount
                workerIds := workerIds
                numbered := numbered }
  else none

def parseStreamRepair (payload : List U8) : Option StreamRepairCommand :=
  parseStreamCommand payload streamRepairPrefix

def parseStreamAlive (payload : List U8) : Option StreamRepairCommand :=
  parseStreamCommand payload streamAlivePrefix

end Csqtt
