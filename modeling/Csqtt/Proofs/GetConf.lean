/-
Module: Csqtt.Proofs.GetConf
Purpose: Which registration requests can be read back.
Trusted boundary: none
Main exports: getconf_unambiguous, getconf_ambiguous
-/
import Csqtt.Core.Delimited
import Csqtt.Engine.GetConf

namespace Csqtt

namespace GetConf

open Delimited

/-- The free texts contain no separator. -/
def Separable (values : GetConf) : Prop :=
  '|' ∉ values.deviceId ∧ '|' ∉ values.password ∧ '|' ∉ values.salt

theorem eight_intercalate (opening localPort deviceId password generation salt worker count
    revision : Text) :
    opening ++ localPort ++ '|' :: deviceId ++ '|' :: password ++ '|' :: generation ++
        '|' :: salt ++ '|' :: worker ++ '|' :: count ++ '|' :: revision =
      ['|'].intercalate
        [opening ++ localPort, deviceId, password, generation, salt, worker, count, revision] := by
  simp only [List.intercalate_cons_cons, List.intercalate_singleton, List.append_assoc,
    List.cons_append, List.nil_append]

theorem encode_eq_intercalate (values : GetConf) :
    values.encode = ['|'].intercalate values.fields :=
  eight_intercalate ..

theorem fields_ne_nil (values : GetConf) : values.fields ≠ [] := by
  simp [fields]

theorem separator_not_mem_decimal (n : Nat) : '|' ∉ decimal n :=
  not_mem_toDigits (by decide) n

/-- The prefix, the numbers and the revision never contain the separator. -/
theorem separator_not_mem_fields (values : GetConf) :
    (∀ field ∈ values.fields, '|' ∉ field) ↔ values.Separable := by
  have revision : '|' ∉ wireProtocolRevision := by decide
  simp [fields, Separable, revision, separator_not_mem_decimal]

theorem eq_of_fields_eq {values other : GetConf} (same : other.fields = values.fields) :
    other = values := by
  obtain ⟨localPort, deviceId, password, generation, salt, worker, count⟩ := values
  simp only [fields, List.cons.injEq, List.append_cancel_left_eq] at same
  obtain ⟨port, device, secret, gen, salts, worker', count', -⟩ := same
  have ports : other.localPort = localPort := BitVec.eq_of_toNat_eq (toDigits_inj port)
  have generations : other.generation = generation := BitVec.eq_of_toNat_eq (toDigits_inj gen)
  have workers : other.worker = worker := toDigits_inj worker'
  have counts : other.count = count := toDigits_inj count'
  cases other
  subst ports generations workers counts device secret salts
  rfl

/-- The split gives the fields back exactly when the free texts hold no separator. -/
theorem splitOn_encode_iff (values : GetConf) :
    values.encode.splitOn '|' = values.fields ↔ values.Separable := by
  rw [encode_eq_intercalate, splitOn_intercalate_iff values.fields_ne_nil,
    separator_not_mem_fields]

/-- No other values, with separators in their texts or not, have the same request. -/
theorem Separable.encode_inj {values other : GetConf} (separable : values.Separable)
    (same : other.encode = values.encode) : other = values := by
  rw [encode_eq_intercalate, encode_eq_intercalate] at same
  have clear := values.separator_not_mem_fields.mpr separable
  exact eq_of_fields_eq (eq_of_intercalate_eq values.fields_ne_nil clear rfl same)

end GetConf

/-- A request is unambiguous exactly when the device id, the password and the salt contain
no separator. -/
theorem getconf_unambiguous (values : GetConf) :
    values.Unambiguous ↔
      '|' ∉ values.deviceId ∧ '|' ∉ values.password ∧ '|' ∉ values.salt := by
  constructor
  · intro unambiguous
    exact values.splitOn_encode_iff.mp unambiguous.1
  · intro separable
    constructor
    · exact values.splitOn_encode_iff.mpr separable
    · intro other same
      exact GetConf.Separable.encode_inj separable same

/-- A configuration of the host. -/
def pipedJson (deviceId password : Text) : EngineJson where
  peer := ['v', 'p', 'n']
  password := password
  hashes := ['h']
  vkHashMode := []
  vkJsToken := []
  vkAuthMode := []
  deviceId := deviceId
  generation := 7
  salt := ['s']

def pipedArguments (deviceId password : Text) : Arguments where
  vk := ['h']
  vkHashMode := "manual".toList
  vkJsToken := []
  peer := ['v', 'p', 'n']
  deviceId := deviceId
  password := password
  vkAuthMode := "vkcalls".toList
  generation := 7
  salt := ['s']

def pipedRegistration : Registration where
  generation := 7
  offset := 0
  declared := 1

/-- Two configurations that differ in where the separator stands are both accepted, and
their sessions send the same line. -/
theorem getconf_ambiguous :
    argumentsFromJson (pipedJson ['a', '|', 'b'] ['c']) =
        .ok (pipedArguments ['a', '|', 'b'] ['c']) ∧
      argumentsFromJson (pipedJson ['a'] ['b', '|', 'c']) =
        .ok (pipedArguments ['a'] ['b', '|', 'c']) ∧
      ∃ first second : GetConf,
        ((pipedArguments ['a', '|', 'b'] ['c']).session 0 1).buildRegistrationPayload
          pipedRegistration = first.encode ∧
        ((pipedArguments ['a'] ['b', '|', 'c']).session 0 1).buildRegistrationPayload
          pipedRegistration = second.encode ∧
        first.encode = second.encode ∧ first ≠ second := by
  refine ⟨by decide, by decide, ?_⟩
  let first := GetConf.ofRegistration (pipedArguments ['a', '|', 'b'] ['c']) (by decide) 0 1
    pipedRegistration (by decide)
  let second := GetConf.ofRegistration (pipedArguments ['a'] ['b', '|', 'c']) (by decide) 0 1
    pipedRegistration (by decide)
  refine ⟨first, second, ?_, ?_, ?_, ?_⟩
  · exact (GetConf.encode_ofRegistration _ _ 0 1 _ _).symm
  · exact (GetConf.encode_ofRegistration _ _ 0 1 _ _).symm
  · decide
  · intro same
    exact absurd (congrArg GetConf.deviceId same) (by decide)

end Csqtt
