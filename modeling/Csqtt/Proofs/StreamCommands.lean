/-
Module: Csqtt.Proofs.StreamCommands
Purpose: The parser of the commands that name workers accepts their grammar and nothing else.
Trusted boundary: none
Main exports: StreamRepairCommand.WellFormed, StreamRepairCommand.encode,
  parseStreamCommand_eq_some_iff
-/
import Csqtt.Engine.Protocol

namespace Csqtt

namespace StreamRepairCommand

/-- The bytes of a command behind its marker. -/
def encode (self : StreamRepairCommand) : List U8 :=
  beBytes 8 self.sequence.toNat ++ beBytes 2 self.desiredCount.toNat ++
    BitVec.ofNat 8 self.workerIds.length :: self.workerIds.flatMap (beBytes 2 ·.toNat)

/-- What a command may say, beside a sequence that is not zero. -/
structure WellFormed (command : StreamRepairCommand) : Prop where
  desired : 1 ≤ command.desiredCount.toNat ∧ command.desiredCount.toNat ≤ maxStreamWorkers
  some : command.workerIds ≠ []
  counted : command.workerIds.length ≤ 255
  named : ∀ worker ∈ command.workerIds,
    1 ≤ worker.toNat ∧ worker.toNat ≤ command.desiredCount.toNat

end StreamRepairCommand

section Ids

variable {desired : U16}

theorem streamWorkerIds_encode {ids : List U16}
    (named : ∀ worker ∈ ids, 1 ≤ worker.toNat ∧ worker.toNat ≤ desired.toNat) :
    streamWorkerIds desired (ids.flatMap (beBytes 2 ·.toNat)) = some ids := by
  induction ids with
  | nil => rfl
  | cons worker ids inductionHypothesis =>
      have back : BitVec.ofNat 16 (beValue (beBytes 2 worker.toNat)) = worker :=
        ofNat_beValue_beBytes worker rfl
      have range := named worker List.mem_cons_self
      have inside : ¬ (worker = 0 ∨ desired < worker) := by
        rintro (rfl | above)
        · exact absurd range.1 (by decide)
        · exact absurd range.2 (Nat.not_le_of_lt above)
      rw [beBytes, beBytes, beBytes] at back
      rw [List.flatMap_cons, beBytes, beBytes, beBytes, List.cons_append, List.cons_append,
        List.nil_append, streamWorkerIds, back, if_neg inside,
        inductionHypothesis fun other mem => named other (List.mem_cons_of_mem _ mem)]
      rfl

/-- Bytes that are read as ids are the bytes of these ids, which are in range. -/
theorem encode_of_streamWorkerIds : ∀ {bytes : List U8} {ids : List U16},
    bytes.length % 2 = 0 → streamWorkerIds desired bytes = some ids →
      bytes = ids.flatMap (beBytes 2 ·.toNat) ∧
        ∀ worker ∈ ids, 1 ≤ worker.toNat ∧ worker.toNat ≤ desired.toNat
  | [], ids, _, parsed => by
      cases parsed
      exact ⟨rfl, fun worker mem => absurd mem List.not_mem_nil⟩
  | [_], ids, even, _ => by simp at even
  | high :: low :: rest, ids, even, parsed => by
      have shorter : rest.length % 2 = 0 := by
        rw [List.length_cons, List.length_cons] at even
        omega
      generalize read : (BitVec.ofNat 16 (beValue [high, low]) : U16) = workerId at parsed
      rw [streamWorkerIds, read] at parsed
      split at parsed
      · cases parsed
      · next inside =>
          obtain ⟨later, parsedLater, rfl⟩ := Option.map_eq_some_iff.mp parsed
          obtain ⟨bytes, named⟩ := encode_of_streamWorkerIds shorter parsedLater
          have value : workerId.toNat = beValue [high, low] := by
            rw [← read, BitVec.toNat_ofNat]
            have small : beValue [high, low] < 256 ^ 2 := beValue_lt [high, low]
            exact Nat.mod_eq_of_lt (small.trans_eq (by decide))
          have two : beBytes 2 workerId.toNat = [high, low] := by
            rw [value]
            exact beBytes_beValue [high, low]
          push Not at inside
          refine ⟨?_, ?_⟩
          · rw [List.flatMap_cons, two, ← bytes]
            rfl
          · intro worker mem
            rcases List.mem_cons.mp mem with rfl | mem
            · exact ⟨Nat.pos_of_ne_zero fun zero => inside.1 (BitVec.eq_of_toNat_eq zero),
                Nat.le_of_not_lt inside.2⟩
            · exact named worker mem

end Ids

section Body

variable {rest : List U8} {command : StreamRepairCommand}

theorem length_encode_command (command : StreamRepairCommand) :
    command.encode.length = 11 + command.workerIds.length * 2 := by
  have ids : (command.workerIds.flatMap (beBytes 2 ·.toNat)).length =
      command.workerIds.length * 2 := by
    simp [List.length_flatMap]
  rw [StreamRepairCommand.encode, List.length_append, List.length_append, List.length_cons, ids,
    length_beBytes, length_beBytes]
  omega

/-- The fields of a command stand where the parser looks for them. -/
theorem encode_fields (command : StreamRepairCommand) :
    command.encode.extract 0 8 = beBytes 8 command.sequence.toNat ∧
      command.encode.extract 8 10 = beBytes 2 command.desiredCount.toNat ∧
      byteAt command.encode 10 = BitVec.ofNat 8 command.workerIds.length ∧
      command.encode.drop 11 = command.workerIds.flatMap (beBytes 2 ·.toNat) := by
  refine ⟨?_, ?_, ?_, ?_⟩
  · simp [StreamRepairCommand.encode]
  · simp [StreamRepairCommand.encode]
  · rfl
  · rfl

/-- Eleven bytes and more are their fields. -/
theorem eq_fields (long : 11 ≤ rest.length) :
    rest = beBytes 8 (beValue (rest.extract 0 8)) ++ beBytes 2 (beValue (rest.extract 8 10)) ++
      byteAt rest 10 :: rest.drop 11 := by
  have first : (rest.extract 0 8).length = 8 := by
    simp only [List.extract_eq_take_drop, List.length_take, List.length_drop]
    omega
  have second : (rest.extract 8 10).length = 2 := by
    simp only [List.extract_eq_take_drop, List.length_take, List.length_drop]
    omega
  have firstBack := beBytes_beValue (rest.extract 0 8)
  have secondBack := beBytes_beValue (rest.extract 8 10)
  rw [first] at firstBack
  rw [second] at secondBack
  have last : byteAt rest 10 :: rest.drop 11 = rest.drop 10 := by
    rw [byteAt, List.getD_eq_getElem?_getD, List.getElem?_eq_getElem (Nat.lt_of_succ_le long),
      Option.getD_some]
    exact List.getElem_cons_drop (Nat.lt_of_succ_le long)
  rw [firstBack, secondBack, last, List.extract_eq_take_drop, List.extract_eq_take_drop,
    List.drop_zero, List.append_assoc]
  have rejoin : (rest.drop 8).take 2 ++ rest.drop 10 = rest.drop 8 := by
    have split := List.take_append_drop 2 (rest.drop 8)
    rw [List.drop_drop] at split
    exact split
  exact ((congrArg (rest.take 8 ++ ·) rejoin).trans (List.take_append_drop 8 rest)).symm

theorem beValue_extract_lt (rest : List U8) (start count : Nat) :
    beValue (rest.extract start (start + count)) < 256 ^ count := by
  refine (beValue_lt _).trans_le (Nat.pow_le_pow_right (by decide) ?_)
  rw [List.extract_eq_take_drop, List.length_take]
  omega

/-- What the parser reads behind the marker. -/
theorem parseStreamCommand_append (marker : List U8) :
    parseStreamCommand (marker ++ rest) marker = some command ↔
      11 ≤ rest.length ∧ command.sequence = BitVec.ofNat 64 (beValue (rest.extract 0 8)) ∧
        command.desiredCount = BitVec.ofNat 16 (beValue (rest.extract 8 10)) ∧
        1 ≤ command.desiredCount.toNat ∧ command.desiredCount.toNat ≤ maxStreamWorkers ∧
        (rest.drop 11).length = (byteAt rest 10).toNat * 2 ∧
        streamWorkerIds command.desiredCount (rest.drop 11) = some command.workerIds ∧
        command.workerIds ≠ [] := by
  have begins : marker.isPrefixOf (marker ++ rest) := by
    rw [List.isPrefixOf_iff_prefix]
    exact List.prefix_append _ _
  rw [parseStreamCommand, if_pos begins, List.drop_left]
  dsimp only
  constructor
  · intro accepted
    split at accepted
    · cases accepted
    · next long =>
        split at accepted
        · cases accepted
        · next numbered =>
            split at accepted
            · cases accepted
            · next fields =>
                split at accepted
                · cases accepted
                · next ids parsed =>
                    split at accepted
                    · cases accepted
                    · next some =>
                        cases accepted
                        push Not at fields
                        refine ⟨Nat.le_of_not_lt long, rfl, rfl, ?_, fields.2.1, fields.2.2, parsed,
                          fun none => some (List.isEmpty_iff.mpr none)⟩
                        exact Nat.pos_of_ne_zero fun zero => fields.1 (BitVec.eq_of_toNat_eq zero)
  · rintro ⟨long, sequence, desired, least, most, exact, parsed, some⟩
    have numbered : ¬ (BitVec.ofNat 64 (beValue (rest.extract 0 8)) : U64) = 0 :=
      sequence ▸ command.numbered
    have fields : ¬ (command.desiredCount = 0 ∨ maxStreamWorkers < command.desiredCount.toNat ∨
        (rest.drop 11).length ≠ (byteAt rest 10).toNat * 2) := by
      rintro (zero | above | wrong)
      · rw [zero] at least
        exact absurd least (by decide)
      · exact absurd most (Nat.not_le_of_lt above)
      · exact wrong exact
    have filled : ¬ command.workerIds.isEmpty = true := fun none =>
      some (List.isEmpty_iff.mp none)
    rw [if_neg (Nat.not_lt_of_le long), dif_neg numbered, ← desired, if_neg fields, parsed]
    dsimp only
    rw [if_neg filled]
    simp only [← sequence]

end Body

/-- Every field of a command that is accepted is in range, and the bytes are its own. -/
theorem parseStreamCommand_eq_some_iff (payload marker : List U8)
    (command : StreamRepairCommand) :
    parseStreamCommand payload marker = some command ↔
      command.WellFormed ∧ payload = marker ++ command.encode := by
  constructor
  · intro accepted
    have begins : marker.isPrefixOf payload := by
      by_contra other
      rw [parseStreamCommand, if_neg other] at accepted
      cases accepted
    obtain ⟨rest, rfl⟩ := List.isPrefixOf_iff_prefix.mp begins
    obtain ⟨long, sequence, desired, least, most, exact, parsed, some⟩ :=
      (parseStreamCommand_append marker).mp accepted
    obtain ⟨ids, named⟩ := encode_of_streamWorkerIds (by omega) parsed
    have counted : (rest.drop 11).length = command.workerIds.length * 2 := by
      rw [ids]
      simp [List.length_flatMap]
    have count : command.workerIds.length = (byteAt rest 10).toNat := by omega
    refine ⟨⟨⟨least, most⟩, some, ?_, named⟩, ?_⟩
    · rw [count]
      exact Nat.le_of_lt_succ (byteAt rest 10).isLt
    · have first : command.sequence.toNat = beValue (rest.extract 0 8) := by
        rw [sequence, BitVec.toNat_ofNat]
        exact Nat.mod_eq_of_lt (beValue_extract_lt rest 0 8)
      have second : command.desiredCount.toNat = beValue (rest.extract 8 10) := by
        rw [desired, BitVec.toNat_ofNat]
        exact Nat.mod_eq_of_lt (beValue_extract_lt rest 8 2)
      rw [StreamRepairCommand.encode, first, second, count, BitVec.ofNat_toNat,
        BitVec.setWidth_eq, ← ids, ← eq_fields long]
  · rintro ⟨⟨⟨least, most⟩, some, counted, named⟩, rfl⟩
    obtain ⟨sequence, desired, count, ids⟩ := encode_fields command
    have long := length_encode_command command
    have sequenceBack := @ofNat_beValue_beBytes 64 8 command.sequence rfl
    have desiredBack := @ofNat_beValue_beBytes 16 2 command.desiredCount rfl
    have small : (BitVec.ofNat 8 command.workerIds.length).toNat = command.workerIds.length := by
      rw [BitVec.toNat_ofNat]
      exact Nat.mod_eq_of_lt (Nat.lt_succ_of_le counted)
    rw [parseStreamCommand_append, sequence, desired, count, ids, sequenceBack, desiredBack, small,
      streamWorkerIds_encode named]
    refine ⟨by omega, rfl, rfl, least, most, ?_, rfl, some⟩
    rw [← ids, List.length_drop, long, Nat.add_sub_cancel_left]

/-- No payload begins with both markers. -/
theorem not_both_markers (payload : List U8) :
    parseStreamRepair payload = none ∨ parseStreamAlive payload = none := by
  rw [parseStreamRepair, parseStreamAlive, parseStreamCommand, parseStreamCommand]
  by_cases repair : streamRepairPrefix.isPrefixOf payload
  · refine Or.inr (if_neg fun alive => ?_)
    obtain ⟨first, rfl⟩ := List.isPrefixOf_iff_prefix.mp repair
    have letters : streamAlivePrefix.take 15 = streamRepairPrefix.take 15 := by
      obtain ⟨second, same⟩ := List.isPrefixOf_iff_prefix.mp alive
      have cut := congrArg (List.take 15) same
      rw [List.take_append_of_le_length (by decide),
        List.take_append_of_le_length (by decide)] at cut
      exact cut
    exact absurd letters (by decide)
  · exact Or.inl (if_neg repair)

/-- The parser accepts the well-formed commands and gives back what they encode, and no bytes
are both a repair and an alive command. -/
theorem stream_commands_exact (payload : List U8) :
    (∀ marker command, parseStreamCommand payload marker = some command ↔
        command.WellFormed ∧ payload = marker ++ command.encode) ∧
      (parseStreamRepair payload = none ∨ parseStreamAlive payload = none) :=
  ⟨parseStreamCommand_eq_some_iff payload, not_both_markers payload⟩

end Csqtt
