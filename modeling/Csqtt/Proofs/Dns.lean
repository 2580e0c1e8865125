/-
Module: Csqtt.Proofs.Dns
Purpose: Reading a response ends within its bytes, and a well-formed one gives the addresses of its
  answers.
Trusted boundary: none
Main exports: DnsParse.Settles, DnsName, DnsRecord, DnsMessage, skipName_bytes,
  parse_response_exact
-/
import Csqtt.Engine.Dns

namespace Csqtt.Dns

/-!
### Every reading comes to an end
-/

namespace DnsParse

variable {First Second : Type}

/-- A value or an error, neither a read outside the bytes nor a walk that was cut off. -/
def Settles (parse : DnsParse First) : Prop := ∃ result, parse.run = .read result

theorem settles_pure (value : First) : Settles (pure value) := ⟨.ok value, rfl⟩

theorem settles_throw (reason : String) : Settles (throw reason : DnsParse First) :=
  ⟨.error reason, rfl⟩

@[simp] theorem pure_bind (value : First) (next : First → DnsParse Second) :
    ((pure value : DnsParse First) >>= next) = next value := rfl

@[simp] theorem lift_read_bind (value : First) (next : First → DnsParse Second) :
    ((ExceptT.lift (.read value) : DnsParse First) >>= next) = next value := rfl

theorem Settles.bind {parse : DnsParse First} {next : First → DnsParse Second}
    (settles : parse.Settles) (onward : ∀ value, parse = pure value → (next value).Settles) :
    (parse >>= next).Settles := by
  obtain ⟨result, read⟩ := settles
  cases result with
  | error reason =>
      obtain rfl : parse = throw reason := read
      exact settles_throw reason
  | ok value =>
      obtain rfl : parse = pure value := read
      exact onward value rfl

end DnsParse

open DnsParse

variable {message : List U8} {turns offset : Nat}

theorem settles_readU16 (message : List U8) (offset : Nat) : (readU16 message offset).Settles := by
  rw [readU16]
  split
  · exact settles_pure _
  · exact settles_throw _

theorem settles_advance (message : List U8) (offset count : Nat) (context : String) :
    (advance message offset count context).Settles := by
  rw [advance]
  split
  · exact settles_pure _
  · exact settles_throw _

/-- What lies within the bytes after a step. -/
theorem advance_eq_pure {count next : Nat} {context : String}
    (stepped : advance message offset count context = pure next) :
    next = offset + count ∧ next ≤ message.length := by
  rw [advance] at stepped
  split at stepped
  · next inside =>
      cases stepped
      exact ⟨rfl, inside⟩
  · cases stepped

/-- Every turn of the walk takes a byte at least. -/
theorem settles_skipName (some : 0 < turns) (enough : message.length < offset + turns) :
    (skipName message turns offset).Settles := by
  induction turns generalizing offset with
  | zero => exact absurd some (Nat.lt_irrefl 0)
  | succ turns inductionHypothesis =>
      rw [skipName]
      split
      · exact settles_throw _
      · split
        · exact settles_advance _ _ _ _
        · split
          · exact settles_throw _
          · split
            · exact settles_pure _
            · refine (settles_advance _ _ _ _).bind fun next stepped => ?_
              obtain ⟨rfl, inside⟩ := advance_eq_pure stepped
              exact inductionHypothesis (by omega) (by omega)

section Inside

variable {recordType recordClass : U16} {dataLength dataOffset : Nat}

/-- A record that lies within the bytes is read within them. -/
theorem settles_takeIpv4 (inside : dataOffset + dataLength ≤ message.length)
    (addresses : List IpAddr) :
    (takeIpv4 message recordType recordClass dataLength dataOffset addresses).Settles := by
  rw [takeIpv4]
  split
  · next four =>
      rw [byteChecked_of_lt (by omega), lift_read_bind, byteChecked_of_lt (by omega),
        lift_read_bind, byteChecked_of_lt (by omega), lift_read_bind,
        byteChecked_of_lt (by omega), lift_read_bind]
      exact settles_pure _
  · exact settles_pure _

theorem settles_takeIpv6 (inside : dataOffset + dataLength ≤ message.length)
    (addresses : List IpAddr) :
    (takeIpv6 message recordType recordClass dataLength dataOffset (dataOffset + dataLength)
      addresses).Settles := by
  rw [takeIpv6]
  split
  · rw [sliceChecked_of_le (Nat.le_add_right _ _) inside, lift_read_bind]
    exact settles_pure _
  · exact settles_pure _

end Inside

section Enough

variable (enough : message.length < turns)

include enough

theorem settles_skipQuestions (questions offset : Nat) :
    (skipQuestions message turns questions offset).Settles := by
  induction questions generalizing offset with
  | zero => exact settles_pure _
  | succ questions inductionHypothesis =>
      refine (settles_skipName (by omega) (by omega)).bind fun next _ => ?_
      exact (settles_advance _ _ _ _).bind fun next _ => inductionHypothesis next

theorem settles_readAnswers (answers offset : Nat) (addresses : List IpAddr) :
    (readAnswers message turns answers offset addresses).Settles := by
  induction answers generalizing offset addresses with
  | zero => exact settles_pure _
  | succ answers inductionHypothesis =>
      refine (settles_skipName (by omega) (by omega)).bind fun offset _ => ?_
      refine (settles_readU16 _ _).bind fun recordType _ => ?_
      refine (settles_readU16 _ _).bind fun recordClass _ => ?_
      refine (settles_readU16 _ _).bind fun dataLength _ => ?_
      refine (settles_advance _ _ _ _).bind fun dataOffset _ => ?_
      refine (settles_advance _ _ _ _).bind fun nextOffset stepped => ?_
      obtain ⟨rfl, inside⟩ := advance_eq_pure stepped
      refine (settles_takeIpv4 inside addresses).bind fun addresses _ => ?_
      exact (settles_takeIpv6 inside addresses).bind fun addresses _ =>
        inductionHypothesis _ addresses

theorem settles_parseResponse (queryId : U16) : (parseResponse turns message queryId).Settles := by
  rw [parseResponse]
  split
  · exact settles_throw _
  · refine (settles_readU16 _ _).bind fun id _ => ?_
    split
    · exact settles_throw _
    · refine (settles_readU16 _ _).bind fun flags _ => ?_
      split
      · exact settles_throw _
      · refine (settles_readU16 _ _).bind fun questions _ => ?_
        refine (settles_readU16 _ _).bind fun answers _ => ?_
        exact (settles_skipQuestions enough _ _).bind fun offset _ =>
          settles_readAnswers enough _ _ _

end Enough

/-!
### Messages
-/

/-- A name: labels, and the root or a pointer behind them. -/
structure DnsName where
  labels : List (List U8)
  pointer : Option (BitVec 14)
deriving DecidableEq, Repr

namespace DnsName

def WellFormed (self : DnsName) : Prop :=
  ∀ label ∈ self.labels, 1 ≤ label.length ∧ label.length ≤ 63

def labelBytes (label : List U8) : List U8 := BitVec.ofNat 8 label.length :: label

def endBytes : Option (BitVec 14) → List U8
  | none => [0]
  | some target => [0xc0 ||| (target >>> 8).setWidth 8, target.setWidth 8]

def bytes (self : DnsName) : List U8 := self.labels.flatMap labelBytes ++ endBytes self.pointer

end DnsName

structure DnsQuestion where
  name : DnsName
  kind : U16
  cls : U16
deriving DecidableEq, Repr

def DnsQuestion.bytes (self : DnsQuestion) : List U8 :=
  self.name.bytes ++ (beBytes 2 self.kind.toNat ++ beBytes 2 self.cls.toNat)

structure DnsRecord where
  name : DnsName
  kind : U16
  cls : U16
  ttl : U32
  data : List U8
deriving DecidableEq, Repr

namespace DnsRecord

def fields (self : DnsRecord) : List U8 :=
  beBytes 2 self.kind.toNat ++ (beBytes 2 self.cls.toNat ++
    (beBytes 4 self.ttl.toNat ++ beBytes 2 self.data.length))

def bytes (self : DnsRecord) : List U8 := self.name.bytes ++ (self.fields ++ self.data)

/-- The address of a record of the internet class. -/
def address (self : DnsRecord) : Option IpAddr :=
  if self.cls = 1 ∧ self.kind = dnsARecord ∧ self.data.length = 4 then
    some (.v4 (BitVec.ofNat 32 (beValue self.data)))
  else if self.cls = 1 ∧ self.kind = dnsAaaaRecord ∧ self.data.length = 16 then
    some (.v6 (BitVec.ofNat 128 (beValue self.data)))
  else none

end DnsRecord

structure DnsMessage where
  id : U16
  flags : U16
  questions : List DnsQuestion
  answers : List DnsRecord
  authority : List DnsRecord
  additional : List DnsRecord
deriving DecidableEq, Repr

namespace DnsMessage

def header (self : DnsMessage) : List U8 :=
  beBytes 2 self.id.toNat ++ (beBytes 2 self.flags.toNat ++ (beBytes 2 self.questions.length ++
    (beBytes 2 self.answers.length ++ (beBytes 2 self.authority.length ++
      beBytes 2 self.additional.length))))

def bytes (self : DnsMessage) : List U8 :=
  self.header ++ (self.questions.flatMap DnsQuestion.bytes ++
    (self.answers.flatMap DnsRecord.bytes ++ (self.authority.flatMap DnsRecord.bytes ++
      self.additional.flatMap DnsRecord.bytes)))

/-- Counts and lengths fit into their fields. -/
structure WellFormed (message : DnsMessage) : Prop where
  questions : message.questions.length < 65536
  answers : message.answers.length < 65536
  asked : ∀ question ∈ message.questions, question.name.WellFormed
  named : ∀ record ∈ message.answers, record.name.WellFormed
  short : ∀ record ∈ message.answers, record.data.length < 65536

end DnsMessage

/-!
### A well-formed message is read as it was written
-/

section Encoded

variable {front rest : List U8}

theorem readU16_append (front : List U8) (value : Nat) (rest : List U8) :
    readU16 (front ++ (beBytes 2 value ++ rest)) front.length = pure (BitVec.ofNat 16 value) := by
  have inside : front.length + 2 ≤ (front ++ (beBytes 2 value ++ rest)).length := by simp
  have field : (front ++ (beBytes 2 value ++ rest)).extract front.length (front.length + 2) =
      beBytes 2 value := by
    rw [List.extract_eq_take_drop, List.drop_left, Nat.add_sub_cancel_left]
    exact List.take_left' (length_beBytes _ _)
  have word : (BitVec.ofNat 16 (value % 256 ^ 2) : U16) = BitVec.ofNat 16 value := by
    apply BitVec.eq_of_toNat_eq
    rw [BitVec.toNat_ofNat, BitVec.toNat_ofNat]
    exact Nat.mod_mod_of_dvd _ (by decide)
  rw [readU16, if_pos inside, field, beValue_beBytes, word]

theorem advance_of_le {offset count : Nat} (inside : offset + count ≤ message.length)
    (context : String) : advance message offset count context = pure (offset + count) :=
  if_pos inside

theorem labelLength {length : Nat} (short : length ≤ 63) :
    (BitVec.ofNat 8 length).toNat = length ∧ (BitVec.ofNat 8 length : U8) &&& 0xc0 = 0 := by
  have all : ∀ length : Fin 64, (BitVec.ofNat 8 length.val).toNat = length.val ∧
      (BitVec.ofNat 8 length.val : U8) &&& 0xc0 = 0 := by decide
  exact all ⟨length, Nat.lt_succ_of_le short⟩

theorem skipName_end (front rest : List U8) (pointer : Option (BitVec 14)) (turns : Nat) :
    skipName (front ++ (DnsName.endBytes pointer ++ rest)) (turns + 1) front.length =
      pure (front.length + (DnsName.endBytes pointer).length) := by
  rw [skipName, List.getElem?_append_right (Nat.le_refl _), Nat.sub_self]
  cases pointer with
  | none => rfl
  | some target =>
      have marked : ∀ high : U8, (0xc0 ||| high) &&& 0xc0 = 0xc0 := by decide
      have inside : front.length + 2 ≤
          (front ++ (DnsName.endBytes (some target) ++ rest)).length := by
        simp [DnsName.endBytes]
      have first : (DnsName.endBytes (some target) ++ rest)[0]? =
          some ((0xc0 : U8) ||| (target >>> 8).setWidth 8) := rfl
      rw [first]
      dsimp only
      rw [if_pos (marked _), advance_of_le inside]
      rfl

/-- The walk passes over a name that stands at its offset. -/
theorem skipName_bytes (front : List U8) (name : DnsName) (rest : List U8)
    (wellFormed : name.WellFormed) (enough : name.labels.length < turns) :
    skipName (front ++ (name.bytes ++ rest)) turns front.length =
      pure (front.length + name.bytes.length) := by
  obtain ⟨labels, pointer⟩ := name
  induction labels generalizing front turns with
  | nil =>
      obtain ⟨turns, rfl⟩ := Nat.exists_eq_succ_of_ne_zero (Nat.ne_of_gt enough)
      exact skipName_end front rest pointer turns
  | cons label labels inductionHypothesis =>
      obtain ⟨turns, rfl⟩ := Nat.exists_eq_succ_of_ne_zero (Nat.ne_of_gt (Nat.zero_lt_of_lt enough))
      obtain ⟨least, short⟩ := wellFormed label List.mem_cons_self
      obtain ⟨length, unmarked⟩ := labelLength short
      have filled : (BitVec.ofNat 8 label.length : U8) ≠ 0 := fun zero => by
        rw [zero] at length
        exact absurd length (Nat.ne_of_lt least)
      have later := inductionHypothesis (front ++ DnsName.labelBytes label)
        (fun other mem => wellFormed other (List.mem_cons_of_mem _ mem))
        (Nat.lt_of_succ_lt_succ enough)
      have split : front ++ (DnsName.bytes ⟨label :: labels, pointer⟩ ++ rest) =
          front ++ DnsName.labelBytes label ++ (DnsName.bytes ⟨labels, pointer⟩ ++ rest) := by
        simp [DnsName.bytes]
      have first : (front ++ DnsName.labelBytes label ++
          (DnsName.bytes ⟨labels, pointer⟩ ++ rest))[front.length]? =
            some (BitVec.ofNat 8 label.length) := by
        rw [List.append_assoc, List.getElem?_append_right (Nat.le_refl _), Nat.sub_self]
        rfl
      have inside : front.length + 1 + label.length ≤ (front ++ DnsName.labelBytes label ++
          (DnsName.bytes ⟨labels, pointer⟩ ++ rest)).length := by
        simp [DnsName.labelBytes]
        omega
      have behind : front.length + 1 + label.length =
          (front ++ DnsName.labelBytes label).length := by
        simp [DnsName.labelBytes]
        omega
      have whole : (front ++ DnsName.labelBytes label).length +
          (DnsName.bytes ⟨labels, pointer⟩).length =
            front.length + (DnsName.bytes ⟨label :: labels, pointer⟩).length := by
        simp [DnsName.bytes]
        omega
      rw [split, skipName, first]
      dsimp only
      rw [unmarked, if_neg (by decide), if_neg (by decide), if_neg filled, length,
        advance_of_le inside, pure_bind, behind, later, whole]

theorem DnsName.labels_lt_bytes (name : DnsName) : name.labels.length < name.bytes.length := by
  obtain ⟨labels, pointer⟩ := name
  have last : 1 ≤ (DnsName.endBytes pointer).length := by
    cases pointer <;> exact Nat.succ_pos _
  have flat : labels.length ≤ (labels.flatMap DnsName.labelBytes).length := by
    induction labels with
    | nil => exact Nat.zero_le _
    | cons label labels inductionHypothesis =>
        rw [List.flatMap_cons, List.length_append, List.length_cons, DnsName.labelBytes,
          List.length_cons]
        omega
  rw [DnsName.bytes, List.length_append]
  dsimp only
  omega

theorem skipQuestions_bytes (front : List U8) (questions : List DnsQuestion) (rest : List U8)
    (wellFormed : ∀ question ∈ questions, question.name.WellFormed)
    (enough : (front ++ (questions.flatMap DnsQuestion.bytes ++ rest)).length < turns) :
    skipQuestions (front ++ (questions.flatMap DnsQuestion.bytes ++ rest)) turns questions.length
        front.length =
      pure (front.length + (questions.flatMap DnsQuestion.bytes).length) := by
  induction questions generalizing front with
  | nil => rfl
  | cons question questions inductionHypothesis =>
      have split : front ++ ((question :: questions).flatMap DnsQuestion.bytes ++ rest) =
          front ++ question.bytes ++ (questions.flatMap DnsQuestion.bytes ++ rest) := by
        simp
      have named : front ++ question.bytes ++ (questions.flatMap DnsQuestion.bytes ++ rest) =
          front ++ (question.name.bytes ++ (beBytes 2 question.kind.toNat ++
            (beBytes 2 question.cls.toNat ++
              (questions.flatMap DnsQuestion.bytes ++ rest)))) := by
        simp [DnsQuestion.bytes]
      have size : (front ++ question.bytes).length =
          front.length + question.name.bytes.length + 4 := by
        simp [DnsQuestion.bytes]
        omega
      have later := inductionHypothesis (front ++ question.bytes)
        (fun other mem => wellFormed other (List.mem_cons_of_mem _ mem)) (split ▸ enough)
      rw [split] at enough ⊢
      have inside : front.length + question.name.bytes.length + 4 ≤
          (front ++ question.bytes ++ (questions.flatMap DnsQuestion.bytes ++ rest)).length := by
        rw [List.length_append, size]
        exact Nat.le_add_right _ _
      have bound : question.name.labels.length < turns := by
        have labels := question.name.labels_lt_bytes
        omega
      have passed := skipName_bytes front question.name (beBytes 2 question.kind.toNat ++
        (beBytes 2 question.cls.toNat ++ (questions.flatMap DnsQuestion.bytes ++ rest)))
        (wellFormed question List.mem_cons_self) bound
      rw [← named] at passed
      rw [List.length_cons, skipQuestions, passed, pure_bind, advance_of_le inside, pure_bind,
        ← size, later, List.flatMap_cons, List.length_append, List.length_append, Nat.add_assoc]

/-- The addresses with that of a record. -/
def takeRecord (addresses : List IpAddr) (record : DnsRecord) : List IpAddr :=
  match record.address with
  | some address => pushAddress addresses address
  | none => addresses

/-- The data of a record is looked at by its type and class. -/
theorem take_data (front : List U8) (record : DnsRecord) (rest : List U8)
    (addresses : List IpAddr) :
    ∃ between,
      takeIpv4 (front ++ (record.data ++ rest)) record.kind record.cls record.data.length
        front.length addresses = pure between ∧
      takeIpv6 (front ++ (record.data ++ rest)) record.kind record.cls record.data.length
        front.length (front.length + record.data.length) between =
          pure (takeRecord addresses record) := by
  have sliced := sliceChecked_append front record.data rest
  rw [takeIpv4, takeRecord, DnsRecord.address]
  split
  · next four =>
      obtain ⟨internet, kind, length⟩ := four
      have single : ¬ (record.cls = 1 ∧ record.kind = dnsAaaaRecord ∧ record.data.length = 16) := by
        rintro ⟨-, -, sixteen⟩
        omega
      generalize record.data = data at length single ⊢
      match data, length with
      | [first, second, third, fourth], _ =>
          have at' (index : Nat) := byteChecked_append front
            ([first, second, third, fourth] ++ rest) index
          have start := at' 0
          rw [Nat.add_zero] at start
          rw [start, at' 1, at' 2, at' 3]
          exact ⟨_, rfl, if_neg single⟩
  · refine ⟨addresses, rfl, ?_⟩
    rw [takeIpv6]
    split
    · rw [sliced, lift_read_bind]
    · rfl

theorem DnsRecord.length_fields (self : DnsRecord) : self.fields.length = 10 := by
  simp [fields]

/-- The fields of a record stand behind its name. -/
theorem readU16_fields (front : List U8) (record : DnsRecord) (rest : List U8) :
    readU16 (front ++ (record.fields ++ rest)) front.length = pure record.kind ∧
      readU16 (front ++ (record.fields ++ rest)) (front.length + 2) = pure record.cls ∧
      readU16 (front ++ (record.fields ++ rest)) (front.length + 8) =
        pure (BitVec.ofNat 16 record.data.length) := by
  have kind := readU16_append front record.kind.toNat (beBytes 2 record.cls.toNat ++
    (beBytes 4 record.ttl.toNat ++ (beBytes 2 record.data.length ++ rest)))
  have cls := readU16_append (front ++ beBytes 2 record.kind.toNat) record.cls.toNat
    (beBytes 4 record.ttl.toNat ++ (beBytes 2 record.data.length ++ rest))
  have length := readU16_append
    (front ++ (beBytes 2 record.kind.toNat ++ (beBytes 2 record.cls.toNat ++
      beBytes 4 record.ttl.toNat))) record.data.length rest
  rw [BitVec.ofNat_toNat, BitVec.setWidth_eq] at kind cls
  simp only [List.length_append, length_beBytes, List.append_assoc] at cls length
  simp only [DnsRecord.fields, List.append_assoc]
  exact ⟨kind, cls, length⟩

theorem readAnswers_bytes (front : List U8) (answers : List DnsRecord) (rest : List U8)
    (wellFormed : ∀ record ∈ answers, record.name.WellFormed)
    (short : ∀ record ∈ answers, record.data.length < 65536)
    (enough : (front ++ (answers.flatMap DnsRecord.bytes ++ rest)).length < turns)
    (addresses : List IpAddr) :
    readAnswers (front ++ (answers.flatMap DnsRecord.bytes ++ rest)) turns answers.length
        front.length addresses =
      pure (answers.foldl takeRecord addresses) := by
  induction answers generalizing front addresses with
  | nil => rfl
  | cons record answers inductionHypothesis =>
      obtain ⟨tail, behind⟩ : ∃ tail, tail = answers.flatMap DnsRecord.bytes ++ rest := ⟨_, rfl⟩
      obtain ⟨named, offset⟩ : ∃ named, named = front ++ record.name.bytes := ⟨_, rfl⟩
      have whole : front ++ ((record :: answers).flatMap DnsRecord.bytes ++ rest) =
          front ++ record.bytes ++ tail := by
        rw [behind, List.flatMap_cons, List.append_assoc, List.append_assoc]
      have parts : front ++ record.bytes ++ tail =
          named ++ (record.fields ++ (record.data ++ tail)) := by
        simp [DnsRecord.bytes, offset]
      have dataAt : (named ++ record.fields).length = named.length + 10 := by
        rw [List.length_append, record.length_fields]
      have size : (front ++ record.bytes).length = named.length + 10 + record.data.length := by
        simp [DnsRecord.bytes, offset, record.length_fields]
        omega
      have later := inductionHypothesis (front ++ record.bytes)
        (fun other mem => wellFormed other (List.mem_cons_of_mem _ mem))
        (fun other mem => short other (List.mem_cons_of_mem _ mem))
        (by rw [← behind, ← whole]; exact enough) (takeRecord addresses record)
      obtain ⟨kind, cls, length⟩ := readU16_fields named record (record.data ++ tail)
      obtain ⟨between, four, six⟩ :=
        take_data (named ++ record.fields) record tail addresses
      have bound : record.name.labels.length < turns := by
        have labels := record.name.labels_lt_bytes
        rw [whole, parts, offset] at enough
        simp only [List.length_append] at enough
        omega
      have passed := skipName_bytes front record.name (record.fields ++ (record.data ++ tail))
        (wellFormed record List.mem_cons_self) bound
      have counted : (BitVec.ofNat 16 record.data.length).toNat = record.data.length := by
        rw [BitVec.toNat_ofNat]
        exact Nat.mod_eq_of_lt (short record List.mem_cons_self)
      have total : (named ++ (record.fields ++ (record.data ++ tail))).length =
          named.length + 10 + record.data.length + tail.length := by
        rw [← parts, List.length_append, size]
      rw [← behind, size, parts] at later
      rw [← List.append_assoc, ← offset, ← List.length_append, ← offset] at passed
      rw [dataAt, List.append_assoc] at four six
      rw [whole, parts, List.length_cons, readAnswers, passed, pure_bind, kind, pure_bind, cls,
        pure_bind, length, pure_bind, advance_of_le (by omega), pure_bind, counted,
        advance_of_le (by omega), pure_bind, four, pure_bind, six, pure_bind, later,
        List.foldl_cons]

end Encoded

/-- Taken once each, in the order in which they first come. -/
theorem foldl_pushAddress (addresses : List IpAddr) :
    addresses.foldl pushAddress [] = addresses.eraseDups := by
  induction addresses using List.reverseRecOn with
  | nil => rfl
  | append_singleton addresses address inductionHypothesis =>
      rw [List.foldl_append, inductionHypothesis, List.foldl_cons, List.foldl_nil,
        List.eraseDups_append, pushAddress]
      by_cases known : address ∈ addresses
      · have there : addresses.eraseDups.contains address = true := by simpa using known
        have nothing : [address].removeAll addresses = [] := by simp [List.removeAll, known]
        rw [if_pos there, nothing]
        simp
      · have absent : ¬ addresses.eraseDups.contains address = true := by simpa using known
        have itself : [address].removeAll addresses = [address] := by simp [List.removeAll, known]
        rw [if_neg absent, itself]
        rfl

theorem foldl_takeRecord (answers : List DnsRecord) :
    answers.foldl takeRecord [] = (answers.filterMap DnsRecord.address).eraseDups := by
  rw [← foldl_pushAddress, List.foldl_filterMap]
  refine List.foldl_ext _ _ _ fun addresses record _ => ?_
  rw [takeRecord]
  cases record.address <;> rfl

/-- A response, whole and without an error, with the identifier of the query. -/
structure Matches (response : List U8) (queryId : U16) : Prop where
  id : readU16 response 0 = pure queryId
  flags : ∃ flags, readU16 response 2 = pure flags ∧ flags &&& 0x8000 ≠ 0 ∧ flags &&& 0x0200 = 0 ∧
    flags &&& 0x000f = 0

theorem checkFlags_eq_ok_iff (flags : U16) :
    checkFlags flags = .ok () ↔
      flags &&& 0x8000 ≠ 0 ∧ flags &&& 0x0200 = 0 ∧ flags &&& 0x000f = 0 := by
  rw [checkFlags]
  split
  · next clear => exact ⟨nofun, fun ok => absurd clear ok.1⟩
  · next response =>
      split
      · next cut => exact ⟨nofun, fun ok => absurd ok.2.1 cut⟩
      · next whole =>
          split
          · next failed => exact ⟨nofun, fun ok => absurd ok.2.2 failed⟩
          · next fine =>
              exact ⟨fun _ => ⟨response, not_not.mp whole, not_not.mp fine⟩, fun _ => rfl⟩

theorem readU16_of_le (message : List U8) (offset : Nat) (inside : offset + 2 ≤ message.length) :
    ∃ value, readU16 message offset = pure value := ⟨_, if_pos inside⟩

theorem matches_of_accepted {queryId : U16} {addresses : List IpAddr}
    (accepted : parseResponse turns message queryId = pure addresses) :
    Matches message queryId := by
  rw [parseResponse] at accepted
  split at accepted
  · cases accepted
  · next long =>
      obtain ⟨id, readId⟩ := readU16_of_le message 0 (by omega)
      obtain ⟨flags, readFlags⟩ := readU16_of_le message 2 (by omega)
      rw [readId, pure_bind] at accepted
      split at accepted
      · cases accepted
      · next same =>
          rw [readFlags, pure_bind] at accepted
          cases checked : checkFlags flags with
          | error reason =>
              rw [checked] at accepted
              cases accepted
          | ok value =>
              exact ⟨not_not.mp same ▸ readId, flags, readFlags,
                (checkFlags_eq_ok_iff flags).mp checked⟩

/-- The fields of the header, whatever follows it. -/
theorem readU16_header (dns : DnsMessage) (rest : List U8) :
    readU16 (dns.header ++ rest) 0 = pure dns.id ∧
      readU16 (dns.header ++ rest) 2 = pure dns.flags ∧
      readU16 (dns.header ++ rest) 4 = pure (BitVec.ofNat 16 dns.questions.length) ∧
      readU16 (dns.header ++ rest) 6 = pure (BitVec.ofNat 16 dns.answers.length) := by
  let behind := beBytes 2 dns.authority.length ++ (beBytes 2 dns.additional.length ++ rest)
  have id := readU16_append [] dns.id.toNat (beBytes 2 dns.flags.toNat ++
    (beBytes 2 dns.questions.length ++ (beBytes 2 dns.answers.length ++ behind)))
  have flags := readU16_append (beBytes 2 dns.id.toNat) dns.flags.toNat
    (beBytes 2 dns.questions.length ++ (beBytes 2 dns.answers.length ++ behind))
  have questions := readU16_append (beBytes 2 dns.id.toNat ++ beBytes 2 dns.flags.toNat)
    dns.questions.length (beBytes 2 dns.answers.length ++ behind)
  have answers := readU16_append (beBytes 2 dns.id.toNat ++ (beBytes 2 dns.flags.toNat ++
    beBytes 2 dns.questions.length)) dns.answers.length behind
  rw [BitVec.ofNat_toNat, BitVec.setWidth_eq] at id flags
  simp only [List.length_append, length_beBytes, List.append_assoc, List.nil_append,
    List.length_nil] at id flags questions answers
  simp only [DnsMessage.header, List.append_assoc]
  exact ⟨id, flags, questions, answers⟩

/-- A message that matches its query gives the addresses of its answers. -/
theorem parseResponse_bytes (dns : DnsMessage) (wellFormed : dns.WellFormed)
    (enough : dns.bytes.length < turns) (fine : checkFlags dns.flags = .ok ()) :
    parseResponse turns dns.bytes dns.id =
      pure (dns.answers.filterMap DnsRecord.address).eraseDups := by
  obtain ⟨rest, behind⟩ : ∃ rest, rest = dns.authority.flatMap DnsRecord.bytes ++
      dns.additional.flatMap DnsRecord.bytes := ⟨_, rfl⟩
  have twelve : dns.header.length = 12 := by simp [DnsMessage.header]
  have asked : (dns.header ++ dns.questions.flatMap DnsQuestion.bytes).length =
      12 + (dns.questions.flatMap DnsQuestion.bytes).length := by
    rw [List.length_append, twelve]
  rw [DnsMessage.bytes, ← behind] at enough ⊢
  have long : ¬ (dns.header ++ (dns.questions.flatMap DnsQuestion.bytes ++
      (dns.answers.flatMap DnsRecord.bytes ++ rest))).length < 12 := by
    rw [List.length_append, twelve]
    omega
  obtain ⟨id, flags, questions, answers⟩ := readU16_header dns
    (dns.questions.flatMap DnsQuestion.bytes ++ (dns.answers.flatMap DnsRecord.bytes ++ rest))
  have skipped := skipQuestions_bytes dns.header dns.questions
    (dns.answers.flatMap DnsRecord.bytes ++ rest) wellFormed.asked enough
  have read := readAnswers_bytes (dns.header ++ dns.questions.flatMap DnsQuestion.bytes) dns.answers
    rest wellFormed.named wellFormed.short (by rw [List.append_assoc]; exact enough) []
  have counts {count : Nat} (short : count < 65536) : (BitVec.ofNat 16 count).toNat = count := by
    rw [BitVec.toNat_ofNat]
    exact Nat.mod_eq_of_lt short
  rw [List.append_assoc, asked] at read
  rw [twelve] at skipped
  rw [parseResponse, if_neg long, id, pure_bind, if_neg (not_not.mpr rfl), flags, pure_bind, fine,
    questions, pure_bind, answers, pure_bind, counts wellFormed.questions,
    counts wellFormed.answers, skipped, pure_bind, read, foldl_takeRecord]

theorem queryLabels_eq_ok : ∀ {labels : List (List U8)} {bytes : List U8},
    queryLabels labels = .ok bytes →
      (∀ label ∈ labels, 1 ≤ label.length ∧ label.length ≤ 63) ∧
        bytes = labels.flatMap DnsName.labelBytes
  | [], bytes, built => by
      cases built
      exact ⟨fun _ mem => absurd mem List.not_mem_nil, rfl⟩
  | label :: labels, bytes, built => by
      rw [queryLabels] at built
      split at built
      · cases built
      · next good =>
          push Not at good
          split at built
          · next rest more =>
              cases built
              obtain ⟨wellFormed, rfl⟩ := queryLabels_eq_ok more
              refine ⟨fun other mem => ?_, rfl⟩
              rcases List.mem_cons.mp mem with rfl | mem
              · exact ⟨List.length_pos_iff.mpr (by simpa using good.1), good.2.1⟩
              · exact wellFormed other mem
          · cases built

/-- A query that is built is a message with one question and nothing else. -/
theorem buildQuery_eq_ok {host : List U8} {queryId recordType : U16} {query : List U8}
    (built : buildQuery host queryId recordType = .ok query) :
    ∃ name : DnsName, name.WellFormed ∧
      query = DnsMessage.bytes ⟨queryId, 0x0100, [⟨name, recordType, 1⟩], [], [], []⟩ := by
  rw [buildQuery] at built
  split at built
  · cases built
  · split at built
    · next labels more =>
        cases built
        obtain ⟨wellFormed, rfl⟩ := queryLabels_eq_ok more
        refine ⟨⟨(trimEndDots host).splitOn 0x2e, none⟩, wellFormed, ?_⟩
        simp [DnsMessage.bytes, DnsMessage.header, DnsQuestion.bytes, DnsName.bytes,
          DnsName.endBytes]
    · cases built

/-- Reading ends within any response. A whole one without an error and with the identifier of the
query gives the addresses of its answers, each once and in order, if it is well-formed; any other
is refused. -/
theorem parse_response_exact :
    (∀ response turns queryId, List.length response < turns →
      (parseResponse turns response queryId).Settles) ∧
    (∀ host queryId recordType query, buildQuery host queryId recordType = .ok query →
      ∃ name : DnsName, name.WellFormed ∧
        query = DnsMessage.bytes ⟨queryId, 0x0100, [⟨name, recordType, 1⟩], [], [], []⟩) ∧
    (∀ (dns : DnsMessage) turns, dns.WellFormed → dns.bytes.length < turns →
      dns.flags &&& 0x8000 ≠ 0 → dns.flags &&& 0x0200 = 0 → dns.flags &&& 0x000f = 0 →
        parseResponse turns dns.bytes dns.id =
          pure (dns.answers.filterMap DnsRecord.address).eraseDups) ∧
    (∀ response turns queryId, List.length response < turns → ¬ Matches response queryId →
      ∃ reason, parseResponse turns response queryId = throw reason) := by
  refine ⟨fun response turns queryId enough => settles_parseResponse enough queryId,
    fun _ _ _ _ => buildQuery_eq_ok, fun dns turns wellFormed enough response whole fine => ?_,
    fun response turns queryId enough other => ?_⟩
  · exact parseResponse_bytes dns wellFormed enough
      ((checkFlags_eq_ok_iff _).mpr ⟨response, whole, fine⟩)
  · obtain ⟨result, settled⟩ := settles_parseResponse enough queryId
    cases result with
    | ok addresses => exact absurd (matches_of_accepted settled) other
    | error reason => exact ⟨reason, settled⟩

/-- An answer to the question for `vk.ru`. -/
def answerForVk : DnsMessage where
  id := 0x1234
  flags := 0x8180
  questions := [⟨⟨[[0x76, 0x6b], [0x72, 0x75]], none⟩, 1, 1⟩]
  answers := [⟨⟨[], some 12⟩, 1, 1, 60, [77, 88, 8, 8]⟩]
  authority := []
  additional := []

/-- The question for `ok.ru` under the same identifier is taken as answered by it. -/
theorem other_question_accepted :
    buildQuery [0x6f, 0x6b, 0x2e, 0x72, 0x75] 0x1234 1 =
        .ok (DnsMessage.bytes
          ⟨0x1234, 0x0100, [⟨⟨[[0x6f, 0x6b], [0x72, 0x75]], none⟩, 1, 1⟩], [], [], []⟩) ∧
      answerForVk.questions ≠ [⟨⟨[[0x6f, 0x6b], [0x72, 0x75]], none⟩, 1, 1⟩] ∧
      parseResponse 40 answerForVk.bytes 0x1234 = pure [.v4 0x4d580808] := by
  refine ⟨by rfl, by decide, rfl⟩

end Csqtt.Dns
