/-
Module: Csqtt.Proofs.WorkerGroups
Purpose: Every worker of an engine is started once and shares its credential with at most
  seventeen others of the same call; reports of a recovery are far apart and lose no count; and
  starts keep their distance.
Trusted boundary: the counts stay below the largest word
Main exports: sharedCredentials, Dealt, dealt_range, runGroups_eq, workers_share_credentials,
  RecoveryLog.Counted, recovery_log_counts, WorkerStarts.Paced, worker_starts_spaced
-/
import Csqtt.Core.Weight
import Csqtt.Engine.WorkerGroups

namespace Csqtt

/-!
### Groups and credentials
-/

/-- The number of the credentials that a group comes to share. -/
def credentialNumber (hashCount groupIndex : Nat) : Nat :=
  credentialCohortIndex (groupIndex / hashCount) * hashCount + groupIndex % hashCount + 1

/-- How many credentials the first groups share. -/
def credentialCount (hashCount groups : Nat) : Nat :=
  if groups / hashCount % 2 = 0 then groups / hashCount / 2 * hashCount + groups % hashCount
  else (groups / hashCount / 2 + 1) * hashCount

/-- How many of the first groups belong to a hash. -/
def groupsOf (hashCount groups hashIndex : Nat) : Nat :=
  groups / hashCount + if hashIndex < groups % hashCount then 1 else 0

/-- The credentials that a group comes to share. -/
def sharedCredentials (hashes : List Text) (groupIndex : Nat) : GroupCredentials where
  credentialId := credentialNumber hashes.length groupIndex
  hash := (hashes[groupIndex % hashes.length]?).getD []

/-- What has been dealt when the first groups have. -/
structure Dealt (hashes : List Text) (groups : Nat) (dealing : GroupDealing) : Prop where
  hashCounts : dealing.groupsByHash.length = hashes.length
  credentialLists : dealing.credentialsByHash.length = hashes.length
  groupsByHash : ∀ hashIndex < hashes.length,
    dealing.groupsByHash[hashIndex]? = some (groupsOf hashes.length groups hashIndex)
  credentialsByHash : ∀ hashIndex hash, hashes[hashIndex]? = some hash →
    dealing.credentialsByHash[hashIndex]? = some
      ((List.range ((groupsOf hashes.length groups hashIndex + 1) / 2)).map fun cohort =>
        ⟨cohort * hashes.length + hashIndex + 1, hash⟩)
  groupCredentials : dealing.groupCredentials = (List.range groups).map (sharedCredentials hashes)
  nextCredentialId : dealing.nextCredentialId = credentialCount hashes.length groups + 1

section Dealing

variable {hashes : List Text} {groups : Nat} {dealing : GroupDealing}

theorem dealt_start (hashes : List Text) : Dealt hashes 0 (.start hashes.length) where
  hashCounts := List.length_replicate
  credentialLists := List.length_replicate
  groupsByHash := fun hashIndex inside => by
    rw [GroupDealing.start, List.getElem?_replicate, if_pos inside, groupsOf, Nat.zero_div,
      Nat.zero_mod, if_neg (Nat.not_lt_zero _)]
  credentialsByHash := fun hashIndex hash found => by
    rw [GroupDealing.start, List.getElem?_replicate,
      if_pos (List.getElem?_eq_some_iff.mp found).1, groupsOf, Nat.zero_div, Nat.zero_mod,
      if_neg (Nat.not_lt_zero _)]
    rfl
  groupCredentials := rfl
  nextCredentialId := by simp [GroupDealing.start, credentialCount]

/-- One group more: either within the round over the hashes, or at its end. -/
theorem div_mod_succ {hashCount : Nat} (positive : 0 < hashCount) (groups : Nat) :
    (groups % hashCount + 1 < hashCount ∧ (groups + 1) / hashCount = groups / hashCount ∧
        (groups + 1) % hashCount = groups % hashCount + 1) ∨
      (groups % hashCount + 1 = hashCount ∧ (groups + 1) / hashCount = groups / hashCount + 1 ∧
        (groups + 1) % hashCount = 0) := by
  have below := Nat.mod_lt groups positive
  have whole := Nat.div_add_mod groups hashCount
  by_cases last : groups % hashCount + 1 = hashCount
  · have next : groups + 1 = hashCount * (groups / hashCount + 1) := by
      rw [Nat.mul_add, Nat.mul_one]
      omega
    refine .inr ⟨last, ?_, ?_⟩
    · rw [next, Nat.mul_div_cancel_left _ positive]
    · rw [next, Nat.mul_mod_right]
  · have next : groups + 1 = groups % hashCount + 1 + hashCount * (groups / hashCount) := by omega
    refine .inl ⟨by omega, ?_, ?_⟩
    · rw [next, Nat.add_mul_div_left _ _ positive, Nat.div_eq_of_lt (by omega), Nat.zero_add]
    · rw [next, Nat.add_mul_mod_self_left, Nat.mod_eq_of_lt (by omega)]

theorem groupsOf_succ {hashCount : Nat} (positive : 0 < hashCount) (groups hashIndex : Nat)
    (inside : hashIndex < hashCount) :
    groupsOf hashCount (groups + 1) hashIndex =
      groupsOf hashCount groups hashIndex + if hashIndex = groups % hashCount then 1 else 0 := by
  have below := Nat.mod_lt groups positive
  unfold groupsOf
  rcases div_mod_succ positive groups with ⟨more, quotient, rest⟩ | ⟨last, quotient, rest⟩
  · rw [quotient, rest]
    split <;> split <;> split <;> omega
  · rw [quotient, rest]
    split <;> split <;> split <;> omega

/-- The group at hand is the next one of its hash. -/
theorem groupsOf_here (hashCount groups : Nat) :
    groupsOf hashCount groups (groups % hashCount) = groups / hashCount := by
  rw [groupsOf, if_neg (Nat.lt_irrefl _), Nat.add_zero]

/-- A credential is made for every other group of a hash. -/
theorem credentialCount_succ {hashCount : Nat} (positive : 0 < hashCount) (groups : Nat) :
    credentialCount hashCount (groups + 1) =
      credentialCount hashCount groups + if groups / hashCount % 2 = 0 then 1 else 0 := by
  unfold credentialCount
  rcases div_mod_succ positive groups with ⟨more, quotient, rest⟩ | ⟨last, quotient, rest⟩
  · rw [quotient, rest]
    split
    · rw [Nat.add_assoc]
    · rfl
  · rw [quotient, rest]
    by_cases even : groups / hashCount % 2 = 0
    · have half : (groups / hashCount + 1) / 2 = groups / hashCount / 2 := by omega
      rw [if_neg (by omega), if_pos even, if_pos even, half, Nat.add_mul, Nat.one_mul,
        Nat.add_assoc, last]
    · have half : (groups / hashCount + 1) / 2 = groups / hashCount / 2 + 1 := by omega
      rw [if_pos (by omega), if_neg even, if_neg even, half]

theorem dealt_succ (positive : 0 < hashes.length) (dealt : Dealt hashes groups dealing) :
    ∃ next, dealing.dealGroup hashes groups = some next ∧ Dealt hashes (groups + 1) next := by
  have below := Nat.mod_lt groups positive
  have here := groupsOf_here hashes.length groups
  obtain ⟨hash, named⟩ : ∃ hash, hashes[groups % hashes.length]? = some hash :=
    ⟨_, List.getElem?_eq_getElem below⟩
  have counted := dealt.groupsByHash _ below
  have credentials := dealt.credentialsByHash _ hash named
  rw [here] at counted credentials
  have others (hashIndex : Nat) (inside : hashIndex < hashes.length)
      (apart : hashIndex ≠ groups % hashes.length) :
      groupsOf hashes.length (groups + 1) hashIndex = groupsOf hashes.length groups hashIndex := by
    rw [groupsOf_succ positive groups hashIndex inside, if_neg apart, Nat.add_zero]
  have one : groupsOf hashes.length (groups + 1) (groups % hashes.length) =
      groups / hashes.length + 1 := by
    rw [groupsOf_succ positive groups _ below, if_pos rfl, here]
  -- A credential is made exactly where the group's hash has none for the cohort yet.
  have missing : (groups / hashes.length + 1) / 2 ≤ groups / hashes.length / 2 ↔
      groups / hashes.length % 2 = 0 := by omega
  have known : (if (groups / hashes.length + 1) / 2 ≤ groups / hashes.length / 2 then
        ((List.range ((groups / hashes.length + 1) / 2)).map fun cohort =>
          GroupCredentials.mk (cohort * hashes.length + groups % hashes.length + 1) hash) ++
            [⟨dealing.nextCredentialId, hash⟩]
      else (List.range ((groups / hashes.length + 1) / 2)).map fun cohort =>
        GroupCredentials.mk (cohort * hashes.length + groups % hashes.length + 1) hash) =
      (List.range ((groups / hashes.length + 1 + 1) / 2)).map fun cohort =>
        GroupCredentials.mk (cohort * hashes.length + groups % hashes.length + 1) hash := by
    by_cases even : groups / hashes.length % 2 = 0
    · have last : (groups / hashes.length + 1) / 2 = groups / hashes.length / 2 := by omega
      have more : (groups / hashes.length + 1 + 1) / 2 = groups / hashes.length / 2 + 1 := by omega
      rw [if_pos (missing.mpr even), more, List.range_succ, List.map_append, last,
        dealt.nextCredentialId, credentialCount, if_pos even]
      rfl
    · have same : (groups / hashes.length + 1 + 1) / 2 = (groups / hashes.length + 1) / 2 := by
        omega
      rw [if_neg fun few => even (missing.mp few), same]
  have shared : ((List.range ((groups / hashes.length + 1 + 1) / 2)).map fun cohort =>
        GroupCredentials.mk (cohort * hashes.length + groups % hashes.length + 1)
          hash)[groups / hashes.length / 2]? =
      some ⟨credentialNumber hashes.length groups, hash⟩ := by
    rw [List.getElem?_map, List.getElem?_range (by omega)]
    rfl
  unfold GroupDealing.dealGroup
  simp only [groupHashIndex, counted, credentials, named, bind, Option.bind, credentialCohortIndex,
    groupsPerCredential, List.length_map, List.length_range, known, shared, pure]
  refine ⟨_, rfl, ?_, ?_, fun hashIndex inside => ?_, fun hashIndex other found => ?_, ?_, ?_⟩
  · rw [List.length_set]
    exact dealt.hashCounts
  · rw [List.length_set]
    exact dealt.credentialLists
  · by_cases same : hashIndex = groups % hashes.length
    · subst same
      rw [List.getElem?_set_self (by rw [dealt.hashCounts]; exact below), one]
    · rw [List.getElem?_set_ne (Ne.symm same), dealt.groupsByHash _ inside, others _ inside same]
  · by_cases same : hashIndex = groups % hashes.length
    · subst same
      rw [named] at found
      cases found
      rw [List.getElem?_set_self (by rw [dealt.credentialLists]; exact below), one]
    · have inside := (List.getElem?_eq_some_iff.mp found).1
      rw [List.getElem?_set_ne (Ne.symm same), dealt.credentialsByHash _ _ found,
        others _ inside same]
  · rw [dealt.groupCredentials, List.range_succ, List.map_append, List.map_singleton,
      sharedCredentials, named]
    rfl
  · rw [credentialCount_succ positive, dealt.nextCredentialId]
    by_cases even : groups / hashes.length % 2 = 0
    · rw [if_pos (missing.mpr even), if_pos even]
    · rw [if_neg fun few => even (missing.mp few), if_neg even]

theorem dealt_range (positive : 0 < hashes.length) (groups : Nat) :
    ∃ dealing, (List.range groups).foldlM (GroupDealing.dealGroup hashes) (.start hashes.length) =
      some dealing ∧ Dealt hashes groups dealing := by
  induction groups with
  | zero => exact ⟨_, rfl, dealt_start hashes⟩
  | succ groups inductionHypothesis =>
      obtain ⟨dealing, dealtOut, dealt⟩ := inductionHypothesis
      obtain ⟨next, one, after⟩ := dealt_succ positive dealt
      refine ⟨next, ?_, after⟩
      rw [List.range_succ, List.foldlM_append, dealtOut]
      simp only [bind, Option.bind, List.foldlM_cons, List.foldlM_nil, one, pure]

end Dealing

/-- The workers of the first groups, with their credentials. -/
def startedWorkers (hashes : List Text) (groups : Nat) : List (Nat × GroupCredentials) :=
  (List.range groups).flatMap fun groupIndex =>
    (groupWorkerIds (groupIndex + 1)).map fun id => (id, sharedCredentials hashes groupIndex)

section Workers

variable {hashes : List Text} {groups : Nat}

theorem zipIdx_map_range {Made : Type} (make : Nat → Made) (count : Nat) :
    ((List.range count).map make).zipIdx = (List.range count).map fun index =>
      (make index, index) := by
  induction count with
  | zero => rfl
  | succ count inductionHypothesis =>
      rw [List.range_succ, List.map_append, List.zipIdx_append, inductionHypothesis,
        List.map_append]
      simp

theorem runGroups_eq (some : hashes ≠ []) (groups : Nat) :
    runGroups hashes groups = .some (startedWorkers hashes groups) := by
  obtain ⟨dealing, dealtOut, dealt⟩ := dealt_range (List.length_pos_iff.mpr some) groups
  rw [runGroups, if_neg some, dealtOut, Option.map_some, dealt.groupCredentials,
    zipIdx_map_range, List.flatMap_map]
  rfl

theorem startedWorkers_succ (hashes : List Text) (groups : Nat) :
    startedWorkers hashes (groups + 1) = startedWorkers hashes groups ++
      (groupWorkerIds (groups + 1)).map fun id => (id, sharedCredentials hashes groups) := by
  rw [startedWorkers, List.range_succ, List.flatMap_append, List.flatMap_singleton]
  rfl

/-- The workers are numbered from one, and each is started once. -/
theorem startedWorkers_ids (hashes : List Text) (groups : Nat) :
    (startedWorkers hashes groups).map (·.1) = List.range' 1 (groups * workersPerGroup) := by
  induction groups with
  | zero => rfl
  | succ groups inductionHypothesis =>
      rw [startedWorkers_succ, List.map_append, inductionHypothesis, List.map_map, Nat.succ_mul,
        List.range'_append_1.symm, groupWorkerIds, Nat.add_sub_cancel, Nat.add_comm 1]
      exact congrArg _ (List.map_id _)

/-- The workers of a kind of credentials are nine for each group that has them. -/
theorem length_filter_startedWorkers (kind : GroupCredentials → Bool) (hashes : List Text)
    (groups : Nat) :
    ((startedWorkers hashes groups).filter fun worker => kind worker.2).length =
      workersPerGroup * (List.range groups).countP fun groupIndex =>
        kind (sharedCredentials hashes groupIndex) := by
  induction groups with
  | zero => rfl
  | succ groups inductionHypothesis =>
      rw [startedWorkers_succ, List.filter_append, List.length_append, inductionHypothesis,
        List.range_succ, List.countP_append, Nat.mul_add, List.filter_map, List.length_map,
        List.countP_singleton]
      congr 1
      cases chosen : kind (sharedCredentials hashes groups) with
      | true =>
          have all := List.filter_eq_self.mpr fun id (_ : id ∈ groupWorkerIds (groups + 1)) =>
            chosen
          exact (congrArg List.length all).trans List.length_range'
      | false =>
          have none := List.filter_eq_nil_iff.mpr fun id (_ : id ∈ groupWorkerIds (groups + 1)) =>
            Bool.not_eq_true _ ▸ chosen
          exact congrArg List.length none

end Workers

section Numbers

variable {hashCount groups : Nat}

theorem credentialNumber_eq_iff (positive : 0 < hashCount) {first second : Nat} :
    credentialNumber hashCount first = credentialNumber hashCount second ↔
      first % hashCount = second % hashCount ∧
        first / hashCount / 2 = second / hashCount / 2 := by
  have parts (index : Nat) : (credentialNumber hashCount index - 1) % hashCount =
        index % hashCount ∧
      (credentialNumber hashCount index - 1) / hashCount = index / hashCount / 2 := by
    rw [credentialNumber, Nat.add_sub_cancel, Nat.add_comm, Nat.mul_comm]
    constructor
    · rw [Nat.add_mul_mod_self_left, Nat.mod_mod]
    · rw [Nat.add_mul_div_left _ _ positive, Nat.div_eq_of_lt (Nat.mod_lt _ positive),
        Nat.zero_add]
      rfl
  constructor
  · intro same
    obtain ⟨firstRest, firstCohort⟩ := parts first
    obtain ⟨secondRest, secondCohort⟩ := parts second
    rw [← firstRest, ← firstCohort, same]
    exact ⟨secondRest, secondCohort⟩
  · rintro ⟨rest, cohort⟩
    unfold credentialNumber credentialCohortIndex groupsPerCredential
    rw [rest, cohort]

/-- Credentials are shared by two groups at most. -/
theorem countP_credentialNumber_le (positive : 0 < hashCount) (groups number : Nat) :
    (List.range groups).countP (fun index => credentialNumber hashCount index = number) ≤
      groupsPerCredential := by
  rw [List.countP_eq_length_filter]
  cases shared : (List.range groups).filter fun index =>
      credentialNumber hashCount index = number with
  | nil => exact Nat.zero_le _
  | cons first others =>
      rw [← shared]
      have one : credentialNumber hashCount first = number := by
        have member : first ∈ first :: others := List.mem_cons_self
        rw [← shared] at member
        exact of_decide_eq_true (List.mem_filter.mp member).2
      -- The groups of a hash come in pairs, and the two of a pair are one round apart.
      have pair : (List.range groups).filter
            (fun index => credentialNumber hashCount index = number) ⊆
          [first / hashCount / 2 * 2 * hashCount + first % hashCount,
            (first / hashCount / 2 * 2 + 1) * hashCount + first % hashCount] := by
        intro index member
        have same := of_decide_eq_true (List.mem_filter.mp member).2
        obtain ⟨rest, cohort⟩ := (credentialNumber_eq_iff positive).mp (same.trans one.symm)
        have whole := Nat.div_add_mod index hashCount
        rw [Nat.mul_comm] at whole
        have either : index / hashCount = first / hashCount / 2 * 2 ∨
            index / hashCount = first / hashCount / 2 * 2 + 1 := by omega
        rw [List.mem_cons, List.mem_singleton, ← rest]
        rcases either with even | odd
        · rw [← even]
          exact .inl whole.symm
        · rw [← odd]
          exact .inr whole.symm
      exact (List.subperm_of_subset (List.nodup_range.filter _) pair).length_le

/-- The credentials are numbered from one without gaps. -/
theorem credentialNumber_mem_iff (positive : 0 < hashCount) (groups number : Nat) :
    (∃ index < groups, credentialNumber hashCount index = number) ↔
      1 ≤ number ∧ number ≤ credentialCount hashCount groups := by
  induction groups with
  | zero =>
      rw [credentialCount, Nat.zero_div, Nat.zero_mod]
      constructor
      · rintro ⟨index, none, -⟩
        exact absurd none (Nat.not_lt_zero index)
      · rintro ⟨some, none⟩
        simp at none
        omega
  | succ groups inductionHypothesis =>
      have below := Nat.mod_lt groups positive
      have here : (∃ index < groups + 1, credentialNumber hashCount index = number) ↔
          (∃ index < groups, credentialNumber hashCount index = number) ∨
            credentialNumber hashCount groups = number := by
        constructor
        · rintro ⟨index, before, same⟩
          rcases Nat.lt_succ_iff_lt_or_eq.mp before with earlier | rfl
          · exact .inl ⟨index, earlier, same⟩
          · exact .inr same
        · rintro (⟨index, before, same⟩ | same)
          · exact ⟨index, Nat.lt_succ_of_lt before, same⟩
          · exact ⟨groups, Nat.lt_succ_self _, same⟩
      rw [here, inductionHypothesis, credentialCount_succ positive]
      unfold credentialNumber credentialCount credentialCohortIndex groupsPerCredential
      by_cases even : groups / hashCount % 2 = 0
      · rw [if_pos even, if_pos even]
        omega
      · rw [if_neg even, if_neg even, Nat.add_mul, Nat.one_mul]
        omega

theorem countP_hashIndex (positive : 0 < hashCount) (groups : Nat) {hashIndex : Nat}
    (inside : hashIndex < hashCount) :
    (List.range groups).countP (fun index => index % hashCount = hashIndex) =
      groupsOf hashCount groups hashIndex := by
  induction groups with
  | zero => simp [groupsOf]
  | succ groups inductionHypothesis =>
      rw [List.range_succ, List.countP_append, inductionHypothesis, List.countP_singleton,
        groupsOf_succ positive groups hashIndex inside]
      by_cases here : groups % hashCount = hashIndex
      · rw [if_pos (decide_eq_true here), if_pos here.symm]
      · rw [if_neg (by simp [here]), if_neg (Ne.symm here)]

end Numbers

/-- The groups of a call are those of its place among the calls. -/
theorem countP_hash {hashes : List Text} {hashIndex : Nat} {hash : Text} (distinct : hashes.Nodup)
    (found : hashes[hashIndex]? = some hash) (groups : Nat) :
    (List.range groups).countP (fun index => (sharedCredentials hashes index).hash = hash) =
      groupsOf hashes.length groups hashIndex := by
  have inside := (List.getElem?_eq_some_iff.mp found).1
  have positive := Nat.zero_lt_of_lt inside
  rw [← countP_hashIndex positive groups inside]
  refine List.countP_congr fun index _ => ?_
  have below := Nat.mod_lt index positive
  rw [decide_eq_true_iff, decide_eq_true_iff, sharedCredentials]
  dsimp only
  rw [List.getElem?_eq_getElem below, Option.getD_some]
  constructor
  · intro same
    refine (List.getElem?_inj below distinct).mp ?_
    rw [found, List.getElem?_eq_getElem below, same]
  · intro same
    rw [← same, List.getElem?_eq_getElem below] at found
    exact Option.some.inj found

/-- Whatever number of groups is started for whatever calls: each worker is started once, a
credential has the workers of two groups at most and serves one call only, the credentials are
numbered from one without gaps, and the calls have as many workers as each other but for the
last group. -/
theorem workers_share_credentials (hashes : List Text) (groups : Nat) (some : hashes ≠ []) :
    ∃ workers, runGroups hashes groups = .some workers ∧
      workers.map (·.1) = List.range' 1 (groups * workersPerGroup) ∧
      (∀ number, (workers.filter fun worker => worker.2.credentialId = number).length ≤
        workersPerCredential) ∧
      (∀ first ∈ workers, ∀ second ∈ workers,
        first.2.credentialId = second.2.credentialId → first.2 = second.2) ∧
      (∀ number, (∃ worker ∈ workers, worker.2.credentialId = number) ↔
        1 ≤ number ∧ number ≤ credentialCount hashes.length groups) ∧
      (hashes.Nodup → ∀ first ∈ hashes, ∀ second ∈ hashes,
        (workers.filter fun worker => worker.2.hash = first).length ≤
          (workers.filter fun worker => worker.2.hash = second).length + workersPerGroup) := by
  have positive := List.length_pos_iff.mpr some
  have member {worker : Nat × GroupCredentials} (started : worker ∈ startedWorkers hashes groups) :
      ∃ index < groups, worker.2 = sharedCredentials hashes index := by
    obtain ⟨index, before, group⟩ := List.mem_flatMap.mp started
    obtain ⟨id, -, rfl⟩ := List.mem_map.mp group
    exact ⟨index, List.mem_range.mp before, rfl⟩
  refine ⟨_, runGroups_eq some groups, startedWorkers_ids hashes groups, fun number => ?_,
    fun first one second two same => ?_, fun number => ?_, fun distinct first one second two => ?_⟩
  · have few := countP_credentialNumber_le positive groups number
    rw [length_filter_startedWorkers fun credentials => credentials.credentialId = number]
    exact Nat.mul_le_mul_left workersPerGroup few
  · obtain ⟨first', -, firstShared⟩ := member one
    obtain ⟨second', -, secondShared⟩ := member two
    rw [firstShared, secondShared] at same ⊢
    have rest := ((credentialNumber_eq_iff positive).mp same).1
    have number : credentialNumber hashes.length first' = credentialNumber hashes.length second' :=
      same
    rw [sharedCredentials, sharedCredentials, rest, number]
  · rw [← credentialNumber_mem_iff positive]
    constructor
    · rintro ⟨worker, started, same⟩
      obtain ⟨index, before, shared⟩ := member started
      rw [shared] at same
      exact ⟨index, before, same⟩
    · rintro ⟨index, before, same⟩
      refine ⟨(index * workersPerGroup + 1, sharedCredentials hashes index), ?_, same⟩
      refine List.mem_flatMap.mpr ⟨index, List.mem_range.mpr before, List.mem_map.mpr
        ⟨_, List.mem_range'_1.mpr ⟨?_, ?_⟩, rfl⟩⟩
      · rw [Nat.add_sub_cancel]
      · rw [Nat.add_sub_cancel]
        exact Nat.lt_add_of_pos_right (by decide)
  · obtain ⟨firstIndex, firstFound⟩ := List.getElem?_of_mem one
    obtain ⟨secondIndex, secondFound⟩ := List.getElem?_of_mem two
    rw [length_filter_startedWorkers fun credentials => credentials.hash = first,
      length_filter_startedWorkers fun credentials => credentials.hash = second,
      countP_hash distinct firstFound, countP_hash distinct secondFound, groupsOf, groupsOf,
      ← Nat.mul_succ]
    refine Nat.mul_le_mul_left workersPerGroup ?_
    split <;> split <;> omega

theorem workers_share_credentials_six :
    ∃ workers, runGroups [['a'], ['b']] 6 = some workers ∧
      (workers.filter fun worker => worker.2.credentialId = 1).length ≤ workersPerCredential := by
  obtain ⟨workers, started, -, few, -⟩ :=
    workers_share_credentials [['a'], ['b']] 6 (List.cons_ne_nil _ _)
  exact ⟨workers, started, few 1⟩

/-!
### Reports of a recovery
-/

section Recovery

/-- The times of two reports are as far apart as the gate asks for. -/
def Apart (first second : U64) : Prop :=
  nextReport first ≤ second.toNat ∨ nextReport second ≤ first.toNat

theorem lt_nextReport (nowMs : U64) : 0 < nextReport nowMs :=
  Nat.lt_of_lt_of_le Nat.zero_lt_one (Nat.le_max_right _ _)

/-- Far from the largest word, what lies between is the interval. -/
theorem nextReport_eq {nowMs : U64} (early : nowMs.toNat + recoveryLogIntervalMs < 2 ^ 64) :
    nextReport nowMs = nowMs.toNat + recoveryLogIntervalMs := by
  unfold nextReport recoveryLogIntervalMs at *
  omega

theorem nextReport_le {first second : U64} (late : nextReport first ≤ second.toNat) :
    nextReport first ≤ nextReport second := by
  have bound := second.isLt
  unfold nextReport recoveryLogIntervalMs at *
  omega

namespace RecoveryLog

/-- What a call has added to the count and not yet taken into a report. -/
def counted (call : Thread ObservePoint U64) : Nat :=
  if call.point = .counting then 0 else 1

def reported (call : Thread ObservePoint U64) : Nat :=
  match call.point with
  | .returned (some report) => report
  | _ => 0

/-- What holds of the calls of a gate and its fields. -/
structure Counted (log : RecoveryLog) : Prop where
  kept : (log.calls.map reported).sum + log.gate.pending = (log.calls.map counted).sum
  quiet : log.gate.nextReportMs = 0 → ∀ call ∈ log.calls, call.point.won = false
  next : ∀ call ∈ log.calls, call.point.won = true → nextReport call.tag ≤ log.gate.nextReportMs
  due : ∀ call ∈ log.calls, ∀ deadline, call.point = .exchanging deadline →
    deadline = 0 ∨ deadline ≤ call.tag.toNat
  apart : ∀ (one other : Nat) (first second : Thread ObservePoint U64), one ≠ other →
    log.calls[one]? = some first → log.calls[other]? = some second →
    first.point.won = true → second.point.won = true → Apart first.tag second.tag

variable {self : RecoveryLog} {index : Nat} {call : Thread ObservePoint U64}

theorem counted_start : start.Counted where
  kept := rfl
  quiet := fun _ call member => by cases member
  next := fun call member => by cases member
  due := fun call member => by cases member
  apart := fun one other first second _ found => by
    rw [start, List.getElem?_nil] at found
    cases found

theorem Counted.begin (counted : self.Counted) (nowMs : U64) :
    (self.step (.observe nowMs)).Counted where
  kept := by
    simp only [step, List.map_append, List.sum_append, List.map_cons, List.map_nil, List.sum_cons,
      List.sum_nil]
    have kept := counted.kept
    simp only [reported, RecoveryLog.counted, if_true]
    omega
  quiet := fun fresh call member => by
    rcases List.mem_append.mp member with before | new
    · exact counted.quiet fresh call before
    · cases List.mem_singleton.mp new
      rfl
  next := fun call member won => by
    rcases List.mem_append.mp member with before | new
    · exact counted.next call before won
    · cases List.mem_singleton.mp new
      cases won
  due := fun call member deadline point => by
    rcases List.mem_append.mp member with before | new
    · exact counted.due call before deadline point
    · cases List.mem_singleton.mp new
      cases point
  apart := fun one other first second distinct oneFound otherFound firstWon secondWon => by
    simp only [step] at oneFound otherFound
    rw [List.getElem?_append] at oneFound otherFound
    split at oneFound
    · split at otherFound
      · exact counted.apart one other first second distinct oneFound otherFound firstWon secondWon
      · cases List.mem_singleton.mp (List.mem_of_getElem? otherFound)
        cases secondWon
    · cases List.mem_singleton.mp (List.mem_of_getElem? oneFound)
      cases firstWon

/-- A call that moves on without taking a report that is due. -/
theorem Counted.onward (counted : self.Counted) (here : self.calls[index]? = some call)
    {gate : RecoveryLogGate} {point : ObservePoint}
    (deadline : gate.nextReportMs = self.gate.nextReportMs)
    (won : point.won = call.point.won)
    (kept : reported ⟨point, call.tag⟩ + gate.pending + RecoveryLog.counted call =
      reported call + self.gate.pending + RecoveryLog.counted ⟨point, call.tag⟩)
    (due : ∀ deadline, point = .exchanging deadline →
      deadline = 0 ∨ deadline ≤ call.tag.toNat) :
    Counted
      { gate := gate
        calls := Interleaving.advance self.calls index ⟨point, call.tag⟩ [] } := by
  have member := List.mem_of_getElem? here
  have each {other : Thread ObservePoint U64}
      (inside : other ∈ Interleaving.advance self.calls index ⟨point, call.tag⟩ []) :
      other = ⟨point, call.tag⟩ ∨ other ∈ self.calls := by
    rcases Interleaving.mem_advance inside with moved | new | rest
    · exact .inl moved
    · cases new
    · exact .inr (List.mem_of_mem_eraseIdx rest)
  refine ⟨?_, fun fresh other inside => ?_, fun other inside taken => ?_,
    fun other inside late point => ?_, fun one other first second distinct => ?_⟩
  · have reports := sum_set here ⟨point, call.tag⟩ reported
    have counts := sum_set here ⟨point, call.tag⟩ RecoveryLog.counted
    have before := counted.kept
    simp only [Interleaving.advance, List.append_nil]
    omega
  · rw [deadline] at fresh
    rcases each inside with rfl | old
    · exact won.trans (counted.quiet fresh call member)
    · exact counted.quiet fresh other old
  · rw [deadline]
    rcases each inside with rfl | old
    · exact counted.next call member (won ▸ taken)
    · exact counted.next other old taken
  · rcases each inside with rfl | old
    · exact due late point
    · exact counted.due other old late point
  · intro oneFound otherFound firstWon secondWon
    have seen {place : Nat} {thread : Thread ObservePoint U64}
        (found : (Interleaving.advance self.calls index ⟨point, call.tag⟩ [])[place]? =
          some thread) (taken : thread.point.won = true) :
        ∃ earlier, self.calls[place]? = some earlier ∧ earlier.point.won = true ∧
          earlier.tag = thread.tag := by
      by_cases same : place = index
      · subst same
        rw [Interleaving.getElem?_advance_self here] at found
        cases found
        exact ⟨call, here, won ▸ taken, rfl⟩
      · rw [Interleaving.getElem?_advance_alone same] at found
        exact ⟨thread, found, taken, rfl⟩
    obtain ⟨earlier, oneBefore, earlierWon, firstTag⟩ := seen oneFound firstWon
    obtain ⟨later, otherBefore, laterWon, secondTag⟩ := seen otherFound secondWon
    rw [← firstTag, ← secondTag]
    exact counted.apart one other earlier later distinct oneBefore otherBefore earlierWon laterWon

/-- The exchange succeeds only for a call at whose time the report is due. -/
theorem Counted.taken (counted : self.Counted) {nowMs : U64}
    (here : self.calls[index]? = some ⟨.exchanging self.gate.nextReportMs, nowMs⟩) :
    Counted
      { gate := { self.gate with nextReportMs := nextReport nowMs }
        calls := Interleaving.advance self.calls index ⟨.swapping, nowMs⟩ [] } := by
  have late : ∀ other ∈ self.calls, other.point.won = true →
      nextReport other.tag ≤ nowMs.toNat := by
    intro other member won
    rcases counted.due _ (List.mem_of_getElem? here) _ rfl with none | due
    · have quiet := counted.quiet none other member
      rw [won] at quiet
      cases quiet
    · exact (counted.next other member won).trans due
  have each {other : Thread ObservePoint U64}
      (inside : other ∈ Interleaving.advance self.calls index ⟨.swapping, nowMs⟩ []) :
      other = ⟨.swapping, nowMs⟩ ∨ other ∈ self.calls := by
    rcases Interleaving.mem_advance inside with moved | new | rest
    · exact .inl moved
    · cases new
    · exact .inr (List.mem_of_mem_eraseIdx rest)
  refine ⟨?_, fun fresh => ?_, fun other inside taken => ?_, fun other inside deadline point => ?_,
    fun one other first second distinct oneFound otherFound firstWon secondWon => ?_⟩
  · have reports := sum_set here ⟨.swapping, nowMs⟩ reported
    have counts := sum_set here ⟨.swapping, nowMs⟩ RecoveryLog.counted
    have before := counted.kept
    simp only [reported, RecoveryLog.counted, reduceCtorEq, if_false] at reports counts
    simp only [Interleaving.advance, List.append_nil]
    omega
  · exact absurd fresh (Nat.ne_of_gt (lt_nextReport nowMs))
  · rcases each inside with rfl | old
    · exact Nat.le_refl _
    · exact nextReport_le (late other old taken)
  · rcases each inside with rfl | old
    · cases point
    · exact counted.due other old deadline point
  · by_cases oneHere : one = index
    · subst oneHere
      rw [Interleaving.getElem?_advance_self here] at oneFound
      rw [Interleaving.getElem?_advance_alone (Ne.symm distinct)] at otherFound
      cases oneFound
      exact .inr (late second (List.mem_of_getElem? otherFound) secondWon)
    · rw [Interleaving.getElem?_advance_alone oneHere] at oneFound
      by_cases otherHere : other = index
      · subst otherHere
        rw [Interleaving.getElem?_advance_self here] at otherFound
        cases otherFound
        exact .inl (late first (List.mem_of_getElem? oneFound) firstWon)
      · rw [Interleaving.getElem?_advance_alone otherHere] at otherFound
        exact counted.apart one other first second distinct oneFound otherFound firstWon secondWon

theorem Counted.step (counted : self.Counted) (event : RecoveryLogEvent) :
    (self.step event).Counted := by
  cases event with
  | observe nowMs => exact counted.begin nowMs
  | move index =>
      cases here : self.calls[index]? with
      | none =>
          simp only [RecoveryLog.step, here]
          exact counted
      | some call =>
          obtain ⟨point, nowMs⟩ := call
          simp only [RecoveryLog.step, here]
          cases point with
          | counting =>
              refine counted.onward here rfl rfl ?_ nofun
              simp [RecoveryLogGate.observe, reported, RecoveryLog.counted]
          | loading =>
              rw [RecoveryLogGate.observe]
              split
              · exact counted.onward here rfl rfl rfl nofun
              · next late =>
                  refine counted.onward here rfl rfl rfl fun deadline same => ?_
                  cases same
                  by_cases none : self.gate.nextReportMs = 0
                  · exact .inl none
                  · exact .inr (Nat.le_of_not_lt fun early => late ⟨none, early⟩)
          | exchanging deadline =>
              rw [RecoveryLogGate.observe]
              split
              · next same =>
                  rw [← same] at here
                  exact counted.taken here
              · exact counted.onward here rfl rfl rfl nofun
          | swapping =>
              refine counted.onward here rfl rfl ?_ nofun
              simp [RecoveryLogGate.observe, reported, RecoveryLog.counted]
          | returned report => exact counted.onward here rfl rfl rfl nofun

theorem counted_run (events : List RecoveryLogEvent) : (run events).Counted := by
  induction events using List.reverseRecOn with
  | nil => exact counted_start
  | append_singleton events event inductionHypothesis =>
      rw [run, List.foldl_append]
      exact inductionHypothesis.step event

end RecoveryLog

end Recovery

/-- However the operations of any calls interleave, no observation is lost or reported twice, and
the times of two calls that report are the interval apart. -/
theorem recovery_log_counts (events : List RecoveryLogEvent) :
    ((RecoveryLog.run events).calls.map RecoveryLog.reported).sum +
        (RecoveryLog.run events).gate.pending =
      ((RecoveryLog.run events).calls.map RecoveryLog.counted).sum ∧
    ∀ (one other firstReport secondReport : Nat) (first second : U64), one ≠ other →
      (RecoveryLog.run events).calls[one]? = some ⟨.returned (some firstReport), first⟩ →
      (RecoveryLog.run events).calls[other]? = some ⟨.returned (some secondReport), second⟩ →
      Apart first second := by
  have counted := RecoveryLog.counted_run events
  refine ⟨counted.kept, ?_⟩
  intro one other firstReport secondReport first second distinct oneFound otherFound
  have apart := counted.apart one other ⟨.returned (some firstReport), first⟩
    ⟨.returned (some secondReport), second⟩ distinct oneFound otherFound rfl rfl
  exact apart

/-!
### Starts
-/

namespace WorkerStarts

/-- The call got the lock, has its slot and was started in it. -/
def Started (starts : WorkerStarts) (index locked scheduled time : Nat) : Prop :=
  starts.calls[index]? = some (.started locked scheduled time)

/-- The call has the lock and sleeps till its slot. -/
def Sleeping (starts : WorkerStarts) (index locked scheduled : Nat) : Prop :=
  starts.calls[index]? = some (.sleeping locked scheduled)

/-- What holds of the calls that wait for their start. -/
structure Paced (interval : Nat) (starts : WorkerStarts) : Prop where
  sleeping : ∀ index locked scheduled, starts.Sleeping index locked scheduled →
    starts.pacer.holder = some index ∧ scheduled = max starts.pacer.next locked
  started : ∀ index locked scheduled time,
    starts.Started index locked scheduled time →
    scheduled + interval ≤ starts.pacer.next ∧ locked ≤ scheduled ∧ scheduled ≤ time
  spaced : ∀ one other locked scheduled time locked' scheduled' time', one ≠ other →
    starts.Started one locked scheduled time →
    starts.Started other locked' scheduled' time' →
    scheduled + interval ≤ scheduled' ∨ scheduled' + interval ≤ scheduled
  next : starts.pacer.next = 0 ∨ ∃ index locked scheduled time,
    starts.Started index locked scheduled time ∧
      scheduled + interval = starts.pacer.next
  prompt : ∀ index locked scheduled time,
    starts.Started index locked scheduled time → scheduled = locked ∨
      ∃ earlier locked' scheduled' time',
        starts.Started earlier locked' scheduled' time' ∧
          scheduled' + interval = scheduled

variable {interval : Nat} {self : WorkerStarts} {index : Nat} {point : StartPoint}

theorem paced_start (interval : Nat) : Paced interval start where
  sleeping := nofun
  started := nofun
  spaced := nofun
  next := .inl rfl
  prompt := nofun

/-- A step after which the same calls are started. -/
theorem Paced.still (paced : Paced interval self) {starts : WorkerStarts}
    (next : starts.pacer.next = self.pacer.next)
    (same : ∀ index locked scheduled time,
      starts.Started index locked scheduled time ↔
        self.Started index locked scheduled time)
    (sleeping : ∀ index locked scheduled,
      starts.Sleeping index locked scheduled →
        starts.pacer.holder = some index ∧ scheduled = max self.pacer.next locked) :
    Paced interval starts := by
  refine ⟨fun index locked scheduled found => ?_, fun index locked scheduled time found => ?_,
    fun one other _ _ _ _ _ _ distinct oneFound otherFound => ?_, ?_,
    fun index locked scheduled time found => ?_⟩
  · rw [next]
    exact sleeping index locked scheduled found
  · rw [next]
    exact paced.started index locked scheduled time ((same _ _ _ _).mp found)
  · exact paced.spaced _ _ _ _ _ _ _ _ distinct ((same _ _ _ _).mp oneFound)
      ((same _ _ _ _).mp otherFound)
  · rw [next]
    refine paced.next.imp_right ?_
    rintro ⟨index, locked, scheduled, time, found, last⟩
    exact ⟨index, locked, scheduled, time, (same _ _ _ _).mpr found, last⟩
  · refine (paced.prompt index locked scheduled time ((same _ _ _ _).mp found)).imp_right ?_
    rintro ⟨earlier, locked', scheduled', time', before, last⟩
    exact ⟨earlier, locked', scheduled', time', (same _ _ _ _).mpr before, last⟩

/-- A call that was not started and is not started by the step. -/
theorem Paced.moved (paced : Paced interval self) {before : StartPoint}
    (here : self.calls[index]? = some before)
    (was : ∀ locked scheduled time, before ≠ .started locked scheduled time)
    (becomes : ∀ locked scheduled time, point ≠ .started locked scheduled time)
    {holder : Option Nat}
    (sleeping : ∀ other locked scheduled : Nat,
      (self.calls.set index point)[other]? = some (.sleeping locked scheduled) →
        holder = some other ∧ scheduled = max self.pacer.next locked) :
    Paced interval
      { self with
        pacer := { self.pacer with holder := holder }
        calls := self.calls.set index point } := by
  have inside := (List.getElem?_eq_some_iff.mp here).1
  refine paced.still rfl (fun other locked scheduled time => ?_) sleeping
  unfold Started
  by_cases same : other = index
  · subst same
    dsimp only
    rw [List.getElem?_set_self inside, here]
    exact iff_of_false (fun found => becomes _ _ _ (Option.some.inj found))
      fun found => was _ _ _ (Option.some.inj found)
  · dsimp only
    rw [List.getElem?_set_ne (Ne.symm same)]

theorem Paced.wait (paced : Paced interval self) : Paced interval (self.step interval .wait) := by
  refine paced.still rfl (fun index locked scheduled time => ?_)
    fun index locked scheduled found => ?_
  · unfold Started
    simp only [WorkerStarts.step]
    rw [List.getElem?_append]
    split
    · rfl
    · next beyond =>
        rw [List.getElem?_eq_none (Nat.le_of_not_lt beyond)]
        refine iff_of_false (fun found => ?_) nofun
        cases List.mem_singleton.mp (List.mem_of_getElem? found)
  · unfold Sleeping at found
    simp only [WorkerStarts.step] at found
    rw [List.getElem?_append] at found
    split at found
    · exact paced.sleeping index locked scheduled found
    · cases List.mem_singleton.mp (List.mem_of_getElem? found)

/-- No call sleeps while the lock is free. -/
theorem Paced.free (paced : Paced interval self) (free : self.pacer.holder = none) {other : Nat}
    {locked scheduled : Nat} : ¬ self.Sleeping other locked scheduled := by
  intro sleeps
  have held := (paced.sleeping _ _ _ sleeps).1
  rw [free] at held
  cases held

theorem Paced.wake (paced : Paced interval self) {locked scheduled : Nat}
    (here : self.Sleeping index locked scheduled) (due : scheduled ≤ self.now) :
    Paced interval
      { self with
        pacer := { next := scheduled + interval, holder := none }
        calls := self.calls.set index (.started locked scheduled self.now) } := by
  have inside := (List.getElem?_eq_some_iff.mp here).1
  obtain ⟨held, slot⟩ := paced.sleeping _ _ _ here
  have becomes (other : Nat) (locked' scheduled' time' : Nat) :
      (self.calls.set index (.started locked scheduled self.now))[other]? =
          some (.started locked' scheduled' time') ↔
        (other = index ∧ locked' = locked ∧ scheduled' = scheduled ∧ time' = self.now) ∨
          self.Started other locked' scheduled' time' := by
    unfold Started
    by_cases same : other = index
    · subst same
      rw [List.getElem?_set_self inside, here]
      simp [eq_comm]
    · rw [List.getElem?_set_ne (Ne.symm same)]
      simp [same]
  have behind (other locked' scheduled' time' : Nat)
      (before : self.Started other locked' scheduled' time') : scheduled' + interval ≤ scheduled :=
    (paced.started _ _ _ _ before).1.trans (slot ▸ Nat.le_max_left _ _)
  refine ⟨fun other locked' scheduled' found => ?_, fun other locked' scheduled' time' found => ?_,
    fun one other _ _ _ _ _ _ distinct oneFound otherFound => ?_, .inr ?_,
    fun other locked' scheduled' time' found => ?_⟩
  · unfold Sleeping at found
    by_cases same : other = index
    · subst same
      dsimp only at found
      rw [List.getElem?_set_self inside] at found
      cases found
    · dsimp only at found
      rw [List.getElem?_set_ne (Ne.symm same)] at found
      have one := (paced.sleeping _ _ _ found).1
      rw [held] at one
      exact absurd (Option.some.inj one).symm same
  · rcases (becomes _ _ _ _).mp found with ⟨rfl, rfl, rfl, rfl⟩ | before
    · exact ⟨Nat.le_refl _, slot ▸ Nat.le_max_right _ _, due⟩
    · have earlier := paced.started _ _ _ _ before
      exact ⟨(behind _ _ _ _ before).trans (Nat.le_add_right _ _), earlier.2⟩
  · rcases (becomes _ _ _ _).mp oneFound with ⟨rfl, rfl, rfl, rfl⟩ | oneBefore
    · rcases (becomes _ _ _ _).mp otherFound with ⟨rfl, -⟩ | otherBefore
      · exact absurd rfl distinct
      · exact .inr (behind _ _ _ _ otherBefore)
    · rcases (becomes _ _ _ _).mp otherFound with ⟨rfl, rfl, rfl, rfl⟩ | otherBefore
      · exact .inl (behind _ _ _ _ oneBefore)
      · exact paced.spaced _ _ _ _ _ _ _ _ distinct oneBefore otherBefore
  · exact ⟨index, locked, scheduled, self.now, (becomes _ _ _ _).mpr (.inl ⟨rfl, rfl, rfl, rfl⟩),
      rfl⟩
  · have kept : (∃ earlier locked'' scheduled'' time'',
        self.Started earlier locked'' scheduled'' time'' ∧ scheduled'' + interval = scheduled') →
        ∃ earlier locked'' scheduled'' time'', Started
          { self with
            pacer := { next := scheduled + interval, holder := none }
            calls := self.calls.set index (.started locked scheduled self.now) }
          earlier locked'' scheduled'' time'' ∧ scheduled'' + interval = scheduled' := by
      rintro ⟨earlier, locked'', scheduled'', time'', before, last⟩
      exact ⟨earlier, locked'', scheduled'', time'', (becomes _ _ _ _).mpr (.inr before), last⟩
    rcases (becomes _ _ _ _).mp found with ⟨rfl, rfl, rfl, rfl⟩ | before
    · rcases Nat.le_total self.pacer.next locked' with idle | busy
      · exact .inl (slot.trans (Nat.max_eq_right idle))
      · have next := slot.trans (Nat.max_eq_left busy)
        rcases paced.next with none | last
        · rw [none, Nat.le_zero] at busy
          exact .inl (next.trans (none.trans busy.symm))
        · rw [← next] at last
          exact .inr (kept last)
    · exact (paced.prompt _ _ _ _ before).imp_right kept

theorem Paced.step (paced : Paced interval self) (event : StartEvent) :
    Paced interval (self.step interval event) := by
  cases event with
  | wait => exact paced.wait
  | lock index =>
      simp only [WorkerStarts.step]
      split
      · next both =>
          refine paced.moved both.1 (fun _ _ _ same => by cases same)
            (fun _ _ _ same => by cases same) fun other locked scheduled found => ?_
          by_cases same : other = index
          · subst same
            rw [List.getElem?_set_self (List.getElem?_eq_some_iff.mp both.1).1] at found
            cases found
            exact ⟨rfl, rfl⟩
          · rw [List.getElem?_set_ne (Ne.symm same)] at found
            exact absurd found (paced.free both.2)
      · exact paced
  | wake index =>
      simp only [WorkerStarts.step]
      split
      · next locked scheduled here =>
          split
          · next due => exact paced.wake here due
          · exact paced
      · exact paced
  | cancel index =>
      simp only [WorkerStarts.step]
      split
      · next here =>
          refine paced.moved here (fun _ _ _ same => by cases same)
            (fun _ _ _ same => by cases same) fun other locked scheduled found => ?_
          by_cases same : other = index
          · subst same
            rw [List.getElem?_set_self (List.getElem?_eq_some_iff.mp here).1] at found
            cases found
          · rw [List.getElem?_set_ne (Ne.symm same)] at found
            exact paced.sleeping other locked scheduled found
      · next locked scheduled here =>
          refine paced.moved here (fun _ _ _ same => by cases same)
            (fun _ _ _ same => by cases same) fun other locked' scheduled' found => ?_
          by_cases same : other = index
          · subst same
            rw [List.getElem?_set_self (List.getElem?_eq_some_iff.mp here).1] at found
            cases found
          · rw [List.getElem?_set_ne (Ne.symm same)] at found
            have one := (paced.sleeping _ _ _ here).1
            rw [(paced.sleeping _ _ _ found).1] at one
            exact absurd (Option.some.inj one) same
      · exact paced
  | pass time =>
      exact paced.still rfl (fun _ _ _ _ => Iff.rfl) fun _ _ _ found => paced.sleeping _ _ _ found

theorem paced_run (interval : Nat) (events : List StartEvent) :
    Paced interval (run interval events) := by
  induction events using List.reverseRecOn with
  | nil => exact paced_start interval
  | append_singleton events event inductionHypothesis =>
      rw [run, List.foldl_append]
      exact inductionHypothesis.step event

end WorkerStarts

/-- However many calls wait, get the lock and are cancelled: the slots of two starts are an
interval apart, a start comes in its slot, and its slot is the moment at which it got the lock
unless the interval behind another start had not passed. A cancelled call takes no slot. -/
theorem worker_starts_spaced (interval : Nat) (events : List StartEvent) :
    (∀ one other locked scheduled time locked' scheduled' time' : Nat, one ≠ other →
      (WorkerStarts.run interval events).Started one locked scheduled time →
      (WorkerStarts.run interval events).Started other locked' scheduled' time' →
      scheduled + interval ≤ scheduled' ∨ scheduled' + interval ≤ scheduled) ∧
    ∀ index locked scheduled time : Nat,
      (WorkerStarts.run interval events).Started index locked scheduled time →
      locked ≤ scheduled ∧ scheduled ≤ time ∧
        (scheduled = locked ∨ ∃ earlier locked' scheduled' time',
          (WorkerStarts.run interval events).Started earlier locked' scheduled' time' ∧
            scheduled' + interval = scheduled) := by
  have paced := WorkerStarts.paced_run interval events
  refine ⟨paced.spaced, fun index locked scheduled time started => ?_⟩
  have order := (paced.started _ _ _ _ started).2
  exact ⟨order.1, order.2, paced.prompt _ _ _ _ started⟩

end Csqtt
