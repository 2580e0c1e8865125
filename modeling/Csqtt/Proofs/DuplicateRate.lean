/-
Module: Csqtt.Proofs.DuplicateRate
Purpose: How many packets selective FEC sends twice within a window: the interval between
  two duplicates is cut to whole milliseconds, so they come faster than declared.
Trusted boundary: none
Main exports: Budget.Paced, Budget.granted, Budget.rate_met_iff, Budget.hundred_in_a_second
-/
import Csqtt.Core.TokenBucket
import Csqtt.Engine.TransportWriter

namespace Csqtt

namespace Budget

open Transducer

/-- A refill counts so many intervals at most: the counter has 32 bits. -/
def longestPause : Nat := refillInterval * (2 ^ 32 - 1)

/-- Requests at times that do not fall, after pauses that one refill can make up for. -/
def Paced (last : Nat) : List Nat → Prop
  | [] => True
  | now :: times => last ≤ now ∧ now - last < longestPause ∧ Paced now times

/-- How many of the requests at these times a new budget grants between two times. -/
def granted (created : Nat) (times : List Nat) (opens closes : Nat) : Nat :=
  TokenBucket.grantedIn times (run allow (new created) times).2 opens closes

/-!
### The bucket of a budget
-/

def bucket (self : Budget) : TokenBucket where
  tokens := self.tokens.toNat
  updated := self.updated

/-- The tokens are within the burst, and the last request is within an interval of the
last refill. -/
structure Current (budget : Budget) (last : Nat) : Prop where
  few : budget.tokens.toNat ≤ 16
  reached : budget.updated ≤ last
  recent : last < budget.updated + refillInterval

variable {self : Budget} {last now : Nat}

theorem interval_pos : 0 < refillInterval := by decide

theorem interval_lt_longestPause : refillInterval < longestPause := by decide

/-- What is due after a pause fits into the counter. -/
theorem refill_small (current : self.Current last) (pause : now - last < longestPause) :
    (now - self.updated) / refillInterval ≤ 2 ^ 32 - 1 := by
  have recent := current.recent
  have reached := current.reached
  have elapsed : now - self.updated < now - last + refillInterval := by
    omega
  exact TokenBucket.refills_le interval_pos pause elapsed

theorem toNat_refilled {tokens : U32} {refill : Nat} (small : refill ≤ 2 ^ 32 - 1) :
    (if saturatingAdd tokens (BitVec.ofNat 32 refill) < duplicateBurst then
        saturatingAdd tokens (BitVec.ofNat 32 refill) else duplicateBurst).toNat =
      min (tokens.toNat + refill) 16 := by
  have due : (BitVec.ofNat 32 refill).toNat = refill := by
    rw [BitVec.toNat_ofNat]
    exact Nat.mod_eq_of_lt (Nat.lt_of_le_of_lt small (by decide))
  have sum := toNat_saturatingAdd tokens (BitVec.ofNat 32 refill)
  rw [due] at sum
  have burst : duplicateBurst.toNat = 16 := rfl
  split
  · next below =>
      have fewer := BitVec.lt_def.mp below
      omega
  · next above =>
      have more := Nat.le_of_not_lt fun fewer => above (BitVec.lt_def.mpr fewer)
      omega

/-- Between requests that are paced, a budget is refilled like a bucket of any size. -/
theorem bucket_refilled (current : self.Current last) (pause : now - last < longestPause) :
    (self.refilled now).bucket = self.bucket.refilled 16 refillInterval now := by
  have small := refill_small current pause
  simp only [refilled, TokenBucket.refilled, bucket]
  by_cases nothing : (now - self.updated) / refillInterval = 0
  · rw [if_pos nothing, nothing, Nat.add_zero, Nat.mul_zero, Nat.add_zero,
      Nat.min_eq_left current.few]
  · rw [if_neg nothing]
    simp only [Nat.min_eq_left small, toNat_refilled small]

theorem bucket_allow (current : self.Current last) (pause : now - last < longestPause) :
    ((self.allow now).1.bucket, (self.allow now).2) =
      self.bucket.allow 16 refillInterval now := by
  have refill := bucket_refilled current pause
  rw [allow, TokenBucket.allow, ← refill]
  by_cases empty : (self.refilled now).tokens = 0
  · have none : (self.refilled now).bucket.tokens = 0 := by
      rw [bucket, empty]
      rfl
    simp only [if_pos empty, if_pos none]
  · have some : (self.refilled now).bucket.tokens ≠ 0 := by
      intro none
      exact empty (BitVec.eq_of_toNat_eq none)
    have one : (1 : U32) ≤ (self.refilled now).tokens :=
      BitVec.le_def.mpr (Nat.one_le_iff_ne_zero.mpr some)
    have taken : ((self.refilled now).tokens - 1).toNat =
        (self.refilled now).tokens.toNat - 1 := BitVec.toNat_sub_of_le one
    simp only [if_neg empty, if_neg some]
    simp only [bucket, taken]

theorem Current.allow (current : self.Current last) (order : last ≤ now)
    (pause : now - last < longestPause) : (self.allow now).1.Current now := by
  have step := congrArg Prod.fst (bucket_allow current pause)
  have tokens : (self.allow now).1.tokens.toNat ≤ 16 := by
    have same : (self.allow now).1.tokens.toNat =
        (self.bucket.allow 16 refillInterval now).1.tokens := congrArg TokenBucket.tokens step
    rw [same]
    exact TokenBucket.tokens_allow_le self.bucket now
  have updated : (self.allow now).1.updated =
      (self.bucket.refilled 16 refillInterval now).updated :=
    (congrArg TokenBucket.updated step).trans (TokenBucket.updated_allow self.bucket now)
  constructor
  · exact tokens
  · rw [updated]
    exact TokenBucket.updated_refilled_le self.bucket (current.reached.trans order)
  · rw [updated]
    exact TokenBucket.lt_updated_refilled self.bucket now interval_pos

theorem current_new (created : Nat) : (new created).Current created where
  few := Nat.le_refl 16
  reached := Nat.le_refl created
  recent := Nat.lt_add_of_pos_right interval_pos

/-- A run of paced requests is one of the bucket. -/
theorem run_allow (current : self.Current last) {times : List Nat} (paced : Paced last times) :
    (run Budget.allow self times).2 =
      (run (TokenBucket.allow 16 refillInterval) self.bucket times).2 := by
  induction times generalizing self last with
  | nil => rfl
  | cons now times inductionHypothesis =>
      obtain ⟨order, pause, rest⟩ := paced
      have step := bucket_allow current pause
      rw [run_cons, run_cons, ← step]
      simp only
      rw [inductionHypothesis (current.allow order pause) rest]

theorem Paced.rising {times : List Nat} (paced : Paced last times) :
    (last :: times).Pairwise (· ≤ ·) := by
  induction times generalizing last with
  | nil => exact List.pairwise_singleton _ _
  | cons now times inductionHypothesis =>
      obtain ⟨order, _, rest⟩ := paced
      have rising := inductionHypothesis rest
      apply List.pairwise_cons.mpr
      refine ⟨?_, rising⟩
      intro time listed
      rcases List.mem_cons.mp listed with rfl | later
      · exact order
      · exact order.trans ((List.pairwise_cons.mp rising).1 time later)

/-- Within a window, the burst and one duplicate for every whole interval, cut to
milliseconds, that can end in it. -/
theorem granted_le {created : Nat} {times : List Nat} (paced : Paced created times)
    (opens length : Nat) :
    granted created times opens (opens + length) ≤
      16 + (length + refillInterval - 1) / refillInterval := by
  rw [granted, run_allow (current_new created) paced]
  exact TokenBucket.grantedIn_le _ interval_pos (List.pairwise_cons.mp paced.rising).2 opens length

theorem paced_replicate {time : Nat} (order : last ≤ time) (pause : time - last < longestPause)
    (count : Nat) {times : List Nat} (rest : Paced time times) :
    Paced last (List.replicate (count + 1) time ++ times) := by
  induction count generalizing last with
  | zero => exact ⟨order, pause, rest⟩
  | succ count inductionHypothesis =>
      refine ⟨order, pause, inductionHypothesis (Nat.le_refl time) ?_⟩
      rw [Nat.sub_self]
      exact Nat.zero_lt_of_lt pause

theorem paced_refills (refills : Nat) {first last : Nat}
    (order : last ≤ refillInterval * (first + 1))
    (pause : refillInterval * (first + 1) - last < longestPause) :
    Paced last ((List.range' first refills).map fun refill => refillInterval * (refill + 1)) := by
  induction refills generalizing first last with
  | zero => trivial
  | succ refills inductionHypothesis =>
      rw [List.range'_succ, List.map_cons]
      refine ⟨order, pause, inductionHypothesis ?_ ?_⟩
      · exact Nat.mul_le_mul_left _ (Nat.le_succ (first + 1))
      · rw [← Nat.mul_sub, Nat.add_sub_cancel_left, Nat.mul_one]
        exact interval_lt_longestPause

/-- Requests that take every token as it comes. -/
theorem paced_greedy (refills : Nat) :
    Paced 0 (TokenBucket.greedyTimes 16 refillInterval refills) := by
  rw [TokenBucket.greedyTimes, List.range_eq_range']
  apply paced_replicate (Nat.zero_le _)
  · rw [Nat.sub_zero]
    exact Nat.lt_of_le_of_lt (Nat.sub_le _ 1) interval_lt_longestPause
  · apply paced_refills
    · rw [Nat.zero_add, Nat.mul_one]
      exact Nat.sub_le _ 1
    · rw [Nat.zero_add, Nat.mul_one]
      exact Nat.lt_of_le_of_lt (Nat.sub_le _ _) interval_lt_longestPause

/-- Whatever the length of the window, in nanoseconds: all paced runs keep to the burst, one
more and the declared rate, exactly if the intervals cut to milliseconds that end in a
window do not outrun the declared rate by more than one. -/
theorem rate_met_iff (length : Nat) :
    (∀ created times, Paced created times → ∀ opens,
        granted created times opens (opens + length) * 1000000000 ≤
          (duplicateBurst.toNat + 1) * 1000000000 + duplicatesPerSecond * length) ↔
      (length + refillInterval - 1) / refillInterval * 1000000000 ≤
        1000000000 + duplicatesPerSecond * length := by
  have burst : duplicateBurst.toNat = 16 := rfl
  rw [burst]
  constructor
  · intro met
    have worst := met 0 _ (paced_greedy ((length + refillInterval - 1) / refillInterval))
      (refillInterval - 1)
    rw [granted, run_allow (current_new 0) (paced_greedy _)] at worst
    have reached := TokenBucket.grantedIn_greedy interval_pos (by decide : 0 < 16) length
    simp only [bucket, new, burst] at worst
    rw [reached, Nat.add_mul, Nat.add_mul, Nat.one_mul, Nat.add_assoc] at worst
    exact Nat.le_of_add_le_add_left worst
  · intro slow created times paced opens
    have most := granted_le paced opens length
    calc granted created times opens (opens + length) * 1000000000
      _ ≤ (16 + (length + refillInterval - 1) / refillInterval) * 1000000000 :=
        Nat.mul_le_mul_right 1000000000 most
      _ ≤ (16 + 1) * 1000000000 + duplicatesPerSecond * length := by
        rw [Nat.add_mul, Nat.add_mul, Nat.one_mul, Nat.add_assoc]
        exact Nat.add_le_add_left slow _

/-- Sixteen requests just before a refill, then one at every refill: a hundred duplicates in
a second, where the declared rate allows ninety-seven. -/
theorem hundred_in_a_second :
    Paced 0 (TokenBucket.greedyTimes 16 refillInterval 84) ∧
      granted 0 (TokenBucket.greedyTimes 16 refillInterval 84) (refillInterval - 1)
        (refillInterval - 1 + 1000000000) = 100 ∧
      duplicateBurst.toNat + 1 + duplicatesPerSecond = 97 := by
  refine ⟨paced_greedy 84, ?_, rfl⟩
  decide +kernel

end Budget

end Csqtt
