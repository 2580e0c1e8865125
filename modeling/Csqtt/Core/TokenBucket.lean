/-
Module: Csqtt.Core.TokenBucket
Purpose: A bucket that is refilled by one token per interval up to a burst: how many
  requests it grants within a window, at most and at worst.
Trusted boundary: none
Main exports: TokenBucket, allow, grantedIn, grantedIn_le, greedyTimes, grantedIn_greedy
-/
import Csqtt.Core.Transducer
import Mathlib.Algebra.Order.Group.Nat
import Mathlib.Data.List.Basic

namespace Csqtt

structure TokenBucket where
  tokens : Nat
  updated : Nat

namespace TokenBucket

open Transducer

variable (burst interval : Nat)

def refilled (self : TokenBucket) (now : Nat) : TokenBucket :=
  let refill := (now - self.updated) / interval
  { tokens := min (self.tokens + refill) burst
    updated := self.updated + interval * refill }

/-- Take a token for a request, if there is one. -/
def allow (self : TokenBucket) (now : Nat) : TokenBucket × Bool :=
  let self := self.refilled burst interval now
  if self.tokens = 0 then (self, false) else ({ self with tokens := self.tokens - 1 }, true)

/-- How many of the requests at these times were granted between two times. -/
def grantedIn (times : List Nat) (answers : List Bool) (opens closes : Nat) : Nat :=
  (times.zip answers).countP fun entry => entry.2 && decide (opens ≤ entry.1 ∧ entry.1 ≤ closes)

variable {burst interval} {self : TokenBucket}

@[simp] theorem grantedIn_nil (opens closes : Nat) : grantedIn [] [] opens closes = 0 := rfl

theorem grantedIn_cons (now : Nat) (times : List Nat) (answer : Bool) (answers : List Bool)
    (opens closes : Nat) :
    grantedIn (now :: times) (answer :: answers) opens closes =
      grantedIn times answers opens closes +
        if answer = true ∧ opens ≤ now ∧ now ≤ closes then 1 else 0 := by
  rw [grantedIn, List.zip_cons_cons, List.countP_cons, grantedIn]
  simp only [Bool.and_eq_true, decide_eq_true_eq]

theorem grantedIn_eq_zero {times : List Nat} (answers : List Bool) {opens closes : Nat}
    (late : ∀ time ∈ times, closes < time) : grantedIn times answers opens closes = 0 := by
  rw [grantedIn, List.countP_eq_zero]
  intro entry listed granted
  have inside := of_decide_eq_true (Bool.and_eq_true_iff.mp granted).2
  have after := late entry.1 (List.of_mem_zip listed).1
  exact absurd inside.2 (Nat.not_le_of_lt after)

/-!
### At most
-/

/-- Tokens that a bucket can come to give until some time. -/
def potential (interval : Nat) (self : TokenBucket) (closes : Nat) : Nat :=
  self.tokens + (closes - self.updated) / interval

/-- A refill moves what is due into the bucket, as far as there is room. -/
theorem potential_refilled (self : TokenBucket) {now closes : Nat} (before : now ≤ closes) :
    potential interval (self.refilled burst interval now) closes ≤
      potential interval self closes := by
  have due : (now - self.updated) / interval ≤ (closes - self.updated) / interval :=
    Nat.div_le_div_right (Nat.sub_le_sub_right before _)
  have left : (closes - (self.updated + interval * ((now - self.updated) / interval))) / interval =
      (closes - self.updated) / interval - (now - self.updated) / interval := by
    rw [Nat.sub_add_eq, Nat.sub_mul_div]
  have kept := Nat.min_le_left (self.tokens + (now - self.updated) / interval) burst
  simp only [potential, refilled, left]
  omega

/-- A request that is granted lowers the potential by one. -/
theorem potential_allow (self : TokenBucket) {now closes : Nat} (before : now ≤ closes) :
    potential interval (self.allow burst interval now).1 closes +
        (if (self.allow burst interval now).2 = true then 1 else 0) ≤
      potential interval self closes := by
  have refill : potential interval (self.refilled burst interval now) closes ≤
      potential interval self closes := potential_refilled self before
  rw [allow]
  by_cases empty : (self.refilled burst interval now).tokens = 0
  · rw [if_pos empty]
    exact refill
  · rw [if_neg empty]
    simp only [potential, if_true] at refill ⊢
    omega

/-- Until a time, a bucket grants what it can come to give until then. -/
theorem grantedIn_le_potential (self : TokenBucket) {times : List Nat}
    (rising : times.Pairwise (· ≤ ·)) (opens closes : Nat) :
    grantedIn times (run (allow burst interval) self times).2 opens closes ≤
      potential interval self closes := by
  induction times generalizing self with
  | nil => exact Nat.zero_le _
  | cons now times inductionHypothesis =>
      obtain ⟨first, rest⟩ := List.pairwise_cons.mp rising
      by_cases before : now ≤ closes
      · rw [run_cons, grantedIn_cons]
        have later := inductionHypothesis (self.allow burst interval now).1 rest
        have spent : potential interval (self.allow burst interval now).1 closes +
            (if (self.allow burst interval now).2 = true then 1 else 0) ≤
            potential interval self closes := potential_allow self before
        have counted : (if (self.allow burst interval now).2 = true ∧ opens ≤ now ∧ now ≤ closes
            then 1 else 0) ≤ if (self.allow burst interval now).2 = true then 1 else 0 := by
          split
          · next granted => rw [if_pos granted.1]
          · exact Nat.zero_le _
        omega
      · rw [grantedIn_eq_zero]
        · exact Nat.zero_le _
        · intro time listed
          have after : closes < now := Nat.lt_of_not_le before
          rcases List.mem_cons.mp listed with rfl | later
          · exact after
          · exact Nat.lt_of_lt_of_le after (first time later)

/-- A second refill at the same time adds nothing. -/
theorem refilled_refilled (self : TokenBucket) (now : Nat) :
    (self.refilled burst interval now).refilled burst interval now =
      self.refilled burst interval now := by
  have nothing :
      (now - (self.updated + interval * ((now - self.updated) / interval))) / interval = 0 := by
    rw [Nat.sub_add_eq, Nat.sub_mul_div, Nat.sub_self]
  simp only [refilled, nothing, Nat.add_zero, Nat.mul_zero, Nat.min_assoc, Nat.min_self]

theorem allow_refilled (self : TokenBucket) (now : Nat) :
    (self.refilled burst interval now).allow burst interval now =
      self.allow burst interval now := by
  rw [allow, refilled_refilled self now, allow]

/-- A refill leaves less than an interval that is not accounted for. -/
theorem lt_updated_refilled (self : TokenBucket) (now : Nat) (positive : 0 < interval) :
    now < (self.refilled burst interval now).updated + interval := by
  have below := Nat.lt_mul_div_succ (now - self.updated) positive
  simp only [refilled]
  rw [Nat.mul_add, Nat.mul_one] at below
  omega

/-- What is due after a pause that is not too long. -/
theorem refills_le {elapsed pause most : Nat} (positive : 0 < interval)
    (short : pause < interval * most) (recent : elapsed < pause + interval) :
    elapsed / interval ≤ most := by
  apply Nat.le_of_lt_succ
  apply (Nat.div_lt_iff_lt_mul positive).mpr
  rw [Nat.succ_mul, Nat.mul_comm]
  omega

theorem updated_refilled_le (self : TokenBucket) {now : Nat} (reached : self.updated ≤ now) :
    (self.refilled burst interval now).updated ≤ now := by
  have whole := Nat.mul_div_le (now - self.updated) interval
  simp only [refilled]
  omega

theorem updated_allow (self : TokenBucket) (now : Nat) :
    (self.allow burst interval now).1.updated = (self.refilled burst interval now).updated := by
  rw [allow]
  split
  · rfl
  · rfl

theorem tokens_allow_le (self : TokenBucket) (now : Nat) :
    (self.allow burst interval now).1.tokens ≤ burst := by
  have full : (self.refilled burst interval now).tokens ≤ burst := Nat.min_le_right _ _
  rw [allow]
  split
  · exact full
  · exact Nat.le_trans (Nat.sub_le _ 1) full

/-- Within any window, a bucket grants at most its burst and the tokens of all intervals
that end in the window. -/
theorem grantedIn_le (self : TokenBucket) {times : List Nat} (positive : 0 < interval)
    (rising : times.Pairwise (· ≤ ·)) (opens length : Nat) :
    grantedIn times (run (allow burst interval) self times).2 opens (opens + length) ≤
      burst + (length + interval - 1) / interval := by
  induction times generalizing self with
  | nil => exact Nat.zero_le _
  | cons now times inductionHypothesis =>
      by_cases early : now < opens
      · rw [run_cons, grantedIn_cons, if_neg fun inside => Nat.not_le_of_lt early inside.2.1]
        exact inductionHypothesis _ (List.pairwise_cons.mp rising).2
      · -- The first request in the window finds a burst at most, and all before it is refilled.
        have same : (run (allow burst interval) self (now :: times)).2 =
            (run (allow burst interval) (self.refilled burst interval now) (now :: times)).2 := by
          rw [run_cons, run_cons, allow_refilled self now]
        rw [same]
        apply Nat.le_trans (grantedIn_le_potential _ rising opens (opens + length))
        have accounted : now < (self.refilled burst interval now).updated + interval :=
          lt_updated_refilled self now positive
        have full : (self.refilled burst interval now).tokens ≤ burst := Nat.min_le_right _ _
        have due : (opens + length - (self.refilled burst interval now).updated) / interval ≤
            (length + interval - 1) / interval :=
          Nat.div_le_div_right (by omega)
        exact Nat.add_le_add full due

/-!
### At worst
-/

/-- A burst of requests just before a refill, then one request at every refill. -/
def greedyTimes (burst interval refills : Nat) : List Nat :=
  List.replicate burst (interval - 1) ++
    (List.range refills).map fun refill => interval * (refill + 1)

theorem refilled_before (tokens : Nat) (few : tokens ≤ burst) (positive : 0 < interval) :
    refilled burst interval { tokens := tokens, updated := 0 } (interval - 1) =
      { tokens := tokens, updated := 0 } := by
  have nothing : (interval - 1) / interval = 0 :=
    Nat.div_eq_of_lt (Nat.sub_lt positive Nat.one_pos)
  simp only [refilled, Nat.sub_zero, nothing, Nat.add_zero, Nat.mul_zero, Nat.min_eq_left few]

/-- A burst is granted whole. -/
theorem run_burst (positive : 0 < interval) {tokens : Nat} (few : tokens ≤ burst) :
    run (allow burst interval) { tokens := tokens, updated := 0 }
        (List.replicate tokens (interval - 1)) =
      ({ tokens := 0, updated := 0 }, List.replicate tokens true) := by
  induction tokens with
  | zero => rfl
  | succ tokens inductionHypothesis =>
      have granted : allow burst interval { tokens := tokens + 1, updated := 0 } (interval - 1) =
          ({ tokens := tokens, updated := 0 }, true) := by
        rw [allow, refilled_before (tokens + 1) few positive]
        rfl
      rw [List.replicate_succ, run_cons, granted, inductionHypothesis (Nat.le_of_succ_le few)]
      rfl

/-- Every refill is spent. -/
theorem run_refills (positive : 0 < interval) (some : 0 < burst) (refills : Nat) :
    run (allow burst interval) { tokens := 0, updated := 0 }
        ((List.range refills).map fun refill => interval * (refill + 1)) =
      ({ tokens := 0, updated := interval * refills }, List.replicate refills true) := by
  induction refills with
  | zero => rfl
  | succ refills inductionHypothesis =>
      have due : (interval * (refills + 1) - interval * refills) / interval = 1 := by
        rw [← Nat.mul_sub, Nat.add_sub_cancel_left, Nat.mul_one, Nat.div_self positive]
      have granted : allow burst interval { tokens := 0, updated := interval * refills }
          (interval * (refills + 1)) =
          ({ tokens := 0, updated := interval * (refills + 1) }, true) := by
        have one : min (0 + 1) burst = 1 := Nat.min_eq_left some
        simp only [allow, refilled, due, one]
        rw [if_neg Nat.one_ne_zero, Nat.mul_add]
      rw [List.range_succ, List.map_append, List.map_singleton, run_concat, inductionHypothesis,
        granted, List.replicate_succ']

theorem grantedIn_all {times : List Nat} {opens closes : Nat}
    (inside : ∀ time ∈ times, opens ≤ time ∧ time ≤ closes) :
    grantedIn times (List.replicate times.length true) opens closes = times.length := by
  induction times with
  | nil => rfl
  | cons now times inductionHypothesis =>
      rw [List.length_cons, List.replicate_succ, grantedIn_cons,
        if_pos ⟨rfl, inside now List.mem_cons_self⟩]
      rw [inductionHypothesis fun time listed => inside time (List.mem_cons_of_mem _ listed)]

/-- The bound is reached. -/
theorem grantedIn_greedy (positive : 0 < interval) (some : 0 < burst) (length : Nat) :
    let refills := (length + interval - 1) / interval
    grantedIn (greedyTimes burst interval refills)
        (run (allow burst interval) { tokens := burst, updated := 0 }
          (greedyTimes burst interval refills)).2 (interval - 1) (interval - 1 + length) =
      burst + refills := by
  intro refills
  have answers : (run (allow burst interval) { tokens := burst, updated := 0 }
      (greedyTimes burst interval refills)).2 =
      List.replicate (greedyTimes burst interval refills).length true := by
    rw [greedyTimes, run_append, run_burst positive (Nat.le_refl burst),
      run_refills positive some refills, List.replicate_append_replicate, List.length_append,
      List.length_replicate, List.length_map, List.length_range]
  rw [answers, grantedIn_all]
  · rw [greedyTimes, List.length_append, List.length_replicate, List.length_map,
      List.length_range]
  · intro time listed
    rcases List.mem_append.mp listed with first | later
    · rw [List.eq_of_mem_replicate first]
      exact ⟨Nat.le_refl _, Nat.le_add_right _ _⟩
    · obtain ⟨refill, inRange, rfl⟩ := List.mem_map.mp later
      have bound : refill + 1 ≤ (length + interval - 1) / interval := List.mem_range.mp inRange
      have reach := (Nat.le_div_iff_mul_le positive).mp bound
      rw [Nat.mul_comm] at reach
      have atLeast : interval * 1 ≤ interval * (refill + 1) :=
        Nat.mul_le_mul_left _ (Nat.le_add_left 1 refill)
      constructor
      · omega
      · omega

end TokenBucket

end Csqtt
