/-
Module: Csqtt.Proofs.RelayCopy
Purpose: A relayed direction delivers what it reads, in order, and blames the side that failed.
Trusted boundary: none
Main exports: Round.Ends, upToEnd, relayCopyFrom_eq, relayCopy_faithful
-/
import Csqtt.Socks5.RelayCopy

namespace Csqtt.Socks5

variable {Fault : Type*}

namespace Round

/-- The fault of the read; the end of the stream is none. -/
def readFault (self : Round Fault) : Option Fault :=
  match self.er with
  | some (.fault fault) => some fault
  | _ => none

/-- What the destination takes. -/
def accepted (self : Round Fault) : List U8 := self.data.take self.nw

/-- Whether the copy returns after this round. -/
def ends (self : Round Fault) : Bool := self.writeError.isSome || self.er.isSome

theorem length_accepted (self : Round Fault) : self.accepted.length = self.nw := by
  rw [accepted, List.length_take, Nat.min_eq_left self.within]

/-- A write without a fault takes all that it is given. -/
theorem accepted_of_writeError {round : Round Fault} (flawless : round.writeError = none) :
    round.accepted = round.data := by
  rw [writeError] at flawless
  split at flawless
  · split at flawless
    · cases flawless
    · split at flawless
      · cases flawless
      · next whole => exact List.take_of_length_le (Nat.le_of_eq (not_not.mp whole).symm)
  · next nothing =>
      have empty : round.data = [] := List.length_eq_zero_iff.mp (Nat.eq_zero_of_not_pos nothing)
      rw [accepted, empty, List.take_nil]

theorem writeError_of_not_ends {round : Round Fault} (quiet : ¬ round.ends = true) :
    round.writeError = none ∧ round.er = none := by
  simpa [ends] using quiet

end Round

/-- The rounds that a copy makes: all up to the first that ends it. -/
def upToEnd : List (Round Fault) → List (Round Fault)
  | [] => []
  | round :: rounds => if round.ends then [round] else round :: upToEnd rounds

/-- What the copy has done and what it returns, read off the rounds that it makes. -/
theorem relayCopyFrom_eq (delivered : List U8) (n : Nat) (rounds : List (Round Fault)) :
    relayCopyFrom delivered n rounds =
      { delivered := delivered ++ (upToEnd rounds).flatMap Round.accepted
        n := n + ((upToEnd rounds).flatMap Round.accepted).length
        readErr :=
          if ((upToEnd rounds).findSome? Round.writeError).isSome then none
          else (upToEnd rounds).findSome? Round.readFault
        writeErr := (upToEnd rounds).findSome? Round.writeError
        finished := rounds.any Round.ends } := by
  induction rounds generalizing delivered n with
  | nil => simp [relayCopyFrom, upToEnd]
  | cons round rounds inductionHypothesis =>
      have count := round.length_accepted
      rw [Round.accepted] at count
      rw [relayCopyFrom, upToEnd, List.any_cons]
      cases failed : round.writeError with
      | some error => simp [Round.ends, Round.accepted, failed, count]
      | none =>
          cases ended : round.er with
          | some error =>
              cases error with
              | eof => simp [Round.ends, Round.readFault, Round.accepted, failed, ended, count]
              | fault fault =>
                  simp [Round.ends, Round.readFault, Round.accepted, failed, ended, count]
          | none =>
              have silent : round.readFault = none := by rw [Round.readFault, ended]
              have goes : round.ends = false := by simp [Round.ends, failed, ended]
              simp [inductionHypothesis, goes, failed, silent, Round.accepted, count, Nat.add_assoc]

/-- Only the last round of a copy can take less than it is given. -/
theorem accepted_begins (rounds : List (Round Fault)) :
    (upToEnd rounds).flatMap Round.accepted <+: (upToEnd rounds).flatMap Round.data := by
  induction rounds with
  | nil => exact List.prefix_refl _
  | cons round rounds inductionHypothesis =>
      rw [upToEnd]
      split
      · rw [List.flatMap_singleton, List.flatMap_singleton]
        exact List.take_prefix _ _
      · next quiet =>
          have whole := Round.accepted_of_writeError (Round.writeError_of_not_ends quiet).1
          rw [List.flatMap_cons, List.flatMap_cons, whole]
          exact (List.prefix_append_right_inj _).mpr inductionHypothesis

/-- For any results of the reads and the writes: what arrives is a prefix of what was read, the
count is what the destination took, one side at most is blamed, and without a fault of a write all
that was read arrives. -/
theorem relayCopy_faithful (rounds : List (Round Fault)) :
    (relayCopy rounds).delivered <+: (upToEnd rounds).flatMap Round.data ∧
      (relayCopy rounds).delivered = (upToEnd rounds).flatMap Round.accepted ∧
      (relayCopy rounds).n = (relayCopy rounds).delivered.length ∧
      ((relayCopy rounds).readErr = none ∨ (relayCopy rounds).writeErr = none) ∧
      (relayCopy rounds).writeErr = (upToEnd rounds).findSome? Round.writeError ∧
      ((relayCopy rounds).writeErr = none →
        (relayCopy rounds).delivered = (upToEnd rounds).flatMap Round.data ∧
          (relayCopy rounds).readErr = (upToEnd rounds).findSome? Round.readFault) ∧
      ((relayCopy rounds).finished = true ↔ ∃ round ∈ rounds, round.ends = true) := by
  rw [relayCopy, relayCopyFrom_eq, List.nil_append, Nat.zero_add]
  dsimp only
  refine ⟨accepted_begins rounds, rfl, rfl, ?_, rfl, fun flawless => ⟨?_, ?_⟩,
    List.any_eq_true⟩
  · cases (upToEnd rounds).findSome? Round.writeError with
    | none => exact Or.inr rfl
    | some error => exact Or.inl rfl
  · rw [List.findSome?_eq_none_iff] at flawless
    exact List.flatMap_congr fun round mem => Round.accepted_of_writeError (flawless round mem)
  · rw [flawless]
    rfl

end Csqtt.Socks5
