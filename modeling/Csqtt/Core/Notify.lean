/-
Module: Csqtt.Core.Notify
Purpose: A notifier with at most one waiter: a wake-up for one is kept for later if nobody
  waits, a wake-up for all reaches who waits or has announced to.
Trusted boundary: none
Main exports: Notify, notified, notifyOne, notifyWaiters, claim, enlist, poll, leave, wakes
-/
import Mathlib.Data.Nat.Basic

namespace Csqtt

/-- The waiter: not on the list, waiting on it, or taken off it with a wake-up that it has
not seen. -/
inductive Waiter where
  | absent
  | waiting
  | one
  | all
deriving DecidableEq, Repr

/-- `calls` counts the wake-ups for all. -/
structure Notify where
  permit : Bool
  calls : Nat
  waiter : Waiter
deriving DecidableEq, Repr

namespace Notify

def new : Notify where
  permit := false
  calls := 0
  waiter := .absent

/-- To announce that one will wait is to remember the count of calls. -/
def notified (self : Notify) : Nat := self.calls

def notifyOne (self : Notify) : Notify :=
  match self.waiter with
  | .waiting => { self with waiter := .one }
  | _ => { self with permit := true }

def notifyWaiters (self : Notify) : Notify :=
  { self with
    calls := self.calls + 1
    waiter := if self.waiter = .waiting then .all else self.waiter }

/-- The first thing that one who comes to wait does is to look for a kept wake-up. -/
def claim (self : Notify) : Option Notify :=
  if self.permit then some { self with permit := false } else none

/-- Then it goes on the list, unless a wake-up has come since it announced itself. -/
def enlist (self : Notify) (seen : Nat) : Notify × Bool :=
  if self.calls ≠ seen then (self, true)
  else if self.permit then ({ self with permit := false }, true)
  else ({ self with waiter := .waiting }, false)

/-- A waiter that is woken looks for what woke it. -/
def poll (self : Notify) : Option Notify :=
  match self.waiter with
  | .one => some { self with waiter := .absent }
  | .all => some { self with waiter := .absent }
  | _ => none

/-- A waiter that gives up hands on a wake-up meant for one. -/
def leave (self : Notify) : Notify :=
  match self.waiter with
  | .one => { self with waiter := .absent, permit := true }
  | _ => { self with waiter := .absent }

/-- There is a wake-up that has not been used. -/
def wakes (self : Notify) : Bool :=
  self.permit || self.waiter == .one || self.waiter == .all

/-- One who announced itself would not have to wait. -/
def ready (self : Notify) (seen : Nat) : Bool :=
  self.permit || self.calls != seen

theorem wakes_notifyOne (self : Notify) : self.notifyOne.wakes = true := by
  rw [notifyOne]
  split
  · simp [wakes]
  · rfl

theorem permit_notifyOne {self : Notify} (nobody : self.waiter ≠ .waiting) :
    self.notifyOne.permit = true := by
  rw [notifyOne]
  split
  · contradiction
  · rfl

theorem ready_notifyOne {self : Notify} {seen : Nat} (nobody : self.waiter ≠ .waiting) :
    self.notifyOne.ready seen = true := by
  rw [ready, permit_notifyOne nobody]
  rfl

theorem waiter_notifyOne (self : Notify) : self.notifyOne.waiter ≠ .waiting := by
  rw [notifyOne]
  split
  · exact Waiter.noConfusion
  · assumption

theorem calls_notifyOne (self : Notify) : self.notifyOne.calls = self.calls := by
  rw [notifyOne]
  split
  · rfl
  · rfl

theorem wakes_notifyWaiters {self : Notify} (wakes : self.wakes = true) :
    self.notifyWaiters.wakes = true := by
  obtain ⟨permit, calls, waiter⟩ := self
  cases waiter with
  | absent => exact wakes
  | waiting => simp [Notify.wakes, notifyWaiters]
  | one => simp [Notify.wakes, notifyWaiters]
  | all => simp [Notify.wakes, notifyWaiters]

theorem ready_notifyWaiters {self : Notify} {seen : Nat} (earlier : seen ≤ self.calls) :
    self.notifyWaiters.ready seen = true := by
  have later : self.calls + 1 ≠ seen := Nat.ne_of_gt (Nat.lt_succ_of_le earlier)
  exact Bool.or_eq_true_iff.mpr (Or.inr (bne_iff_ne.mpr later))

theorem waiter_notifyWaiters (self : Notify) : self.notifyWaiters.waiter ≠ .waiting := by
  rw [notifyWaiters]
  split
  · exact Waiter.noConfusion
  · assumption

/-- Who goes on the list finds nothing that would wake it. -/
theorem not_ready_of_enlist {self : Notify} {seen : Nat} (listed : (self.enlist seen).2 = false) :
    self.ready seen = false ∧ (self.enlist seen).1 = { self with waiter := .waiting } := by
  rw [enlist] at listed ⊢
  split at listed
  · cases listed
  · next same =>
      split at listed
      · cases listed
      · next none => simp [ready, Decidable.of_not_not same, none]

theorem waiter_of_poll {self polled : Notify} (woken : self.poll = some polled) :
    polled.waiter = .absent := by
  rw [poll] at woken
  split at woken
  · cases woken
    rfl
  · cases woken
    rfl
  · cases woken

theorem waiter_leave (self : Notify) : self.leave.waiter = .absent := by
  rw [leave]
  split
  · rfl
  · rfl

theorem waiter_claim {self claimed : Notify} (woken : self.claim = some claimed) :
    claimed.waiter = self.waiter := by
  rw [claim] at woken
  split at woken
  · cases woken
    rfl
  · cases woken

theorem waiter_enlist {self : Notify} {seen : Nat} (woken : (self.enlist seen).2 = true) :
    (self.enlist seen).1.waiter = self.waiter := by
  rw [enlist] at woken ⊢
  split at woken
  · next changed => rw [if_pos changed]
  · next same =>
      split at woken
      · next permit => rw [if_neg same, if_pos permit]
      · cases woken

end Notify

end Csqtt
