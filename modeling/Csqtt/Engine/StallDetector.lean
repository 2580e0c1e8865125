/-
Module: Csqtt.Engine.StallDetector
Purpose: The monitor that asks for a probe when the uplink moves and nothing comes back.
Trusted boundary: none
Main exports: StallDetector, observe, Poll, StallMonitor.step
-/
import Mathlib.Algebra.Group.Int.Defs
import Mathlib.Data.Int.Order.Basic
import Csqtt.Core.Transducer

namespace Csqtt

/-- Subtraction of two counters of 64 bits that stops at either end of their range. -/
def i64SaturatingSub (first second : Int) : Int := max (-2 ^ 63) (min (2 ^ 63 - 1) (first - second))

/-- Instants are milliseconds. -/
structure StallDetector where
  lastUp : Int
  lastDown : Int
  stalledPolls : Nat
  lastProbe : Option Nat
deriving DecidableEq, Repr

def stallPolls : Nat := 3
def stallMinUplinkDelta : Int := 4096
def probeMinGap : Nat := 20000

namespace StallDetector

def new (up down : Int) : StallDetector := ⟨up, down, 0, none⟩

/-- The uplink moved and the downlink did not, since the values noted last. -/
def stalled (self : StallDetector) (up down : Int) : Bool :=
  stallMinUplinkDelta ≤ i64SaturatingSub up self.lastUp && down == self.lastDown

/-- Whether the previous probe is too young for another. -/
def probedLately (self : StallDetector) (now : Nat) : Bool :=
  self.lastProbe.any fun previous => now - previous < probeMinGap

def observe (self : StallDetector) (up down : Int) (now : Nat) : StallDetector × Bool :=
  if !self.stalled up down then (⟨up, down, 0, self.lastProbe⟩, false)
  else
    let streak := self.stalledPolls + 1
    if streak < stallPolls ∨ self.probedLately now then (⟨up, down, streak, self.lastProbe⟩, false)
    else (⟨up, down, 0, some now⟩, true)

end StallDetector

/-- What holds at one wake-up of the monitor: the paths that are ready, the bytes up and down
so far, and the time. -/
structure Poll where
  activePaths : Int
  up : Int
  down : Int
  now : Nat
deriving DecidableEq, Repr

namespace StallMonitor

/-- One round of the loop; the output tells whether a probe is signalled. -/
def step (detector : StallDetector) (poll : Poll) : StallDetector × Bool :=
  if poll.activePaths ≤ 0 then (detector, false)
  else detector.observe poll.up poll.down poll.now

end StallMonitor

end Csqtt
