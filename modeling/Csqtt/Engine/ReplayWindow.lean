/-
Module: Csqtt.Engine.ReplayWindow
Purpose: The replay window of a session: a ring bitmap behind the highest accepted
  counter, and the guess of a full counter from the 16 bits of an RTP sequence number.
Trusted boundary: none
Main exports: ReplayWindow, accept, extendRtp, acceptRtp
-/
import Csqtt.Core.BitRing

namespace Csqtt

def replayWindowSize : Nat := 16384

structure ReplayWindow where
  highest : Option U64
  seen : BitRing 256

namespace ReplayWindow

def new : ReplayWindow where
  highest := none
  seen := .zero

/-- Whether a counter is accepted. A counter in front clears the bits on its way, or
all of them when it jumps past the window. -/
def accept (self : ReplayWindow) (counter : U64) : ReplayWindow × Bool :=
  match self.highest with
  | none => ({ highest := some counter, seen := self.seen.setBit counter.toNat }, true)
  | some highest =>
      if highest < counter then
        let shift := (counter - highest).toNat
        let seen :=
          if replayWindowSize ≤ shift then .zero
          else self.seen.clearRange (highest.toNat + 1) shift
        ({ highest := some counter, seen := seen.setBit counter.toNat }, true)
      else if replayWindowSize ≤ (highest - counter).toNat then (self, false)
      else if self.seen.testBit counter.toNat then (self, false)
      else ({ self with seen := self.seen.setBit counter.toNat }, true)

/-- Guess of the full counter from its low 16 bits: the rollover of the highest counter,
the next one or, unless there is none, the one before. -/
def extendRtp (highest : U64) (sequence : U16) : U64 :=
  let base := highest &&& ~~~0xffff#64
  let extended := base ||| sequence.setWidth 64
  if saturatingAdd extended 0x8000 < highest then saturatingAdd extended 0x10000
  else if saturatingAdd highest 0x8000 < extended ∧ 0x10000 ≤ extended then extended - 0x10000
  else extended

def acceptRtp (self : ReplayWindow) (sequence : U16) : ReplayWindow × Bool :=
  match self.highest with
  | none => self.accept (sequence.setWidth 64)
  | some highest => self.accept (extendRtp highest sequence)

end ReplayWindow

end Csqtt
