/-
Module: Csqtt.Helper.DataPathGuard
Purpose: The helper's guard of the data path: its fields, its constants and the
  program points of its goroutines, each from one lock or call to the next.
Trusted boundary: the engine, the network probe and the host are answers from outside
Main exports: Reason, DataPathGuard, Point, Hooks, Outside
-/
import Mathlib.Data.List.Basic

namespace Csqtt

/-- Why the guard acts, and what has come of it so far. The source keeps it as a text. -/
inductive Reason where
  | handover
  | stall
  | netchange
  | netback
  | wake
  | probe
  | dialTimeouts
  | zeroPaths
  | rebindTimeout (source : Reason)
  | rebindGap (reason : Reason)
  | softDead (source : Reason)
deriving DecidableEq, Repr

namespace Reason

def text : Reason → String
  | .handover => "handover"
  | .stall => "stall"
  | .netchange => "netchange"
  | .netback => "netback"
  | .wake => "wake"
  | .probe => "probe"
  | .dialTimeouts => "dial-timeouts"
  | .zeroPaths => "zero-paths"
  | .rebindTimeout source => source.text ++ "-rebind-timeout"
  | .rebindGap reason => reason.text ++ "-rebind-gap"
  | .softDead source => source.text ++ "-soft-dead"

/-- The text ends in "-rebind-timeout" or in "-rebind-gap". -/
def rebindFailed : Reason → Bool
  | .rebindTimeout _ => true
  | .rebindGap _ => true
  | _ => false

/-- The last character of a text tells the two endings from all others. -/
theorem getLast?_text (reason : Reason) :
    reason.text.toList.getLast? = some (match reason with
      | .handover => 'r'
      | .stall => 'l'
      | .netchange => 'e'
      | .netback => 'k'
      | .wake => 'e'
      | .probe => 'e'
      | .dialTimeouts => 's'
      | .zeroPaths => 's'
      | .rebindTimeout _ => 't'
      | .rebindGap _ => 'p'
      | .softDead _ => 'd') := by
  cases reason with
  | rebindTimeout source => simp [text, List.getLast?_append]
  | rebindGap reason => simp [text, List.getLast?_append]
  | softDead source => simp [text, List.getLast?_append]
  | _ => rfl

/-- The endings that the source looks for in the text are those two constructors. -/
theorem rebindFailed_iff (reason : Reason) :
    reason.rebindFailed = true ↔
      "-rebind-timeout".toList <:+ reason.text.toList ∨
        "-rebind-gap".toList <:+ reason.text.toList := by
  constructor
  · intro failed
    cases reason with
    | rebindTimeout source => exact Or.inl ⟨source.text.toList, by simp [text]⟩
    | rebindGap reason => exact Or.inr ⟨reason.text.toList, by simp [text]⟩
    | _ => cases failed
  · have last := reason.getLast?_text
    rintro (⟨front, whole⟩ | ⟨front, whole⟩)
    · rw [← whole, List.getLast?_append] at last
      cases reason <;> first | rfl | simp at last
    · rw [← whole, List.getLast?_append] at last
      cases reason <;> first | rfl | simp at last

/-- No other text is that of a regained network. -/
theorem text_eq_netback_iff (reason : Reason) : reason.text = "netback" ↔ reason = .netback := by
  constructor
  · intro same
    have last := reason.getLast?_text
    rw [same] at last
    cases reason <;> first | rfl | simp at last
  · rintro rfl
    rfl

end Reason

/-!
### Constants, in milliseconds
-/

def dataPathDialFailThreshold : Nat := 3
def dataPathRecycleMinGap : Nat := 45000
def dataPathMaxRecycles : Nat := 8
def dataPathEngineSettle : Nat := 800
def dataPathWakeGrace : Nat := 30000
def dataPathPathWaitMax : Nat := 8000
def dataPathPathWaitPoll : Nat := 200
def dataPathRecycleStable : Nat := 60000
def dataPathRebindMinGap : Nat := 3000
def dataPathRebindSettle : Nat := 1000
def dataPathRebindWait : Nat := 15000
def dataPathRebindPoll : Nat := 500
def dataPathSoftResumeWatch : Nat := 25000

/-- The pauses between the probes of a paused guard; the last one repeats. -/
def dataPathPausedProbeDelay : Nat → Nat
  | 0 => 30000
  | 1 => 60000
  | 2 => 120000
  | 3 => 300000
  | 4 => 600000
  | _ => 900000

/-- The fields behind the guard's lock. A time or a text not set yet is `none`. -/
structure DataPathGuard where
  tunIP : String
  dialFails : Nat
  recycles : Nat
  lastRecycle : Option Nat
  recycling : Bool
  paused : Bool
  pauseGen : Nat
  pendingRecycle : Bool
  pendingReason : Option Reason
  graceUntil : Option Nat
  lastRebind : Option Nat
  rebindGen : Nat
  rebindInFlight : Bool
  pendingHandover : Bool
  pendingHandoverSource : Option Reason
  softResumeGen : Nat
  exiting : Bool
deriving DecidableEq, Repr

def newDataPathGuard (tunIP : String) : DataPathGuard where
  tunIP := tunIP
  dialFails := 0
  recycles := 0
  lastRecycle := none
  recycling := false
  paused := false
  pauseGen := 0
  pendingRecycle := false
  pendingReason := none
  graceUntil := none
  lastRebind := none
  rebindGen := 0
  rebindInFlight := false
  pendingHandover := false
  pendingHandoverSource := none
  softResumeGen := 0
  exiting := false

/-- The calls that may be missing, where a missing one takes another way. -/
structure Hooks where
  activeFn : Bool
  rebindFn : Bool
  probeFn : Bool
  rebuildTunFn : Bool
deriving DecidableEq, Repr

/-- The running helper has all of them. -/
def Hooks.production : Hooks where
  activeFn := true
  rebindFn := true
  probeFn := true
  rebuildTunFn := true

/-- What the engine, the network and a dial's context answer if asked now. An address
is the engine's without blanks around it. -/
structure Outside where
  activePaths : Int
  rebound : Bool
  networkUp : Bool
  started : Bool
  ready : Bool
  tunIP : String
  rebuilt : Bool
  packetPort : Int
  dialDone : Bool
deriving DecidableEq, Repr

inductive DialResult where
  | connected
  | timeout
  | failed
deriving DecidableEq, Repr

/-!
### Program points

A goroutine goes from one point to the next without giving anything away: a point is
one locked section, one call out of the guard or one reading of the clock.
-/

/-- The functions that are started as goroutines of their own. -/
inductive GuardCall where
  | heal (reason : Reason)
  | rebindWatchdog (gen : Nat) (source : Reason)
  | watchSoftResume (source : Reason)
  | pausedWatchdog (gen : Nat)
  | requestRecycle (reason : Reason)
deriving DecidableEq, Repr

inductive Point where
  | ended
  | go (call : GuardCall) (next : Point)
  | asleep (wakeUp : Nat) (next : Point)
  | applyEnginePause (value : Bool) (next : Point)
  | noteDialResult (result : DialResult)
  | netlost
  | heal (reason : Reason)
  | healWithinGap (reason : Reason) (inFlight : Bool)
  | resumeFromPause (source : Reason) (next : Point)
  | handover (source : Reason)
  | rebind (gen : Nat) (source : Reason)
  | finishRebind (gen : Nat) (next : Point)
  | rebindWatchdog (gen : Nat) (source : Reason)
  | rebindSettled (gen : Nat) (source : Reason)
  | rebindPoll (gen : Nat) (source : Reason) (deadline : Nat)
  | rebindStale (gen : Nat) (source : Reason) (deadline : Nat)
  | rebindPaths (gen : Nat) (source : Reason) (deadline : Nat)
  | rebindLate (gen : Nat) (source : Reason)
  | rebindTimeout (gen : Nat) (source : Reason)
  | watchSoftResume (source : Reason)
  | softResumeStale (gen : Nat) (source : Reason)
  | softResumePaths (source : Reason)
  | pausedWatchdog (gen round : Nat)
  | pausedStale (gen round : Nat)
  | pausedProbe (gen round : Nat)
  | probeSucceeded (gen : Nat) (source : Reason)
  | onWake
  | wakeProbe (gen : Nat)
  | waitForPath
  | waitPaths
  | waitPoll (deadline : Nat)
  | waitDone (deadline : Nat)
  | waitRejecting (deadline : Nat)
  | waitPathsAgain (deadline : Nat)
  | waitCap
  | waitCapPaths
  | requestRecycle (reason : Reason)
  | stopEngine (reason : Reason) (wantIP : String)
  | startEngine (reason : Reason) (wantIP : String)
  | waitReady (reason : Reason) (wantIP : String)
  | readTunIP (reason : Reason) (wantIP : String)
  | tunIPChanged
  | rebuildTun (reason : Reason) (newIP : String)
  | storeTunIP (reason : Reason) (newIP : String)
  | readPort (reason : Reason)
  | recycled
  | failRecycle (reason : Reason)
deriving DecidableEq, Repr

/-- Where a goroutine begins. -/
def GuardCall.point : GuardCall → Point
  | .heal reason => .heal reason
  | .rebindWatchdog gen source => .rebindWatchdog gen source
  | .watchSoftResume source => .watchSoftResume source
  | .pausedWatchdog gen => .pausedWatchdog gen 0
  | .requestRecycle reason => .requestRecycle reason

/-- First the pause is lifted, then the rebind is decided. -/
def onHandover (source : Reason) : Point := .resumeFromPause source (.handover source)

/-- The nudge of the paths changes nothing here; the watch is started. -/
def afterSoftResume (source : Reason) (next : Point) : Point :=
  .go (.watchSoftResume source) next

end Csqtt
