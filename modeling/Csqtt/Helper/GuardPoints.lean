/-
Module: Csqtt.Helper.GuardPoints
Purpose: What a goroutine of the guard does at each program point: the locked sections
  as functions of the fields, the calls as functions of what is answered.
Trusted boundary: none
Main exports: Helper, perform
-/
import Csqtt.Helper.DataPathGuard

namespace Csqtt

/-- The time is set and less than the gap ago. -/
def recent (last : Option Nat) (now gap : Nat) : Bool :=
  last.any fun time => now - time < gap

namespace DataPathGuard

/-!
### Locked sections

Each gives the fields at the unlock and the point the goroutine goes on to.
-/

/-- A dial that went through clears what failed dials left behind; the recycles are
forgotten only after a quiet while. -/
def noteDialResult (self : DataPathGuard) (now : Nat) :
    DialResult → DataPathGuard × Point
  | .connected =>
      ({ self with
          dialFails := 0
          pendingRecycle := false
          pendingReason := none
          recycles :=
            if self.recycles > 0 ∧ !recent self.lastRecycle now dataPathRecycleStable then 0
            else self.recycles }, .ended)
  | .failed => (self, .ended)
  | .timeout =>
      if self.paused || self.exiting then
        ({ self with
            pendingRecycle := true
            pendingReason := self.pendingReason.or (some .dialTimeouts)
            dialFails := 0 }, .ended)
      else if self.graceUntil.any (now < ·) then (self, .ended)
      else
        ({ self with dialFails := self.dialFails + 1 },
          if dataPathDialFailThreshold ≤ self.dialFails + 1 then .go (.heal .dialTimeouts) .ended
          else .ended)

def netlost (self : DataPathGuard) : DataPathGuard × Point :=
  ({ self with paused := true, pauseGen := self.pauseGen + 1, dialFails := 0 },
    .applyEnginePause true (.go (.pausedWatchdog (self.pauseGen + 1)) .ended))

/-- The fields are only read: where the heal goes on depends on them. -/
def heal (self : DataPathGuard) (hooks : Hooks) (now : Nat) (reason : Reason) : Point :=
  if reason.rebindFailed then .requestRecycle reason
  else if self.exiting then .ended
  else if self.paused then .requestRecycle reason
  else if !hooks.rebindFn then .requestRecycle reason
  else if recent self.lastRebind now dataPathRebindMinGap then
    .healWithinGap reason self.rebindInFlight
  else onHandover reason

def resumeFromPause (self : DataPathGuard) (now : Nat) (source : Reason) (next : Point) :
    DataPathGuard × Point :=
  if !self.paused then (self, next)
  else
    ({ self with
        paused := false
        pauseGen := self.pauseGen + 1
        pendingRecycle := false
        pendingReason := none
        dialFails := 0
        graceUntil := some (now + dataPathWakeGrace) },
      .applyEnginePause false
        (if source ≠ .netback then next
        else if self.pendingRecycle then .go (.heal (self.pendingReason.getD source)) next
        else afterSoftResume source next))

/-- The section of `onHandover` that decides on the rebind. -/
def handover (self : DataPathGuard) (now : Nat) (source : Reason) : DataPathGuard × Point :=
  if self.exiting then (self, .ended)
  else if self.recycling then
    ({ self with
        pendingHandover := true
        pendingHandoverSource := self.pendingHandoverSource.or (some source) }, .ended)
  else if recent self.lastRebind now dataPathRebindMinGap then (self, .ended)
  else
    ({ self with
        lastRebind := some now
        rebindGen := self.rebindGen + 1
        rebindInFlight := true
        dialFails := 0
        graceUntil := some (now + dataPathWakeGrace) }, .rebind (self.rebindGen + 1) source)

def finishRebind (self : DataPathGuard) (gen : Nat) : DataPathGuard :=
  if self.rebindGen = gen then { self with rebindInFlight := false } else self

def rebindStale (self : DataPathGuard) (gen : Nat) : Bool :=
  self.rebindGen != gen || self.exiting || self.paused || self.recycling

/-- The last look before the recycle, at one field less. -/
def rebindLate (self : DataPathGuard) (gen : Nat) : Bool :=
  self.rebindGen != gen || self.exiting || self.paused

def watchSoftResume (self : DataPathGuard) (now : Nat) (source : Reason) :
    DataPathGuard × Point :=
  ({ self with softResumeGen := self.softResumeGen + 1 },
    .asleep (now + dataPathSoftResumeWatch) (.softResumeStale (self.softResumeGen + 1) source))

def softResumeStale (self : DataPathGuard) (gen : Nat) : Bool :=
  self.exiting || self.paused || self.recycling || self.softResumeGen != gen

def pausedStale (self : DataPathGuard) (gen : Nat) : Bool :=
  !self.paused || self.pauseGen != gen || self.exiting

def probeSucceeded (self : DataPathGuard) (gen : Nat) (source : Reason) : Point :=
  if !self.paused || self.pauseGen != gen then .ended
  else
    .resumeFromPause source
      (if self.pendingRecycle then .go (.heal (self.pendingReason.getD source)) .ended
      else afterSoftResume source .ended)

def onWake (self : DataPathGuard) (now : Nat) : DataPathGuard × Point :=
  if self.exiting then (self, .ended)
  else
    ({ self with graceUntil := some (now + dataPathWakeGrace), dialFails := 0 },
      if self.paused then .wakeProbe self.pauseGen else afterSoftResume .wake .ended)

def rejecting (self : DataPathGuard) : Bool := self.paused || self.exiting

def requestRecycle (self : DataPathGuard) (now : Nat) (reason : Reason) :
    DataPathGuard × Point :=
  if self.exiting then (self, .ended)
  else if self.paused then
    ({ self with pendingRecycle := true, pendingReason := some reason }, .ended)
  else if self.recycling then (self, .ended)
  else if recent self.lastRecycle now dataPathRecycleMinGap then (self, .ended)
  else if dataPathMaxRecycles ≤ self.recycles then ({ self with exiting := true }, .ended)
  else
    ({ self with recycling := true, lastRecycle := some now, recycles := self.recycles + 1 },
      .stopEngine reason self.tunIP)

def tunIPChanged (self : DataPathGuard) : DataPathGuard :=
  { self with exiting := true, recycling := false }

/-- The recycle is done; a change of network that came meanwhile is taken up now. -/
def recycled (self : DataPathGuard) : DataPathGuard × Point :=
  ({ self with
      recycling := false
      dialFails := 0
      pendingHandover := false
      pendingHandoverSource := none
      lastRebind := if self.pendingHandover then none else self.lastRebind },
    -- The two fields are set together, so the source is there.
    if self.pendingHandover then onHandover (self.pendingHandoverSource.getD .handover)
    else .ended)

def failRecycle (self : DataPathGuard) (reason : Reason) : DataPathGuard :=
  if self.paused then
    { self with recycling := false, pendingRecycle := true, pendingReason := some reason }
  else { self with exiting := true, recycling := false }

end DataPathGuard

/-- The helper's side of the data path: the clock, the guard's fields, the pause gate
of the engine that was started last, and the engines that have no gate yet. -/
structure Helper where
  clock : Nat
  guard : DataPathGuard
  gate : Option Bool
  starting : Nat
deriving DecidableEq, Repr

namespace Helper

/-- A locked section: only the guard's fields change. -/
def locked (self : Helper) (result : DataPathGuard × Point) : Helper × Point :=
  ({ self with guard := result.1 }, result.2)

/-- One goroutine's way from one point to the next. A goroutine that is started is
left to the step of the whole. -/
def perform (hooks : Hooks) (outside : Outside) (self : Helper) : Point → Helper × Point
  | .ended => (self, .ended)
  | .go _ next => (self, next)
  | .asleep wakeUp next => (self, if wakeUp ≤ self.clock then next else .asleep wakeUp next)
  | .applyEnginePause value next => ({ self with gate := self.gate.map fun _ => value }, next)
  | .noteDialResult result => self.locked (self.guard.noteDialResult self.clock result)
  | .netlost => self.locked self.guard.netlost
  | .heal reason => (self, self.guard.heal hooks self.clock reason)
  | .healWithinGap reason inFlight =>
      let paths := if hooks.activeFn then outside.activePaths else -1
      (self, if inFlight && paths ≤ 0 then .ended else .requestRecycle (.rebindGap reason))
  | .resumeFromPause source next =>
      self.locked (self.guard.resumeFromPause self.clock source next)
  | .handover source => self.locked (self.guard.handover self.clock source)
  | .rebind gen source =>
      (self, if !hooks.rebindFn || !outside.rebound then
          .finishRebind gen (.go (.requestRecycle source) .ended)
        else .go (.rebindWatchdog gen source) .ended)
  | .finishRebind gen next => self.locked (self.guard.finishRebind gen, next)
  -- The watch over a rebind.
  | .rebindWatchdog gen source =>
      (self, if !hooks.activeFn then .finishRebind gen .ended
        else .asleep (self.clock + dataPathRebindSettle) (.rebindSettled gen source))
  | .rebindSettled gen source =>
      (self, .rebindPoll gen source (self.clock + dataPathRebindWait))
  | .rebindPoll gen source deadline =>
      (self, if self.clock < deadline then .rebindStale gen source deadline
        else .rebindLate gen source)
  | .rebindStale gen source deadline =>
      (self, if self.guard.rebindStale gen then .finishRebind gen .ended
        else .rebindPaths gen source deadline)
  | .rebindPaths gen source deadline =>
      (self, if outside.activePaths ≠ 0 then .finishRebind gen .ended
        else .asleep (self.clock + dataPathRebindPoll) (.rebindPoll gen source deadline))
  | .rebindLate gen source =>
      (self, .finishRebind gen
        (if self.guard.rebindLate gen then .ended else .rebindTimeout gen source))
  | .rebindTimeout _ source =>
      self.locked (self.guard.requestRecycle self.clock (.rebindTimeout source))
  -- The watch over a soft resume.
  | .watchSoftResume source => self.locked (self.guard.watchSoftResume self.clock source)
  | .softResumeStale gen source =>
      (self, if self.guard.softResumeStale gen || !hooks.activeFn then .ended
        else .softResumePaths source)
  | .softResumePaths source =>
      (self, if outside.activePaths ≠ 0 then .ended
        else .go (.requestRecycle (.softDead source)) .ended)
  -- The probes of a paused guard.
  | .pausedWatchdog gen round =>
      (self, if !hooks.probeFn then .ended
        else .asleep (self.clock + dataPathPausedProbeDelay round) (.pausedStale gen round))
  | .pausedStale gen round =>
      (self, if self.guard.pausedStale gen then .ended else .pausedProbe gen round)
  | .pausedProbe gen round =>
      (self, if outside.networkUp then .probeSucceeded gen .probe
        else .pausedWatchdog gen (round + 1))
  | .probeSucceeded gen source => (self, self.guard.probeSucceeded gen source)
  | .onWake => self.locked (self.guard.onWake self.clock)
  | .wakeProbe gen =>
      (self, if hooks.probeFn && outside.networkUp then .probeSucceeded gen .wake else .ended)
  -- A dial that waits for a path.
  | .waitForPath => (self, if self.guard.rejecting then .ended else .waitPaths)
  | .waitPaths =>
      (self, if !hooks.activeFn || outside.activePaths ≠ 0 then .ended
        else .waitPoll (self.clock + dataPathPathWaitMax))
  | .waitPoll deadline =>
      (self, if self.clock < deadline then .waitDone deadline else .waitCap)
  | .waitDone deadline => (self, if outside.dialDone then .ended else .waitRejecting deadline)
  | .waitRejecting deadline =>
      (self, if self.guard.rejecting then .ended
        else .asleep (self.clock + dataPathPathWaitPoll) (.waitPathsAgain deadline))
  | .waitPathsAgain deadline =>
      (self, if outside.activePaths ≠ 0 then .ended else .waitPoll deadline)
  | .waitCap => (self, if self.guard.rejecting then .ended else .waitCapPaths)
  | .waitCapPaths =>
      (self, if hooks.activeFn && outside.activePaths = 0 then .go (.heal .zeroPaths) .ended
        else .ended)
  -- The recycle.
  | .requestRecycle reason => self.locked (self.guard.requestRecycle self.clock reason)
  | .stopEngine reason wantIP =>
      ({ self with gate := none },
        .asleep (self.clock + dataPathEngineSettle) (.startEngine reason wantIP))
  | .startEngine reason wantIP =>
      if outside.started then
        ({ self with starting := self.starting + 1 }, .waitReady reason wantIP)
      else (self, .failRecycle reason)
  | .waitReady reason wantIP =>
      (self, if outside.ready then .readTunIP reason wantIP else .failRecycle reason)
  | .readTunIP reason wantIP =>
      (self, if wantIP ≠ "" ∧ outside.tunIP ≠ "" ∧ outside.tunIP ≠ wantIP then
          if hooks.rebuildTunFn then .rebuildTun reason outside.tunIP else .tunIPChanged
        else .readPort reason)
  | .tunIPChanged => self.locked (self.guard.tunIPChanged, .ended)
  | .rebuildTun reason newIP =>
      (self, if outside.rebuilt then .storeTunIP reason newIP else .failRecycle reason)
  | .storeTunIP reason newIP =>
      self.locked ({ self.guard with tunIP := newIP }, .readPort reason)
  | .readPort reason =>
      (self, if outside.packetPort < 0 ∨ 65535 < outside.packetPort then .failRecycle reason
        else .recycled)
  | .recycled => self.locked self.guard.recycled
  | .failRecycle reason => self.locked (self.guard.failRecycle reason, .ended)

end Helper

end Csqtt
