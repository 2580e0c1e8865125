/-
Module: Csqtt.Proofs.UplinkBurst
Purpose: A burst ends the idle mode at once, as long as no window that restarts forgets a packet
  that a sliding one would still count.
Trusted boundary: none
Main exports: Idle.alone_uplinkActive, Burst, Remembers, Counted, burst_detected
-/
import Csqtt.Engine.Idle

namespace Csqtt

namespace WindowCounter

variable (self : WindowCounter) (window : ExitWindow) (nowMs : Nat)

/-- Whether the window is over. -/
def restarts : Bool := window.windowMs < nowMs - self.start

/-- The counter with one event more. -/
def noted : WindowCounter :=
  if self.restarts window nowMs then ⟨nowMs, 1⟩ else ⟨self.start, self.count + 1⟩

/-- Whether that event makes enough of them. -/
def hit : Bool := window.limit ≤ (self.noted window nowMs).count

end WindowCounter

namespace Idle

variable {config : IdleConfig} {self : Idle} {nowMs turns : Nat}

/-- What leaves the idle mode leaves behind. -/
def exited (self : Idle) : Idle :=
  { self with
    active := false
    limit := usizeMax
    declared := self.totalWorkers
    announce := self.announce + 1 }

def note (self : Idle) (window : ExitWindow) (nowMs : Nat) : Idle :=
  self.setWindow ((self.window window).noted window nowMs) window

theorem turn_ended : (turn config)^[turns] (self, .ended) = (self, .ended) :=
  Function.iterate_fixed rfl turns

theorem turn_exitSwap (active : self.active = true) :
    (turn config)^[turns + 5] (self, .exitSwap) = (self.exited, .ended) := by
  rw [Function.iterate_add_apply]
  have five : (turn config)^[5] (self, .exitSwap) = (self.exited, .ended) := by
    simp [turn, perform, exited, active]
  rw [five, turn_ended]

/-- Whether a packet reaches a window; one that ends the idle mode as a connection does not reach
that of the packets. -/
def consults (self : Idle) (window : ExitWindow) (packet : List U8) (nowMs : Nat) : Bool :=
  match window with
  | .syns => isTcpSyn packet
  | .packets => !(isTcpSyn packet && (self.window .syns).hit .syns nowMs)

/-- What follows once a window has counted the packet. -/
def afterHit (self : Idle) (window : ExitWindow) (nowMs : Nat) : IdlePoint :=
  if (self.window window).hit window nowMs then .exitSwap else notHit nowMs window

@[simp] theorem window_setWindow (counter : WindowCounter) (window : ExitWindow) :
    (self.setWindow counter window).window window = counter := by
  cases window <;> rfl

theorem setWindow_setWindow (first second : WindowCounter) (window : ExitWindow) :
    (self.setWindow first window).setWindow second window = self.setWindow second window := by
  cases window <;> rfl

/-- Two operations, or three where the window restarts. -/
theorem turn_windowHit (window : ExitWindow) :
    ∃ fewer, fewer ≤ 3 ∧ (turn config)^[fewer] (self, .windowHit window nowMs) =
      (self.note window nowMs, self.afterHit window nowMs) := by
  by_cases gone : window.windowMs < nowMs - (self.window window).start
  · have restarts : (self.window window).restarts window nowMs = true := decide_eq_true gone
    have asks : turn config (self, .windowHit window nowMs) =
        (self, .windowRestart window nowMs) := congrArg (Prod.mk self) (if_pos gone)
    have counts : turn config (self.setWindow { self.window window with start := nowMs } window,
        .windowRestarted window nowMs) = (self.note window nowMs, self.afterHit window nowMs) := by
      simp only [turn, perform, note, afterHit, WindowCounter.hit, WindowCounter.noted,
        restarts, if_true, window_setWindow, setWindow_setWindow, decide_eq_true_eq]
    refine ⟨3, Nat.le_refl _, ?_⟩
    rw [Function.iterate_succ_apply, asks, Function.iterate_succ_apply]
    exact counts
  · have restarts : (self.window window).restarts window nowMs = false := decide_eq_false gone
    have asks : turn config (self, .windowHit window nowMs) = (self, .windowAdd window nowMs) :=
      congrArg (Prod.mk self) (if_neg gone)
    refine ⟨2, by decide, ?_⟩
    rw [Function.iterate_succ_apply, asks, Function.iterate_one]
    simp only [turn, perform, note, afterHit, WindowCounter.hit, WindowCounter.noted, restarts,
      Bool.false_eq_true, if_false, decide_eq_true_eq]

/-- From a window's point on, with operations to spare. -/
theorem turn_packets (active : self.active = true) (enough : 8 ≤ turns) :
    (turn config)^[turns] (self, .windowHit .packets nowMs) =
      (if (self.window .packets).hit .packets nowMs then (self.note .packets nowMs).exited
        else self.note .packets nowMs, .ended) := by
  obtain ⟨fewer, short, counted⟩ := @turn_windowHit config self nowMs .packets
  have room : fewer + 5 ≤ turns := by omega
  obtain ⟨more, rfl⟩ := Nat.exists_eq_add_of_le room
  rw [Nat.add_assoc, Nat.add_comm fewer, Function.iterate_add_apply, counted, afterHit]
  split
  · rw [Nat.add_comm]
    exact turn_exitSwap active
  · exact turn_ended

theorem turn_syns (active : self.active = true) (enough : 11 ≤ turns) :
    (turn config)^[turns] (self, .windowHit .syns nowMs) =
      (if (self.window .syns).hit .syns nowMs then (self.note .syns nowMs).exited
        else if (self.window .packets).hit .packets nowMs then
          ((self.note .syns nowMs).note .packets nowMs).exited
        else (self.note .syns nowMs).note .packets nowMs, .ended) := by
  obtain ⟨fewer, short, counted⟩ := @turn_windowHit config self nowMs .syns
  have room : fewer + 8 ≤ turns := by omega
  obtain ⟨more, rfl⟩ := Nat.exists_eq_add_of_le room
  rw [Nat.add_assoc, Nat.add_comm fewer, Function.iterate_add_apply, counted, afterHit]
  split
  · rw [show 8 + more = more + 3 + 5 by omega]
    exact turn_exitSwap active
  · exact turn_packets active (Nat.le_add_right _ _)

/-- What a packet does while the idle mode is on. -/
theorem alone_uplinkActive (active : self.active = true) (packet : List U8) :
    self.alone config (.uplinkActive packet) =
      if isTcpSyn packet then
        if (self.window .syns).hit .syns self.clock then (self.note .syns self.clock).exited
        else if (self.window .packets).hit .packets self.clock then
          ((self.note .syns self.clock).note .packets self.clock).exited
        else (self.note .syns self.clock).note .packets self.clock
      else if (self.window .packets).hit .packets self.clock then
        (self.note .packets self.clock).exited
      else self.note .packets self.clock := by
  have looks : turn config (self, .uplinkActive packet) = (self, .uplinkClock packet) :=
    congrArg (Prod.mk self) (if_pos active)
  rw [alone, callTurns, Function.iterate_succ_apply, looks, Function.iterate_succ_apply]
  rw [turn, perform]
  split
  · rw [turn_syns active (Nat.le_refl _)]
  · rw [turn_packets active (by decide)]

theorem alone_of_inactive (inactive : self.active = false) (packet : List U8) :
    self.alone config (.uplinkActive packet) = self := by
  have looks : turn config (self, .uplinkActive packet) = (self, .ended) := by
    rw [turn, perform, inactive]
    rfl
  rw [alone, callTurns, Function.iterate_succ_apply, looks, turn_ended]

/-- Where the idle mode stays on, no window was full, and each that counts the packet has noted
it. -/
theorem note_of_active (packet : List U8)
    (stays : (self.alone config (.uplinkActive packet)).active = true) :
    self.active = true ∧ (self.alone config (.uplinkActive packet)).clock = self.clock ∧
      (isTcpSyn packet = true → (self.window .syns).hit .syns self.clock = false) ∧
      (self.window .packets).hit .packets self.clock = false ∧
      (self.alone config (.uplinkActive packet)).window .syns =
        (if isTcpSyn packet then (self.window .syns).noted .syns self.clock
          else self.window .syns) ∧
      (self.alone config (.uplinkActive packet)).window .packets =
        (self.window .packets).noted .packets self.clock := by
  have active : self.active = true := by
    by_contra off
    rw [alone_of_inactive (Bool.eq_false_iff.mpr off)] at stays
    exact off stays
  rw [alone_uplinkActive active] at stays ⊢
  split
  · next opens =>
      rw [if_pos opens] at stays
      split
      · next full => rw [if_pos full] at stays; cases stays
      · next quiet =>
          rw [if_neg quiet] at stays
          split
          · next full => rw [if_pos full] at stays; cases stays
          · next calm =>
              exact ⟨active, rfl, fun _ => Bool.eq_false_iff.mpr quiet, Bool.eq_false_iff.mpr calm,
                rfl, rfl⟩
  · next plain =>
      rw [if_neg plain] at stays
      split
      · next full => rw [if_pos full] at stays; cases stays
      · next calm =>
          exact ⟨active, rfl, fun opens => absurd opens plain, Bool.eq_false_iff.mpr calm, rfl, rfl⟩

end Idle

/-- Whether a window counts the packet. -/
def ExitWindow.counts : ExitWindow → List U8 → Bool
  | .syns, packet => isTcpSyn packet
  | .packets, _ => true

/-- The times of what a window counts. -/
def ExitWindow.events (window : ExitWindow) (arrived : List (Nat × List U8)) : List Nat :=
  (arrived.filter fun entry => window.counts entry.2).map Prod.fst

theorem ExitWindow.events_concat (window : ExitWindow) (arrived : List (Nat × List U8))
    (time : Nat) (packet : List U8) :
    window.events (arrived ++ [(time, packet)]) =
      window.events arrived ++ if window.counts packet then [time] else [] := by
  rw [events, List.filter_append, List.map_append, List.filter_singleton]
  cases window.counts packet <;> rfl

/-- Enough of what one window counts lies within its length, up to now. -/
def Burst (arrived : List (Nat × List U8)) (nowMs : Nat) : Prop :=
  ∃ window : ExitWindow, window.limit ≤
    ((window.events arrived).filter fun time => nowMs - time ≤ window.windowMs).length

/-- What a counter stands for: the latest events, while all before them are over. -/
def WindowCounter.StandsFor (self : WindowCounter) (window : ExitWindow) (events : List Nat)
    (nowMs : Nat) : Prop :=
  ∃ old counted, events = old ++ counted ∧ counted.length ≤ self.count ∧
    counted.length < window.limit ∧ ∀ time ∈ old, time + window.windowMs < nowMs

namespace WindowCounter.StandsFor

variable {self : WindowCounter} {window : ExitWindow} {events : List Nat} {nowMs later : Nat}

theorem mono (stands : self.StandsFor window events nowMs) (le : nowMs ≤ later) :
    self.StandsFor window events later := by
  obtain ⟨old, counted, same, count, few, gone⟩ := stands
  exact ⟨old, counted, same, count, few, fun time mem => (gone time mem).trans_le le⟩

theorem noted (stands : self.StandsFor window events nowMs)
    (remembers : self.restarts window nowMs = true →
      ∀ time ∈ events, time + window.windowMs < nowMs)
    (calm : self.hit window nowMs = false) :
    (self.noted window nowMs).StandsFor window (events ++ [nowMs]) nowMs := by
  rw [WindowCounter.hit, decide_eq_false_iff_not, Nat.not_le] at calm
  cases gone : self.restarts window nowMs with
  | true =>
      rw [WindowCounter.noted, gone, if_pos rfl] at calm ⊢
      exact ⟨events, [nowMs], rfl, Nat.le_refl _, calm, remembers gone⟩
  | false =>
      rw [WindowCounter.noted, gone, if_neg Bool.false_ne_true] at calm ⊢
      obtain ⟨old, counted, rfl, count, -, past⟩ := stands
      refine ⟨old, counted ++ [nowMs], List.append_assoc _ _ _, ?_, ?_, past⟩
      · rw [List.length_append]
        exact Nat.succ_le_succ count
      · rw [List.length_append]
        exact (Nat.succ_le_succ count).trans_lt calm

/-- Only what is counted can lie within the window. -/
theorem few (stands : self.StandsFor window events nowMs) :
    (events.filter fun time => nowMs - time ≤ window.windowMs).length < window.limit := by
  obtain ⟨old, counted, rfl, -, few, gone⟩ := stands
  have none : (old.filter fun time => nowMs - time ≤ window.windowMs) = [] := by
    rw [List.filter_eq_nil_iff]
    intro time mem
    have past := gone time mem
    rw [decide_eq_true_eq]
    omega
  rw [List.filter_append, none, List.nil_append]
  exact (List.length_filter_le _ _).trans_lt few

end WindowCounter.StandsFor

namespace IdleUplink

variable {config : IdleConfig}

/-- No window that restarts on the packet forgets what a sliding one would still count. -/
def Remembers (self : IdleUplink) (arrival : Arrival) : Prop :=
  self.idle.active = true →
    ∀ window : ExitWindow,
      self.idle.consults window arrival.packet (self.idle.clock + arrival.elapsed) = true →
      (self.idle.window window).restarts window (self.idle.clock + arrival.elapsed) = true →
        ∀ time ∈ window.events self.arrived,
          time + window.windowMs < self.idle.clock + arrival.elapsed

/-- The idle mode is off once a burst is there. -/
def LeftOnBurst (self : IdleUplink) : Prop :=
  Burst self.arrived self.idle.clock → self.idle.active = false

/-- While the idle mode is on, each window counts what a sliding one would. -/
def Counted (self : IdleUplink) : Prop :=
  self.idle.active = true → ∀ window : ExitWindow,
    (self.idle.window window).StandsFor window (window.events self.arrived) self.idle.clock

theorem Counted.leftOnBurst {self : IdleUplink} (counted : self.Counted) : self.LeftOnBurst := by
  rintro ⟨window, enough⟩
  by_contra on
  exact absurd enough (Nat.not_le_of_lt (counted (Bool.not_eq_false _ ▸ on) window).few)

theorem Counted.step {self : IdleUplink} {arrival : Arrival} (counted : self.Counted)
    (remembers : self.Remembers arrival) : (step config self arrival).1.Counted := by
  intro stays window
  obtain ⟨active, clock, syns, packets, syn, packet⟩ :=
    @Idle.note_of_active config _ arrival.packet stays
  have before := (counted active window).mono (Nat.le_add_right _ arrival.elapsed)
  have remembered := remembers active window
  have arrived : (IdleUplink.step config self arrival).1.arrived =
      self.arrived ++ [(self.idle.clock + arrival.elapsed, arrival.packet)] := rfl
  have now : (IdleUplink.step config self arrival).1.idle.clock =
      self.idle.clock + arrival.elapsed := clock
  rw [now, arrived, ExitWindow.events_concat]
  cases window with
  | syns =>
      have counter : (IdleUplink.step config self arrival).1.idle.window .syns = _ := syn
      rw [counter]
      cases opens : isTcpSyn arrival.packet with
      | true =>
          rw [if_pos rfl, ExitWindow.counts, opens, if_pos rfl]
          exact before.noted (remembered opens) (syns opens)
      | false =>
          rw [if_neg Bool.false_ne_true, ExitWindow.counts, opens, if_neg Bool.false_ne_true,
            List.append_nil]
          exact before
  | packets =>
      have counter : (IdleUplink.step config self arrival).1.idle.window .packets = _ := packet
      rw [counter]
      have reached : self.idle.consults .packets arrival.packet
          (self.idle.clock + arrival.elapsed) = true := by
        rw [Idle.consults, Bool.not_eq_true', Bool.and_eq_false_imp]
        exact syns
      exact before.noted (remembered reached) packets

/-- In every run in which the windows forget nothing too early the idle mode is left on the first
burst, whatever state it was entered in. -/
theorem burst_detected (config : IdleConfig) (idle : Idle) (arrivals : List Arrival)
    (remembers : Transducer.AtEveryStep (step config) ⟨idle.entered config, []⟩ arrivals
      Remembers) :
    Transducer.Throughout (step config) ⟨idle.entered config, []⟩ arrivals LeftOnBurst := by
  have initial : Counted ⟨idle.entered config, []⟩ := by
    intro _ window
    refine ⟨[], [], rfl, Nat.zero_le _, ?_, fun _ mem => absurd mem List.not_mem_nil⟩
    cases window <;> decide
  intro consumed within
  refine Counted.leftOnBurst ?_
  exact Transducer.invariant_of_atEveryStep (step config)
    (fun state arrival counted kept => counted.step kept) initial (remembers.of_prefix within)

instance (self : IdleUplink) (arrival : Arrival) : Decidable (self.Remembers arrival) :=
  decidable_of_iff
    (self.idle.active = true → ∀ window ∈ [ExitWindow.syns, ExitWindow.packets],
      self.idle.consults window arrival.packet (self.idle.clock + arrival.elapsed) = true →
      (self.idle.window window).restarts window (self.idle.clock + arrival.elapsed) = true →
        ∀ time ∈ window.events self.arrived,
          time + window.windowMs < self.idle.clock + arrival.elapsed)
    ⟨fun remembers active window => remembers active window (by cases window <;> decide),
      fun remembers active window _ => remembers active window⟩

/-- A segment with nothing set in it but that it opens a connection. -/
def openingSegment : List U8 :=
  [0x45] ++ List.replicate 8 0 ++ [6] ++ List.replicate 23 0 ++ [2] ++ List.replicate 6 0

/-- 27 workers of which two are kept, after a quiet while. -/
def quietly : Idle := { Idle.initial with totalWorkers := 27, declared := 27, clock := 200000 }

/-- Three connections in the first three seconds. -/
theorem burst_detected_at_once :
    Transducer.Throughout (step ⟨2, 180000⟩) ⟨quietly.entered ⟨2, 180000⟩, []⟩
      [⟨0, openingSegment⟩, ⟨2900, openingSegment⟩, ⟨100, openingSegment⟩] LeftOnBurst :=
  burst_detected _ _ _ (by decide +kernel)

/-- The third connection restarts the window that the first began, and the second is forgotten;
the fourth makes three within 300 ms. -/
theorem burst_across_restart :
    ¬ Transducer.Throughout (step ⟨2, 180000⟩) ⟨quietly.entered ⟨2, 180000⟩, []⟩
      [⟨0, openingSegment⟩, ⟨2900, openingSegment⟩, ⟨200, openingSegment⟩,
        ⟨100, openingSegment⟩] LeftOnBurst := by
  intro left
  have off := left _ (List.prefix_refl _) ⟨.syns, by decide +kernel⟩
  revert off
  decide +kernel

end IdleUplink

end Csqtt
