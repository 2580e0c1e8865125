/-
Module: Csqtt.Proofs.Logging
Purpose: Every line that the logger took is in one place, over all interleavings; and when a flush
  and the shutdown find every line written or counted.
Trusted boundary: none
Main exports: LogRun.produce_carries, LogRun.Sound, LogRun.Careful, LogRun.accounted_of_careful,
  LogRun.line_lost
-/
import Csqtt.Core.Transducer
import Csqtt.Core.Weight
import Csqtt.Engine.Logging

namespace Csqtt

/-- What a call adds to the counter of its queue. -/
def LogPoint.weight : LogPoint → Nat
  | .pushing _ _ => 1
  | .evicting _ _ => 1
  | .evicted _ _ _ => 2
  | .dropping _ _ _ => 1
  | _ => 0

/-- Whether the call counts among the producers. -/
def LogPoint.registered : LogPoint → Nat
  | .entering => 0
  | .registering => 0
  | .refused => 0
  | .returned => 0
  | _ => 1

/-- The line that the call came with, while it is in its hands. -/
def LogPoint.own : LogPoint → List LogLine
  | .counting line => [line]
  | .pushing line _ => [line]
  | .evicting line _ => [line]
  | .evicted line _ _ => [line]
  | .dropping line _ _ => [line]
  | .losing line => [line]
  | _ => []

/-- The line of a call that has begun. -/
def LogPoint.taken (line : Option LogLine) (point : LogPoint) : List LogLine :=
  if point.begun then line.toList else []

def LogCall.weight (kind : LogKind) (call : LogCall) : Nat :=
  if call.kind = kind then call.point.weight else 0

def LogCall.taken (kind : LogKind) (call : LogCall) : List LogLine :=
  if call.kind = kind then call.point.taken call.line else []

def LogWriter.weight (writer : LogWriter) : LogKind → Nat
  | .protocol =>
      match writer.point with
      | .printing _ _ => 1
      | .printed _ => 1
      | _ => 0
  | .diagnostic =>
      writer.pending.toList.length +
        match writer.point with
        | .coalescing _ _ => 1
        | .repeated _ _ _ => 2
        | .reporting _ _ => 1
        | .reported => 1
        | _ => 0

/-- At these points the writer has no line waiting. -/
def WriterPoint.clear : WriterPoint → Bool
  | .top => false
  | .printing _ _ => false
  | .printed _ => false
  | .taking => false
  | .reporting _ _ => false
  | .reported => false
  | _ => true

/-- At these points the writer has no line in its hands. -/
def WriterPoint.empty : WriterPoint → Bool
  | .printing _ _ => false
  | .printed _ => false
  | .coalescing _ _ => false
  | .repeated _ _ _ => false
  | .reporting _ _ => false
  | .reported => false
  | _ => true

/-- At these points the writer neither completes a flush nor has returned. -/
def WriterPoint.plain : WriterPoint → Bool
  | .completing _ => false
  | .returned => false
  | _ => true

/-- What the writer has where no line is in its hands: the line that waits. -/
def LogWriter.waiting (writer : LogWriter) : LogKind → List LogLine
  | .protocol => []
  | .diagnostic => writer.pending.toList

theorem LogWriter.held_of_empty {writer : LogWriter} (empty : writer.point.empty = true)
    (kind : LogKind) : writer.held kind = writer.waiting kind := by
  obtain ⟨burst, pending, point⟩ := writer
  cases kind with
  | protocol => cases point <;> first | rfl | cases empty
  | diagnostic => cases point <;> first | exact List.append_nil _ | cases empty

theorem LogWriter.weight_of_empty {writer : LogWriter} (empty : writer.point.empty = true)
    (kind : LogKind) : writer.weight kind = (writer.waiting kind).length := by
  obtain ⟨burst, pending, point⟩ := writer
  cases kind with
  | protocol => cases point <;> first | rfl | cases empty
  | diagnostic => cases point <;> first | rfl | cases empty

/-- The lines of a queue that are written, counted or queued. -/
def LogLane.lines (lane : LogLane) : List LogLine := lane.written ++ lane.dropped ++ lane.queue

namespace LogRun

/-!
### Producers
-/

/-- A call moves on: no line is lost or doubled, and the counters follow. -/
structure Carries (line : Option LogLine) (lane : LogLane) (producers : Int) (point : LogPoint)
    (after : LogLane × Int × LogPoint) : Prop where
  kept : ∀ other, (after.2.2.taken line).count other + (lane.lines ++ point.held line).count other =
    (point.taken line).count other + (after.1.lines ++ after.2.2.held line).count other
  level : after.1.outstanding + (lane.queue.length + point.weight : Nat) =
    lane.outstanding + (after.1.queue.length + after.2.2.weight : Nat)
  registered : after.2.1 + point.registered = producers + after.2.2.registered
  written : lane.written ⊆ after.1.written
  dropped : lane.dropped ⊆ after.1.dropped

/-- A call that only moves on. -/
theorem carries_of_still {line : Option LogLine} {lane : LogLane} {producers : Int}
    {point next : LogPoint} (taken : next.taken line = point.taken line)
    (held : next.held line = point.held line) (weight : next.weight = point.weight)
    (registered : next.registered = point.registered) :
    Carries line lane producers point (lane, producers, next) where
  kept other := by rw [taken, held]
  level := by rw [weight]
  registered := by rw [registered]
  written _ mem := mem
  dropped _ mem := mem

theorem produce_carries {capacity : Nat} {accepting : Bool} {lane : LogLane} {producers : Int}
    {line : Option LogLine} {point : LogPoint} {after : LogLane × Int × LogPoint}
    (moves : produce capacity accepting lane producers line point = some after) :
    Carries line lane producers point after := by
  cases point with
  | entering =>
    cases moves
    cases accepting with
    | false => exact carries_of_still rfl rfl rfl rfl
    | true => exact carries_of_still rfl rfl rfl rfl
  | registering =>
    cases moves
    exact ⟨fun _ => rfl, rfl, by simp [LogPoint.registered], fun _ => id, fun _ => id⟩
  | confirming =>
    cases moves
    cases accepting with
    | false => exact carries_of_still rfl rfl rfl rfl
    | true =>
      refine ⟨fun other => ?_, rfl, rfl, fun _ => id, fun _ => id⟩
      simp [LogPoint.taken, LogPoint.begun, LogPoint.held, Nat.add_comm]
  | withdrawing =>
    cases moves
    exact ⟨fun _ => rfl, rfl, by simp [LogPoint.registered], fun _ => id, fun _ => id⟩
  | refused => cases moves
  | formatting =>
    cases line with
    | none =>
      cases moves
      exact carries_of_still rfl rfl rfl rfl
    | some line =>
      cases moves
      exact carries_of_still rfl rfl rfl rfl
  | counting counted =>
    cases moves
    refine ⟨fun _ => rfl, ?_, rfl, fun _ => id, fun _ => id⟩
    simp only [LogPoint.weight]
    omega
  | pushing pushed tries =>
    cases tries with
    | zero =>
      cases moves
      refine ⟨fun _ => rfl, ?_, rfl, fun _ => id, fun _ => id⟩
      simp only [LogPoint.weight]
      omega
    | succ tries =>
      rw [produce] at moves
      split at moves
      · cases moves
        refine ⟨fun other => ?_, ?_, rfl, fun _ => id, fun _ => id⟩
        · simp [LogPoint.taken, LogPoint.begun, LogPoint.held, LogLane.lines]
        · simp only [LogPoint.weight, List.length_append, List.length_singleton]
      · cases moves
        exact carries_of_still rfl rfl rfl rfl
  | evicting evicting tries =>
    rw [produce] at moves
    cases queue : lane.queue with
    | nil =>
      rw [queue] at moves
      cases moves
      exact carries_of_still rfl rfl rfl rfl
    | cons victim rest =>
      rw [queue] at moves
      cases moves
      refine ⟨fun other => ?_, ?_, rfl, fun _ => id, fun _ => id⟩
      · simp only [LogPoint.taken, LogPoint.begun, LogPoint.held, LogLane.lines, queue,
          List.count_append, List.count_cons, List.count_nil]
        omega
      · simp only [LogPoint.weight, queue, List.length_cons]
  | evicted evicting victim tries =>
    cases moves
    refine ⟨fun _ => rfl, ?_, rfl, fun _ => id, fun _ => id⟩
    simp only [LogPoint.weight]
    omega
  | dropping dropping victim tries =>
    cases moves
    refine ⟨fun other => ?_, rfl, rfl, fun _ => id, List.subset_append_left _ _⟩
    simp only [LogPoint.taken, LogPoint.begun, LogPoint.held, LogLane.lines, List.count_append,
      List.count_cons, List.count_nil]
    omega
  | losing lost =>
    cases moves
    refine ⟨fun other => ?_, rfl, rfl, fun _ => id, List.subset_append_left _ _⟩
    simp only [LogPoint.taken, LogPoint.begun, LogPoint.held, LogLane.lines, List.count_append,
      List.count_cons, List.count_nil]
    omega
  | finishing =>
    cases moves
    refine ⟨fun _ => rfl, rfl, ?_, fun _ => id, fun _ => id⟩
    simp [LogPoint.registered]
  | returned => cases moves

/-- The line in a call's hands is still its own. -/
theorem produce_own {capacity : Nat} {accepting : Bool} {lane : LogLane} {producers : Int}
    {line : Option LogLine} {point : LogPoint} {after : LogLane × Int × LogPoint}
    (moves : produce capacity accepting lane producers line point = some after)
    (own : ∀ held ∈ point.own, line = some held) : ∀ held ∈ after.2.2.own, line = some held := by
  cases point with
  | entering =>
    cases moves
    cases accepting <;> nofun
  | registering => cases moves; nofun
  | confirming =>
    cases moves
    cases accepting <;> nofun
  | withdrawing => cases moves; nofun
  | refused => cases moves
  | formatting =>
    cases line with
    | none => cases moves; nofun
    | some line =>
      cases moves
      exact fun held mem => congrArg some (List.mem_singleton.mp mem).symm
  | counting counted => cases moves; exact own
  | pushing pushed tries =>
    cases tries with
    | zero => cases moves; exact own
    | succ tries =>
      rw [produce] at moves
      split at moves
      · cases moves; nofun
      · cases moves; exact own
  | evicting evicting tries =>
    rw [produce] at moves
    split at moves <;> cases moves <;> exact own
  | evicted evicting victim tries => cases moves; exact own
  | dropping dropping victim tries => cases moves; exact own
  | losing lost => cases moves; nofun
  | finishing => cases moves; nofun
  | returned => cases moves

/-!
### The writer
-/

/-- The writer moves on, with a queue of one kind. -/
structure Writes (lane after : LogLane) (held heldAfter : List LogLine)
    (weight weightAfter : Nat) : Prop where
  kept : ∀ other, (lane.lines ++ held).count other = (after.lines ++ heldAfter).count other
  level : after.outstanding + (lane.queue.length + weight : Nat) =
    lane.outstanding + (after.queue.length + weightAfter : Nat)
  written : lane.written ⊆ after.written
  dropped : lane.dropped ⊆ after.dropped

variable {lane : LogLane} {held : List LogLine} {weight : Nat}

/-- A line is taken from the queue. -/
theorem writes_pop {line : LogLine} {rest : List LogLine} (queue : lane.queue = line :: rest) :
    Writes lane { lane with queue := rest } held (line :: held) weight (weight + 1) where
  kept other := by
    simp only [LogLane.lines, queue, List.count_append, List.count_cons]
    omega
  level := by
    simp only [queue, List.length_cons]
    omega
  written _ := id
  dropped _ := id

/-- The lines in the hands that come first are written. -/
theorem writes_written (lines : List LogLine) :
    Writes lane { lane with written := lane.written ++ lines } (held ++ lines) held weight
      weight where
  kept other := by
    simp only [LogLane.lines, List.count_append]
    omega
  level := rfl
  written := List.subset_append_left _ _
  dropped _ := id

theorem writes_counted :
    Writes lane { lane with outstanding := lane.outstanding - 1 } held held (weight + 1)
      weight where
  kept _ := rfl
  level := by
    dsimp only
    omega
  written _ := id
  dropped _ := id

/-- The writer goes on to something else than a flush or its return. -/
structure Turns (run : LogRun) (writer : LogWriter) : Prop where
  clear : writer.point.clear = true → writer.pending = none
  plain : writer.point.plain = true

theorem turns_of_unclear {run : LogRun} {writer : LogWriter} (unclear : writer.point.clear = false)
    (plain : writer.point.plain = true) : Turns run writer :=
  ⟨fun clear => absurd (unclear.symm.trans clear) Bool.false_ne_true, plain⟩

/-- What an operation of the writer can be. -/
inductive Writing (run : LogRun) : LogRun → Prop where
  | acts (kind : LogKind) {lane : LogLane} {writer : LogWriter}
      (writes : Writes (run.lanes kind) lane (run.writer.held kind) (writer.held kind)
        (run.writer.weight kind) (writer.weight kind))
      (others : ∀ other, other ≠ kind →
        writer.held other = run.writer.held other ∧ writer.weight other = run.writer.weight other)
      (turns : Turns run writer) : Writing run (run.act kind lane writer)
  | goes {writer : LogWriter} (held : ∀ kind, writer.held kind = run.writer.held kind)
      (weight : ∀ kind, writer.weight kind = run.writer.weight kind) (turns : Turns run writer) :
      Writing run { run with writer := writer }
  | promises (here : run.writer.point = .readingFlush)
      (asked : run.flushCompleted < run.requests.length) :
      Writing run (run.goTo (.completing run.requests.length))
  | completes {requested : Nat} (here : run.writer.point = .completing requested) :
      Writing run { run.goTo .readingShutdown with flushCompleted := requested }
  | returns (here : run.writer.point = .readingShutdown) (shut : run.shutdown = true) :
      Writing run (run.goTo .returned)

variable {run next : LogRun} {capacity : LogKind → Nat}

/-- The writer does something to the protocol lines. -/
theorem Writing.out {lane : LogLane} {writer : LogWriter}
    (writes : Writes (run.lanes .protocol) lane (run.writer.held .protocol)
      (writer.held .protocol) (run.writer.weight .protocol) (writer.weight .protocol))
    (held : writer.held .diagnostic = run.writer.held .diagnostic)
    (weight : writer.weight .diagnostic = run.writer.weight .diagnostic)
    (turns : Turns run writer) : Writing run (run.act .protocol lane writer) := by
  refine .acts .protocol writes (fun other differs => ?_) turns
  cases other with
  | protocol => exact absurd rfl differs
  | diagnostic => exact ⟨held, weight⟩

/-- The writer does something to the diagnostics. -/
theorem Writing.err {lane : LogLane} {writer : LogWriter}
    (writes : Writes (run.lanes .diagnostic) lane (run.writer.held .diagnostic)
      (writer.held .diagnostic) (run.writer.weight .diagnostic) (writer.weight .diagnostic))
    (held : writer.held .protocol = run.writer.held .protocol)
    (weight : writer.weight .protocol = run.writer.weight .protocol)
    (turns : Turns run writer) : Writing run (run.act .diagnostic lane writer) := by
  refine .acts .diagnostic writes (fun other differs => ?_) turns
  cases other with
  | protocol => exact ⟨held, weight⟩
  | diagnostic => exact absurd rfl differs

/-- The writer goes on with the same lines. -/
theorem Writing.on {writer : LogWriter}
    (protocol : writer.held .protocol = run.writer.held .protocol ∧
      writer.weight .protocol = run.writer.weight .protocol)
    (diagnostic : writer.held .diagnostic = run.writer.held .diagnostic ∧
      writer.weight .diagnostic = run.writer.weight .diagnostic)
    (turns : Turns run writer) : Writing run { run with writer := writer } := by
  refine .goes (fun kind => ?_) (fun kind => ?_) turns
  · cases kind with
    | protocol => exact protocol.1
    | diagnostic => exact diagnostic.1
  · cases kind with
    | protocol => exact protocol.2
    | diagnostic => exact diagnostic.2

theorem queue_of_ite {condition : Prop} [Decidable condition] {queue rest : List LogLine}
    {line : LogLine} (popped : (if condition then queue else []) = line :: rest) :
    queue = line :: rest := by
  split at popped
  · exact popped
  · cases popped

/-- The inversion of `write`. -/
theorem write_writing (clear : run.writer.point.clear = true → run.writer.pending = none)
    (writes : run.write = some next) : Writing run next := by
  obtain ⟨lanes, producers, accepting, shutdown, requests, completed, calls,
    ⟨burst, pending, point⟩⟩ := run
  cases point with
  | top =>
    simp only [write] at writes
    split at writes
    · cases writes
      exact .on ⟨rfl, rfl⟩ ⟨rfl, rfl⟩ (turns_of_unclear rfl rfl)
    next popped =>
      cases writes
      exact .out (writes_pop (queue_of_ite popped)) rfl rfl (turns_of_unclear rfl rfl)
  | printing line burst =>
    cases writes
    exact .out (@writes_written _ [] _ [line]) rfl rfl (turns_of_unclear rfl rfl)
  | printed burst =>
    cases writes
    exact .out writes_counted rfl rfl (turns_of_unclear rfl rfl)
  | taking =>
    simp only [write] at writes
    split at writes
    · cases writes
      exact .on ⟨rfl, rfl⟩ ⟨rfl, rfl⟩ ⟨fun _ => rfl, rfl⟩
    next queue =>
      cases writes
      exact .err (writes_pop queue) rfl rfl ⟨fun _ => rfl, rfl⟩
    · cases writes
      exact .on ⟨rfl, rfl⟩ ⟨rfl, rfl⟩ ⟨fun _ => rfl, rfl⟩
  | coalescing line repeats =>
    obtain rfl : pending = none := clear rfl
    simp only [write] at writes
    split at writes
    · cases writes
      exact .on ⟨rfl, rfl⟩ ⟨rfl, rfl⟩ (turns_of_unclear rfl rfl)
    next following rest popped =>
      by_cases same : following.value = line.value
      · rw [if_pos same] at writes
        cases writes
        exact .err (writes_pop (queue_of_ite popped)) rfl rfl ⟨fun _ => rfl, rfl⟩
      · rw [if_neg same] at writes
        cases writes
        exact .err (writes_pop (queue_of_ite popped)) rfl rfl (turns_of_unclear rfl rfl)
  | repeated line repeats following =>
    obtain rfl : pending = none := clear rfl
    cases writes
    refine .err ⟨fun other => ?_, ?_, fun _ => id, fun _ => id⟩ rfl rfl ⟨fun _ => rfl, rfl⟩
    · simp only [LogWriter.held, LogLane.lines, List.count_append, List.count_cons, List.count_nil]
      omega
    · simp only [LogWriter.weight]
      omega
  | reporting line repeats =>
    cases writes
    refine .err ?_ rfl rfl (turns_of_unclear rfl rfl)
    simp only [LogWriter.held, LogWriter.weight, List.append_nil]
    exact writes_written (line :: repeats)
  | reported =>
    cases writes
    exact .err writes_counted rfl rfl (turns_of_unclear rfl rfl)
  | last =>
    simp only [write] at writes
    split at writes
    · cases writes
      exact .on ⟨rfl, rfl⟩ ⟨rfl, rfl⟩ ⟨fun _ => clear rfl, rfl⟩
    next queue =>
      cases writes
      exact .out (writes_pop queue) rfl rfl (turns_of_unclear rfl rfl)
  | idleProtocol =>
    cases writes
    split
    · exact .on ⟨rfl, rfl⟩ ⟨rfl, rfl⟩ ⟨fun _ => clear rfl, rfl⟩
    · exact .on ⟨rfl, rfl⟩ ⟨rfl, rfl⟩ (turns_of_unclear rfl rfl)
  | idleDiagnostic =>
    cases writes
    split
    · exact .on ⟨rfl, rfl⟩ ⟨rfl, rfl⟩ ⟨fun _ => clear rfl, rfl⟩
    · exact .on ⟨rfl, rfl⟩ ⟨rfl, rfl⟩ (turns_of_unclear rfl rfl)
  | idleProducers =>
    cases writes
    split
    · exact .on ⟨rfl, rfl⟩ ⟨rfl, rfl⟩ ⟨fun _ => clear rfl, rfl⟩
    · exact .on ⟨rfl, rfl⟩ ⟨rfl, rfl⟩ (turns_of_unclear rfl rfl)
  | readingFlush =>
    simp only [write] at writes
    by_cases asked : completed < requests.length
    · rw [if_pos asked] at writes
      cases writes
      exact .promises rfl asked
    · rw [if_neg asked] at writes
      cases writes
      exact .on ⟨rfl, rfl⟩ ⟨rfl, rfl⟩ ⟨fun _ => clear rfl, rfl⟩
  | completing requested =>
    cases writes
    exact .completes rfl
  | readingShutdown =>
    cases shutdown with
    | false =>
      cases writes
      exact .on ⟨rfl, rfl⟩ ⟨rfl, rfl⟩ (turns_of_unclear rfl rfl)
    | true =>
      cases writes
      exact .returns rfl rfl
  | returned => cases writes

/-!
### The whole
-/

/-- The ledger: a line of a call that has begun is written, counted, queued, or in somebody's
hands; the counters say how many are still to be. -/
structure Sound (run : LogRun) : Prop where
  ledger : ∀ kind line, (run.calls.map fun call => (call.taken kind).count line).sum =
    (run.lanes kind).lines.count line +
      (run.calls.map fun call => (call.held kind).count line).sum +
        (run.writer.held kind).count line
  level : ∀ kind, (run.lanes kind).outstanding = ((run.lanes kind).queue.length +
    (run.calls.map (LogCall.weight kind)).sum + run.writer.weight kind : Nat)
  registered : run.producers = ((run.calls.map fun call => call.point.registered).sum : Nat)
  named : ∀ (index : Nat) (call : LogCall), run.calls[index]? = some call →
    ∀ line ∈ call.line, line.call = index
  own : ∀ call ∈ run.calls, ∀ line ∈ call.point.own, call.line = some line
  clear : run.writer.point.clear = true → run.writer.pending = none
  asked : ∀ lines ∈ run.requests, ∀ pair ∈ lines, ∃ call ∈ run.calls,
    call.kind = pair.1 ∧ call.line = some pair.2 ∧ call.point = .returned

theorem sound_initial : Sound initial where
  ledger kind line := by cases kind <;> rfl
  level kind := by cases kind <;> rfl
  registered := rfl
  named index call here := by cases here
  own _ mem := absurd mem List.not_mem_nil
  clear _ := rfl
  asked _ mem := absurd mem List.not_mem_nil

/-- The writer goes on with the same lines in its hands. -/
theorem Sound.goes (sound : run.Sound) {writer : LogWriter} {completed : Nat}
    (held : ∀ kind, writer.held kind = run.writer.held kind)
    (weight : ∀ kind, writer.weight kind = run.writer.weight kind)
    (clear : writer.point.clear = true → writer.pending = none) :
    Sound { run with writer := writer, flushCompleted := completed } where
  ledger kind line := by
    rw [held]
    exact sound.ledger kind line
  level kind := by
    rw [weight]
    exact sound.level kind
  registered := sound.registered
  named := sound.named
  own := sound.own
  clear := clear
  asked := sound.asked

/-- The writer goes on from where it has no line to where it has none. -/
theorem Sound.passes (sound : run.Sound) {point : WriterPoint} (after : WriterPoint)
    (completed : Nat) (here : run.writer.point = point) (empty : point.empty = true)
    (none : after.empty = true) (clear : point.clear = true) :
    Sound { run.goTo after with flushCompleted := completed } := by
  subst here
  refine sound.goes (fun kind => ?_) (fun kind => ?_) (fun _ => sound.clear clear)
  · rw [LogWriter.held_of_empty empty, LogWriter.held_of_empty none]
    rfl
  · rw [LogWriter.weight_of_empty empty, LogWriter.weight_of_empty none]
    rfl

theorem Sound.writes (sound : run.Sound) (took : run.write = some next) : Sound next := by
  cases write_writing sound.clear took with
  | acts kind writes others turns =>
    refine ⟨fun other line => ?_, fun other => ?_, sound.registered, sound.named, sound.own,
      turns.clear, sound.asked⟩
    · by_cases same : other = kind
      · subst same
        have kept := writes.kept line
        have before := sound.ledger other line
        rw [List.count_append, List.count_append] at kept
        simp only [act, Function.update_self]
        omega
      · simp only [act, Function.update_of_ne same, (others other same).1]
        exact sound.ledger other line
    · by_cases same : other = kind
      · subst same
        have level := writes.level
        have before := sound.level other
        simp only [act, Function.update_self]
        omega
      · simp only [act, Function.update_of_ne same, (others other same).2]
        exact sound.level other
  | goes held weight turns => exact sound.goes held weight turns.clear
  | promises here asked => exact sound.passes (.completing _) _ here rfl rfl rfl
  | completes here => exact sound.passes .readingShutdown _ here rfl rfl rfl
  | returns here shut => exact sound.passes .returned _ here rfl rfl rfl

/-- A call moves on. -/
theorem Sound.produces (sound : run.Sound) {capacity index : Nat} {call : LogCall}
    {lane : LogLane} {producers : Int} {point : LogPoint} (here : run.calls[index]? = some call)
    (moves : produce capacity run.accepting (run.lanes call.kind) run.producers call.line
      call.point = some (lane, producers, point)) :
    Sound { run with
      lanes := Function.update run.lanes call.kind lane
      producers := producers
      calls := run.calls.set index { call with point := point } } := by
  have carries := produce_carries moves
  refine ⟨fun kind line => ?_, fun kind => ?_, ?_, fun other caller there => ?_,
    fun caller mem => ?_, sound.clear, fun lines mem pair within => ?_⟩
  · have taken := sum_set here { call with point := point } fun c => (c.taken kind).count line
    have held := sum_set here { call with point := point } fun c => (c.held kind).count line
    have before := sound.ledger kind line
    by_cases same : call.kind = kind
    · subst same
      have kept := carries.kept line
      rw [List.count_append, List.count_append] at kept
      dsimp only at kept
      simp only [LogCall.taken, LogCall.held, if_true] at taken held
      simp only [Function.update_self]
      simp only [LogCall.taken, LogCall.held] at before ⊢
      omega
    · simp only [LogCall.taken, LogCall.held, if_neg same] at taken held
      simp only [Function.update_of_ne (Ne.symm same)]
      simp only [LogCall.taken, LogCall.held] at before ⊢
      omega
  · have weight := sum_set here { call with point := point } (LogCall.weight kind)
    have before := sound.level kind
    by_cases same : call.kind = kind
    · subst same
      have level := carries.level
      dsimp only at level
      simp only [LogCall.weight, if_true] at weight
      simp only [Function.update_self]
      omega
    · simp only [LogCall.weight, if_neg same] at weight
      simp only [Function.update_of_ne (Ne.symm same)]
      omega
  · have registered := sum_set here { call with point := point } fun c => c.point.registered
    have before := sound.registered
    have after := carries.registered
    dsimp only at registered after ⊢
    omega
  · rcases eq_or_ne index other with rfl | differs
    · obtain ⟨bound, rfl⟩ := List.getElem?_eq_some_iff.mp there
      rw [List.getElem_set_self]
      exact sound.named _ call here
    · rw [List.getElem?_set_ne differs] at there
      exact sound.named other caller there
  · rcases List.mem_or_eq_of_mem_set mem with old | rfl
    · exact sound.own caller old
    · exact produce_own moves (sound.own call (List.mem_of_getElem? here))
  · obtain ⟨caller, mem, kind, line, returned⟩ := sound.asked lines mem pair within
    obtain ⟨other, bound, rfl⟩ := List.mem_iff_getElem.mp mem
    refine ⟨run.calls[other], ?_, kind, line, returned⟩
    refine List.mem_iff_getElem?.mpr ⟨other, ?_⟩
    rw [List.getElem?_set_ne, List.getElem?_eq_getElem bound]
    rintro rfl
    rw [List.getElem?_eq_getElem bound] at here
    cases here
    rw [returned] at moves
    cases moves

theorem weights_append (calls : List LogCall) (call : LogCall) (weight : LogCall → Nat)
    (none : weight call = 0) : ((calls ++ [call]).map weight).sum = (calls.map weight).sum := by
  rw [List.map_append, List.sum_append, List.map_singleton, List.sum_singleton, none]
  rfl

/-- A call comes. -/
theorem Sound.enqueues (sound : run.Sound) (kind : LogKind) (value : Option Text) :
    Sound (run.step capacity (.enqueue kind value)).1 where
  ledger other line := by
    simp only [step]
    rw [weights_append, weights_append]
    · exact sound.ledger other line
    · simp [LogCall.held, LogPoint.held]
    · simp [LogCall.taken, LogPoint.taken, LogPoint.begun]
  level other := by
    simp only [step]
    rw [weights_append]
    · exact sound.level other
    · simp [LogCall.weight, LogPoint.weight]
  registered := by
    simp only [step]
    rw [weights_append]
    · exact sound.registered
    · rfl
  named index call here line mem := by
    change (run.calls ++ [_])[index]? = some call at here
    rcases Nat.lt_or_ge index run.calls.length with old | new
    · rw [List.getElem?_append_left old] at here
      exact sound.named index call here line mem
    · rw [List.getElem?_append_right new] at here
      obtain ⟨bound, rfl⟩ := List.getElem?_eq_some_iff.mp here
      rw [List.getElem_singleton] at mem
      obtain ⟨text, -, rfl⟩ := Option.map_eq_some_iff.mp mem
      exact Nat.le_antisymm new (Nat.sub_eq_zero_iff_le.mp (Nat.lt_one_iff.mp bound))
  own call mem line within := by
    rcases List.mem_append.mp mem with old | new
    · exact sound.own call old line within
    · rw [List.mem_singleton.mp new] at within
      cases within
  clear := sound.clear
  asked lines mem pair within := by
    obtain ⟨call, old, stands⟩ := sound.asked lines mem pair within
    exact ⟨call, List.mem_append_left _ old, stands⟩

/-- A flush is requested: it stands for the lines of the calls that have returned. -/
theorem Sound.flushes (sound : run.Sound) : Sound (run.step capacity .flush).1 where
  ledger := sound.ledger
  level := sound.level
  registered := sound.registered
  named := sound.named
  own := sound.own
  clear := sound.clear
  asked lines mem pair within := by
    rcases List.mem_append.mp mem with old | new
    · exact sound.asked lines old pair within
    · rw [List.mem_singleton.mp new] at within
      obtain ⟨call, inside, here⟩ := List.mem_filterMap.mp within
      split at here
      next returned =>
        obtain ⟨line, same, rfl⟩ := Option.map_eq_some_iff.mp here
        exact ⟨call, inside, rfl, same, returned⟩
      · cases here

theorem Sound.step (sound : run.Sound) (event : LogEvent) : Sound (run.step capacity event).1 := by
  cases event with
  | enqueue kind value => exact sound.enqueues kind value
  | produce index =>
    rw [LogRun.step]
    split
    · exact sound
    next call here =>
      split
      · exact sound
      next moves => exact sound.produces here moves
  | write =>
    rw [LogRun.step]
    cases writes : run.write with
    | none => exact sound
    | some next => exact sound.writes writes
  | flush => exact sound.flushes
  | refuse => exact ⟨sound.ledger, sound.level, sound.registered, sound.named, sound.own,
      sound.clear, sound.asked⟩
  | shutdown =>
    rw [LogRun.step]
    split
    · exact sound
    · exact ⟨sound.ledger, sound.level, sound.registered, sound.named, sound.own, sound.clear,
        sound.asked⟩

/-!
### What is settled
-/

theorem mem_places {kind : LogKind} {line : LogLine} :
    (run.places kind).count line = (run.lanes kind).lines.count line +
      (run.calls.map fun call => (call.held kind).count line).sum +
        (run.writer.held kind).count line := by
  rw [places, List.count_append, List.count_append, List.count_flatMap]
  rfl

/-- A line of a call that has begun is of no other call. -/
theorem Sound.taken_once (sound : run.Sound) {index : Nat} {call : LogCall} {line : LogLine}
    (here : run.calls[index]? = some call) (begun : call.point.begun = true)
    (of : call.line = some line) :
    (run.calls.map fun c => (c.taken call.kind).count line).sum = 1 := by
  rw [← sum_eraseIdx here]
  have own : (call.taken call.kind).count line = 1 := by
    simp [LogCall.taken, LogPoint.taken, begun, of]
  have others :
      ((run.calls.eraseIdx index).map fun c => (c.taken call.kind).count line).sum = 0 := by
    refine List.sum_eq_zero fun count mem => ?_
    obtain ⟨other, inside, rfl⟩ := List.mem_map.mp mem
    obtain ⟨place, differs, there⟩ := List.mem_eraseIdx_iff_getElem?.mp inside
    refine List.count_eq_zero.mpr fun within => differs ?_
    have its : line ∈ other.line := by
      simp only [LogCall.taken, LogPoint.taken] at within
      split at within
      · split at within
        · exact Option.mem_toList.mp within
        · cases within
      · cases within
    exact (sound.named place other there line its).symm.trans (sound.named index call here line of)
  rw [own, others]

/-- A line that nobody has in his hands is settled, when the queue is empty. -/
theorem Sound.settled (sound : run.Sound) {index : Nat} {call : LogCall} {line : LogLine}
    (here : run.calls[index]? = some call) (begun : call.point.begun = true)
    (of : call.line = some line) (queue : (run.lanes call.kind).queue = [])
    (calls : ∀ caller ∈ run.calls, line ∉ caller.held call.kind)
    (writer : run.writer.held call.kind = []) : run.Settled call.kind line := by
  have ledger := sound.ledger call.kind line
  have none : (run.calls.map fun c => (c.held call.kind).count line).sum = 0 := by
    refine List.sum_eq_zero fun count mem => ?_
    obtain ⟨caller, inside, rfl⟩ := List.mem_map.mp mem
    exact List.count_eq_zero.mpr (calls caller inside)
  rw [sound.taken_once here begun of, none, writer, List.count_nil] at ledger
  have mem : line ∈ (run.lanes call.kind).lines := List.count_pos_iff.mp (by omega)
  rw [LogLane.lines, queue, List.append_nil] at mem
  exact List.mem_append.mp mem

/-- Where the counter of a queue is zero nothing is on its way. -/
theorem Sound.level_zero (sound : run.Sound) {kind : LogKind}
    (zero : (run.lanes kind).outstanding = 0) : (run.lanes kind).queue = [] ∧
      (∀ call ∈ run.calls, call.weight kind = 0) ∧ run.writer.weight kind = 0 := by
  have level := sound.level kind
  have sum : (run.calls.map (LogCall.weight kind)).sum = 0 := by omega
  refine ⟨List.length_eq_zero_iff.mp (by omega), fun call mem => ?_, by omega⟩
  exact List.sum_eq_zero_iff_forall_eq_nat.mp sum _ (List.mem_map_of_mem mem)

/-- What a call without weight has in its hands is its own, and it has not returned. -/
theorem own_of_held {line : Option LogLine} {point : LogPoint} {held : LogLine}
    (none : point.weight = 0) (mem : held ∈ point.held line)
    (own : ∀ held ∈ point.own, line = some held) :
    line = some held ∧ point.registered = 1 ∧ point ≠ .returned := by
  cases point with
  | formatting => exact ⟨Option.mem_toList.mp mem, rfl, nofun⟩
  | counting counted => exact ⟨own held mem, rfl, nofun⟩
  | losing lost => exact ⟨own held mem, rfl, nofun⟩
  | pushing _ _ => cases none
  | evicting _ _ => cases none
  | evicted _ _ _ => cases none
  | dropping _ _ _ => cases none
  | _ => cases mem

/-- Where the counters are zero the lines of the calls that have returned are settled. -/
theorem Sound.settled_of_level (sound : run.Sound) (point : run.writer.point = .readingFlush)
    (zero : ∀ kind, (run.lanes kind).outstanding = 0) {call : LogCall} (mem : call ∈ run.calls)
    (returned : call.point = .returned) {line : LogLine} (of : call.line = some line) :
    run.Settled call.kind line := by
  obtain ⟨index, here⟩ := List.mem_iff_getElem?.mp mem
  obtain ⟨queue, weights, -⟩ := sound.level_zero (zero call.kind)
  refine sound.settled here (by rw [returned]; rfl) of queue (fun caller inside within => ?_) ?_
  · rw [LogCall.held] at within
    split at within
    next same =>
      have none := weights caller inside
      rw [LogCall.weight, if_pos same] at none
      obtain ⟨its, -, going⟩ := own_of_held none within (sound.own caller inside)
      obtain ⟨place, there⟩ := List.mem_iff_getElem?.mp inside
      have equal := (sound.named place caller there line its).symm.trans
        (sound.named index call here line of)
      rw [equal] at there
      rw [Option.some.inj (here.symm.trans there)] at returned
      exact going returned
    · cases within
  · rw [LogWriter.held_of_empty (by rw [point]; rfl)]
    have pending := sound.clear (by rw [point]; rfl)
    cases call.kind with
    | protocol => rfl
    | diagnostic => rw [LogWriter.waiting, pending]; rfl

/-- Where nobody produces, and the counters are zero, all lines are settled. -/
theorem Sound.settled_of_quiet (sound : run.Sound) (point : run.writer.point = .readingShutdown)
    (zero : ∀ kind, (run.lanes kind).outstanding = 0) (idle : run.producers = 0) {call : LogCall}
    (mem : call ∈ run.calls) (begun : call.point.begun = true) {line : LogLine}
    (of : call.line = some line) : run.Settled call.kind line := by
  obtain ⟨index, here⟩ := List.mem_iff_getElem?.mp mem
  obtain ⟨queue, weights, -⟩ := sound.level_zero (zero call.kind)
  refine sound.settled here begun of queue (fun caller inside within => ?_) ?_
  · have registered := sound.registered
    rw [idle] at registered
    have none := List.sum_eq_zero_iff_forall_eq_nat.mp (Int.ofNat_inj.mp registered).symm _
      (List.mem_map_of_mem inside)
    rw [LogCall.held] at within
    split at within
    next same =>
      have weight := weights caller inside
      rw [LogCall.weight, if_pos same] at weight
      obtain ⟨-, one, -⟩ := own_of_held weight within (sound.own caller inside)
      exact absurd (one.symm.trans none) Nat.one_ne_zero
    · cases within
  · rw [LogWriter.held_of_empty (by rw [point]; rfl)]
    have pending := sound.clear (by rw [point]; rfl)
    cases call.kind with
    | protocol => rfl
    | diagnostic => rw [LogWriter.waiting, pending]; rfl

/-!
### Flushes and the return
-/

/-- What is settled in the one state is in the other. -/
def Settles (run next : LogRun) : Prop :=
  ∀ kind line, run.Settled kind line → next.Settled kind line

/-- The lines that the first requests stand for are settled. -/
def Promised (run : LogRun) (requested : Nat) : Prop :=
  requested ≤ run.requests.length ∧
    ∀ lines ∈ run.requests.take requested, ∀ pair ∈ lines, run.Settled pair.1 pair.2

theorem Promised.kept {requested : Nat} (promised : run.Promised requested)
    (settles : Settles run next) (requests : run.requests <+: next.requests) :
    next.Promised requested := by
  obtain ⟨later, same⟩ := requests
  constructor
  · rw [← same, List.length_append]
    exact Nat.le_add_right_of_le promised.1
  · intro lines mem pair within
    rw [← same, List.take_append_of_le_length promised.1] at mem
    exact settles _ _ (promised.2 lines mem pair within)

/-- The lines of all calls that have begun are settled. -/
def Done (run : LogRun) : Prop :=
  ∀ call ∈ run.calls, call.point.begun = true → ∀ line ∈ call.line, run.Settled call.kind line

structure Fulfilled (run : LogRun) : Prop where
  flushed : run.Promised run.flushCompleted
  completing : ∀ requested, run.writer.point = .completing requested → run.Promised requested
  closed : run.shutdown = true → run.accepting = false
  ended : run.writer.point = .returned → run.shutdown = true ∧ run.Done

/-- Where the writer reads a new request, or the shutdown, the counters that it read are zero. -/
def Careful (run : LogRun) : LogEvent → Prop
  | .write =>
      match run.writer.point with
      | .readingFlush =>
          run.flushCompleted < run.requests.length → ∀ kind, (run.lanes kind).outstanding = 0
      | .readingShutdown =>
          run.shutdown = true →
            (∀ kind, (run.lanes kind).outstanding = 0) ∧ run.producers = 0
      | _ => True
  | _ => True

theorem fulfilled_initial : Fulfilled initial where
  flushed := ⟨Nat.le_refl _, fun _ mem => absurd mem List.not_mem_nil⟩
  completing _ here := by cases here
  closed shut := by cases shut
  ended here := by cases here

theorem settles_of_subset {kind : LogKind} {lane : LogLane}
    (same : next.lanes = Function.update run.lanes kind lane)
    (written : (run.lanes kind).written ⊆ lane.written)
    (dropped : (run.lanes kind).dropped ⊆ lane.dropped) : Settles run next := by
  intro other line settled
  rw [Settled, same]
  by_cases equal : other = kind
  · subst equal
    rw [Function.update_self]
    exact settled.imp (fun mem => written mem) fun mem => dropped mem
  · rw [Function.update_of_ne equal]
    exact settled

/-- The writer moves on. -/
theorem Fulfilled.turned (fulfilled : run.Fulfilled) (settles : Settles run next)
    (plain : next.writer.point.plain = true) (requests : next.requests = run.requests)
    (completed : next.flushCompleted = run.flushCompleted) (shutdown : next.shutdown = run.shutdown)
    (accepting : next.accepting = run.accepting) : next.Fulfilled where
  flushed := by
    rw [completed]
    exact fulfilled.flushed.kept settles (requests ▸ List.prefix_refl _)
  completing requested here := by
    rw [here] at plain
    cases plain
  closed := by
    rw [shutdown, accepting]
    exact fulfilled.closed
  ended here := by
    rw [here] at plain
    cases plain

theorem Fulfilled.writes (fulfilled : run.Fulfilled) (sound : run.Sound)
    (careful : run.Careful .write) (took : run.write = some next) : next.Fulfilled := by
  cases write_writing sound.clear took with
  | acts kind writes others turns =>
    exact fulfilled.turned (settles_of_subset rfl writes.written writes.dropped) turns.plain rfl rfl
      rfl rfl
  | goes held weight turns =>
    exact fulfilled.turned (fun _ _ => id) turns.plain rfl rfl rfl rfl
  | promises here asked =>
    refine ⟨fulfilled.flushed, fun requested there => ?_, fulfilled.closed, nofun⟩
    cases there
    refine ⟨Nat.le_refl _, fun lines mem pair within => ?_⟩
    simp only [Careful, here] at careful
    change lines ∈ run.requests.take run.requests.length at mem
    rw [List.take_length] at mem
    obtain ⟨call, inside, kind, of, returned⟩ := sound.asked lines mem pair within
    rw [← kind]
    exact sound.settled_of_level here (careful asked) inside returned of
  | completes here =>
    exact ⟨fulfilled.completing _ here, nofun, fulfilled.closed, nofun⟩
  | returns here shut =>
    refine ⟨fulfilled.flushed, nofun, fulfilled.closed, fun _ => ⟨shut, ?_⟩⟩
    intro call mem begun line of
    simp only [Careful, here] at careful
    obtain ⟨zero, idle⟩ := careful shut
    exact sound.settled_of_quiet here zero idle mem begun of

/-- Behind the refusal no call begins. -/
theorem begun_of_produce {capacity : Nat} {lane : LogLane} {producers : Int}
    {line : Option LogLine} {point : LogPoint} {after : LogLane × Int × LogPoint}
    (moves : produce capacity false lane producers line point = some after)
    (begun : after.2.2.begun = true) : point.begun = true := by
  cases point with
  | entering => cases moves; cases begun
  | registering => cases moves; cases begun
  | confirming => cases moves; cases begun
  | withdrawing => cases moves; cases begun
  | refused => cases moves
  | _ => rfl

theorem Fulfilled.produces (fulfilled : run.Fulfilled) {capacity index : Nat} {call : LogCall}
    {lane : LogLane} {producers : Int} {point : LogPoint} (here : run.calls[index]? = some call)
    (moves : produce capacity run.accepting (run.lanes call.kind) run.producers call.line
      call.point = some (lane, producers, point)) :
    Fulfilled { run with
      lanes := Function.update run.lanes call.kind lane
      producers := producers
      calls := run.calls.set index { call with point := point } } := by
  have carries := produce_carries moves
  have settles := @settles_of_subset run
    { run with
      lanes := Function.update run.lanes call.kind lane
      producers := producers
      calls := run.calls.set index { call with point := point } } _ _ rfl carries.written
    carries.dropped
  refine ⟨fulfilled.flushed.kept settles (List.prefix_refl _), fun requested there =>
    (fulfilled.completing requested there).kept settles (List.prefix_refl _), fulfilled.closed,
    fun returned => ?_⟩
  obtain ⟨shut, done⟩ := fulfilled.ended returned
  refine ⟨shut, fun caller mem begun line of => settles _ _ ?_⟩
  rcases List.mem_or_eq_of_mem_set mem with old | rfl
  · exact done caller old begun line of
  · rw [fulfilled.closed shut] at moves
    exact done call (List.mem_of_getElem? here) (begun_of_produce moves begun) line of

theorem Fulfilled.step (fulfilled : run.Fulfilled) (sound : run.Sound) (event : LogEvent)
    (careful : run.Careful event) : Fulfilled (run.step capacity event).1 := by
  cases event with
  | enqueue kind value =>
    refine ⟨fulfilled.flushed, fulfilled.completing, fulfilled.closed, fun returned => ?_⟩
    obtain ⟨shut, done⟩ := fulfilled.ended returned
    refine ⟨shut, fun call mem begun => ?_⟩
    rcases List.mem_append.mp mem with old | new
    · exact done call old begun
    · rw [List.mem_singleton.mp new] at begun
      cases begun
  | produce index =>
    rw [LogRun.step]
    split
    · exact fulfilled
    next call here =>
      split
      · exact fulfilled
      next moves => exact fulfilled.produces here moves
  | write =>
    rw [LogRun.step]
    cases writes : run.write with
    | none => exact fulfilled
    | some next => exact fulfilled.writes sound careful writes
  | flush =>
    refine ⟨fulfilled.flushed.kept (fun _ _ => id) (List.prefix_append _ _), fun requested there =>
      (fulfilled.completing requested there).kept (fun _ _ => id) (List.prefix_append _ _),
      fulfilled.closed, fulfilled.ended⟩
  | refuse => exact ⟨fulfilled.flushed, fulfilled.completing, fun _ => rfl, fulfilled.ended⟩
  | shutdown =>
    rw [LogRun.step]
    split
    · exact fulfilled
    next refused =>
      exact ⟨fulfilled.flushed, fulfilled.completing, fun _ => eq_false_of_ne_true refused,
        fun returned => ⟨rfl, (fulfilled.ended returned).2⟩⟩

theorem Sound.once (sound : run.Sound) {call : LogCall} (mem : call ∈ run.calls)
    (begun : call.point.begun = true) {line : LogLine} (of : call.line = some line) :
    (run.places call.kind).count line = 1 := by
  obtain ⟨index, here⟩ := List.mem_iff_getElem?.mp mem
  rw [mem_places, ← sound.ledger]
  exact sound.taken_once here begun of

/-- However producers, the writer, flushes and the shutdown interleave, every line is in one
place and no counter is negative; and if the counters that the writer found at zero are so where
it reads a new request or the shutdown, no line is left behind. -/
theorem accounted_of_careful (capacity : LogKind → Nat) (events : List LogEvent)
    (careful : Transducer.AtEveryStep (step capacity) initial events Careful) :
    Transducer.Throughout (step capacity) initial events Accounted := by
  intro consumed within
  have kept := @Transducer.invariant_of_atEveryStep _ _ _ (step capacity)
    (fun run => Sound run ∧ Fulfilled run) Careful
    (fun _ event both careful =>
      ⟨both.1.step event, both.2.step both.1 event careful⟩) _ _
    ⟨sound_initial, fulfilled_initial⟩ (careful.of_prefix within)
  obtain ⟨sound, fulfilled⟩ := kept
  exact {
    once := fun call mem begun line of => sound.once mem begun of
    outstanding := fun kind => by
      rw [sound.level]
      exact Int.natCast_nonneg _
    producers := by
      rw [sound.registered]
      exact Int.natCast_nonneg _
    flushed := fulfilled.flushed.2
    stopped := fun returned => (fulfilled.ended returned).2 }

instance {property : LogKind → Prop} [DecidablePred property] : Decidable (∀ kind, property kind) :=
  decidable_of_iff (property .protocol ∧ property .diagnostic)
    ⟨fun both kind => kind.casesOn both.1 both.2, fun all => ⟨all _, all _⟩⟩

instance : DecidableRel Careful := fun run event => by
  unfold Careful
  split
  · split <;> infer_instance
  · infer_instance

/-- A diagnostic that comes twice and a protocol line, then a flush and the shutdown. -/
def threeLines : List LogEvent :=
  [.enqueue .diagnostic (some ['s', 'l', 'o', 'w']),
   .enqueue .diagnostic (some ['s', 'l', 'o', 'w']),
   .enqueue .protocol (some ['r', 'e', 'a', 'd', 'y'])] ++
  List.replicate 7 (.produce 0) ++ List.replicate 7 (.produce 1) ++
  List.replicate 7 (.produce 2) ++ .flush :: List.replicate 24 .write ++
  .refuse :: .shutdown :: List.replicate 9 .write

theorem accounted_three :
    Transducer.Throughout (step fun _ => 8) initial threeLines Accounted :=
  accounted_of_careful _ _ (by decide +kernel)

/-- The writer has found no protocol line, one is enqueued, and the writer finds the other
counters at zero and the shutdown set. -/
def lostRun : List LogEvent :=
  List.replicate 4 .write ++ .enqueue .protocol (some ['e', 'n', 'd']) ::
  List.replicate 7 (.produce 0) ++ .refuse :: .shutdown :: List.replicate 4 .write

theorem line_lost :
    ¬ ∀ (capacity : LogKind → Nat) (events : List LogEvent),
      Transducer.Throughout (step capacity) initial events Accounted := by
  intro always
  have accounted := always (fun _ => 8) lostRun _ (List.prefix_refl _)
  have settled := accounted.stopped (by decide +kernel)
    ⟨.protocol, some ⟨0, ['e', 'n', 'd']⟩, .returned⟩ (by decide +kernel) rfl
    ⟨0, ['e', 'n', 'd']⟩ rfl
  exact settled.elim (by decide +kernel) (by decide +kernel)

end LogRun

end Csqtt
