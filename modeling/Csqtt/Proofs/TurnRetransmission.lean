/-
Module: Csqtt.Proofs.TurnRetransmission
Purpose: How often and at what intervals the packet of a transaction is queued before it
  times out, and that the walk over the pending transactions ends.
Trusted boundary: none
Main exports: transmissions, timeouts, gap, Life, Timed, timed_move, transmissions_bounded
-/
import Csqtt.Proofs.TurnLifecycle

namespace Csqtt

open Inner

/-- When the packet of a transaction was queued, if an entry says so. -/
def Entry.transmissionOf (serial : Nat) : Entry → Option Nat
  | .queued (.transmission other time) _ => if other = serial then some time else none
  | _ => none

def Entry.timeoutOf (serial : Nat) : Entry → Option Nat
  | .timedOut other time => if other = serial then some time else none
  | _ => none

/-- When the packet of a transaction was queued, in order. -/
def transmissions (serial : Nat) (history : List Entry) : List Nat :=
  history.filterMap (Entry.transmissionOf serial)

/-- When a transaction timed out. -/
def timeouts (serial : Nat) (history : List Entry) : List Nat :=
  history.filterMap (Entry.timeoutOf serial)

/-- The least time between two transmissions of a packet, by how many came before. -/
def gap (index : Nat) : Nat :=
  min (initialRto * 2 ^ index) maxRto

theorem gap_succ (index : Nat) : gap (index + 1) = min (gap index * 2) maxRto := by
  simp only [gap, Nat.pow_succ, ← Nat.mul_assoc]
  omega

/-- What becomes of a transaction: a few transmissions, each some time after the last, and
at most one timeout, when all attempts were made and the last has had its time. -/
structure Life (transport : TurnControlTransport) (times ends : List Nat) : Prop where
  bounded : times.length ≤ maxTransmissions
  spaced : ∀ index first second, times[index]? = some first → times[index + 1]? = some second →
    first + gap index ≤ second
  single : transport = .stream → times.length ≤ 1
  ended : ends = [] ∨ ∃ last time, ends = [time] ∧ times.getLast? = some last ∧
    (transport = .datagram → times.length = maxTransmissions ∧ last + maxRto ≤ time) ∧
    (transport = .stream → times.length = 1 ∧ last + streamTransactionTimeout ≤ time)

/-- What a pending transaction records of its transmissions. -/
structure Recorded (transport : TurnControlTransport) (pending : PendingTransaction)
    (times ends : List Nat) : Prop where
  running : ends = []
  count : times.length = pending.transmissions
  next : ∃ last, times.getLast? = some last ∧
    (transport = .datagram → pending.rto = gap (pending.transmissions - 1) ∧
      pending.nextAttempt = last + gap (pending.transmissions - 1)) ∧
    (transport = .stream → pending.transmissions = 1 ∧
      pending.nextAttempt = last + streamTransactionTimeout)

/-- The invariant of the pending transactions and the history. -/
structure Timed (inner : Inner) : Prop where
  distinct : (inner.pending.map (·.serial)).Nodup
  numbered : ∀ pending ∈ inner.pending, pending.serial < inner.started
  recorded : ∀ pending ∈ inner.pending, Recorded inner.transport pending
    (transmissions pending.serial inner.history) (timeouts pending.serial inner.history)
  lives : ∀ serial, Life inner.transport (transmissions serial inner.history)
    (timeouts serial inner.history)
  future : ∀ serial, inner.started ≤ serial →
    transmissions serial inner.history = [] ∧ timeouts serial inner.history = []

section Lives

variable {transport : TurnControlTransport} {times ends : List Nat} {pending : PendingTransaction}

theorem life_nil : Life transport [] [] :=
  ⟨Nat.zero_le _, by simp, fun _ => Nat.zero_le _, Or.inl rfl⟩

theorem life_start (time : Nat) : Life transport [time] [] :=
  ⟨(by decide : 1 ≤ maxTransmissions), by simp, fun _ => Nat.le_refl _, Or.inl rfl⟩

/-- A transmission that is due and not the last one. -/
theorem life_retransmit (life : Life transport times ends)
    (recorded : Recorded transport pending times ends) {now : Nat}
    (due : pending.nextAttempt ≤ now) (left : pending.transmissions < maxTransmissions)
    (datagram : transport = .datagram) : Life transport (times ++ [now]) ends := by
  rcases recorded.next with ⟨last, final, timed, -⟩
  have count := recorded.count
  constructor
  · rw [List.length_append, List.length_singleton, count]
    exact left
  · intro index first second before after_
    rcases Nat.lt_trichotomy (index + 1) times.length with inside | edge | outside
    · rw [List.getElem?_append_left (Nat.lt_of_succ_lt inside)] at before
      rw [List.getElem?_append_left inside] at after_
      exact life.spaced index first second before after_
    · -- The new transmission follows the last one, whose time has passed.
      have reached := (timed datagram).2
      rw [List.getElem?_append_left (by omega)] at before
      rw [List.getElem?_append_right (by omega), edge, Nat.sub_self] at after_
      rw [List.getLast?_eq_getElem?, ← edge, Nat.add_sub_cancel] at final
      rw [before, Option.some.injEq] at final
      rw [List.getElem?_cons_zero, Option.some.injEq] at after_
      rw [← count, ← edge, Nat.add_sub_cancel] at reached
      omega
    · rw [List.getElem?_eq_none (by simp; omega)] at after_
      cases after_
  · intro stream
    rw [datagram] at stream
    cases stream
  · exact Or.inl recorded.running

theorem recorded_retransmit (recorded : Recorded transport pending times ends) (now : Nat)
    (datagram : transport = .datagram) :
    Recorded transport (PendingTransaction.transmitted pending now) (times ++ [now]) ends := by
  rcases recorded.next with ⟨last, final, timed, -⟩
  have count := recorded.count
  have some_ : times ≠ [] := by
    rintro rfl
    cases final
  have positive : 0 < times.length := List.length_pos_iff.mpr some_
  have rto := (timed datagram).1
  have step : gap (pending.transmissions + 1 - 1) = min (pending.rto * 2) maxRto := by
    rw [rto, Nat.add_sub_cancel, ← gap_succ, Nat.sub_add_cancel (by omega)]
  constructor
  · exact recorded.running
  · simp [PendingTransaction.transmitted, count]
  · refine ⟨now, by simp, fun _ => ⟨step.symm, ?_⟩, fun stream => ?_⟩
    · simp only [PendingTransaction.transmitted, step]
    · rw [datagram] at stream
      cases stream

/-- A timeout comes after the last attempt has had its time. -/
theorem life_timeOut (life : Life transport times ends)
    (recorded : Recorded transport pending times ends) {now : Nat}
    (due : pending.nextAttempt ≤ now)
    (last : maxTransmissions ≤ pending.transmissions ∨ transport = .stream) :
    Life transport times (ends ++ [now]) := by
  rcases recorded.next with ⟨final, same, timed, streamed⟩
  refine ⟨life.bounded, life.spaced, life.single, Or.inr ⟨final, now, ?_, same, ?_, ?_⟩⟩
  · rw [recorded.running]
    rfl
  · intro datagram
    have all : times.length = maxTransmissions := by
      rcases last with enough | stream
      · rw [← recorded.count] at enough
        exact Nat.le_antisymm life.bounded enough
      · rw [datagram] at stream
        cases stream
    have reached := (timed datagram).2
    have final_ : gap (maxTransmissions - 1) = maxRto := by decide
    rw [← recorded.count, all, final_] at reached
    exact ⟨all, reached ▸ due⟩
  · intro stream
    have reached := streamed stream
    rw [recorded.count]
    exact ⟨reached.1, reached.2 ▸ due⟩

end Lives

section Moves

variable {crypto : StunCrypto} {grant : Prop} {inner inner' : Inner}

theorem transmissions_append (serial : Nat) (first second : List Entry) :
    transmissions serial (first ++ second) =
      transmissions serial first ++ transmissions serial second :=
  List.filterMap_append

theorem timeouts_append (serial : Nat) (first second : List Entry) :
    timeouts serial (first ++ second) = timeouts serial first ++ timeouts serial second :=
  List.filterMap_append

@[simp] theorem transmissions_queued (serial other : Nat) (time : Nat) (packet : List U8) :
    transmissions serial [.queued (.transmission other time) packet] =
      if other = serial then [time] else [] := by
  by_cases same : other = serial <;> simp [transmissions, Entry.transmissionOf, same]

@[simp] theorem timeouts_timedOut (serial other : Nat) (time : Nat) :
    timeouts serial [.timedOut other time] = if other = serial then [time] else [] := by
  by_cases same : other = serial <;> simp [timeouts, Entry.timeoutOf, same]

/-- An entry that is neither a transmission nor a timeout. -/
def Entry.Idle (entry : Entry) : Prop :=
  ∀ serial, entry.transmissionOf serial = none ∧ entry.timeoutOf serial = none

/-- Giving up transactions, and other entries, leave the rest as recorded. -/
theorem timed_fewer (timed : Timed inner) (fewer : inner'.pending.Sublist inner.pending)
    (transport : inner'.transport = inner.transport) (started : inner'.started = inner.started)
    {new : List Entry} (grown : inner'.history = inner.history ++ new)
    (idle : ∀ entry ∈ new, entry.Idle) : Timed inner' := by
  have noTransmission (serial : Nat) : transmissions serial new = [] :=
    List.filterMap_eq_nil_iff.mpr fun entry member => (idle entry member serial).1
  have noTimeout (serial : Nat) : timeouts serial new = [] :=
    List.filterMap_eq_nil_iff.mpr fun entry member => (idle entry member serial).2
  have sameTimes (serial : Nat) :
      transmissions serial inner'.history = transmissions serial inner.history := by
    rw [grown, transmissions_append, noTransmission, List.append_nil]
  have sameEnds (serial : Nat) : timeouts serial inner'.history = timeouts serial inner.history := by
    rw [grown, timeouts_append, noTimeout, List.append_nil]
  constructor
  · exact timed.distinct.sublist (fewer.map _)
  · rw [started]
    exact fun pending member => timed.numbered pending (fewer.subset member)
  · intro pending member
    rw [transport, sameTimes, sameEnds]
    exact timed.recorded pending (fewer.subset member)
  · intro serial
    rw [transport, sameTimes, sameEnds]
    exact timed.lives serial
  · intro serial later
    rw [sameTimes, sameEnds]
    exact timed.future serial (started ▸ later)

theorem recorded_start {transport : TurnControlTransport} {pending : PendingTransaction}
    {time : Nat}
    (rto : pending.rto = initialRto) (transmissions : pending.transmissions = 1)
    (next : pending.nextAttempt = time + match transport with
      | .datagram => initialRto
      | .stream => streamTransactionTimeout) :
    Recorded transport pending [time] [] := by
  refine ⟨rfl, transmissions.symm, time, rfl, ?_, ?_⟩
  · rintro rfl
    rw [transmissions, rto, next]
    exact ⟨by decide, rfl⟩
  · rintro rfl
    rw [transmissions, next]
    exact ⟨rfl, rfl⟩

/-- A new transaction begins its own record. -/
theorem timed_start (timed : Timed inner) {pending : PendingTransaction} {time : Nat}
    {packet : List U8}
    (serial : pending.serial = inner.started)
    (recorded : Recorded inner.transport pending [time] [])
    (pendings : inner'.pending = inner.pending ++ [pending])
    (transport : inner'.transport = inner.transport)
    (started : inner'.started = inner.started + 1)
    (grown : inner'.history =
      inner.history ++ [.queued (.transmission inner.started time) packet]) : Timed inner' := by
  have fresh := timed.future inner.started (Nat.le_refl _)
  have times (number : Nat) : transmissions number inner'.history =
      transmissions number inner.history ++ if inner.started = number then [time] else [] := by
    rw [grown, transmissions_append, transmissions_queued]
  have ends (number : Nat) : timeouts number inner'.history = timeouts number inner.history := by
    rw [grown, timeouts_append]
    exact List.append_nil _
  have newTimes : transmissions inner.started inner'.history = [time] := by
    rw [times, if_pos rfl, fresh.1, List.nil_append]
  have newEnds : timeouts inner.started inner'.history = [] := (ends _).trans fresh.2
  have older {number : Nat} (other : inner.started ≠ number) :
      transmissions number inner'.history = transmissions number inner.history := by
    rw [times, if_neg other, List.append_nil]
  constructor
  · rw [pendings, List.map_append, List.nodup_append]
    refine ⟨timed.distinct, by simp, ?_⟩
    intro number before last after_
    rcases List.mem_map.mp before with ⟨other, member, rfl⟩
    rw [List.map_singleton, List.mem_singleton] at after_
    rw [after_, serial]
    exact Nat.ne_of_lt (timed.numbered other member)
  · intro other member
    rw [pendings] at member
    rw [started]
    rcases List.mem_append.mp member with old | last
    · exact Nat.lt_succ_of_lt (timed.numbered other old)
    · rw [List.mem_singleton.mp last, serial]
      exact Nat.lt_succ_self _
  · intro other member
    rw [pendings] at member
    rw [transport]
    rcases List.mem_append.mp member with old | last
    · rw [older (Nat.ne_of_gt (timed.numbered other old)), ends]
      exact timed.recorded other old
    · rw [List.mem_singleton.mp last, serial, newTimes, newEnds]
      exact recorded
  · intro number
    rw [transport]
    by_cases same : inner.started = number
    · subst same
      rw [newTimes, newEnds]
      exact life_start time
    · rw [older same, ends]
      exact timed.lives number
  · intro number later
    rw [started] at later
    rw [older (Nat.ne_of_lt later), ends]
    exact timed.future number (Nat.le_of_succ_le later)

theorem mem_set_or {pendings : List PendingTransaction} {index : Nat}
    {pending new other : PendingTransaction}
    (distinct : (pendings.map (·.serial)).Nodup) (found : pendings[index]? = some pending)
    (member : other ∈ pendings.set index new) :
    other = new ∨ (other ∈ pendings ∧ other.serial ≠ pending.serial) := by
  rcases List.getElem?_of_mem member with ⟨position, at_⟩
  rw [List.getElem?_set] at at_
  split at at_
  · next same =>
      split at at_
      · exact Or.inl (Option.some.inj at_).symm
      · cases at_
  · next apart =>
      right
      refine ⟨List.mem_of_getElem? at_, ?_⟩
      intro same
      apply apart
      have first : (pendings.map (·.serial))[index]? = some pending.serial := by
        rw [List.getElem?_map, found]
        rfl
      have second : (pendings.map (·.serial))[position]? = some pending.serial := by
        rw [List.getElem?_map, at_]
        exact congrArg some same
      have within : index < (pendings.map (·.serial)).length := by
        apply Nat.lt_of_not_le
        intro outside
        rw [List.getElem?_eq_none outside] at first
        cases first
      exact (List.getElem?_inj within distinct).mp (first.trans second.symm)

/-- Transmitting again adds to the record of one transaction. -/
theorem timed_retransmit (timed : Timed inner) {index : Nat} {pending : PendingTransaction}
    {now : Nat}
    {packet : List U8} (found : inner.pending[index]? = some pending)
    (due : pending.nextAttempt ≤ now) (left : inner.outOfAttempts pending = false)
    (pendings : inner'.pending = inner.pending.set index (PendingTransaction.transmitted pending now))
    (transport : inner'.transport = inner.transport) (started : inner'.started = inner.started)
    (grown : inner'.history =
      inner.history ++ [.queued (.transmission pending.serial now) packet]) : Timed inner' := by
  have member : pending ∈ inner.pending := List.mem_of_getElem? found
  have recorded := timed.recorded pending member
  have more : pending.transmissions < maxTransmissions ∧ inner.transport ≠ .stream := by
    simpa [outOfAttempts] using left
  have datagram : inner.transport = .datagram := by
    cases same : inner.transport with
    | datagram => rfl
    | stream => exact absurd same more.2
  have times (number : Nat) : transmissions number inner'.history =
      transmissions number inner.history ++ if pending.serial = number then [now] else [] := by
    rw [grown, transmissions_append, transmissions_queued]
  have ends (number : Nat) : timeouts number inner'.history = timeouts number inner.history := by
    rw [grown, timeouts_append]
    exact List.append_nil _
  have older {number : Nat} (other : pending.serial ≠ number) :
      transmissions number inner'.history = transmissions number inner.history := by
    rw [times, if_neg other, List.append_nil]
  constructor
  · have same : inner'.pending.map (·.serial) = inner.pending.map (·.serial) := by
      rw [pendings, List.map_set]
      apply List.ext_getElem?
      intro position
      rw [List.getElem?_set]
      split
      · next here =>
          subst here
          rw [List.getElem?_map, found]
          split
          · rfl
          · next outside =>
              rw [List.length_map] at outside
              rw [List.getElem?_eq_none (Nat.le_of_not_lt outside)] at found
              cases found
      · rfl
    rw [same]
    exact timed.distinct
  · intro other inside
    rw [pendings] at inside
    rw [started]
    rcases List.mem_or_eq_of_mem_set inside with old | rfl
    · exact timed.numbered other old
    · exact timed.numbered pending member
  · intro other inside
    rw [pendings] at inside
    rw [transport]
    rcases mem_set_or timed.distinct found inside with rfl | ⟨old, apart⟩
    · rw [times, ends]
      simp only [PendingTransaction.transmitted, if_true]
      exact recorded_retransmit recorded now datagram
    · rw [older apart.symm, ends]
      exact timed.recorded other old
  · intro number
    rw [transport]
    by_cases same : pending.serial = number
    · subst same
      rw [times, if_pos rfl, ends]
      exact life_retransmit (timed.lives _) recorded due more.1 datagram
    · rw [older same, ends]
      exact timed.lives number
  · intro number later
    rw [started] at later
    have apart : pending.serial ≠ number :=
      Nat.ne_of_lt (Nat.lt_of_lt_of_le (timed.numbered pending member) later)
    rw [older apart, ends]
    exact timed.future number later

theorem serial_ne_of_eraseIdx {pendings : List PendingTransaction} {index : Nat}
    {pending other : PendingTransaction}
    (distinct : (pendings.map (·.serial)).Nodup) (found : pendings[index]? = some pending)
    (member : other ∈ pendings.eraseIdx index) : other.serial ≠ pending.serial := by
  rcases List.mem_eraseIdx_iff_getElem?.mp member with ⟨position, apart, at_⟩
  intro same
  apply apart
  have first : (pendings.map (·.serial))[position]? = some pending.serial := by
    rw [List.getElem?_map, at_]
    exact congrArg some same
  have second : (pendings.map (·.serial))[index]? = some pending.serial := by
    rw [List.getElem?_map, found]
    rfl
  have within : position < (pendings.map (·.serial)).length := by
    apply Nat.lt_of_not_le
    intro outside
    rw [List.getElem?_eq_none outside] at first
    cases first
  exact (List.getElem?_inj within distinct).mp (first.trans second.symm)

/-- A timeout ends the record of one transaction. -/
theorem timed_timeOut (timed : Timed inner) {index : Nat} {pending : PendingTransaction} {now : Nat}
    (found : inner.pending[index]? = some pending) (due : pending.nextAttempt ≤ now)
    (last : inner.outOfAttempts pending = true)
    (pendings : inner'.pending = inner.pending.eraseIdx index)
    (transport : inner'.transport = inner.transport) (started : inner'.started = inner.started)
    (grown : inner'.history = inner.history ++ [.timedOut pending.serial now]) : Timed inner' := by
  have member : pending ∈ inner.pending := List.mem_of_getElem? found
  have recorded := timed.recorded pending member
  have times (number : Nat) :
      transmissions number inner'.history = transmissions number inner.history := by
    rw [grown, transmissions_append]
    exact List.append_nil _
  have ends (number : Nat) : timeouts number inner'.history =
      timeouts number inner.history ++ if pending.serial = number then [now] else [] := by
    rw [grown, timeouts_append, timeouts_timedOut]
  have older {number : Nat} (other : pending.serial ≠ number) :
      timeouts number inner'.history = timeouts number inner.history := by
    rw [ends, if_neg other, List.append_nil]
  constructor
  · rw [pendings]
    exact timed.distinct.sublist ((List.eraseIdx_sublist _ _).map _)
  · intro other inside
    rw [pendings] at inside
    rw [started]
    exact timed.numbered other (List.mem_of_mem_eraseIdx inside)
  · intro other inside
    rw [pendings] at inside
    rw [transport, times, older (serial_ne_of_eraseIdx timed.distinct found inside).symm]
    exact timed.recorded other (List.mem_of_mem_eraseIdx inside)
  · intro number
    rw [transport, times]
    by_cases same : pending.serial = number
    · subst same
      rw [ends, if_pos rfl]
      exact life_timeOut (timed.lives _) recorded due (of_decide_eq_true last)
    · rw [older same]
      exact timed.lives number
  · intro number later
    rw [started] at later
    have apart : pending.serial ≠ number :=
      Nat.ne_of_lt (Nat.lt_of_lt_of_le (timed.numbered pending member) later)
    rw [times, older apart]
    exact timed.future number later

theorem timed_move (move : Move crypto grant inner inner') (timed : Timed inner) :
    Timed inner' := by
  have quiet (entry : Entry) (idle : entry.Idle) : ∀ other ∈ [entry], other.Idle := by
    intro other member
    rw [List.mem_singleton.mp member]
    exact idle
  cases move with
  | event event real =>
      exact timed_fewer timed (List.Sublist.refl _) rfl rfl rfl (quiet _ fun _ => ⟨rfl, rfl⟩)
  | start operation transaction time authenticated nonceRetries packet absent permitted
      credentialed proves tries built =>
      exact timed_start timed rfl (recorded_start rfl rfl rfl) rfl rfl rfl rfl
  | again pending member channel =>
      exact timed_fewer timed (List.Sublist.refl _) rfl rfl rfl (quiet _ fun _ => ⟨rfl, rfl⟩)
  | keepAlive packet live running =>
      exact timed_fewer timed (List.Sublist.refl _) rfl rfl rfl (quiet _ fun _ => ⟨rfl, rfl⟩)
  | take index =>
      exact timed_fewer timed (List.eraseIdx_sublist _ _) rfl rfl (List.append_nil _).symm (by simp)
  | timeOut index pending now found due last =>
      exact timed_timeOut timed found due last rfl rfl rfl rfl
  | retransmit index pending now found due left =>
      exact timed_retransmit timed found due left rfl rfl rfl rfl
  | destroy state final =>
      exact timed_fewer timed (List.nil_sublist _) rfl rfl (List.append_nil _).symm (by simp)
  | exhaust =>
      exact timed_fewer timed (List.nil_sublist _) rfl rfl (List.append_nil _).symm (by simp)
  | shutdownHeld held =>
      exact timed_fewer timed (List.nil_sublist _) rfl rfl (List.append_nil _).symm (by simp)
  | shutdownIdle notReady =>
      exact timed_fewer timed (List.nil_sublist _) rfl rfl (List.append_nil _).symm (by simp)
  | force =>
      exact timed_fewer timed (List.nil_sublist _) rfl rfl (List.append_nil _).symm (by simp)
  | _ =>
      exact timed_fewer timed (List.Sublist.refl _) rfl rfl (List.append_nil _).symm (by simp)

theorem timed_moves (moves : Moves crypto grant inner inner') (timed : Timed inner) :
    Timed inner' := by
  induction moves with
  | refl => exact timed
  | tail _ move inductionHypothesis => exact timed_move move inductionHypothesis

theorem timed_step (sound : Sound inner) (call : Call) (timed : Timed inner) :
    Timed (inner.step crypto call).1 := by
  by_cases action : call.action = .pullEvent
  · rw [step_pullEvent action]
    exact timed_fewer timed (List.Sublist.refl _) rfl rfl (List.append_nil _).symm (by simp)
  · exact timed_moves (moves_step sound call action) timed

theorem timed_fresh (fresh : Fresh inner) : Timed inner := by
  have blank := blank_of_fresh fresh
  have empty (serial : Nat) :
      transmissions serial inner.history = [] ∧ timeouts serial inner.history = [] := by
    rw [blank.history]
    exact ⟨rfl, rfl⟩
  constructor
  · simp [blank.pending]
  · simp [blank.pending]
  · simp [blank.pending]
  · intro serial
    rw [(empty serial).1, (empty serial).2]
    exact life_nil
  · exact fun serial _ => empty serial

theorem timed_run (fresh : Fresh inner) (calls : List Call) :
    Sound (after crypto inner calls) ∧ Timed (after crypto inner calls) :=
  Transducer.run_invariant _
    (fun state call (both : Sound state ∧ Timed state) =>
      ⟨sound_step call both.1, timed_step both.1 call both.2⟩)
    inner calls ⟨sound_fresh fresh, timed_fresh fresh⟩

end Moves

/-!
### The walk over the pending transactions
-/

section Walk

variable {inner : Inner} {now : Nat}

theorem pending_setState (inner : Inner) (state : TurnState) :
    (inner.setState state).pending = inner.pending := by
  rcases setState_same inner state with ⟨events, history, same⟩
  rw [same]

/-- A failure leaves the pending transactions alone or gives them all up. -/
theorem pending_completeFailure (inner : Inner) (operation : Operation) (status : Int)
    (stunCode now : Nat) :
    (inner.completeFailure operation status stunCode now).pending = inner.pending ∨
      (inner.completeFailure operation status stunCode now).pending = [] := by
  unfold completeFailure
  split
  · simp only
    split
    · left
      cases operation with
      | channel =>
          unfold scheduleMaintenanceRetry
          simp only
          split <;> rfl
      | _ => rfl
    · right
      exact pending_setState _ _
  · right
    exact pending_setState _ _

theorem pending_timeOut (inner : Inner) (index : Nat) (pending : PendingTransaction) (now : Nat) :
    (inner.timeOut index pending now).pending = inner.pending.eraseIdx index ∨
      (inner.timeOut index pending now).pending = [] :=
  pending_completeFailure _ _ _ _ _

theorem pending_retransmit (inner : Inner) (index : Nat) (pending : PendingTransaction) (now : Nat) :
    (inner.retransmit index pending now).pending =
      inner.pending.set index (PendingTransaction.transmitted pending now) := by
  rcases dropOldestControl_same inner with ⟨controls, events, history, same⟩
  simp only [retransmit, queuePacket, same]

/-- With as much fuel as there are transactions the walk comes to its end. -/
theorem expireLoop_ends (now fuel index : Nat) (inner : Inner)
    (enough : inner.pending.length ≤ fuel + index) :
    (expireLoop now fuel index inner).2.pending.length ≤ (expireLoop now fuel index inner).1 := by
  induction fuel generalizing index inner with
  | zero => simpa [expireLoop] using enough
  | succ fuel inductionHypothesis =>
      unfold expireLoop
      split
      · next none_ => exact List.getElem?_eq_none_iff.mp none_
      · next pending found =>
          have within : index < inner.pending.length := (List.getElem?_eq_some_iff.mp found).1
          split
          · exact inductionHypothesis (index + 1) inner (by omega)
          · split
            · apply inductionHypothesis
              rcases pending_timeOut inner index pending now with fewer | none_
              · rw [fewer, List.length_eraseIdx_of_lt within]
                omega
              · rw [none_]
                exact Nat.zero_le _
            · apply inductionHypothesis
              rw [pending_retransmit, List.length_set]
              omega

/-- More fuel changes nothing. -/
theorem expireLoop_more (now fuel extra index : Nat) (inner : Inner)
    (enough : inner.pending.length ≤ fuel + index) :
    expireLoop now (fuel + extra) index inner = expireLoop now fuel index inner := by
  induction fuel generalizing index inner with
  | zero =>
      rw [Nat.zero_add] at enough ⊢
      have none_ : inner.pending[index]? = none := List.getElem?_eq_none enough
      cases extra with
      | zero => rfl
      | succ extra => simp only [expireLoop, none_]
  | succ fuel inductionHypothesis =>
      rw [Nat.succ_add]
      unfold expireLoop
      split
      · rfl
      · next pending found =>
          have within : index < inner.pending.length := (List.getElem?_eq_some_iff.mp found).1
          split
          · exact inductionHypothesis (index + 1) inner (by omega)
          · split
            · apply inductionHypothesis
              rcases pending_timeOut inner index pending now with fewer | none_
              · rw [fewer, List.length_eraseIdx_of_lt within]
                omega
              · rw [none_]
                exact Nat.zero_le _
            · apply inductionHypothesis
              rw [pending_retransmit, List.length_set]
              omega

/-- What the walk does to a transaction that is due: it is sent again, or it is out of
attempts and times out, or all transactions are given up. -/
def Served (inner final : Inner) (pending : PendingTransaction) (now : Nat) : Prop :=
  (inner.outOfAttempts pending = false ∧ PendingTransaction.transmitted pending now ∈ final.pending) ∨
  (inner.outOfAttempts pending = true ∧ now ∈ timeouts pending.serial final.history) ∨
  final.pending = []

theorem history_move {crypto : StunCrypto} {grant : Prop} {inner' : Inner}
    (move : Move crypto grant inner inner') : inner.history <+: inner'.history := by
  cases move with
  | event event real => exact List.prefix_append _ _
  | start operation transaction time authenticated nonceRetries packet absent permitted
      credentialed proves tries built => exact List.prefix_append _ _
  | again pending member channel => exact List.prefix_append _ _
  | keepAlive packet live running => exact List.prefix_append _ _
  | timeOut index pending now found due last => exact List.prefix_append _ _
  | retransmit index pending now found due left => exact List.prefix_append _ _
  | _ => exact List.prefix_refl _

theorem history_moves {crypto : StunCrypto} {grant : Prop} {inner' : Inner}
    (moves : Moves crypto grant inner inner') : inner.history <+: inner'.history := by
  induction moves with
  | refl => exact List.prefix_refl _
  | tail _ move inductionHypothesis => exact inductionHypothesis.trans (history_move move)

theorem history_expireLoop (now fuel index : Nat) (inner : Inner) :
    inner.history <+: (expireLoop now fuel index inner).2.history :=
  history_moves (@moves_expireLoop StunCrypto.standard False now fuel index inner)

theorem transport_moves {crypto : StunCrypto} {grant : Prop} {inner' : Inner}
    (moves : Moves crypto grant inner inner') : inner'.transport = inner.transport := by
  induction moves with
  | refl => rfl
  | tail _ move inductionHypothesis =>
      rw [← inductionHypothesis]
      cases move <;> rfl

theorem expireLoop_empty (now fuel index : Nat) {inner : Inner} (none_ : inner.pending = []) :
    expireLoop now fuel index inner = (index, inner) := by
  cases fuel with
  | zero => rfl
  | succ fuel =>
      have nothing : inner.pending[index]? = none := by simp [none_]
      simp only [expireLoop, nothing]

/-- The walk leaves what it has passed alone, unless it gives all transactions up. -/
theorem expireLoop_passed (now fuel index : Nat) (inner : Inner) :
    (expireLoop now fuel index inner).2.pending = [] ∨
      ∀ position < index,
        (expireLoop now fuel index inner).2.pending[position]? = inner.pending[position]? := by
  induction fuel generalizing index inner with
  | zero => exact Or.inr fun _ _ => rfl
  | succ fuel inductionHypothesis =>
      unfold expireLoop
      split
      · exact Or.inr fun _ _ => rfl
      · next pending found =>
          split
          · rcases inductionHypothesis (index + 1) inner with all | passed
            · exact Or.inl all
            · exact Or.inr fun position before => passed position (Nat.lt_succ_of_lt before)
          · split
            · rcases inductionHypothesis index (inner.timeOut index pending now) with all | passed
              · exact Or.inl all
              · rcases pending_timeOut inner index pending now with fewer | none_
                · right
                  intro position before
                  rw [passed position before, fewer, List.getElem?_eraseIdx, if_pos before]
                · left
                  rw [expireLoop_empty now fuel index none_]
                  exact none_
            · rcases inductionHypothesis (index + 1) (inner.retransmit index pending now) with
                all | passed
              · exact Or.inl all
              · right
                intro position before
                rw [passed position (Nat.lt_succ_of_lt before), pending_retransmit,
                  List.getElem?_set_ne (Nat.ne_of_gt before)]

theorem served_congr {middle final : Inner} {pending : PendingTransaction}
    (same : middle.transport = inner.transport) (served : Served middle final pending now) :
    Served inner final pending now := by
  have attempts : middle.outOfAttempts pending = inner.outOfAttempts pending := by
    simp only [outOfAttempts, same]
  rw [Served, attempts] at served
  exact served

/-- A transaction given up in its turn stays recorded as timed out. -/
theorem served_timeOut (fuel index : Nat) (pending : PendingTransaction)
    (last : inner.outOfAttempts pending = true) :
    Served inner (expireLoop now fuel index (inner.timeOut index pending now)).2 pending now := by
  right
  left
  refine ⟨last, ?_⟩
  have entry : Moves StunCrypto.standard False { inner with
      pending := inner.pending.eraseIdx index
      history := inner.history ++ [.timedOut pending.serial now] }
      (inner.timeOut index pending now) :=
    (moves_removeQueuedTransaction pending.transaction).trans (moves_completeFailure _ _ _ _)
  have grown := (history_moves entry).trans
    (history_expireLoop now fuel index (inner.timeOut index pending now))
  rcases grown with ⟨rest, same⟩
  rw [← same, timeouts_append, timeouts_append, timeouts_timedOut, if_pos rfl]
  simp

/-- A transaction sent again in its turn is left alone by the rest of the walk. -/
theorem served_retransmit (fuel index : Nat) (pending : PendingTransaction)
    (within : index < inner.pending.length) (left : inner.outOfAttempts pending = false) :
    Served inner (expireLoop now fuel (index + 1) (inner.retransmit index pending now)).2 pending
      now := by
  rcases expireLoop_passed now fuel (index + 1) (inner.retransmit index pending now) with
    all | passed
  · exact Or.inr (Or.inr all)
  · refine Or.inl ⟨left, ?_⟩
    apply List.mem_of_getElem?
    · rw [passed index (Nat.lt_succ_self _), pending_retransmit, List.getElem?_set_self within]

/-- Every transaction that is due when the walk comes to it is served. -/
theorem expireLoop_serves (fuel index : Nat) (inner : Inner)
    (enough : inner.pending.length ≤ fuel + index) {position : Nat} {pending : PendingTransaction}
    (ahead : index ≤ position) (at_ : inner.pending[position]? = some pending)
    (due : pending.nextAttempt ≤ now) :
    Served inner (expireLoop now fuel index inner).2 pending now := by
  induction fuel generalizing index inner position with
  | zero =>
      rw [List.getElem?_eq_none (by omega)] at at_
      cases at_
  | succ fuel inductionHypothesis =>
      unfold expireLoop
      split
      · next none_ =>
          have past := List.getElem?_eq_none_iff.mp none_
          rw [List.getElem?_eq_none (by omega)] at at_
          cases at_
      · next first found =>
          have within : index < inner.pending.length := (List.getElem?_eq_some_iff.mp found).1
          split
          · next early =>
              have later : index + 1 ≤ position := by
                rcases Nat.lt_or_eq_of_le ahead with beyond | rfl
                · exact beyond
                · rw [found, Option.some.injEq] at at_
                  subst at_
                  omega
              exact inductionHypothesis (index + 1) inner (by omega) later at_
          · next reached =>
              have ready := Nat.le_of_not_lt reached
              split
              · next last =>
                  have moves : Moves StunCrypto.standard False inner
                      (inner.timeOut index first now) := moves_timeOut found ready last
                  rcases pending_timeOut inner index first now with fewer | none_
                  · rcases Nat.lt_or_eq_of_le ahead with beyond | rfl
                    · have shorter : (inner.timeOut index first now).pending.length ≤
                          fuel + index := by
                        rw [fewer, List.length_eraseIdx_of_lt within]
                        omega
                      have moved : (inner.timeOut index first now).pending[position - 1]? =
                          some pending := by
                        rw [fewer, List.getElem?_eraseIdx, if_neg (by omega),
                          Nat.sub_add_cancel (by omega)]
                        exact at_
                      exact served_congr (transport_moves moves)
                        (inductionHypothesis index _ shorter (by omega) moved)
                    · rw [found, Option.some.injEq] at at_
                      subst at_
                      exact served_timeOut fuel index first last
                  · right
                    right
                    rw [expireLoop_empty now fuel index none_]
                    exact none_
              · next left =>
                  have notLast := Bool.eq_false_of_not_eq_true left
                  have moves : Moves StunCrypto.standard False inner
                      (inner.retransmit index first now) := moves_retransmit found ready notLast
                  rcases Nat.lt_or_eq_of_le ahead with beyond | rfl
                  · have shorter : (inner.retransmit index first now).pending.length ≤
                        fuel + (index + 1) := by
                      rw [pending_retransmit, List.length_set]
                      omega
                    have kept : (inner.retransmit index first now).pending[position]? =
                        some pending := by
                      rw [pending_retransmit, List.getElem?_set_ne (Nat.ne_of_lt beyond)]
                      exact at_
                    exact served_congr (transport_moves moves)
                      (inductionHypothesis (index + 1) _ shorter beyond kept)
                  · rw [found, Option.some.injEq] at at_
                    subst at_
                    exact served_retransmit fuel index first within notLast

end Walk

/-- In every run, whatever its clock readings: the walk over the pending transactions ends
after at most as many turns as there are; it serves each that is due; and every transaction
is transmitted at most seven times, each time at least the doubled, capped interval after
the last, and times out at most once, after its last attempt had its time. On a stream it is
transmitted once. -/
theorem transmissions_bounded (crypto : StunCrypto) (inner : Inner) (fresh : Fresh inner)
    (calls : List Call) :
    let reached := after crypto inner calls
    (∀ now extra, expireLoop now (reached.pending.length + extra) 0 reached =
        expireLoop now reached.pending.length 0 reached ∧
      (expireLoop now reached.pending.length 0 reached).2.pending.length ≤
        (expireLoop now reached.pending.length 0 reached).1) ∧
    (∀ now, ∀ pending ∈ reached.pending, pending.nextAttempt ≤ now →
      Served reached (reached.expireTransactions now) pending now) ∧
    ∀ serial, Life reached.transport (transmissions serial reached.history)
      (timeouts serial reached.history) := by
  intro reached
  refine ⟨?_, ?_, ?_⟩
  · intro now extra
    exact ⟨expireLoop_more now _ extra 0 reached (Nat.le_refl _),
      expireLoop_ends now _ 0 reached (Nat.le_refl _)⟩
  · intro now pending member due
    rcases List.getElem?_of_mem member with ⟨position, at_⟩
    exact expireLoop_serves _ 0 reached (Nat.le_refl _) (Nat.zero_le _) at_ due
  · exact fun serial => (timed_run fresh calls).2.lives serial

theorem started_client_retransmits :
    let calls : List Call := [
      { action := .startAllocation, now := 0, draw := drawAt 0 },
      { action := .poll, now := millis 250, draw := drawAt (millis 250) }]
    let reached := after StunCrypto.standard (localClient .datagram) calls
    ∀ serial, Life reached.transport (transmissions serial reached.history)
      (timeouts serial reached.history) := by
  intro calls reached
  exact (transmissions_bounded StunCrypto.standard (localClient .datagram)
    (fresh_localClient .datagram) calls).2.2

end Csqtt
