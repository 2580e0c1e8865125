/-
Module: Csqtt.Proofs.TurnProgress
Purpose: When all deadlines that a poll of the relay client leaves lie ahead of it.
Trusted boundary: the clock does not run backwards between the start of a poll and the
  transactions it starts
Main exports: Serves, upkeep_timers, maintain_timers, PollsAhead, poll_progress_iff
-/
import Csqtt.Proofs.TurnIntegrity
import Csqtt.Proofs.TurnSweep

namespace Csqtt

open Inner

/-!
### Upkeep
-/

section Upkeep

variable {crypto : StunCrypto} {now : Nat} {draw : Operation → Draw} {inner inner' : Inner}
  {operation : Operation} {due : Bool}

theorem startOperation_ok {draw : Draw} {authenticated : Bool} {nonceRetries : Nat}
    (absent : inner.hasOperation operation = false)
    (done : (inner.startOperation crypto draw operation authenticated nonceRetries).2 = .ok ()) :
    ∃ pending, pending.operation = operation ∧
      pending.nextAttempt = draw.now + inner.transactionTimeout ∧
      (inner.startOperation crypto draw operation authenticated nonceRetries).1.pending =
        inner.pending ++ [pending] := by
  unfold startOperation at done ⊢
  simp only [absent, Bool.false_eq_true, if_false] at done ⊢
  split at done
  · cases done
  · next complete =>
      rw [if_neg complete]
      split at done
      · cases done
      · next packet built =>
          rcases dropOldestControl_same inner with ⟨controls, events, history, same⟩
          simp only [queuePacket, same]
          exact ⟨_, rfl, rfl, rfl⟩

theorem andThen_ok {result : Inner × Except String Unit}
    {next : Inner → Inner × Except String Unit} (done : (andThen result next).2 = .ok ()) :
    result.2 = .ok () ∧ andThen result next = next result.1 := by
  unfold andThen at done ⊢
  split
  · next reason failed =>
      rw [failed] at done
      cases done
  · next passed => exact ⟨passed, rfl⟩

theorem transactionTimeout_pos (inner : Inner) : 0 < inner.transactionTimeout := by
  unfold transactionTimeout
  split <;> decide

/-- What one turn of the upkeep, for some operation, does to the timers. -/
structure Serves (now : Nat) (operation : Operation) (due : Bool) (inner inner' : Inner) : Prop where
  ahead : (∀ pending ∈ inner.pending, now < pending.nextAttempt) →
    ∀ pending ∈ inner'.pending, now < pending.nextAttempt
  present : ∀ other, other ≠ operation → inner'.hasOperation other = inner.hasOperation other
  due : isDue (timerOf inner' operation) now =
    (isDue (timerOf inner operation) now && !(due && !inner.hasOperation operation))
  others : ∀ other, other ≠ operation → timerOf inner' other = timerOf inner other
  maintenance : inner'.maintenanceRefresh = inner.maintenanceRefresh
  keepalive : inner'.keepalive = inner.keepalive
  profile : inner'.profile = inner.profile

/-- The timer of an operation is taken off, and nothing else. -/
structure Clears (operation : Operation) (inner inner' : Inner) : Prop where
  pending : inner'.pending = inner.pending
  own : timerOf inner' operation = none
  others : ∀ other, other ≠ operation → timerOf inner' other = timerOf inner other
  maintenance : inner'.maintenanceRefresh = inner.maintenanceRefresh
  keepalive : inner'.keepalive = inner.keepalive
  profile : inner'.profile = inner.profile

theorem serves_startDue {clear : Inner → Inner} (clears : Clears operation inner (clear inner))
    (monotone : now ≤ (draw operation).now)
    (done : (inner.startDue crypto draw operation due clear).2 = .ok ()) :
    Serves now operation due inner (inner.startDue crypto draw operation due clear).1 := by
  unfold startDue at done ⊢
  by_cases starts : due ∧ inner.hasOperation operation = false
  · rw [if_pos starts] at done ⊢
    have absent : (clear inner).hasOperation operation = false := by
      rw [hasOperation, clears.pending]
      exact starts.2
    rcases startOperation_ok absent done with ⟨pending, kind, next, pendings⟩
    rcases @startOperation_same crypto (draw operation) operation true 0 (clear inner) with
      ⟨controls, events, history, listed, started, same⟩
    rw [same] at pendings ⊢
    have listed_ : listed = inner.pending ++ [pending] := by rw [← clears.pending]; exact pendings
    constructor
    case ahead =>
      intro ahead other member
      rw [show listed = _ from listed_] at member
      rcases List.mem_append.mp member with old | last
      · exact ahead other old
      · rw [List.mem_singleton.mp last, next]
        exact Nat.lt_of_le_of_lt monotone
          (Nat.lt_add_of_pos_right (transactionTimeout_pos (clear inner)))
    case present =>
      intro other different
      simp [hasOperation, listed_, kind, Ne.symm different]
    case due =>
      have own : timerOf { clear inner with
          controls := controls, events := events, history := history, pending := listed,
          started := started } operation = none := by
        rw [← clears.own]
        cases operation <;> rfl
      rw [own, starts.2, show due = true from starts.1]
      simp [isDue]
    case others =>
      intro other different
      rw [← clears.others other different]
      cases other <;> rfl
    case maintenance => exact clears.maintenance
    case keepalive => exact clears.keepalive
    case profile => exact clears.profile
  · rw [if_neg starts]
    refine ⟨id, fun _ _ => rfl, ?_, fun _ _ => rfl, rfl, rfl, rfl⟩
    have stays : (due && !inner.hasOperation operation) = false := by
      simpa using starts
    rw [stays, Bool.not_false, Bool.and_true]

theorem timers_ahead_iff :
    (∀ deadline ∈ timers inner, now < deadline) ↔
      (isDue inner.allocationRefresh now = false ∧ isDue inner.maintenanceRefresh now = false ∧
        isDue inner.permissionRetry now = false ∧ isDue inner.channelRetry now = false ∧
        isDue inner.keepalive now = false) := by
  have each (deadline : Option Nat) :
      (∀ time ∈ deadline.toList, now < time) ↔ isDue deadline now = false := by
    cases deadline <;> simp [isDue]
  simp only [timers, List.mem_append, or_imp, forall_and, each, and_assoc]

/-- A turn that touches neither the transactions nor the timers of the operations. -/
structure Leaves (inner inner' : Inner) : Prop where
  pending : inner'.pending = inner.pending
  timers : ∀ operation, timerOf inner' operation = timerOf inner operation
  profile : inner'.profile = inner.profile

/-- The timer of the upkeep itself lies ahead once it is set anew. -/
theorem leaves_rearmMaintenance (profile : inner.profile = .pjnathCompat) :
    let rearmed := inner.rearmMaintenance (isDue inner.maintenanceRefresh now) now
    Leaves inner rearmed ∧ rearmed.keepalive = inner.keepalive ∧
      isDue rearmed.maintenanceRefresh now = false := by
  unfold rearmMaintenance
  cases due : isDue inner.maintenanceRefresh now with
  | true =>
      have ahead : isDue (some (now + inner.profile.maintenanceRefresh)) now = false := by
        apply not_due_of_ahead
        rw [profile]
        exact Nat.lt_add_of_pos_right (by decide)
      exact ⟨⟨rfl, fun operation => by cases operation <;> rfl, rfl⟩, rfl, ahead⟩
  | false => exact ⟨⟨rfl, fun _ => rfl, rfl⟩, rfl, due⟩

theorem leaves_queueKeepalive :
    Leaves inner inner.queueKeepalive ∧
      inner.queueKeepalive.maintenanceRefresh = inner.maintenanceRefresh ∧
      inner.queueKeepalive.keepalive = inner.keepalive := by
  unfold queueKeepalive
  split
  · exact ⟨⟨rfl, fun _ => rfl, rfl⟩, rfl, rfl⟩
  · rcases dropOldestControl_same inner with ⟨controls, events, history, same⟩
    simp only [queuePacket, same]
    exact ⟨⟨rfl, fun operation => by cases operation <;> rfl, rfl⟩, trivial, trivial⟩

theorem leaves_keepPathAlive (profile : inner.profile = .pjnathCompat) :
    let kept := inner.keepPathAlive now
    Leaves inner kept ∧ kept.maintenanceRefresh = inner.maintenanceRefresh ∧
      isDue kept.keepalive now = false := by
  unfold keepPathAlive
  cases due : isDue inner.keepalive now with
  | true =>
      have ahead : isDue (some (now + inner.profile.keepaliveInterval)) now = false := by
        apply not_due_of_ahead
        rw [profile]
        exact Nat.lt_add_of_pos_right (by decide)
      rcases @leaves_queueKeepalive { inner with
        keepalive := some (now + inner.profile.keepaliveInterval) } with
        ⟨leaves, maintenance, keepalive⟩
      refine ⟨⟨leaves.pending, fun operation => ?_, leaves.profile⟩, maintenance, ?_⟩
      · rw [if_pos rfl, leaves.timers]
        cases operation <;> rfl
      · rw [if_pos rfl, keepalive]
        exact ahead
  | false => exact ⟨⟨rfl, fun _ => rfl, rfl⟩, rfl, due⟩

theorem hasOperation_congr (same : inner'.pending = inner.pending) (operation : Operation) :
    inner'.hasOperation operation = inner.hasOperation operation := by
  rw [hasOperation, hasOperation, same]

/-- The turns of the upkeep, one after the other: an operation whose timer has run out while
its transaction is pending keeps a deadline in the past. -/
theorem upkeep_timers {refreshed rearmed permitted bound final : Inner} {maintenanceDue : Bool}
    (ahead : ∀ pending ∈ inner.pending, now < pending.nextAttempt)
    (refresh : Serves now .refresh (isDue inner.allocationRefresh now) inner refreshed)
    (rearm : Leaves refreshed rearmed) (armed : isDue rearmed.maintenanceRefresh now = false)
    (permission : Serves now .permission (maintenanceDue || isDue inner.permissionRetry now)
      rearmed permitted)
    (channel : Serves now .channel (maintenanceDue || isDue inner.channelRetry now) permitted bound)
    (keep : Leaves bound final) (maintained : final.maintenanceRefresh = bound.maintenanceRefresh)
    (kept : isDue final.keepalive now = false) :
    (∀ deadline ∈ final.deadlines, now < deadline) ↔
      ∀ operation, ¬(isDue (timerOf inner operation) now = true ∧
        inner.hasOperation operation = true) := by
  have pendings : ∀ pending ∈ final.pending, now < pending.nextAttempt := by
    rw [keep.pending]
    apply channel.ahead
    apply permission.ahead
    rw [rearm.pending]
    exact refresh.ahead ahead
  have refreshes : isDue final.allocationRefresh now =
      (isDue inner.allocationRefresh now && inner.hasOperation .refresh) := by
    have last : timerOf final .refresh = timerOf refreshed .refresh := by
      rw [keep.timers, channel.others _ (by decide), permission.others _ (by decide), rearm.timers]
    have own : isDue final.allocationRefresh now = isDue (timerOf refreshed .refresh) now :=
      congrArg (isDue · now) last
    rw [own, refresh.due]
    cases due : isDue inner.allocationRefresh now <;>
      simp only [timerOf, due, Bool.false_and, Bool.true_and, Bool.not_not]
  have permissions : isDue final.permissionRetry now =
      (isDue inner.permissionRetry now && inner.hasOperation .permission) := by
    have last : timerOf final .permission = timerOf permitted .permission := by
      rw [keep.timers, channel.others _ (by decide)]
    have own : isDue final.permissionRetry now = isDue (timerOf permitted .permission) now :=
      congrArg (isDue · now) last
    rw [own, permission.due, rearm.timers, refresh.others _ (by decide),
      hasOperation_congr rearm.pending, refresh.present _ (by decide)]
    cases due : isDue inner.permissionRetry now <;>
      simp only [timerOf, due, Bool.false_and, Bool.true_and, Bool.or_true, Bool.not_not]
  have channels : isDue final.channelRetry now =
      (isDue inner.channelRetry now && inner.hasOperation .channel) := by
    have own : isDue final.channelRetry now = isDue (timerOf bound .channel) now :=
      congrArg (isDue · now) (keep.timers .channel)
    rw [own, channel.due, permission.others _ (by decide), rearm.timers,
      refresh.others _ (by decide), permission.present _ (by decide),
      hasOperation_congr rearm.pending, refresh.present _ (by decide)]
    cases due : isDue inner.channelRetry now <;>
      simp only [timerOf, due, Bool.false_and, Bool.true_and, Bool.or_true, Bool.not_not]
  have maintenances : isDue final.maintenanceRefresh now = false := by
    rw [maintained, channel.maintenance, permission.maintenance]
    exact armed
  rw [deadlines_eq]
  simp only [List.mem_append, or_imp, forall_and, List.forall_mem_map]
  rw [timers_ahead_iff, refreshes, permissions, channels]
  simp only [Bool.and_eq_false_iff, maintenances, kept, true_and, and_true]
  constructor
  · rintro ⟨-, refreshed, permitted, bound⟩ operation ⟨due, present⟩
    cases operation with
    | allocate => cases due
    | deallocate => cases due
    | refresh => simp_all [timerOf]
    | permission => simp_all [timerOf]
    | channel => simp_all [timerOf]
  · intro free
    have none_ (operation : Operation) : isDue (timerOf inner operation) now = false ∨
        inner.hasOperation operation = false := by
      have here := free operation
      rw [not_and_or, Bool.not_eq_true, Bool.not_eq_true] at here
      exact here
    exact ⟨pendings, none_ .refresh, none_ .permission, none_ .channel⟩

/-- What the upkeep of an allocation leaves of the deadlines. -/
theorem maintain_timers (profile : inner.profile = .pjnathCompat)
    (ahead : ∀ pending ∈ inner.pending, now < pending.nextAttempt)
    (monotone : ∀ operation, now ≤ (draw operation).now)
    (done : (inner.maintain crypto now draw).2 = .ok ()) :
    (∀ deadline ∈ (inner.maintain crypto now draw).1.deadlines, now < deadline) ↔
      ∀ operation, ¬(isDue (timerOf inner operation) now = true ∧
        inner.hasOperation operation = true) := by
  unfold maintain at done ⊢
  rcases andThen_ok done with ⟨first, same⟩
  rw [same] at done ⊢
  rcases andThen_ok done with ⟨second, same⟩
  rw [same] at done ⊢
  rcases andThen_ok done with ⟨third, same⟩
  rw [same]
  have refresh : Serves now .refresh (isDue inner.allocationRefresh now) inner _ :=
    serves_startDue ⟨rfl, rfl, fun other different => by cases other <;> trivial, rfl, rfl, rfl⟩
      (monotone .refresh) first
  have rearm := @leaves_rearmMaintenance now _ (refresh.profile.trans profile)
  rw [refresh.maintenance] at rearm
  have permission : Serves now .permission _ _ _ :=
    serves_startDue ⟨rfl, rfl, fun other different => by cases other <;> trivial, rfl, rfl, rfl⟩
      (monotone .permission) second
  have channel : Serves now .channel _ _ _ :=
    serves_startDue ⟨rfl, rfl, fun other different => by cases other <;> trivial, rfl, rfl, rfl⟩
      (monotone .channel) third
  have keep := @leaves_keepPathAlive now _ ((channel.profile.trans permission.profile).trans
    (rearm.1.profile.trans (refresh.profile.trans profile)))
  exact upkeep_timers ahead refresh rearm.1 rearm.2.2 permission channel keep.1 keep.2.1 keep.2.2

end Upkeep

/-!
### Polls
-/

/-- The transaction of an operation is pending, and stays so in a poll. -/
def Awaited (inner : Inner) (now : Nat) (operation : Operation) : Prop :=
  ∃ pending ∈ inner.pending, pending.operation = operation ∧ timesOut inner now pending = false

/-- A poll that gives up on the channel. -/
def exhausts (inner : Inner) (now : Nat) : Bool :=
  overdue inner now inner.pending .channel &&
    decide (maxChannelMaintenanceFailures ≤ inner.channelFailures + 1)

/-- When a poll leaves no deadline in the past. For an allocation in use: its lifetime is over,
or no timer of an operation has run out whose transaction stays pending; if the poll gives up
on the channel, the timer of the refresh has not run out, or its transaction times out first.
Otherwise: a transaction times out, or all timers lie ahead. -/
def PollsAhead (inner : Inner) (now : Nat) : Prop :=
  if inner.state = .ready then
    isDue inner.allocationExpiresAt now = true ∨
      if exhausts inner now then
        isDue inner.allocationRefresh now = true →
          overdue inner now (inner.pending.takeWhile fun pending => pending.operation ≠ .channel)
            .refresh = true
      else ∀ operation, ¬(isDue (timerOf inner operation) now = true ∧ Awaited inner now operation)
  else
    (∃ pending ∈ inner.pending, timesOut inner now pending = true) ∨
      ∀ deadline ∈ timers inner, now < deadline

section Polls

variable {crypto : StunCrypto} {now : Nat} {draw : Operation → Draw} {inner : Inner}

theorem gap_pos (index : Nat) : 0 < gap index :=
  Nat.lt_min.mpr ⟨Nat.mul_pos (by decide) (Nat.two_pow_pos _), by decide⟩

/-- A transaction that may be sent again waits for some time in between. -/
theorem paced_of_timed (timed : Timed inner) (pending : PendingTransaction)
    (member : pending ∈ inner.pending) (left : inner.outOfAttempts pending = false) :
    0 < pending.rto := by
  rcases (timed.recorded pending member).next with ⟨last, -, datagram, -⟩
  cases transport : inner.transport with
  | stream => simp [outOfAttempts, transport] at left
  | datagram =>
      rw [(datagram transport).1]
      exact gap_pos _

theorem expireAllocation_idle (notReady : inner.state ≠ .ready) :
    inner.expireAllocation now = inner := by
  unfold expireAllocation
  rw [if_neg (fun over_ => notReady over_.2.1)]

/-- What a poll that reports a deadline has done. -/
theorem poll_reported {wait : Nat} (reported : (inner.poll crypto now draw).2 = .ok (some wait)) :
    let expired := (inner.expireTransactions now).expireAllocation now
    (expired.shuttingDown = false ∧ expired.state = .ready ∧
      (expired.maintain crypto now draw).2 = .ok () ∧
      (inner.poll crypto now draw).1 = (expired.maintain crypto now draw).1) ∨
    (¬(expired.shuttingDown = false ∧ expired.state = .ready) ∧
      (inner.poll crypto now draw).1 = expired) := by
  intro expired
  unfold poll at reported ⊢
  by_cases dead : inner.destroyed = true
  · rw [if_pos dead] at reported
    cases reported
  · rw [if_neg dead] at reported ⊢
    by_cases serving : expired.shuttingDown = false ∧ expired.state = .ready
    · left
      have same : (if ((inner.expireTransactions now).expireAllocation now).shuttingDown = false ∧
          ((inner.expireTransactions now).expireAllocation now).state = .ready then
          ((inner.expireTransactions now).expireAllocation now).maintain crypto now draw
        else ((inner.expireTransactions now).expireAllocation now, .ok ())) =
          expired.maintain crypto now draw := if_pos serving
      simp only [same] at reported ⊢
      cases maintained : (expired.maintain crypto now draw).2 with
      | error reason =>
          rw [maintained] at reported
          cases reported
      | ok done => exact ⟨serving.1, serving.2, rfl, rfl⟩
    · right
      have same : (if ((inner.expireTransactions now).expireAllocation now).shuttingDown = false ∧
          ((inner.expireTransactions now).expireAllocation now).state = .ready then
          ((inner.expireTransactions now).expireAllocation now).maintain crypto now draw
        else ((inner.expireTransactions now).expireAllocation now, .ok ())) =
          (expired, .ok ()) := if_neg serving
      simp only [same]
      exact ⟨serving, trivial⟩

/-- Two transactions of one kind are the same one. -/
theorem not_overdue_of_awaited (sound : Sound inner) {operation : Operation}
    (awaited : Awaited inner now operation) :
    overdue inner now inner.pending operation = false := by
  rcases awaited with ⟨pending, member, kind, waits⟩
  simp only [overdue, List.any_eq_false, Bool.and_eq_true, decide_eq_true_eq]
  rintro other inside ⟨same, out⟩
  have equal : other = pending :=
    List.inj_on_of_nodup_map sound.single inside member (same.trans kind.symm)
  rw [equal, waits] at out
  cases out

theorem takeWhile_channel {before after_ : List PendingTransaction} {pending : PendingTransaction}
    (sound : Sound inner) (whole : inner.pending = before ++ pending :: after_)
    (channel : pending.operation = .channel) :
    (inner.pending.takeWhile fun pending => pending.operation ≠ .channel) = before := by
  have distinct := sound.single
  rw [whole, List.map_append, List.nodup_append] at distinct
  rw [whole, List.takeWhile_append_of_pos, List.takeWhile_cons_of_neg]
  · exact List.append_nil before
  · simp [channel]
  · intro other member
    have apart : other.operation ≠ pending.operation :=
      distinct.2.2 _ (List.mem_map_of_mem member) _ (by simp)
    rw [channel] at apart
    exact decide_eq_true apart

/-- An operation that does not keep the allocation in use does so because its time is over. -/
theorem expired_of_not_keeps (sound : Sound inner) {pending : PendingTransaction}
    (member : pending ∈ inner.pending) (ready : inner.state = .ready)
    (loses : inner.keepsAllocation pending.operation now = false) :
    isDue inner.allocationExpiresAt now = true := by
  have permitted := sound.fits pending member
  have upkeep : pending.operation ∈ [Operation.refresh, .permission, .channel] := by
    cases operation : pending.operation <;> simp_all [Permits]
  rcases Option.isSome_iff_exists.mp (sound.held ready).2.1 with ⟨expires, known⟩
  simp only [keepsAllocation, upkeep, ready, known, Option.any_some, true_and,
    decide_eq_false_iff_not, decide_eq_true_eq, Nat.not_lt] at loses
  rw [known]
  exact decide_eq_true loses

theorem not_expired_of_keeps {operation : Operation}
    (keeps : inner.keepsAllocation operation now = true) :
    inner.state = .ready ∧ isDue inner.allocationExpiresAt now = false := by
  simp only [keepsAllocation, decide_eq_true_eq] at keeps
  refine ⟨keeps.2.1, ?_⟩
  cases known : inner.allocationExpiresAt with
  | none => rfl
  | some expires =>
      have ahead := keeps.2.2
      rw [known] at ahead
      exact not_due_of_ahead (of_decide_eq_true ahead)

/-- A transaction that ends the walk. -/
theorem pollsAhead_of_ended (sound : Sound inner) {final : Inner}
    {before after_ : List PendingTransaction} {pending : PendingTransaction}
    (whole : inner.pending = before ++ pending :: after_) (ended : Ended now inner final before pending) :
    (∀ deadline ∈ final.deadlines, now < deadline) ↔ PollsAhead inner now := by
  have member : pending ∈ inner.pending := by simp [whole]
  rcases ended.left with ⟨loses, none_⟩ | ⟨keeps, channel, many, refresh, left, due⟩
  · have ahead : ∀ deadline ∈ final.deadlines, now < deadline := by simp [none_]
    apply iff_of_true ahead
    unfold PollsAhead
    by_cases ready : inner.state = .ready
    · rw [if_pos ready]
      exact Or.inl (expired_of_not_keeps sound member ready loses)
    · rw [if_neg ready]
      exact Or.inl ⟨pending, member, ended.out⟩
  · have running := not_expired_of_keeps keeps
    have spent : exhausts inner now = true := by
      simp only [exhausts, overdue, Bool.and_eq_true, List.any_eq_true, decide_eq_true_eq]
      exact ⟨⟨pending, member, channel, ended.out⟩, many⟩
    have each : (∀ deadline ∈ final.deadlines, now < deadline) ↔ isDue refresh now = false := by
      rw [left]
      cases refresh <;> simp [isDue]
    unfold PollsAhead
    rw [each, due, if_pos running.1, running.2, if_pos spent, takeWhile_channel sound whole channel]
    cases isDue inner.allocationRefresh now <;> simp

/-- A walk that passes everything, while an allocation is in use. -/
theorem pollsAhead_of_running (sound : Sound inner)
    (spared : ∀ pending ∈ inner.pending, Spared inner now pending) {middle : Inner}
    (swept : Swept now inner middle [] inner.pending middle.pending)
    (ready : inner.state = .ready) (running : isDue inner.allocationExpiresAt now = false) :
    (∀ operation, ¬(isDue (timerOf middle operation) now = true ∧
      middle.hasOperation operation = true)) ↔ PollsAhead inner now := by
  have few : exhausts inner now = false := by
    apply Bool.eq_false_of_not_eq_true
    intro spent
    simp only [exhausts, overdue, Bool.and_eq_true, List.any_eq_true, decide_eq_true_eq] at spent
    rcases spent with ⟨⟨pending, member, channel, out⟩, many⟩
    exact absurd many (Nat.not_le_of_lt ((spared pending member out).2 channel))
  have awaited (operation : Operation) :
      middle.hasOperation operation = true ↔ Awaited inner now operation := by
    have present := swept.present operation
    simp only [List.not_mem_nil, false_and, exists_false, false_or] at present
    rw [Awaited, ← present]
    simp [hasOperation]
  unfold PollsAhead
  rw [if_pos ready, running, if_neg (by rw [few]; exact Bool.false_ne_true)]
  simp only [Bool.false_eq_true, false_or, awaited, swept.postpones.due]
  apply forall_congr'
  intro operation
  apply not_congr
  constructor
  · rintro ⟨due, waits⟩
    exact ⟨(Bool.and_eq_true_iff.mp due).1, waits⟩
  · rintro ⟨due, waits⟩
    rw [due, not_overdue_of_awaited sound waits]
    exact ⟨rfl, waits⟩

/-- A walk that passes everything, while no allocation is in use. -/
theorem pollsAhead_of_idle (spared : ∀ pending ∈ inner.pending, Spared inner now pending)
    {middle : Inner} (swept : Swept now inner middle [] inner.pending middle.pending)
    (notReady : inner.state ≠ .ready) :
    (∀ deadline ∈ middle.deadlines, now < deadline) ↔ PollsAhead inner now := by
  have waits : ∀ pending ∈ inner.pending, timesOut inner now pending = false := by
    intro pending member
    apply Bool.eq_false_of_not_eq_true
    intro out
    exact notReady (not_expired_of_keeps (spared pending member out).1).1
  have none_ (operation : Operation) : overdue inner now inner.pending operation = false := by
    simp only [overdue, List.any_eq_false, Bool.and_eq_true, not_and, Bool.not_eq_true]
    exact fun pending member _ => waits pending member
  have nobody : ¬∃ pending ∈ inner.pending, timesOut inner now pending = true := by
    rintro ⟨pending, member, out⟩
    rw [waits pending member] at out
    cases out
  unfold PollsAhead
  rw [if_neg notReady, deadlines_eq, swept.postpones.idle none_]
  simp only [List.mem_append, or_imp, forall_and, List.forall_mem_map, nobody, false_or]
  exact and_iff_right swept.ahead

end Polls

/-- In every state that a run reaches, a poll that reports a deadline leaves only deadlines
ahead of it exactly under the condition `PollsAhead` on the state before. The clock that the
poll starts transactions by does not run behind the one it was called with. -/
theorem poll_progress_iff (crypto : StunCrypto) (inner : Inner) (fresh : Fresh inner)
    (calls : List Call) (now : Nat) (draw : Operation → Draw)
    (monotone : ∀ operation, now ≤ (draw operation).now) (wait : Nat)
    (reported : ((after crypto inner calls).poll crypto now draw).2 = .ok (some wait)) :
    (∀ deadline ∈ ((after crypto inner calls).poll crypto now draw).1.deadlines, now < deadline) ↔
      PollsAhead (after crypto inner calls) now := by
  rcases @timed_run crypto inner fresh calls with ⟨sound, timed⟩
  have profile := @profile_run crypto inner fresh calls
  generalize after crypto inner calls = reached at *
  rcases @expireTransactions_cases now reached sound.single (paced_of_timed timed) with
    ⟨spared, swept⟩ | ⟨before, pending, after_, whole, ended⟩
  · have state := swept.postpones.state
    by_cases ready : reached.state = .ready
    · have held := sound.held ready
      have running : (reached.expireTransactions now).shuttingDown = false ∧
          (reached.expireTransactions now).state = .ready :=
        ⟨swept.postpones.shuttingDown.trans held.2.2.1, state.trans ready⟩
      cases over_ : isDue reached.allocationExpiresAt now with
      | true =>
          have expired : isDue (reached.expireTransactions now).allocationExpiresAt now = true := by
            rw [swept.postpones.expires]
            exact over_
          have given : (reached.expireTransactions now).expireAllocation now =
              (reached.expireTransactions now).destroyAllocation .refresh resultTimeout 0 :=
            if_pos ⟨running.1, running.2, expired⟩
          rcases destroyAllocation_same .refresh resultTimeout 0 (reached.expireTransactions now)
            with ⟨events, history, final, notReady, same⟩
          rw [same] at given
          have ahead : PollsAhead reached now := by
            unfold PollsAhead
            rw [if_pos ready]
            exact Or.inl over_
          rcases poll_reported reported with ⟨-, serving, -⟩ | ⟨-, last⟩
          · rw [given] at serving
            exact absurd serving notReady
          · rw [last, given]
            exact iff_of_true (fun deadline member => by cases member) ahead
      | false =>
          have kept : (reached.expireTransactions now).expireAllocation now =
              reached.expireTransactions now := by
            apply if_neg
            rintro ⟨-, -, expired⟩
            rw [swept.postpones.expires, over_] at expired
            cases expired
          have profile' : (reached.expireTransactions now).profile = .pjnathCompat :=
            swept.postpones.profile.trans profile
          rcases poll_reported reported with ⟨-, -, done, last⟩ | ⟨idle, -⟩
          · rw [kept] at done last
            rw [last, maintain_timers profile' swept.ahead monotone done]
            exact pollsAhead_of_running sound spared swept ready over_
          · rw [kept] at idle
            exact absurd running idle
    · have notReady : (reached.expireTransactions now).state ≠ .ready := by
        rw [state]
        exact ready
      rcases poll_reported reported with ⟨-, serving, -⟩ | ⟨-, last⟩
      · rw [expireAllocation_idle notReady] at serving
        exact absurd serving notReady
      · rw [last, expireAllocation_idle notReady]
        exact pollsAhead_of_idle spared swept ready
  · rcases poll_reported reported with ⟨-, serving, -⟩ | ⟨-, last⟩
    · rw [expireAllocation_idle ended.notReady] at serving
      exact absurd serving ended.notReady
    · rw [last, expireAllocation_idle ended.notReady]
      exact pollsAhead_of_ended sound whole ended

/-- A client that waits for the answer to its first request. -/
theorem started_client_polls_ahead :
    let polled := (after StunCrypto.standard (localClient .datagram)
      [{ action := .startAllocation, now := 0, draw := drawAt 0 }]).poll StunCrypto.standard
        (seconds 1) (drawAt (seconds 1))
    polled.1.deadlines ≠ [] ∧ ∀ deadline ∈ polled.1.deadlines, seconds 1 < deadline := by
  have exactly := poll_progress_iff StunCrypto.standard (localClient .datagram)
    (fresh_localClient .datagram) [{ action := .startAllocation, now := 0, draw := drawAt 0 }]
    (seconds 1) (drawAt (seconds 1)) (fun _ => Nat.le_refl _) (millis 400) (by decide +kernel)
  have state : (after StunCrypto.standard (localClient .datagram)
      [{ action := .startAllocation, now := 0, draw := drawAt 0 }]).state ≠ .ready := by
    decide +kernel
  constructor
  · decide +kernel
  · apply exactly.mpr
    unfold PollsAhead
    rw [if_neg state]
    exact Or.inr (by decide +kernel)

/-!
### A refresh that is asked for twice
-/

/-- An allocation in use, and two resynchronisations: the second while the refresh that the
first one asked for waits for its answer. -/
def resyncedCalls : List Call := challengedCalls ++ [
  { action := .inputStun (grantBytes 0x2c tenMinutes), now := 5, draw := drawAt 5 },
  { action := .resyncAfterSuspend 0, now := 10, draw := drawAt 10 },
  { action := .poll, now := 10, draw := drawAt 10 },
  { action := .resyncAfterSuspend 0, now := 20, draw := drawAt 20 }]

/-- The deadline of the refresh stays where it was, and the poll asks for another one at once. -/
theorem pending_refresh_keeps_a_past_deadline :
    let polled := (after StunCrypto.standard (localClient .datagram) resyncedCalls).poll
      StunCrypto.standard 20 (drawAt 20)
    polled.2 = .ok (some (millis 1)) ∧ polled.1.nextDeadline = some 20 ∧
      ¬∀ deadline ∈ polled.1.deadlines, 20 < deadline := by
  decide +kernel

end Csqtt
