/-
Module: Csqtt.Proofs.TurnSweep
Purpose: What a walk over the pending transactions of the relay client leaves of them and of
  the timers.
Trusted boundary: none
Main exports: timerOf, timesOut, Postpones, Swept, expireLoop_sweep, Ended,
  expireTransactions_cases
-/
import Csqtt.Proofs.TurnRetransmission

namespace Csqtt

open Inner

/-- The timer that an operation waits for. -/
def timerOf (inner : Inner) (operation : Operation) : Option Nat :=
  match operation with
  | .refresh => inner.allocationRefresh
  | .permission => inner.permissionRetry
  | .channel => inner.channelRetry
  | .allocate => none
  | .deallocate => none

/-- The timers of a client, all but those of its pending transactions. -/
def timers (inner : Inner) : List Nat :=
  inner.allocationRefresh.toList ++ inner.maintenanceRefresh.toList ++
    inner.permissionRetry.toList ++ inner.channelRetry.toList ++ inner.keepalive.toList

/-- A transaction whose time has come and that has no attempt left. -/
def timesOut (inner : Inner) (now : Nat) (pending : PendingTransaction) : Bool :=
  decide (pending.nextAttempt ≤ now) && inner.outOfAttempts pending

/-- The transaction of an operation times out now. -/
def overdue (inner : Inner) (now : Nat) (pendings : List PendingTransaction)
    (operation : Operation) : Bool :=
  pendings.any fun pending => pending.operation = operation && timesOut inner now pending

/-- The timers of some operations are set anew, to a time ahead, and nothing else that a poll
looks at changes. -/
structure Postpones (now : Nat) (anew : Operation → Bool) (inner inner' : Inner) : Prop where
  state : inner'.state = inner.state
  expires : inner'.allocationExpiresAt = inner.allocationExpiresAt
  shuttingDown : inner'.shuttingDown = inner.shuttingDown
  destroyed : inner'.destroyed = inner.destroyed
  transport : inner'.transport = inner.transport
  profile : inner'.profile = inner.profile
  maintenance : inner'.maintenanceRefresh = inner.maintenanceRefresh
  keepalive : inner'.keepalive = inner.keepalive
  failures : anew .channel = false → inner'.channelFailures = inner.channelFailures
  due : ∀ operation, isDue (timerOf inner' operation) now =
    (isDue (timerOf inner operation) now && !anew operation)
  idle : (∀ operation, anew operation = false) → timers inner' = timers inner

section Postponing

variable {now : Nat} {anew anew' : Operation → Bool} {inner inner' inner'' : Inner}

theorem Postpones.refl : Postpones now (fun _ => false) inner inner :=
  ⟨rfl, rfl, rfl, rfl, rfl, rfl, rfl, rfl, fun _ => rfl, fun _ => (Bool.and_true _).symm,
    fun _ => rfl⟩

theorem Postpones.trans (first : Postpones now anew inner inner')
    (second : Postpones now anew' inner' inner'') :
    Postpones now (fun operation => anew operation || anew' operation) inner inner'' := by
  constructor
  case state => exact second.state.trans first.state
  case expires => exact second.expires.trans first.expires
  case shuttingDown => exact second.shuttingDown.trans first.shuttingDown
  case destroyed => exact second.destroyed.trans first.destroyed
  case transport => exact second.transport.trans first.transport
  case profile => exact second.profile.trans first.profile
  case maintenance => exact second.maintenance.trans first.maintenance
  case keepalive => exact second.keepalive.trans first.keepalive
  case failures =>
    intro neither
    rw [Bool.or_eq_false_iff] at neither
    exact (second.failures neither.2).trans (first.failures neither.1)
  case due =>
    intro operation
    rw [second.due, first.due, Bool.not_or, Bool.and_assoc]
  case idle =>
    intro neither
    have none_ := fun operation => (Bool.or_eq_false_iff.mp (neither operation)).1
    have none' := fun operation => (Bool.or_eq_false_iff.mp (neither operation)).2
    exact (second.idle none').trans (first.idle none_)

/-- Whatever the rest of the state. -/
theorem postpones_congr (postpones : Postpones now anew inner inner')
    (same : ∀ operation, anew operation = anew' operation) : Postpones now anew' inner inner' := by
  have equal : anew = anew' := funext same
  rwa [← equal]

theorem maintenanceDelay_pos (failures : Nat) : 0 < maintenanceDelay failures := by
  have base : 0 < maintenanceRetryBase * 2 ^ min (failures - 1) 5 :=
    Nat.mul_pos (by decide) (Nat.two_pow_pos _)
  exact Nat.lt_min.mpr ⟨base, by decide⟩

theorem not_due_of_ahead {deadline : Nat} (ahead : now < deadline) :
    isDue (some deadline) now = false :=
  decide_eq_false (Nat.not_le_of_lt ahead)

/-- A failure that leaves the allocation in use sets the timer of its operation anew. -/
theorem postpones_completeFailure {operation : Operation} (status : Int) (stunCode : Nat)
    (keeps : inner.keepsAllocation operation now = true)
    (few : operation = .channel → inner.channelFailures + 1 < maxChannelMaintenanceFailures) :
    Postpones now (fun other => operation = other) inner
        (inner.completeFailure operation status stunCode now) ∧
      (inner.completeFailure operation status stunCode now).pending = inner.pending := by
  have ahead (failures : Nat) : isDue (some (now + maintenanceDelay failures)) now = false :=
    not_due_of_ahead (Nat.lt_add_of_pos_right (maintenanceDelay_pos failures))
  unfold completeFailure
  simp only [keeps, if_true]
  cases operation with
  | allocate => simp [keepsAllocation] at keeps
  | deallocate => simp [keepsAllocation] at keeps
  | refresh =>
      refine ⟨⟨rfl, rfl, rfl, rfl, rfl, rfl, rfl, rfl, fun _ => rfl, ?_, ?_⟩, rfl⟩
      · intro other
        cases other
        case refresh => simpa [timerOf, scheduleMaintenanceRetry] using ahead _
        all_goals exact (Bool.and_true _).symm
      · exact fun none_ => absurd (none_ .refresh) (by decide)
  | permission =>
      refine ⟨⟨rfl, rfl, rfl, rfl, rfl, rfl, rfl, rfl, fun _ => rfl, ?_, ?_⟩, rfl⟩
      · intro other
        cases other
        case permission => simpa [timerOf, scheduleMaintenanceRetry] using ahead _
        all_goals exact (Bool.and_true _).symm
      · exact fun none_ => absurd (none_ .permission) (by decide)
  | channel =>
      have spared : ¬maxChannelMaintenanceFailures ≤ min (inner.channelFailures + 1) 255 := by
        have below := few rfl
        omega
      have same : (inner.complete .channel status stunCode).channelFailures =
          inner.channelFailures := rfl
      simp only [scheduleMaintenanceRetry, same, spared, if_false, if_true]
      refine ⟨⟨rfl, rfl, rfl, rfl, rfl, rfl, rfl, rfl, fun none_ => ?_, ?_, ?_⟩, rfl⟩
      · exact absurd none_ (by decide)
      · intro other
        cases other
        case channel => simpa [timerOf] using ahead _
        all_goals exact (Bool.and_true _).symm
      · exact fun none_ => absurd (none_ .channel) (by decide)

end Postponing

/-!
### The walk over the pending transactions
-/

section Sweep

variable {now : Nat} {inner inner' : Inner}

theorem getElem?_middle (front back : List PendingTransaction) (pending : PendingTransaction) :
    (front ++ pending :: back)[front.length]? = some pending := by
  simp

theorem eraseIdx_middle (front back : List PendingTransaction) (pending : PendingTransaction) :
    (front ++ pending :: back).eraseIdx front.length = front ++ back := by
  rw [List.eraseIdx_append_of_length_le (Nat.le_refl _), Nat.sub_self, List.eraseIdx_cons_zero]

theorem set_middle (front back : List PendingTransaction) (pending new : PendingTransaction) :
    (front ++ pending :: back).set front.length new = front ++ new :: back := by
  rw [List.set_append_right _ _ (Nat.le_refl _), Nat.sub_self, List.set_cons_zero]

/-- A transaction that leaves the allocation in use when it times out. -/
def Spared (inner : Inner) (now : Nat) (pending : PendingTransaction) : Prop :=
  timesOut inner now pending = true →
    inner.keepsAllocation pending.operation now = true ∧
      (pending.operation = .channel → inner.channelFailures + 1 < maxChannelMaintenanceFailures)

theorem timesOut_congr (same : inner'.transport = inner.transport) (pending : PendingTransaction) :
    timesOut inner' now pending = timesOut inner now pending := by
  simp only [timesOut, outOfAttempts, same]

/-- What a walk over some transactions that leave the allocation in use comes to. -/
structure Swept (now : Nat) (inner middle : Inner) (front before front' : List PendingTransaction) :
    Prop where
  postpones : Postpones now (overdue inner now before) inner middle
  ahead : ∀ pending ∈ front', now < pending.nextAttempt
  present : ∀ operation, (∃ pending ∈ front', pending.operation = operation) ↔
    (∃ pending ∈ front, pending.operation = operation) ∨
      ∃ pending ∈ before, pending.operation = operation ∧ timesOut inner now pending = false

theorem postpones_retransmit (index : Nat) (pending : PendingTransaction) :
    Postpones now (fun _ => false) inner (inner.retransmit index pending now) := by
  rcases dropOldestControl_same inner with ⟨controls, events, history, same⟩
  simp only [retransmit, queuePacket, same]
  exact ⟨rfl, rfl, rfl, rfl, rfl, rfl, rfl, rfl, fun _ => rfl, fun _ => (Bool.and_true _).symm,
    fun _ => rfl⟩

/-- A transaction of one kind at most is among those that come. -/
theorem spared_rest {pending : PendingTransaction} {before : List PendingTransaction}
    {anew : Operation → Bool} (postpones : Postpones now anew inner inner')
    (distinct : ((pending :: before).map (·.operation)).Nodup)
    (only : ∀ operation, anew operation = true → operation = pending.operation)
    (spared : ∀ other ∈ before, Spared inner now other) :
    ∀ other ∈ before, Spared inner' now other := by
  intro other member out
  rw [timesOut_congr postpones.transport] at out
  have kept := spared other member out
  constructor
  · have same : inner'.keepsAllocation other.operation now =
        inner.keepsAllocation other.operation now := by
      simp only [keepsAllocation, postpones.state, postpones.expires]
    rw [same]
    exact kept.1
  · intro channel
    have apart : anew .channel = false := by
      apply Bool.eq_false_of_not_eq_true
      intro set_
      rw [List.map_cons, List.nodup_cons] at distinct
      apply distinct.1
      rw [← only .channel set_, ← channel]
      exact List.mem_map_of_mem member
    rw [postpones.failures apart]
    exact kept.2 channel

/-- The state in which the failure of a time-out is reported. -/
def givenUp (inner : Inner) (index : Nat) (pending : PendingTransaction) (now : Nat) : Inner :=
  ({ inner with
    pending := inner.pending.eraseIdx index
    history := inner.history ++ [.timedOut pending.serial now] } : Inner).removeQueuedTransaction
      pending.transaction

theorem timeOut_eq (inner : Inner) (index : Nat) (pending : PendingTransaction) (now : Nat) :
    inner.timeOut index pending now =
      (givenUp inner index pending now).completeFailure pending.operation resultTimeout 0 now :=
  rfl

/-- Nothing that a poll looks at changes but the pending transactions. -/
theorem postpones_givenUp (index : Nat) (pending : PendingTransaction) :
    Postpones now (fun _ => false) inner (givenUp inner index pending now) :=
  ⟨rfl, rfl, rfl, rfl, rfl, rfl, rfl, rfl, fun _ => rfl, fun _ => (Bool.and_true _).symm,
    fun _ => rfl⟩

/-- A time-out that leaves the allocation in use sets the timer of its operation anew. -/
theorem postpones_timeOut (index : Nat) {pending : PendingTransaction}
    (keeps : inner.keepsAllocation pending.operation now = true)
    (few : pending.operation = .channel →
      inner.channelFailures + 1 < maxChannelMaintenanceFailures) :
    Postpones now (fun other => pending.operation = other) inner
        (inner.timeOut index pending now) ∧
      (inner.timeOut index pending now).pending = inner.pending.eraseIdx index := by
  have failed := @postpones_completeFailure now (givenUp inner index pending now)
    pending.operation resultTimeout 0 keeps few
  rw [timeOut_eq]
  constructor
  · apply postpones_congr ((postpones_givenUp index pending).trans failed.1)
    exact fun _ => Bool.false_or _
  · exact failed.2

/-- A transaction that does not time out is still there behind the walk. -/
theorem Swept.passed {middle : Inner} {pending new : PendingTransaction}
    {front before front' : List PendingTransaction}
    (waits : timesOut inner now pending = false) (kind : new.operation = pending.operation)
    (postpones : Postpones now (fun _ => false) inner inner')
    (swept : Swept now inner' middle (front ++ [new]) before front') :
    Swept now inner middle front (pending :: before) front' := by
  constructor
  · apply postpones_congr (postpones.trans swept.postpones)
    intro operation
    simp [overdue, waits, timesOut_congr postpones.transport]
  · exact swept.ahead
  · intro operation
    rw [swept.present]
    simp [waits, kind, timesOut_congr postpones.transport, or_and_right, exists_or, or_assoc]

/-- A transaction that times out leaves its operation to the timer. -/
theorem Swept.timedOut {middle : Inner} {pending : PendingTransaction}
    {front before front' : List PendingTransaction}
    (out : timesOut inner now pending = true)
    (postpones : Postpones now (fun other => pending.operation = other) inner inner')
    (swept : Swept now inner' middle front before front') :
    Swept now inner middle front (pending :: before) front' := by
  constructor
  · apply postpones_congr (postpones.trans swept.postpones)
    intro operation
    simp [overdue, out, timesOut_congr postpones.transport]
  · exact swept.ahead
  · intro operation
    rw [swept.present]
    simp [out, timesOut_congr postpones.transport]

/-- Sent again, a transaction is due some time ahead. -/
theorem transmitted_ahead {pending : PendingTransaction} (paced : 0 < pending.rto) :
    now < (PendingTransaction.transmitted pending now).nextAttempt := by
  have doubled : 0 < min (pending.rto * 2) maxRto :=
    Nat.lt_min.mpr ⟨Nat.mul_pos paced (by decide), by decide⟩
  exact Nat.lt_add_of_pos_right doubled

/-- The walk passes transactions that leave the allocation in use one by one. -/
theorem expireLoop_sweep (fuel : Nat) (front before after_ : List PendingTransaction)
    (inner : Inner) (pendings : inner.pending = front ++ before ++ after_)
    (paced : ∀ pending ∈ before, inner.outOfAttempts pending = false → 0 < pending.rto)
    (spared : ∀ pending ∈ before, Spared inner now pending)
    (distinct : (before.map (·.operation)).Nodup)
    (ahead : ∀ pending ∈ front, now < pending.nextAttempt) :
    ∃ middle front',
      expireLoop now (before.length + fuel) front.length inner =
        expireLoop now fuel front'.length middle ∧
      middle.pending = front' ++ after_ ∧ Swept now inner middle front before front' := by
  induction before generalizing front inner with
  | nil =>
      refine ⟨inner, front, by rw [List.length_nil, Nat.zero_add], by simpa using pendings, ?_⟩
      exact ⟨.refl, ahead, by simp⟩
  | cons pending before inductionHypothesis =>
      have found : inner.pending[front.length]? = some pending := by
        rw [pendings, List.append_assoc]
        exact getElem?_middle front _ pending
      have distinct' := (List.nodup_cons.mp (List.map_cons ▸ distinct)).2
      have spared' := fun other member => spared other (List.mem_cons_of_mem _ member)
      have start : expireLoop now ((pending :: before).length + fuel) front.length inner =
          if now < pending.nextAttempt then
            expireLoop now (before.length + fuel) (front.length + 1) inner
          else if inner.outOfAttempts pending then
            expireLoop now (before.length + fuel) front.length
              (inner.timeOut front.length pending now)
          else expireLoop now (before.length + fuel) (front.length + 1)
            (inner.retransmit front.length pending now) := by
        rw [List.length_cons, Nat.succ_add]
        simp only [expireLoop, found]
      rw [start]
      by_cases early : now < pending.nextAttempt
      · -- The transaction is not due yet.
        have waits : timesOut inner now pending = false := by
          simp [timesOut, Nat.not_le_of_lt early]
        rcases inductionHypothesis (front ++ [pending]) inner (by simpa using pendings)
          (fun other member => paced other (List.mem_cons_of_mem _ member)) spared' distinct'
          (by simpa [or_imp, forall_and] using ⟨ahead, early⟩) with
          ⟨middle, front', same, rest, swept⟩
        exact ⟨middle, front', by simpa [early] using same, rest, swept.passed waits rfl .refl⟩
      · have due := Nat.le_of_not_lt early
        cases last : inner.outOfAttempts pending with
        | true =>
            -- It times out, and its operation waits for a timer instead.
            have out : timesOut inner now pending = true := by simp [timesOut, due, last]
            have kept := spared pending List.mem_cons_self out
            obtain ⟨postpones, taken⟩ := postpones_timeOut front.length kept.1 kept.2
            have pendings' : (inner.timeOut front.length pending now).pending =
                front ++ before ++ after_ := by
              simp only [taken, pendings, List.append_assoc, List.cons_append, eraseIdx_middle]
            rcases inductionHypothesis front (inner.timeOut front.length pending now) pendings'
              (fun other member left => paced other (List.mem_cons_of_mem _ member)
                (by simpa [outOfAttempts, postpones.transport] using left))
              (spared_rest postpones distinct (by simp) spared') distinct'
              ahead with ⟨middle, front', same, rest, swept⟩
            exact ⟨middle, front', by simpa [early, last] using same, rest,
              swept.timedOut out postpones⟩
        | false =>
            -- It is sent again, and due some time ahead.
            have waits : timesOut inner now pending = false := by simp [timesOut, last]
            have later : now < (PendingTransaction.transmitted pending now).nextAttempt :=
              transmitted_ahead (paced pending List.mem_cons_self last)
            have kind : (PendingTransaction.transmitted pending now).operation =
                pending.operation := rfl
            have postpones := @postpones_retransmit now inner front.length pending
            have pendings' : (inner.retransmit front.length pending now).pending =
                (front ++ [PendingTransaction.transmitted pending now]) ++ before ++ after_ := by
              rw [pending_retransmit, pendings, List.append_assoc, List.cons_append, set_middle]
              simp
            rcases inductionHypothesis (front ++ [PendingTransaction.transmitted pending now])
              (inner.retransmit front.length pending now) pendings'
              (fun other member left => paced other (List.mem_cons_of_mem _ member)
                (by simpa [outOfAttempts, postpones.transport] using left))
              (spared_rest postpones distinct (by simp) spared') distinct'
              (by simpa [or_imp, forall_and] using ⟨ahead, later⟩) with
              ⟨middle, front', same, rest, swept⟩
            exact ⟨middle, front', by simpa [early, last] using same, rest,
              swept.passed waits kind postpones⟩

theorem deadlines_eq (inner : Inner) :
    inner.deadlines = inner.pending.map (·.nextAttempt) ++ timers inner := by
  simp only [deadlines, timers, List.append_assoc]

/-- A transaction that does not leave the allocation in use takes everything with it. -/
theorem timeOut_destroys (index : Nat) (pending : PendingTransaction)
    (loses : inner.keepsAllocation pending.operation now = false) :
    (inner.timeOut index pending now).deadlines = [] ∧
      (inner.timeOut index pending now).state ≠ .ready := by
  have same : (givenUp inner index pending now).keepsAllocation pending.operation now = false :=
    loses
  simp only [timeOut_eq, completeFailure, same, Bool.false_eq_true, if_false]
  rcases destroyAllocation_same pending.operation resultTimeout 0
    (givenUp inner index pending now) with ⟨events, history, state, notReady, shape⟩
  rw [shape]
  exact ⟨rfl, notReady⟩

/-- A channel that failed too often takes everything with it but the timer of the refresh. -/
theorem timeOut_exhausts (index : Nat) (pending : PendingTransaction)
    (keeps : inner.keepsAllocation pending.operation now = true)
    (channel : pending.operation = .channel)
    (many : maxChannelMaintenanceFailures ≤ inner.channelFailures + 1) :
    (inner.timeOut index pending now).pending = [] ∧
      timers (inner.timeOut index pending now) = inner.allocationRefresh.toList ∧
      (inner.timeOut index pending now).state ≠ .ready := by
  have same : (givenUp inner index pending now).keepsAllocation pending.operation now = true :=
    keeps
  have spent : maxChannelMaintenanceFailures ≤ min (inner.channelFailures + 1) 255 :=
    Nat.le_min.mpr ⟨many, by decide⟩
  have failures : ((givenUp inner index pending now).complete .channel resultTimeout
      0).channelFailures = inner.channelFailures := rfl
  rw [channel] at same
  simp only [timeOut_eq, channel, completeFailure, same, if_true, scheduleMaintenanceRetry,
    failures, spent, Bool.false_eq_true, if_false]
  rcases destroyAfterChannelRebindExhausted_same
    { (givenUp inner index pending now).complete .channel resultTimeout 0 with
      channelFailures := min (inner.channelFailures + 1) 255 } with ⟨events, history, shape⟩
  rw [shape]
  exact ⟨rfl, by simp [timers, complete, pushEvent, givenUp, removeQueuedTransaction], by simp⟩

/-- The walk either passes everything, or it comes to a transaction that ends it: one that
takes the whole allocation with it, or the last attempt to bind the channel. -/
structure Ended (now : Nat) (inner final : Inner) (before : List PendingTransaction)
    (pending : PendingTransaction) : Prop where
  out : timesOut inner now pending = true
  notReady : final.state ≠ .ready
  left : (inner.keepsAllocation pending.operation now = false ∧ final.deadlines = []) ∨
    (inner.keepsAllocation pending.operation now = true ∧ pending.operation = .channel ∧
      maxChannelMaintenanceFailures ≤ inner.channelFailures + 1 ∧
      ∃ refresh, final.deadlines = refresh.toList ∧
        isDue refresh now = (isDue inner.allocationRefresh now && !overdue inner now before .refresh))

theorem expireTransactions_cases (distinct : (inner.pending.map (·.operation)).Nodup)
    (paced : ∀ pending ∈ inner.pending, inner.outOfAttempts pending = false → 0 < pending.rto) :
    ((∀ pending ∈ inner.pending, Spared inner now pending) ∧
      Swept now inner (inner.expireTransactions now) [] inner.pending
        (inner.expireTransactions now).pending) ∨
    ∃ before pending after_, inner.pending = before ++ pending :: after_ ∧
      Ended now inner (inner.expireTransactions now) before pending := by
  classical
  cases first : inner.pending.find? (fun pending => ¬Spared inner now pending) with
  | none =>
      left
      have spared : ∀ pending ∈ inner.pending, Spared inner now pending := by
        intro pending member
        simpa using List.find?_eq_none.mp first pending member
      refine ⟨spared, ?_⟩
      rcases expireLoop_sweep 0 [] inner.pending [] inner (by simp) paced spared distinct (by simp)
        with ⟨middle, front', same, rest, swept⟩
      have final : inner.expireTransactions now = middle := congrArg Prod.snd same
      rw [List.append_nil] at rest
      rw [final, rest]
      exact swept
  | some pending =>
      right
      rcases List.find?_eq_some_iff_append.mp first with ⟨ends, before, after_, whole, passed⟩
      refine ⟨before, pending, after_, whole, ?_⟩
      have lost : ¬Spared inner now pending := by simpa using ends
      have out : timesOut inner now pending = true := by
        by_contra waits
        exact lost fun out => absurd out waits
      rw [whole, List.map_append, List.nodup_append] at distinct
      rcases expireLoop_sweep (after_.length + 1) [] before (pending :: after_) inner
        (by simpa using whole)
        (fun other member => paced other (by rw [whole]; exact List.mem_append_left _ member))
        (fun other member => by simpa using passed other member) distinct.1 (by simp) with
        ⟨middle, front', same, rest, swept⟩
      have found : middle.pending[front'.length]? = some pending := by
        rw [rest]
        exact getElem?_middle front' after_ pending
      have size : inner.pending.length = before.length + (after_.length + 1) := by
        rw [whole, List.length_append, List.length_cons]
      have attempts : timesOut middle now pending = true := by
        rw [timesOut_congr swept.postpones.transport]
        exact out
      simp only [timesOut, Bool.and_eq_true, decide_eq_true_eq] at attempts
      have reached : inner.expireTransactions now =
          (expireLoop now after_.length front'.length
            (middle.timeOut front'.length pending now)).2 := by
        rw [expireTransactions, size]
        rw [show (expireLoop now (before.length + (after_.length + 1)) 0 inner) = _ from same]
        simp only [expireLoop, found, Nat.not_lt.mpr attempts.1, if_false, attempts.2, if_true]
      have kept : middle.keepsAllocation pending.operation now =
          inner.keepsAllocation pending.operation now := by
        simp only [keepsAllocation, swept.postpones.state, swept.postpones.expires]
      cases keeps : inner.keepsAllocation pending.operation now with
      | false =>
          have destroyed := timeOut_destroys front'.length pending (kept.trans keeps)
          have none_ : (middle.timeOut front'.length pending now).pending = [] := by
            have empty := destroyed.1
            rw [deadlines_eq, List.append_eq_nil_iff] at empty
            exact List.map_eq_nil_iff.mp empty.1
          rw [reached, expireLoop_empty now _ _ none_]
          exact ⟨out, destroyed.2, Or.inl ⟨keeps, destroyed.1⟩⟩
      | true =>
          have exhausted : pending.operation = .channel ∧
              maxChannelMaintenanceFailures ≤ inner.channelFailures + 1 := by
            by_contra spared
            apply lost
            intro _
            refine ⟨keeps, fun channel => ?_⟩
            exact Nat.lt_of_not_le fun many => spared ⟨channel, many⟩
          have alone_ : overdue inner now before .channel = false := by
            simp only [overdue, List.any_eq_false, Bool.and_eq_true, decide_eq_true_eq]
            rintro other member ⟨channel, -⟩
            exact distinct.2.2 other.operation (List.mem_map_of_mem member) pending.operation
              (by simp) (channel.trans exhausted.1.symm)
          have failures := swept.postpones.failures alone_
          have ended := timeOut_exhausts front'.length pending (kept.trans keeps) exhausted.1
            (by rw [failures]; exact exhausted.2)
          rw [reached, expireLoop_empty now _ _ ended.1]
          refine ⟨out, ended.2.2, Or.inr ⟨keeps, exhausted.1, exhausted.2,
            middle.allocationRefresh, ?_, swept.postpones.due .refresh⟩⟩
          rw [deadlines_eq, ended.1, ended.2.1]
          rfl

end Sweep

end Csqtt
