/-
Module: Csqtt.Proofs.TurnLifecycle
Purpose: An allocation is held only after its grant was verified, with everything known
  that its upkeep needs; after a shutdown nothing is sent but what ends the allocation.
Trusted boundary: none
Main exports: ready_only_when_granted, Hushed, hushed_moves, silence_after_shutdown
-/
import Csqtt.Proofs.TurnRequests
import Csqtt.Proofs.TurnSteps

namespace Csqtt

open Inner

section Entering

variable {crypto : StunCrypto} {grant : Prop} {inner inner' : Inner}

/-- Only a granted allocation is held. -/
theorem granted_of_ready (moves : Moves crypto grant inner inner')
    (before : inner.state ≠ .ready) (held : inner'.state = .ready) : grant := by
  induction moves with
  | refl => exact absurd held before
  | tail _ move inductionHypothesis =>
      cases move with
      | granted relay expires allowed live waiting quiet credentialed => exact allowed
      | destroy state final => rcases final with rfl | rfl <;> cases held
      | begin idle serving => cases held
      | exhaust => cases held
      | shutdownHeld held' => cases held
      | force => cases held
      | _ => exact inductionHypothesis held

theorem profile_of_move (move : Move crypto grant inner inner') :
    inner'.profile = inner.profile := by
  cases move <;> rfl

theorem profile_of_moves (moves : Moves crypto grant inner inner') :
    inner'.profile = inner.profile := by
  induction moves with
  | refl => rfl
  | tail _ move inductionHypothesis => exact (profile_of_move move).trans inductionHypothesis

theorem profile_step (sound : Sound inner) (call : Call) :
    (inner.step crypto call).1.profile = inner.profile := by
  by_cases action : call.action = .pullEvent
  · rw [step_pullEvent action]
  · exact profile_of_moves (moves_step sound call action)

theorem profile_run (fresh : Fresh inner) (calls : List Call) :
    (after crypto inner calls).profile = .pjnathCompat := by
  have kept : Sound (after crypto inner calls) ∧
      (after crypto inner calls).profile = .pjnathCompat := by
    exact Transducer.run_invariant _
      (fun state call (both : Sound state ∧ state.profile = .pjnathCompat) =>
        ⟨sound_step call both.1, (profile_step both.1 call).trans both.2⟩)
      inner calls ⟨sound_fresh fresh, (blank_of_fresh fresh).profile⟩
  exact kept.2

end Entering

/-!
### Credentials
-/

section Credentials

variable {crypto : StunCrypto} {inner : Inner}

theorem startOperation_error (credentialed : inner.Credentialed) {draw : Draw}
    {operation : Operation} {authenticated : Bool} {nonceRetries : Nat} {reason : String}
    (failed : (inner.startOperation crypto draw operation authenticated nonceRetries).2 =
      .error reason) : reason = "STUN message too large for u16 length" := by
  unfold startOperation at failed
  split at failed
  · split at failed
    · split at failed <;> cases failed
    · cases failed
  · split at failed
    · next missing =>
        have known : inner.realm.isSome ∧ inner.nonce.isSome ∧ inner.key.isSome := credentialed
        simp only [← Option.not_isSome, known, Bool.not_true] at missing
        simp at missing
    · split at failed
      · next text built =>
          cases failed
          exact buildRequest_error credentialed.2.2 built
      · cases failed

theorem credentialed_startOperation (credentialed : inner.Credentialed) (draw : Draw)
    (operation : Operation) (authenticated : Bool) (nonceRetries : Nat) :
    (inner.startOperation crypto draw operation authenticated nonceRetries).1.Credentialed := by
  rcases @startOperation_same crypto draw operation authenticated nonceRetries inner with
    ⟨controls, events, history, pending, started, same⟩
  rw [same]
  exact credentialed

/-- The credentials stay known, and nothing but the size of a request stands in the way. -/
structure FailsBySizeOnly (result : Inner × Except String Unit) : Prop where
  credentialed : result.1.Credentialed
  reason : ∀ reason, result.2 = .error reason → reason = "STUN message too large for u16 length"

theorem failsBySizeOnly_andThen {result : Inner × Except String Unit}
    {next : Inner → Inner × Except String Unit} (first : FailsBySizeOnly result)
    (second : ∀ middle : Inner, middle.Credentialed → FailsBySizeOnly (next middle)) :
    FailsBySizeOnly (andThen result next) := by
  unfold andThen
  split
  · next text failure =>
      constructor
      · exact first.credentialed
      · intro reason failed
        cases failed
        exact first.reason text failure
  · exact second result.1 first.credentialed

theorem failsBySizeOnly_startDue (credentialed : inner.Credentialed) (draw : Operation → Draw)
    (operation : Operation) (due : Bool) {clear : Inner → Inner}
    (cleared : (clear inner).Credentialed) :
    FailsBySizeOnly (inner.startDue crypto draw operation due clear) := by
  unfold startDue
  split
  · exact ⟨credentialed_startOperation cleared _ _ _ _,
      fun reason failed => startOperation_error cleared failed⟩
  · exact ⟨credentialed, fun reason failed => by cases failed⟩

theorem credentialed_rearmMaintenance (credentialed : inner.Credentialed) (due : Bool)
    (now : Nat) : (inner.rearmMaintenance due now).Credentialed := by
  unfold rearmMaintenance
  split <;> exact credentialed

theorem credentialed_keepPathAlive (credentialed : inner.Credentialed) (now : Nat) :
    (inner.keepPathAlive now).Credentialed := by
  unfold keepPathAlive queueKeepalive
  split
  · split
    · exact credentialed
    · next channel _ =>
        rcases dropOldestControl_same { inner with
          keepalive := some (now + inner.profile.keepaliveInterval) } with
          ⟨controls, events, history, same⟩
        simp only [queuePacket, same]
        exact credentialed
  · exact credentialed

theorem failsBySizeOnly_maintain (credentialed : inner.Credentialed) (now : Nat)
    (draw : Operation → Draw) : FailsBySizeOnly (inner.maintain crypto now draw) := by
  unfold maintain
  apply failsBySizeOnly_andThen
  · exact failsBySizeOnly_startDue credentialed draw _ _ credentialed
  · intro refreshed credentialed
    have rearmed := credentialed_rearmMaintenance credentialed (isDue inner.maintenanceRefresh now)
      now
    apply failsBySizeOnly_andThen
    · exact failsBySizeOnly_startDue rearmed draw _ _ rearmed
    · intro permitted credentialed
      apply failsBySizeOnly_andThen
      · exact failsBySizeOnly_startDue credentialed draw _ _ credentialed
      · intro bound credentialed
        exact ⟨credentialed_keepPathAlive credentialed now, fun reason failed => by cases failed⟩

/-- A poll never fails for want of credentials. -/
theorem poll_error (sound : Sound inner) {now : Nat} {draw : Operation → Draw}
    {reason : String} (failed : (inner.poll crypto now draw).2 = .error reason) :
    reason = "STUN message too large for u16 length" := by
  unfold poll at failed
  split at failed
  · cases failed
  · simp only at failed
    split at failed
    · next text failure =>
        cases failed
        split at failure
        · next serving =>
            have expired : Moves crypto False inner
                ((inner.expireTransactions now).expireAllocation now) :=
              (moves_expireTransactions now).trans (moves_expireAllocation now)
            have later := sound_moves expired sound
            have credentialed := later.known (later.held serving.2).2.1
            exact (failsBySizeOnly_maintain credentialed now draw).reason _ failure
        · cases failure
    · cases failed

end Credentials

/-- In every state that a run reaches, an allocation comes to be held only by processing its
verified grant; while it is held its address, its expiry and all credentials are known, and
a poll does not fail for want of them; at most one transaction of each kind is pending, and
none was tried again more than three times with a new nonce. -/
theorem ready_only_when_granted (crypto : StunCrypto) (inner : Inner) (fresh : Fresh inner)
    (calls : List Call) :
    let reached := after crypto inner calls
    (∀ call, reached.state ≠ .ready → (reached.step crypto call).1.state = .ready →
      GrantedBy crypto reached call) ∧
    (reached.state = .ready → reached.relay.isSome ∧ reached.allocationExpiresAt.isSome ∧
      reached.realm.isSome ∧ reached.nonce.isSome ∧ reached.key.isSome) ∧
    (∀ now draw reason, (reached.poll crypto now draw).2 = .error reason →
      reason = "STUN message too large for u16 length") ∧
    (reached.pending.map (·.operation)).Nodup ∧
    (∀ pending ∈ reached.pending, pending.nonceRetries ≤ 3) := by
  intro reached
  have sound : Sound reached := sound_run fresh calls
  have profile : reached.profile = .pjnathCompat := profile_run fresh calls
  refine ⟨?_, ?_, ?_, sound.single, ?_⟩
  · intro call before held
    by_cases action : call.action = .pullEvent
    · rw [step_pullEvent action] at held
      exact absurd held before
    · exact granted_of_ready (moves_step sound call action) before held
  · intro ready
    have held := sound.held ready
    exact ⟨held.1, held.2.1, sound.known held.2.1⟩
  · exact fun now draw reason failed => poll_error sound failed
  · intro pending member
    have tries := sound.tries pending member
    rwa [profile] at tries

/-- A draw of identifiers and clock readings, for concrete runs. -/
def drawAt (now : Nat) (operation : Operation) : Draw :=
  { transaction := operation.method.setWidth 96, now := now }

theorem started_client_is_not_ready :
    let calls : List Call := [
      { action := .startAllocation, now := 0, draw := drawAt 0 },
      { action := .poll, now := seconds 1, draw := drawAt (seconds 1) }]
    let reached := after StunCrypto.standard (localClient .datagram) calls
    (reached.pending.map (·.operation)).Nodup ∧
      ∀ pending ∈ reached.pending, pending.nonceRetries ≤ 3 := by
  intro calls reached
  exact (ready_only_when_granted StunCrypto.standard (localClient .datagram)
    (fresh_localClient .datagram) calls).2.2.2

/-!
### Silence
-/

section Silence

variable {crypto : StunCrypto} {grant : Prop} {inner inner' inner'' : Inner}

/-- The packet of every pending transaction is a request of its operation. -/
def Written (inner : Inner) : Prop :=
  ∀ pending ∈ inner.pending, IsRequest pending.operation pending.packet

theorem written_move (move : Move crypto grant inner inner') (written : Written inner) :
    Written inner' := by
  cases move with
  | start operation transaction time authenticated nonceRetries packet absent permitted
      credentialed proves tries built =>
      intro pending member
      rcases List.mem_append.mp member with old | last
      · exact written pending old
      · rw [List.mem_singleton.mp last]
        exact isRequest_of_build built
  | take index => exact fun pending member => written pending (List.mem_of_mem_eraseIdx member)
  | timeOut index gone now found due last =>
      exact fun pending member => written pending (List.mem_of_mem_eraseIdx member)
  | retransmit index again now found due left =>
      intro pending member
      rcases List.mem_or_eq_of_mem_set member with old | rfl
      · exact written pending old
      · exact written again (List.mem_of_getElem? found)
  | destroy state final => exact fun pending member => by cases member
  | exhaust => exact fun pending member => by cases member
  | shutdownHeld held => exact fun pending member => by cases member
  | shutdownIdle notReady => exact fun pending member => by cases member
  | force => exact fun pending member => by cases member
  | _ => exact written

theorem written_moves (moves : Moves crypto grant inner inner') (written : Written inner) :
    Written inner' := by
  induction moves with
  | refl => exact written
  | tail _ move inductionHypothesis => exact written_move move inductionHypothesis

/-- What may be queued while shutting down, from a state on: requests of the allocation in
progress, and requests that end one. -/
def Farewell (inner : Inner) (packet : List U8) : Prop :=
  (inner.state = .allocating ∧ IsRequest .allocate packet) ∨ IsRequest .deallocate packet

/-- From one state to a later one, a shutdown stays one and nothing is queued but what it
allows; once destroyed, nothing is. -/
structure Hushed (inner inner' : Inner) : Prop where
  closing : inner.shuttingDown = true → inner'.shuttingDown = true
  dead : inner.destroyed = true → inner'.destroyed = true
  progress : inner.shuttingDown = true → inner'.state = .allocating → inner.state = .allocating
  history : ∃ new, inner'.history = inner.history ++ new ∧
    (inner.shuttingDown = true → ∀ cause packet, .queued cause packet ∈ new →
      Farewell inner packet) ∧
    (inner.destroyed = true → ∀ cause packet, .queued cause packet ∉ new)

theorem Hushed.refl : Hushed inner inner :=
  ⟨id, id, fun _ => id, [], by simp, by simp, by simp⟩

theorem Hushed.trans (first : Hushed inner inner') (second : Hushed inner' inner'') :
    Hushed inner inner'' := by
  rcases first.history with ⟨new, grown, allowed, none_⟩
  rcases second.history with ⟨newer, grown', allowed', none'⟩
  constructor
  · exact fun closing => second.closing (first.closing closing)
  · exact fun dead => second.dead (first.dead dead)
  · exact fun closing waiting =>
      first.progress closing (second.progress (first.closing closing) waiting)
  · refine ⟨new ++ newer, by rw [grown', grown, List.append_assoc], ?_, ?_⟩
    · intro closing cause packet member
      rcases List.mem_append.mp member with early | late
      · exact allowed closing cause packet early
      · rcases allowed' (first.closing closing) cause packet late with ⟨waiting, request⟩ | request
        · exact Or.inl ⟨first.progress closing waiting, request⟩
        · exact Or.inr request
    · intro dead cause packet member
      rcases List.mem_append.mp member with early | late
      · exact none_ dead cause packet early
      · exact none' (first.dead dead) cause packet late

/-- A move that queues nothing. -/
theorem hushed_quiet (closing : inner.shuttingDown = true → inner'.shuttingDown = true)
    (dead : inner.destroyed = true → inner'.destroyed = true)
    (progress : inner.shuttingDown = true → inner'.state = .allocating →
      inner.state = .allocating)
    {new : List Entry} (grown : inner'.history = inner.history ++ new)
    (quiet : ∀ cause packet, .queued cause packet ∉ new) : Hushed inner inner' :=
  ⟨closing, dead, progress, new, grown,
    fun _ cause packet member => absurd member (quiet cause packet),
    fun _ cause packet => quiet cause packet⟩

/-- A move that queues one packet, and may do so. -/
theorem hushed_queue {cause : Cause} {packet : List U8}
    (closing : inner'.shuttingDown = inner.shuttingDown)
    (dead : inner'.destroyed = inner.destroyed) (state : inner'.state = inner.state)
    (grown : inner'.history = inner.history ++ [.queued cause packet])
    (live : inner.destroyed = false)
    (allowed : inner.shuttingDown = true → Farewell inner packet) : Hushed inner inner' := by
  refine ⟨fun shut => closing.trans shut, fun gone => dead.trans gone,
    fun _ waiting => state ▸ waiting, _, grown, ?_, ?_⟩
  · intro shut other text member
    rw [List.mem_singleton] at member
    cases member
    exact allowed shut
  · intro gone
    rw [live] at gone
    cases gone

/-- While shutting down only the first and the last operation of an allocation can be pending. -/
theorem farewell_of_permits {operation : Operation} {packet : List U8}
    (permitted : inner.Permits operation) (request : IsRequest operation packet)
    (closing : inner.shuttingDown = true) : Farewell inner packet := by
  cases operation with
  | allocate => exact Or.inl ⟨permitted.2, request⟩
  | deallocate => exact Or.inr request
  | refresh => exact absurd closing (by simp [permitted.2.2])
  | permission => exact absurd closing (by simp [permitted.2.2])
  | channel => exact absurd closing (by simp [permitted.2.2])

theorem hushed_move (sound : Sound inner) (written : Written inner)
    (move : Move crypto grant inner inner') : Hushed inner inner' := by
  cases move with
  | event event real =>
      exact hushed_quiet id id (fun _ => id) rfl (by simp)
  | begin idle serving =>
      exact hushed_quiet id id (fun closing => absurd closing (by simp [serving]))
        (List.append_nil _).symm (by simp)
  | start operation transaction time authenticated nonceRetries packet absent permitted
      credentialed proves tries built =>
      exact hushed_queue rfl rfl rfl rfl permitted.1
        (farewell_of_permits permitted (isRequest_of_build built))
  | again pending member channel =>
      exact hushed_queue rfl rfl rfl rfl (sound.fits pending member).1
        (farewell_of_permits (sound.fits pending member) (written pending member))
  | keepAlive packet live running =>
      exact hushed_queue rfl rfl rfl rfl live (fun closing => absurd closing (by simp [running]))
  | timeOut index pending now found due last =>
      exact hushed_quiet id id (fun _ => id) rfl (by simp)
  | retransmit index pending now found due left =>
      have member := List.mem_of_getElem? found
      exact hushed_queue rfl rfl rfl rfl (sound.fits pending member).1
        (farewell_of_permits (sound.fits pending member) (written pending member))
  | destroy state final =>
      refine hushed_quiet id id (fun _ waiting => ?_) (List.append_nil _).symm (by simp)
      rcases final with rfl | rfl <;> cases waiting
  | exhaust =>
      exact hushed_quiet id id (fun _ waiting => by cases waiting) (List.append_nil _).symm
        (by simp)
  | granted relay expires allowed live waiting quiet credentialed =>
      exact hushed_quiet id id (fun _ _ => waiting) (List.append_nil _).symm (by simp)
  | shutdownHeld held =>
      exact hushed_quiet (fun _ => rfl) id (fun _ waiting => by cases waiting)
        (List.append_nil _).symm (by simp)
  | shutdownIdle notReady =>
      exact hushed_quiet (fun _ => rfl) id (fun _ => id) (List.append_nil _).symm (by simp)
  | shutdownAllocating waiting =>
      exact hushed_quiet (fun _ => rfl) id (fun _ => id) (List.append_nil _).symm (by simp)
  | force =>
      exact hushed_quiet id (fun _ => rfl) (fun _ waiting => by cases waiting)
        (List.append_nil _).symm (by simp)
  | _ => exact hushed_quiet id id (fun _ => id) (List.append_nil _).symm (by simp)

theorem hushed_moves (moves : Moves crypto grant inner inner') (sound : Sound inner)
    (written : Written inner) : Hushed inner inner' := by
  induction moves with
  | refl => exact .refl
  | tail before move inductionHypothesis =>
      exact inductionHypothesis.trans
        (hushed_move (sound_moves before sound) (written_moves before written) move)

theorem written_step (sound : Sound inner) (call : Call) (written : Written inner) :
    Written (inner.step crypto call).1 := by
  by_cases action : call.action = .pullEvent
  · rw [step_pullEvent action]
    exact written
  · exact written_moves (moves_step sound call action) written

theorem hushed_step (sound : Sound inner) (written : Written inner) (call : Call) :
    Hushed inner (inner.step crypto call).1 := by
  by_cases action : call.action = .pullEvent
  · rw [step_pullEvent action]
    exact hushed_quiet id id (fun _ => id) (List.append_nil _).symm (by simp)
  · exact hushed_moves (moves_step sound call action) sound written

theorem hushed_run (sound : Sound inner) (written : Written inner) (calls : List Call) :
    Hushed inner (after crypto inner calls) ∧ Sound (after crypto inner calls) ∧
      Written (after crypto inner calls) :=
  Transducer.run_invariant _
    (fun state call (both : Hushed inner state ∧ Sound state ∧ Written state) =>
      ⟨both.1.trans (hushed_step both.2.1 both.2.2 call), sound_step call both.2.1,
        written_step both.2.1 call both.2.2⟩)
    inner calls ⟨.refl, sound, written⟩

end Silence

theorem written_fresh {inner : Inner} (fresh : Fresh inner) : Written inner := by
  intro pending member
  rw [(blank_of_fresh fresh).pending] at member
  cases member

/-- Whatever happens after a shutdown, nothing is queued but requests of the allocation that
was in progress and requests that end one; after a forced end, nothing is queued at all. -/
theorem silence_after_shutdown (crypto : StunCrypto) (inner : Inner) (fresh : Fresh inner)
    (before : List Call) (call : Call) (later : List Call) :
    let stopping := after crypto inner before
    let reached := after crypto inner (before ++ call :: later)
    ∃ new, reached.history = stopping.history ++ new ∧
      (call.action = .gracefulShutdown → ∀ cause packet, .queued cause packet ∈ new →
        (stopping.state = .allocating ∧ IsRequest .allocate packet) ∨
          IsRequest .deallocate packet) ∧
      (∀ status, call.action = .forceDestroy status →
        ∀ cause packet, .queued cause packet ∉ new) := by
  intro stopping reached
  have start : Hushed inner stopping ∧ Sound stopping ∧ Written stopping :=
    hushed_run (sound_fresh fresh) (written_fresh fresh) before
  have sound := start.2.1
  have written := start.2.2
  have whole : reached = after crypto (stopping.step crypto call).1 later := by
    simp only [reached, after, Transducer.run_append, Transducer.run_cons]
    rfl
  -- Whatever the call begins with, the rest of it and all later calls are hushed from there on.
  have hushed (begun : Inner) (moves : Moves crypto False stopping begun)
      (rest : Moves crypto False begun (stopping.step crypto call).1) : Hushed begun reached := by
    have sound' := sound_moves moves sound
    have written' := written_moves moves written
    have step := hushed_moves rest sound' written'
    rw [whole]
    exact step.trans (hushed_run (sound_moves rest sound') (written_moves rest written') later).1
  have stepped : Hushed stopping reached := by
    have sound' := @sound_step crypto stopping call sound
    rw [whole]
    exact (hushed_step sound written call).trans
      (hushed_run sound' (written_step sound call written) later).1
  rcases stepped.history with ⟨new, grown, farewell, nothing⟩
  refine ⟨new, grown, ?_, ?_⟩
  · intro action cause packet member
    have result : (stopping.step crypto call).1 = (stopping.gracefulShutdown crypto call.draw).1 := by
      simp only [step, action]
    rcases @gracefulShutdown_begins crypto False call.draw stopping with
      ⟨already, -⟩ | ⟨begun, moves, same, closing, progress, rest⟩
    · rcases already with gone | closing
      · exact absurd member (nothing gone cause packet)
      · exact farewell closing cause packet member
    · rw [← result] at rest
      rcases (hushed begun moves rest).history with ⟨new', grown', farewell', -⟩
      rw [grown, same] at grown'
      rw [List.append_cancel_left grown'] at member
      rcases farewell' closing cause packet member with ⟨waiting, request⟩ | request
      · exact Or.inl ⟨progress waiting, request⟩
      · exact Or.inr request
  · intro status action cause packet member
    have result : (stopping.step crypto call).1 = stopping.forceDestroy status := by
      simp only [step, action]
    rcases @forceDestroy_begins crypto False status stopping with ⟨begun, moves, same, gone, rest⟩
    rw [← result] at rest
    rcases (hushed begun moves rest).history with ⟨new', grown', -, nothing'⟩
    rw [grown, same] at grown'
    rw [List.append_cancel_left grown'] at member
    exact nothing' gone cause packet member

theorem started_client_shuts_down_hushed :
    let before : List Call := [{ action := .startAllocation, now := 0, draw := drawAt 0 }]
    let call : Call := { action := .gracefulShutdown, now := 1, draw := drawAt 1 }
    let later : List Call := [{ action := .poll, now := seconds 1, draw := drawAt (seconds 1) }]
    let stopping := after StunCrypto.standard (localClient .datagram) before
    let reached := after StunCrypto.standard (localClient .datagram) (before ++ call :: later)
    ∃ new, reached.history = stopping.history ++ new ∧
      ∀ cause packet, .queued cause packet ∈ new →
        (stopping.state = .allocating ∧ IsRequest .allocate packet) ∨
          IsRequest .deallocate packet := by
  intro before call later stopping reached
  rcases silence_after_shutdown StunCrypto.standard (localClient .datagram)
    (fresh_localClient .datagram) before call later with ⟨new, grown, farewell, -⟩
  exact ⟨new, grown, farewell rfl⟩

end Csqtt
