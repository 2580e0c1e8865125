/-
Module: Csqtt.Proofs.QueueResume
Purpose: The packet queue is a bounded first-in first-out queue, call by call; and no packet of
  before a resume is received behind it.
Trusted boundary: none
Main exports: PacketQueue.Refines, PacketQueue.Refines.run, ResumeRun.Sound,
  PacketQueue.fifo_and_fresh
-/
import Csqtt.Engine.QueueRun

namespace Csqtt

namespace PacketQueue

variable {Mark : Type*} {queue : PacketQueue Mark} {fifo : BoundedFifo (Mark × PacketBuf)}

/-!
### One call after the other
-/

/-- The queue holds what the reference holds, all of it from behind the last resume. -/
structure Refines (queue : PacketQueue Mark) (fifo : BoundedFifo (Mark × PacketBuf)) : Prop where
  reachable : queue.receiverOpen = true
  capacity : fifo.capacity = queue.capacity
  active : fifo.active = queue.isActive
  items : fifo.items = queue.items.map (·.packet)
  current : ∀ queued ∈ queue.items, queue.isActive = true ∧ queued.epoch = queue.state >>> 1

theorem refines_packetChannel (capacity : Nat) (active : Bool) :
    Refines (packetChannel capacity active : PacketQueue Mark)
      { capacity := max capacity 1, active := active, items := [] } where
  reachable := rfl
  capacity := rfl
  active := by
    cases active with
    | false => exact (by decide : false = (0#64 &&& queueActive != 0#64))
    | true => exact (by decide : true = (queueActive &&& queueActive != 0#64))
  items := rfl
  current _ mem := absurd mem List.not_mem_nil

theorem Refines.length (refines : Refines queue fifo) : fifo.items.length = queue.queued := by
  rw [refines.items, List.length_map]
  rfl

theorem isActive_suspend (queue : PacketQueue Mark) : queue.suspend.isActive = false := by
  have none : queue.state &&& ~~~queueActive &&& queueActive = 0#64 := by
    rw [BitVec.and_assoc]
    exact BitVec.and_zero
  rw [isActive, suspend, none]
  rfl

theorem and_queueActive_resumed (epoch : U64) :
    (epoch <<< 1 ||| queueActive) &&& queueActive = queueActive := by
  ext index bound
  rw [BitVec.getElem_and, BitVec.getElem_or]
  cases queueActive[index] with
  | false => exact Bool.and_false _
  | true => rw [Bool.or_true, Bool.and_true]

theorem isActive_resume (queue : PacketQueue Mark) : queue.resume.isActive = true := by
  rw [isActive, resume, and_queueActive_resumed]
  rfl

/-- What is queued is current as long as the state stays. -/
theorem Refines.keeps (refines : Refines queue fifo)
    {items : ArrayQueue (QueuedPacket Mark) queue.capacity}
    {kept : List (Mark × PacketBuf)} (same : kept = items.items.map (·.packet))
    (current : ∀ queued ∈ items.items,
      queued ∈ queue.items ∨ queue.isActive = true ∧ queued.epoch = queue.state >>> 1) :
    Refines { queue with queue := items } { fifo with items := kept } where
  reachable := refines.reachable
  capacity := refines.capacity
  active := refines.active
  items := same
  current queued mem := (current queued mem).elim (refines.current queued) id

theorem Refines.trySend (refines : Refines queue fifo) (packet : Mark × PacketBuf) :
    (queue.call (.trySend packet)).2 = (fifo.call (.trySend packet)).2 ∧
      Refines (queue.call (.trySend packet)).1 (fifo.call (.trySend packet)).1 := by
  rw [call, BoundedFifo.call, trySend_eq, refines.length]
  by_cases room : queue.isOpen = true ∧ queue.queued < queue.capacity
  · have active : queue.isActive = true := (Bool.and_eq_true_iff.mp room.1).2
    rw [dif_pos room, if_pos ⟨refines.active.trans active, refines.capacity ▸ room.2⟩]
    refine ⟨rfl, refines.keeps ?_ fun queued mem => ?_⟩
    · rw [List.map_append, refines.items]
      rfl
    · rcases List.mem_append.mp mem with old | new
      · exact Or.inl old
      · rw [List.mem_singleton.mp new]
        exact Or.inr ⟨active, rfl⟩
  · have none : ¬(fifo.active = true ∧ queue.queued < fifo.capacity) := fun both =>
      room ⟨Bool.and_eq_true_iff.mpr ⟨refines.reachable, refines.active.symm.trans both.1⟩,
        refines.capacity ▸ both.2⟩
    rw [dif_neg room, if_neg none]
    exact ⟨rfl, refines⟩

/-- A full queue is one item above its room for another. -/
theorem drop_of_full {Item : Type*} {items : List Item} {capacity : Nat}
    (bounded : items.length ≤ capacity) : items.drop (items.length + 1 - capacity) =
      if items.length < capacity then items else items.tail := by
  by_cases room : items.length < capacity
  · rw [if_pos room, Nat.sub_eq_zero_of_le room]
    rfl
  · rw [if_neg room, Nat.le_antisymm bounded (Nat.le_of_not_lt room), Nat.add_sub_cancel_left]
    exact List.drop_one

theorem Refines.forceSend (refines : Refines queue fifo) (packet : Mark × PacketBuf) :
    (queue.call (.forceSend packet)).2 = (fifo.call (.forceSend packet)).2 ∧
      Refines (queue.call (.forceSend packet)).1 (fifo.call (.forceSend packet)).1 := by
  have isOpen : queue.isOpen = queue.isActive := by
    rw [PacketQueue.isOpen, refines.reachable]
    rfl
  rw [call, BoundedFifo.call, forceSend_eq, isOpen]
  by_cases active : queue.isActive = true
  · rw [if_pos active, if_pos (refines.active.trans active)]
    refine ⟨rfl, refines.keeps ?_ fun queued mem => ?_⟩
    · rw [ArrayQueue.forcePush, List.map_append, drop_of_full queue.queue.bounded,
        apply_ite (List.map _), List.map_tail, refines.length, refines.capacity, refines.items]
      rfl
    · rcases List.mem_append.mp mem with old | new
      · exact Or.inl (List.mem_of_mem_drop old)
      · rw [List.mem_singleton.mp new]
        exact Or.inr ⟨active, rfl⟩
  · rw [if_neg active, if_neg fun same => active (refines.active.symm.trans same)]
    exact ⟨rfl, refines⟩

theorem Refines.tryRecv (refines : Refines queue fifo) :
    (queue.call .tryRecv).2 = (fifo.call .tryRecv).2 ∧
      Refines (queue.call .tryRecv).1 (fifo.call .tryRecv).1 := by
  rw [call, BoundedFifo.call, refines.items]
  cases same : queue.items with
  | nil =>
    rw [tryRecv_of_empty same]
    exact ⟨rfl, refines.keeps (by rw [show queue.queue.items = [] from same]; rfl)
      fun _ mem => Or.inl mem⟩
  | cons first rest =>
    obtain ⟨popped, pops, left⟩ := ArrayQueue.pop_of_cons same
    obtain ⟨active, epoch⟩ := refines.current first (same ▸ List.mem_cons_self)
    rw [tryRecv_of_cons pops, active, epoch, if_pos (by rw [beq_self_eq_true]; rfl)]
    refine ⟨rfl, refines.keeps (by rw [left]; rfl) fun queued mem => Or.inl ?_⟩
    rw [left] at mem
    exact same ▸ List.mem_cons_of_mem _ mem

/-- The step lemma. -/
theorem Refines.call (refines : Refines queue fifo) (made : FifoCall (Mark × PacketBuf)) :
    (queue.call made).2 = (fifo.call made).2 ∧
      Refines (queue.call made).1 (fifo.call made).1 := by
  cases made with
  | trySend packet => exact refines.trySend packet
  | forceSend packet => exact refines.forceSend packet
  | tryRecv => exact refines.tryRecv
  | steal =>
    refine ⟨congrArg FifoOutcome.stolen refines.items.symm, refines.keeps rfl fun _ mem => ?_⟩
    exact absurd mem List.not_mem_nil
  | suspend =>
    exact ⟨rfl, refines.reachable, refines.capacity, (isActive_suspend queue).symm, rfl,
      fun _ mem => absurd mem List.not_mem_nil⟩
  | resume =>
    exact ⟨rfl, refines.reachable, refines.capacity, (isActive_resume queue).symm, rfl,
      fun _ mem => absurd mem List.not_mem_nil⟩

theorem Refines.run (refines : Refines queue fifo) (calls : List (FifoCall (Mark × PacketBuf))) :
    (Transducer.run PacketQueue.call queue calls).2 =
        (Transducer.run BoundedFifo.call fifo calls).2 ∧
      Refines (Transducer.run PacketQueue.call queue calls).1
        (Transducer.run BoundedFifo.call fifo calls).1 := by
  induction calls generalizing queue fifo with
  | nil => exact ⟨rfl, refines⟩
  | cons made calls inductionHypothesis =>
    obtain ⟨outcome, next⟩ := refines.call made
    obtain ⟨outcomes, last⟩ := inductionHypothesis next
    rw [Transducer.run_cons, Transducer.run_cons]
    exact ⟨congrArg₂ List.cons outcome outcomes, last⟩

end PacketQueue

/-!
### A resume beside sends
-/

/-- The state that a resume leaves. -/
def resumedState (old : U64) : U64 := saturatingAdd (old >>> 1) 1#64 <<< 1 ||| queueActive

/-- The states count the resumptions in sixty-three bits: one changes the number. -/
theorem resumedState_epoch_ne (old : U64) : resumedState old >>> 1 ≠ old >>> 1 := by
  rw [resumedState, BitVec.ushiftRight_or_distrib, (by decide : queueActive >>> 1 = 0#64),
    BitVec.or_zero]
  intro same
  have equal := congrArg BitVec.toNat same
  have bound := old.isLt
  simp only [BitVec.toNat_ushiftRight, BitVec.toNat_shiftLeft, toNat_saturatingAdd,
    Nat.shiftLeft_eq, Nat.shiftRight_eq_div_pow, BitVec.toNat_ofNat] at equal
  omega

theorem shiftLeft_and_queueActive (epoch : U64) : epoch <<< 1 &&& queueActive = 0#64 := by
  apply BitVec.eq_of_toNat_eq
  rw [BitVec.toNat_and, BitVec.toNat_shiftLeft, Nat.shiftLeft_eq]
  have odd := Nat.and_one_is_mod (epoch.toNat * 2 ^ 1 % 2 ^ 64)
  change epoch.toNat * 2 ^ 1 % 2 ^ 64 &&& 1 = 0
  omega

namespace QueuePoint

variable {Mark : Type*}

def inSend : QueuePoint Mark → Bool
  | .returned _ => true
  | .sendOpen _ _ => true
  | .sendState _ _ => true
  | .sendPush _ _ => true
  | .sendLength => true
  | .sendNotify => true
  | _ => false

/-- The mark of the packet that a send has yet to queue. -/
def mark : QueuePoint Mark → Option Mark
  | .sendOpen packet _ => some packet.1
  | .sendState packet _ => some packet.1
  | .sendPush queued _ => some queued.packet.1
  | _ => none

def pushing : QueuePoint Mark → Option (QueuedPacket Mark)
  | .sendPush queued _ => some queued
  | _ => none

end QueuePoint

/-- What the receiver has popped and not yet returned. -/
def ReceiverPoint.popped {Mark : Type*} : ReceiverPoint Mark → Option (QueuedPacket Mark)
  | .epoch _ queued => some queued
  | _ => none

namespace SharedQueue

variable {Mark : Type*} {shared : SharedQueue Mark}

theorem mem_of_pop {queue : ArrayQueue (QueuedPacket Mark) shared.capacity}
    {first : QueuedPacket Mark} (popped : shared.queue.pop = some (first, queue)) :
    first ∈ shared.items ∧ queue.items ⊆ shared.items := by
  have items : shared.items = first :: queue.items := ArrayQueue.pop_spec popped
  rw [items]
  exact ⟨List.mem_cons_self, List.subset_cons_self _ _⟩

/-- An operation of a send: a packet that it stamps has the state's epoch, and is queued by a
later operation. -/
structure SendStep (shared : SharedQueue Mark) (point : QueuePoint Mark)
    (after : SharedQueue Mark × QueuePoint Mark) : Prop where
  state : after.1.state = shared.state
  items : ∀ queued ∈ after.1.items, queued ∈ shared.items ∨ point.pushing = some queued
  stamps : ∀ queued, after.2.pushing = some queued → shared.isActive = true ∧
    queued.epoch = shared.state >>> 1 ∧ point.behindState = false ∧
    point.mark = some queued.packet.1
  mark : ∀ mark, after.2.mark = some mark → point.mark = some mark
  inSend : after.2.inSend = true
  behind : point.behindState = true → after.2.behindState = true

/-- An operation that changes nothing and stamps nothing. -/
theorem sendStep_of_still {point next : QueuePoint Mark} {later : SharedQueue Mark}
    (same : later.toPacketQueue = shared.toPacketQueue) (none : next.pushing = none)
    (mark : ∀ mark, next.mark = some mark → point.mark = some mark) (inSend : next.inSend = true)
    (behind : point.behindState = true → next.behindState = true) :
    SendStep shared point (later, next) where
  state := congrArg PacketQueue.state same
  items queued mem := by
    rw [same] at mem
    exact Or.inl mem
  stamps queued stamped := by cases none.symm.trans stamped
  mark := mark
  inSend := inSend
  behind := behind

/-- The same behind the reading of the state, with no packet in hand. -/
theorem sendStep_of_idle {point next : QueuePoint Mark} {later : SharedQueue Mark}
    (same : later.toPacketQueue = shared.toPacketQueue) (empty : next.pushing = none)
    (unmarked : next.mark = none) (inSend : next.inSend = true)
    (behind : next.behindState = true) : SendStep shared point (later, next) := by
  refine sendStep_of_still same empty (fun mark marked => ?_) inSend fun _ => behind
  cases unmarked.symm.trans marked

theorem perform_sendStep {point : QueuePoint Mark} (sends : point.inSend = true) :
    SendStep shared point (shared.perform point) := by
  cases point with
  | returned refused => exact sendStep_of_still rfl rfl (fun _ => id) rfl id
  | sendOpen packet force =>
    rw [perform]
    split
    · exact sendStep_of_still rfl rfl (fun _ => id) rfl id
    · exact sendStep_of_idle rfl rfl rfl rfl rfl
  | sendState packet force =>
    rw [perform]
    split
    next active =>
      refine ⟨rfl, fun _ => Or.inl, fun queued stamped => ?_, fun _ => id, rfl, fun _ => rfl⟩
      cases stamped
      exact ⟨active, rfl, rfl, rfl⟩
    · exact sendStep_of_idle rfl rfl rfl rfl rfl
  | sendPush queued force =>
    rw [perform]
    split
    · refine ⟨rfl, fun other mem => ?_,
        fun _ stamped => absurd stamped.symm (Option.some_ne_none _),
        fun _ marked => absurd marked.symm (Option.some_ne_none _), rfl, fun _ => rfl⟩
      rcases List.mem_append.mp mem with old | new
      · exact Or.inl (List.mem_of_mem_drop old)
      · exact Or.inr (congrArg some (List.mem_singleton.mp new).symm)
    · split
      next pushed =>
        refine ⟨rfl, fun other mem => ?_,
          fun _ stamped => absurd stamped.symm (Option.some_ne_none _),
          fun _ marked => absurd marked.symm (Option.some_ne_none _), rfl, fun _ => rfl⟩
        change other ∈ ArrayQueue.items _ at mem
        rw [ArrayQueue.push_spec pushed] at mem
        rcases List.mem_append.mp mem with old | new
        · exact Or.inl old
        · exact Or.inr (congrArg some (List.mem_singleton.mp new).symm)
      · exact sendStep_of_idle rfl rfl rfl rfl rfl
  | sendLength =>
    rw [perform]
    split
    · exact sendStep_of_idle rfl rfl rfl rfl rfl
    · exact sendStep_of_idle rfl rfl rfl rfl rfl
  | sendNotify => exact sendStep_of_idle rfl rfl rfl rfl rfl
  | stealPop | stolen | cloneCount | dropCount | dropNotify | resumeState | resumeEpoch
  | resumePurge | resumeActive | resumeNotify | suspendState | suspendStore | suspendPurge
  | suspendNotify => cases sends

/-- An operation of a receiver: it returns what it has popped if that is current. -/
structure ReceiveStep (shared : SharedQueue Mark) (point : ReceiverPoint Mark)
    (after : SharedQueue Mark × ReceiverPoint Mark) : Prop where
  state : after.1.state = shared.state
  items : after.1.items ⊆ shared.items
  popped : ∀ queued, after.2.popped = some queued → queued ∈ shared.items
  returns : ∀ queued, point.popped = some queued → ∀ packet, after.2 = .returned (some packet) →
    packet = queued.packet ∧ queued.epoch = shared.state >>> 1

/-- An operation that leaves the queued packets alone. -/
theorem receiveStep_of_still {point next : ReceiverPoint Mark} {later : SharedQueue Mark}
    (state : later.state = shared.state) (items : later.items = shared.items)
    (idle : point.popped = none) (none : next.popped = none) :
    ReceiveStep shared point (later, next) where
  state := state
  items := items ▸ List.Subset.refl _
  popped queued pops := by cases none.symm.trans pops
  returns queued pops := by cases idle.symm.trans pops

theorem receive_receiveStep (cancelled : Bool) (point : ReceiverPoint Mark) :
    ReceiveStep shared point (shared.receive cancelled point) := by
  cases point with
  | pop looking =>
    rw [receive]
    split
    next popped =>
      obtain ⟨first, rest⟩ := mem_of_pop popped
      refine ⟨rfl, rest, fun queued pops => ?_,
        fun _ pops => absurd pops.symm (Option.some_ne_none _)⟩
      cases pops
      exact first
    · cases looking <;> exact receiveStep_of_still rfl rfl rfl rfl
  | epoch looking queued =>
    rw [receive]
    split
    next current =>
      refine ⟨rfl, List.Subset.refl _, fun _ pops => absurd pops.symm (Option.some_ne_none _),
        fun queued pops packet returned => ?_⟩
      cases pops
      cases returned
      exact ⟨rfl, eq_of_beq (Bool.and_eq_true_iff.mp current).2⟩
    · exact ⟨rfl, List.Subset.refl _, fun _ pops => absurd pops.symm (Option.some_ne_none _),
        fun _ _ _ returned => (by cases returned)⟩
  | senders looking =>
    rw [receive]
    split
    · exact receiveStep_of_still rfl rfl rfl rfl
    · cases looking <;> exact receiveStep_of_still rfl rfl rfl rfl
  | claim seen =>
    rw [receive]
    split <;> exact receiveStep_of_still rfl rfl rfl rfl
  | enlist seen =>
    simp only [receive]
    split <;> exact receiveStep_of_still rfl rfl rfl rfl
  | waiting =>
    rw [receive]
    split
    · exact receiveStep_of_still rfl rfl rfl rfl
    · split <;> exact receiveStep_of_still rfl rfl rfl rfl
  | cancelled => cases cancelled <;> exact receiveStep_of_still rfl rfl rfl rfl
  | selectCancelled seen => cases cancelled <;> exact receiveStep_of_still rfl rfl rfl rfl
  | returned | notified | close | closeNotify | dropped =>
    exact receiveStep_of_still rfl rfl rfl rfl

end SharedQueue

namespace ResumeRun

/-- Where the resume stands, and the state that goes with it. -/
def Phase (old state : U64) : QueuePoint (Option Nat) → Prop
  | .resumeState => state = old
  | .resumeEpoch epoch => state = old ∧ epoch = saturatingAdd (old >>> 1) 1#64
  | .resumePurge epoch => epoch = saturatingAdd (old >>> 1) 1#64 ∧ state = epoch <<< 1
  | .resumeActive epoch => epoch = saturatingAdd (old >>> 1) 1#64 ∧ state = epoch <<< 1
  | .resumeNotify => state = resumedState old
  | .returned _ => state = resumedState old
  | _ => False

/-- Queued, or in the hands of a send or of the receiver. -/
def Flies (run : ResumeRun) (queued : QueuedPacket (Option Nat)) : Prop :=
  queued ∈ run.shared.items ∨ (∃ point ∈ run.sends, point.pushing = some queued) ∨
    run.receiver.popped = some queued

/-- Before the resume has ended all packets are of the state before it; behind that, those are
that were queued before, or whose sends are early. -/
structure Sound (old : U64) (early : Nat → Prop) (run : ResumeRun) : Prop where
  marks : ∀ (call : Nat) (point : QueuePoint (Option Nat)), run.sends[call]? = some point →
    ∀ mark ∈ point.mark, mark = some call
  sends : ∀ point ∈ run.sends, point.inSend = true
  phase : Phase old run.shared.state run.resume
  behind : ∀ call, early call → ∃ point, run.sends[call]? = some point ∧ point.behindState = true
  stale : ∀ queued, run.Flies queued →
    (run.resumed = true → ∀ call, queued.packet.1 = some call → early call) →
      queued.epoch = old >>> 1

variable {old : U64} {early : Nat → Prop} {run : ResumeRun}

/-- Only what flies can fly on. -/
theorem Sound.less (sound : Sound old early run) {next : ResumeRun}
    (sends : next.sends = run.sends) (phase : Phase old next.shared.state next.resume)
    (flies : ∀ queued, next.Flies queued → run.Flies queued)
    (resumed : run.resumed = true → next.resumed = true) : Sound old early next where
  marks := by
    rw [sends]
    exact sound.marks
  sends := by
    rw [sends]
    exact sound.sends
  phase := phase
  behind := by
    rw [sends]
    exact sound.behind
  stale queued flying of := sound.stale queued (flies queued flying) fun ended => of (resumed ended)

/-- The operations of the resume leave the packets where they are, or drop them. -/
theorem perform_phase {shared : SharedQueue (Option Nat)} {point : QueuePoint (Option Nat)}
    (phase : Phase old shared.state point) :
    Phase old (shared.perform point).1.state (shared.perform point).2 ∧
      (shared.perform point).1.items ⊆ shared.items := by
  cases point with
  | resumeState => exact ⟨⟨phase, by rw [phase]⟩, List.Subset.refl _⟩
  | resumeEpoch epoch => exact ⟨⟨phase.2, rfl⟩, List.Subset.refl _⟩
  | resumePurge epoch =>
    rw [SharedQueue.perform]
    split
    next popped => exact ⟨phase, (SharedQueue.mem_of_pop popped).2⟩
    · exact ⟨phase, List.Subset.refl _⟩
  | resumeActive epoch =>
    refine ⟨?_, List.Subset.refl _⟩
    rw [phase.1]
    rfl
  | resumeNotify => exact ⟨phase, List.Subset.refl _⟩
  | returned refused => exact ⟨phase, List.Subset.refl _⟩
  | _ => cases phase

/-- Behind its end a resume is not before it again. -/
theorem resumed_perform {shared : SharedQueue (Option Nat)} (ended : run.resumed = true) :
    resumed { run with shared := shared, resume := (run.shared.perform run.resume).2 } = true := by
  rw [resumed] at ended ⊢
  split at ended
  next here => rw [here]; rfl
  next here => rw [here]; rfl
  · cases ended

theorem Sound.resumes (sound : Sound old early run) :
    Sound old early (run.step .resume).1 := by
  obtain ⟨phase, items⟩ := perform_phase sound.phase
  refine sound.less rfl phase (fun queued flying => ?_) resumed_perform
  rcases flying with mem | held
  · exact Or.inl (items mem)
  · exact Or.inr held

/-- Before the end of the resume an active queue has the state from before it. -/
theorem Sound.state_of_active (sound : Sound old early run) (going : run.resumed = false)
    (active : run.shared.isActive = true) : run.shared.state = old := by
  have phase := sound.phase
  have suspended (epoch : U64) (state : run.shared.state = epoch <<< 1) : False := by
    rw [PacketQueue.isActive, state, shiftLeft_and_queueActive] at active
    cases active
  rw [resumed] at going
  cases point : run.resume with
  | resumeState => exact (point ▸ phase : Phase old run.shared.state .resumeState)
  | resumeEpoch epoch => exact (point ▸ phase : Phase old run.shared.state (.resumeEpoch epoch)).1
  | resumePurge epoch =>
    exact (suspended epoch (point ▸ phase : Phase old run.shared.state (.resumePurge epoch)).2).elim
  | resumeActive epoch =>
    exact (suspended epoch
      (point ▸ phase : Phase old run.shared.state (.resumeActive epoch)).2).elim
  | resumeNotify =>
    rw [point] at going
    cases going
  | returned refused =>
    rw [point] at going
    cases going
  | _ =>
    rw [point] at phase
    cases phase

theorem Sound.state_of_resumed (sound : Sound old early run) (ended : run.resumed = true) :
    run.shared.state = resumedState old := by
  have phase := sound.phase
  rw [resumed] at ended
  split at ended
  next here => exact (here ▸ phase : Phase old run.shared.state .resumeNotify)
  next here => exact (here ▸ phase : Phase old run.shared.state (.returned _))
  · cases ended

/-- A send moves on: what it stamps before the end of the resume has the old epoch, and behind it
the send is not early. -/
theorem Sound.runs (sound : Sound old early run) (call : Nat) :
    Sound old early (run.step (.run call)).1 := by
  rw [step]
  split
  · exact sound
  next point here =>
    have mem := List.mem_of_getElem? here
    have moves := run.shared.perform_sendStep (sound.sends point mem)
    refine ⟨fun other now there mark of => ?_, fun now mem => ?_, ?_, fun other its => ?_,
      fun queued flying of => ?_⟩
    · rcases eq_or_ne call other with rfl | differs
      · rw [List.getElem?_set_self (List.getElem?_eq_some_iff.mp here).1] at there
        cases there
        exact sound.marks call point here mark (moves.mark mark of)
      · rw [List.getElem?_set_ne differs] at there
        exact sound.marks other now there mark of
    · rcases List.mem_or_eq_of_mem_set mem with old | rfl
      · exact sound.sends now old
      · exact moves.inSend
    · exact moves.state ▸ sound.phase
    · obtain ⟨now, there, behind⟩ := sound.behind other its
      rcases eq_or_ne call other with rfl | differs
      · cases here.symm.trans there
        exact ⟨_, List.getElem?_set_self (List.getElem?_eq_some_iff.mp here).1,
          moves.behind behind⟩
      · exact ⟨now, (List.getElem?_set_ne differs).trans there, behind⟩
    · have before (flies : run.Flies queued) : queued.epoch = old >>> 1 :=
        sound.stale queued flies of
      rcases flying with queues | ⟨now, among, pushes⟩ | popped
      · rcases moves.items queued queues with old | pushed
        · exact before (Or.inl old)
        · exact before (Or.inr (Or.inl ⟨point, mem, pushed⟩))
      · rcases List.mem_or_eq_of_mem_set among with old | rfl
        · exact before (Or.inr (Or.inl ⟨now, old, pushes⟩))
        · obtain ⟨active, epoch, ahead, mark⟩ := moves.stamps queued pushes
          cases ended : run.resumed with
          | false => rw [epoch, sound.state_of_active ended active]
          | true =>
            have its := of ended call (sound.marks call point here _ mark)
            obtain ⟨now, there, behind⟩ := sound.behind call its
            cases here.symm.trans there
            cases ahead.symm.trans behind
      · exact before (Or.inr (Or.inr popped))

theorem Sound.sent (sound : Sound old early run) (packet : PacketBuf) (force : Bool) :
    Sound old early (run.step (.send packet force)).1 where
  marks call point here mark of := by
    change (run.sends ++ [_])[call]? = some point at here
    rcases Nat.lt_or_ge call run.sends.length with before | new
    · rw [List.getElem?_append_left before] at here
      exact sound.marks call point here mark of
    · rw [List.getElem?_append_right new] at here
      obtain ⟨bound, rfl⟩ := List.getElem?_eq_some_iff.mp here
      rw [List.getElem_singleton] at of
      cases of
      exact congrArg some
        (Nat.le_antisymm new (Nat.sub_eq_zero_iff_le.mp (Nat.lt_one_iff.mp bound)))
  sends point mem := by
    rcases List.mem_append.mp mem with before | new
    · exact sound.sends point before
    · rw [List.mem_singleton.mp new]
      rfl
  phase := sound.phase
  behind call its := by
    obtain ⟨point, there, behind⟩ := sound.behind call its
    have bound := (List.getElem?_eq_some_iff.mp there).1
    exact ⟨point, (List.getElem?_append_left bound).trans there, behind⟩
  stale queued flying of := by
    refine sound.stale queued ?_ of
    rcases flying with mem | ⟨point, mem, pushes⟩ | popped
    · exact Or.inl mem
    · rcases List.mem_append.mp mem with before | new
      · exact Or.inr (Or.inl ⟨point, before, pushes⟩)
      · rw [List.mem_singleton.mp new] at pushes
        cases pushes
    · exact Or.inr (Or.inr popped)

theorem Sound.receives (sound : Sound old early run) :
    Sound old early (run.step .receive).1 := by
  have receives := run.shared.receive_receiveStep false run.receiver
  refine sound.less rfl ?_ (fun queued flying => ?_) id
  · exact receives.state ▸ sound.phase
  · rcases flying with mem | held | popped
    · exact Or.inl (receives.items mem)
    · exact Or.inr (Or.inl held)
    · exact Or.inl (receives.popped queued popped)

/-- The step lemma. -/
theorem Sound.step (sound : Sound old early run) (event : ResumeEvent) :
    Sound old early (run.step event).1 := by
  cases event with
  | send packet force => exact sound.sent packet force
  | run call => exact sound.runs call
  | resume => exact sound.resumes
  | tryRecv =>
    rw [ResumeRun.step]
    split
    · refine sound.less rfl sound.phase (fun queued flying => ?_) id
      rcases flying with mem | held | popped
      · exact Or.inl mem
      · exact Or.inr (Or.inl held)
      · cases popped
    · exact sound
  | receive => exact sound.receives

theorem Sound.along (sound : Sound old early run) (events : List ResumeEvent) :
    Sound old early (Transducer.run ResumeRun.step run events).1 :=
  @Transducer.run_invariant _ _ _ ResumeRun.step (Sound old early)
    (fun _ event sound => Sound.step sound event) run events sound

/-- What is returned behind the resume comes from a send that is not early. -/
theorem Sound.returns (sound : Sound old early run) (ended : run.resumed = true)
    {event : ResumeEvent} {packet : Option Nat × PacketBuf}
    (returned : (run.step event).2 = some packet) :
    ∃ call, packet.1 = some call ∧ ¬ early call := by
  cases event with
  | send packet force => cases returned
  | run call =>
    rw [ResumeRun.step] at returned
    split at returned <;> cases returned
  | resume => cases returned
  | tryRecv =>
    rw [ResumeRun.step] at returned
    split at returned <;> cases returned
  | receive =>
    simp only [ResumeRun.step] at returned
    split at returned
    next looking queued received here there =>
      have popped : run.receiver.popped = some queued := by rw [here]; rfl
      obtain ⟨rfl, epoch⟩ := (run.shared.receive_receiveStep false run.receiver).returns queued
        popped packet (by rw [there, returned])
      by_contra none
      have stale := sound.stale queued (Or.inr (Or.inr popped)) fun _ call of =>
        Classical.byContradiction fun late => none ⟨call, of, late⟩
      rw [sound.state_of_resumed ended] at epoch
      exact resumedState_epoch_ne old (epoch.symm.trans stale)
    · cases returned

/-- Before the end of a resume every packet has the epoch from before it, whichever sends have
read the state. -/
theorem Sound.split (sound : Sound old early run) (going : run.resumed = false) :
    Sound old (fun call => run.hasRead call = true) run where
  marks := sound.marks
  sends := sound.sends
  phase := sound.phase
  behind call read := by
    rw [hasRead] at read
    cases here : run.sends[call]? with
    | none =>
      rw [here] at read
      cases read
    | some point =>
      rw [here] at read
      exact ⟨point, rfl, read⟩
  stale queued flying _ := sound.stale queued flying fun ended => by
    rw [going] at ended
    cases ended

theorem sound_start {queue : PacketQueue (Option Nat)}
    (current : ∀ queued ∈ queue.items, queued.epoch = queue.state >>> 1) :
    Sound queue.state (fun _ => False) (start queue) where
  marks call point here := by cases here
  sends point mem := absurd mem List.not_mem_nil
  phase := rfl
  behind call its := its.elim
  stale queued flying _ := by
    rcases flying with mem | ⟨_, mem, _⟩ | popped
    · exact current queued mem
    · cases mem
    · cases popped

/-- Sends that have read the state before the end of the resume are too late. -/
theorem Sound.fresh (sound : Sound old early run) (later : List ResumeEvent) : run.Fresh later := by
  intro going consumed event _ ended packet returned
  obtain ⟨call, mark, unread⟩ := ((sound.split going).along consumed).returns ended returned
  exact ⟨call, mark, eq_false_of_ne_true unread⟩

end ResumeRun

/-- For all sequences of calls the queue answers as a bounded first-in first-out queue, and holds
what that holds; and beside any sends a resume leaves nothing of before it to be received. -/
theorem PacketQueue.fifo_and_fresh (capacity : Nat) (active : Bool) :
    (∀ (Mark : Type) (calls : List (FifoCall (Mark × PacketBuf))),
      let queue := Transducer.run PacketQueue.call (packetChannel capacity active) calls
      let fifo := Transducer.run BoundedFifo.call
        { capacity := max capacity 1, active := active, items := [] } calls
      queue.2 = fifo.2 ∧ queue.1.items.map (·.packet) = fifo.1.items) ∧
    ∀ (history : List (FifoCall PacketBuf)) (before later : List ResumeEvent),
      let queue := Transducer.run PacketQueue.call (packetChannel capacity active)
        (history.map (FifoCall.map fun packet => (none, packet)))
      (Transducer.run ResumeRun.step (ResumeRun.start queue.1) before).1.Fresh later := by
  constructor
  · intro Mark calls
    obtain ⟨outcomes, refines⟩ := (refines_packetChannel capacity active).run calls
    exact ⟨outcomes, refines.items.symm⟩
  · intro history before later queue
    have refines := ((refines_packetChannel capacity active).run
      (history.map (FifoCall.map fun packet => ((none : Option Nat), packet)))).2
    have started := ResumeRun.sound_start fun queued mem => (refines.current queued mem).2
    exact (started.along before).fresh later

end Csqtt
