/-
Module: Csqtt.Proofs.ChunkStability
Purpose: When the tickets of a chunk all name the worker incarnation that its first
  one names, in the list that was registered when the chunk began.
Trusted boundary: none
Main exports: ChunkStable, ChunksHold, Undisturbed, Aligned, chunks_hold_iff,
  bulk_refresh_moves_a_small_chunk
-/
import Csqtt.Proofs.DispatchRun

namespace Csqtt

/-- The worker incarnation that a ticket names. -/
def Issued.incarnation (self : Issued) : Option (Nat × U64) :=
  self.workers[self.ticket.startSlot]?.map fun worker => (worker.id, worker.incarnationId)

def ticketsOf (ofClass : PacketClass) (issued : List Issued) : List Issued :=
  issued.filter (·.ticket.ofClass = ofClass)

/-- A ticket of a chunk is read from the list registered when the chunk's first one
was given, and names the incarnation that the first one names. -/
structure Issued.Follows (first given : Issued) : Prop where
  listed : given.workers = first.registered
  named : given.incarnation ≠ none
  same : given.incarnation = first.incarnation

/-- Where the chunk of a class's ticket begins: every `streamChunk` tickets. -/
def chunkStart (ofClass : PacketClass) (index : Nat) : Nat :=
  index - index % ofClass.streamChunk

/-- Every ticket follows the first of its chunk. -/
def ChunkStable (issued : List Issued) : Prop :=
  ∀ ofClass index first given, (ticketsOf ofClass issued)[index]? = some given →
    (ticketsOf ofClass issued)[chunkStart ofClass index]? = some first → first.Follows given

theorem ticketsOf_concat (ofClass : PacketClass) (issued : List Issued) (given : Issued) :
    ticketsOf ofClass (issued ++ [given]) =
      if given.ticket.ofClass = ofClass then ticketsOf ofClass issued ++ [given]
      else ticketsOf ofClass issued := by
  by_cases own : given.ticket.ofClass = ofClass
  · simp [ticketsOf, own]
  · simp [ticketsOf, own]

theorem ticketsOf_own (issued : List Issued) (given : Issued) :
    ticketsOf given.ticket.ofClass (issued ++ [given]) =
      ticketsOf given.ticket.ofClass issued ++ [given] := by
  rw [ticketsOf_concat, if_pos rfl]

theorem chunkStart_le (ofClass : PacketClass) (index : Nat) : chunkStart ofClass index ≤ index :=
  Nat.sub_le _ _

/-- One more ticket keeps the chunks stable exactly if it follows the first of its chunk. -/
theorem chunkStable_concat {issued : List Issued} {given : Issued} (stable : ChunkStable issued) :
    ChunkStable (issued ++ [given]) ↔
      ∀ first, (ticketsOf given.ticket.ofClass issued ++ [given])[chunkStart given.ticket.ofClass
        (ticketsOf given.ticket.ofClass issued).length]? = some first → first.Follows given := by
  constructor
  · intro all first begun
    apply all given.ticket.ofClass (ticketsOf given.ticket.ofClass issued).length first given
    · rw [ticketsOf_own, List.getElem?_concat_length]
    · rw [ticketsOf_own]
      exact begun
  · intro last ofClass index first other found begun
    have order := chunkStart_le ofClass index
    rw [ticketsOf_concat] at found begun
    by_cases own : given.ticket.ofClass = ofClass
    · subst own
      rw [if_pos rfl] at found begun
      by_cases before : index < (ticketsOf given.ticket.ofClass issued).length
      · rw [List.getElem?_append_left before] at found
        rw [List.getElem?_append_left (by omega)] at begun
        exact stable _ index first other found begun
      · have inside := (List.getElem?_eq_some_iff.mp found).1
        rw [List.length_append, List.length_singleton] at inside
        have lastIndex : index = (ticketsOf given.ticket.ofClass issued).length := by omega
        subst lastIndex
        rw [List.getElem?_concat_length] at found
        cases found
        exact last first begun
    · rw [if_neg own] at found begun
      exact stable ofClass index first other found begun

namespace Dispatching

/-!
### The property and its condition
-/

/-- Whatever packet comes next, its ticket follows the first one of its chunk; and a
packet is refused only between two chunks of its class. -/
def ChunksHold (self : Dispatching) : Prop :=
  ∀ packet storage,
    ChunkStable (step self (.dispatch packet storage)).1.issued ∧
      ((step self (.dispatch packet storage)).2 = none →
        (ticketsOf (packetClass packet.asSlice) self.issued).length %
          (packetClass packet.asSlice).streamChunk = 0)

/-- A packet that begins a chunk meets the list the scheduler has already, or no class
in the middle of a chunk. -/
def Undisturbed (self : Dispatching) : DispatchEvent → Prop
  | .dispatch packet _ =>
      (self.dispatcher.scheduler.cursors (packetClass packet.asSlice)).remaining = 0 →
        self.dispatcher.workers = self.dispatcher.scheduler.workers ∨
          ∀ other, (self.dispatcher.scheduler.cursors other).remaining = 0
  | _ => True

/-- The cursor of a class agrees with its tickets: between two chunks nothing is left
of the last one; in a chunk the rest is left, in the list and at the slot of its first. -/
structure Agrees (scheduler : FastPathScheduler) (ofClass : PacketClass)
    (tickets : List Issued) : Prop where
  between : tickets.length % ofClass.streamChunk = 0 → (scheduler.cursors ofClass).remaining = 0
  rest : tickets.length % ofClass.streamChunk ≠ 0 →
    (scheduler.cursors ofClass).remaining + tickets.length % ofClass.streamChunk =
      ofClass.streamChunk
  first : tickets.length % ofClass.streamChunk ≠ 0 →
    ∃ first, tickets[chunkStart ofClass tickets.length]? = some first ∧
      first.registered = scheduler.workers ∧ first.workers = scheduler.workers ∧
      first.ticket.startSlot = (scheduler.cursors ofClass).currentWorker ∧
      first.incarnation ≠ none

/-- The chunks are stable so far, and every cursor agrees with the tickets of its class. -/
structure Aligned (state : Dispatching) : Prop where
  stable : ChunkStable state.issued
  agrees : ∀ ofClass, Agrees state.dispatcher.scheduler ofClass (ticketsOf ofClass state.issued)

variable {scheduler : FastPathScheduler} {source : List WorkerChannels} {packet : List U8}
  {ofClass : PacketClass} {tickets : List Issued} {ticket : DispatchTicket}

/-!
### One ticket
-/

/-- A chunk that is not at its boundary has packets left, and then nothing is loaded. -/
theorem Agrees.open (agrees : Agrees scheduler ofClass tickets)
    (inside : tickets.length % ofClass.streamChunk ≠ 0) :
    (scheduler.cursors ofClass).remaining ≠ 0 := by
  have rest := agrees.rest inside
  have short := Nat.mod_lt tickets.length ofClass.streamChunk_pos
  omega

theorem Agrees.of_done (agrees : Agrees scheduler ofClass tickets)
    (done : (scheduler.cursors ofClass).remaining = 0) :
    tickets.length % ofClass.streamChunk = 0 := by
  by_contra inside
  exact agrees.open inside done

/-- Between two chunks a cursor with nothing left is all there is to say. -/
theorem agrees_between (between : tickets.length % ofClass.streamChunk = 0)
    (done : (scheduler.cursors ofClass).remaining = 0) : Agrees scheduler ofClass tickets where
  between := fun _ => done
  rest := fun inside => absurd between inside
  first := fun inside => absurd between inside

/-- The first ticket of the chunk that the next ticket of a class belongs to. -/
theorem chunkStart_between (between : tickets.length % ofClass.streamChunk = 0) (given : Issued) :
    (tickets ++ [given])[chunkStart ofClass tickets.length]? = some given := by
  rw [chunkStart, between, Nat.sub_zero, List.getElem?_concat_length]

theorem chunkStart_inside (inside : tickets.length % ofClass.streamChunk ≠ 0) (given : Issued) :
    (tickets ++ [given])[chunkStart ofClass tickets.length]? =
      tickets[chunkStart ofClass tickets.length]? := by
  have within := Nat.mod_le tickets.length ofClass.streamChunk
  apply List.getElem?_append_left
  rw [chunkStart]
  omega

/-- The record of a ticket that the scheduler gives. -/
def issue (scheduler : FastPathScheduler) (source : List WorkerChannels) (packet : List U8)
    (ticket : DispatchTicket) : Issued where
  ticket := ticket
  workers := (scheduler.begin source packet).1.workers
  registered := source

theorem issue_named (sound : scheduler.Sound)
    (given : (scheduler.begin source packet).2 = some ticket) :
    (issue scheduler source packet ticket).incarnation ≠ none := by
  have inside := (FastPathScheduler.begin_ticket sound given).2.2
  simp only [Issued.incarnation, issue, List.getElem?_eq_getElem inside, Option.map_some]
  exact Option.some_ne_none _

/-- A ticket follows the first of its chunk, when the cursor agrees with the tickets. -/
theorem issue_follows (sound : scheduler.Sound)
    (agrees : Agrees scheduler (packetClass packet) tickets)
    (given : (scheduler.begin source packet).2 = some ticket) (first : Issued)
    (begun : (tickets ++ [issue scheduler source packet ticket])[chunkStart (packetClass packet)
      tickets.length]? = some first) :
    first.Follows (issue scheduler source packet ticket) := by
  have named := issue_named sound given
  have slot := (FastPathScheduler.begin_ticket sound given).2.1
  have listed := FastPathScheduler.begin_workers scheduler source packet
  by_cases inside : tickets.length % (packetClass packet).streamChunk = 0
  · rw [chunkStart_between inside] at begun
    cases begun
    rw [FastPathScheduler.reloaded_workers (agrees.between inside)] at listed
    exact { listed := listed, named := named, same := rfl }
  · rw [chunkStart_inside inside] at begun
    obtain ⟨known, found, registered, workers, startSlot, _⟩ := agrees.first inside
    rw [begun] at found
    cases found
    rw [FastPathScheduler.reloaded_of_open (agrees.open inside)] at slot listed
    exact
      { listed := listed.trans registered.symm
        named := named
        same := by rw [Issued.incarnation, Issued.incarnation, issue, listed, slot, workers,
          startSlot] }

/-- The chunk a new ticket belongs to: what is left of it, and its first ticket. -/
theorem own_chunk (sound : scheduler.Sound)
    (agrees : Agrees scheduler (packetClass packet) tickets)
    (given : (scheduler.begin source packet).2 = some ticket) :
    let cursor := (scheduler.reloaded source (packetClass packet)).cursors (packetClass packet)
    let after := (scheduler.begin source packet).1
    FastPathScheduler.RoundRobinCursor.left cursor (packetClass packet) +
        tickets.length % (packetClass packet).streamChunk = (packetClass packet).streamChunk ∧
      ∃ first, (tickets ++ [issue scheduler source packet ticket])[chunkStart (packetClass packet)
          tickets.length]? = some first ∧
        first.registered = after.workers ∧ first.workers = after.workers ∧
        first.ticket.startSlot = cursor.currentWorker ∧ first.incarnation ≠ none := by
  have named := issue_named sound given
  have slot := (FastPathScheduler.begin_ticket sound given).2.1
  have listed := FastPathScheduler.begin_workers scheduler source packet
  by_cases inside : tickets.length % (packetClass packet).streamChunk = 0
  · have done := agrees.between inside
    rw [FastPathScheduler.reloaded_workers done] at listed
    constructor
    · rw [inside, FastPathScheduler.RoundRobinCursor.left,
        if_pos (FastPathScheduler.reloaded_done done), Nat.add_zero]
    · exact ⟨_, chunkStart_between inside _, listed.symm, rfl, slot, named⟩
  · have rest := agrees.open inside
    obtain ⟨first, found, registered, workers, startSlot, known⟩ := agrees.first inside
    rw [FastPathScheduler.reloaded_of_open rest] at listed ⊢
    constructor
    · rw [FastPathScheduler.RoundRobinCursor.left, if_neg rest]
      exact agrees.rest inside
    · rw [chunkStart_inside inside]
      exact ⟨first, found, registered.trans listed.symm, workers.trans listed.symm, startSlot,
        known⟩

/-- The cursor of a ticket's class agrees with the tickets, the new one included. -/
theorem agrees_own (sound : scheduler.Sound)
    (agrees : Agrees scheduler (packetClass packet) tickets)
    (given : (scheduler.begin source packet).2 = some ticket) :
    Agrees (scheduler.begin source packet).1 (packetClass packet)
      (tickets ++ [issue scheduler source packet ticket]) := by
  have moved := FastPathScheduler.begin_cursor given
  obtain ⟨left, first, begun, registered, workers, startSlot, named⟩ :=
    own_chunk sound agrees given
  have within := Nat.mod_le tickets.length (packetClass packet).streamChunk
  by_cases last : tickets.length % (packetClass packet).streamChunk + 1 =
      (packetClass packet).streamChunk
  · apply agrees_between
    · rw [List.length_append, List.length_singleton, ← Nat.mod_add_mod, last, Nat.mod_self]
    · rw [moved.1]
      omega
  · have short := Nat.mod_lt tickets.length (packetClass packet).streamChunk_pos
    have next : (tickets ++ [issue scheduler source packet ticket]).length %
        (packetClass packet).streamChunk =
          tickets.length % (packetClass packet).streamChunk + 1 := by
      rw [List.length_append, List.length_singleton, ← Nat.mod_add_mod]
      exact Nat.mod_eq_of_lt (by omega)
    have same : chunkStart (packetClass packet)
        (tickets ++ [issue scheduler source packet ticket]).length =
          chunkStart (packetClass packet) tickets.length := by
      rw [chunkStart, next, chunkStart, List.length_append, List.length_singleton]
      omega
    exact
      { between := fun between => by omega
        rest := fun _ => by omega
        first := fun _ => ⟨first, same ▸ begun, registered, workers,
          startSlot.trans (moved.2 (by omega)).symm, named⟩ }

/-- The cursors of the other classes agree with their tickets, unless a list is loaded
that changed in the middle of a chunk. -/
theorem agrees_other {other : PacketClass} (sound : scheduler.Sound)
    (agrees : Agrees scheduler other tickets) (apart : other ≠ packetClass packet)
    (undisturbed : (scheduler.cursors (packetClass packet)).remaining = 0 →
      source = scheduler.workers ∨ (scheduler.cursors other).remaining = 0) :
    Agrees (scheduler.begin source packet).1 other tickets := by
  have cursor : (scheduler.begin source packet).1.cursors other = _ :=
    FastPathScheduler.begin_cursors apart
  have listed := FastPathScheduler.begin_workers scheduler source packet
  by_cases done : (scheduler.cursors other).remaining = 0
  · apply agrees_between (agrees.of_done done)
    rw [cursor]
    exact FastPathScheduler.reloaded_done done
  · have kept : scheduler.reloaded source (packetClass packet) = scheduler := by
      by_cases boundary : (scheduler.cursors (packetClass packet)).remaining = 0
      · rcases undisturbed boundary with same | between
        · exact FastPathScheduler.reloaded_of_same sound same
        · exact absurd between done
      · exact FastPathScheduler.reloaded_of_open boundary
    rw [kept] at cursor listed
    exact
      { between := fun between => cursor ▸ agrees.between between
        rest := fun inside => cursor ▸ agrees.rest inside
        first := fun inside => cursor ▸ listed ▸ agrees.first inside }

/-- A packet is refused only between two chunks of its class. -/
theorem refused_between (sound : scheduler.Sound)
    (agrees : Agrees scheduler (packetClass packet) tickets)
    (refused : (scheduler.begin source packet).2 = none) :
    tickets.length % (packetClass packet).streamChunk = 0 := by
  by_contra inside
  obtain ⟨first, _, _, workers, _, named⟩ := agrees.first inside
  have empty := (FastPathScheduler.begin_refused sound).mp refused
  rw [FastPathScheduler.reloaded_of_open (agrees.open inside)] at empty
  rw [Issued.incarnation, workers, empty] at named
  exact named rfl

/-!
### One step
-/

variable {self : Dispatching} {buffer : PacketBuf} {storage : Option Storage}

theorem issued_given (given : (self.answered buffer).2 = some ticket) :
    (step self (.dispatch buffer storage)).1.issued =
      self.issued ++
        [issue self.dispatcher.scheduler self.dispatcher.workers buffer.asSlice ticket] := by
  rw [(step_dispatch self buffer storage).2.2.2, given]
  rfl

theorem issued_refused (refused : (self.answered buffer).2 = none) :
    (step self (.dispatch buffer storage)).1.issued = self.issued := by
  rw [(step_dispatch self buffer storage).2.2.2, refused]
  exact List.append_nil _

/-- Where the cursors agree with the tickets, the chunks hold whatever comes next. -/
theorem chunksHold_of_aligned (aligned : self.Aligned) (sound : self.dispatcher.scheduler.Sound) :
    self.ChunksHold := by
  intro packet storage
  have agrees := aligned.agrees (packetClass packet.asSlice)
  rw [(step_dispatch self packet storage).2.2.1]
  constructor
  · cases answer : (self.answered packet).2 with
    | none =>
        rw [issued_refused answer]
        exact aligned.stable
    | some ticket =>
        rw [issued_given answer]
        apply (chunkStable_concat aligned.stable).mpr
        have own := (FastPathScheduler.begin_ticket sound answer).1
        rw [issue, own]
        exact issue_follows sound agrees answer
  · exact refused_between sound agrees

theorem aligned_step (aligned : self.Aligned) (sound : self.dispatcher.scheduler.Sound)
    (event : DispatchEvent) (undisturbed : self.Undisturbed event) :
    (step self event).1.Aligned := by
  rcases event.dispatch_or_other with ⟨packet, storage, rfl⟩ | other
  · have stable := (chunksHold_of_aligned aligned sound packet storage).1
    refine { stable := stable, agrees := fun ofClass => ?_ }
    have agrees := aligned.agrees ofClass
    have apart (other : ofClass ≠ packetClass packet.asSlice) :=
      agrees_other sound agrees other fun boundary =>
        (undisturbed boundary).imp_right fun between => between ofClass
    rw [(step_dispatch self packet storage).2.1]
    cases answer : (self.answered packet).2 with
    | none =>
        rw [issued_refused answer]
        by_cases own : ofClass = packetClass packet.asSlice
        · subst own
          have between := refused_between sound agrees answer
          apply agrees_between between
          rw [answered, FastPathScheduler.begin_of_refused answer]
          exact FastPathScheduler.reloaded_done (agrees.between between)
        · exact apart own
    | some ticket =>
        rw [issued_given answer, ticketsOf_concat]
        have owner := (FastPathScheduler.begin_ticket sound answer).1
        rw [issue, owner]
        by_cases own : ofClass = packetClass packet.asSlice
        · subst own
          rw [if_pos rfl]
          exact agrees_own sound agrees answer
        · rw [if_neg (Ne.symm own)]
          exact apart own
  · obtain ⟨scheduler, issued⟩ := step_scheduler self event other
    exact
      { stable := issued ▸ aligned.stable
        agrees := fun ofClass => by
          rw [scheduler, issued]
          exact aligned.agrees ofClass }

/-- A list that changed and is loaded in the middle of another class's chunk breaks
that chunk: its next packet is served from the new list, or refused. -/
theorem chunks_broken (aligned : self.Aligned) (sound : self.dispatcher.scheduler.Sound)
    {other : PacketClass}
    (boundary :
      (self.dispatcher.scheduler.cursors (packetClass buffer.asSlice)).remaining = 0)
    (changed : self.dispatcher.workers ≠ self.dispatcher.scheduler.workers)
    (rest : (self.dispatcher.scheduler.cursors other).remaining ≠ 0) :
    ¬ (step self (.dispatch buffer storage)).1.ChunksHold := by
  intro holds
  obtain ⟨packet, rfl⟩ := exists_packet other
  have agrees := aligned.agrees (packetClass packet.asSlice)
  have inside := mt agrees.between rest
  obtain ⟨first, begun, registered, _⟩ := agrees.first inside
  have spec := step_dispatch self buffer storage
  -- The new list is loaded, so nothing is loaded for the next packet.
  have listed : (step self (.dispatch buffer storage)).1.dispatcher.scheduler.workers =
      self.dispatcher.workers := by
    rw [spec.2.1, answered, FastPathScheduler.begin_workers,
      FastPathScheduler.reloaded_workers boundary]
  have apart : packetClass buffer.asSlice ≠ packetClass packet.asSlice := by
    intro same
    exact rest (same ▸ boundary)
  have tickets : ticketsOf (packetClass packet.asSlice)
      (step self (.dispatch buffer storage)).1.issued =
        ticketsOf (packetClass packet.asSlice) self.issued := by
    cases answer : (self.answered buffer).2 with
    | none => rw [issued_refused answer]
    | some ticket =>
        rw [issued_given answer, ticketsOf_concat]
        apply if_neg
        rw [issue, (FastPathScheduler.begin_ticket sound answer).1]
        exact apart
  obtain ⟨stable, refused⟩ := holds packet storage
  have soundAfter := sound_step sound (.dispatch buffer storage)
  cases answer : ((step self (.dispatch buffer storage)).1.answered packet).2 with
  | none =>
      rw [tickets, (step_dispatch _ packet storage).2.2.1] at refused
      exact inside (refused answer)
  | some ticket =>
      have own := (FastPathScheduler.begin_ticket soundAfter answer).1
      rw [issued_given answer] at stable
      have follows := stable (packetClass packet.asSlice)
        (ticketsOf (packetClass packet.asSlice) self.issued).length first _
        (by rw [ticketsOf_concat, issue, if_pos own, tickets, List.getElem?_concat_length])
        (by rw [ticketsOf_concat, issue, if_pos own, tickets, chunkStart_inside inside, begun])
      have served : ((step self (.dispatch buffer storage)).1.answered packet).1.workers =
          first.registered := follows.listed
      rw [answered, FastPathScheduler.begin_workers,
        FastPathScheduler.reloaded_of_same soundAfter (spec.1.trans listed.symm), listed,
        registered] at served
      exact changed served

/-- As long as the chunks hold, the cursors agree with the tickets. -/
structure Tracked (state : Dispatching) : Prop where
  sound : state.dispatcher.scheduler.Sound
  aligned : state.ChunksHold → state.Aligned

theorem aligned_start (channels : PacketSender → Nat × Bool) : (start channels).Aligned where
  stable := fun _ _ _ _ found _ => absurd found (by simp [ticketsOf, start])
  agrees := fun _ => agrees_between (Nat.zero_mod _) rfl

theorem tracked_start (channels : PacketSender → Nat × Bool) : (start channels).Tracked where
  sound := FastPathScheduler.sound_new
  aligned := fun _ => aligned_start channels

/-- The chunks hold after a step exactly if the step meets the condition. -/
theorem chunksHold_step (aligned : self.Aligned) (sound : self.dispatcher.scheduler.Sound)
    (event : DispatchEvent) :
    (step self event).1.ChunksHold ↔ self.Undisturbed event := by
  constructor
  · intro holds
    rcases event.dispatch_or_other with ⟨packet, storage, rfl⟩ | other
    · intro boundary
      by_contra disturbed
      push Not at disturbed
      obtain ⟨changed, ofClass, rest⟩ := disturbed
      exact chunks_broken aligned sound boundary changed rest holds
    · cases event with
      | dispatch packet storage => exact absurd rfl (other packet storage)
      | _ => exact trivial
  · intro undisturbed
    exact chunksHold_of_aligned (aligned_step aligned sound event undisturbed)
      (sound_step sound event)

theorem tracked_step (tracked : self.Tracked) (holds : self.ChunksHold) (event : DispatchEvent) :
    (step self event).1.Tracked where
  sound := sound_step tracked.sound event
  aligned := fun held =>
    have aligned := tracked.aligned holds
    aligned_step aligned tracked.sound event
      ((chunksHold_step aligned tracked.sound event).mp held)

/-- The chunks hold throughout a run exactly if, whenever a packet begins a chunk, the
list is the one the scheduler has, or no class is in the middle of a chunk. -/
theorem chunks_hold_iff (channels : PacketSender → Nat × Bool) (events : List DispatchEvent) :
    Transducer.Throughout step (start channels) events ChunksHold ↔
      Transducer.AtEveryStep step (start channels) events Undisturbed := by
  have tracked := tracked_start channels
  have holds := chunksHold_of_aligned (aligned_start channels) tracked.sound
  have kept (state : Dispatching) (event : DispatchEvent) (tracked : state.Tracked)
      (holds : state.ChunksHold) : (step state event).1.Tracked :=
    tracked_step tracked holds event
  apply Transducer.throughout_iff_atEveryStep step tracked holds kept
  intro state event tracked holds
  exact chunksHold_step (tracked.aligned holds) tracked.sound event

/-!
### A refresh in the middle of a chunk
-/

theorem incarnations_of_stable {issued : List Issued} (stable : ChunkStable issued)
    (ofClass : PacketClass) {index : Nat}
    (inside : index < (ticketsOf ofClass issued).length) :
    (ticketsOf ofClass issued)[index]?.map Issued.incarnation =
      (ticketsOf ofClass issued)[chunkStart ofClass index]?.map Issued.incarnation := by
  have begun := Nat.lt_of_le_of_lt (chunkStart_le ofClass index) inside
  have follows := stable ofClass index _ _ (List.getElem?_eq_getElem inside)
    (List.getElem?_eq_getElem begun)
  rw [List.getElem?_eq_getElem inside, List.getElem?_eq_getElem begun, Option.map_some,
    Option.map_some, follows.same]

/-- A worker is replaced after the first packet of a small chunk. The second packet
of that chunk names the new incarnation, because a bulk packet came in between. -/
theorem bulk_refresh_moves_a_small_chunk :
    ¬ ChunkStable (Transducer.run step (start fun _ => (16, true))
      [.register firstIncarnation, .dispatch smallPacket none, .register secondIncarnation,
        .dispatch bulkPacket none, .dispatch smallPacket none]).1.issued := by
  intro stable
  have same := incarnations_of_stable stable .small (show 1 < _ by decide +kernel)
  revert same
  decide +kernel

end Dispatching

end Csqtt
