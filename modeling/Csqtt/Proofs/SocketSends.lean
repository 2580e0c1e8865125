/-
Module: Csqtt.Proofs.SocketSends
Purpose: What becomes of datagrams that a writer hands on: they are taken in their order and
  once each, up to the first that is refused.
Trusted boundary: none
Main exports: flatten_chunks, Puts, SameState, Fares, Sends, sendEach_sends,
  sendDatagrams_sends
-/
import Csqtt.Engine.WriterFlush

namespace Csqtt

/-!
### Chunks
-/

private theorem flatten_range_chunks {Item : Type*} (size count : Nat) (items : List Item) :
    ((List.range count).map fun index => (items.drop (index * size)).take size).flatten =
      items.take (count * size) := by
  induction count with
  | zero => simp
  | succ count inductionHypothesis =>
      rw [List.range_succ, List.map_append, List.flatten_append, inductionHypothesis,
        Nat.succ_mul, List.take_add]
      simp

/-- The chunks of a batch are the batch. -/
theorem flatten_chunks {Item : Type*} {size : Nat} (positive : 0 < size) (items : List Item) :
    (chunks size items).flatten = items := by
  rw [chunks, flatten_range_chunks]
  apply List.take_of_length_le
  have whole := Nat.div_add_mod (items.length + size - 1) size
  have less := Nat.mod_lt (items.length + size - 1) positive
  rw [Nat.mul_comm] at whole
  omega

/-!
### What is offered
-/

section Offered

variable {Rng : Type*} {network : Network} {start middle after : SocketWriter Rng}
  {tries first second : List (List U8 × Bool)} {datagram : List U8}
  {datagrams others : List (List U8)} {taken : Bool}

/-- A writer has offered some more datagrams, and those that were taken are sent. A try has
failed where one was not taken. -/
structure Puts (network : Network) (start after : SocketWriter Rng)
    (tries : List (List U8 × Bool)) : Prop where
  offered : after.offered = start.offered ++ tries
  sent : after.sent = start.sent ++ (tries.filter (·.2)).map (·.1)
  later : start.attempts ≤ after.attempts
  refused : ∀ entry ∈ tries, entry.2 = false →
    ∃ attempt, start.attempts ≤ attempt ∧ attempt < after.attempts ∧
      network.answers attempt = .failed

theorem Puts.refl (start : SocketWriter Rng) : Puts network start start [] where
  offered := (List.append_nil _).symm
  sent := (List.append_nil _).symm
  later := Nat.le_refl _
  refused := by
    intro entry inside
    cases inside

theorem Puts.trans (one : Puts network start middle first)
    (other : Puts network middle after second) : Puts network start after (first ++ second) where
  offered := by rw [other.offered, one.offered, List.append_assoc]
  sent := by
    rw [other.sent, one.sent, List.filter_append, List.map_append, List.append_assoc]
  later := Nat.le_trans one.later other.later
  refused := by
    intro entry inside lost
    rcases List.mem_append.mp inside with early | late
    · obtain ⟨attempt, from_, until_, failed⟩ := one.refused entry early lost
      exact ⟨attempt, from_, Nat.lt_of_lt_of_le until_ other.later, failed⟩
    · obtain ⟨attempt, from_, until_, failed⟩ := other.refused entry late lost
      exact ⟨attempt, Nat.le_trans one.later from_, until_, failed⟩

/-- What offering datagrams leaves alone. -/
structure SameState (start after : SocketWriter Rng) : Prop where
  writeState : after.writeState = start.writeState
  fecBudget : after.fecBudget = start.fecBudget
  mmsgData : after.mmsgData = start.mmsgData

theorem SameState.refl (start : SocketWriter Rng) : SameState start start := ⟨rfl, rfl, rfl⟩

theorem SameState.trans (one : SameState start middle) (other : SameState middle after) :
    SameState start after where
  writeState := other.writeState.trans one.writeState
  fecBudget := other.fecBudget.trans one.fecBudget
  mmsgData := other.mmsgData.trans one.mmsgData

/-- How some datagrams fare: all of them are taken, or one is refused and those behind it are not
offered any more. -/
inductive Fares : List (List U8) → Bool → List (List U8 × Bool) → Prop where
  | whole (datagrams : List (List U8)) : Fares datagrams true (datagrams.map (·, true))
  | part (before : List (List U8)) (datagram : List U8) (behind : List (List U8)) :
      Fares (before ++ datagram :: behind) false (before.map (·, true) ++ [(datagram, false)])

theorem Fares.append (one : Fares datagrams true first) (other : Fares others taken second) :
    Fares (datagrams ++ others) taken (first ++ second) := by
  cases one with
  | whole =>
      cases other with
      | whole =>
          rw [← List.map_append]
          exact .whole _
      | part before datagram behind =>
          rw [← List.append_assoc, ← List.append_assoc, ← List.map_append]
          exact .part (datagrams ++ before) datagram behind

theorem Fares.left (one : Fares datagrams false first) :
    Fares (datagrams ++ others) false first := by
  cases one with
  | part before datagram behind =>
      rw [List.append_assoc]
      exact .part before datagram (behind ++ others)

theorem Fares.single (one : Fares [datagram] taken tries) : tries = [(datagram, taken)] := by
  generalize only : [datagram] = datagrams at one
  cases one with
  | whole =>
      rw [← only]
      rfl
  | part before refused behind =>
      obtain ⟨rfl, last⟩ | ⟨_, impossible⟩ := List.append_eq_singleton_iff.mp only.symm
      · cases last
        rfl
      · cases impossible

/-- What offering some datagrams comes to. -/
def Sends (network : Network) (start : SocketWriter Rng) (datagrams : List (List U8))
    (result : SocketWriter Rng × Bool) : Prop :=
  ∃ tries, Fares datagrams result.2 tries ∧ Puts network start result.1 tries ∧
    SameState start result.1

theorem Sends.refl (start : SocketWriter Rng) : Sends network start [] (start, true) :=
  ⟨[], .whole [], .refl start, .refl start⟩

theorem Sends.then {result : SocketWriter Rng × Bool}
    (one : Sends network start datagrams (middle, true))
    (other : Sends network middle others result) :
    Sends network start (datagrams ++ others) result := by
  obtain ⟨first, fares, puts, same⟩ := one
  obtain ⟨second, faresToo, putsToo, sameToo⟩ := other
  exact ⟨first ++ second, fares.append faresToo, puts.trans putsToo, same.trans sameToo⟩

theorem Sends.fails (one : Sends network start datagrams (middle, false)) :
    Sends network start (datagrams ++ others) (middle, false) := by
  obtain ⟨first, fares, puts, same⟩ := one
  exact ⟨first, fares.left, puts, same⟩

namespace SocketWriter

theorem offer_same (start : SocketWriter Rng) (datagram : List U8) (taken : Bool) :
    SameState start (start.offer datagram taken) := ⟨rfl, rfl, rfl⟩

theorem tried_offer_same (start : SocketWriter Rng) (datagram : List U8) (taken : Bool) :
    SameState start (start.tried.offer datagram taken) := ⟨rfl, rfl, rfl⟩

theorem offer_puts (start : SocketWriter Rng) (datagram : List U8) :
    Puts network start (start.offer datagram true) [(datagram, true)] where
  offered := rfl
  sent := rfl
  later := Nat.le_refl _
  refused := by
    intro entry inside lost
    rw [List.mem_singleton.mp inside] at lost
    cases lost

theorem tried_puts (start : SocketWriter Rng) : Puts network start start.tried [] where
  offered := (List.append_nil _).symm
  sent := (List.append_nil _).symm
  later := Nat.le_succ _
  refused := by
    intro entry inside
    cases inside

theorem tried_offer_puts (start : SocketWriter Rng) (datagram : List U8) :
    Puts network start (start.tried.offer datagram true) [(datagram, true)] :=
  (tried_puts start).trans (offer_puts start.tried datagram)

theorem refused_puts (failed : network.answers start.attempts = .failed) (datagram : List U8) :
    Puts network start (start.tried.offer datagram false) [(datagram, false)] where
  offered := rfl
  sent := (List.append_nil _).symm
  later := Nat.le_succ _
  refused := by
    intro entry _ _
    exact ⟨start.attempts, Nat.le_refl _, Nat.lt_succ_self _, failed⟩

theorem sendOne_sends (network : Network) (datagram : List U8) (start : SocketWriter Rng) :
    Sends network start [datagram] (sendOne network datagram start) := by
  rw [sendOne]
  cases answer : network.answers start.attempts with
  | took more =>
      exact ⟨_, .whole [datagram], tried_offer_puts start datagram, tried_offer_same ..⟩
  | failed => exact ⟨_, .part [] datagram [], refused_puts answer datagram, tried_offer_same ..⟩

theorem sendEach_sends (network : Network) (datagrams : List (List U8))
    (start : SocketWriter Rng) :
    Sends network start datagrams (sendEach network datagrams start) := by
  induction datagrams generalizing start with
  | nil => exact .refl start
  | cons datagram datagrams inductionHypothesis =>
      have one := sendOne_sends network datagram start
      rw [sendEach]
      generalize sendOne network datagram start = result at one ⊢
      obtain ⟨sent, taken⟩ := result
      cases taken with
      | true => exact one.then (inductionHypothesis sent)
      | false => exact one.fails

/-- However many datagrams a try takes, each is taken once and in its turn. -/
theorem sendConnected_sends (network : Network) (more : Nat) (datagrams : List (List U8))
    (start : SocketWriter Rng) :
    Sends network start datagrams (sendConnected network more datagrams start) := by
  induction datagrams generalizing more start with
  | nil =>
      rw [sendConnected]
      exact .refl start
  | cons datagram datagrams inductionHypothesis =>
      cases more with
      | succ more =>
          have one : Sends network start [datagram] (start.offer datagram true, true) :=
            ⟨_, .whole [datagram], offer_puts start datagram, offer_same ..⟩
          exact one.then (inductionHypothesis more _)
      | zero =>
          have one := sendOne_sends network datagram start
          rw [sendOne] at one
          rw [sendConnected]
          cases answer : network.answers start.attempts with
          | took more =>
              simp only [answer] at one
              exact one.then (inductionHypothesis more _)
          | failed =>
              simp only [answer] at one
              exact one.fails

theorem sendChunks_sends (network : Network) (batch : List (List (List U8)))
    (start : SocketWriter Rng) :
    Sends network start batch.flatten (sendChunks network batch start) := by
  induction batch generalizing start with
  | nil => exact .refl start
  | cons chunk batch inductionHypothesis =>
      have one := sendConnected_sends network 0 chunk start
      rw [sendChunks, List.flatten_cons]
      generalize sendConnected network 0 chunk start = result at one ⊢
      obtain ⟨sent, taken⟩ := result
      cases taken with
      | true => exact one.then (inductionHypothesis sent)
      | false => exact one.fails

theorem sendDatagrams_sends (network : Network) (datagrams : List (List U8))
    (start : SocketWriter Rng) :
    Sends network start datagrams (sendDatagrams network datagrams start) := by
  rw [sendDatagrams]
  cases network.outbound with
  | udp =>
      have chunked := sendChunks_sends network (chunks maxDatagrams datagrams) start
      rw [flatten_chunks (by decide)] at chunked
      exact chunked
  | stream => exact sendEach_sends network datagrams start

end SocketWriter

end Offered

end Csqtt
