/-
Module: Csqtt.Proofs.ConfigFlight
Purpose: When at most one worker at a time has its request for the configuration in flight,
  over all interleavings of any number of workers.
Trusted boundary: none
Main exports: FlightPoint.next_effect, ConfigFlight.Sound, ConfigFlight.exclusive_iff_undisturbed,
  ConfigFlight.two_in_flight
-/
import Csqtt.Core.Interleaving
import Csqtt.Core.Transducer
import Csqtt.Engine.ConfigFlight

namespace Csqtt

namespace FlightPoint

variable {flags : ConfigFlags} {point : FlightPoint} {choice : FlightChoice}
  {after : ConfigFlags × FlightPoint}

/-- What an operation does to the flag and to who flies: it tries to set the flag, it clears
the flag, or it leaves both as they are. -/
theorem next_effect (next : point.next flags choice = some after) :
    (point = .loaded ∧ choice = .go ∧ after =
      if flags.inFlight then (flags, .session false)
      else ({ flags with inFlight := true }, .session true)) ∨
    (point.tries = false ∧ point.clears = true ∧ after.1.inFlight = false ∧
      after.2.flying = false) ∨
    (point.tries = false ∧ point.clears = false ∧ after.1.inFlight = flags.inFlight ∧
      after.2.flying = point.flying) := by
  cases point with
  | loaded =>
    cases choice with
    | go =>
      cases next
      exact Or.inl ⟨rfl, rfl, rfl⟩
    | _ => cases next
  | idle =>
    cases choice with
    | go =>
      cases next
      refine Or.inr (Or.inr ⟨rfl, rfl, rfl, ?_⟩)
      cases sent : flags.sent with
      | false => rfl
      | true => rfl
    | _ => cases next
  | session acquired =>
    cases choice with
    | go => cases acquired <;> cases next
    | ends failed =>
      cases acquired with
      | false =>
        cases next
        exact Or.inr (Or.inr ⟨rfl, rfl, rfl, rfl⟩)
      | true =>
        cases next
        exact Or.inr (Or.inr ⟨rfl, rfl, rfl, rfl⟩)
    | answers outcome =>
      cases acquired with
      | false =>
        cases outcome <;> cases next <;> exact Or.inr (Or.inr ⟨rfl, rfl, rfl, rfl⟩)
      | true =>
        cases outcome <;> cases next <;> exact Or.inr (Or.inr ⟨rfl, rfl, rfl, rfl⟩)
  | storing =>
    cases choice with
    | go =>
      cases next
      exact Or.inr (Or.inr ⟨rfl, rfl, rfl, rfl⟩)
    | _ => cases next
  | clearing outcome =>
    cases choice with
    | go =>
      cases outcome <;> cases next <;> exact Or.inr (Or.inl ⟨rfl, rfl, rfl, rfl⟩)
    | _ => cases next
  | joining acquired =>
    cases choice with
    | go =>
      cases next
      exact Or.inr (Or.inr ⟨rfl, rfl, rfl, rfl⟩)
    | _ => cases next
  | active acquired =>
    cases choice with
    | ends failed =>
      cases next
      cases acquired <;> exact Or.inr (Or.inr ⟨rfl, rfl, rfl, rfl⟩)
    | _ => cases next
  | dropping acquired completed wasReady failed =>
    cases choice with
    | go =>
      cases acquired with
      | false =>
        cases next
        exact Or.inr (Or.inr ⟨rfl, rfl, rfl, rfl⟩)
      | true =>
        cases next
        exact Or.inr (Or.inl ⟨rfl, rfl, rfl, rfl⟩)
    | _ => cases next
  | looking wasReady failed =>
    cases choice with
    | go =>
      cases next
      refine Or.inr (Or.inr ⟨rfl, rfl, rfl, ?_⟩)
      split
      · rfl
      · rfl
    | _ => cases next
  | swapping =>
    cases choice with
    | go =>
      cases next
      exact Or.inr (Or.inr ⟨rfl, rfl, rfl, rfl⟩)
    | _ => cases next

end FlightPoint

namespace ConfigFlight

variable {state : ConfigFlight} {workers : List FlightWorker} {worker : FlightWorker}
  {after : ConfigFlags × FlightPoint} {index : Nat} {clears : Bool}

/-- The flag is set exactly while a worker flies that has not seen it cleared. -/
structure Sound (state : ConfigFlight) : Prop where
  holds : ∀ worker ∈ state.workers, worker.point.flying = true → worker.tag = false →
    state.flags.inFlight = true
  held : state.flags.inFlight = true →
    ∃ worker ∈ state.workers, worker.point.flying = true ∧ worker.tag = false

/-- A worker that tries to set the flag meets no request in flight since whose acquire the
flag was cleared for another. -/
def Undisturbed (state : ConfigFlight) : FlightEvent → Prop
  | .move index .go => ∀ worker, state.workers[index]? = some worker →
      worker.point.tries = true →
        ∀ other ∈ state.workers, other.point.flying = true → other.tag = false
  | _ => True

theorem sound_start (count : Nat) : (start count).Sound where
  holds worker mem flies := by
    rw [List.eq_of_mem_replicate mem] at flies
    cases flies
  held := nofun

theorem exclusive_start (count : Nat) : (start count).Exclusive := by
  rw [Exclusive, List.countP_eq_zero.mpr]
  · exact Nat.zero_le 1
  · intro worker mem flies
    rw [List.eq_of_mem_replicate mem] at flies
    cases flies

theorem cleared_false (workers : List FlightWorker) : cleared false workers = workers := by
  rw [cleared]
  simp only [Bool.or_false]
  exact List.map_id _

theorem getElem?_cleared (clears : Bool) (here : workers[index]? = some worker) :
    (cleared clears workers)[index]? = some { worker with tag := worker.tag || clears } := by
  rw [cleared, List.getElem?_map, here]
  rfl

theorem countP_cleared (clears : Bool) (workers : List FlightWorker) :
    (cleared clears workers).countP (·.point.flying) = workers.countP (·.point.flying) := by
  rw [cleared, List.countP_map]
  rfl

theorem tag_cleared (mem : worker ∈ cleared true workers) : worker.tag = true := by
  obtain ⟨before, -, rfl⟩ := List.mem_map.mp mem
  exact Bool.or_true _

/-- A worker that moves takes its old point off the count of those that fly. -/
theorem countP_moved (after : ConfigFlags × FlightPoint)
    (here : state.workers[index]? = some worker) :
    (state.moved index worker after).workers.countP (·.point.flying) + worker.point.flying.toNat =
      state.workers.countP (·.point.flying) + after.2.flying.toNat := by
  have counted := Interleaving.countP_advance (fun other : FlightWorker => other.point.flying)
    (getElem?_cleared worker.point.clears here)
    { point := after.2, tag := seen worker } []
  rw [countP_cleared] at counted
  exact counted

theorem seen_of_kept (waits : worker.point.tries = false) (keeps : worker.point.clears = false) :
    seen worker = worker.tag := by
  rw [seen, waits, keeps, Bool.or_false]
  rfl

theorem seen_of_clears (waits : worker.point.tries = false) (clears : worker.point.clears = true) :
    seen worker = true := by
  rw [seen, waits, clears, Bool.or_true]
  rfl

/-- Behind an operation that clears the flag every worker has seen it cleared. -/
theorem sound_of_clears (waits : worker.point.tries = false) (clears : worker.point.clears = true)
    (unset : after.1.inFlight = false) : (state.moved index worker after).Sound where
  holds other mem flies unseen := by
    rw [moved, clears] at mem
    rcases Interleaving.mem_advance mem with rfl | started | rest
    · exact absurd unseen (by rw [seen_of_clears waits clears]; exact Bool.noConfusion)
    · cases started
    · have seen := tag_cleared (List.mem_of_mem_eraseIdx rest)
      exact absurd unseen (by rw [seen]; exact Bool.noConfusion)
  held set := by
    rw [moved, unset] at set
    cases set

/-- An operation that neither clears the flag nor tries to set it leaves all as it was. -/
theorem Sound.of_kept (sound : Sound state) (here : state.workers[index]? = some worker)
    (waits : worker.point.tries = false) (keeps : worker.point.clears = false)
    (flag : after.1.inFlight = state.flags.inFlight)
    (flying : after.2.flying = worker.point.flying) : (state.moved index worker after).Sound where
  holds other mem flies unseen := by
    rw [moved, keeps, cleared_false] at mem
    rw [moved, flag]
    rcases Interleaving.mem_advance mem with rfl | started | rest
    · rw [seen_of_kept waits keeps] at unseen
      rw [flying] at flies
      exact sound.holds worker (List.mem_of_getElem? here) flies unseen
    · cases started
    · exact sound.holds other (List.mem_of_mem_eraseIdx rest) flies unseen
  held set := by
    rw [moved, flag] at set
    rw [moved, keeps, cleared_false]
    apply Interleaving.exists_advance here (sound.held set)
    rintro ⟨flies, unseen⟩
    exact Or.inl ⟨flying.trans flies, (seen_of_kept waits keeps).trans unseen⟩

/-- A worker that finds the flag set does not fly. -/
theorem Sound.of_refused (sound : Sound state) (here : state.workers[index]? = some worker)
    (tries : worker.point = .loaded) (set : state.flags.inFlight = true) :
    (state.moved index worker (state.flags, .session false)).Sound where
  holds other mem flies unseen := set
  held _ := by
    have keeps : worker.point.clears = false := by rw [tries]; rfl
    rw [moved, keeps, cleared_false]
    apply Interleaving.exists_advance here (sound.held set)
    rintro ⟨flies, -⟩
    rw [tries] at flies
    cases flies

theorem sound_of_acquired (here : state.workers[index]? = some worker)
    (tries : worker.point = .loaded) :
    (state.moved index worker ({ state.flags with inFlight := true }, .session true)).Sound where
  holds other mem flies unseen := rfl
  held _ := by
    have unseen : seen worker = false := by rw [seen, tries]; rfl
    refine ⟨{ point := .session true, tag := seen worker }, ?_, rfl, unseen⟩
    exact List.mem_of_getElem? (Interleaving.getElem?_advance_self (getElem?_cleared _ here) _ _)

/-- The step lemma of what ties the flag to the workers. -/
theorem Sound.step (sound : Sound state) (event : FlightEvent) : (state.step event).1.Sound := by
  cases event with
  | cancel => exact ⟨sound.holds, sound.held⟩
  | move index choice =>
    rw [ConfigFlight.step]
    cases here : state.workers[index]? with
    | none => exact sound
    | some worker =>
      cases next : worker.point.next state.flags choice with
      | none => simpa only [next] using sound
      | some after =>
        simp only [next]
        rcases FlightPoint.next_effect next with ⟨tries, -, rfl⟩ | ⟨waits, clears, unset, -⟩ |
          ⟨waits, keeps, flag, flying⟩
        · cases set : state.flags.inFlight with
          | true => exact sound.of_refused here tries set
          | false => exact sound_of_acquired here tries
        · exact sound_of_clears waits clears unset
        · exact sound.of_kept here waits keeps flag flying

/-- The one in flight that holds the flag is the only one in flight. -/
theorem Sound.all_unseen (sound : Sound state) (exclusive : state.Exclusive)
    (set : state.flags.inFlight = true) :
    ∀ other ∈ state.workers, other.point.flying = true → other.tag = false := by
  intro other mem flies
  obtain ⟨holder, held, flying, unseen⟩ := sound.held set
  by_cases same : other = holder
  · rw [same]
    exact unseen
  · have rest : other ∈ state.workers.erase holder := (List.mem_erase_of_ne same).mpr mem
    have counted := (List.perm_cons_erase held).countP_eq (·.point.flying)
    rw [@List.countP_cons_of_pos FlightWorker (·.point.flying) _ _ flying] at counted
    have one : 0 < (state.workers.erase holder).countP (·.point.flying) :=
      List.countP_pos_iff.mpr ⟨other, rest, flies⟩
    rw [Exclusive, counted] at exclusive
    exact absurd (Nat.le_of_succ_le_succ exclusive) (Nat.not_le_of_lt one)

/-- Exactly then a worker that tries to set the flag leaves at most one in flight. -/
theorem exclusive_acquire_iff (sound : Sound state) (exclusive : state.Exclusive)
    (here : state.workers[index]? = some worker) (tries : worker.point = .loaded) :
    (state.moved index worker (if state.flags.inFlight then (state.flags, .session false)
      else ({ state.flags with inFlight := true }, .session true))).Exclusive ↔
      ∀ other ∈ state.workers, other.point.flying = true → other.tag = false := by
  have still : worker.point.flying = false := by rw [tries]; rfl
  cases set : state.flags.inFlight with
  | true =>
    have counted := countP_moved (state.flags, .session false) here
    rw [still] at counted
    exact iff_of_true ((Nat.le_of_eq counted).trans exclusive) (sound.all_unseen exclusive set)
  | false =>
    have counted := countP_moved ({ state.flags with inFlight := true }, .session true) here
    rw [still] at counted
    have grown : (state.moved index worker
        ({ state.flags with inFlight := true }, .session true)).workers.countP (·.point.flying) =
          state.workers.countP (·.point.flying) + 1 := counted
    simp only [Bool.false_eq_true, if_false]
    rw [Exclusive, grown]
    constructor
    · intro none other mem flies
      have some : 0 < state.workers.countP (·.point.flying) :=
        List.countP_pos_iff.mpr ⟨other, mem, flies⟩
      exact absurd (Nat.le_of_succ_le_succ none) (Nat.not_le_of_lt some)
    · intro all
      have empty : state.workers.countP (·.point.flying) = 0 := by
        rw [List.countP_eq_zero]
        intro other mem flies
        have set' := sound.holds other mem flies (all other mem flies)
        rw [set] at set'
        cases set'
      rw [empty]

/-- Every other operation leaves at most one in flight. -/
theorem Exclusive.of_not_tries (exclusive : state.Exclusive)
    (here : state.workers[index]? = some worker)
    (fewer : after.2.flying.toNat ≤ worker.point.flying.toNat) :
    (state.moved index worker after).Exclusive := by
  have counted := countP_moved after here
  have bound : (state.moved index worker after).workers.countP (·.point.flying) +
      worker.point.flying.toNat ≤ 1 + worker.point.flying.toNat :=
    (Nat.le_of_eq counted).trans (Nat.add_le_add exclusive fewer)
  exact Nat.le_of_add_le_add_right bound

/-- Who does not try to set the flag is not asked whether it may. -/
theorem undisturbed_of_waits {choice : FlightChoice} (here : state.workers[index]? = some worker)
    (waits : worker.point.tries = false) : state.Undisturbed (.move index choice) := by
  cases choice with
  | go =>
    intro other there tries
    rw [here] at there
    cases there
    rw [waits] at tries
    cases tries
  | _ => trivial

theorem tries_iff {point : FlightPoint} : point.tries = true ↔ point = .loaded := by
  cases point with
  | loaded => exact iff_of_true rfl rfl
  | _ => exact iff_of_false Bool.noConfusion FlightPoint.noConfusion

theorem exclusive_step_iff (sound : Sound state) (exclusive : state.Exclusive)
    (event : FlightEvent) : (state.step event).1.Exclusive ↔ state.Undisturbed event := by
  cases event with
  | cancel => exact iff_of_true exclusive trivial
  | move index choice =>
    rw [step]
    cases here : state.workers[index]? with
    | none =>
      refine iff_of_true exclusive ?_
      cases choice with
      | go =>
        intro worker there
        rw [here] at there
        cases there
      | _ => trivial
    | some worker =>
      cases next : worker.point.next state.flags choice with
      | none =>
        simp only [next]
        refine iff_of_true exclusive ?_
        cases choice with
        | go =>
          intro other there tries
          rw [here] at there
          cases there
          rw [tries_iff.mp tries] at next
          cases next
        | _ => trivial
      | some after =>
        simp only [next]
        rcases FlightPoint.next_effect next with ⟨tries, rfl, rfl⟩ | ⟨waits, clears, -, lands⟩ |
          ⟨waits, keeps, -, flying⟩
        · rw [exclusive_acquire_iff sound exclusive here tries]
          constructor
          · exact fun all _ _ _ => all
          · exact fun undisturbed => undisturbed worker here (tries_iff.mpr tries)
        · refine iff_of_true (exclusive.of_not_tries here (by rw [lands]; exact Nat.zero_le _)) ?_
          exact undisturbed_of_waits here waits
        · refine iff_of_true (exclusive.of_not_tries here (by rw [flying])) ?_
          exact undisturbed_of_waits here waits

/-- However many workers there are and however their operations interleave, at most one at a
time is between its acquire and the completion of its request exactly if none tries to set the
flag while a request is in flight since whose acquire the flag was cleared for another. -/
theorem exclusive_iff_undisturbed (count : Nat) (events : List FlightEvent) :
    Transducer.Throughout step (start count) events Exclusive ↔
      Transducer.AtEveryStep step (start count) events Undisturbed :=
  Transducer.throughout_iff_atEveryStep step (sound_start count) (exclusive_start count)
    (fun _ event sound _ => sound.step event)
    (fun _ event sound exclusive => exclusive_step_iff sound exclusive event)

/-- A first worker is told that there is no configuration and goes on with its session; when
that ends, its guard clears the flag under a second worker's request, and a third asks too. -/
theorem two_in_flight : ∃ events : List FlightEvent,
    ¬ Transducer.Throughout step (start 3) events Exclusive := by
  refine ⟨[.move 0 .go, .move 0 .go, .move 0 (.answers .noConfig), .move 0 .go, .move 0 .go,
    .move 1 .go, .move 1 .go, .move 0 (.ends false), .move 0 .go, .move 2 .go, .move 2 .go], ?_⟩
  intro holds
  exact absurd (holds _ (List.prefix_refl _)) (by decide)

end ConfigFlight

end Csqtt
