/-
Module: Csqtt.Proofs.ReplayWindow
Purpose: The replay window refines its set model, which keeps every accepted counter
  and accepts a new one that is not too far behind.
Trusted boundary: none
Main exports: Fresh, Represents, SetModel.accept, accept_refines_set_model
-/
import Csqtt.Core.Transducer
import Csqtt.Engine.ReplayWindow
import Mathlib.Data.Finset.Insert

namespace Csqtt.ReplayWindow

open Transducer

/-- Not accepted before, and not behind the window of an accepted counter. -/
def Fresh (accepted : Set U64) (counter : U64) : Prop :=
  counter ∉ accepted ∧ ∀ other ∈ accepted, other.toNat < counter.toNat + replayWindowSize

/-- What a window knows of the accepted counters: the highest, and which are in reach. -/
inductive Represents (accepted : Set U64) : ReplayWindow → Prop where
  | nothing (none : accepted = ∅) : Represents accepted new
  | upTo {highest : U64} {seen : BitRing 256} (member : highest ∈ accepted)
      (top : ∀ other ∈ accepted, other ≤ highest)
      (holds : seen.Holds highest.toNat (BitVec.toNat '' accepted)) :
      Represents accepted { highest := some highest, seen := seen }

theorem capacity_eq : BitRing.capacity 256 = replayWindowSize := rfl

theorem mem_toNat_image {accepted : Set U64} {counter : U64} :
    counter.toNat ∈ BitVec.toNat '' accepted ↔ counter ∈ accepted := by
  constructor
  · rintro ⟨other, member, same⟩
    rwa [← BitVec.eq_of_toNat_eq same]
  · exact fun member => ⟨counter, member, rfl⟩

/-- A window that has taken a new highest counter. -/
theorem represents_highest {accepted : Set U64} {counter : U64} {seen : BitRing 256}
    (above : ∀ other ∈ accepted, other ≤ counter)
    (holds : seen.Holds counter.toNat (BitVec.toNat '' accepted)) :
    Represents (insert counter accepted)
      { highest := some counter, seen := seen.setBit counter.toNat } := by
  refine .upTo (Set.mem_insert _ _) (fun other member => ?_) ?_
  · rcases Set.mem_insert_iff.mp member with rfl | old
    · exact BitVec.le_refl _
    · exact above other old
  · rw [Set.image_insert_eq]
    exact holds.insert (Nat.le_refl _) (by rw [capacity_eq, replayWindowSize]; omega)

/-- The bits behind a counter in front of the highest one. -/
theorem holds_front {accepted : Set U64} {highest counter : U64} {seen : BitRing 256}
    (top : ∀ other ∈ accepted, other ≤ highest)
    (holds : seen.Holds highest.toNat (BitVec.toNat '' accepted)) (front : highest < counter) :
    (if replayWindowSize ≤ (counter - highest).toNat then .zero
      else seen.clearRange (highest.toNat + 1) (counter - highest).toNat).Holds counter.toNat
        (BitVec.toNat '' accepted) := by
  have ordered : highest.toNat < counter.toNat := front
  have shift : (counter - highest).toNat = counter.toNat - highest.toNat :=
    BitVec.toNat_sub_of_le (Nat.le_of_lt ordered)
  have bounded : ∀ number ∈ BitVec.toNat '' accepted, number ≤ highest.toNat := by
    rintro number ⟨other, member, rfl⟩
    exact top other member
  rw [shift]
  split
  · refine BitRing.holds_zero fun number member => ?_
    have below := bounded number member
    rw [capacity_eq]
    omega
  · have advanced := holds.advance bounded (counter.toNat - highest.toNat)
    rwa [Nat.add_sub_cancel' (Nat.le_of_lt ordered)] at advanced

theorem Represents.accept_of_fresh {accepted : Set U64} {window : ReplayWindow}
    (represents : Represents accepted window) {counter : U64} (fresh : Fresh accepted counter) :
    (window.accept counter).2 = true ∧
      Represents (insert counter accepted) (window.accept counter).1 := by
  cases represents with
  | nothing none =>
      subst none
      exact ⟨rfl, represents_highest (by simp) (BitRing.holds_zero (by simp))⟩
  | @upTo highest seen member top holds =>
      simp only [accept]
      by_cases front : highest < counter
      · rw [if_pos front]
        exact ⟨rfl, represents_highest
          (fun other old => BitVec.le_trans (top other old) (BitVec.le_of_lt front))
          (holds_front top holds front)⟩
      · have behind : counter.toNat ≤ highest.toNat := BitVec.not_lt.mp front
        have age : (highest - counter).toNat = highest.toNat - counter.toNat :=
          BitVec.toNat_sub_of_le behind
        have recent := fresh.2 highest member
        have unset : ¬ seen.testBit counter.toNat = true := fun set =>
          fresh.1 (mem_toNat_image.mp ((holds _ behind recent).mp set))
        rw [if_neg front, if_neg (by omega), if_neg unset]
        refine ⟨rfl, .upTo (Set.mem_insert_of_mem _ member) (fun other old => ?_) ?_⟩
        · rcases Set.mem_insert_iff.mp old with rfl | old
          · exact behind
          · exact top other old
        · rw [Set.image_insert_eq]
          exact holds.insert behind recent

theorem Represents.accept_of_not_fresh {accepted : Set U64} {window : ReplayWindow}
    (represents : Represents accepted window) {counter : U64} (stale : ¬ Fresh accepted counter) :
    window.accept counter = (window, false) := by
  cases represents with
  | nothing none => exact absurd ⟨by simp [none], by simp [none]⟩ stale
  | @upTo highest seen member top holds =>
      have behind : ¬ highest < counter := by
        intro front
        refine stale ⟨fun known => ?_, fun other known => ?_⟩
        · exact absurd front (BitVec.not_lt.mpr (top counter known))
        · have below : other.toNat ≤ highest.toNat := top other known
          have ordered : highest.toNat < counter.toNat := front
          omega
      have behindNat : counter.toNat ≤ highest.toNat := BitVec.not_lt.mp behind
      have age : (highest - counter).toNat = highest.toNat - counter.toNat :=
        BitVec.toNat_sub_of_le behindNat
      simp only [accept]
      rw [if_neg behind]
      split
      · rfl
      · rename_i recent
        have known : counter ∈ accepted := by
          by_contra unknown
          refine stale ⟨unknown, fun other old => ?_⟩
          have below : other.toNat ≤ highest.toNat := top other old
          omega
        have set : seen.testBit counter.toNat = true :=
          (holds _ behindNat (by rw [capacity_eq]; omega)).mpr (mem_toNat_image.mpr known)
        rw [if_pos set]

/-- Counters out of reach may be forgotten. -/
theorem Represents.forget {accepted kept : Set U64} {window : ReplayWindow}
    (represents : Represents accepted window) (subset : kept ⊆ accepted)
    (recent : ∀ counter ∈ accepted,
      (∀ other ∈ accepted, other.toNat < counter.toNat + replayWindowSize) → counter ∈ kept) :
    Represents kept window := by
  cases represents with
  | nothing none => exact .nothing (Set.subset_eq_empty subset none)
  | @upTo highest seen member top holds =>
      have atMost : ∀ other ∈ accepted, other.toNat ≤ highest.toNat := top
      refine .upTo (recent highest member fun other known => ?_)
        (fun other known => top other (subset known)) fun number behind inside => ?_
      · have below := atMost other known
        rw [replayWindowSize]
        omega
      · rw [holds number behind inside]
        refine ⟨?_, fun known => Set.image_mono subset known⟩
        rintro ⟨counter, known, rfl⟩
        rw [capacity_eq] at inside
        exact ⟨counter, recent counter known fun other known => by
          have below := atMost other known
          omega, rfl⟩

/-!
### The set model
-/

namespace SetModel

/-- Accept what is fresh, and keep every accepted counter. -/
def accept (accepted : Finset U64) (counter : U64) : Finset U64 × Bool :=
  if counter ∉ accepted ∧
      ∀ other ∈ accepted, other.toNat < counter.toNat + replayWindowSize then
    (insert counter accepted, true)
  else (accepted, false)

end SetModel

/-- The window after a run agrees with the model, and so do the verdicts. -/
theorem represents_run (counters : List U64) :
    Represents (run SetModel.accept ∅ counters).1 (run accept new counters).1 ∧
      (run accept new counters).2 = (run SetModel.accept ∅ counters).2 := by
  induction counters using List.reverseRecOn with
  | nil => exact ⟨.nothing (by simp), rfl⟩
  | append_singleton counters counter inductionHypothesis =>
      obtain ⟨represents, same⟩ := inductionHypothesis
      simp only [run_concat, same]
      generalize (run SetModel.accept ∅ counters).1 = accepted at represents ⊢
      rw [SetModel.accept]
      split
      · rename_i fresh
        obtain ⟨accepts, after⟩ := represents.accept_of_fresh fresh
        rw [accepts, Finset.coe_insert]
        exact ⟨after, rfl⟩
      · rename_i stale
        rw [represents.accept_of_not_fresh stale]
        exact ⟨represents, rfl⟩

/-- The counters with a positive verdict. -/
def acceptedOf (counters : List U64) (verdicts : List Bool) : List U64 :=
  ((counters.zip verdicts).filter Prod.snd).map Prod.fst

theorem acceptedOf_model (counters : List U64) :
    (acceptedOf counters (run SetModel.accept ∅ counters).2).Nodup ∧
      (acceptedOf counters (run SetModel.accept ∅ counters).2).toFinset =
        (run SetModel.accept ∅ counters).1 := by
  induction counters using List.reverseRecOn with
  | nil => exact ⟨List.nodup_nil, rfl⟩
  | append_singleton counters counter inductionHypothesis =>
      obtain ⟨distinct, same⟩ := inductionHypothesis
      have sameLength := (length_run SetModel.accept ∅ counters).symm
      simp only [run_concat]
      have appended (verdict : Bool) :
          acceptedOf (counters ++ [counter]) ((run SetModel.accept ∅ counters).2 ++ [verdict]) =
            acceptedOf counters (run SetModel.accept ∅ counters).2 ++
              if verdict then [counter] else [] := by
        rw [acceptedOf, List.zip_append sameLength, List.filter_append, List.map_append, acceptedOf]
        cases verdict <;> rfl
      rw [appended, ← same, SetModel.accept]
      generalize acceptedOf counters (run SetModel.accept ∅ counters).2 = accepted at distinct ⊢
      split
      · rename_i fresh
        refine ⟨?_, ?_⟩
        · rw [if_pos rfl, ← List.concat_eq_append]
          exact List.Nodup.concat (fun member => fresh.1 (List.mem_toFinset.mpr member)) distinct
        · simp
      · rw [if_neg (by simp), List.append_nil]
        exact ⟨distinct, rfl⟩

/-- For every list of counters the window gives the verdicts of the set model, and no
counter is accepted twice. -/
theorem accept_refines_set_model (counters : List U64) :
    (run accept new counters).2 = (run SetModel.accept ∅ counters).2 ∧
      (acceptedOf counters (run accept new counters).2).Nodup := by
  have same := (represents_run counters).2
  rw [same]
  exact ⟨rfl, (acceptedOf_model counters).1⟩

end Csqtt.ReplayWindow
