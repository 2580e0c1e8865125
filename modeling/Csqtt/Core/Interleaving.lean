/-
Module: Csqtt.Core.Interleaving
Purpose: Pools of threads, each at one point of its program: what is left of a fact
  about the pool when one thread moves on and perhaps starts others.
Trusted boundary: none
Main exports: Thread, advance, advance_perm, countP_advance, forall_advance, exists_advance
-/
import Mathlib.Data.List.Perm.Basic

namespace Csqtt

/-- A thread: the point of the program it is at, and what is known about its origin. -/
structure Thread (Point Tag : Type*) where
  point : Point
  tag : Tag
deriving DecidableEq, Repr

namespace Interleaving

open scoped List

variable {Point Tag : Type*} {pool : List (Thread Point Tag)} {index : Nat}
  {current : Thread Point Tag}

/-- The thread at the index becomes the next one; those it started come last. -/
def advance (pool : List (Thread Point Tag)) (index : Nat) (next : Thread Point Tag)
    (started : List (Thread Point Tag)) : List (Thread Point Tag) :=
  pool.set index next ++ started

theorem mem_advance {next other : Thread Point Tag} {started : List (Thread Point Tag)}
    (mem : other ∈ advance pool index next started) :
    other = next ∨ other ∈ started ∨ other ∈ pool.eraseIdx index := by
  rcases List.mem_append.mp mem with moved | new
  · obtain ⟨place, there⟩ := List.getElem?_of_mem moved
    by_cases same : place = index
    · subst same
      rw [List.getElem?_set_self'] at there
      obtain ⟨_, -, rfl⟩ := Option.map_eq_some_iff.mp there
      exact Or.inl rfl
    · rw [List.getElem?_set_ne (Ne.symm same)] at there
      exact Or.inr (Or.inr (List.mem_eraseIdx_iff_getElem?.mpr ⟨place, same, there⟩))
  · exact Or.inr (Or.inl new)

theorem getElem?_advance_self (here : pool[index]? = some current) (next : Thread Point Tag)
    (started : List (Thread Point Tag)) :
    (advance pool index next started)[index]? = some next := by
  have bound := (List.getElem?_eq_some_iff.mp here).1
  rw [advance, List.getElem?_append_left (by rwa [List.length_set]), List.getElem?_set_self bound]

theorem getElem?_advance_of_ne {other : Nat} {thread : Thread Point Tag} (apart : other ≠ index)
    (there : pool[other]? = some thread) (next : Thread Point Tag)
    (started : List (Thread Point Tag)) :
    (advance pool index next started)[other]? = some thread := by
  have bound := (List.getElem?_eq_some_iff.mp there).1
  rw [advance, List.getElem?_append_left (by rwa [List.length_set]),
    List.getElem?_set_ne (Ne.symm apart), there]

theorem perm_cons_eraseIdx (here : pool[index]? = some current) :
    pool ~ current :: pool.eraseIdx index := by
  obtain ⟨bound, rfl⟩ := List.getElem?_eq_some_iff.mp here
  exact (List.getElem_cons_eraseIdx_perm bound).symm

theorem advance_perm (here : pool[index]? = some current) (next : Thread Point Tag)
    (started : List (Thread Point Tag)) :
    advance pool index next started ~ next :: (pool.eraseIdx index ++ started) := by
  have bound := (List.getElem?_eq_some_iff.mp here).1
  exact (List.set_perm_cons_eraseIdx bound next).append_right started

theorem getElem?_advance_alone {other : Nat} (apart : other ≠ index) (next : Thread Point Tag) :
    (advance pool index next [])[other]? = pool[other]? := by
  rw [advance, List.append_nil, List.getElem?_set_ne (Ne.symm apart)]

/-- A thread moving on takes its old point off the count and adds the new ones. -/
theorem countP_advance (counted : Thread Point Tag → Bool) (here : pool[index]? = some current)
    (next : Thread Point Tag) (started : List (Thread Point Tag)) :
    (advance pool index next started).countP counted + (counted current).toNat =
      pool.countP counted + (counted next).toNat + started.countP counted := by
  have weight : ∀ yes : Bool, (if yes = true then 1 else 0) = yes.toNat := by decide
  induction pool generalizing index with
  | nil => cases here
  | cons first pool inductionHypothesis =>
      cases index with
      | zero =>
          cases here
          simp only [advance, List.set_cons_zero, List.cons_append, List.countP_cons,
            List.countP_append, weight]
          omega
      | succ index =>
          have rest := inductionHypothesis here
          simp only [advance, List.set_cons_succ, List.cons_append, List.countP_cons] at rest ⊢
          omega

/-- What every other thread satisfies all threads satisfy, if the one that moved does. -/
theorem forall_advance {property : Thread Point Tag → Prop} {next : Thread Point Tag}
    {started : List (Thread Point Tag)} (before : ∀ thread ∈ pool.eraseIdx index, property thread)
    (moved : property next) (new : ∀ thread ∈ started, property thread) :
    ∀ thread ∈ advance pool index next started, property thread := by
  intro thread mem
  rcases mem_advance mem with rfl | fresh | old
  · exact moved
  · exact new thread fresh
  · exact before thread old

/-- What some thread satisfies some thread still satisfies, unless the one that moved
was it and left nobody behind. -/
theorem exists_advance {property : Thread Point Tag → Prop} {next : Thread Point Tag}
    {started : List (Thread Point Tag)} (here : pool[index]? = some current)
    (before : ∃ thread ∈ pool, property thread)
    (moved : property current → property next ∨ ∃ thread ∈ started, property thread) :
    ∃ thread ∈ advance pool index next started, property thread := by
  obtain ⟨thread, mem, holds⟩ := before
  obtain ⟨other, there⟩ := List.getElem?_of_mem mem
  by_cases same : other = index
  · subst same
    rw [here] at there
    cases there
    rcases moved holds with kept | ⟨child, started, kept⟩
    · exact ⟨next, List.mem_of_getElem? (getElem?_advance_self here next _), kept⟩
    · exact ⟨child, List.mem_append_right _ started, kept⟩
  · exact ⟨thread, List.mem_of_getElem? (getElem?_advance_of_ne same there next started), holds⟩

end Interleaving

end Csqtt
