/-
Module: Csqtt.Core.RecencyTable
Purpose: Tables of bounded size that give up their oldest entry for a new key, and what they
  hold: the last value of every key, but for keys older than all that are kept.
Trusted boundary: none
Main exports: oldest, put, size_put_le, Recent, Recent.put, Recent.forgotten
-/
import Csqtt.Core.HashTable
import Mathlib.Data.List.MinMax

namespace Csqtt.RecencyTable

open HashTable

variable {Key Value : Type*} [DecidableEq Key] (stamp : Value → Nat)

/-- The key of an entry with the least stamp. -/
def oldest (table : HashTable Key Value) : Option Key :=
  (table.entries.argmin fun entry => stamp entry.2).map (·.1)

/-- A new key takes the place of the oldest one in a table without room. -/
def put (capacity : Nat) (table : HashTable Key Value) (key : Key) (value : Value) :
    HashTable Key Value :=
  let room :=
    if capacity ≤ size table ∧ key ∉ table then
      match oldest stamp table with
      | some oldest => table.erase oldest
      | none => table
    else table
  room.insert key value

variable {stamp} {capacity : Nat} {table : HashTable Key Value} {key : Key} {value : Value}

omit [DecidableEq Key] in
theorem oldest_eq_none : oldest stamp table = none ↔ table.entries = [] := by
  rw [oldest, Option.map_eq_none_iff, List.argmin_eq_none]

/-- The oldest key has an entry, and no entry has a lesser stamp. -/
theorem oldest_spec {first : Key} (found : oldest stamp table = some first) :
    ∃ entry, table.lookup first = some entry ∧
      ∀ other later, table.lookup other = some later → stamp entry ≤ stamp later := by
  obtain ⟨⟨_, entry⟩, least, rfl⟩ := Option.map_eq_some_iff.mp found
  have member : ⟨_, entry⟩ ∈ table.entries := List.argmin_mem least
  refine ⟨entry, AList.mem_lookup_iff.mpr member, fun other later looked => ?_⟩
  have inside : (⟨other, later⟩ : Sigma fun _ => Value) ∈ table.entries :=
    AList.mem_lookup_iff.mp looked
  exact List.le_of_mem_argmin (f := fun entry => stamp entry.2) inside least

theorem size_erase {table : HashTable Key Value} {key : Key} (present : key ∈ table) :
    size (table.erase key) + 1 = size table := by
  rw [AList.mem_keys] at present
  have positive := List.length_pos_of_mem present
  rw [size, AList.keys_erase, List.length_erase_of_mem present, size]
  omega

theorem size_put_le (positive : 0 < capacity) (small : size table ≤ capacity) :
    size (put stamp capacity table key value) ≤ capacity := by
  by_cases known : key ∈ table
  · rw [put, if_neg fun full => full.2 known]
    rw [size_insert_known value known]
    exact small
  by_cases full : capacity ≤ size table
  · rw [put, if_pos ⟨full, known⟩]
    cases found : oldest stamp table with
    | none =>
        have empty : size table = 0 := by
          rw [size, AList.keys, oldest_eq_none.mp found]
          rfl
        omega
    | some first =>
        obtain ⟨entry, looked, -⟩ := oldest_spec found
        have one := size_erase (mem_of_lookup looked)
        have absent : key ∉ table.erase first := fun member =>
          known (AList.mem_erase.mp member).2
        dsimp only
        rw [size_insert_new value absent]
        omega
  · rw [put, if_neg fun both => full both.1]
    rw [size_insert_new value known]
    omega

/-!
### What a table holds
-/

/-- The value put in last for a key; the latest put is the first. -/
def lastPut (puts : List (Key × Value)) (key : Key) : Option Value :=
  (puts.find? (·.1 = key)).map (·.2)

/-- Of what was put in, the latest first, a table has the last value of each key it keeps; it
gave up a key only for as many others as there is room for, none of them older. -/
structure Recent (stamp : Value → Nat) (capacity : Nat) (table : HashTable Key Value)
    (puts : List (Key × Value)) : Prop where
  last : ∀ key value, table.lookup key = some value → lastPut puts key = some value
  newer : ∀ key value, lastPut puts key = some value → key ∉ table →
    ∀ other kept, table.lookup other = some kept → stamp value ≤ stamp kept
  full : ∀ key value, lastPut puts key = some value → key ∉ table → size table = capacity
  small : size table ≤ capacity

namespace Recent

variable {puts : List (Key × Value)}

theorem empty : Recent stamp capacity (∅ : HashTable Key Value) [] where
  last := nofun
  newer := nofun
  full := nofun
  small := Nat.zero_le capacity

theorem lastPut_cons_self : lastPut ((key, value) :: puts) key = some value := by
  simp [lastPut]

theorem lastPut_cons_ne {other : Key} (apart : other ≠ key) :
    lastPut ((key, value) :: puts) other = lastPut puts other := by
  rw [lastPut, List.find?_cons_of_neg (by simp [apart.symm])]
  rfl

theorem mem_of_lastPut {entry : Value} (found : lastPut puts key = some entry) :
    (key, entry) ∈ puts := by
  obtain ⟨⟨other, _⟩, first, rfl⟩ := Option.map_eq_some_iff.mp found
  have same := List.find?_some first
  obtain rfl : other = key := of_decide_eq_true same
  exact List.mem_of_find?_eq_some first

/-- An insertion into a table that has room for it, from which nothing newer was taken. -/
theorem insert {room : HashTable Key Value}
    (last : ∀ other kept, other ≠ key → room.lookup other = some kept →
      lastPut puts other = some kept)
    (newer : ∀ other lost, other ≠ key → lastPut puts other = some lost → other ∉ room →
      ∀ another kept, another ≠ key → room.lookup another = some kept → stamp lost ≤ stamp kept)
    (newest : ∀ entry ∈ puts, stamp entry.2 ≤ stamp value)
    (full : ∀ other lost, other ≠ key → lastPut puts other = some lost → other ∉ room →
      size (room.insert key value) = capacity)
    (small : size (room.insert key value) ≤ capacity) :
    Recent stamp capacity (room.insert key value) ((key, value) :: puts) where
  last := by
    intro other kept found
    by_cases same : other = key
    · subst same
      rw [AList.lookup_insert] at found
      rw [lastPut_cons_self, found]
    · rw [AList.lookup_insert_ne same] at found
      rw [lastPut_cons_ne same]
      exact last other kept same found
  newer := by
    intro other lost put absent another kept found
    rw [AList.mem_insert, not_or] at absent
    rw [lastPut_cons_ne absent.1] at put
    by_cases same : another = key
    · subst same
      rw [AList.lookup_insert] at found
      cases found
      exact newest _ (mem_of_lastPut put)
    · rw [AList.lookup_insert_ne same] at found
      exact newer other lost absent.1 put absent.2 another kept same found
  full := by
    intro other lost put absent
    rw [AList.mem_insert, not_or] at absent
    rw [lastPut_cons_ne absent.1] at put
    exact full other lost absent.1 put absent.2
  small := small

theorem put (recent : Recent stamp capacity table puts) (positive : 0 < capacity)
    (newest : ∀ entry ∈ puts, stamp entry.2 ≤ stamp value) :
    Recent stamp capacity (put stamp capacity table key value) ((key, value) :: puts) := by
  have small : size (RecencyTable.put stamp capacity table key value) ≤ capacity :=
    size_put_le positive recent.small
  have last : ∀ other kept, other ≠ key → table.lookup other = some kept →
      lastPut puts other = some kept := fun other kept _ => recent.last other kept
  have newer : ∀ other lost, other ≠ key → lastPut puts other = some lost → other ∉ table →
      ∀ another kept, another ≠ key → table.lookup another = some kept →
        stamp lost ≤ stamp kept :=
    fun other lost _ put absent another kept _ => recent.newer other lost put absent another kept
  rw [RecencyTable.put] at small ⊢
  by_cases known : key ∈ table
  · rw [if_neg fun both => both.2 known] at small ⊢
    refine insert last newer newest (fun other lost _ put absent => ?_) small
    rw [size_insert_known value known]
    exact recent.full other lost put absent
  by_cases full : capacity ≤ size table
  · -- The oldest entry goes, and nothing that stays is older.
    rw [if_pos ⟨full, known⟩] at small ⊢
    obtain ⟨first, found⟩ : ∃ first, oldest stamp table = some first := by
      rw [← Option.ne_none_iff_exists']
      intro none
      have nothing : size table = 0 := by
        rw [size, AList.keys, oldest_eq_none.mp none]
        rfl
      omega
    obtain ⟨entry, looked, least⟩ := oldest_spec found
    simp only [found] at small ⊢
    refine insert (fun other kept apart inside => ?_)
      (fun other lost apart put absent another kept _ inside => ?_) newest
      (fun other lost apart put absent => ?_) small
    · by_cases same : other = first
      · subst same
        rw [AList.lookup_erase] at inside
        cases inside
      · rw [AList.lookup_erase_ne same] at inside
        exact recent.last other kept inside
    · have stayed : another ≠ first := by
        rintro rfl
        rw [AList.lookup_erase] at inside
        cases inside
      rw [AList.lookup_erase_ne stayed] at inside
      by_cases same : other = first
      · subst same
        rw [recent.last other entry looked] at put
        cases put
        exact least another kept inside
      · have outside : other ∉ table := fun member => absent (AList.mem_erase.mpr ⟨same, member⟩)
        exact recent.newer other lost put outside another kept inside
    · have one := size_erase (mem_of_lookup looked)
      have new : key ∉ table.erase first := fun member => known (AList.mem_erase.mp member).2
      have small := recent.small
      rw [size_insert_new value new]
      omega
  · rw [if_neg fun both => full both.1] at small ⊢
    refine insert last newer newest (fun other lost _ put absent => ?_) small
    exact absurd (recent.full other lost put absent).ge full

/-- A key that is gone was given up for others that were put in no earlier. -/
theorem forgotten (recent : Recent stamp capacity table puts) {lost : Value}
    (put : lastPut puts key = some lost) (absent : key ∉ table) :
    ∃ others : List Key, others.Nodup ∧ others.length = capacity ∧ key ∉ others ∧
      ∀ other ∈ others, ∃ kept, lastPut puts other = some kept ∧ stamp lost ≤ stamp kept := by
  refine ⟨table.keys, table.keys_nodup, recent.full key lost put absent, absent, ?_⟩
  intro other member
  obtain ⟨kept, looked⟩ := Option.isSome_iff_exists.mp (AList.lookup_isSome.mpr member)
  exact ⟨kept, recent.last other kept looked, recent.newer key lost put absent other kept looked⟩

end Recent

end Csqtt.RecencyTable
