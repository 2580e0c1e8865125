/-
Module: Csqtt.Core.HashTable
Purpose: Finite maps with distinct keys, and the items held by all their values
  taken together, as one list up to order.
Trusted boundary: none
Main exports: HashTable, size, gather, gather_perm_of_lookup, retain,
  lookup_retain, mapValues
-/
import Mathlib.Data.List.AList

namespace Csqtt

/-- A hash map: association lists whose keys are distinct. No result depends on
the order of the entries. -/
abbrev HashTable (Key Value : Type*) := AList fun _ : Key => Value

namespace HashTable

variable {Key Value Item : Type*} [DecidableEq Key]

/-- Number of entries. -/
def size (table : HashTable Key Value) : Nat :=
  table.keys.length

omit [DecidableEq Key] in
@[simp] theorem size_empty : size (∅ : HashTable Key Value) = 0 := rfl

theorem size_insert_new {table : HashTable Key Value} {key : Key} (value : Value)
    (absent : key ∉ table) : size (table.insert key value) = size table + 1 := by
  rw [AList.mem_keys] at absent
  simp [size, AList.keys_insert, List.erase_of_not_mem absent]

theorem size_insert_known {table : HashTable Key Value} {key : Key} (value : Value)
    (present : key ∈ table) : size (table.insert key value) = size table := by
  rw [AList.mem_keys] at present
  have positive := List.length_pos_of_mem present
  simp only [size, AList.keys_insert, List.length_cons, List.length_erase_of_mem present]
  omega

theorem mem_of_lookup {table : HashTable Key Value} {key : Key} {value : Value}
    (found : table.lookup key = some value) : key ∈ table := by
  rw [← AList.lookup_isSome, found]
  rfl

/-- The items of all values, in entry order. -/
def gather (items : Value → List Item) (table : HashTable Key Value) : List Item :=
  table.entries.flatMap fun entry => items entry.2

omit [DecidableEq Key] in
@[simp] theorem gather_empty (items : Value → List Item) :
    gather items (∅ : HashTable Key Value) = [] := rfl

theorem entries_erase (table : HashTable Key Value) (key : Key) :
    (table.erase key).entries = table.entries.kerase key := rfl

theorem gather_insert (items : Value → List Item) (table : HashTable Key Value)
    (key : Key) (value : Value) :
    gather items (table.insert key value) = items value ++ gather items (table.erase key) := by
  simp [gather, AList.entries_insert, entries_erase]

theorem gather_erase_absent {table : HashTable Key Value} {key : Key}
    (items : Value → List Item) (absent : key ∉ table) :
    gather items (table.erase key) = gather items table := by
  rw [AList.mem_keys] at absent
  simp [gather, entries_erase, List.kerase_of_notMem_keys absent]

/-- The items of a stored value are gathered, next to those of all other keys. -/
theorem gather_perm_of_lookup {table : HashTable Key Value} {key : Key} {value : Value}
    (items : Value → List Item) (found : table.lookup key = some value) :
    (gather items table).Perm (items value ++ gather items (table.erase key)) := by
  obtain ⟨stored, front, back, _, entries, erased⟩ :=
    List.exists_of_kerase (AList.mem_keys.mp (mem_of_lookup found))
  have member : (⟨key, stored⟩ : Sigma fun _ : Key => Value) ∈ table.entries := by
    simp [entries]
  have same : value = stored := by
    have looked := AList.mem_lookup_iff.mpr member
    rw [found] at looked
    exact Option.some.inj looked
  have erasedEntries : (table.erase key).entries = front ++ back := erased
  simp only [gather, erasedEntries, entries, List.flatMap_append, List.flatMap_cons, same]
  exact List.perm_append_comm_assoc _ _ _

/-- Keep the entries whose value meets a condition. -/
def retain (condition : Value → Bool) (table : HashTable Key Value) : HashTable Key Value where
  entries := table.entries.filter fun entry => condition entry.2
  nodupKeys := table.nodupKeys.sublist List.filter_sublist

theorem lookup_retain (condition : Value → Bool) (table : HashTable Key Value) (key : Key) :
    (table.retain condition).lookup key = (table.lookup key).filter condition := by
  apply Option.ext
  intro value
  rw [← Option.mem_def, ← Option.mem_def, AList.mem_lookup_iff, Option.mem_filter_iff,
    AList.mem_lookup_iff, retain, List.mem_filter]

/-!
### Tables with transformed values
-/

variable {Value' : Type*}

/-- The table with a function applied to every value. -/
def mapValues (f : Value → Value') (table : HashTable Key Value) : HashTable Key Value' where
  entries := table.entries.map (.map id fun _ => f)
  nodupKeys := .map₂ _ _ table.nodupKeys

omit [DecidableEq Key] in
@[simp] theorem mapValues_empty (f : Value → Value') :
    mapValues f (∅ : HashTable Key Value) = ∅ := rfl

@[simp] theorem lookup_mapValues (f : Value → Value') (table : HashTable Key Value) (key : Key) :
    (mapValues f table).lookup key = (table.lookup key).map f :=
  List.dlookup_map₂ key

omit [DecidableEq Key] in
@[simp] theorem size_mapValues (f : Value → Value') (table : HashTable Key Value) :
    size (mapValues f table) = size table :=
  congrArg List.length (List.map₂_keys (fun _ => f) table.entries)

omit [DecidableEq Key] in
@[simp] theorem mem_mapValues (f : Value → Value') (table : HashTable Key Value) (key : Key) :
    key ∈ mapValues f table ↔ key ∈ table := by
  rw [AList.mem_keys, AList.mem_keys]
  exact iff_of_eq (congrArg (key ∈ ·) (List.map₂_keys (fun _ => f) table.entries))

theorem mapValues_insert (f : Value → Value') (table : HashTable Key Value) (key : Key)
    (value : Value) :
    mapValues f (table.insert key value) = (mapValues f table).insert key (f value) := by
  apply AList.ext
  simp only [mapValues, AList.entries_insert, List.map_cons, List.kerase, List.eraseP_map]
  rfl

end HashTable

end Csqtt
