/-
Module: Csqtt.Proofs.WorkerRegistry
Purpose: The dispatcher's list holds the incarnations that are registered, one entry a
  worker, and is served to the TURN paths in turn.
Trusted boundary: none
Main exports: interleaveTurnPaths_perm, interleaveTurnPaths_balanced, mem_registered_iff,
  registered_current_and_balanced
-/
import Csqtt.Core.RoundRobin
import Csqtt.Engine.WorkerChannels

namespace Csqtt

/-!
### The order of the list
-/

theorem pathOrder_iff {left right : WorkerChannels} :
    pathOrder left right = true ↔
      left.turnPath < right.turnPath ∨
        left.turnPath = right.turnPath ∧ left.id ≤ right.id := by
  rw [pathOrder, Bool.or_eq_true, decide_eq_true_eq, Bool.and_eq_true, beq_iff_eq,
    decide_eq_true_eq]

theorem turnPath_le_of_pathOrder {left right : WorkerChannels}
    (ordered : pathOrder left right = true) : left.turnPath ≤ right.turnPath := by
  rcases pathOrder_iff.mp ordered with before | ⟨same, _⟩
  · exact List.le_of_lt before
  · rw [same]
    exact List.le_refl _

theorem takeByOffset_eq (groups : List (List WorkerChannels)) (rounds offset : Nat) :
    takeByOffset groups rounds offset = roundRobin groups rounds offset := by
  induction rounds generalizing offset with
  | zero => rfl
  | succ rounds inductionHypothesis =>
      rw [takeByOffset, roundRobin]
      cases groups.filterMap (·[offset]?) with
      | nil => rfl
      | cons first others => simp only [inductionHypothesis]

/-- Groups as the pass over a sorted list leaves them: of one path each, the paths
rising from group to group. -/
structure Grouped (groups : List (List WorkerChannels)) : Prop where
  nonempty : ∀ group ∈ groups, group ≠ []
  alike : ∀ group ∈ groups, ∀ first ∈ group, ∀ second ∈ group,
    first.turnPath = second.turnPath
  rising : groups.Pairwise fun left right =>
    ∀ first ∈ left, ∀ second ∈ right, first.turnPath < second.turnPath

theorem Grouped.keyed {groups : List (List WorkerChannels)} (grouped : Grouped groups) :
    Keyed (·.turnPath) groups where
  alike := grouped.alike
  apart := by
    apply grouped.rising.imp
    intro left right rising first inLeft second inRight same
    have before := rising first inLeft second inRight
    rw [same] at before
    exact List.lt_irrefl _ before

theorem groupByPath_concat (groups : List (List WorkerChannels)) (group : List WorkerChannels)
    (worker : WorkerChannels) :
    groupByPath (groups ++ [group]) worker =
      if group.head?.any (·.turnPath == worker.turnPath) then groups ++ [group ++ [worker]]
      else groups ++ [group] ++ [[worker]] := by
  rw [groupByPath, List.getLast?_concat]
  simp only [List.dropLast_concat]

theorem flatten_groupByPath (groups : List (List WorkerChannels)) (worker : WorkerChannels) :
    (groupByPath groups worker).flatten = groups.flatten ++ [worker] := by
  induction groups using List.reverseRecOn with
  | nil => rfl
  | append_singleton groups group _ =>
      rw [groupByPath_concat]
      split
      · simp only [List.flatten_append, List.flatten_singleton, List.append_assoc]
      · simp only [List.flatten_append, List.flatten_singleton]

/-- A worker that comes after all grouped so far keeps the groups in order. -/
theorem Grouped.groupByPath {groups : List (List WorkerChannels)} (grouped : Grouped groups)
    {worker : WorkerChannels}
    (last : ∀ earlier ∈ groups.flatten, earlier.turnPath ≤ worker.turnPath) :
    Grouped (groupByPath groups worker) := by
  induction groups using List.reverseRecOn with
  | nil =>
      constructor
      · intro group listed
        rw [List.mem_singleton.mp listed]
        exact List.cons_ne_nil worker []
      · intro group listed first inside second insideToo
        rw [List.mem_singleton.mp listed] at inside insideToo
        rw [List.mem_singleton.mp inside, List.mem_singleton.mp insideToo]
      · exact List.pairwise_singleton _ _
  | append_singleton groups group _ =>
      have ownGroup : group ∈ groups ++ [group] :=
        List.mem_append_right _ (List.mem_singleton_self _)
      obtain ⟨head, rest, shape⟩ := List.exists_cons_of_ne_nil (grouped.nonempty group ownGroup)
      have headIn : head ∈ group := by
        rw [shape]
        exact List.mem_cons_self
      have rising := List.pairwise_append.mp grouped.rising
      rw [groupByPath_concat]
      by_cases same : head.turnPath = worker.turnPath
      · -- The worker joins the last group.
        rw [if_pos (by rw [shape]; exact beq_iff_eq.mpr same)]
        have members (member : WorkerChannels) (inside : member ∈ group ++ [worker]) :
            member.turnPath = head.turnPath := by
          rcases List.mem_append.mp inside with earlier | new
          · exact grouped.alike group ownGroup member earlier head headIn
          · rw [List.mem_singleton.mp new, same]
        constructor
        · intro other listed
          rcases List.mem_append.mp listed with earlier | new
          · exact grouped.nonempty other (List.mem_append_left _ earlier)
          · rw [List.mem_singleton.mp new]
            exact List.append_ne_nil_of_right_ne_nil _ (List.cons_ne_nil worker [])
        · intro other listed first inside second insideToo
          rcases List.mem_append.mp listed with earlier | new
          · exact grouped.alike other (List.mem_append_left _ earlier) first inside second insideToo
          · rw [List.mem_singleton.mp new] at inside insideToo
            rw [members first inside, members second insideToo]
        · apply List.pairwise_append.mpr
          refine ⟨rising.1, List.pairwise_singleton _ _, ?_⟩
          intro left inLeft right inRight first inside second insideToo
          rw [List.mem_singleton.mp inRight] at insideToo
          rw [members second insideToo]
          exact rising.2.2 left inLeft group (List.mem_singleton_self _) first inside head headIn
      · -- The worker opens a group, after the paths so far.
        rw [if_neg (by rw [shape]; simpa using same)]
        have later : head.turnPath < worker.turnPath := by
          have reached := last head (List.mem_flatten.mpr ⟨group, ownGroup, headIn⟩)
          exact (List.le_iff_lt_or_eq.mp reached).resolve_right same
        constructor
        · intro other listed
          rcases List.mem_append.mp listed with earlier | new
          · exact grouped.nonempty other earlier
          · rw [List.mem_singleton.mp new]
            exact List.cons_ne_nil worker []
        · intro other listed first inside second insideToo
          rcases List.mem_append.mp listed with earlier | new
          · exact grouped.alike other earlier first inside second insideToo
          · rw [List.mem_singleton.mp new] at inside insideToo
            rw [List.mem_singleton.mp inside, List.mem_singleton.mp insideToo]
        · apply List.pairwise_append.mpr
          refine ⟨grouped.rising, List.pairwise_singleton _ _, ?_⟩
          intro left inLeft right inRight first inside second insideToo
          rw [List.mem_singleton.mp inRight] at insideToo
          rw [List.mem_singleton.mp insideToo]
          rcases List.mem_append.mp inLeft with earlier | own
          · apply List.lt_trans _ later
            exact rising.2.2 left earlier group (List.mem_singleton_self _) first inside head headIn
          · rw [List.mem_singleton.mp own] at inside
            rw [grouped.alike group ownGroup first inside head headIn]
            exact later

/-- The groups of a sorted list. -/
theorem grouped_foldl {sorted : List WorkerChannels}
    (ordered : sorted.Pairwise fun left right => left.turnPath ≤ right.turnPath) :
    Grouped (sorted.foldl groupByPath []) ∧ (sorted.foldl groupByPath []).flatten = sorted := by
  induction sorted using List.reverseRecOn with
  | nil =>
      constructor
      · exact ⟨by simp, by simp, List.Pairwise.nil⟩
      · rfl
  | append_singleton sorted worker inductionHypothesis =>
      obtain ⟨earlier, _, last⟩ := List.pairwise_append.mp ordered
      obtain ⟨grouped, flatten⟩ := inductionHypothesis earlier
      rw [List.foldl_append, List.foldl_cons, List.foldl_nil]
      constructor
      · apply grouped.groupByPath
        rw [flatten]
        intro member inside
        exact last member inside worker (List.mem_singleton_self _)
      · rw [flatten_groupByPath, flatten]

theorem pathOrder_total (left right : WorkerChannels) :
    pathOrder left right = true ∨ pathOrder right left = true := by
  rw [pathOrder_iff, pathOrder_iff]
  rcases List.le_total left.turnPath right.turnPath with order | order
  · rcases List.le_iff_lt_or_eq.mp order with before | same
    · exact Or.inl (Or.inl before)
    · rcases Nat.le_total left.id right.id with first | first
      · exact Or.inl (Or.inr ⟨same, first⟩)
      · exact Or.inr (Or.inr ⟨same.symm, first⟩)
  · rcases List.le_iff_lt_or_eq.mp order with before | same
    · exact Or.inr (Or.inl before)
    · rcases Nat.le_total left.id right.id with first | first
      · exact Or.inl (Or.inr ⟨same.symm, first⟩)
      · exact Or.inr (Or.inr ⟨same, first⟩)

theorem pathOrder_trans {first second third : WorkerChannels}
    (one : pathOrder first second = true) (two : pathOrder second third = true) :
    pathOrder first third = true := by
  rw [pathOrder_iff] at one two ⊢
  rcases one with before | ⟨same, order⟩
  · rcases two with later | ⟨equal, _⟩
    · exact Or.inl (List.lt_trans before later)
    · exact Or.inl (equal ▸ before)
  · rcases two with later | ⟨equal, next⟩
    · exact Or.inl (same ▸ later)
    · exact Or.inr ⟨same.trans equal, order.trans next⟩

theorem sorted_insertionSort (workers : List WorkerChannels) :
    (workers.insertionSort fun left right => pathOrder left right).Pairwise
      fun left right => left.turnPath ≤ right.turnPath := by
  have total : Std.Total fun left right => (pathOrder left right : Prop) :=
    ⟨pathOrder_total⟩
  have transitive : IsTrans WorkerChannels fun left right => (pathOrder left right : Prop) :=
    ⟨fun _ _ _ => pathOrder_trans⟩
  apply (List.pairwise_insertionSort _ workers).imp
  intro left right ordered
  exact turnPath_le_of_pathOrder ordered

/-- What the interleaving is made of. -/
theorem interleaveTurnPaths_eq (workers : List WorkerChannels) :
    ∃ groups, Grouped groups ∧ groups.flatten.Perm workers ∧
      interleaveTurnPaths workers = roundRobin groups workers.length 0 := by
  obtain ⟨grouped, flatten⟩ := grouped_foldl (sorted_insertionSort workers)
  refine ⟨_, grouped, ?_, takeByOffset_eq _ _ _⟩
  rw [flatten]
  exact List.perm_insertionSort _ workers

theorem interleaveTurnPaths_perm (workers : List WorkerChannels) :
    (interleaveTurnPaths workers).Perm workers := by
  obtain ⟨groups, _, flatten, interleaved⟩ := interleaveTurnPaths_eq workers
  rw [interleaved]
  have enough : ∀ group ∈ groups, group.length ≤ 0 + workers.length := by
    intro group listed
    rw [Nat.zero_add, ← flatten.length_eq]
    exact (List.sublist_flatten_of_mem listed).length_le
  apply (roundRobin_perm enough).trans
  simpa only [List.drop_zero, List.map_id'] using flatten

/-- In every beginning of the interleaved list, of two paths with workers left neither
is more than one worker ahead. -/
theorem interleaveTurnPaths_balanced (workers : List WorkerChannels) (taken : Nat)
    {ahead behind : List U8}
    (leftAhead : countOf (·.turnPath) ahead ((interleaveTurnPaths workers).take taken) <
      countOf (·.turnPath) ahead (interleaveTurnPaths workers))
    (leftBehind : countOf (·.turnPath) behind ((interleaveTurnPaths workers).take taken) <
      countOf (·.turnPath) behind (interleaveTurnPaths workers)) :
    countOf (·.turnPath) ahead ((interleaveTurnPaths workers).take taken) ≤
      countOf (·.turnPath) behind ((interleaveTurnPaths workers).take taken) + 1 := by
  obtain ⟨groups, grouped, _, interleaved⟩ := interleaveTurnPaths_eq workers
  rw [interleaved] at leftAhead leftBehind ⊢
  exact roundRobin_balanced grouped.keyed leftAhead leftBehind

/-!
### The entries of the list
-/

theorem mem_registerWorker {workers : List WorkerChannels} {channels worker : WorkerChannels} :
    worker ∈ registerWorker workers channels ↔
      worker ∈ workers ∧ worker.id ≠ channels.id ∨ worker = channels := by
  rw [registerWorker, (interleaveTurnPaths_perm _).mem_iff, List.mem_append, List.mem_filter,
    bne_iff_ne, List.mem_singleton]

theorem mem_unregisterWorker {workers : List WorkerChannels} {worker : WorkerChannels} {id : Nat}
    {incarnationId : U64} :
    worker ∈ unregisterWorker workers id incarnationId ↔
      worker ∈ workers ∧ ¬ (worker.id = id ∧ worker.incarnationId = incarnationId) := by
  rw [unregisterWorker, (interleaveTurnPaths_perm _).mem_iff, List.mem_filter, Bool.or_eq_true,
    bne_iff_ne, bne_iff_ne, not_and_or]

theorem nodup_registerWorker {workers : List WorkerChannels} (channels : WorkerChannels)
    (single : (workers.map (·.id)).Nodup) :
    ((registerWorker workers channels).map (·.id)).Nodup := by
  rw [registerWorker, ((interleaveTurnPaths_perm _).map (·.id)).nodup_iff, List.map_append]
  apply List.nodup_append'.mpr
  refine ⟨?_, List.nodup_singleton _, ?_⟩
  · exact single.sublist (List.filter_sublist.map _)
  · intro id kept own
    obtain ⟨worker, listed, rfl⟩ := List.mem_map.mp kept
    have other := (List.mem_filter.mp listed).2
    exact bne_iff_ne.mp other (List.mem_singleton.mp own)

theorem nodup_unregisterWorker {workers : List WorkerChannels} (id : Nat) (incarnationId : U64)
    (single : (workers.map (·.id)).Nodup) :
    ((unregisterWorker workers id incarnationId).map (·.id)).Nodup := by
  rw [unregisterWorker, ((interleaveTurnPaths_perm _).map (·.id)).nodup_iff]
  exact single.sublist (List.filter_sublist.map _)

theorem nodup_registered (calls : List RegistryCall) :
    ((registered calls).map (·.id)).Nodup := by
  induction calls using List.reverseRecOn with
  | nil => exact List.nodup_nil
  | append_singleton calls call inductionHypothesis =>
      rw [registered_concat]
      cases call with
      | register channels => exact nodup_registerWorker channels inductionHypothesis
      | unregister id incarnationId =>
          exact nodup_unregisterWorker id incarnationId inductionHypothesis

/-- The last registration of a worker's id is this incarnation's, and these are the
calls since. -/
def LastRegistered (calls : List RegistryCall) (worker : WorkerChannels)
    (since : List RegistryCall) : Prop :=
  (∃ before, calls = before ++ .register worker :: since) ∧
    ∀ channels, .register channels ∈ since → channels.id ≠ worker.id

/-- An incarnation is the last registered one of its id, and was not unregistered since. -/
def Current (calls : List RegistryCall) (worker : WorkerChannels) : Prop :=
  ∃ since, LastRegistered calls worker since ∧
    .unregister worker.id worker.incarnationId ∉ since

theorem not_current_nil (worker : WorkerChannels) : ¬ Current [] worker := by
  rintro ⟨since, ⟨⟨before, calls⟩, _⟩, _⟩
  exact List.append_ne_nil_of_right_ne_nil before (List.cons_ne_nil _ since) calls.symm

theorem current_concat {calls : List RegistryCall} {call : RegistryCall}
    {worker : WorkerChannels} :
    Current (calls ++ [call]) worker ↔
      call = .register worker ∨
        Current calls worker ∧ (∀ channels, call = .register channels → channels.id ≠ worker.id) ∧
          call ≠ .unregister worker.id worker.incarnationId := by
  constructor
  · rintro ⟨since, ⟨⟨before, split⟩, last⟩, kept⟩
    induction since using List.reverseRecOn with
    | nil =>
        obtain ⟨_, same⟩ := List.append_inj' split rfl
        exact Or.inl (List.singleton_inj.mp same)
    | append_singleton since latest _ =>
        rw [← List.cons_append, ← List.append_assoc] at split
        obtain ⟨earlier, same⟩ := List.append_inj' split rfl
        obtain rfl := List.singleton_inj.mp same
        have final : call ∈ since ++ [call] := List.mem_append_right _ (List.mem_singleton_self _)
        refine Or.inr ⟨⟨since, ⟨⟨before, earlier⟩, ?_⟩, ?_⟩, ?_, ?_⟩
        · intro channels inside
          exact last channels (List.mem_append_left _ inside)
        · intro inside
          exact kept (List.mem_append_left _ inside)
        · rintro channels rfl
          exact last channels final
        · rintro rfl
          exact kept final
  · rintro (rfl | ⟨⟨since, ⟨⟨before, rfl⟩, last⟩, kept⟩, apart, stays⟩)
    · refine ⟨[], ⟨⟨calls, rfl⟩, ?_⟩, List.not_mem_nil⟩
      intro channels inside
      cases inside
    · refine ⟨since ++ [call], ⟨⟨before, ?_⟩, ?_⟩, ?_⟩
      · rw [List.append_assoc, List.cons_append]
      · intro channels inside
        rcases List.mem_append.mp inside with earlier | latest
        · exact last channels earlier
        · exact apart channels (List.mem_singleton.mp latest).symm
      · intro inside
        rcases List.mem_append.mp inside with earlier | latest
        · exact kept earlier
        · exact stays (List.mem_singleton.mp latest).symm

theorem mem_registered_iff {calls : List RegistryCall} {worker : WorkerChannels} :
    worker ∈ registered calls ↔ Current calls worker := by
  induction calls using List.reverseRecOn with
  | nil =>
      apply iff_of_false List.not_mem_nil
      exact not_current_nil worker
  | append_singleton calls call inductionHypothesis =>
      rw [registered_concat, current_concat, ← inductionHypothesis]
      cases call with
      | register channels =>
          rw [RegistryCall.perform, mem_registerWorker]
          constructor
          · rintro (⟨listed, apart⟩ | rfl)
            · refine Or.inr ⟨listed, ?_, RegistryCall.noConfusion⟩
              rintro _ ⟨⟩
              exact apart.symm
            · exact Or.inl rfl
          · rintro (⟨⟨⟩⟩ | ⟨listed, apart, _⟩)
            · exact Or.inr rfl
            · exact Or.inl ⟨listed, (apart channels rfl).symm⟩
      | unregister id incarnationId =>
          rw [RegistryCall.perform, mem_unregisterWorker]
          constructor
          · rintro ⟨listed, stays⟩
            refine Or.inr ⟨listed, ?_, ?_⟩
            · rintro _ ⟨⟩
            · rintro ⟨⟩
              exact stays ⟨rfl, rfl⟩
          · rintro (⟨⟨⟩⟩ | ⟨listed, _, stays⟩)
            refine ⟨listed, ?_⟩
            rintro ⟨rfl, rfl⟩
            exact stays rfl

/-- Whatever was registered and unregistered, the list has one entry at most for an id,
and the entry is the id's last registered incarnation as long as that one was not
unregistered since. Any list is interleaved to a permutation of itself that serves the
TURN paths in turn. -/
theorem registered_current_and_balanced :
    (∀ calls : List RegistryCall, ((registered calls).map (·.id)).Nodup ∧
      ∀ worker, worker ∈ registered calls ↔ Current calls worker) ∧
    ∀ workers, (interleaveTurnPaths workers).Perm workers ∧
      ∀ taken ahead behind,
        countOf (·.turnPath) ahead ((interleaveTurnPaths workers).take taken) <
          countOf (·.turnPath) ahead (interleaveTurnPaths workers) →
        countOf (·.turnPath) behind ((interleaveTurnPaths workers).take taken) <
          countOf (·.turnPath) behind (interleaveTurnPaths workers) →
        countOf (·.turnPath) ahead ((interleaveTurnPaths workers).take taken) ≤
          countOf (·.turnPath) behind ((interleaveTurnPaths workers).take taken) + 1 := by
  constructor
  · intro calls
    exact ⟨nodup_registered calls, fun worker => mem_registered_iff⟩
  · intro workers
    refine ⟨interleaveTurnPaths_perm workers, ?_⟩
    intro taken ahead behind leftAhead leftBehind
    exact interleaveTurnPaths_balanced workers taken leftAhead leftBehind

end Csqtt
