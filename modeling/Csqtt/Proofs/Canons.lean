/-
Module: Csqtt.Proofs.Canons
Purpose: When the commands that copy the shared sources into a main package leave it as it was.
Trusted boundary: none
Main exports: Injected, injectCanons_cases, module_files_kept, Traceless,
  run_leaves_directory_iff, conflict_in_second_canon_leaves_copies, refused_again
-/
import Csqtt.Build.Canons

namespace Csqtt.Build

/-!
### Directories
-/

/-- What a copy is found as. -/
def Entry.IsCopy (entry : Option Entry) : Prop :=
  ∃ content, entry = some (.file content) ∨ entry = some (.link (some content))

namespace Directory

variable {directory : Directory} {name other : String} {content : List U8}

theorem copy_of_ne (ne : other ≠ name) : directory.copy name content other = directory other :=
  if_neg ne

theorem copy_self : Entry.IsCopy (directory.copy name content name) := by
  refine ⟨content, ?_⟩
  rw [copy, if_pos rfl]
  split
  · exact .inr rfl
  · exact .inl rfl

theorem existsAt_of_isCopy (isCopy : Entry.IsCopy (directory name)) :
    directory.existsAt name = true := by
  rw [existsAt]
  obtain ⟨content, found | found⟩ := isCopy <;> rw [found]

theorem ne_folder_of_isCopy {entry : Option Entry} (isCopy : Entry.IsCopy entry) :
    entry ≠ some .folder := by
  obtain ⟨content, rfl | rfl⟩ := isCopy <;> nofun

theorem existsAt_of_none (absent : directory name = none) : directory.existsAt name = false := by
  rw [existsAt, absent]

theorem unlink_self (ne_folder : directory name ≠ some .folder) :
    directory.unlink name name = none := if_pos ⟨rfl, ne_folder⟩

theorem unlink_of_ne (ne : other ≠ name) : directory.unlink name other = directory other :=
  if_neg fun both => ne both.1

/-- What was taken away is not there again. -/
theorem unlink_of_none (absent : directory other = none) : directory.unlink name other = none := by
  rw [unlink, absent, ite_self]

theorem unlinkAll_of_not_mem {names : List String} (others : other ∉ names) :
    names.foldl unlink directory other = directory other := by
  induction names generalizing directory with
  | nil => rfl
  | cons name later inductionHypothesis =>
    rw [List.mem_cons, not_or] at others
    rw [List.foldl_cons, inductionHypothesis others.2, unlink_of_ne others.1]

theorem unlinkAll_of_none {names : List String} (absent : directory other = none) :
    names.foldl unlink directory other = none := by
  induction names generalizing directory with
  | nil => exact absent
  | cons name later inductionHypothesis => exact inductionHypothesis (unlink_of_none absent)

theorem unlinkAll_of_mem {names : List String} (mem : other ∈ names)
    (ne_folder : directory other ≠ some .folder) : names.foldl unlink directory other = none := by
  induction names generalizing directory with
  | nil => cases mem
  | cons name later inductionHypothesis =>
    rw [List.foldl_cons]
    by_cases same : other = name
    · subst same
      exact unlinkAll_of_none (unlink_self ne_folder)
    · exact inductionHypothesis ((List.mem_cons.mp mem).resolve_left same)
        (by rwa [unlink_of_ne same])

end Directory

/-!
### Injection
-/

/-- Copies were made under these names, where nothing existed, and the rest is as before. -/
structure Injected (before after : Directory) (copied : List String) : Prop where
  nodup : copied.Nodup
  absent : ∀ name ∈ copied, before.existsAt name = false
  copies : ∀ name ∈ copied, Entry.IsCopy (after name)
  others : ∀ name ∉ copied, after name = before name

section Injection

variable {before after directory : Directory} {copied : List String} {name : String}

theorem injected_refl : Injected directory directory [] where
  nodup := List.nodup_nil
  absent := nofun
  copies := nofun
  others _ _ := rfl

theorem Injected.existsAt_iff (injected : Injected before after copied) :
    after.existsAt name = true ↔ name ∈ copied ∨ before.existsAt name = true := by
  by_cases mem : name ∈ copied
  · exact iff_of_true (Directory.existsAt_of_isCopy (injected.copies name mem)) (.inl mem)
  · rw [or_iff_right mem, Directory.existsAt, Directory.existsAt, injected.others name mem]

theorem Injected.copy (injected : Injected before after copied) {content : List U8}
    (fresh : ¬ after.existsAt name = true) :
    Injected before (after.copy name content) (copied ++ [name]) := by
  rw [injected.existsAt_iff, not_or] at fresh
  constructor
  · refine List.nodup_append.mpr ⟨injected.nodup, List.nodup_singleton name, ?_⟩
    intro other mem last inLast same
    rw [same, List.mem_singleton.mp inLast] at mem
    exact fresh.1 mem
  · intro other mem
    rcases List.mem_append.mp mem with mem | mem
    · exact injected.absent other mem
    · rw [List.mem_singleton.mp mem]
      exact Bool.not_eq_true _ ▸ fresh.2
  · intro other mem
    by_cases same : other = name
    · subst same
      exact Directory.copy_self
    · rw [Directory.copy_of_ne same]
      exact injected.copies other ((List.mem_append.mp mem).resolve_right
        (mt List.mem_singleton.mp same))
  · intro other out
    rw [List.mem_append, not_or, List.mem_singleton] at out
    rw [Directory.copy_of_ne out.2]
    exact injected.others other out.1

theorem Injected.kept (injected : Injected before after copied)
    (found : before.existsAt name = true) : after name = before name ∧ name ∉ copied := by
  have out : name ∉ copied := fun mem => by
    rw [injected.absent name mem] at found
    cases found
  exact ⟨injected.others name out, out⟩

/-- The directory is as before if nothing was copied. -/
theorem Injected.eq_iff (injected : Injected before after copied) :
    after = before ↔ copied = [] := by
  constructor
  · intro same
    refine List.eq_nil_iff_forall_not_mem.mpr fun name mem => ?_
    have exists' := Directory.existsAt_of_isCopy (injected.copies name mem)
    rw [same, injected.absent name mem] at exists'
    cases exists'
  · rintro rfl
    exact funext fun name => injected.others name List.not_mem_nil

/-- The clean-up takes away the copies, and with them links that led to nothing. -/
theorem Injected.unlinkAll_eq_iff (injected : Injected before after copied) :
    copied.foldl Directory.unlink after = before ↔ ∀ name ∈ copied, before name = none := by
  have taken {name : String} (mem : name ∈ copied) :=
    Directory.unlinkAll_of_mem mem (Directory.ne_folder_of_isCopy (injected.copies name mem))
  constructor
  · intro same name mem
    rw [← same, taken mem]
  · intro absent
    funext name
    by_cases mem : name ∈ copied
    · rw [taken mem, absent name mem]
    · rw [Directory.unlinkAll_of_not_mem mem, injected.others name mem]

/-- Names up to one that is in the way: it exists, or a copy has it. -/
def Blocked (before : Directory) (copied names front : List String) : Prop :=
  ∃ name behind, names = front ++ name :: behind ∧
    (name ∈ copied ++ front ∨ before.existsAt name = true)

variable {mod : HelperModule} {canon : Canon} {shared : SharedFiles} {android : Bool}

theorem injectFiles_cases : ∀ {sources : List SourceFile} {directory : Directory}
    {copied : List String}, Injected before directory copied →
      (∃ after, injectFiles mod canon sources directory copied =
          (after, .ok (copied ++ sources.map SourceFile.name)) ∧
        Injected before after (copied ++ sources.map SourceFile.name)) ∨
      ∃ after message front, injectFiles mod canon sources directory copied =
          (after, .error (.systemExit message)) ∧
        Injected before after (copied ++ front) ∧
        Blocked before copied (sources.map SourceFile.name) front
  | [], directory, copied, injected => by
      refine .inl ⟨directory, ?_, ?_⟩
      · rw [injectFiles, List.map_nil, List.append_nil]
      · rwa [List.map_nil, List.append_nil]
  | source :: later, directory, copied, injected => by
      rw [injectFiles, List.map_cons]
      split
      · next found =>
          refine .inr ⟨directory, _, [], rfl, (List.append_nil copied).symm ▸ injected,
            source.name, _, rfl, ?_⟩
          rw [List.append_nil]
          exact injected.existsAt_iff.mp found
      · next fresh =>
          have next : Injected before (directory.copy source.name source.content)
              (copied ++ [source.name]) := injected.copy fresh
          rcases @injectFiles_cases later _ _ next with
            ⟨after, ended, all⟩ | ⟨after, message, front, ended, some, name, behind, split, way⟩
          · rw [List.append_assoc, List.singleton_append] at ended all
            exact .inl ⟨after, ended, all⟩
          · rw [List.append_assoc, List.singleton_append] at some way
            exact .inr ⟨after, message, source.name :: front, ended, some, name, behind,
              by rw [split, List.cons_append], way⟩

end Injection

/-- The names of the files that the injection gets to, where none is in the way. -/
def reached (mod : HelperModule) (shared : SharedFiles) (android : Bool) (table : List Canon) :
    List String :=
  let included := table.filter fun canon => !canon.skipped mod android
  let logged := if mod.relative = none then included.take 1 else included
  logged.flatMap fun canon => (shared canon.dir canon.glob).map SourceFile.name

section Canons

variable {before after directory : Directory} {copied : List String} {name : String}
  {mod : HelperModule} {shared : SharedFiles} {android : Bool} {canon : Canon} {later : List Canon}

theorem reached_cons_skipped (skipped : canon.skipped mod android = true) :
    reached mod shared android (canon :: later) = reached mod shared android later := by
  rw [reached, List.filter_cons_of_neg (by rw [skipped]; exact Bool.false_ne_true), reached]

theorem reached_cons_last (included : canon.skipped mod android = false)
    (lost : mod.relative = none) : reached mod shared android (canon :: later) =
      (shared canon.dir canon.glob).map SourceFile.name := by
  rw [reached, List.filter_cons_of_pos (by rw [included]; rfl)]
  rw [if_pos lost, List.take_succ_cons, List.take_zero, List.flatMap_singleton]

theorem reached_cons (included : canon.skipped mod android = false)
    (logged : ¬ mod.relative = none) : reached mod shared android (canon :: later) =
      (shared canon.dir canon.glob).map SourceFile.name ++ reached mod shared android later := by
  rw [reached, List.filter_cons_of_pos (by rw [included]; rfl)]
  rw [if_neg logged, List.flatMap_cons, reached, if_neg logged]

/-- The injection gets through, is refused by a name in its way, or fails at its log. -/
theorem injectCanons_cases : ∀ {table : List Canon} {directory : Directory}
    {copied : List String}, Injected before directory copied →
      (∃ after, injectCanons mod shared android table directory copied =
          (after, .ok (copied ++ reached mod shared android table)) ∧
        Injected before after (copied ++ reached mod shared android table) ∧
        (mod.relative = none → reached mod shared android table = [])) ∨
      (∃ after message front, injectCanons mod shared android table directory copied =
          (after, .error (.systemExit message)) ∧
        Injected before after (copied ++ front) ∧
        Blocked before copied (reached mod shared android table) front) ∨
      ∃ after, injectCanons mod shared android table directory copied =
          (after, .error .valueError) ∧
        Injected before after (copied ++ reached mod shared android table) ∧ mod.relative = none
  | [], directory, copied, injected => by
      have nothing : reached mod shared android [] = [] := by
        rw [reached, List.filter_nil, List.take_nil, ite_self, List.flatMap_nil]
      rw [nothing, List.append_nil]
      exact .inl ⟨directory, rfl, injected, fun _ => rfl⟩
  | canon :: later, directory, copied, injected => by
      rw [injectCanons]
      split
      · next skipped =>
          rw [reached_cons_skipped skipped]
          exact injectCanons_cases injected
      · next taken =>
          have included := Bool.eq_false_of_not_eq_true taken
          rcases @injectFiles_cases before mod canon (shared canon.dir canon.glob) _ _ injected with
            ⟨between, ended, some⟩ | ⟨after, message, front, ended, some, name, behind, split, way⟩
          · rw [ended]
            dsimp only
            by_cases lost : mod.relative = none
            · rw [if_pos lost, reached_cons_last included lost]
              exact .inr (.inr ⟨between, rfl, some, lost⟩)
            · rw [if_neg lost, reached_cons included lost]
              rcases @injectCanons_cases later _ _ some with ⟨after, ended, all, -⟩ |
                ⟨after, message, front, ended, some, name, behind, split, way⟩ |
                ⟨after, ended, all, lost'⟩
              · rw [List.append_assoc] at ended all
                exact .inl ⟨after, ended, all, fun lost' => absurd lost' lost⟩
              · rw [List.append_assoc] at some way
                refine .inr (.inl ⟨after, message, _, ended, some, name, behind, ?_, way⟩)
                rw [split, List.append_assoc]
              · exact absurd lost' lost
          · rw [ended]
            refine .inr (.inl ⟨after, message, front, rfl, some, name, ?_⟩)
            by_cases lost : mod.relative = none
            · rw [reached_cons_last included lost]
              exact ⟨behind, split, way⟩
            · rw [reached_cons included lost, split]
              exact ⟨behind ++ reached mod shared android later, List.append_assoc _ _ _, way⟩

/-- Among the names up to one that is in the way a name comes twice or exists. -/
theorem Blocked.not_free {names front : List String} (blocked : Blocked before [] names front) :
    ¬ (names.Nodup ∧ ∀ name ∈ names, before.existsAt name = false) := by
  rintro ⟨nodup, free⟩
  obtain ⟨name, behind, rfl, way | found⟩ := blocked
  · exact (List.nodup_append.mp nodup).2.2 name way name List.mem_cons_self rfl
  · rw [free name (List.mem_append_right _ List.mem_cons_self)] at found
    cases found

/-- Nothing was copied exactly if the first name exists. -/
theorem Blocked.eq_nil_iff {names front : List String} (blocked : Blocked before [] names front)
    (injected : Injected before after front) :
    front = [] ↔ ∃ first ∈ names.head?, before.existsAt first = true := by
  obtain ⟨name, behind, rfl, way⟩ := blocked
  cases front with
  | nil => exact iff_of_true rfl ⟨name, rfl, way.resolve_left List.not_mem_nil⟩
  | cons first more =>
    refine iff_of_false (List.cons_ne_nil _ _) ?_
    rintro ⟨other, head, found⟩
    obtain rfl := Option.some.inj head
    rw [injected.absent first List.mem_cons_self] at found
    cases found

/-- No name that is reached is taken or comes twice, and the injection gets through; or the first
of the names exists. -/
def Traceless (mod : HelperModule) (shared : SharedFiles) (android : Bool) (table : List Canon)
    (directory : Directory) : Prop :=
  ((reached mod shared android table).Nodup ∧
    (∀ name ∈ reached mod shared android table, directory name = none) ∧
    (mod.relative = none → reached mod shared android table = [])) ∨
  ∃ first ∈ (reached mod shared android table).head?, directory.existsAt first = true

variable {table : List Canon} {tool : Tool} {rest : Ending}

theorem withCanons_of_ok (kept : ∀ directory, (tool directory).1 = directory)
    (ended : injectCanons mod shared android table directory [] = (after, .ok copied)) :
    (withCanons mod shared android table tool rest directory).1 =
      copied.foldl Directory.unlink after := by
  have same := kept after
  cases run : tool after with
  | mk settled ran =>
    rw [run] at same
    obtain rfl : settled = after := same
    rw [withCanons, ended]
    dsimp only
    rw [run]
    cases ran <;> rfl

theorem withCanons_of_error {failure : Failure}
    (ended : injectCanons mod shared android table directory [] = (after, .error failure)) :
    withCanons mod shared android table tool rest directory = (after, .raised failure) := by
  rw [withCanons, ended]

theorem withCanons_leaves_directory_iff (kept : ∀ directory, (tool directory).1 = directory) :
    (withCanons mod shared android table tool rest directory).1 = directory ↔
      Traceless mod shared android table directory := by
  rw [Traceless]
  rcases @injectCanons_cases directory mod shared android table _ _ injected_refl with
    ⟨after, ended, all, logged⟩ | ⟨after, message, front, ended, some, blocked⟩ |
    ⟨after, ended, all, lost⟩
  · rw [List.nil_append] at ended all
    rw [withCanons_of_ok kept ended, all.unlinkAll_eq_iff]
    constructor
    · exact fun absent => .inl ⟨all.nodup, absent, logged⟩
    · rintro (⟨-, absent, -⟩ | ⟨first, head, found⟩)
      · exact absent
      · rw [all.absent first (List.mem_of_mem_head? head)] at found
        cases found
  · rw [withCanons_of_error ended, some.eq_iff, List.nil_append, blocked.eq_nil_iff some]
    refine (or_iff_right fun free => blocked.not_free ⟨free.1, fun name mem => ?_⟩).symm
    exact Directory.existsAt_of_none (free.2.1 name mem)
  · rw [List.nil_append] at all
    rw [withCanons_of_error ended, all.eq_iff]
    constructor
    · intro nothing
      rw [nothing]
      exact .inl ⟨List.nodup_nil, nofun, fun _ => rfl⟩
    · rintro (⟨-, -, logged⟩ | ⟨first, head, found⟩)
      · exact logged lost
      · rw [all.absent first (List.mem_of_mem_head? head)] at found
        cases found

theorem withCanons_keeps (kept : ∀ directory, (tool directory).1 = directory)
    (found : directory.existsAt name = true) :
    (withCanons mod shared android table tool rest directory).1 name = directory name := by
  rcases @injectCanons_cases directory mod shared android table _ _ injected_refl with
    ⟨after, ended, all, -⟩ | ⟨after, message, front, ended, some, -⟩ | ⟨after, ended, all, -⟩
  · rw [List.nil_append] at ended all
    rw [withCanons_of_ok kept ended, Directory.unlinkAll_of_not_mem (all.kept found).2,
      (all.kept found).1]
  · rw [withCanons_of_error ended]
    exact (some.kept found).1
  · rw [withCanons_of_error ended]
    exact (all.kept found).1

/-- What an injection that fails leaves stands in the way of the next one. -/
theorem leftover_of_error {failure : Failure}
    (ended : injectCanons mod shared android table directory [] = (after, .error failure))
    (traces : after ≠ directory) :
    ∃ first ∈ (reached mod shared android table).head?, after.existsAt first = true := by
  have head {names behind : List String} (split : reached mod shared android table =
      names ++ behind) (some : Injected directory after names) :
      ∃ first ∈ (reached mod shared android table).head?, after.existsAt first = true := by
    cases names with
    | nil => exact absurd (some.eq_iff.mpr rfl) traces
    | cons first more =>
      rw [split]
      exact ⟨first, rfl, Directory.existsAt_of_isCopy (some.copies first List.mem_cons_self)⟩
  rcases @injectCanons_cases directory mod shared android table _ _ injected_refl with
    ⟨after', ended', -⟩ | ⟨after', message, front, ended', some, name, behind, split, -⟩ |
    ⟨after', ended', all, -⟩
  · cases ended.symm.trans ended'
  · obtain ⟨rfl, -⟩ := Prod.mk.inj (ended.symm.trans ended')
    exact head split some
  · obtain ⟨rfl, -⟩ := Prod.mk.inj (ended.symm.trans ended')
    exact head (List.append_nil _).symm all

/-- After an injection that left traces every later command of the module is refused. -/
theorem refused_again {failure : Failure}
    (ended : injectCanons mod shared android table directory [] = (after, .error failure))
    (traces : after ≠ directory) :
    ∃ message, withCanons mod shared android table tool rest after =
      (after, .raised (.systemExit message)) := by
  obtain ⟨first, isHead, found⟩ := leftover_of_error ended traces
  have mem := List.mem_of_mem_head? isHead
  rcases @injectCanons_cases after mod shared android table _ _ injected_refl with
    ⟨later, ended', all, -⟩ | ⟨later, message, front, ended', some, blocked⟩ |
    ⟨later, ended', all, -⟩
  · exact absurd mem (all.kept found).2
  · have nothing := (blocked.eq_nil_iff some).mpr ⟨first, isHead, found⟩
    rw [some.eq_iff.mpr nothing] at ended'
    exact ⟨message, withCanons_of_error ended'⟩
  · exact absurd mem (all.kept found).2

end Canons

/-!
### Commands
-/

/-- The command gets to the injection. -/
def Command.starts (command : Command) (mod : HelperModule) : Bool :=
  match command with
  | .test goFound => goFound && mod.goMod
  | .desktop _ => mod.goMod
  | .android _ => true

def Command.forAndroid (command : Command) : Bool :=
  match command with
  | .test _ | .desktop _ => false
  | .android _ => true

section Commands

variable {mod : HelperModule} {shared : SharedFiles} {table : List Canon} {tool : Tool}
  {directory : Directory} {command : Command}

theorem run_of_not_starts (idle : command.starts mod = false) :
    (command.run mod shared table tool directory).1 = directory := by
  cases command with
  | test goFound =>
    rw [Command.starts, Bool.and_eq_false_iff] at idle
    rw [Command.run, cmdTest]
    rcases idle with idle | idle
    · rw [idle]
      rfl
    · rw [idle]
      cases goFound <;> rfl
  | desktop rest =>
    rw [Command.starts] at idle
    rw [Command.run, buildDesktop, idle]
    rfl
  | android rest => cases idle

theorem run_of_starts (starts : command.starts mod = true) : ∃ rest,
    command.run mod shared table tool directory =
      withCanons mod shared command.forAndroid table tool rest directory := by
  cases command with
  | test goFound =>
    rw [Command.starts, Bool.and_eq_true_iff] at starts
    refine ⟨.returned true, ?_⟩
    rw [Command.run, cmdTest, starts.1, starts.2]
    rfl
  | desktop rest =>
    rw [Command.starts] at starts
    refine ⟨rest, ?_⟩
    rw [Command.run, buildDesktop, starts]
    rfl
  | android rest => exact ⟨rest, rfl⟩

/-- A command that gets to the injection leaves the main package as it was exactly if nothing is
in the way of the copies, or already of the first. -/
theorem run_leaves_directory_iff (kept : ∀ directory, (tool directory).1 = directory) :
    (command.run mod shared table tool directory).1 = directory ↔
      (command.starts mod = true →
        Traceless mod shared command.forAndroid table directory) := by
  cases starts : command.starts mod with
  | false => exact iff_of_true (run_of_not_starts starts) nofun
  | true =>
    obtain ⟨rest, same⟩ := @run_of_starts mod shared table tool directory command starts
    rw [same, withCanons_leaves_directory_iff kept, imp_iff_right rfl]

/-- The files of the main package stay, however the command ends. -/
theorem module_files_kept (kept : ∀ directory, (tool directory).1 = directory) {name : String}
    (found : directory.existsAt name = true) :
    (command.run mod shared table tool directory).1 name = directory name := by
  cases starts : command.starts mod with
  | false => rw [run_of_not_starts starts]
  | true =>
    obtain ⟨rest, same⟩ := @run_of_starts mod shared table tool directory command starts
    rw [same]
    exact withCanons_keeps kept found

end Commands

/-- A main package with its own file under the name of one of the second canon. -/
def ownProtect : Directory := fun name =>
  if name = "main.go" then some (.file [1])
  else if name = "protect_android.go" then some (.file [2])
  else none

/-- Two of the shared directories, and little of what is in them. -/
def sharedFiles : SharedFiles := fun dir _ =>
  if dir = "offtun" then [{ name := "offtun_linux.go", content := [3] }]
  else if dir = "protect" then [{ name := "protect_android.go", content := [4] }]
  else []

def echoHelper : HelperModule where
  mainDir := "examples/moduleecho/native/helper"
  relative := some "examples/moduleecho/native/helper"
  goMod := true
  descriptor _ := false

theorem echo_build_leaves_directory :
    ((Command.desktop (.returned true)).run echoHelper sharedFiles canons
      (fun directory => (directory, .exited 1)) (fun _ => none)).1 = fun _ => none :=
  (@run_leaves_directory_iff echoHelper sharedFiles canons _ _ _ (fun _ => rfl)).mpr
    fun _ => .inl ⟨by decide, fun _ _ => rfl, by decide⟩

/-- The refusal at the second canon leaves the copies of the first. -/
theorem conflict_in_second_canon_leaves_copies :
    (cmdTest echoHelper sharedFiles canons (fun directory => (directory, .exited 0)) true
      ownProtect).1 "offtun_linux.go" ≠ ownProtect "offtun_linux.go" ∧
    (cmdTest echoHelper sharedFiles canons (fun directory => (directory, .exited 0)) true
      ownProtect).2 = .raised (.systemExit (conflict echoHelper
        { dir := "protect", glob := "protect_*.go", label := "protect", gate := none,
          android := true } { name := "protect_android.go", content := [4] })) :=
  ⟨by decide, rfl⟩

end Csqtt.Build
