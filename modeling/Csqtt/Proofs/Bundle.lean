/-
Module: Csqtt.Proofs.Bundle
Purpose: When a refused release is left as it was, and what the manifest of a release lists.
Trusted boundary: none
Main exports: packAll_written, packAll_files_eq_iff, Lists, cmdBundle_cases, manifest_keys,
  refused_release_untouched_iff, partial_set_writes_archive
-/
import Csqtt.Build.Bundle

namespace Csqtt.Bundle

/-!
### Archives
-/

section Archives

variable {archive : String → String} {dirs : List (String × BuiltDir)} {release : Release}
  {name : String}

theorem write_files_self {artifact : Artifact} :
    (release.write name artifact).files name = some artifact := if_pos rfl

/-- The manifest says of every archive its key and its address. -/
theorem packAll_bundles : (packAll archive dirs release).2 =
    dirs.map fun bundle => (bundle.1, "https://<host>/" ++ archive bundle.1) := by
  induction dirs generalizing release with
  | nil => rfl
  | cons bundle later inductionHypothesis =>
    rw [packAll, inductionHypothesis, List.map_cons]

theorem packAll_keys : (packAll archive dirs release).2.map Prod.fst = dirs.map Prod.fst := by
  rw [packAll_bundles, List.map_map]
  rfl

/-- What is written are the archives of what the manifest says. -/
theorem packAll_written : (packAll archive dirs release).1.written =
    release.written ++ (packAll archive dirs release).2.map fun bundle => archive bundle.1 := by
  induction dirs generalizing release with
  | nil => exact (List.append_nil _).symm
  | cons bundle later inductionHypothesis =>
    rw [packAll, inductionHypothesis, Release.write, List.map_cons, List.append_assoc,
      List.singleton_append]

theorem packAll_files_of_not_mem (others : ∀ bundle ∈ dirs, archive bundle.1 ≠ name) :
    (packAll archive dirs release).1.files name = release.files name := by
  induction dirs generalizing release with
  | nil => rfl
  | cons bundle later inductionHypothesis =>
    rw [packAll, inductionHypothesis fun bundle mem => others bundle (List.mem_cons_of_mem _ mem)]
    exact if_neg (others bundle List.mem_cons_self).symm

theorem packAll_files_of_mem (injective : Function.Injective archive)
    (nodup : (dirs.map Prod.fst).Nodup) {bundle : String × BuiltDir} (mem : bundle ∈ dirs) :
    (packAll archive dirs release).1.files (archive bundle.1) =
      some (.archive (zipFlat bundle.2)) := by
  induction dirs generalizing release with
  | nil => cases mem
  | cons first later inductionHypothesis =>
    rw [List.map_cons, List.nodup_cons] at nodup
    rw [packAll]
    rcases List.mem_cons.mp mem with rfl | mem
    · rw [packAll_files_of_not_mem fun other inLater same =>
        nodup.1 (List.mem_map.mpr ⟨other, inLater, injective same⟩)]
      exact if_pos rfl
    · exact inductionHypothesis nodup.2 mem

/-- Packing changes nothing exactly if every archive is there already. -/
theorem packAll_files_eq_iff (injective : Function.Injective archive)
    (nodup : (dirs.map Prod.fst).Nodup) :
    (packAll archive dirs release).1.files = release.files ↔
      ∀ bundle ∈ dirs, release.files (archive bundle.1) = some (.archive (zipFlat bundle.2)) := by
  constructor
  · intro same bundle mem
    rw [← same, packAll_files_of_mem injective nodup mem]
  · intro there
    funext name
    by_cases packed : ∃ bundle ∈ dirs, archive bundle.1 = name
    · obtain ⟨bundle, mem, rfl⟩ := packed
      rw [packAll_files_of_mem injective nodup mem, there bundle mem]
    · exact packAll_files_of_not_mem fun bundle mem same => packed ⟨bundle, mem, same⟩

end Archives

theorem androidArchive_injective (mod : String) : Function.Injective (androidArchive mod) := by
  intro first second same
  rw [androidArchive, androidArchive, String.append_left_inj, String.append_right_inj] at same
  exact same

theorem androidAbiList_nodup : androidAbiList.Nodup := by
  decide

theorem filterMap_keys_sublist {entries : List (String × Option BuiltDir)} :
    ((entries.filterMap fun (name, item) => item.map (name, ·)).map Prod.fst).Sublist
      (entries.map Prod.fst) := by
  induction entries with
  | nil => exact .slnil
  | cons entry later inductionHypothesis =>
    rcases entry with ⟨name, _ | dir⟩
    · exact inductionHypothesis.cons name
    · exact inductionHypothesis.cons_cons name

theorem directories_nodup {root : Root} {dirs : List (String × BuiltDir)}
    (found : root.directories = some dirs) : (dirs.map Prod.fst).Nodup := by
  cases root with
  | absent =>
    obtain rfl := Option.some.inj found
    exact List.nodup_nil
  | file => cases found
  | folder entries =>
    obtain rfl := Option.some.inj found
    exact filterMap_keys_sublist.nodup entries.nodup

section Built

variable {mod : BundleModule} {androidRoot : Root}

theorem mem_androidDirs {abi : String} {dir : BuiltDir} :
    (abi, dir) ∈ androidDirs mod androidRoot ↔
      abi ∈ androidAbiList ∧ builtAbi mod androidRoot abi = some dir := by
  rw [androidDirs, List.mem_filterMap]
  constructor
  · rintro ⟨listed, mem, found⟩
    obtain ⟨built, isBuilt, same⟩ := Option.map_eq_some_iff.mp found
    obtain ⟨rfl, rfl⟩ := Prod.mk.inj same
    exact ⟨mem, isBuilt⟩
  · rintro ⟨mem, found⟩
    exact ⟨abi, mem, by rw [found]; rfl⟩

theorem androidDirs_keys : (androidDirs mod androidRoot).map Prod.fst =
    androidAbiList.filter fun abi => (builtAbi mod androidRoot abi).isSome := by
  rw [androidDirs]
  induction androidAbiList with
  | nil => rfl
  | cons abi later inductionHypothesis =>
    cases found : builtAbi mod androidRoot abi with
    | none => rw [List.filterMap_cons_none (by rw [found]; rfl), inductionHypothesis,
        List.filter_cons_of_neg (by rw [found]; exact Bool.false_ne_true)]
    | some dir => rw [List.filterMap_cons_some (by rw [found]; rfl), List.map_cons,
        inductionHypothesis, List.filter_cons_of_pos (by rw [found]; rfl)]

theorem androidDirs_nodup : ((androidDirs mod androidRoot).map Prod.fst).Nodup := by
  rw [androidDirs_keys]
  exact androidAbiList_nodup.filter _

/-- An ABI that is not in the manifest is not built. -/
theorem not_mem_keys_iff {abi : String} (listed : abi ∈ androidAbiList) {release : Release} :
    ((packAll (androidArchive mod.name) (androidDirs mod androidRoot) release).2.lookup
      abi).isNone = true ↔ builtAbi mod androidRoot abi = none := by
  have keyed : (∃ bundle ∈ (packAll (androidArchive mod.name) (androidDirs mod androidRoot)
      release).2, (abi == bundle.1) = true) ↔ (builtAbi mod androidRoot abi).isSome = true := by
    calc (∃ bundle ∈ (packAll (androidArchive mod.name) (androidDirs mod androidRoot)
            release).2, (abi == bundle.1) = true)
        ↔ abi ∈ (packAll (androidArchive mod.name) (androidDirs mod androidRoot)
            release).2.map Prod.fst := by
          rw [List.mem_map]
          refine exists_congr fun bundle => and_congr_right fun _ => ?_
          rw [beq_iff_eq, eq_comm]
      _ ↔ (builtAbi mod androidRoot abi).isSome = true := by
          rw [packAll_keys, androidDirs_keys, List.mem_filter, and_iff_right listed]
  rw [Option.isNone_iff_eq_none, ← Option.not_isSome_iff_eq_none, List.lookup_isSome_iff, keyed,
    Option.not_isSome_iff_eq_none]

theorem builtAbi_of_not_present (absent : androidRoot.present = false) (abi : String) :
    builtAbi mod androidRoot abi = none := by
  cases androidRoot with
  | absent => rfl
  | file => cases absent
  | folder entries => cases absent

end Built

/-!
### Releases
-/

/-- The manifest lists the architectures that are built, and their archives and it were written. -/
structure Lists (mod : BundleModule) (androidRoot desktopRoot : Root) (release : Release)
    (manifest : Manifest) : Prop where
  there : release.files manifestName = some (.manifest manifest)
  android : manifest.android.map Prod.fst = (androidDirs mod androidRoot).map Prod.fst
  desktop : ∃ dirs, desktopRoot.directories = some dirs ∧
    manifest.desktop.map Prod.fst = dirs.map Prod.fst
  written : release.written =
    manifest.android.map (fun bundle => androidArchive mod.name bundle.1) ++
      manifest.desktop.map (fun bundle => desktopArchive mod.name bundle.1) ++ [manifestName]

section Releases

variable {mod : BundleModule} {reader : Reader} {androidRoot desktopRoot : Root}
  {release : String → Option Artifact}

/-- All bundles fit their keys. -/
def Signed (mod : BundleModule) (reader : Reader) (androidRoot desktopRoot : Root) : Prop :=
  ∃ desktopDirs, desktopRoot.directories = some desktopDirs ∧
    checkAll reader (toZip mod androidRoot desktopDirs) = .fits

/-- Some ABI is not built. -/
def Partial (mod : BundleModule) (androidRoot : Root) : Prop :=
  ∃ abi ∈ androidAbiList, builtAbi mod androidRoot abi = none

theorem missing_isEmpty_iff {release : Release} :
    (androidAbiList.filter fun abi => ((packAll (androidArchive mod.name)
      (androidDirs mod androidRoot) release).2.lookup abi).isNone).isEmpty = true ↔
        ¬ Partial mod androidRoot := by
  rw [List.isEmpty_iff, List.filter_eq_nil_iff]
  constructor
  · rintro all ⟨abi, listed, missing⟩
    exact all abi listed ((not_mem_keys_iff listed).mpr missing)
  · intro whole abi listed missing
    exact whole ⟨abi, listed, (not_mem_keys_iff listed).mp missing⟩

/-- The release before anything is written. -/
def unwritten (release : String → Option Artifact) : Release where
  files := release
  written := []

/-- The command ends before it writes, or with the archives of the ABIs that are built, or with
all archives and the manifest. -/
theorem cmdBundle_cases :
    (¬ Signed mod reader androidRoot desktopRoot ∧
      (cmdBundle mod reader androidRoot desktopRoot release).1 = unwritten release ∧
      (cmdBundle mod reader androidRoot desktopRoot release).2 ≠ .returned true) ∨
    (Signed mod reader androidRoot desktopRoot ∧ Partial mod androidRoot ∧
      cmdBundle mod reader androidRoot desktopRoot release = ((packAll (androidArchive mod.name)
        (androidDirs mod androidRoot) (unwritten release)).1, .returned false)) ∨
    (androidRoot.present = true → ¬ Partial mod androidRoot) ∧
      (cmdBundle mod reader androidRoot desktopRoot release).2 = .returned true ∧
      ∃ manifest, Lists mod androidRoot desktopRoot
        (cmdBundle mod reader androidRoot desktopRoot release).1 manifest := by
  rw [cmdBundle, Signed]
  cases found : desktopRoot.directories with
  | none => exact .inl ⟨nofun, rfl, nofun⟩
  | some desktopDirs =>
    dsimp only
    cases checked : checkAll reader (toZip mod androidRoot desktopDirs) with
    | mismatch text | raised =>
      refine .inl ⟨?_, rfl, nofun⟩
      rintro ⟨_, same, fits⟩
      rw [← Option.some.inj same, checked] at fits
      cases fits
    | fits =>
      have signed : ∃ dirs, some desktopDirs = some dirs ∧
          checkAll reader (toZip mod androidRoot dirs) = .fits := ⟨desktopDirs, rfl, checked⟩
      dsimp only
      split
      · next refused =>
          rw [Bool.and_eq_true_iff, Bool.not_eq_true', ← Bool.not_eq_true, missing_isEmpty_iff,
            not_not] at refused
          exact .inr (.inl ⟨signed, refused.2, rfl⟩)
      · next taken =>
          refine .inr (.inr ⟨fun present lacking => taken ?_, rfl, ?_⟩)
          · rw [Bool.and_eq_true_iff, Bool.not_eq_true', ← Bool.not_eq_true, missing_isEmpty_iff,
              not_not]
            exact ⟨present, lacking⟩
          · refine ⟨_, write_files_self, packAll_keys, ⟨desktopDirs, found, packAll_keys⟩, ?_⟩
            rw [Release.write, packAll_written, packAll_written, List.nil_append]

/-- The keys of a manifest are different, and where there is a place for ABIs all of them are
listed. -/
theorem manifest_keys
    (done : (cmdBundle mod reader androidRoot desktopRoot release).2 = .returned true) :
    ∃ manifest, (cmdBundle mod reader androidRoot desktopRoot release).1.files manifestName =
        some (.manifest manifest) ∧
      (manifest.android.map Prod.fst).Nodup ∧ (manifest.desktop.map Prod.fst).Nodup ∧
      (androidRoot.present = true → manifest.android.map Prod.fst = androidAbiList) := by
  rcases @cmdBundle_cases mod reader androidRoot desktopRoot release with
    ⟨-, -, ended⟩ | ⟨-, -, ended⟩ | ⟨whole, -, manifest, lists⟩
  · exact absurd done ended
  · rw [ended] at done
    cases done
  · obtain ⟨dirs, found, keys⟩ := lists.desktop
    refine ⟨manifest, lists.there, ?_, ?_, fun present => ?_⟩
    · rw [lists.android]
      exact androidDirs_nodup
    · rw [keys]
      exact directories_nodup found
    · rw [lists.android, androidDirs_keys, List.filter_eq_self]
      exact fun abi listed => Option.isSome_iff_ne_none.mpr fun missing =>
        whole present ⟨abi, listed, missing⟩

/-- A refused release is as before exactly if a signature does not fit, or all ABIs are built, or
the archives of those that are built are there already. What a release lists it has written. -/
theorem refused_release_untouched_iff :
    (((cmdBundle mod reader androidRoot desktopRoot release).2 = .returned false →
        (cmdBundle mod reader androidRoot desktopRoot release).1.files = release) ∧
      ((cmdBundle mod reader androidRoot desktopRoot release).2 = .returned true →
        ∃ manifest, Lists mod androidRoot desktopRoot
          (cmdBundle mod reader androidRoot desktopRoot release).1 manifest)) ↔
      (Signed mod reader androidRoot desktopRoot → Partial mod androidRoot →
        ∀ abi ∈ androidAbiList, ∀ dir, builtAbi mod androidRoot abi = some dir →
          release (androidArchive mod.name abi) = some (.archive (zipFlat dir))) := by
  rcases @cmdBundle_cases mod reader androidRoot desktopRoot release with
    ⟨unsigned, before, ended⟩ | ⟨signed, lacking, ended⟩ | ⟨whole, ended, lists⟩
  · rw [before]
    exact iff_of_true ⟨fun _ => rfl, fun done => absurd done ended⟩
      fun signed => absurd signed unsigned
  · rw [ended]
    have there := @packAll_files_eq_iff _ (androidDirs mod androidRoot) (unwritten release)
      (androidArchive_injective mod.name) androidDirs_nodup
    constructor
    · intro meets _ _ abi listed dir isBuilt
      exact there.mp (meets.1 rfl) (abi, dir) (mem_androidDirs.mpr ⟨listed, isBuilt⟩)
    · intro already
      refine ⟨fun _ => there.mpr fun bundle mem => ?_, nofun⟩
      obtain ⟨listed, isBuilt⟩ := mem_androidDirs.mp mem
      exact already signed lacking bundle.1 listed bundle.2 isBuilt
  · refine iff_of_true ⟨fun refused => ?_, fun _ => lists⟩ ?_
    · rw [ended] at refused
      cases refused
    · intro _ lacking abi _ dir isBuilt
      rw [builtAbi_of_not_present
        (Bool.eq_false_of_not_eq_true fun present => whole present lacking)] at isBuilt
      cases isBuilt

end Releases

/-- Only one of the four ABIs, and nothing in the release yet. -/
def oneAbi : Root :=
  .folder {
    entries := [("arm64-v8a", some {
      entries := [("libecho.so", some { content := [1], modified := 0 }),
        ("module.json", some { content := [2], modified := 0 })]
      nodup := by decide })]
    nodup := by decide }

/-- The release is refused after the archive of the one ABI was written. -/
theorem partial_set_writes_archive :
    let bundled := cmdBundle
      { name := "echo", root := "examples/moduleecho", helper := "libecho.so", version := "1.0.0" }
      { loads := fun _ => .object (.text "arm64-v8a"), missing := "" } oneAbi .absent fun _ => none
    bundled.2 = .returned false ∧
      bundled.1.files "echo-android-arm64-v8a.zip" ≠ none := by
  decide

end Csqtt.Bundle
