/-
Module: Csqtt.Build.Bundle
Purpose: The packing of what was built for a release, with the manifest of the release.
Trusted boundary: the reading of JSON; an archive is told by the files in it
Main exports: Folder, Root, Release, androidAbiList, zipFlat, bundleTargetMismatch, Manifest,
  packAll, cmdBundle
-/
import Csqtt.Core.Word

namespace Csqtt.Bundle

/-!
### What was built
-/

/-- The entries of a folder in the order of their names, of which no two are the same. -/
structure Folder (Item : Type) where
  entries : List (String × Item)
  nodup : (entries.map Prod.fst).Nodup

structure BuiltFile where
  content : List U8
  modified : Nat
deriving DecidableEq

/-- What is in a folder and is not a file has no content. -/
abbrev BuiltDir := Folder (Option BuiltFile)

/-- Where the bundles of a platform are looked for. What is in it and is not a folder is told
only by its name. -/
inductive Root where
  | absent
  | file
  | folder (entries : Folder (Option BuiltDir))

namespace Root

def present (root : Root) : Bool :=
  match root with
  | absent => false
  | file | folder _ => true

/-- The folder with a name. -/
def directory (root : Root) (name : String) : Option BuiltDir :=
  match root with
  | absent | file => none
  | folder entries => (entries.entries.lookup name).join

/-- All folders. -/
def directories (root : Root) : Option (List (String × BuiltDir)) :=
  match root with
  | absent => some []
  | file => none
  | folder entries => some (entries.entries.filterMap fun (name, item) => item.map (name, ·))

end Root

def BuiltDir.file (dir : BuiltDir) (name : String) : Option BuiltFile :=
  (dir.entries.lookup name).join

def androidAbiList : List String := ["arm64-v8a", "armeabi-v7a", "x86", "x86_64"]

structure BundleModule where
  name : String
  root : String
  helper : String
  version : String
deriving DecidableEq, Repr

/-- An ABI is built if there is the library and the descriptor. -/
def builtAbi (mod : BundleModule) (androidRoot : Root) (abi : String) : Option BuiltDir :=
  match androidRoot.directory abi with
  | some dir =>
      if (dir.file mod.helper).isSome && (dir.file "module.json").isSome then some dir else none
  | none => none

/-- The built ABIs, in the order of the list. -/
def androidDirs (mod : BundleModule) (androidRoot : Root) : List (String × BuiltDir) :=
  androidAbiList.filterMap fun abi => (builtAbi mod androidRoot abi).map (abi, ·)

/-!
### Signatures
-/

/-- The value of a key, of which a text is told apart and of the rest whether it counts as
true. -/
inductive JsonTarget where
  | missing
  | text (target : String)
  | other (shown : String) (counts : Bool)
deriving DecidableEq, Repr

inductive Loaded where
  | failed (error : String)
  | object (bundleTarget : JsonTarget)
  | other
deriving DecidableEq, Repr

/-- The reading of a descriptor, and what is said where there is no file to read. -/
structure Reader where
  loads : List U8 → Loaded
  missing : String

/-- A mismatch is told. Of a descriptor that is no object there is no key to read. -/
inductive Checked where
  | fits
  | mismatch (text : String)
  | raised
deriving DecidableEq, Repr

def readDescriptor (reader : Reader) (dir : BuiltDir) : Loaded :=
  match dir.file "module.json" with
  | some file => reader.loads file.content
  | none => .failed reader.missing

def bundleTargetMismatch (reader : Reader) (path : String) (dir : BuiltDir) (expected : String) :
    Checked :=
  let unsigned := s!"{path}: нет bundleTarget — пересобери модуль этим build.py"
  let foreign (got : String) :=
    s!"{path}: bundleTarget={got}, а бандл кладётся под ключ {expected}"
  match readDescriptor reader dir with
  | .failed error => .mismatch s!"{path} не читается: {error}"
  | .other => .raised
  | .object .missing => .mismatch unsigned
  | .object (.text got) =>
      if got = "" then .mismatch unsigned
      else if got ≠ expected then .mismatch (foreign got)
      else .fits
  | .object (.other shown counts) => .mismatch (if counts then foreign shown else unsigned)

/-- The first bundle that does not fit decides. -/
def checkAll (reader : Reader) : List (String × String × BuiltDir) → Checked
  | [] => .fits
  | (root, key, dir) :: later =>
      match bundleTargetMismatch reader s!"{root}/{key}/module.json" dir key with
      | .fits => checkAll reader later
      | bad => bad

/-!
### Release
-/

/-- The architectures of each platform, with the addresses of their bundles. -/
structure Manifest where
  version : String
  android : List (String × String)
  desktop : List (String × String)
  changelog : String
deriving DecidableEq, Repr

inductive Artifact where
  | archive (files : List (String × BuiltFile))
  | manifest (manifest : Manifest)
  | other (content : List U8)
deriving DecidableEq

/-- The files of the release, and the names that were written, in this order. -/
structure Release where
  files : String → Option Artifact
  written : List String

def Release.write (release : Release) (name : String) (artifact : Artifact) : Release where
  files other := if other = name then some artifact else release.files other
  written := release.written ++ [name]

def zipFlat (dir : BuiltDir) : List (String × BuiltFile) :=
  dir.entries.filterMap fun (name, item) => item.map (name, ·)

def androidArchive (mod abi : String) : String := mod ++ "-android-" ++ abi ++ ".zip"

def desktopArchive (mod osarch : String) : String := mod ++ "-" ++ osarch ++ ".zip"

/-- The archives of some bundles, and what the manifest says of them. -/
def packAll (archive : String → String) :
    List (String × BuiltDir) → Release → Release × List (String × String)
  | [], release => (release, [])
  | (key, dir) :: later, release =>
      let packed := packAll archive later
        (release.write (archive key) (.archive (zipFlat dir)))
      (packed.1, (key, "https://<host>/" ++ archive key) :: packed.2)

inductive Ending where
  | returned (result : Bool)
  | raised
deriving DecidableEq, Repr

def manifestName : String := "antinet-module.json"

/-- The bundles that are checked, with the paths of their roots. -/
def toZip (mod : BundleModule) (androidRoot : Root) (desktopDirs : List (String × BuiltDir)) :
    List (String × String × BuiltDir) :=
  (androidDirs mod androidRoot).map (mod.root ++ "/dist/android", ·) ++
    desktopDirs.map (mod.root ++ "/dist/desktop", ·)

def cmdBundle (mod : BundleModule) (reader : Reader) (androidRoot desktopRoot : Root)
    (release : String → Option Artifact) : Release × Ending :=
  let release : Release := { files := release, written := [] }
  match desktopRoot.directories with
  | none => (release, .raised)
  | some desktopDirs =>
      match checkAll reader (toZip mod androidRoot desktopDirs) with
      | .raised => (release, .raised)
      | .mismatch _ => (release, .returned false)
      | .fits =>
          let (release, androidBundles) :=
            packAll (androidArchive mod.name) (androidDirs mod androidRoot) release
          let missing := androidAbiList.filter fun abi => (androidBundles.lookup abi).isNone
          if androidRoot.present && !missing.isEmpty then (release, .returned false)
          else
            let (release, bundles) := packAll (desktopArchive mod.name) desktopDirs release
            let manifest := {
              version := mod.version
              android := androidBundles
              desktop := bundles
              changelog := "что нового в этой версии" }
            (release.write manifestName (.manifest manifest), .returned true)

end Csqtt.Bundle
