/-
Module: Csqtt.Build.Canons
Purpose: The copying of the shared sources into the main package of a helper, and the commands
  that need it.
Trusted boundary: the tool that is run; copies and deletions succeed
Main exports: Directory, Canon, canons, injectCanons, withCanons, cmdTest, buildDesktop,
  buildAndroid, Command
-/
import Csqtt.Core.Word

namespace Csqtt.Build

/-- What a directory has under a name. A link leads out of the directory, to a file or to
nothing. -/
inductive Entry where
  | file (content : List U8)
  | folder
  | link (target : Option (List U8))
deriving DecidableEq

abbrev Directory := String → Option Entry

namespace Directory

/-- A link that leads to nothing does not exist. -/
def existsAt (directory : Directory) (name : String) : Bool :=
  match directory name with
  | none | some (.link none) => false
  | some _ => true

/-- A copy to a link is written where the link leads. -/
def copy (directory : Directory) (name : String) (content : List U8) : Directory := fun other =>
  if other = name then
    match directory name with
    | some (.link _) => some (.link (some content))
    | _ => some (.file content)
  else directory other

/-- That a folder is not taken away is passed over. -/
def unlink (directory : Directory) (name : String) : Directory := fun other =>
  if other = name ∧ directory name ≠ some .folder then none else directory other

end Directory

/-!
### Canons
-/

structure SourceFile where
  name : String
  content : List U8
deriving DecidableEq

/-- A row of the table. -/
structure Canon where
  dir : String
  glob : String
  label : String
  gate : Option String
  android : Bool
deriving DecidableEq

def canons : List Canon := [
  { dir := "offtun", glob := "offtun_*.go", label := "off-TUN", gate := none, android := false },
  { dir := "protect", glob := "protect_*.go", label := "protect", gate := none, android := true },
  { dir := "lifecycle", glob := "lifecycle_*.go", label := "lifecycle", gate := none,
    android := true },
  { dir := "hostproto", glob := "hostproto*.go", label := "hostproto", gate := none,
    android := true },
  { dir := "entry", glob := "entry_*.go", label := "entry", gate := none, android := true },
  { dir := "socks5", glob := "socks5shared*.go", label := "socks5", gate := some "socks5",
    android := true },
  { dir := "dns", glob := "dnsshim_*.go", label := "dns-shim", gate := none, android := true },
  { dir := "dns", glob := "dns_*.go", label := "dns", gate := some "dnsResolver",
    android := true }]

/-- What is used of a module: the directory of its main package, the path of that in the
repository if it lies there, whether there is a `go.mod`, and which keys of the descriptor have a
value that counts as true. -/
structure HelperModule where
  mainDir : String
  relative : Option String
  goMod : Bool
  descriptor : String → Bool

/-- The sorted files of a shared directory that match a mask. -/
abbrev SharedFiles := String → String → List SourceFile

inductive Failure where
  | systemExit (message : String)
  | valueError
  | tool
deriving DecidableEq, Repr

def Canon.skipped (canon : Canon) (mod : HelperModule) (android : Bool) : Bool :=
  android && !canon.android ||
    match canon.gate with
    | some gate => gate ≠ "" && !mod.descriptor gate
    | none => false

def conflict (mod : HelperModule) (canon : Canon) (source : SourceFile) : String :=
  s!"канон {canon.label}: файл модуля {mod.mainDir}/{source.name} конфликтует с каноном " ++
    s!"{source.name}.\nПереименуй свой файл — этот код даёт канон (shared/{canon.dir}/)."

/-- The files of one canon, and the names of all that were copied. -/
def injectFiles (mod : HelperModule) (canon : Canon) : List SourceFile → Directory → List String →
    Directory × Except Failure (List String)
  | [], directory, copied => (directory, .ok copied)
  | source :: later, directory, copied =>
      if directory.existsAt source.name then
        (directory, .error (.systemExit (conflict mod canon source)))
      else
        injectFiles mod canon later (directory.copy source.name source.content)
          (copied ++ [source.name])

/-- After each canon the path in the repository is logged, and without one that fails. -/
def injectCanons (mod : HelperModule) (shared : SharedFiles) (android : Bool) :
    List Canon → Directory → List String → Directory × Except Failure (List String)
  | [], directory, copied => (directory, .ok copied)
  | canon :: later, directory, copied =>
      if canon.skipped mod android then injectCanons mod shared android later directory copied
      else
        match injectFiles mod canon (shared canon.dir canon.glob) directory copied with
        | (directory, .error failure) => (directory, .error failure)
        | (directory, .ok copied) =>
            if mod.relative = none then (directory, .error .valueError)
            else injectCanons mod shared android later directory copied

/-!
### Commands
-/

/-- How the run of a tool ends: with a code, or not in an orderly way. -/
inductive Ran where
  | exited (code : Int)
  | raised
deriving DecidableEq, Repr

abbrev Tool := Directory → Directory × Ran

inductive Ending where
  | returned (result : Bool)
  | raised (failure : Failure)
deriving DecidableEq, Repr

/-- The tool between the copying and the clean-up, and what follows if it went well. -/
def withCanons (mod : HelperModule) (shared : SharedFiles) (android : Bool) (table : List Canon)
    (tool : Tool) (rest : Ending) (directory : Directory) : Directory × Ending :=
  match injectCanons mod shared android table directory [] with
  | (directory, .error failure) => (directory, .raised failure)
  | (directory, .ok injected) =>
      let (directory, ran) := tool directory
      let directory := injected.foldl Directory.unlink directory
      match ran with
      | .raised => (directory, .raised .tool)
      | .exited code => (directory, if code ≠ 0 then .returned false else rest)

section Commands

variable (mod : HelperModule) (shared : SharedFiles) (table : List Canon) (tool : Tool)

def cmdTest (goFound : Bool) (directory : Directory) : Directory × Ending :=
  if !goFound then (directory, .returned false)
  else if !mod.goMod then (directory, .returned false)
  else withCanons mod shared false table tool (.returned true) directory

/-- What follows the tool is done in other directories. -/
def buildDesktop (rest : Ending) (directory : Directory) : Directory × Ending :=
  if !mod.goMod then (directory, .returned false)
  else withCanons mod shared false table tool rest directory

def buildAndroid (rest : Ending) (directory : Directory) : Directory × Ending :=
  withCanons mod shared true table tool rest directory

inductive Command where
  | test (goFound : Bool)
  | desktop (rest : Ending)
  | android (rest : Ending)
deriving DecidableEq, Repr

namespace Command

def run (command : Command) (directory : Directory) : Directory × Ending :=
  match command with
  | test goFound => cmdTest mod shared table tool goFound directory
  | desktop rest => buildDesktop mod shared table tool rest directory
  | android rest => buildAndroid mod shared table tool rest directory

end Command

end Commands

end Csqtt.Build
