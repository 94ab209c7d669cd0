import Cc2Camera.Lib.Crash
import Cc2Camera.Startup.Payloads
import Mathlib.Logic.Function.Basic

/-!
# Script — the shell script `install_startup` sends, its text and its effect on files

The script as a list of lines, with the text of each line.  Paths below the config directory persist;
paths below the staging directory are tmpfs.  Where a command meets a kind of file the tool excludes
beforehand, its effect is left open: anything may happen.
-/

open Crash

namespace Cc2Camera.Startup

open StartupPayloads

/-- A path below `/etc/conf.d`, by its components, or below the staging directory. -/
inductive Path where
  | conf (relative : List String)
  | staged (name : String)
  deriving DecidableEq, Repr

def CONFIG : String := "/etc/conf.d"

def MAX_HOOK_BYTES : Nat := 16384

def relativeText (relative : List String) : String := "/".intercalate relative

def Path.text (stage : String) : Path → String
  | conf relative => CONFIG ++ "/" ++ relativeText relative
  | staged name => stage ++ "/" ++ name

def enabled : Path := .conf ["enabled"]

def systemSh : List String := ["system.sh"]

/-- The fixed temporary name of payload `i`. -/
def temp (i : Nat) : Path := .conf [".cc2-new-" ++ toString i]

/-! ## Lines -/

inductive Test where
  | notLink (path : Path)
  | notExists (path : Path)
  | absentOrDirectory (path : Path)
  | sameContent (path other : Path)
  | freeBlocks (count : Nat)
  deriving DecidableEq, Repr

def Test.text (stage : String) : Test → String
  | notLink path => "[ ! -L " ++ path.text stage ++ " ]"
  | notExists path => "[ ! -e " ++ path.text stage ++ " ]"
  | absentOrDirectory path =>
    "\x7b [ ! -e " ++ path.text stage ++ " ] || [ -d " ++ path.text stage ++ " ]; \x7d"
  | sameContent path other => "busybox cmp -s " ++ path.text stage ++ " " ++ other.text stage
  | freeBlocks count => "[ \"$(busybox stat -f -c %a " ++ CONFIG ++ ")\" -ge " ++ toString count ++ " ]"

inductive Line where
  | setE
  | umask
  | guard (groups : List (List Test))
  | mkdir (path : Path)
  | cp (source target : Path)
  | chmod (path : Path)
  | cmp (path other : Path)
  | sync
  | mv (source target : Path)
  | echoOk
  deriving DecidableEq, Repr

/-- The tests of a group stand on one line, the groups on lines of their own. -/
def guardText (stage : String) (groups : List (List Test)) : String :=
  " &&\n".intercalate (groups.map fun tests => " && ".intercalate (tests.map (Test.text stage)))

def Line.text (stage : String) : Line → String
  | setE => "set -e"
  | umask => "umask 022"
  | guard groups => guardText stage groups ++ " || exit 1"
  | mkdir path => "mkdir -p " ++ path.text stage
  | cp source target => "cp " ++ source.text stage ++ " " ++ target.text stage
  | chmod path => "chmod 755 " ++ path.text stage
  | cmp path other => "busybox cmp -s " ++ path.text stage ++ " " ++ other.text stage
  | sync => "sync"
  | mv source target => "mv " ++ source.text stage ++ " " ++ target.text stage
  | echoOk => "echo CC2_OK"

def scriptText (stage : String) (lines : List Line) : String :=
  "\n".intercalate (lines.map (Line.text stage))

/-! ## The script of one call -/

inductive Functionality where
  | adb
  | eraseFix
  deriving DecidableEq, Repr

instance lawfulBEq_path : LawfulBEq (List String) := inferInstance

/-- A managed file: its path below the config directory and its exact content. -/
abbrev Managed : Type := List String × Bytes

def featureHook : Functionality → Managed
  | .adb => (["enabled", "90-adb.sh"], ADB_HOOK)
  | .eraseFix => (["enabled", "10-erase-fix.sh"], eraseHookBytes)

def runner : Managed := (systemSh, RUNNER)

def requested (functionality : Functionality) : List Managed := [featureHook functionality, runner]

def tempGuard (i : Nat) : List Test := [.notExists (temp i), .notLink (temp i)]

/-- What is asked of one requested file: still absent, or still equal to the staged copy. -/
def destinationGuards (payloads : List Managed) (entry : Managed × Nat) : List (List Test) :=
  let dest := Path.conf entry.1.1
  if entry.1.1 ∈ payloads.map Prod.fst then [[.notExists dest], [.notLink dest]]
  else [[.notLink dest], [.sameContent dest (.staged ("existing-" ++ toString entry.2))]]

def guards (requests payloads : List Managed) (blocks : Nat) : List (List Test) :=
  [[.notLink enabled], [.absentOrDirectory enabled]] ++
    requests.zipIdx.flatMap (destinationGuards payloads) ++
    (List.range payloads.length).map tempGuard ++ [[.freeBlocks blocks]]

/-- The lines that install payload `i`. -/
def payloadLines (entry : Managed × Nat) : List Line :=
  let i := entry.2
  [.guard [tempGuard i], .cp (.staged (toString i)) (temp i), .chmod (temp i),
   .cmp (.staged (toString i)) (temp i), .sync, .mv (temp i) (.conf entry.1.1), .sync]

def installScript (requests payloads : List Managed) (blocks : Nat) : List Line :=
  [.setE, .umask, .guard (guards requests payloads blocks), .mkdir enabled] ++
    payloads.zipIdx.flatMap payloadLines ++ [.echoOk]

/-! ## Files -/

inductive Node where
  | file (content : Bytes) (mode : Nat)
  | directory
  | link
  | other
  deriving DecidableEq, Repr

abbrev Fs : Type := Path → Option Node

/-- `busybox cmp -s path other` may succeed.  What a link points to is not known. -/
def SameContent (fs : Fs) (path other : Path) : Prop :=
  match fs path, fs other with
  | some (.file content _), some (.file content' _) => content = content'
  | none, _ => False
  | _, none => False
  | some .directory, _ => False
  | _, some .directory => False
  | _, _ => True

/-- A test may succeed. -/
def Test.Passes (fs : Fs) : Test → Prop
  | notLink path => fs path ≠ some .link
  | notExists path => fs path = none ∨ fs path = some .link
  | absentOrDirectory path => fs path = none ∨ fs path = some .directory ∨ fs path = some .link
  | sameContent path other => SameContent fs path other
  | freeBlocks _ => True

def GuardPasses (fs : Fs) (groups : List (List Test)) : Prop :=
  ∀ tests ∈ groups, ∀ test ∈ tests, test.Passes fs

/-- The directory a path lies in. -/
def parent (fs : Fs) : Path → Option Node
  | .conf [directory, _] => fs (.conf [directory])
  | _ => some .directory

/-- `mkdir -p path`. -/
def Makes (fs : Fs) (path : Path) (fs' : Fs) : Prop :=
  match fs path with
  | none => fs' = Function.update fs path (some .directory)
  | some .directory => fs' = fs
  | some .link => True
  | _ => False

/-- `target` receives `content`: a new file with some mode, or the old file's mode kept. -/
def Receives (fs : Fs) (target : Path) (content : Bytes) (fs' : Fs) : Prop :=
  match fs target with
  | none => ∃ mode, fs' = Function.update fs target (some (.file content mode))
  | some (.file _ mode) => fs' = Function.update fs target (some (.file content mode))
  | _ => True

/-- `cp source target` to its end. -/
def Copies (fs : Fs) (source target : Path) (fs' : Fs) : Prop :=
  match fs source with
  | some (.file content _) => Receives fs target content fs'
  | none => False
  | _ => True

/-- `cp source target` cut off: a prefix has been written. -/
def CopiesPart (fs : Fs) (source target : Path) (fs' : Fs) : Prop :=
  match fs source with
  | some (.file content _) => ∃ count, Receives fs target (content.take count) fs'
  | none => False
  | _ => True

/-- `chmod 755 path`. -/
def SetsMode (fs : Fs) (path : Path) (fs' : Fs) : Prop :=
  match fs path with
  | some (.file content _) => fs' = Function.update fs path (some (.file content 0o755))
  | none => False
  | _ => True

def moved (fs : Fs) (source target : Path) (node : Node) : Fs :=
  Function.update (Function.update fs target (some node)) source none

/-- `mv source target`. -/
def Renames (fs : Fs) (source target : Path) (fs' : Fs) : Prop :=
  match parent fs target, fs source, fs target with
  | some .directory, some (.file content mode), none => fs' = moved fs source target (.file content mode)
  | some .directory, some (.file content mode), some (.file _ _) =>
    fs' = moved fs source target (.file content mode)
  | none, _, _ => False
  | _, none, _ => False
  | _, _, _ => True

/-- The effect of a line that runs to its end with status 0; under `set -e` another status ends the
script, as a cut before or inside the line does. -/
def Line.performs : Line → Fs → Fs → Prop
  | guard groups, fs, fs' => GuardPasses fs groups ∧ fs' = fs
  | mkdir path, fs, fs' => Makes fs path fs'
  | cp source target, fs, fs' => Copies fs source target fs'
  | chmod path, fs, fs' => SetsMode fs path fs'
  | cmp path other, fs, fs' => SameContent fs path other ∧ fs' = fs
  | mv source target, fs, fs' => Renames fs source target fs'
  | _, fs, fs' => fs' = fs

/-- What a line cut off inside may leave.  `mv` is atomic. -/
def Line.tears : Line → Fs → Fs → Prop
  | cp source target, fs, fs' => CopiesPart fs source target fs'
  | _, _, _ => False

def shell : Machine Line Fs := ⟨Line.performs, Line.tears⟩

end Cc2Camera.Startup
