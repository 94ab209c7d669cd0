import Cc2Camera.Lib.Shell
import Cc2Camera.Lib.Sorting
import Cc2Camera.Lib.World
import Cc2Camera.Startup.Payloads

/-!
# Runner — the boot script `startup_payloads.RUNNER`, both of its stages

The script over a camera whose directories and mount table every hook may change as it likes.  Of most
commands the script sees the exit status only.
-/

open Program Shell

namespace Cc2Camera.StartupPayloads

/-! ## Files and mounts -/

/-- A file name, as bytes. -/
abbrev Name : Type := Bytes

/-- What a name in a directory stands for. -/
inductive FileKind where
  | absent
  | regular
  | other
  | link (target : FileKind)
  deriving DecidableEq

namespace FileKind

/-- `[ -e path ]`. -/
def present : FileKind → Bool
  | absent => false
  | regular => true
  | other => true
  | link target => target.present

/-- `[ -f path ]`. -/
def isFile : FileKind → Bool
  | absent => false
  | regular => true
  | other => false
  | link target => target.isFile

/-- `[ -L path ]`. -/
def isLink : FileKind → Bool
  | link _ => true
  | _ => false

end FileKind

/-- A directory: its names in the order the file system has them. -/
structure Directory where
  names : List Name
  kind : Name → FileKind
  nodup : names.Nodup
  listed : ∀ name, name ∈ names ↔ kind name ≠ .absent

def Directory.empty : Directory where
  names := []
  kind _ := .absent
  nodup := List.nodup_nil
  listed _ := by simp

/-- After `cp` of a regular file to `name`. -/
def Directory.insert (d : Directory) (name : Name) : Directory where
  names := if name ∈ d.names then d.names else name :: d.names
  kind := Function.update d.kind name .regular
  nodup := by
    split
    · exact d.nodup
    · next hmem => exact List.nodup_cons.mpr ⟨hmem, d.nodup⟩
  listed other := by
    by_cases hother : other = name
    · rw [hother, Function.update_self]
      split
      · next hmem => exact ⟨nofun, fun _ => hmem⟩
      · exact ⟨nofun, fun _ => List.mem_cons_self⟩
    · rw [Function.update_of_ne hother, ← d.listed]
      split
      · exact Iff.rfl
      · exact ⟨fun h => (List.mem_cons.mp h).resolve_left hother, List.mem_cons_of_mem name⟩

/-- The first four fields of a line of `/proc/mounts`. -/
structure Mount where
  device : String
  directory : String
  filesystem : String
  options : String
  deriving DecidableEq

/-- What the script and the hooks find on the camera. -/
structure BootState where
  enabled : Directory
  staged : Directory
  mounts : List Mount

/-! ## The `awk` programs -/

-- the pattern `(^|,)rw(,|$)` from a position on; `start` says whether `(^|,)` holds there
def searchRw (start : Bool) (options : List Char) : Bool :=
  (start && options.takeWhile (· ≠ ',') = ['r', 'w']) ||
    match options with
    | [] => false
    | c :: rest => searchRw (c = ',') rest

/-- The exit status of the check of `/tmp`. -/
def tmpStatus (table : List Mount) : Nat :=
  let ok := table.countP fun m => m.directory = "/tmp" ∧ m.filesystem = "tmpfs"
  if ok ≠ 1 then 1 else 0

/-- The exit status of the check of `/etc/conf.d`. -/
def configStatus (table : List Mount) : Nat :=
  let config := table.filter fun m => m.directory = "/etc/conf.d"
  let bad := config.any fun m =>
    m.device ≠ "/dev/mtdblock5" ∨ m.filesystem ≠ "jffs2" ∨ searchRw true m.options.toList = false
  if config.length ≠ 1 ∨ bad then 1 else 0

/-! ## Operations -/

/-- A hook's exit status, and the camera as it left it. -/
structure HookResult where
  status : Nat
  state : BootState

inductive RunnerOp where
  | command (command : Command)
  -- `awk` on `/proc/mounts`: the table it read, if it could
  | readMounts
  | makeStage
  | makeEnabled (stage : String)
  -- the directory part of a pathname expansion
  | entries
  | stagedEntries (stage : String)
  -- tests of an entry of `/etc/conf.d/enabled`
  | present (name : Name)
  | isLink (name : Name)
  | isFile (name : Name)
  -- `cp "$hook" "$stage/enabled/"`
  | stage (stage : String) (name : Name)
  -- `exec /bin/sh "$stage/runner" --ram-worker "$stage"`: whether the shell was replaced
  | exec (stage : String)
  | stagedIsFile (stage : String) (name : Name)
  | hook (stage : String) (name : Name)

abbrev RunnerReply : RunnerOp → Type
  | .command _ => Nat
  | .readMounts => Option (List Mount)
  | .makeStage => Option String
  | .makeEnabled _ => Nat
  | .entries => List Name
  | .stagedEntries _ => List Name
  | .present _ => Bool
  | .isLink _ => Bool
  | .isFile _ => Bool
  | .stage _ _ => Nat
  | .exec _ => Bool
  | .stagedIsFile _ _ => Bool
  | .hook _ _ => HookResult

abbrev Runner (α : Type) : Type := Program RunnerOp RunnerReply Nat α

/-- The camera: what it answers, and what commands and hooks leave behind. -/
def camera : World RunnerOp RunnerReply BootState where
  answers s
    | ⟨.readMounts, table⟩ => table = none ∨ table = some s.mounts
    | ⟨.entries, found⟩ => found.Perm s.enabled.names
    | ⟨.stagedEntries _, found⟩ => found.Perm s.staged.names
    | ⟨.present name, b⟩ => b = (s.enabled.kind name).present
    | ⟨.isLink name, b⟩ => b = (s.enabled.kind name).isLink
    | ⟨.isFile name, b⟩ => b = (s.enabled.kind name).isFile
    | ⟨.stagedIsFile _ name, b⟩ => b = (s.staged.kind name).isFile
    | _ => True
  after s
    | ⟨.makeEnabled _, 0⟩ => { s with staged := .empty }
    | ⟨.stage _ name, 0⟩ => { s with staged := s.staged.insert name }
    | ⟨.hook _ _, result⟩ => result.state
    | _ => s

/-! ## The script -/

/-- Names the pattern `*` matches. -/
def isVisible (name : Name) : Bool := name.head? ≠ some 0x2E

/-- The visible names in the order of the C locale. -/
def visible (found : List Name) : List Name := Sorting.sortByKey (fun name => name) (found.filter isVisible)

/-- Pathname expansion of `*`; without a match the pattern stays. -/
def expand (found : List Name) : List Name := if visible found = [] then [ascii "*"] else visible found

def exitUnless (ok : Bool) : Runner Unit := if ok then pure () else .raise 1

def ask (op : RunnerOp) : Runner (RunnerReply op) := perform op

def command (words : Command) : Runner Nat := ask (.command words)

-- `[ ! -e "$hook" ] && [ ! -L "$hook" ]`
def isMissing (name : Name) : Runner Bool := do
  if ← ask (.present name) then pure false
  else do
    let link ← ask (.isLink name)
    pure !link

-- `[ -f "$hook" ] && [ ! -L "$hook" ]`
def isPlain (name : Name) : Runner Bool := do
  if ← ask (.isFile name) then do
    let link ← ask (.isLink name)
    pure !link
  else pure false

/-- An iteration of the first loop. -/
def stageHook (stage : String) (name : Name) : Runner Unit := do
  let missing ← isMissing name
  if missing then pure ()
  else do
    let plain ← isPlain name
    exitUnless plain
    let status ← ask (.stage stage name)
    exitUnless (status == 0)

def stageHooks (stage : String) : List Name → Runner Unit
  | [] => pure ()
  | name :: rest => do
    stageHook stage name
    stageHooks stage rest

/-- `while :; do body; done`, with the iterations it may still make. -/
def forever {α : Type} (body : Runner Unit) : Nat → Runner α
  | 0 => .pending
  | n + 1 => do
    body
    forever body n

/-- The lines after `then` in the second loop. -/
def hold (budget : Nat) : Runner Unit := do
  let _ ← command ["echo", "cc2flash: CONFIG UNUSABLE; boot held. Recover via ADB; do not write config."]
  let _ ← command ["/bin/adbd"]
  forever (do
    let _ ← command ["sleep", "60"]
    pure ()) budget

/-- Hold the boot unless the config mount is as it has to be. -/
def checkMount (budget : Nat) : Runner Unit := do
  let table ← ask .readMounts
  if (table.map configStatus).getD 1 ≠ 0 then hold budget else pure ()

def textOfName (name : Name) : String := String.ofList (name.map fun b => Char.ofNat b.toNat)

/-- An iteration of the second loop. -/
def runHook (budget : Nat) (stage : String) (name : Name) : Runner Unit := do
  if ← ask (.stagedIsFile stage name) then do
    let label := textOfName name
    let _ ← command ["echo", "cc2flash: running " ++ label]
    let result ← ask (.hook stage name)
    let _ ← command ["echo", "cc2flash: " ++ label ++ " exit " ++ toString result.status]
    checkMount budget
  else pure ()

def runHooks (budget : Nat) (stage : String) : List Name → Runner Unit
  | [] => pure ()
  | name :: rest => do
    runHook budget stage name
    runHooks budget stage rest

/-- The copy in RAM, started with `--ram-worker`. -/
def ramWorker (budget : Nat) (stage : String) : Runner Nat := do
  let found ← ask (.stagedEntries stage)
  runHooks budget stage (expand found)
  command ["rm", "-rf", stage]

/-- Everything before `exec` has replaced the shell; the result is the staging directory. -/
def staging : Runner String := do
  let table ← ask .readMounts
  exitUnless ((table.map tmpStatus).getD 1 == 0)
  let _ ← command ["umask", "077"]
  match ← ask .makeStage with
  | none => .raise 1
  | some stage => do
    let made ← ask (.makeEnabled stage)
    exitUnless (made == 0)
    let copied ← command ["cp", "/etc/conf.d/system.sh", stage ++ "/runner"]
    exitUnless (copied == 0)
    let found ← ask .entries
    stageHooks stage (expand found)
    let moved ← command ["cd", "/"]
    exitUnless (moved == 0)
    if ← ask (.exec stage) then pure stage else .raise 1

/-- The script as the boot starts it; its result is the status of its last command. -/
def runner (budget : Nat) : Runner Nat := do
  let stage ← staging
  ramWorker budget stage

end Cc2Camera.StartupPayloads
