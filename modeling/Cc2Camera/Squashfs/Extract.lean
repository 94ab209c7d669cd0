import Cc2Camera.Lib.Posix
import Cc2Camera.Squashfs.Image

/-!
# Extract — `SquashFS.extract`

The calls it makes on the file system, in order.  Each may fail, and what it fails with is raised where the source
does not handle it.
-/

open Bytes Exceptions Program World Posix

namespace Cc2Camera.SquashfsExtract

abbrev Extraction (α : Type) : Type := Program FileOp FileReply SquashExc α

namespace Extraction

def ofFileError : FileError → SquashExc
  | .notFound => .fileNotFoundError
  | .other => .osError

def call (op : FileOp) : Extraction (FileAnswer op) := .act op fun r =>
  match r with
  | .ok a => .ret a
  | .error x => .raise (ofFileError x)

def lift {α : Type} (e : Except SquashExc α) : Extraction α := ofExcept e

end Extraction

open Extraction

/-! ## Paths -/

-- `path.mkdir(exist_ok=True)` after an `OSError`
def existing (path : TreePath) (x : SquashExc) : Extraction Unit := do
  let isDir ← call (.isDir path)
  lift (raiseIf (isDir = false) x)

/-- `path.mkdir(parents=False, exist_ok=True)`. -/
def mkdir (path : TreePath) : Extraction Unit :=
  (call (.mkdir path)).handle fun x => if x = .fileNotFoundError then .raise x else existing path x

/-- `path.mkdir(parents=True, exist_ok=True)`. -/
def mkdirParents : TreePath → Extraction Unit
  | [] => mkdir []
  | name :: parent =>
    (call (.mkdir (name :: parent))).handle fun x =>
      if x = .fileNotFoundError then do
        mkdirParents parent
        mkdir (name :: parent)
      else existing (name :: parent) x

def specialSuffix : Bytes := ascii ".special"

/-- `path.with_name(path.name + ".special")`. -/
def withSpecialName : TreePath → Except SquashExc TreePath
  | [] => .error .emptyName
  | name :: parent => .ok ((name ++ specialSuffix) :: parent)

/-- `path.write_bytes(content)`. -/
def writeBytes (path : TreePath) (content : Bytes) : Extraction Unit := do
  call (.openWrite path)
  call (.write content)

/-! ## Extraction -/

def safeComponent (name : Bytes) : Except SquashExc Bytes := do
  raiseIf (name = [] ∨ name = [0x2E] ∨ name = [0x2E, 0x2E] ∨ 0x2F ∈ name ∨ 0 ∈ name) (.unsafeEntry name)
  .ok name

def specialText (inode : Inode) : Bytes :=
  ascii ("SquashFS special inode type=" ++ toString inode.kind ++ " mode=0" ++
    String.ofList (Nat.toDigits 8 inode.mode) ++ " rdev=" ++
    (match inode.rdev with
      | some rdev => toString rdev
      | none => "None") ++ "\n")

/-- `for entry in entries: body(entry)`. -/
def forEntries (body : DirectoryEntry → Extraction Unit) : List DirectoryEntry → Extraction Unit
  | [] => pure ()
  | entry :: entries => do
    body entry
    forEntries body entries

section Extract

variable (decompress : Bytes → Option Bytes) (fs : SquashFS)

-- the body of the loop over the entries of a directory
def extractEntry (extractChild : Inode → TreePath → Extraction Unit) (target : TreePath) (entry : DirectoryEntry) :
    Extraction Unit := do
  let safeName ← lift (safeComponent entry.name)
  let child ← lift (fs.readInode decompress entry.ref)
  extractChild child (safeName :: target)

-- an image may refer to a directory from below it; the budget is on the depth
def extractInode : Nat → Inode → TreePath → Extraction Unit
  | 0, _, _ => .pending
  | budget + 1, inode, target =>
    if inode.isDirectory then do
      mkdirParents target
      let entries ← lift (fs.readDirectory decompress inode)
      forEntries (extractEntry decompress fs (extractInode budget) target) entries
      call (.chmod target (inode.mode &&& 0o7777))
    else if inode.isRegular then do
      mkdirParents target.tail
      let content ← lift (fs.readFile decompress inode)
      writeBytes target content
      call (.chmod target (inode.mode &&& 0o7777))
    else if inode.isSymlink then do
      let symlink ← lift (orRaise inode.symlink .assertionError)
      mkdirParents target.tail
      call (.symlink symlink target)
    else do
      mkdirParents target.tail
      let path ← lift (withSpecialName target)
      writeBytes path (specialText inode)

def extract (destination : TreePath) (budget : Nat) : Extraction Unit := do
  mkdirParents destination
  let root ← lift (fs.readInode decompress fs.sb.rootInode)
  extractInode decompress fs budget root destination

end Extract

end Cc2Camera.SquashfsExtract
