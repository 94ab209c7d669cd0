import Cc2Camera.Lib.Concurrent
import Cc2Camera.Backup.Preserved
import Mathlib.Data.List.Infix

/-!
# Disk — the files several publishing calls share

Locations are absolute paths by their components.  The answers of the file system are a relation:
operations may fail, and those that are not atomic may leave anything at the location they work on.
Each call's temporary name and whether its publishing step succeeded are recorded beside the files.
-/

open Program

namespace Cc2Camera.Publish

abbrev Location : Type := List String

inductive Node where
  | file (content : Bytes)
  | directory
  | other
  deriving DecidableEq, Repr

abbrev Files : Type := Location → Option Node

def parentOf (l : Location) : Location := l.dropLast

def nameOf (l : Location) : String := l.getLast?.getD ""

inductive FileOp where
  | pathExists (l : Location)
  | lexists (l : Location)
  | mkdirParents (l : Location)
  -- `tempfile.NamedTemporaryFile(dir, prefix, suffix, delete=False)`, closed
  | createTemp (directory : Location) (label suffix : String)
  -- `archive.writestr(member, data)` and the end of the `with` block
  | writestr (l : Location) (member : Text) (data : Bytes)
  | closeZip (l : Location) (members : List (Text × Bytes))
  | fsync (l : Location)
  | readZip (l : Location)
  | link (source target : Location)
  | unlink (l : Location)
  -- `tempfile.TemporaryDirectory(prefix, dir)`
  | makeTempDir (directory : Location) (label : String)
  | mkdir (l : Location)
  -- one entry the caller builds
  | put (l : Location) (node : Node)
  | renameNew (source target : Location)
  | removeTree (l : Location)

abbrev FileAnswer : FileOp → Type
  | .pathExists _ => Bool
  | .lexists _ => Bool
  | .createTemp _ _ _ => Location
  | .readZip _ => Bytes
  | .makeTempDir _ _ => Location
  | _ => Unit

abbrev FileReply (op : FileOp) : Type := Except Exc (FileAnswer op)

abbrev FileProgram (α : Type) : Type := Program FileOp FileReply Exc α

def call (op : FileOp) : FileProgram (FileAnswer op) := .act op ofExcept

def lift {α : Type} (e : Except Exc α) : FileProgram α := ofExcept e

/-- The files, and of each call its temporary name and whether it has published. -/
structure Disk (ι : Type) where
  files : Files
  temp : ι → Option Location
  published : ι → Bool

/-- Nothing at a location, hence nothing below it. -/
def Absent (files : Files) (l : Location) : Prop := ∀ rest, files (l ++ rest) = none

/-- The files after the directory at `source` has moved to `target`. -/
def renamed (files : Files) (source target : Location) : Files := fun l =>
  if target <+: l then files (source ++ l.drop target.length)
  else if source <+: l then none
  else files l

section Answers

variable {ι : Type} [DecidableEq ι] (encode : List (Text × Bytes) → Bytes) (destination : ι → Location)

/-- A temporary name is new and belongs to no other call. -/
structure Fresh (s : Disk ι) (l : Location) : Prop where
  absent : Absent s.files l
  unused : ∀ i, s.temp i ≠ some l
  apart : ∀ i, ¬l <+: destination i

def Disk.write (s : Disk ι) (l : Location) (node : Option Node) : Disk ι :=
  { s with files := Function.update s.files l node }

def Disk.take (s : Disk ι) (i : ι) (l : Location) (node : Node) : Disk ι :=
  { s with files := Function.update s.files l (some node), temp := Function.update s.temp i (some l) }

def Disk.publish (s : Disk ι) (i : ι) (files : Files) : Disk ι :=
  { s with files, published := Function.update s.published i true }

/-- A step that may leave anything at `l`. -/
def Spoils (s : Disk ι) (l : Location) (s' : Disk ι) : Prop := s' = s ∨ ∃ node, s' = s.write l node

/-- How the file system answers an operation of call `i`. -/
def answers (i : ι) (s : Disk ι) : (op : FileOp) → FileReply op → Disk ι → Prop
  | .pathExists l, .ok present, s' =>
      (present = false → s.files l = none ∨ s.files l = some .other) ∧ s' = s
  | .lexists l, .ok present, s' => (present = false ↔ s.files l = none) ∧ s' = s
  | .mkdirParents l, _, s' => ∃ files, s' = { s with files } ∧
      ∀ q, files q = s.files q ∨ s.files q = none ∧ q <+: l ∧ files q = some .directory
  | .createTemp directory label suffix, .ok l, s' =>
      (∃ name, l = directory ++ [label ++ name ++ suffix]) ∧ Fresh destination s l ∧
        s' = s.take i l (.file [])
  | .writestr l _ _, _, s' => Spoils s l s'
  | .closeZip l members, .ok _, s' => s' = s.write l (some (.file (encode members)))
  | .closeZip l _, .error _, s' => Spoils s l s'
  | .readZip l, .ok content, s' => s.files l = some (.file content) ∧ s' = s
  | .link source target, .ok _, s' => ∃ content, s.files source = some (.file content) ∧
      Absent s.files target ∧ s' = s.publish i (Function.update s.files target (some (.file content)))
  | .unlink l, .ok _, s' => s' = s.write l none
  | .makeTempDir directory label, .ok l, s' =>
      (∃ name, l = directory ++ [label ++ name]) ∧ Fresh destination s l ∧ s' = s.take i l .directory
  | .mkdir l, .ok _, s' => s' = s.write l (some .directory)
  | .put l node, .ok _, s' => s' = s.write l (some node)
  | .put l _, .error _, s' => Spoils s l s'
  | .renameNew source target, .ok _, s' => Absent s.files target ∧
      s' = s.publish i (renamed s.files source target)
  | .removeTree l, _, s' => ∃ files, s' = { s with files } ∧
      ∀ q, files q = s.files q ∨ l <+: q ∧ files q = none
  | _, _, s' => s' = s

end Answers

end Cc2Camera.Publish
