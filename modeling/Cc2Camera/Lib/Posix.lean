import Cc2Camera.Lib.World
import Mathlib.Data.List.Infix
import Mathlib.Logic.Function.Basic

/-!
# Posix — a file tree with symbolic links, and the calls that change it

A path is a list of names, the last one first, so that its tail is the parent.  The kernel resolves the path of
every call through the links there are; `touched` is the place where a call that succeeds creates, opens or
changes something.
-/

open Program World

namespace Posix

abbrev Name : Type := List UInt8

abbrev TreePath : Type := List Name

inductive Node where
  | directory
  | file
  | link (target : List UInt8)
  deriving DecidableEq

abbrev FileTree : Type := TreePath → Option Node

def Node.isLink : Node → Bool
  | .link _ => true
  | _ => false

/-! ## Resolution -/

def parentName : Name := [0x2E, 0x2E]

/-- The names of the target of a link, first to last. -/
def components (target : List UInt8) : List Name :=
  (target.splitOn 0x2F).filter fun name => name ≠ [] ∧ name ≠ [0x2E]

/-- Where the target of a link in `here` starts. -/
def linkStart (here : TreePath) (target : List UInt8) : TreePath := if target.head? = some 0x2F then [] else here

/-- Walk along names from `here`; `expand` goes on where a link has to be followed. -/
def walk (expand : TreePath → List Name → Option TreePath) (tree : FileTree) (follow : Bool) :
    TreePath → List Name → Option TreePath
  | here, [] => some here
  | here, name :: rest =>
    if name = parentName then walk expand tree follow here.tail rest
    else match tree (name :: here) with
      | some .directory => walk expand tree follow (name :: here) rest
      | some (.link target) =>
        if rest = [] ∧ follow = false then some (name :: here)
        else expand (linkStart here target) (components target ++ rest)
      | _ => if rest = [] then some (name :: here) else none

/-- `walk` with a limit on the links that are followed. -/
def resolve (tree : FileTree) (follow : Bool) : Nat → TreePath → List Name → Option TreePath
  | 0 => walk (fun _ _ => none) tree follow
  | links + 1 => walk (resolve tree follow links) tree follow

def MAXSYMLINKS : Nat := 40

/-- Where a path leads; a link at its very end is followed or not. -/
def locate (tree : FileTree) (follow : Bool) (path : TreePath) : Option TreePath :=
  resolve tree follow MAXSYMLINKS [] path.reverse

/-- The path and every directory on it are directories, none of them a link. -/
structure Solid (tree : FileTree) (path : TreePath) : Prop where
  directory : ∀ p, p <:+ path → tree p = some .directory
  named : parentName ∉ path

section Resolution

variable {tree : FileTree} {path : TreePath} {name : Name} {follow : Bool}

theorem Solid.tail (h : Solid tree (name :: path)) : Solid tree path where
  directory p hp := h.directory p (hp.trans (List.suffix_cons name path))
  named hmem := h.named (List.mem_cons_of_mem name hmem)

theorem Solid.cons (h : Solid tree path) (hname : name ≠ parentName) (hnode : tree (name :: path) = some .directory) :
    Solid tree (name :: path) where
  directory p hp := by
    rcases List.suffix_cons_iff.mp hp with rfl | hp
    · exact hnode
    · exact h.directory p hp
  named hmem := by
    rcases List.mem_cons.mp hmem with hparent | hmem
    · exact hname hparent.symm
    · exact h.named hmem

-- by induction on the path: the directories before a name have been walked when it is met
theorem walk_solid {expand : TreePath → List Name → Option TreePath} {rest : List Name} (h : Solid tree path) :
    walk expand tree follow [] (path.reverse ++ rest) = walk expand tree follow path rest := by
  induction path generalizing rest with
  | nil => rfl
  | cons name path ih =>
    have hname : name ≠ parentName := fun hparent => h.named (hparent ▸ List.mem_cons_self ..)
    have hnode : tree (name :: path) = some .directory := h.directory _ (List.suffix_refl _)
    rw [List.reverse_cons, List.append_assoc, ih h.tail, List.singleton_append, walk, if_neg hname, hnode]

theorem resolve_solid {links : Nat} {rest : List Name} (h : Solid tree path) :
    resolve tree follow links [] (path.reverse ++ rest) = resolve tree follow links path rest := by
  cases links with
  | zero => exact walk_solid h
  | succ links => exact walk_solid h

theorem locate_solid (h : Solid tree path) : locate tree follow path = some path := by
  have hall := @resolve_solid tree path follow MAXSYMLINKS [] h
  rw [List.append_nil] at hall
  exact hall.trans rfl

/-- A name in a directory leads to itself, unless it is a link and is followed. -/
theorem locate_cons (h : Solid tree path) (hname : name ≠ parentName)
    (hlink : follow = true → ∀ node, tree (name :: path) = some node → node.isLink = false) :
    locate tree follow (name :: path) = some (name :: path) := by
  have hwalk (expand : TreePath → List Name → Option TreePath) :
      walk expand tree follow path [name] = some (name :: path) := by
    rw [walk, if_neg hname]
    cases hnode : tree (name :: path) with
    | none => rfl
    | some node =>
      cases node with
      | directory => rfl
      | file => rfl
      | link target =>
        cases follow with
        | false => rfl
        | true => cases hlink rfl _ hnode
  unfold locate
  rw [List.reverse_cons, resolve_solid h]
  exact hwalk _

end Resolution

/-! ## Calls -/

inductive FileError where
  | notFound
  | other
  deriving DecidableEq, Repr

inductive FileOp where
  | mkdir (path : TreePath)
  | isDir (path : TreePath)
  -- open for writing, and write to the file that was opened
  | openWrite (path : TreePath)
  | write (content : List UInt8)
  | chmod (path : TreePath) (mode : Nat)
  | symlink (target : List UInt8) (path : TreePath)

abbrev FileAnswer : FileOp → Type
  | .isDir _ => Bool
  | _ => Unit

abbrev FileReply (op : FileOp) : Type := Except FileError (FileAnswer op)

abbrev FileTrace : Type := List (Event FileOp FileReply)

/-- Where a call that succeeded creates, opens or changes something. -/
def touched (tree : FileTree) (e : Event FileOp FileReply) : Option TreePath :=
  match e with
  | ⟨.mkdir path, .ok _⟩ => locate tree false path
  | ⟨.openWrite path, .ok _⟩ => locate tree true path
  | ⟨.chmod path _, .ok _⟩ => locate tree true path
  | ⟨.symlink _ path, .ok _⟩ => locate tree false path
  | _ => none

def place (tree : FileTree) (location : Option TreePath) (node : Node) : FileTree :=
  match location with
  | some p => Function.update tree p (some node)
  | none => tree

/-- What the calls may answer.  Any of them may fail; only a directory that is not there is missing. -/
def posix : World FileOp FileReply FileTree where
  answers tree e :=
    match e with
    | ⟨.mkdir path, .ok _⟩ => ∃ p, locate tree false path = some p ∧ tree p = none
    | ⟨.mkdir path, .error x⟩ => x = .notFound → locate tree false path = none
    | ⟨.isDir path, .ok answer⟩ => answer = true ↔ ∃ p, locate tree true path = some p ∧ tree p = some .directory
    | ⟨.openWrite path, .ok _⟩ => ∃ p, locate tree true path = some p ∧ (tree p = none ∨ tree p = some .file)
    | ⟨.chmod path _, .ok _⟩ => ∃ p, locate tree true path = some p ∧ tree p ≠ none
    | ⟨.symlink _ path, .ok _⟩ => ∃ p, locate tree false path = some p ∧ tree p = none
    | _ => True
  after tree e :=
    match e with
    | ⟨.mkdir path, .ok _⟩ => place tree (locate tree false path) .directory
    | ⟨.openWrite path, .ok _⟩ => place tree (locate tree true path) .file
    | ⟨.symlink target path, .ok _⟩ => place tree (locate tree false path) (.link target)
    | _ => tree

/-- No call makes anything else of a directory. -/
theorem directory_after {tree : FileTree} {e : Event FileOp FileReply} {p : TreePath} (hanswers : posix.answers tree e)
    (hp : tree p = some .directory) : posix.after tree e p = some .directory := by
  have hplace {location : Option TreePath} {node : Node}
      (hfree : ∃ q, location = some q ∧ (tree q = none ∨ tree q = some .file)) :
      place tree location node p = some .directory := by
    obtain ⟨q, rfl, hq⟩ := hfree
    have hne : p ≠ q := by
      rintro rfl
      rw [hp] at hq
      rcases hq with hq | hq <;> cases hq
    rw [place, Function.update_of_ne hne, hp]
  obtain ⟨op, r⟩ := e
  cases r with
  | error x => cases op <;> exact hp
  | ok a =>
    cases op with
    | mkdir path =>
      obtain ⟨q, hq, hnone⟩ := hanswers
      exact hplace ⟨q, hq, .inl hnone⟩
    | openWrite path => exact hplace hanswers
    | symlink target path =>
      obtain ⟨q, hq, hnone⟩ := hanswers
      exact hplace ⟨q, hq, .inl hnone⟩
    | isDir path => exact hp
    | write content => exact hp
    | chmod path mode => exact hp

theorem solid_after {tree : FileTree} {e : Event FileOp FileReply} {path : TreePath} (hanswers : posix.answers tree e)
    (h : Solid tree path) : Solid (posix.after tree e) path where
  directory p hp := directory_after hanswers (h.directory p hp)
  named := h.named

end Posix
