import Cc2Camera.Squashfs.Extract

/-!
# Containment — where an extraction writes

Every name is checked by itself, but a call on a path goes where the links that are already there lead.  As long
as no call names a link and the root is none of the special inodes, everything stays in the destination; an image
that lists a name twice, first as a symbolic link, makes a call that does not.
-/

open Bytes Exceptions Program World Posix

namespace Cc2Camera.SquashfsExtract

open Extraction

/-- Everything the calls of a run touch is the destination or beneath it. -/
def Contained (destination : TreePath) (tree : FileTree) (t : FileTrace) : Prop :=
  ∀ before e after, t = before ++ e :: after → ∀ p, touched (posix.afterAll tree before) e = some p → destination <:+ p

/-- The path a call names; making a link is the one call that replaces nothing. -/
def namedPath : FileOp → Option TreePath
  | .mkdir path => some path
  | .isDir path => some path
  | .openWrite path => some path
  | .chmod path _ => some path
  | .write _ => none
  | .symlink _ _ => none

/-- The path the call names is no link. -/
def Unlinked (tree : FileTree) (e : Event FileOp FileReply) : Prop :=
  ∀ path, namedPath e.op = some path → ∀ node, tree path = some node → node.isLink = false

def Inode.isSpecial (inode : Inode) : Bool := !inode.isDirectory && !inode.isRegular && !inode.isSymlink

abbrev Touches (destination : TreePath) (tree : FileTree) (e : Event FileOp FileReply) : Prop :=
  ∀ p, touched tree e = some p → destination <:+ p

/-- From `tree` on, calls that name no link touch nothing outside. -/
abbrev Inside {α : Type} (destination : TreePath) (p : Extraction α) (returns : FileTree → α → Prop)
    (tree : FileTree) : Prop :=
  (posix.only Unlinked).Safe (Touches destination) p returns (fun _ _ => True) tree

section Containment

variable {destination path : TreePath} {tree : FileTree}

/-- The parent is no link, nor any directory above it. -/
structure Ready (tree : FileTree) (path : TreePath) : Prop where
  parent : Solid tree path.tail
  named : parentName ∉ path

theorem Ready.of_solid (h : Solid tree path) : Ready tree path where
  parent := by
    cases path with
    | nil => exact h
    | cons name path => exact h.tail
  named := h.named

theorem Ready.solid (h : Ready tree path) (hpath : tree path = some .directory) : Solid tree path := by
  cases path with
  | nil => exact h.parent
  | cons name path =>
    exact h.parent.cons (fun hname => h.named (hname ▸ List.mem_cons_self ..)) hpath

theorem Ready.child {name : Name} (h : Solid tree path) (hname : name ≠ parentName) : Ready tree (name :: path) where
  parent := h
  named hmem := by
    rcases List.mem_cons.mp hmem with hparent | hmem
    · exact hname hparent.symm
    · exact h.named hmem

theorem Ready.located {follow : Bool} (h : Ready tree path)
    (hlink : follow = true → ∀ node, tree path = some node → node.isLink = false) :
    locate tree follow path = some path := by
  cases path with
  | nil => rfl
  | cons name path => exact locate_cons h.parent (fun hname => h.named (hname ▸ List.mem_cons_self ..)) hlink

/-! ### Directories -/

theorem inside_existing {x : SquashExc} (h : Ready tree path) :
    Inside destination (existing path x) (fun tree _ => tree path = some .directory) tree := by
  rintro r ⟨hanswers, hunlinked⟩
  refine ⟨nofun, ?_⟩
  cases r with
  | error y => trivial
  | ok isDir =>
    change Inside destination (lift (raiseIf (isDir = false) x)) _ tree
    cases isDir with
    | false => trivial
    | true =>
      obtain ⟨p, hp, hdirectory⟩ := hanswers.mp rfl
      have hlocated : locate tree true path = some path := h.located fun _ => hunlinked path rfl
      obtain rfl : path = p := Option.some.inj (hlocated.symm.trans hp)
      exact hdirectory

theorem inside_mkdir_handle {g : SquashExc → Extraction Unit} (h : Ready tree path)
    (hfree : tree path = none → destination <:+ path) (hg : g .osError = existing path .osError) :
    Inside destination ((call (.mkdir path)).handle g) (fun tree _ => tree path = some .directory) tree := by
  have hlocated : locate tree false path = some path := h.located fun hfollow => by cases hfollow
  rintro r ⟨hanswers, hunlinked⟩
  cases r with
  | ok u =>
    obtain ⟨p, hp, hnone⟩ := hanswers
    obtain rfl : path = p := Option.some.inj (hlocated.symm.trans hp)
    refine ⟨fun q hq => ?_, ?_⟩
    · obtain rfl : path = q := Option.some.inj (hlocated.symm.trans hq)
      exact hfree hnone
    · change place tree (locate tree false path) .directory path = some .directory
      rw [hlocated, place, Function.update_self]
  | error x =>
    refine ⟨fun q hq => (by cases hq), ?_⟩
    cases x with
    | notFound =>
      have hmissing := hanswers rfl
      rw [hlocated] at hmissing
      cases hmissing
    | other =>
      change Inside destination (g .osError) _ tree
      rw [hg]
      exact inside_existing h

theorem inside_mkdirParents (h : Ready tree path) (hfree : tree path = none → destination <:+ path) :
    Inside destination (mkdirParents path) (fun tree _ => Solid tree path) tree := by
  have hmade : Inside destination (mkdirParents path) (fun tree _ => tree path = some .directory) tree := by
    cases path with
    | nil => exact inside_mkdir_handle h hfree rfl
    | cons name parent => exact inside_mkdir_handle h hfree rfl
  have hkept := hmade.keeps h.parent fun _ _ hanswers => solid_after hanswers.1
  exact safe_mono hkept (fun tree _ hpath => Ready.solid ⟨hpath.2, h.named⟩ hpath.1) fun _ _ hx => hx

/-- A directory that is there is left as it is. -/
theorem inside_mkdirParents_solid (h : Solid tree path) :
    Inside destination (mkdirParents path) (fun tree _ => Solid tree path) tree := by
  apply inside_mkdirParents (Ready.of_solid h)
  intro hnone
  have hpath := h.directory path (List.suffix_refl _)
  rw [hnone] at hpath
  cases hpath

/-! ### Files and links -/

theorem inside_lift {α β : Type} {e : Except SquashExc α} {f : α → Extraction β} {returns : FileTree → β → Prop}
    (h : ∀ a, e = .ok a → Inside destination (f a) returns tree) :
    Inside destination (lift e >>= f) returns tree := by
  cases e with
  | ok a => exact h a rfl
  | error x => trivial

-- a call on a path that is ready touches that path
theorem touches_located {e : Event FileOp FileReply} (h : Ready tree path) (hinside : destination <:+ path)
    (hunlinked : ∀ node, tree path = some node → node.isLink = false)
    (he : ∀ p, touched tree e = some p → ∃ follow, locate tree follow path = some p) :
    Touches destination tree e := by
  intro p hp
  obtain ⟨follow, hfollow⟩ := he p hp
  have hlocated : locate tree follow path = some path := h.located fun _ => hunlinked
  obtain rfl : path = p := Option.some.inj (hlocated.symm.trans hfollow)
  exact hinside

theorem inside_chmod {mode : Nat} (h : Ready tree path) (hinside : destination <:+ path) :
    Inside destination (call (.chmod path mode)) (fun _ _ => True) tree := by
  rintro r ⟨-, hunlinked⟩
  refine ⟨touches_located h hinside (hunlinked path rfl) fun p hp => ?_, ?_⟩
  · cases r with
    | ok u => exact ⟨true, hp⟩
    | error x => cases hp
  · cases r with
    | ok u => trivial
    | error x => trivial

theorem inside_writeBytes {content : Bytes} (h : Ready tree path) (hinside : destination <:+ path) :
    Inside destination (writeBytes path content) (fun tree _ => Solid tree path.tail) tree := by
  rintro r ⟨hanswers, hunlinked⟩
  refine ⟨touches_located h hinside (hunlinked path rfl) fun p hp => ?_, ?_⟩
  · cases r with
    | ok u => exact ⟨true, hp⟩
    | error x => cases hp
  · cases r with
    | error x => trivial
    | ok u =>
      have hsolid := solid_after hanswers h.parent
      intro r _
      refine ⟨nofun, ?_⟩
      cases r with
      | ok u => exact hsolid
      | error x => trivial

theorem inside_symlink {target : Bytes} (h : Ready tree path) (hinside : destination <:+ path) :
    Inside destination (call (.symlink target path)) (fun _ _ => True) tree := by
  rintro r -
  have hlocated : locate tree false path = some path := h.located nofun
  cases r with
  | ok u =>
    refine ⟨fun p hp => ?_, trivial⟩
    obtain rfl : path = p := Option.some.inj (hlocated.symm.trans hp)
    exact hinside
  | error x => exact ⟨nofun, trivial⟩

/-! ### The tree -/

theorem safeComponent_eq_ok {name safeName : Bytes} (h : safeComponent name = .ok safeName) :
    safeName ≠ parentName := by
  obtain ⟨u, hsafe, hname⟩ := bind_eq_ok.mp h
  obtain rfl : name = safeName := Except.ok.inj hname
  have hall := raiseIf_eq_ok.mp hsafe
  intro hparent
  exact hall (.inr (.inr (.inl hparent)))

theorem inside_forEntries {body : DirectoryEntry → Extraction Unit} {entries : List DirectoryEntry}
    (hbody : ∀ entry tree, Solid tree path → Inside destination (body entry) (fun _ _ => True) tree)
    (h : Solid tree path) : Inside destination (forEntries body entries) (fun tree _ => Solid tree path) tree := by
  induction entries generalizing tree with
  | nil => exact h
  | cons entry entries ih =>
    have hkept := (hbody entry tree h).keeps h fun _ _ hanswers => solid_after hanswers.1
    exact hkept.then fun tree _ hentry => ih hentry.2

theorem named_special {name : Name} : name ++ specialSuffix ≠ parentName := by
  intro h
  have hlength := congrArg List.length h
  rw [List.length_append] at hlength
  have hsuffix : specialSuffix.length = 8 := rfl
  have hparent : parentName.length = 2 := rfl
  omega

variable {decompress : Bytes → Option Bytes} {fs : SquashFS}

/-- One inode and everything below it, by induction on the depth. -/
theorem inside_extractInode {budget : Nat} {inode : Inode} (h : Ready tree path) (hinside : destination <:+ path)
    (hspecial : path = destination → inode.isSpecial = false) :
    Inside destination (extractInode decompress fs budget inode path) (fun _ _ => True) tree := by
  induction budget generalizing tree path inode with
  | zero => trivial
  | succ budget ih =>
    unfold extractInode
    split
    · refine (inside_mkdirParents h fun _ => hinside).then fun tree _ hsolid => ?_
      refine inside_lift fun entries _ => ?_
      refine Safe.then (inside_forEntries (fun entry tree hsolid => ?_) hsolid) fun tree _ hsolid =>
        inside_chmod (Ready.of_solid hsolid) hinside
      refine inside_lift fun safeName hname => inside_lift fun child _ => ?_
      have hbelow : destination <:+ safeName :: path := hinside.trans (List.suffix_cons safeName path)
      refine ih (Ready.child hsolid (safeComponent_eq_ok hname)) hbelow fun hpath => ?_
      -- the child's path is longer than the destination
      have hlength := hinside.length_le
      rw [← hpath, List.length_cons] at hlength
      omega
    split
    · refine (inside_mkdirParents_solid h.parent).then fun tree _ hparent => ?_
      refine inside_lift fun content _ => ?_
      refine (inside_writeBytes ⟨hparent, h.named⟩ hinside).then fun tree _ hparent => ?_
      exact inside_chmod ⟨hparent, h.named⟩ hinside
    split
    · refine inside_lift fun target _ => ?_
      refine (inside_mkdirParents_solid h.parent).then fun tree _ hparent => ?_
      exact inside_symlink ⟨hparent, h.named⟩ hinside
    · next hdirectory hregular hsymlink =>
      refine (inside_mkdirParents_solid h.parent).then fun tree _ hparent => ?_
      cases path with
      | nil => trivial
      | cons name parent =>
        have hchild : Ready tree ((name ++ specialSuffix) :: parent) := Ready.child hparent named_special
        have hbeneath : destination <:+ parent := by
          rcases List.suffix_cons_iff.mp hinside with hroot | hbeneath
          · have hordinary := hspecial hroot.symm
            rw [Inode.isSpecial] at hordinary
            simp_all
          · exact hbeneath
        have hwrite := @inside_writeBytes destination _ _ (specialText inode) hchild
          (hbeneath.trans (List.suffix_cons _ parent))
        exact safe_mono hwrite (fun _ _ _ => trivial) fun _ _ _ => trivial

end Containment

/-- Where no call names a link and the root is no special inode, an extraction stays in its destination. -/
theorem extract_contained {decompress : Bytes → Option Bytes} {fs : SquashFS} {destination : TreePath} {budget : Nat}
    {tree : FileTree} {t : FileTrace} {o : Outcome SquashExc Unit} (hdestination : Solid tree destination)
    (hroot : ∀ root, fs.readInode decompress fs.sb.rootInode = .ok root → root.isSpecial = false)
    (hrun : posix.RunsIn tree (extract decompress fs destination budget) t o)
    (hunlinked : ∀ before e after, t = before ++ e :: after → Unlinked (posix.afterAll tree before) e) :
    Contained destination tree t := by
  have hinside : Inside destination (extract decompress fs destination budget) (fun _ _ => True) tree := by
    refine (inside_mkdirParents_solid hdestination).then fun tree _ hsolid => ?_
    refine inside_lift fun root hread => ?_
    exact inside_extractInode (Ready.of_solid hsolid) (List.suffix_refl _) fun _ => hroot root hread
  exact hinside.sound (hrun.only hunlinked)


/-! ## Runs on small images -/

/-- The directory is there. -/
def present (path : TreePath) : FileTrace := [⟨.mkdir path, .error .other⟩, ⟨.isDir path, .ok true⟩]

theorem runs_present (path : TreePath) : Runs (mkdirParents path) (present path) (.returned ()) := by
  cases path with
  | nil => exact .act (.act (.ret ()))
  | cons name parent => exact .act (.act (.ret ()))

theorem runs_call (op : FileOp) (a : FileAnswer op) : Runs (call op) [⟨op, .ok a⟩] (.returned a) := .act (.ret a)

theorem runs_lift_then {α β : Type} {e : Except SquashExc α} {a : α} {f : α → Extraction β} {t : FileTrace}
    {o : Outcome SquashExc β} (h : e = .ok a) (hf : Runs (f a) t o) : Runs (lift e >>= f) t o := by
  rw [h]
  exact hf

section Runs

variable {decompress : Bytes → Option Bytes} {fs : SquashFS} {budget : Nat} {inode : Inode} {path : TreePath}

def fileEvents (path : TreePath) (content : Bytes) (mode : Nat) : FileTrace :=
  present path.tail ++ [⟨.openWrite path, .ok ()⟩, ⟨.write content, .ok ()⟩, ⟨.chmod path mode, .ok ()⟩]

theorem runs_file {content : Bytes} (hdirectory : inode.isDirectory = false) (hregular : inode.isRegular = true)
    (hread : fs.readFile decompress inode = .ok content) :
    Runs (extractInode decompress fs (budget + 1) inode path) (fileEvents path content (inode.mode &&& 0o7777))
      (.returned ()) := by
  unfold extractInode
  rw [if_neg (Bool.eq_false_iff.mp hdirectory), if_pos hregular]
  refine runs_bind.mpr ⟨_, _, _, runs_present path.tail, runs_lift_then hread ?_, rfl⟩
  exact .act (.act (.act (.ret ())))

theorem runs_symlink {target : Bytes} (hdirectory : inode.isDirectory = false) (hregular : inode.isRegular = false)
    (hsymlink : inode.isSymlink = true) (htarget : inode.symlink = some target) :
    Runs (extractInode decompress fs (budget + 1) inode path)
      (present path.tail ++ [⟨.symlink target path, .ok ()⟩]) (.returned ()) := by
  unfold extractInode
  rw [if_neg (Bool.eq_false_iff.mp hdirectory), if_neg (Bool.eq_false_iff.mp hregular), if_pos hsymlink, htarget]
  refine runs_lift_then rfl ?_
  exact runs_bind.mpr ⟨_, _, _, runs_present path.tail, runs_call (.symlink target path) (), rfl⟩

theorem runs_directory {entries : List DirectoryEntry} {t : FileTrace} (hdirectory : inode.isDirectory = true)
    (hread : fs.readDirectory decompress inode = .ok entries)
    (hentries : Runs (forEntries (extractEntry decompress fs (extractInode decompress fs budget) path) entries) t
      (.returned ())) :
    Runs (extractInode decompress fs (budget + 1) inode path)
      (present path ++ (t ++ [⟨.chmod path (inode.mode &&& 0o7777), .ok ()⟩])) (.returned ()) := by
  unfold extractInode
  rw [if_pos hdirectory]
  refine runs_bind.mpr ⟨_, _, _, runs_present path, runs_lift_then hread ?_, rfl⟩
  exact runs_bind.mpr ⟨_, _, _, hentries, runs_call (.chmod path _) (), rfl⟩

theorem runs_noEntries {body : DirectoryEntry → Extraction Unit} : Runs (forEntries body []) [] (.returned ()) := .ret ()

theorem runs_entry {child : Inode} {entry : DirectoryEntry} {entries : List DirectoryEntry} {t t' : FileTrace}
    {extractChild : Inode → TreePath → Extraction Unit} (hname : safeComponent entry.name = .ok entry.name)
    (hread : fs.readInode decompress entry.ref = .ok child)
    (hchild : Runs (extractChild child (entry.name :: path)) t (.returned ()))
    (hrest : Runs (forEntries (extractEntry decompress fs extractChild path) entries) t' (.returned ())) :
    Runs (forEntries (extractEntry decompress fs extractChild path) (entry :: entries)) (t ++ t') (.returned ()) := by
  refine runs_bind.mpr ⟨t, (), t', ?_, hrest, rfl⟩
  exact runs_lift_then hname (runs_lift_then hread hchild)

theorem runs_extract {root : Inode} {t : FileTrace} (hread : fs.readInode decompress fs.sb.rootInode = .ok root)
    (hroot : Runs (extractInode decompress fs budget root path) t (.returned ())) :
    Runs (extract decompress fs path budget) (present path ++ t) (.returned ()) :=
  runs_bind.mpr ⟨_, _, _, runs_present path, runs_lift_then hread hroot, rfl⟩

end Runs

/-- An uncompressed image whose root lists the entries, each an inode and a name.  Inode 0 is a symbolic link to
`/out`, inode 28 an empty file and inode 60 the root. -/
def smallImage (entries : List (Nat × Bytes)) : Bytes :=
  let inode (kind : Nat) (fields : List (Nat × Nat)) : Bytes :=
    leFields ([(2, kind), (2, 0o755), (2, 0), (2, 0), (4, 0), (4, 1)] ++ fields)
  let directory := leFields [(4, entries.length - 1), (4, 0), (4, 0)] ++
    entries.flatMap fun entry => leFields [(2, entry.1), (2, 0), (2, 2), (2, entry.2.length - 1)] ++ entry.2
  let inodes := inode 3 [(4, 1), (4, 4)] ++ ascii "/out" ++ inode 2 [(4, 0), (4, INVALID_FRAGMENT), (4, 0), (4, 0)] ++
    inode 1 [(4, 0), (4, 2), (2, directory.length + 3), (2, 0), (4, 0)]
  let block (data : Bytes) : Bytes := leBytes 2 (METADATA_UNCOMPRESSED + data.length) ++ data
  leFields [(4, SQUASHFS_MAGIC), (4, 3), (4, 0), (4, 131072), (4, 0), (2, 4), (2, 17), (2, 0), (2, 1), (2, 4), (2, 0),
    (8, 60), (8, 0), (8, 0), (8, 0), (8, 96), (8, 98 + inodes.length), (8, 0), (8, 0)] ++ block inodes ++ block directory

def smallFs (entries : List (Nat × Bytes)) : SquashFS where
  image := smallImage entries
  base := 0
  sb :=
    { blockSize := 131072, rootInode := 60, inodeTableStart := 96, directoryTableStart := 190
      fragmentTableStart := 0 }

def linkInode : Inode := { kind := 3, mode := 0o755, symlink := some (ascii "/out"), fileSize := 4 }

def fileInode : Inode := { kind := 2, mode := 0o755, startBlock := some 0 }

def rootInode (size : Nat) : Inode := { kind := 1, mode := 0o755, startBlock := some 0, fileSize := size }

def noXz (_ : Bytes) : Option Bytes := none

-- a file listed after a link: of another name, and of its own
def apartListed : SquashFS := smallFs [(0, ascii "a"), (28, ascii "b")]

def twiceListed : SquashFS := smallFs [(0, ascii "a"), (28, ascii "a")]

theorem apartListed_reads :
    apartListed.readInode noXz 60 = .ok (rootInode 33) ∧ apartListed.readInode noXz 28 = .ok fileInode ∧
      apartListed.readInode noXz 0 = .ok linkInode ∧
      apartListed.readDirectory noXz (rootInode 33) = .ok [⟨ascii "a", 0, 2⟩, ⟨ascii "b", 28, 2⟩] := by decide +kernel

theorem twiceListed_reads :
    twiceListed.readInode noXz 60 = .ok (rootInode 33) ∧ twiceListed.readInode noXz 28 = .ok fileInode ∧
      twiceListed.readInode noXz 0 = .ok linkInode ∧
      twiceListed.readDirectory noXz (rootInode 33) = .ok [⟨ascii "a", 0, 2⟩, ⟨ascii "a", 28, 2⟩] ∧
      SquashFS.open (smallImage [(0, ascii "a"), (28, ascii "a")]) 0 = .ok twiceListed := by decide +kernel

def freshDestination : TreePath := [ascii "dest"]

def freshTree : FileTree := fun p => if p <:+ freshDestination then some .directory else none

theorem solid_freshDestination : Solid freshTree freshDestination where
  directory p hp := if_pos hp
  named := by decide


def filePath : TreePath := ascii "a" :: freshDestination

def besidePath : TreePath := ascii "b" :: freshDestination

/-- An extraction that makes the link and then the file. -/
def linkedThen (file : TreePath) : FileTrace :=
  present freshDestination ++ (present freshDestination ++ ((present freshDestination ++
    [⟨.symlink (ascii "/out") filePath, .ok ()⟩]) ++ (fileEvents file [] 0o755 ++ []) ++
    [⟨.chmod freshDestination 0o755, .ok ()⟩]))

abbrev apartEvents : FileTrace := linkedThen besidePath

abbrev twiceEvents : FileTrace := linkedThen filePath

-- up to the opening of the file, and from there on
def linkEvents : FileTrace :=
  present freshDestination ++ present freshDestination ++ present freshDestination ++
    [⟨.symlink (ascii "/out") filePath, .ok ()⟩] ++ present freshDestination

def fileRest : FileTrace :=
  [⟨.write [], .ok ()⟩, ⟨.chmod filePath 0o755, .ok ()⟩, ⟨.chmod freshDestination 0o755, .ok ()⟩]

section Linked

variable {fs : SquashFS} {name : Bytes}

/-- An image whose root lists the link and then the file. -/
theorem runs_linkedThen (hname : safeComponent name = .ok name) (hroot : fs.readInode noXz fs.sb.rootInode = .ok (rootInode 33))
    (hfile : fs.readInode noXz 28 = .ok fileInode) (hlink : fs.readInode noXz 0 = .ok linkInode)
    (hdirectory : fs.readDirectory noXz (rootInode 33) = .ok [⟨ascii "a", 0, 2⟩, ⟨name, 28, 2⟩])
    (hcontent : fs.readFile noXz fileInode = .ok []) :
    Runs (extract noXz fs freshDestination 2) (linkedThen (name :: freshDestination)) (.returned ()) := by
  have hchild : Runs (extractInode noXz fs 1 fileInode (name :: freshDestination))
      (fileEvents (name :: freshDestination) [] 0o755) (.returned ()) := runs_file rfl rfl hcontent
  have hlinked : Runs (extractInode noXz fs 1 linkInode filePath)
      (present freshDestination ++ [⟨.symlink (ascii "/out") filePath, .ok ()⟩]) (.returned ()) :=
    runs_symlink rfl rfl rfl rfl
  apply runs_extract hroot
  apply runs_directory rfl hdirectory
  exact runs_entry rfl hlink hlinked (runs_entry hname hfile hchild runs_noEntries)

end Linked

theorem runs_apart : Runs (extract noXz apartListed freshDestination 2) apartEvents (.returned ()) := by
  obtain ⟨hroot, hfile, hlink, hdirectory⟩ := apartListed_reads
  exact runs_linkedThen rfl hroot hfile hlink hdirectory rfl

theorem runs_twice : Runs (extract noXz twiceListed freshDestination 2) twiceEvents (.returned ()) := by
  obtain ⟨hroot, hfile, hlink, hdirectory, -⟩ := twiceListed_reads
  exact runs_linkedThen rfl hroot hfile hlink hdirectory rfl

theorem gives_present {P : FileTree → Event FileOp FileReply → Prop} {tree : FileTree} {path : TreePath} {t : FileTrace}
    (h : Solid tree path) (hP : ∀ e, namedPath e.op = some path → P tree e) (ht : (posix.only P).Gives tree t) :
    (posix.only P).Gives tree (present path ++ t) := by
  refine ⟨⟨nofun, hP _ rfl⟩, ⟨?_, hP _ rfl⟩, ht⟩
  exact iff_of_true rfl ⟨path, locate_solid h, h.directory path (List.suffix_refl _)⟩

/-- A directory that is there is no link. -/
theorem unlinked_of_solid {tree : FileTree} {path : TreePath} (h : Solid tree path) (e : Event FileOp FileReply)
    (he : namedPath e.op = some path) : Unlinked tree e := by
  intro p hp node hnode
  rw [he] at hp
  cases hp
  rw [h.directory path (List.suffix_refl _)] at hnode
  cases hnode
  rfl

theorem gives_chmod {P : FileTree → Event FileOp FileReply → Prop} {tree : FileTree} {path location : TreePath} {mode : Nat}
    {t : FileTrace} (hlocated : locate tree true path = some location) (hlocation : tree location ≠ none)
    (hP : P tree ⟨.chmod path mode, .ok ()⟩) (ht : (posix.only P).Gives tree t) :
    (posix.only P).Gives tree (⟨.chmod path mode, .ok ()⟩ :: t) :=
  ⟨⟨⟨location, hlocated, hlocation⟩, hP⟩, ht⟩

/-- From the link on: the file and the mode of the directory, where nothing has the name of the file. -/
theorem gives_file {tree : FileTree} {name : Bytes} (hsolid : Solid tree freshDestination) (hname : name ≠ parentName)
    (hnone : tree (name :: freshDestination) = none) :
    (posix.only Unlinked).Gives tree
      (fileEvents (name :: freshDestination) [] 0o755 ++ [] ++ [⟨.chmod freshDestination 0o755, .ok ()⟩]) := by
  have hready : Ready tree (name :: freshDestination) := Ready.child hsolid hname
  have hlocated : locate tree true (name :: freshDestination) = some (name :: freshDestination) := by
    refine hready.located fun _ node hnode => ?_
    rw [hnone] at hnode
    cases hnode
  have hopen : posix.answers tree ⟨.openWrite (name :: freshDestination), .ok ()⟩ := ⟨_, hlocated, .inl hnone⟩
  refine gives_present hsolid (unlinked_of_solid hsolid) ⟨⟨hopen, ?_⟩, ?_⟩
  · rintro _ ⟨⟩ node hnode
    rw [hnone] at hnode
    cases hnode
  -- the tree with the file
  have hafter := solid_after hopen hsolid
  have hfile : posix.after tree ⟨.openWrite (name :: freshDestination), .ok ()⟩ (name :: freshDestination) =
      some .file := by
    change place tree (locate tree true (name :: freshDestination)) .file (name :: freshDestination) = some .file
    rw [hlocated, place, Function.update_self]
  have hnolink (node : Node)
      (hnode : posix.after tree ⟨.openWrite (name :: freshDestination), .ok ()⟩ (name :: freshDestination) = some node) :
      node.isLink = false := by
    rw [hfile] at hnode
    cases hnode
    rfl
  refine ⟨⟨trivial, fun p hp => by cases hp⟩, gives_chmod ((Ready.child hafter hname).located fun _ => hnolink) ?_ ?_ ?_⟩
  · exact fun hmissing => by cases hfile.symm.trans hmissing
  · rintro _ ⟨⟩
    exact hnolink
  · refine gives_chmod (locate_solid hafter) ?_ (unlinked_of_solid hafter _ rfl) trivial
    exact fun hmissing => by cases (hafter.directory _ (List.suffix_refl _)).symm.trans hmissing

/-- The tree in which the link has been made. -/
def linkedTree : FileTree := Function.update freshTree filePath (some (.link (ascii "/out")))

def outside : TreePath := [ascii "out"]

theorem locate_linkedTree : locate linkedTree true filePath = some outside := by decide

theorem after_link : posix.after freshTree ⟨.symlink (ascii "/out") filePath, .ok ()⟩ = linkedTree := by
  have hlocated : locate freshTree false filePath = some filePath := by decide
  show place freshTree (locate freshTree false filePath) (.link (ascii "/out")) = linkedTree
  rw [hlocated]
  rfl

theorem made_link : posix.answers freshTree ⟨.symlink (ascii "/out") filePath, .ok ()⟩ :=
  ⟨filePath, by decide, by decide⟩

theorem solid_linkedTree : Solid linkedTree freshDestination := by
  rw [← after_link]
  exact solid_after made_link solid_freshDestination

theorem gives_apart : (posix.only Unlinked).Gives freshTree apartEvents := by
  have hfresh := solid_freshDestination
  have hfirst := unlinked_of_solid hfresh
  refine gives_present hfresh hfirst (gives_present hfresh hfirst (gives_present hfresh hfirst ?_))
  refine ⟨⟨made_link, fun p hp => by cases hp⟩, ?_⟩
  change (posix.only Unlinked).Gives (posix.after freshTree ⟨.symlink (ascii "/out") filePath, .ok ()⟩) _
  rw [after_link]
  exact gives_file solid_linkedTree (by decide) (by decide)

/-- A link that leads outside, and a file beside it. -/
theorem extract_contained_apart :
    posix.RunsIn freshTree (extract noXz apartListed freshDestination 2) apartEvents (.returned ()) ∧
      Contained freshDestination freshTree apartEvents := by
  obtain ⟨hroot, -⟩ := apartListed_reads
  obtain ⟨hgives, hunlinked⟩ := gives_only.mp gives_apart
  refine ⟨⟨runs_apart, hgives⟩, extract_contained solid_freshDestination ?_ ⟨runs_apart, hgives⟩ hunlinked⟩
  intro root hread
  cases hread.symm.trans hroot
  rfl

theorem gives_twice : posix.Gives freshTree twiceEvents := by
  have hfresh := solid_freshDestination
  have hlinked := solid_linkedTree
  have hopen : posix.answers linkedTree ⟨.openWrite filePath, .ok ()⟩ :=
    ⟨outside, locate_linkedTree, .inl (by decide)⟩
  have hsolid := solid_after hopen hlinked
  have hfile : locate (posix.after linkedTree ⟨.openWrite filePath, .ok ()⟩) true filePath = some outside := by
    show locate (place linkedTree (locate linkedTree true filePath) .file) true filePath = some outside
    rw [locate_linkedTree]
    decide
  have hwritten : posix.after linkedTree ⟨.openWrite filePath, .ok ()⟩ outside = some .file := by
    show place linkedTree (locate linkedTree true filePath) .file outside = some .file
    rw [locate_linkedTree]
    decide
  have hall : (posix.only fun _ _ => True).Gives freshTree twiceEvents := by
    refine gives_present hfresh (fun _ _ => trivial) (gives_present hfresh (fun _ _ => trivial) ?_)
    refine gives_present hfresh (fun _ _ => trivial) ⟨⟨made_link, trivial⟩, ?_⟩
    change (posix.only fun _ _ => True).Gives (posix.after freshTree ⟨.symlink (ascii "/out") filePath, .ok ()⟩) _
    rw [after_link]
    refine gives_present hlinked (fun _ _ => trivial) ⟨⟨hopen, trivial⟩, ⟨trivial, trivial⟩, ?_⟩
    refine gives_chmod hfile (fun hmissing => by cases hwritten.symm.trans hmissing) trivial ?_
    refine gives_chmod (locate_solid hsolid) (fun hmissing => ?_) trivial trivial
    cases (hsolid.directory _ (List.suffix_refl _)).symm.trans hmissing
  exact (gives_only.mp hall).1

/-- The file listed after a link of its name is written where the link leads. -/
theorem not_contained_twice :
    SquashFS.open (smallImage [(0, ascii "a"), (28, ascii "a")]) 0 = .ok twiceListed ∧
      (Solid freshTree freshDestination ∧ ∀ p, freshDestination <:+ p → p ≠ freshDestination → freshTree p = none) ∧
      posix.RunsIn freshTree (extract noXz twiceListed freshDestination 2) twiceEvents (.returned ()) ∧
      ¬Contained freshDestination freshTree twiceEvents := by
  refine ⟨twiceListed_reads.2.2.2.2, ⟨solid_freshDestination, ?_⟩, ⟨runs_twice, gives_twice⟩, ?_⟩
  · intro p hp hne
    exact if_neg fun hsuffix => hne (hsuffix.eq_of_length_le hp.length_le)
  · intro h
    have hbefore : posix.afterAll freshTree linkEvents = linkedTree := after_link
    have htouched : touched (posix.afterAll freshTree linkEvents) ⟨.openWrite filePath, .ok ()⟩ = some outside := by
      rw [hbefore]
      exact locate_linkedTree
    have hinside : freshDestination <:+ outside := h linkEvents _ fileRest rfl outside htouched
    exact absurd hinside (by decide)

end Cc2Camera.SquashfsExtract
