import Cc2Camera.Image.LiveSerial
import Cc2Camera.Lib.Newest

/-!
# Fragments — which node a byte of a live file comes from

Fragments are laid over each other in the order of their versions, by a sort that leaves equal versions as
they lie in flash.  So the newest version that covers a byte decides it, and flash order matters exactly
where two nodes of that version differ (`newestWins_iff`).
-/

open Bytes Exceptions Sorting Overlay Newest

namespace Cc2Camera.Image

variable (codecs : Codecs)

/-! ## 1. Reading one file -/

/-- What an entry must satisfy before its fragments are looked at. -/
structure EntryGuards (name : Bytes) (dirent : Dirent) (seen : List Nat) : Prop where
  name : ¬(name = [] ∨ 255 < name.length ∨ 0x2F ∈ name ∨ 0 ∈ name ∨ dirent.dtype ≠ 8)
  inode : ¬dirent.inode ≤ 1
  unseen : dirent.inode ∉ seen

def Decodes (name : Bytes) (fragment : Inode) : Prop :=
  ∃ data, decodeJffs2Fragment codecs fragment name = .ok data

/-- The file an entry and its newest inode node describe. -/
def fileOf (name : Bytes) (dirent : Dirent) (newest : Inode) (data : Bytes) : ConfigFile :=
  { name := name, data := data, inode := dirent.inode, mode := newest.mode, uid := newest.uid
    gid := newest.gid, atime := newest.atime, mtime := newest.mtime, ctime := newest.ctime
    flags := newest.flags, direntMctime := dirent.mctime, dtype := dirent.dtype }

/-- The newest node found in the sorted fragments, its version held by no other. -/
theorem isNewest_of_sorted {fragments : List Inode} {metadata : Inode} :
    (∃ last, (sortByVersion fragments).getLast? = some last ∧
      ((sortByVersion fragments).filter fun n => n.version = last.version).length = 1 ∧
      ((sortByVersion fragments).filter fun n => n.version = last.version).head? = some metadata) ↔
      IsNewest Inode.version fragments metadata := by
  have hperm : (sortByVersion fragments).Perm fragments := perm_sortByKey Inode.version fragments
  constructor
  · rintro ⟨last, hlast, hone, hhead⟩
    obtain ⟨one, hlist⟩ := List.length_eq_one_iff.mp hone
    rw [hlist, List.head?_cons] at hhead
    obtain rfl : one = metadata := Option.some.inj hhead
    have hmem : last ∈ [one] := by
      rw [← hlist, List.mem_filter]
      exact ⟨List.mem_of_getLast? hlast, decide_eq_true rfl⟩
    obtain rfl : last = one := List.mem_singleton.mp hmem
    have hsorted : IsNewest Inode.version (sortByVersion fragments) last :=
      ⟨hlist, fun n hn => key_le_of_getLast? hlast (hperm.mem_iff.mp hn)⟩
    exact hsorted.of_perm hperm
  · intro h
    have hsorted := h.of_perm hperm.symm
    obtain ⟨last, hlast⟩ := Option.isSome_iff_exists.mp
      (List.getLast?_isSome.mpr (List.ne_nil_of_mem hsorted.mem))
    have hversion : last.version = metadata.version :=
      Nat.le_antisymm (hsorted.le last (List.mem_of_getLast? hlast)) (key_le_of_getLast? hlast h.mem)
    refine ⟨last, hlast, ?_⟩
    rw [hversion, hsorted.only]
    exact ⟨rfl, rfl⟩

theorem overlayFragments_eq_ok {name : Bytes} {fileSize : Nat} {fragments : List Inode}
    {data out : Bytes} (hlen : data.length = fileSize) :
    overlayFragments codecs name fileSize fragments data = .ok out ↔
      (∀ fragment ∈ fragments, Decodes codecs name fragment) ∧
        out = putAll data (fragments.map (fragmentWrite codecs name)) := by
  constructor
  · intro h
    refine ⟨?_, overlayFragments_eq_putAll codecs hlen h⟩
    clear hlen
    induction fragments generalizing data with
    | nil => exact List.forall_mem_nil _
    | cons fragment fragments ih =>
      obtain ⟨decoded, hdecoded, h⟩ := bind_eq_ok.mp h
      rw [List.forall_mem_cons]
      refine ⟨⟨decoded, hdecoded⟩, ?_⟩
      simp only at h
      split at h
      · exact ih h
      · exact ih h
  · rintro ⟨hdecodes, rfl⟩
    have htotal : ∃ out, overlayFragments codecs name fileSize fragments data = .ok out := by
      clear hlen
      induction fragments generalizing data with
      | nil => exact ⟨data, rfl⟩
      | cons fragment fragments ih =>
        rw [List.forall_mem_cons] at hdecodes
        obtain ⟨⟨decoded, hdecoded⟩, hrest⟩ := hdecodes
        rw [overlayFragments, hdecoded, ok_bind]
        simp only
        split
        · exact ih hrest
        · exact ih hrest
    obtain ⟨out, hout⟩ := htotal
    rw [hout, overlayFragments_eq_putAll codecs hlen hout]

/-- What it takes to read a file back, and the file that is read. -/
theorem reconstructFile_eq_ok {nodes : List Node} {name : Bytes} {dirent : Dirent} {seen : List Nat}
    {file : ConfigFile} :
    reconstructFile codecs nodes name dirent seen = .ok file ↔
      EntryGuards name dirent seen ∧
        (∀ fragment ∈ currentInodes nodes dirent.inode, Decodes codecs name fragment) ∧
        ∃ newest, IsNewest Inode.version (currentInodes nodes dirent.inode) newest ∧
          newest.mode &&& 0xF000 = 0x8000 ∧ newest.fileSize ≤ CONFIG_SIZE ∧
          file = fileOf name dirent newest
            (putAll (List.replicate newest.fileSize 0) (inodeWrites codecs nodes name dirent.inode)) := by
  have hmem {f : Inode} : f ∈ sortByVersion (currentInodes nodes dirent.inode) ↔
      f ∈ currentInodes nodes dirent.inode := (perm_sortByKey Inode.version _).mem_iff
  have hoverlay (newest : Inode) (out : Bytes) :
      overlayFragments codecs name newest.fileSize (sortByVersion (currentInodes nodes dirent.inode))
          (List.replicate newest.fileSize 0) = .ok out ↔
        (∀ fragment ∈ currentInodes nodes dirent.inode, Decodes codecs name fragment) ∧
          out = putAll (List.replicate newest.fileSize 0)
            (inodeWrites codecs nodes name dirent.inode) := by
    rw [overlayFragments_eq_ok codecs List.length_replicate]
    simp only [hmem, inodeWrites]
  simp only [reconstructFile, bind_eq_ok, raiseIf_eq_ok, orRaise_eq_ok, hoverlay, Except.ok.injEq]
  constructor
  · rintro ⟨_, hname, _, hinode, _, hseen, last, hlast, _, hone, metadata, hhead, _, hmode, _, hsize,
      data, ⟨hdecodes, rfl⟩, rfl⟩
    refine ⟨⟨hname, hinode, hseen⟩, hdecodes, metadata,
      isNewest_of_sorted.mp ⟨last, hlast, not_not.mp hone, hhead⟩, not_not.mp hmode, not_lt.mp hsize, rfl⟩
  · rintro ⟨⟨hname, hinode, hseen⟩, hdecodes, metadata, hnewest, hmode, hsize, rfl⟩
    obtain ⟨last, hlast, hone, hhead⟩ := isNewest_of_sorted.mpr hnewest
    exact ⟨(), hname, (), hinode, (), hseen, last, hlast, (), not_not.mpr hone, metadata, hhead, (),
      not_not.mpr hmode, (), not_lt.mpr hsize, _, ⟨hdecodes, rfl⟩, rfl⟩

/-! ## 2. The deciding fragment -/

/-- A current fragment that covers a position, and no newer one does. -/
structure TopCovering (nodes : List Node) (name : Bytes) (inode p : Nat) (fragment : Inode) : Prop where
  mem : fragment ∈ currentInodes nodes inode
  covers : (fragmentWrite codecs name fragment).Covers p
  top : ∀ other ∈ currentInodes nodes inode, (fragmentWrite codecs name other).Covers p →
    other.version ≤ fragment.version

/-- The byte a fragment decodes to at a position of the file. -/
def fragmentByte (name : Bytes) (fragment : Inode) (p : Nat) : Option UInt8 :=
  (fragmentWrite codecs name fragment).data[p - fragment.fileOffset]?

/-- Each byte is that of a newest fragment covering it, and zero where none does. -/
theorem fileByte_cases {nodes : List Node} {name : Bytes} {inode size p : Nat} (hp : p < size) :
    (∃ fragment, TopCovering codecs nodes name inode p fragment ∧
        (putAll (List.replicate size 0) (inodeWrites codecs nodes name inode))[p]? =
          fragmentByte codecs name fragment p) ∨
      (∀ fragment ∈ currentInodes nodes inode, ¬(fragmentWrite codecs name fragment).Covers p) ∧
        (putAll (List.replicate size 0) (inodeWrites codecs nodes name inode))[p]? = some 0 := by
  have hperm : (sortByVersion (currentInodes nodes inode)).Perm (currentInodes nodes inode) :=
    perm_sortByKey Inode.version _
  rw [getElem?_putAll (by rw [List.length_replicate]; exact hp)]
  cases hlast : lastWrite (inodeWrites codecs nodes name inode) p with
  | some w =>
    obtain ⟨fragment, hfragment, rfl, hcovers, htop⟩ :=
      lastWrite_of_pairwise (pairwise_sortByKey Inode.version _) hlast
    exact .inl ⟨fragment, ⟨hperm.mem_iff.mp hfragment, hcovers,
      fun other hother => htop other (hperm.mem_iff.mpr hother)⟩, rfl⟩
  | none =>
    refine .inr ⟨fun fragment hfragment => ?_, ?_⟩
    · exact lastWrite_eq_none.mp hlast _ (List.mem_map_of_mem (hperm.mem_iff.mpr hfragment))
    · show (List.replicate size (0 : UInt8))[p]? = _
      rw [List.getElem?_replicate, if_pos hp]

theorem currentInodes_perm {nodes nodes' : List Node} (h : nodes.Perm nodes') (inode : Nat) :
    (currentInodes nodes inode).Perm (currentInodes nodes' inode) :=
  ((h.filter _).filterMap _).filter _

theorem TopCovering.of_perm {nodes nodes' : List Node} {name : Bytes} {inode p : Nat}
    {fragment : Inode} (h : TopCovering codecs nodes name inode p fragment)
    (hperm : nodes.Perm nodes') : TopCovering codecs nodes' name inode p fragment where
  mem := (currentInodes_perm hperm inode).mem_iff.mp h.mem
  covers := h.covers
  top other hother := h.top other ((currentInodes_perm hperm inode).mem_iff.mpr hother)

/-- Wherever two nodes of the newest version cover a byte of the file, they agree on it. -/
def TiesAgree (nodes : List Node) (name : Bytes) (inode : Nat) : Prop :=
  ∀ newest, IsNewest Inode.version (currentInodes nodes inode) newest → ∀ p < newest.fileSize,
    ∀ f g, TopCovering codecs nodes name inode p f → TopCovering codecs nodes name inode p g →
      fragmentByte codecs name f p = fragmentByte codecs name g p

/-- Where the ties agree, the nodes give one content in any order. -/
theorem content_of_perm {nodes nodes' : List Node} (hperm : nodes.Perm nodes') {name : Bytes}
    {inode : Nat} {newest : Inode} (hties : TiesAgree codecs nodes name inode)
    (hnewest : IsNewest Inode.version (currentInodes nodes inode) newest) :
    putAll (List.replicate newest.fileSize 0) (inodeWrites codecs nodes' name inode) =
      putAll (List.replicate newest.fileSize 0) (inodeWrites codecs nodes name inode) := by
  apply List.ext_getElem?
  intro p
  by_cases hp : p < newest.fileSize
  · rcases @fileByte_cases codecs nodes name inode _ _ hp with ⟨f, hf, hbyte⟩ | ⟨hnone, hbyte⟩
    · rcases @fileByte_cases codecs nodes' name inode _ _ hp with ⟨g, hg, hbyte'⟩ | ⟨hnone', -⟩
      · rw [hbyte, hbyte', hties newest hnewest p hp f g hf (hg.of_perm codecs hperm.symm)]
      · exact absurd hf.covers (hnone' f (hf.of_perm codecs hperm).mem)
    · rcases @fileByte_cases codecs nodes' name inode _ _ hp with ⟨g, hg, -⟩ | ⟨-, hbyte'⟩
      · exact absurd hg.covers (hnone g (hg.of_perm codecs hperm.symm).mem)
      · rw [hbyte, hbyte']
  · rw [List.getElem?_eq_none (by rw [length_putAll, List.length_replicate]; omega),
      List.getElem?_eq_none (by rw [length_putAll, List.length_replicate]; omega)]

theorem reconstructFile_of_perm {nodes nodes' : List Node} (hperm : nodes.Perm nodes') {name : Bytes}
    {dirent : Dirent} {seen : List Nat} {file : ConfigFile}
    (hties : TiesAgree codecs nodes name dirent.inode)
    (h : reconstructFile codecs nodes name dirent seen = .ok file) :
    reconstructFile codecs nodes' name dirent seen = .ok file := by
  rw [reconstructFile_eq_ok] at h ⊢
  obtain ⟨hguards, hdecodes, newest, hnewest, hmode, hsize, rfl⟩ := h
  have hcurrent := currentInodes_perm hperm dirent.inode
  refine ⟨hguards, fun fragment hf => hdecodes fragment (hcurrent.mem_iff.mpr hf), newest,
    hnewest.of_perm hcurrent, hmode, hsize, ?_⟩
  rw [content_of_perm codecs hperm hties hnewest]

/-! ## 3. The live files -/

/-- The files are read back one entry at a time. -/
theorem reconstructFiles_forall₂ {nodes : List Node} {entries : List (Bytes × Dirent)}
    {seen : List Nat} {files : List ConfigFile}
    (h : reconstructFiles codecs nodes entries seen = .ok files) :
    List.Forall₂ (fun entry file =>
      ∃ seen, reconstructFile codecs nodes entry.1 entry.2 seen = .ok file) entries files := by
  induction entries generalizing seen files with
  | nil =>
    rw [← Except.ok.inj h]
    exact .nil
  | cons entry entries ih =>
    obtain ⟨name, dirent⟩ := entry
    rw [reconstructFiles, bind_eq_ok] at h
    obtain ⟨file, hfile, h⟩ := h
    obtain ⟨rest, hrest, h⟩ := bind_eq_ok.mp h
    rw [← Except.ok.inj h]
    exact .cons ⟨seen, hfile⟩ (ih hrest)

theorem reconstructFiles_of_perm {nodes nodes' : List Node} (hperm : nodes.Perm nodes')
    {entries : List (Bytes × Dirent)} {seen : List Nat} {files : List ConfigFile}
    (hties : ∀ entry ∈ entries, TiesAgree codecs nodes entry.1 entry.2.inode)
    (h : reconstructFiles codecs nodes entries seen = .ok files) :
    reconstructFiles codecs nodes' entries seen = .ok files := by
  induction entries generalizing seen files with
  | nil => exact h
  | cons entry entries ih =>
    obtain ⟨name, dirent⟩ := entry
    rw [List.forall_mem_cons] at hties
    rw [reconstructFiles, bind_eq_ok] at h ⊢
    obtain ⟨file, hfile, h⟩ := h
    obtain ⟨rest, hrest, h⟩ := bind_eq_ok.mp h
    refine ⟨file, reconstructFile_of_perm codecs hperm hties.1 hfile, ?_⟩
    rw [ih hties.2 hrest, ok_bind]
    exact h

/-- The live files by content: the newest node gives the length, the newest fragment covering a byte gives
the byte, and where the nodes lie in flash does not matter. -/
structure NewestWins (nodes : List Node) (map : DirentMap) (files : List ConfigFile) : Prop where
  size : ∀ file ∈ files, ∃ newest,
    IsNewest Inode.version (currentInodes nodes file.inode) newest ∧ file.data.length = newest.fileSize
  written : ∀ file ∈ files, ∀ p < file.data.length, ∀ fragment,
    TopCovering codecs nodes file.name file.inode p fragment →
      file.data[p]? = fragmentByte codecs file.name fragment p
  unwritten : ∀ file ∈ files, ∀ p < file.data.length,
    (∀ fragment ∈ currentInodes nodes file.inode,
      ¬(fragmentWrite codecs file.name fragment).Covers p) → file.data[p]? = some 0
  order : ∀ nodes', nodes.Perm nodes' → reconstructLiveConfigFiles codecs nodes' map = .ok files

theorem mem_right_of_forall₂ {α β : Type} {R : α → β → Prop} {xs : List α} {ys : List β}
    (h : List.Forall₂ R xs ys) {y : β} (hy : y ∈ ys) : ∃ x ∈ xs, R x y := by
  induction h with
  | nil => exact absurd hy List.not_mem_nil
  | cons hr _ ih =>
    rcases List.mem_cons.mp hy with rfl | hy
    · exact ⟨_, List.mem_cons_self, hr⟩
    · obtain ⟨x, hx, hxy⟩ := ih hy
      exact ⟨x, List.mem_cons_of_mem _ hx, hxy⟩

/-- Live files follow their newest nodes exactly when no byte of a live file is covered by two nodes of its
newest version that differ on it. -/
theorem newestWins_iff {nodes : List Node} {map : DirentMap} {files : List ConfigFile}
    (h : reconstructLiveConfigFiles codecs nodes map = .ok files) :
    NewestWins codecs nodes map files ↔
      ∀ entry ∈ liveEntries map, TiesAgree codecs nodes entry.1 entry.2.inode := by
  have hread := h
  rw [reconstructLiveConfigFiles, bind_eq_ok] at hread
  obtain ⟨_, hroot, hread⟩ := hread
  have hfiles := reconstructFiles_forall₂ codecs hread
  have hentries {entry : Bytes × Dirent} : entry ∈ sortByKey Prod.fst (liveEntries map) ↔
      entry ∈ liveEntries map := (perm_sortByKey Prod.fst _).mem_iff
  constructor
  · intro law entry hentry newest hnewest p hp f g hf hg
    obtain ⟨file, hfile, seen, hreconstruct⟩ :=
      mem_right_of_forall₂ hfiles.flip (hentries.mpr hentry)
    obtain ⟨-, -, newest', hnewest', -, -, rfl⟩ := (reconstructFile_eq_ok codecs).mp hreconstruct
    obtain rfl : newest = newest' := hnewest.unique hnewest'
    have hlength : p < (putAll (List.replicate newest.fileSize 0)
        (inodeWrites codecs nodes entry.1 entry.2.inode)).length := by
      rw [length_putAll, List.length_replicate]
      exact hp
    have hbyte := law.written _ hfile p hlength f hf
    exact hbyte.symm.trans (law.written _ hfile p hlength g hg)
  · intro hties
    have file_cases {file : ConfigFile} (hfile : file ∈ files) :
        ∃ name dirent newest, TiesAgree codecs nodes name dirent.inode ∧
          IsNewest Inode.version (currentInodes nodes dirent.inode) newest ∧
          file = fileOf name dirent newest (putAll (List.replicate newest.fileSize 0)
            (inodeWrites codecs nodes name dirent.inode)) := by
      obtain ⟨⟨name, dirent⟩, hentry, seen, hreconstruct⟩ := mem_right_of_forall₂ hfiles hfile
      obtain ⟨-, -, newest, hnewest, -, -, heq⟩ := (reconstructFile_eq_ok codecs).mp hreconstruct
      exact ⟨name, dirent, newest, hties _ (hentries.mp hentry), hnewest, heq⟩
    have hlength {name : Bytes} {dirent : Dirent} {newest : Inode} :
        (fileOf name dirent newest (putAll (List.replicate newest.fileSize 0)
          (inodeWrites codecs nodes name dirent.inode))).data.length = newest.fileSize := by
      rw [fileOf, length_putAll, List.length_replicate]
    refine ⟨?_, ?_, ?_, ?_⟩
    · intro file hfile
      obtain ⟨name, dirent, newest, -, hnewest, rfl⟩ := file_cases hfile
      exact ⟨newest, hnewest, hlength⟩
    · intro file hfile p hp fragment hfragment
      obtain ⟨name, dirent, newest, hagree, hnewest, rfl⟩ := file_cases hfile
      rw [hlength] at hp
      rcases @fileByte_cases codecs nodes name dirent.inode _ _ hp with ⟨f, hf, hbyte⟩ | ⟨hnone, -⟩
      · exact hbyte.trans (hagree newest hnewest p hp f fragment hf hfragment)
      · exact absurd hfragment.covers (hnone fragment hfragment.mem)
    · intro file hfile p hp hnone
      obtain ⟨name, dirent, newest, -, -, rfl⟩ := file_cases hfile
      rw [hlength] at hp
      rcases @fileByte_cases codecs nodes name dirent.inode _ _ hp with ⟨f, hf, -⟩ | ⟨-, hbyte⟩
      · exact absurd hf.covers (hnone f hf.mem)
      · exact hbyte
    · intro nodes' hperm
      rw [reconstructLiveConfigFiles, bind_eq_ok]
      refine ⟨(), hroot, reconstructFiles_of_perm codecs hperm ?_ hread⟩
      exact fun entry hentry => hties entry (hentries.mp hentry)

theorem newestWins_iff_rewritten :
    NewestWins plainCodecs rewrittenNodes rewrittenMap [rewrittenFile] ↔
      ∀ entry ∈ liveEntries rewrittenMap,
        TiesAgree plainCodecs rewrittenNodes entry.1 entry.2.inode :=
  newestWins_iff plainCodecs (by decide +kernel)

/-! ## 4. Two nodes of one version -/

-- a file of one byte, written twice by one version and then touched by an empty newer node
def tiedFirst : Inode := wholeInode 2 1 0x81A4 0 0 18 18 18 0 (ascii "A")
def tiedSecond : Inode := wholeInode 2 1 0x81A4 0 0 18 18 18 0 (ascii "B")
def tiedNewest : Inode := { wholeInode 2 2 0x81A4 0 0 18 18 18 0 [] with fileSize := 1 }

def tiedMap : DirentMap := [((1, ascii "uvc.attr"), rootDirent 1 2 1 8 (ascii "uvc.attr"))]

def tiedNodes : List Node := [inodeNode 0 tiedFirst, inodeNode 72 tiedSecond, inodeNode 144 tiedNewest]

-- the first two nodes the other way round
def swappedNodes : List Node := [inodeNode 72 tiedSecond, inodeNode 0 tiedFirst, inodeNode 144 tiedNewest]

/-- The content of a live file follows flash order where two nodes of one version write the same byte. -/
theorem tiedNodes_order :
    tiedNodes.Perm swappedNodes ∧
      (reconstructLiveConfigFiles plainCodecs tiedNodes tiedMap).toOption.map
        (List.map ConfigFile.data) = some [ascii "B"] ∧
      (reconstructLiveConfigFiles plainCodecs swappedNodes tiedMap).toOption.map
        (List.map ConfigFile.data) = some [ascii "A"] ∧
      ∀ files, reconstructLiveConfigFiles plainCodecs tiedNodes tiedMap = .ok files →
        ¬NewestWins plainCodecs tiedNodes tiedMap files := by
  have hperm : tiedNodes.Perm swappedNodes := by decide
  have hfirst : (reconstructLiveConfigFiles plainCodecs tiedNodes tiedMap).toOption.map
      (List.map ConfigFile.data) = some [ascii "B"] := by decide +kernel
  have hsecond : (reconstructLiveConfigFiles plainCodecs swappedNodes tiedMap).toOption.map
      (List.map ConfigFile.data) = some [ascii "A"] := by decide +kernel
  refine ⟨hperm, hfirst, hsecond, fun files hfiles law => ?_⟩
  rw [hfiles] at hfirst
  rw [law.order _ hperm] at hsecond
  exact absurd (hfirst.symm.trans hsecond) (by decide)

end Cc2Camera.Image
