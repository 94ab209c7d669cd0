import Cc2Camera.Image.Extents
import Cc2Camera.Image.Rebuilt

/-!
# Layouts — what the scanner finds in the preserving builder's layout

A layout is a list of records, each at the next aligned cursor.  Every aligned offset before the final
cursor lies inside a record and everything behind it is erased, so the scan returns the records in order
and otherwise only nodes that start inside one of them.
-/

open Bytes Exceptions

namespace Cc2Camera.Image

variable (codecs : Codecs)

/-! ## 1. Records -/

/-- Bytes that the scanner reads as a node wherever they lie. -/
structure Record where
  bytes : Bytes
  node : Nat → Node
  start : ∀ offset, (node offset).offset = offset
  total : ∀ offset, (node offset).totalLength = bytes.length
  nonempty : 0 < bytes.length
  read : ∀ data offset, slice data offset (offset + bytes.length) = bytes →
    parseNodeAt data offset = .ok (some (node offset))

def direntRecord (d : Dirent) (h : d.Fits) : Record where
  bytes := encodedDirent d
  node offset := direntNode offset d
  start _ := rfl
  total _ := (length_encodedDirent d).symm
  nonempty := by rw [length_encodedDirent]; omega
  read _ _ hdata := parseNodeAt_encodedDirent h hdata

def inodeRecord (i : Inode) (h : i.Fits) : Record where
  bytes := encodedInode i
  node offset := inodeNode offset i
  start _ := rfl
  total _ := (length_encodedInode i).symm
  nonempty := by rw [length_encodedInode]; omega
  read _ _ hdata := parseNodeAt_encodedInode h hdata

/-! ## 2. Laying records out -/

theorem le_align4 (n : Nat) : n ≤ align4 n := by
  rw [align4]
  omega

theorem align4_mod (n : Nat) : align4 n % 4 = 0 := by
  rw [align4]
  omega

/-- The next record, behind erased bytes up to the aligned cursor. -/
def extend (body : Bytes) (r : Record) : Bytes :=
  body ++ List.replicate (align4 body.length - body.length) 0xFF ++ r.bytes

def bodyOf (body : Bytes) (records : List Record) : Bytes := records.foldl extend body

/-- The nodes of the records, each at its cursor. -/
def nodesOf (cursor : Nat) : List Record → List Node
  | [] => []
  | r :: records => r.node cursor :: nodesOf (align4 (cursor + r.bytes.length)) records

theorem length_extend (body : Bytes) (r : Record) :
    (extend body r).length = align4 body.length + r.bytes.length := by
  have hle := le_align4 body.length
  rw [extend, List.length_append, List.length_append, List.length_replicate]
  omega

theorem bodyOf_cons (body : Bytes) (r : Record) (records : List Record) :
    bodyOf body (r :: records) = bodyOf (extend body r) records := rfl

theorem bodyOf_prefix (body : Bytes) (records : List Record) :
    ∃ rest, bodyOf body records = body ++ rest := by
  induction records generalizing body with
  | nil => exact ⟨[], (List.append_nil body).symm⟩
  | cons r records ih =>
    obtain ⟨rest, hrest⟩ := ih (extend body r)
    rw [bodyOf_cons, hrest, extend, List.append_assoc, List.append_assoc]
    exact ⟨_, rfl⟩

theorem length_le_bodyOf (body : Bytes) (records : List Record) :
    body.length ≤ (bodyOf body records).length := by
  obtain ⟨rest, hrest⟩ := bodyOf_prefix body records
  rw [hrest, List.length_append]
  omega

/-- Every record is read back where it was laid. -/
theorem read_nodesOf {body : Bytes} {records : List Record} {n : Node}
    (hn : n ∈ nodesOf (align4 body.length) records) :
    parseNodeAt (laidOut (bodyOf body records)) n.offset = .ok (some n) := by
  induction records generalizing body with
  | nil => exact absurd hn List.not_mem_nil
  | cons r records ih =>
    rcases List.mem_cons.mp hn with rfl | hn
    · rw [r.start]
      apply r.read
      have hlen := length_extend body r
      obtain ⟨rest, hrest⟩ := bodyOf_prefix (extend body r) records
      have hpad : (body ++ List.replicate (align4 body.length - body.length) (0xFF : UInt8)).length =
          align4 body.length := by
        have hle := le_align4 body.length
        rw [List.length_append, List.length_replicate]
        omega
      rw [bodyOf_cons, hrest, slice_laidOut_body (by rw [List.length_append, hlen]; omega),
        slice_append_left _ _ (by rw [hlen]), extend, slice_append_right _ _ (by rw [hpad]), hpad,
        Nat.sub_self, Nat.add_sub_cancel_left, slice_self]
    · rw [bodyOf_cons]
      apply ih
      rwa [length_extend]

theorem nodesOf_offsets {records : List Record} {cursor : Nat} {n : Node}
    (hn : n ∈ nodesOf cursor records) : cursor ≤ n.offset := by
  induction records generalizing cursor with
  | nil => exact absurd hn List.not_mem_nil
  | cons r records ih =>
    rcases List.mem_cons.mp hn with rfl | hn
    · rw [r.start]
    · have hle := le_align4 (cursor + r.bytes.length)
      have hnext := ih hn
      omega

theorem nodesOf_aligned {records : List Record} {cursor : Nat} (hcursor : cursor % 4 = 0) {n : Node}
    (hn : n ∈ nodesOf cursor records) : n.offset % 4 = 0 := by
  induction records generalizing cursor with
  | nil => exact absurd hn List.not_mem_nil
  | cons r records ih =>
    rcases List.mem_cons.mp hn with rfl | hn
    · rw [r.start]
      exact hcursor
    · exact ih (align4_mod _) hn

theorem nodesOf_fit {body : Bytes} {records : List Record} {n : Node}
    (hn : n ∈ nodesOf (align4 body.length) records) :
    n.offset + n.totalLength ≤ (bodyOf body records).length := by
  induction records generalizing body with
  | nil => exact absurd hn List.not_mem_nil
  | cons r records ih =>
    rcases List.mem_cons.mp hn with rfl | hn
    · have hle := length_le_bodyOf (extend body r) records
      rw [length_extend] at hle
      rw [r.start, r.total]
      exact hle
    · rw [bodyOf_cons]
      apply ih
      rwa [length_extend]

theorem nodesOf_pairwise (records : List Record) (cursor : Nat) :
    (nodesOf cursor records).Pairwise fun a b => a.offset < b.offset := by
  induction records generalizing cursor with
  | nil => exact .nil
  | cons r records ih =>
    refine .cons (fun b hb => ?_) (ih _)
    have hle := le_align4 (cursor + r.bytes.length)
    have hb := nodesOf_offsets hb
    have hpos := r.nonempty
    rw [r.start]
    omega

/-- An aligned offset before the final cursor lies inside a record. -/
theorem covered {body : Bytes} {records : List Record} {offset : Nat} (haligned : offset % 4 = 0)
    (hlo : align4 body.length ≤ offset) (hhi : offset < align4 (bodyOf body records).length) :
    ∃ n ∈ nodesOf (align4 body.length) records,
      n.offset ≤ offset ∧ offset < n.offset + n.totalLength := by
  induction records generalizing body with
  | nil => exact absurd hhi (by rw [bodyOf, List.foldl_nil]; omega)
  | cons r records ih =>
    by_cases hinside : offset < align4 body.length + r.bytes.length
    · exact ⟨_, List.mem_cons_self, by rw [r.start]; exact hlo, by rw [r.start, r.total]; exact hinside⟩
    · have hnext : align4 (extend body r).length ≤ offset := by
        rw [length_extend, align4]
        omega
      obtain ⟨n, hn, hcovers⟩ := ih hnext hhi
      rw [length_extend] at hn
      exact ⟨n, List.mem_cons_of_mem _ hn, hcovers⟩

/-! ## 3. Scans in order -/

theorem collectNodes_pairwise {data : Bytes} {offsets : List Nat} {nodes : List Node}
    (hsorted : offsets.Pairwise fun a b => a < b)
    (hstart : ∀ offset ∈ offsets, ∀ n, parseNodeAt data offset = .ok (some n) → n.offset = offset)
    (h : collectNodes data offsets = .ok nodes) :
    nodes.Pairwise fun a b => a.offset < b.offset := by
  induction offsets generalizing nodes with
  | nil =>
    rw [← Except.ok.inj h]
    exact .nil
  | cons offset offsets ih =>
    obtain ⟨hfirst, hrest⟩ := List.pairwise_cons.mp hsorted
    rw [collectNodes, bind_eq_ok] at h
    obtain ⟨found, hfound, h⟩ := h
    obtain ⟨rest, hcollect, h⟩ := bind_eq_ok.mp h
    rw [← Except.ok.inj h]
    have htail := ih hrest (fun o ho => hstart o (List.mem_cons_of_mem _ ho)) hcollect
    cases found with
    | none => exact htail
    | some n =>
      refine .cons (fun b hb => ?_) htail
      obtain ⟨o, ho, hparse⟩ := (mem_collectNodes hcollect).mp hb
      rw [hstart offset List.mem_cons_self n hfound, hstart o (List.mem_cons_of_mem _ ho) b hparse]
      exact hfirst o ho

/-- A scan returns its nodes by ascending offset. -/
theorem parseJffs2_pairwise {data : Bytes} {nodes : List Node} (h : parseJffs2 data = .ok nodes) :
    nodes.Pairwise fun a b => a.offset < b.offset := by
  refine collectNodes_pairwise ?_ ?_ h
  · rw [scanOffsets, List.pairwise_map]
    exact List.pairwise_lt_range.imp fun hlt => by omega
  · intro offset hoffset n hparse
    obtain ⟨haligned, hfit⟩ := mem_scanOffsets.mp hoffset
    rcases parseNodeAt_cases haligned hfit with ⟨-, n', hparse', hdescribes⟩ | ⟨-, hnone⟩
    · obtain rfl : n' = n := Option.some.inj (Except.ok.inj (hparse'.symm.trans hparse))
      exact hdescribes.start
    · rw [hnone] at hparse
      exact absurd hparse (by simp)

instance : Std.Antisymm fun a b : Node => a.offset < b.offset where
  antisymm _ _ hab hba := absurd hab (Nat.lt_asymm hba)

/-- The scan of a layout: the records in order, and nodes that start strictly inside one of them. -/
structure ScanOf (expected nodes : List Node) : Prop where
  found : expected.Sublist nodes
  inside : ∀ n ∈ nodes, n ∈ expected ∨
    ∃ m ∈ expected, m.offset < n.offset ∧ n.offset < m.offset + m.totalLength

theorem scan_bodyOf {records : List Record} (hfit : (bodyOf [] records).length + 12 ≤ CONFIG_SIZE) :
    ∃ nodes, parseJffs2 (laidOut (bodyOf [] records)) = .ok nodes ∧ ScanOf (nodesOf 0 records) nodes := by
  have hlen := length_laidOut (show (bodyOf [] records).length ≤ CONFIG_SIZE by omega)
  obtain ⟨nodes, hnodes⟩ := parseJffs2_total (laidOut (bodyOf [] records))
  have hmem {m : Node} (hm : m ∈ nodesOf 0 records) : m ∈ nodes := by
    have hread := @read_nodesOf [] records m hm
    have hend := @nodesOf_fit [] records m hm
    exact (mem_parseJffs2 hnodes).mpr ⟨m.offset, nodesOf_aligned rfl hm, by omega, hread⟩
  refine ⟨nodes, hnodes, ⟨?_, ?_⟩⟩
  · refine List.sublist_of_subperm_of_pairwise (List.subperm_of_subset ?_ fun m hm => hmem hm)
      (nodesOf_pairwise records 0) (parseJffs2_pairwise hnodes)
    exact (nodesOf_pairwise records 0).imp fun hlt heq => by
      rw [heq] at hlt
      exact absurd hlt (Nat.lt_irrefl _)
  · intro n hn
    obtain ⟨hnode, -⟩ := describes_of_scan hnodes hn
    have hleast := hnode.header.least
    have hfits := hnode.header.fits
    by_cases hbefore : n.offset < align4 (bodyOf [] records).length
    · obtain ⟨m, hm, hlo, hhi⟩ := covered hnode.aligned (Nat.zero_le _) hbefore
      rcases Nat.eq_or_lt_of_le hlo with heq | hlt
      · rw [node_eq_of_offset hnodes hn (hmem hm) heq.symm]
        exact .inl hm
      · exact .inr ⟨m, hm, hlt, hhi⟩
    · have hle := le_align4 (bodyOf [] records).length
      have herased := @parseNodeAt_erased (bodyOf [] records) n.offset (by omega) (by omega)
      rcases @parseNodeAt_cases (laidOut (bodyOf [] records)) n.offset hnode.aligned (by omega) with
        ⟨-, n', hparse, -⟩ | ⟨hnone, -⟩
      · rw [herased] at hparse
        exact absurd hparse (by simp)
      · exact absurd hnode hnone

/-- Where no word of a layout but the first ones of its records is the magic word, the scan is the records. -/
theorem parseJffs2_bodyOf {records : List Record} {words : Nat} (hwords : (bodyOf [] records).length = 4 * words)
    (hfit : (bodyOf [] records).length + 12 ≤ CONFIG_SIZE)
    (hquiet : noMagicBut ((nodesOf 0 records).map Node.offset) 0 (bodyOf [] records) = true) :
    parseJffs2 (laidOut (bodyOf [] records)) = .ok (nodesOf 0 records) := by
  obtain ⟨nodes, hnodes, hfound, hinside⟩ := scan_bodyOf hfit
  have hsubset : nodes ⊆ nodesOf 0 records := by
    intro n hn
    rcases hinside n hn with hmem | ⟨m, hm, -, hend⟩
    · exact hmem
    obtain ⟨hnode, -⟩ := describes_of_scan hnodes hn
    have hfits : m.offset + m.totalLength ≤ (bodyOf [] records).length := nodesOf_fit hm
    have haligned := hnode.aligned
    by_contra hnot
    have hoffset : 4 * (n.offset / 4) = n.offset := by omega
    have hout : 0 + 4 * (n.offset / 4) ∉ (nodesOf 0 records).map Node.offset := by
      rintro hstart
      obtain ⟨m, hm, heq⟩ := List.mem_map.mp hstart
      exact hnot (node_eq_of_offset hnodes (hfound.subset hm) hn (by omega) ▸ hm)
    have hword := magic_ne_of_noMagicBut hquiet (by omega) hout
    rw [hoffset, ← slice_laidOut_body (by omega)] at hword
    exact hword hnode.header.magic
  have hnodup : nodes.Nodup := (parseJffs2_pairwise hnodes).imp fun hlt heq => by
    rw [heq] at hlt
    exact absurd hlt (Nat.lt_irrefl _)
  rw [hnodes, hfound.eq_of_length_le (List.subperm_of_subset hnodup hsubset).length_le]

/-! ## 4. The builder's records -/

def cleanmarkerRecord : Record where
  bytes := encodedCleanmarker
  node := cleanmarkerNode
  start _ := rfl
  total _ := length_encodedCleanmarker.symm
  nonempty := by rw [length_encodedCleanmarker]; decide
  read _ _ hdata := parseNodeAt_encodedCleanmarker hdata

/-- The kind of file that can be written back: what its two records store fits their fields. -/
structure Rebuildable (file : ConfigFile) : Prop where
  name : 1 ≤ file.name.length ∧ file.name.length ≤ 255
  inode : 1 < file.inode ∧ file.inode < 2 ^ 32
  mode : file.mode < 2 ^ 32
  owner : file.uid < 2 ^ 16 ∧ file.gid < 2 ^ 16
  times : file.atime < 2 ^ 32 ∧ file.mtime < 2 ^ 32 ∧ file.ctime < 2 ^ 32 ∧ file.direntMctime < 2 ^ 32
  flags : file.flags < 2 ^ 16
  dtype : file.dtype < 2 ^ 8

def direntOf (file : ConfigFile) : Dirent :=
  rootDirent 1 file.inode file.direntMctime file.dtype file.name

def inodeOf (file : ConfigFile) : Inode :=
  wholeInode file.inode 1 file.mode file.uid file.gid file.atime file.mtime file.ctime file.flags file.data

theorem direntOf_fits {file : ConfigFile} (h : Rebuildable file) : (direntOf file).Fits := by
  obtain ⟨⟨-, hname⟩, ⟨-, hinode⟩, -, -, ⟨-, -, -, hmctime⟩, -, hdtype⟩ := h
  rw [Dirent.fits_iff, direntHeader, direntBody, direntOf, rootDirent]
  simp only [List.forall_mem_cons, List.not_mem_nil, false_imp_iff, implies_true, and_true]
  refine ⟨⟨by decide, by decide, ?_⟩, by decide, by decide, ?_, ?_, ?_, ?_, by decide⟩ <;> omega

theorem inodeOf_fits {file : ConfigFile} (h : Rebuildable file) (hdata : file.data.length ≤ FIRST_ERASEBLOCK) :
    (inodeOf file).Fits := by
  obtain ⟨-, ⟨-, hinode⟩, hmode, ⟨huid, hgid⟩, ⟨hatime, hmtime, hctime, -⟩, hflags, -⟩ := h
  have hblock : FIRST_ERASEBLOCK = 0x4000 := rfl
  rw [Inode.fits_iff, inodeHeader, inodeBody, inodeOf, wholeInode]
  simp only [List.forall_mem_cons, List.not_mem_nil, false_imp_iff, implies_true, and_true]
  refine ⟨⟨by decide, by decide, ?_⟩, ?_, by decide, ?_, ?_, ?_, ?_, ?_, ?_, ?_, by decide, ?_, ?_,
    by decide, by decide, ?_⟩ <;> omega

/-- Where the inode of a file lies whose directory entry is at `cursor`. -/
def inodeCursor (cursor : Nat) (file : ConfigFile) : Nat := align4 (cursor + (40 + file.name.length))

/-- Where the next file begins. -/
def nextCursor (cursor : Nat) (file : ConfigFile) : Nat :=
  align4 (inodeCursor cursor file + (68 + file.data.length))

/-- Every directory entry and inode ends inside the first eraseblock. -/
def LayoutFits (cursor : Nat) : List ConfigFile → Prop
  | [] => True
  | file :: files => cursor + (40 + file.name.length) ≤ FIRST_ERASEBLOCK ∧
      inodeCursor cursor file + (68 + file.data.length) ≤ FIRST_ERASEBLOCK ∧
      LayoutFits (nextCursor cursor file) files

/-- The directory entry and the inode of each file, where the layout puts them. -/
def fileNodes (cursor : Nat) : List ConfigFile → List Node
  | [] => []
  | file :: files => direntNode cursor (direntOf file) ::
      inodeNode (inodeCursor cursor file) (inodeOf file) :: fileNodes (nextCursor cursor file) files

/-- A file whose two records can be encoded. -/
structure Storable (file : ConfigFile) : Prop where
  dirent : (direntOf file).Fits
  inode : (inodeOf file).Fits

def recordsOf : (files : List ConfigFile) → (∀ file ∈ files, Storable file) → List Record
  | [], _ => []
  | file :: files, h =>
    direntRecord (direntOf file) (h file List.mem_cons_self).dirent ::
      inodeRecord (inodeOf file) (h file List.mem_cons_self).inode ::
      recordsOf files fun f hf => h f (List.mem_cons_of_mem _ hf)

theorem storable_of_fits {files : List ConfigFile} {cursor : Nat}
    (hfiles : ∀ file ∈ files, Rebuildable file) (hfit : LayoutFits cursor files) :
    ∀ file ∈ files, Storable file := by
  induction files generalizing cursor with
  | nil => exact List.forall_mem_nil _
  | cons file files ih =>
    rw [List.forall_mem_cons] at hfiles ⊢
    obtain ⟨-, hinode, hrest⟩ := hfit
    exact ⟨⟨direntOf_fits hfiles.1, inodeOf_fits hfiles.1 (by omega)⟩, ih hfiles.2 hrest⟩

theorem nodesOf_recordsOf {files : List ConfigFile} (h : ∀ file ∈ files, Storable file) (cursor : Nat) :
    nodesOf cursor (recordsOf files h) = fileNodes cursor files := by
  induction files generalizing cursor with
  | nil => rfl
  | cons file files ih =>
    have hdirent := length_encodedDirent (direntOf file)
    have hinode := length_encodedInode (inodeOf file)
    rw [recordsOf, nodesOf, nodesOf, ih, fileNodes]
    simp only [direntRecord, inodeRecord, hdirent, hinode]
    rfl

/-- Placing a record at the aligned cursor extends what is laid out. -/
theorem place_extend {body : Bytes} {r : Record}
    (hfit : align4 body.length + r.bytes.length ≤ CONFIG_SIZE) :
    place (laidOut body) (align4 body.length) r.bytes = laidOut (extend body r) :=
  place_laidOut (le_align4 body.length) hfit

section Cursors

variable {file : ConfigFile} (h : Storable file) (body : Bytes)

/-- What is laid out once the two records of a file are. -/
def extendFile : Bytes :=
  extend (extend body (direntRecord (direntOf file) h.dirent)) (inodeRecord (inodeOf file) h.inode)

theorem inodeCursor_eq : inodeCursor (align4 body.length) file =
    align4 (extend body (direntRecord (direntOf file) h.dirent)).length := by
  have hlen : (direntRecord (direntOf file) h.dirent).bytes.length = 40 + file.name.length :=
    length_encodedDirent _
  rw [length_extend, hlen, inodeCursor]

theorem length_extendFile : (extendFile h body).length =
    inodeCursor (align4 body.length) file + (68 + file.data.length) := by
  have hlen : (inodeRecord (inodeOf file) h.inode).bytes.length = 68 + file.data.length :=
    length_encodedInode _
  rw [extendFile, length_extend, hlen, inodeCursor_eq h]

theorem nextCursor_eq : nextCursor (align4 body.length) file = align4 (extendFile h body).length := by
  rw [length_extendFile, nextCursor]

end Cursors

/-- The builder's loop lays out the records of the files. -/
theorem layoutFiles_eq {files : List ConfigFile} (h : ∀ file ∈ files, Storable file) {body : Bytes}
    (hfit : LayoutFits (align4 body.length) files) :
    layoutFiles files (laidOut body) (align4 body.length) =
      .ok (laidOut (bodyOf body (recordsOf files h)),
        align4 (bodyOf body (recordsOf files h)).length) := by
  induction files generalizing body with
  | nil => rfl
  | cons file files ih =>
    have hstorable := h file List.mem_cons_self
    let dirent := direntRecord (direntOf file) hstorable.dirent
    let inode := inodeRecord (inodeOf file) hstorable.inode
    have hdirentEq : encodeDirent 1 file.inode file.direntMctime file.dtype file.name =
        .ok dirent.bytes := encodeDirent_eq_ok.mpr ⟨hstorable.dirent, rfl⟩
    have hinodeEq : encodeInode file.inode 1 file.mode file.uid file.gid file.atime file.mtime
        file.ctime file.flags file.data = .ok inode.bytes :=
      encodeInode_eq_ok.mpr ⟨hstorable.inode, rfl⟩
    have hdirentLen : dirent.bytes.length = 40 + file.name.length := length_encodedDirent _
    have hinodeLen : inode.bytes.length = 68 + file.data.length := length_encodedInode _
    have hfirst : FIRST_ERASEBLOCK ≤ CONFIG_SIZE := by decide
    obtain ⟨hfitDirent, hfitInode, hfitRest⟩ := hfit
    -- the cursors, as the lengths of what is laid out so far
    have hinodeCursor : inodeCursor (align4 body.length) file = align4 (extend body dirent).length :=
      inodeCursor_eq hstorable body
    have hnextCursor : nextCursor (align4 body.length) file =
        align4 (extend (extend body dirent) inode).length := nextCursor_eq hstorable body
    rw [hinodeCursor] at hfitInode
    rw [hnextCursor] at hfitRest
    rw [layoutFiles, hdirentEq, ok_bind, raiseIf_of_not (by omega), ok_bind,
      place_extend (by omega), hinodeEq, ok_bind, ← length_extend, raiseIf_of_not (by omega), ok_bind,
      place_extend (by omega), ← length_extend]
    exact ih (fun f hf => h f (List.mem_cons_of_mem _ hf)) hfitRest

/-- The partition `buildPreservedConfig` lays out, with the final cursor. -/
def preservedLayout (files : List ConfigFile) : Except Exc (Bytes × Nat) := do
  let cleanmarker ← encodeCleanmarker
  layoutFiles (sortByName files) (splice ERASED_CONFIG 0 12 cleanmarker) 12

/-- What the builder returns is its layout. -/
theorem preservedLayout_of_build {files : List ConfigFile} {built : Bytes}
    (h : buildPreservedConfig codecs files = .ok built) :
    ∃ cursor, preservedLayout files = .ok (built, cursor) := by
  rw [buildPreservedConfig] at h
  simp only at h
  obtain ⟨_, -, h⟩ := bind_eq_ok.mp h
  obtain ⟨_, -, h⟩ := bind_eq_ok.mp h
  obtain ⟨_, -, h⟩ := bind_eq_ok.mp h
  obtain ⟨cleanmarker, hclean, h⟩ := bind_eq_ok.mp h
  obtain ⟨⟨laid, cursor⟩, hlaid, h⟩ := bind_eq_ok.mp h
  obtain ⟨_, -, h⟩ := bind_eq_ok.mp h
  obtain ⟨_, -, h⟩ := bind_eq_ok.mp h
  obtain ⟨_, -, h⟩ := bind_eq_ok.mp h
  obtain ⟨_, -, h⟩ := bind_eq_ok.mp h
  obtain rfl : laid = built := Except.ok.inj h
  exact ⟨cursor, by rw [preservedLayout, hclean, ok_bind, hlaid]⟩

theorem bodyOf_fits {files : List ConfigFile} (h : ∀ file ∈ files, Storable file) {body : Bytes}
    (hbody : body.length ≤ FIRST_ERASEBLOCK) (hfit : LayoutFits (align4 body.length) files) :
    (bodyOf body (recordsOf files h)).length ≤ FIRST_ERASEBLOCK := by
  induction files generalizing body with
  | nil => exact hbody
  | cons file files ih =>
    have hstorable := h file List.mem_cons_self
    obtain ⟨-, hfitInode, hfitRest⟩ := hfit
    rw [nextCursor_eq hstorable] at hfitRest
    have hlen := length_extendFile hstorable body
    exact ih (fun f hf => h f (List.mem_cons_of_mem _ hf)) (hlen.le.trans hfitInode) hfitRest

/-- Laying files out and scanning: the scan returns the cleanmarker and, by name, the directory entry and
the inode of every file; any other node starts strictly inside one of these, and the rest is erased. -/
theorem parseJffs2_preservedLayout {files : List ConfigFile}
    (hfiles : ∀ file ∈ files, Rebuildable file) (hfit : LayoutFits 12 (sortByName files)) :
    ∃ built cursor nodes, preservedLayout files = .ok (built, cursor) ∧ built.length = CONFIG_SIZE ∧
      parseJffs2 built = .ok nodes ∧
      ScanOf (cleanmarkerNode 0 :: fileNodes 12 (sortByName files)) nodes ∧
      slice built cursor CONFIG_SIZE = List.replicate (CONFIG_SIZE - cursor) 0xFF := by
  have hclean := length_encodedCleanmarker
  have hsorted : ∀ file ∈ sortByName files, Rebuildable file := fun file hfile =>
    hfiles file ((sortByName_perm files).mem_iff.mp hfile)
  have hstorable := storable_of_fits hsorted hfit
  have hcursor : align4 encodedCleanmarker.length = 12 := by rw [hclean]; rfl
  rw [← hcursor] at hfit
  let records := cleanmarkerRecord :: recordsOf (sortByName files) hstorable
  have hbody : bodyOf [] records = bodyOf encodedCleanmarker (recordsOf (sortByName files) hstorable) :=
    rfl
  have hfits : (bodyOf [] records).length ≤ FIRST_ERASEBLOCK := by
    rw [hbody]
    exact bodyOf_fits hstorable (by rw [hclean]; decide) hfit
  have hfirst : FIRST_ERASEBLOCK + 12 ≤ CONFIG_SIZE := by decide
  obtain ⟨nodes, hnodes, hscan⟩ := @scan_bodyOf records (by omega)
  have hexpected : nodesOf 0 records = cleanmarkerNode 0 :: fileNodes 12 (sortByName files) := by
    show cleanmarkerNode 0 :: nodesOf (align4 (0 + encodedCleanmarker.length)) _ = _
    rw [nodesOf_recordsOf, Nat.zero_add, hcursor]
  refine ⟨laidOut (bodyOf [] records), align4 (bodyOf [] records).length, nodes, ?_,
    length_laidOut (by omega), hnodes, hexpected ▸ hscan, ?_⟩
  · have hlayout := layoutFiles_eq hstorable hfit
    rw [hcursor] at hlayout
    rw [preservedLayout, encodeCleanmarker_eq, ok_bind, splice_cleanmarker, hlayout, hbody]
  · have hle := le_align4 (bodyOf [] records).length
    rw [laidOut, slice_append_right _ _ hle, slice_replicate _ _ (Nat.le_refl _)]
    congr 1
    omega

-- a file with data and an empty one, given out of name order
def sampleFiles : List ConfigFile :=
  [{ name := ascii "uvc.attr", data := [], inode := 3, mode := 0x81A4, uid := 0, gid := 0, atime := 18
     mtime := 18, ctime := 18, flags := 0, direntMctime := 1, dtype := 8 },
   { name := SERIAL_CFG, data := ascii "serial=12PSSSS3AAAAAAAAAAAAAAAAAAAAAAAAAAAA\n", inode := 2, mode := 0x81A4, uid := 0, gid := 0
     atime := 18, mtime := 18, ctime := 18, flags := 0, direntMctime := 1, dtype := 8 }]

theorem parseJffs2_preservedLayout_sample :
    ∃ built cursor nodes, preservedLayout sampleFiles = .ok (built, cursor) ∧
      built.length = CONFIG_SIZE ∧ parseJffs2 built = .ok nodes ∧
      ScanOf (cleanmarkerNode 0 :: fileNodes 12 (sortByName sampleFiles)) nodes ∧
      slice built cursor CONFIG_SIZE = List.replicate (CONFIG_SIZE - cursor) 0xFF := by
  apply parseJffs2_preservedLayout
  · simp only [sampleFiles, List.forall_mem_cons]
    exact ⟨⟨by decide, by decide, by decide, by decide, by decide, by decide, by decide⟩,
      ⟨by decide, by decide, by decide, by decide, by decide, by decide, by decide⟩, nofun⟩
  · have hsorted : sortByName sampleFiles = sampleFiles.reverse := by decide +kernel
    rw [hsorted]
    exact ⟨by decide, by decide, by decide, by decide, trivial⟩

end Cc2Camera.Image
