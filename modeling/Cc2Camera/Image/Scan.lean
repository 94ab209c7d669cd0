import Cc2Camera.Image.Rebuild

/-!
# Scan — what the scanner finds in an encoded partition

`encodedDirent` and `encodedInode` are the on-flash forms of a directory entry and of an inode node.  The
builders write exactly these, and wherever one of them lies the scanner reads its record back.  Elsewhere
a scan turns on the magic word: erased flash and most file data hold none.
-/

open Bytes Exceptions

namespace Cc2Camera.Image

/-! ## 1. On-flash forms -/

def direntHeader (d : Dirent) : List (Nat × Nat) :=
  [(2, JFFS2_MAGIC), (2, 0xE001), (4, 40 + d.name.length)]

def direntBody (d : Dirent) : List (Nat × Nat) :=
  [(4, d.parentInode), (4, d.version), (4, d.inode), (4, d.mctime), (1, d.name.length), (1, d.dtype),
    (2, 0)]

def direntPrefix (d : Dirent) : List (Nat × Nat) :=
  direntHeader d ++ (4, jffs2Crc (leFields (direntHeader d))) :: direntBody d

def direntFields (d : Dirent) : List (Nat × Nat) :=
  direntPrefix d ++ [(4, jffs2Crc (leFields (direntPrefix d))), (4, jffs2Crc d.name)]

/-- The on-flash form of a directory entry. -/
def encodedDirent (d : Dirent) : Bytes := leFields (direntFields d) ++ d.name

def inodeHeader (i : Inode) : List (Nat × Nat) :=
  [(2, JFFS2_MAGIC), (2, 0xE002), (4, 68 + i.payload.length)]

def inodeBody (i : Inode) : List (Nat × Nat) :=
  [(4, i.inode), (4, i.version), (4, i.mode), (2, i.uid), (2, i.gid), (4, i.fileSize), (4, i.atime),
    (4, i.mtime), (4, i.ctime), (4, i.fileOffset), (4, i.compressedSize), (4, i.decompressedSize),
    (1, i.compression), (1, i.userCompression), (2, i.flags)]

def inodePrefix (i : Inode) : List (Nat × Nat) :=
  inodeHeader i ++ (4, jffs2Crc (leFields (inodeHeader i))) :: inodeBody i

def inodeFields (i : Inode) : List (Nat × Nat) :=
  inodePrefix i ++ [(4, jffs2Crc i.payload), (4, jffs2Crc (leFields (inodePrefix i)))]

/-- The on-flash form of an inode node. -/
def encodedInode (i : Inode) : Bytes := leFields (inodeFields i) ++ i.payload

-- the layouts of the two records, name and payload apart
def DIRENT_WIDTHS : List Nat := [2, 2, 4, 4, 4, 4, 4, 4, 1, 1, 2, 4, 4]
def INODE_WIDTHS : List Nat := [2, 2, 4, 4, 4, 4, 4, 2, 2, 4, 4, 4, 4, 4, 4, 4, 1, 1, 2, 4, 4]

theorem direntFields_widths (d : Dirent) : (direntFields d).map Prod.fst = DIRENT_WIDTHS := rfl

theorem inodeFields_widths (i : Inode) : (inodeFields i).map Prod.fst = INODE_WIDTHS := rfl

def Dirent.Fits (d : Dirent) : Prop := ∀ f ∈ direntFields d, f.2 < 256 ^ f.1

def Inode.Fits (i : Inode) : Prop :=
  (∀ f ∈ inodeFields i, f.2 < 256 ^ f.1) ∧ i.compressedSize = i.payload.length

instance (d : Dirent) : Decidable d.Fits := inferInstanceAs (Decidable (∀ _ ∈ _, _))

instance (i : Inode) : Decidable i.Fits := inferInstanceAs (Decidable (_ ∧ _))

theorem length_encodedDirent (d : Dirent) : (encodedDirent d).length = 40 + d.name.length := by
  rw [encodedDirent, List.length_append, length_leFields, direntFields_widths]
  rfl

theorem length_encodedInode (i : Inode) : (encodedInode i).length = 68 + i.payload.length := by
  rw [encodedInode, List.length_append, length_leFields, inodeFields_widths]
  rfl

/-- The entry a builder describes by the arguments it packs. -/
def rootDirent (version inode mctime dtype : Nat) (name : Bytes) : Dirent :=
  { parentInode := 1, version := version, inode := inode, mctime := mctime, dtype := dtype
    name := name }

/-- The inode node a builder packs for a whole file. -/
def wholeInode (inode version mode uid gid atime mtime ctime flags : Nat) (data : Bytes) : Inode :=
  { inode := inode, version := version, mode := mode, uid := uid, gid := gid
    fileSize := data.length, atime := atime, mtime := mtime, ctime := ctime
    fileOffset := 0, compressedSize := data.length, decompressedSize := data.length
    compression := 0, userCompression := 0, flags := flags, payload := data }

theorem leFields_direntPrefix (d : Dirent) :
    leFields (direntPrefix d) =
      leFields (direntHeader d) ++ leBytes 4 (jffs2Crc (leFields (direntHeader d))) ++
        leFields (direntBody d) := by
  rw [direntPrefix, leFields_append, leFields_cons, List.append_assoc]

theorem leFields_inodePrefix (i : Inode) :
    leFields (inodePrefix i) =
      leFields (inodeHeader i) ++ leBytes 4 (jffs2Crc (leFields (inodeHeader i))) ++
        leFields (inodeBody i) := by
  rw [inodePrefix, leFields_append, leFields_cons, List.append_assoc]

/-- The CRC fields always fit. -/
theorem crcs_fit (a b : Bytes) : ∀ f ∈ [(4, jffs2Crc a), (4, jffs2Crc b)], f.2 < 256 ^ f.1 := by
  intro f hf
  simp only [List.mem_cons, List.not_mem_nil, or_false] at hf
  obtain rfl | rfl := hf
  · exact jffs2Crc_lt a
  · exact jffs2Crc_lt b

theorem Dirent.fits_iff (d : Dirent) :
    d.Fits ↔ (∀ f ∈ direntHeader d, f.2 < 256 ^ f.1) ∧ ∀ f ∈ direntBody d, f.2 < 256 ^ f.1 := by
  have hcrc := jffs2Crc_lt
  rw [Dirent.Fits, direntFields, direntPrefix, List.forall_mem_append, List.forall_mem_append,
    List.forall_mem_cons, and_iff_left (crcs_fit _ _), and_iff_right (hcrc _)]

theorem Inode.fits_iff (i : Inode) :
    i.Fits ↔ ((∀ f ∈ inodeHeader i, f.2 < 256 ^ f.1) ∧ ∀ f ∈ inodeBody i, f.2 < 256 ^ f.1) ∧
      i.compressedSize = i.payload.length := by
  have hcrc := jffs2Crc_lt
  rw [Inode.Fits, inodeFields, inodePrefix, List.forall_mem_append, List.forall_mem_append,
    List.forall_mem_cons, and_iff_left (crcs_fit _ _), and_iff_right (hcrc _)]

theorem encodeDirent_eq_ok {version inode mctime dtype : Nat} {name node : Bytes} :
    encodeDirent version inode mctime dtype name = .ok node ↔
      (rootDirent version inode mctime dtype name).Fits ∧
        node = encodedDirent (rootDirent version inode mctime dtype name) := by
  have hcrc := jffs2Crc_lt
  -- the builder packs the body in two calls
  have hbody : direntBody (rootDirent version inode mctime dtype name) =
      [(4, 1), (4, version), (4, inode), (4, mctime)] ++ [(1, name.length), (1, dtype), (2, 0)] := rfl
  have hprefix := leFields_direntPrefix (rootDirent version inode mctime dtype name)
  rw [hbody, leFields_append] at hprefix
  simp only [encodeDirent, bind_eq_ok, packAll_eq_ok, pack_eq_ok, Except.ok.injEq]
  rw [Dirent.fits_iff, hbody, List.forall_mem_append]
  constructor
  · rintro ⟨header, ⟨hheader, rfl⟩, crc, ⟨-, rfl⟩, ids, ⟨hids, rfl⟩, sizes, ⟨hsizes, rfl⟩, crcs,
      ⟨-, rfl⟩, rfl⟩
    refine ⟨⟨hheader, hids, hsizes⟩, ?_⟩
    rw [encodedDirent, direntFields, leFields_append, hprefix]
    rfl
  · rintro ⟨⟨hheader, hids, hsizes⟩, rfl⟩
    refine ⟨_, ⟨hheader, rfl⟩, _, ⟨hcrc _, rfl⟩, _, ⟨hids, rfl⟩, _, ⟨hsizes, rfl⟩, _,
      ⟨crcs_fit _ _, rfl⟩, ?_⟩
    rw [encodedDirent, direntFields, leFields_append, hprefix]
    rfl

theorem encodeInode_eq_ok {inode version mode uid gid atime mtime ctime flags : Nat}
    {data node : Bytes} :
    encodeInode inode version mode uid gid atime mtime ctime flags data = .ok node ↔
      (wholeInode inode version mode uid gid atime mtime ctime flags data).Fits ∧
        node = encodedInode (wholeInode inode version mode uid gid atime mtime ctime flags data) := by
  have hcrc := jffs2Crc_lt
  have hprefix := leFields_inodePrefix
    (wholeInode inode version mode uid gid atime mtime ctime flags data)
  simp only [encodeInode, bind_eq_ok, packAll_eq_ok, pack_eq_ok, Except.ok.injEq]
  rw [Inode.fits_iff]
  constructor
  · rintro ⟨header, ⟨hheader, rfl⟩, crc, ⟨-, rfl⟩, fields, ⟨hfields, rfl⟩, crcs, ⟨-, rfl⟩, rfl⟩
    refine ⟨⟨⟨hheader, hfields⟩, rfl⟩, ?_⟩
    rw [encodedInode, inodeFields, leFields_append, hprefix]
    rfl
  · rintro ⟨⟨⟨hheader, hfields⟩, -⟩, rfl⟩
    refine ⟨_, ⟨hheader, rfl⟩, _, ⟨hcrc _, rfl⟩, _, ⟨hfields, rfl⟩, _, ⟨crcs_fit _ _, rfl⟩, ?_⟩
    rw [encodedInode, inodeFields, leFields_append, hprefix]
    rfl

/-! ## 2. Reading a node back -/

/-- A four-byte aligned offset whose word is not the magic yields nothing. -/
theorem parseNodeAt_of_magic_ne {data : Bytes} {offset : Nat} (hfit : offset + 4 ≤ data.length)
    (hmagic : u16 data offset ≠ JFFS2_MAGIC) : parseNodeAt data offset = .ok none := by
  rw [parseNodeAt, unpackFits, raiseIf_of_not (by omega), ok_bind, if_pos hmagic]

/-- Among the words of the bytes behind an offset only those at the listed offsets begin with the magic. -/
def noMagicBut (starts : List Nat) : Nat → Bytes → Bool
  | offset, a :: b :: _ :: _ :: rest =>
    (offset ∈ starts || leNat [a, b] ≠ JFFS2_MAGIC) && noMagicBut starts (offset + 4) rest
  | _, _ => true

theorem exists_word {body : Bytes} (h : 4 ≤ body.length) : ∃ a b c d rest, body = a :: b :: c :: d :: rest := by
  rcases body with _ | ⟨a, _ | ⟨b, _ | ⟨c, _ | ⟨d, rest⟩⟩⟩⟩
  · exact absurd h (by decide)
  · exact absurd h (by simp)
  · exact absurd h (by simp)
  · exact absurd h (by simp)
  · exact ⟨a, b, c, d, rest, rfl⟩

theorem magic_ne_of_noMagicBut {starts : List Nat} {offset k : Nat} {body : Bytes}
    (h : noMagicBut starts offset body = true) (hk : 4 * k + 4 ≤ body.length) (hout : offset + 4 * k ∉ starts) :
    leNat (slice body (4 * k) (4 * k + 2)) ≠ JFFS2_MAGIC := by
  induction k generalizing offset body with
  | zero =>
    obtain ⟨a, b, c, d, rest, rfl⟩ := exists_word (show 4 ≤ body.length by omega)
    simp only [noMagicBut, Bool.and_eq_true, Bool.or_eq_true, decide_eq_true_eq] at h
    exact h.1.resolve_left hout
  | succ k ih =>
    obtain ⟨a, b, c, d, rest, rfl⟩ := exists_word (show 4 ≤ body.length by omega)
    simp only [List.length_cons] at hk
    have hbehind : slice (a :: b :: c :: d :: rest) (4 * (k + 1)) (4 * (k + 1) + 2) = slice rest (4 * k) (4 * k + 2) :=
      slice_append_right [a, b, c, d] rest (show 4 ≤ 4 * (k + 1) by omega)
    rw [hbehind]
    simp only [noMagicBut, Bool.and_eq_true] at h
    exact ih h.2 (by omega) (by rwa [Nat.add_assoc, Nat.add_comm 4, ← Nat.mul_succ])

/-- Nor does a magic word whose total length runs past the end. -/
theorem parseNodeAt_of_total_gt {data : Bytes} {offset : Nat} (hfit : offset + 12 ≤ data.length)
    (htotal : data.length < offset + u32 data (offset + 4)) : parseNodeAt data offset = .ok none := by
  by_cases hmagic : u16 data offset = JFFS2_MAGIC
  · rw [parseNodeAt, unpackFits, raiseIf_of_not (by omega), ok_bind, if_neg (not_not.mpr hmagic),
      unpackFits, raiseIf_of_not (by omega), ok_bind, if_pos (Or.inr htotal)]
  · exact parseNodeAt_of_magic_ne (by omega) hmagic

/-- What the header of a node in place makes the scanner do: only the kind remains to be read. -/
theorem parseNodeAt_of_header {data : Bytes} {offset nodeType totalLength : Nat}
    (hmagic : u16 data offset = JFFS2_MAGIC) (htype : u16 data (offset + 2) = nodeType)
    (htotal : u32 data (offset + 4) = totalLength) (hmin : 12 ≤ totalLength)
    (hfit : offset + totalLength ≤ data.length)
    (hcrc : u32 data (offset + 8) = jffs2Crc (slice data offset (offset + 8))) :
    parseNodeAt data offset = (do
      let kind ← parseKind data offset nodeType totalLength false
      .ok (kind.map fun kind =>
        { offset := offset, nodeType := nodeType, totalLength := totalLength, current := true
          obsolete := false, kind := kind })) := by
  rw [parseNodeAt, unpackFits, raiseIf_of_not (by omega), ok_bind, if_neg (by rw [hmagic]; decide),
    unpackFits, raiseIf_of_not (by omega), ok_bind, htotal, htype, if_neg (by omega), hcrc]
  simp only [headerObsolete, decide_true, Bool.not_true, Bool.false_and, Bool.false_eq_true, if_false,
    ok_bind, Bool.or_false]

def direntNode (offset : Nat) (d : Dirent) : Node :=
  { offset := offset, nodeType := 0xE001, totalLength := 40 + d.name.length, current := true
    obsolete := false, kind := .dirent d }

def inodeNode (offset : Nat) (i : Inode) : Node :=
  { offset := offset, nodeType := 0xE002, totalLength := 68 + i.payload.length, current := true
    obsolete := false, kind := .inode i }

/-- Wherever a directory entry lies in flash, the scanner reads it back. -/
theorem parseNodeAt_encodedDirent {data : Bytes} {offset : Nat} {d : Dirent} (hfits : d.Fits)
    (hdata : slice data offset (offset + (encodedDirent d).length) = encodedDirent d) :
    parseNodeAt data offset = .ok (some (direntNode offset d)) := by
  have hlen := length_encodedDirent d
  have hfit := le_length_of_slice (List.ne_nil_of_length_pos (by omega)) hdata
  rw [hlen] at hfit
  rw [encodedDirent] at hdata
  -- the fields, each read at its place
  have field {v : Nat} (k w s : Nat) (hk : (direntFields d)[k]? = some (w, v))
      (hs : (DIRENT_WIDTHS.take k).sum = s) :
      leNat (slice data (offset + s) (offset + s + w)) = v := by
    rw [← hs, ← direntFields_widths d, ← List.map_take]
    exact leNat_field_at hdata hk (hfits (w, v) (List.mem_of_getElem? hk))
  have hmagic : u16 data offset = JFFS2_MAGIC := field 0 2 0 rfl (by decide)
  have htype : u16 data (offset + 2) = 0xE001 := field 1 2 2 rfl (by decide)
  have htotal : u32 data (offset + 4) = 40 + d.name.length := field 2 4 4 rfl (by decide)
  have hheaderCrc : u32 data (offset + 8) = jffs2Crc (leFields (direntHeader d)) :=
    field 3 4 8 rfl (by decide)
  have hnameSize : u8 data (offset + 28) = d.name.length := field 8 1 28 rfl (by decide)
  have hdtype : u8 data (offset + 29) = d.dtype := field 9 1 29 rfl (by decide)
  have hprefixCrc : u32 data (offset + 32) = jffs2Crc (leFields (direntPrefix d)) :=
    field 11 4 32 rfl (by decide)
  have hnameCrc : u32 data (offset + 36) = jffs2Crc d.name := field 12 4 36 rfl (by decide)
  have hparent : u32 data (offset + 12) = d.parentInode := field 4 4 12 rfl (by decide)
  have hversion : u32 data (offset + 16) = d.version := field 5 4 16 rfl (by decide)
  have hinode : u32 data (offset + 20) = d.inode := field 6 4 20 rfl (by decide)
  have hmctime : u32 data (offset + 24) = d.mctime := field 7 4 24 rfl (by decide)
  -- the strings its checksums cover
  have hname : slice data (offset + 40) (offset + 40 + d.name.length) = d.name := by
    have h := slice_tail_of_append hdata
    rwa [length_leFields, direntFields_widths, show DIRENT_WIDTHS.sum = 40 from rfl] at h
  have hprefix : slice data offset (offset + 32) = leFields (direntPrefix d) := by
    have h := slice_leading_fields (a := direntPrefix d) hdata rfl
    rwa [show (direntPrefix d).map Prod.fst = DIRENT_WIDTHS.take 11 from rfl,
      show (DIRENT_WIDTHS.take 11).sum = 32 from rfl] at h
  have hheader : slice data offset (offset + 8) = leFields (direntHeader d) := by
    have h := slice_leading_fields (a := direntHeader d) hdata
      (by rw [direntFields, direntPrefix, List.append_assoc])
    exact h
  rw [parseNodeAt_of_header hmagic htype htotal (by omega) (by omega) (by rw [hheaderCrc, hheader]),
    parseKind, if_pos ⟨by decide, by omega⟩, parseDirent, unpackFits, raiseIf_of_not (by omega),
    ok_bind, byteAt_of_lt (by omega), ok_bind, byteAt_of_lt (by omega), ok_bind, unpackFits,
    raiseIf_of_not (by omega), ok_bind, hnameSize, hname, hprefix, restoredAccurateSlice]
  simp only [Bool.false_eq_true, if_false, ok_bind, hprefixCrc, hnameCrc, ne_eq, not_true_eq_false,
    hparent, hversion, hinode, hmctime, hdtype]
  rfl

/-- Wherever an inode node lies in flash, the scanner reads it back. -/
theorem parseNodeAt_encodedInode {data : Bytes} {offset : Nat} {i : Inode} (hfits : i.Fits)
    (hdata : slice data offset (offset + (encodedInode i).length) = encodedInode i) :
    parseNodeAt data offset = .ok (some (inodeNode offset i)) := by
  have hlen := length_encodedInode i
  have hfit := le_length_of_slice (List.ne_nil_of_length_pos (by omega)) hdata
  rw [hlen] at hfit
  rw [encodedInode] at hdata
  have field {v : Nat} (k w s : Nat) (hk : (inodeFields i)[k]? = some (w, v))
      (hs : (INODE_WIDTHS.take k).sum = s) :
      leNat (slice data (offset + s) (offset + s + w)) = v := by
    rw [← hs, ← inodeFields_widths i, ← List.map_take]
    exact leNat_field_at hdata hk (hfits.1 (w, v) (List.mem_of_getElem? hk))
  have hmagic : u16 data offset = JFFS2_MAGIC := field 0 2 0 rfl (by decide)
  have htype : u16 data (offset + 2) = 0xE002 := field 1 2 2 rfl (by decide)
  have htotal : u32 data (offset + 4) = 68 + i.payload.length := field 2 4 4 rfl (by decide)
  have hheaderCrc : u32 data (offset + 8) = jffs2Crc (leFields (inodeHeader i)) :=
    field 3 4 8 rfl (by decide)
  have hcompressed : u32 data (offset + 48) = i.compressedSize := field 14 4 48 rfl (by decide)
  have hdataCrc : u32 data (offset + 60) = jffs2Crc i.payload := field 19 4 60 rfl (by decide)
  have hprefixCrc : u32 data (offset + 64) = jffs2Crc (leFields (inodePrefix i)) :=
    field 20 4 64 rfl (by decide)
  have hfields : ({
      inode := u32 data (offset + 12)
      version := u32 data (offset + 16)
      mode := u32 data (offset + 20)
      uid := u16 data (offset + 24)
      gid := u16 data (offset + 26)
      fileSize := u32 data (offset + 28)
      atime := u32 data (offset + 32)
      mtime := u32 data (offset + 36)
      ctime := u32 data (offset + 40)
      fileOffset := u32 data (offset + 44)
      compressedSize := i.compressedSize
      decompressedSize := u32 data (offset + 52)
      compression := u8 data (offset + 56)
      userCompression := u8 data (offset + 57)
      flags := u16 data (offset + 58)
      payload := i.payload } : Inode) = i := by
    rw [show u32 data (offset + 12) = i.inode from field 4 4 12 rfl (by decide),
      show u32 data (offset + 16) = i.version from field 5 4 16 rfl (by decide),
      show u32 data (offset + 20) = i.mode from field 6 4 20 rfl (by decide),
      show u16 data (offset + 24) = i.uid from field 7 2 24 rfl (by decide),
      show u16 data (offset + 26) = i.gid from field 8 2 26 rfl (by decide),
      show u32 data (offset + 28) = i.fileSize from field 9 4 28 rfl (by decide),
      show u32 data (offset + 32) = i.atime from field 10 4 32 rfl (by decide),
      show u32 data (offset + 36) = i.mtime from field 11 4 36 rfl (by decide),
      show u32 data (offset + 40) = i.ctime from field 12 4 40 rfl (by decide),
      show u32 data (offset + 44) = i.fileOffset from field 13 4 44 rfl (by decide),
      show u32 data (offset + 52) = i.decompressedSize from field 15 4 52 rfl (by decide),
      show u8 data (offset + 56) = i.compression from field 16 1 56 rfl (by decide),
      show u8 data (offset + 57) = i.userCompression from field 17 1 57 rfl (by decide),
      show u16 data (offset + 58) = i.flags from field 18 2 58 rfl (by decide)]
  have hpayload : slice data (offset + 68) (offset + 68 + i.compressedSize) = i.payload := by
    have h := slice_tail_of_append hdata
    rw [length_leFields, inodeFields_widths, show INODE_WIDTHS.sum = 68 from rfl] at h
    rwa [hfits.2]
  have hprefix : slice data offset (offset + 60) = leFields (inodePrefix i) := by
    have h := slice_leading_fields (a := inodePrefix i) hdata rfl
    rwa [show (inodePrefix i).map Prod.fst = INODE_WIDTHS.take 19 from rfl,
      show (INODE_WIDTHS.take 19).sum = 60 from rfl] at h
  have hheader : slice data offset (offset + 8) = leFields (inodeHeader i) := by
    have h := slice_leading_fields (a := inodeHeader i) hdata
      (by rw [inodeFields, inodePrefix, List.append_assoc])
    exact h
  rw [parseNodeAt_of_header hmagic htype htotal (by omega) (by omega) (by rw [hheaderCrc, hheader]),
    parseKind, if_neg (fun h => absurd h.1 (by decide)), if_pos ⟨by decide, by omega⟩, parseInode,
    unpackFits, raiseIf_of_not (by omega), ok_bind, hcompressed]
  simp only [hpayload, hprefix, restoredAccurateSlice, Bool.false_eq_true, if_false, ok_bind, hprefixCrc, hdataCrc, ne_eq, not_true_eq_false,
    hfields]
  rfl

def cleanmarkerHeader : List (Nat × Nat) := [(2, JFFS2_MAGIC), (2, 0x2003), (4, 12)]

def encodedCleanmarker : Bytes :=
  leFields (cleanmarkerHeader ++ [(4, jffs2Crc (leFields cleanmarkerHeader))])

theorem length_encodedCleanmarker : encodedCleanmarker.length = 12 := by
  rw [encodedCleanmarker, length_leFields]
  rfl

def cleanmarkerNode (offset : Nat) : Node :=
  { offset := offset, nodeType := 0x2003, totalLength := 12, current := true, obsolete := false
    kind := .cleanmarker }

theorem encodeCleanmarker_eq : encodeCleanmarker = .ok encodedCleanmarker := by
  have hheader : packAll [(2, JFFS2_MAGIC), (2, 0x2003), (4, 12)] = .ok (leFields cleanmarkerHeader) :=
    packAll_eq_ok.mpr ⟨by decide, rfl⟩
  rw [encodeCleanmarker, hheader, ok_bind, pack_of_lt (jffs2Crc_lt _), ok_bind, encodedCleanmarker,
    leFields_append]
  simp only [leFields_cons, leFields_nil, List.append_nil]

theorem parseNodeAt_encodedCleanmarker {data : Bytes} {offset : Nat}
    (hdata : slice data offset (offset + encodedCleanmarker.length) = encodedCleanmarker) :
    parseNodeAt data offset = .ok (some (cleanmarkerNode offset)) := by
  have hlen := length_encodedCleanmarker
  have hfit := le_length_of_slice (List.ne_nil_of_length_pos (by omega)) hdata
  rw [hlen] at hfit
  rw [encodedCleanmarker, ← List.append_nil (leFields _)] at hdata
  have hmagic : u16 data offset = JFFS2_MAGIC := leNat_field_at (k := 0) hdata rfl (by decide)
  have htype : u16 data (offset + 2) = 0x2003 := leNat_field_at (k := 1) hdata rfl (by decide)
  have htotal : u32 data (offset + 4) = 12 := leNat_field_at (k := 2) hdata rfl (by decide)
  have hstored : u32 data (offset + 8) = jffs2Crc (leFields cleanmarkerHeader) :=
    leNat_field_at (k := 3) hdata rfl (jffs2Crc_lt _)
  have hheader : slice data offset (offset + 8) = leFields cleanmarkerHeader :=
    slice_leading_fields (a := cleanmarkerHeader) hdata rfl
  rw [parseNodeAt_of_header hmagic htype htotal (Nat.le_refl 12) hfit (by rw [hstored, hheader])]
  rfl

/-! ## 3. Whole scans -/

theorem collectNodes_append (data : Bytes) (xs ys : List Nat) :
    collectNodes data (xs ++ ys) = (do
      let before ← collectNodes data xs
      let after ← collectNodes data ys
      .ok (before ++ after)) := by
  induction xs with
  | nil =>
    rw [List.nil_append, collectNodes, ok_bind]
    cases collectNodes data ys <;> rfl
  | cons x xs ih =>
    rw [List.cons_append, collectNodes, collectNodes, ih]
    cases parseNodeAt data x <;> cases collectNodes data xs <;> cases collectNodes data ys <;>
      simp

/-- A scan that fails nowhere collects what each offset yields. -/
theorem collectNodes_eq_filterMap {data : Bytes} {offsets : List Nat} {found : Nat → Option Node}
    (h : ∀ offset ∈ offsets, parseNodeAt data offset = .ok (found offset)) :
    collectNodes data offsets = .ok (offsets.filterMap found) := by
  induction offsets with
  | nil => rfl
  | cons offset offsets ih =>
    rw [List.forall_mem_cons] at h
    rw [collectNodes, h.1, ok_bind, ih h.2, ok_bind, List.filterMap_cons]
    cases found offset <;> rfl

/-- A partition whose first bytes are `body` and whose rest is erased. -/
def laidOut (body : Bytes) : Bytes := body ++ List.replicate (CONFIG_SIZE - body.length) 0xFF

theorem length_laidOut {body : Bytes} (h : body.length ≤ CONFIG_SIZE) :
    (laidOut body).length = CONFIG_SIZE := by
  rw [laidOut, List.length_append, List.length_replicate]
  omega

theorem slice_laidOut_body {body : Bytes} {i j : Nat} (h : j ≤ body.length) :
    slice (laidOut body) i j = slice body i j := slice_append_left body _ h

/-- Placing a node behind what is laid out extends the layout, with erased bytes in between. -/
theorem place_laidOut {body node : Bytes} {cursor : Nat} (hcursor : body.length ≤ cursor)
    (hfit : cursor + node.length ≤ CONFIG_SIZE) :
    place (laidOut body) cursor node =
      laidOut (body ++ List.replicate (cursor - body.length) 0xFF ++ node) := by
  have hlen : (body ++ List.replicate (cursor - body.length) (0xFF : UInt8) ++ node).length =
      cursor + node.length := by
    rw [List.length_append, List.length_append, List.length_replicate]
    omega
  rw [place, laidOut, splice_append_replicate _ _ _ hcursor (by omega), laidOut, hlen]
  congr 2
  omega

/-- Both builders start from a partition that holds the cleanmarker only. -/
theorem splice_cleanmarker : splice ERASED_CONFIG 0 12 encodedCleanmarker = laidOut encodedCleanmarker := by
  have hlen := length_encodedCleanmarker
  have h := @place_laidOut [] encodedCleanmarker 0 (Nat.le_refl 0)
    (by rw [hlen]; decide)
  rw [place, hlen] at h
  exact h

theorem parseNodeAt_erased {body : Bytes} {offset : Nat} (hbody : body.length ≤ offset)
    (hfit : offset + 11 < CONFIG_SIZE) : parseNodeAt (laidOut body) offset = .ok none := by
  have hlen := length_laidOut (show body.length ≤ CONFIG_SIZE by omega)
  have hword : slice (laidOut body) offset (offset + 2) = [0xFF, 0xFF] := by
    rw [laidOut, slice_append_right _ _ hbody, slice_replicate _ _ (by omega)]
    rw [show offset + 2 - body.length - (offset - body.length) = 2 by omega]
    rfl
  apply parseNodeAt_of_magic_ne (by omega)
  rw [u16, hword]
  decide

/-- The nodes of a laid-out partition are those its body holds. -/
theorem parseJffs2_laidOut {body : Bytes} {found : Nat → Option Node} {words : Nat}
    (hwords : body.length = 4 * words) (hsize : body.length + 12 ≤ CONFIG_SIZE)
    (h : ∀ k < words, parseNodeAt (laidOut body) (4 * k) = .ok (found (4 * k))) :
    parseJffs2 (laidOut body) = .ok (((List.range words).map (4 * ·)).filterMap found) := by
  have hlen := length_laidOut (show body.length ≤ CONFIG_SIZE by omega)
  have hsplit : scanOffsets CONFIG_SIZE = (List.range words).map (4 * ·) ++
      (List.range ((CONFIG_SIZE - 11 + 3) / 4 - words)).map fun k => 4 * (words + k) := by
    have hrange := List.range_add (n := words) (m := (CONFIG_SIZE - 11 + 3) / 4 - words)
    rw [Nat.add_sub_cancel' (by omega)] at hrange
    rw [scanOffsets, hrange, List.map_append, List.map_map]
    rfl
  have herased : collectNodes (laidOut body)
      ((List.range ((CONFIG_SIZE - 11 + 3) / 4 - words)).map fun k => 4 * (words + k)) = .ok [] := by
    rw [@collectNodes_eq_filterMap _ _ fun _ => none]
    · simp
    · simp only [List.mem_map, List.mem_range]
      rintro _ ⟨k, hk, rfl⟩
      exact parseNodeAt_erased (by omega) (by omega)
  have hbody : collectNodes (laidOut body) ((List.range words).map (4 * ·)) =
      .ok (((List.range words).map (4 * ·)).filterMap found) := by
    apply collectNodes_eq_filterMap
    simp only [List.mem_map, List.mem_range]
    rintro _ ⟨k, hk, rfl⟩
    exact h k hk
  rw [parseJffs2, hlen, hsplit, collectNodes_append, hbody, herased, ok_bind, ok_bind,
    List.append_nil]

end Cc2Camera.Image
