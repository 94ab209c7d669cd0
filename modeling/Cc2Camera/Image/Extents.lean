import Cc2Camera.Image.Scan

/-!
# Extents — the bytes a scanned node claims and the bytes it is read from

The scan never refuses a partition: every offset is either a node, whose fields are read off the bytes
there (`nodeAt`), or nothing.  No check ties two offsets to each other or a stored name or data size to
the node's total length.
-/

open Bytes Exceptions

namespace Cc2Camera.Image

/-! ## 1. What one offset holds -/

-- the bytes a CRC of an obsolete node is computed over
def accurateBytes (raw : Bytes) (nodeType : Nat) (obsolete : Bool) : Bytes :=
  if obsolete then splice raw 2 4 (leBytes 2 (nodeType ||| JFFS2_NODE_ACCURATE)) else raw

def nodeTypeAt (data : Bytes) (offset : Nat) : Nat := u16 data (offset + 2)

def totalAt (data : Bytes) (offset : Nat) : Nat := u32 data (offset + 4)

def headerCurrent (data : Bytes) (offset : Nat) : Bool :=
  jffs2Crc (slice data offset (offset + 8)) = u32 data (offset + 8)

def headerRestored (data : Bytes) (offset : Nat) : Bool :=
  !headerCurrent data offset && decide (nodeTypeAt data offset &&& JFFS2_NODE_ACCURATE = 0) &&
    decide (jffs2Crc (accurateBytes (slice data offset (offset + 8)) (nodeTypeAt data offset) true) =
      u32 data (offset + 8))

/-- The header checks: magic word, a total length inside the partition, and the CRC. -/
structure HeaderAt (data : Bytes) (offset : Nat) : Prop where
  magic : u16 data offset = JFFS2_MAGIC
  least : 12 ≤ totalAt data offset
  fits : offset + totalAt data offset ≤ data.length
  crc : (headerCurrent data offset || headerRestored data offset) = true

def IsDirentAt (data : Bytes) (offset : Nat) : Prop :=
  nodeTypeAt data offset &&& 0x0FFF = JFFS2_DIRENT ∧ 40 ≤ totalAt data offset

def IsInodeAt (data : Bytes) (offset : Nat) : Prop :=
  nodeTypeAt data offset &&& 0x0FFF = JFFS2_INODE ∧ 68 ≤ totalAt data offset

-- the sizes stored in the two records
def nameSizeAt (data : Bytes) (offset : Nat) : Nat := u8 data (offset + 28)
def compressedSizeAt (data : Bytes) (offset : Nat) : Nat := u32 data (offset + 48)

def nameAt (data : Bytes) (offset : Nat) : Bytes :=
  slice data (offset + 40) (offset + 40 + nameSizeAt data offset)

def payloadAt (data : Bytes) (offset : Nat) : Bytes :=
  slice data (offset + 68) (offset + 68 + compressedSizeAt data offset)

def DirentCrcs (data : Bytes) (offset : Nat) : Prop :=
  jffs2Crc (accurateBytes (slice data offset (offset + 32)) (nodeTypeAt data offset)
      (headerRestored data offset)) = u32 data (offset + 32) ∧
    jffs2Crc (nameAt data offset) = u32 data (offset + 36)

def InodeCrcs (data : Bytes) (offset : Nat) : Prop :=
  jffs2Crc (accurateBytes (slice data offset (offset + 60)) (nodeTypeAt data offset)
      (headerRestored data offset)) = u32 data (offset + 64) ∧
    jffs2Crc (payloadAt data offset) = u32 data (offset + 60)

/-- The bytes at an offset pass every check of the scan. -/
structure NodeAt (data : Bytes) (offset : Nat) : Prop where
  aligned : offset % 4 = 0
  header : HeaderAt data offset
  dirent : IsDirentAt data offset → DirentCrcs data offset
  inode : IsInodeAt data offset → InodeCrcs data offset

instance (data : Bytes) (offset : Nat) : Decidable (IsDirentAt data offset) :=
  inferInstanceAs (Decidable (_ ∧ _))

instance (data : Bytes) (offset : Nat) : Decidable (IsInodeAt data offset) :=
  inferInstanceAs (Decidable (_ ∧ _))

instance (data : Bytes) (offset : Nat) : Decidable (DirentCrcs data offset) :=
  inferInstanceAs (Decidable (_ ∧ _))

instance (data : Bytes) (offset : Nat) : Decidable (InodeCrcs data offset) :=
  inferInstanceAs (Decidable (_ ∧ _))

/-- The kind of a node, and the bytes its name or data was read from. -/
def KindAt (data : Bytes) (offset : Nat) : NodeKind → Prop
  | .dirent entry => IsDirentAt data offset ∧ entry.name = nameAt data offset
  | .inode node => IsInodeAt data offset ∧ node.payload = payloadAt data offset ∧
      node.compressedSize = compressedSizeAt data offset
  | _ => ¬IsDirentAt data offset ∧ ¬IsInodeAt data offset

/-- What a scanned node says of the bytes at its offset. -/
structure Describes (data : Bytes) (offset : Nat) (n : Node) : Prop where
  start : n.offset = offset
  total : n.totalLength = totalAt data offset
  kind : KindAt data offset n.kind

theorem not_isInodeAt {data : Bytes} {offset : Nat} (h : IsDirentAt data offset) :
    ¬IsInodeAt data offset := fun hinode => absurd (h.1.symm.trans hinode.1) (by decide)

/-! ## 2. The scan reads exactly that -/

theorem accurate_fits (data : Bytes) (offset : Nat) :
    nodeTypeAt data offset ||| JFFS2_NODE_ACCURATE < 256 ^ 2 :=
  Nat.or_lt_two_pow (n := 16) (u16_lt data _) (by decide)

theorem packInto_accurate {raw : Bytes} (hraw : 4 ≤ raw.length) (data : Bytes) (offset : Nat) :
    packInto 2 raw 2 (nodeTypeAt data offset ||| JFFS2_NODE_ACCURATE) =
      .ok (accurateBytes raw (nodeTypeAt data offset) true) := by
  rw [packInto, pack_of_lt (accurate_fits data offset), ok_bind, raiseIf_of_not (by omega), ok_bind]
  rfl

theorem restoredAccurateSlice_eq {raw : Bytes} (hraw : 4 ≤ raw.length) (data : Bytes) (offset : Nat)
    (obsolete : Bool) :
    restoredAccurateSlice raw (nodeTypeAt data offset) obsolete =
      .ok (accurateBytes raw (nodeTypeAt data offset) obsolete) := by
  cases obsolete with
  | false => rfl
  | true => exact packInto_accurate hraw data offset

theorem headerObsolete_eq {data : Bytes} {offset : Nat} (hfit : offset + 12 ≤ data.length) :
    headerObsolete (slice data offset (offset + 8)) (nodeTypeAt data offset) (u32 data (offset + 8))
      (headerCurrent data offset) = .ok (headerRestored data offset) := by
  unfold headerObsolete headerRestored
  split
  · rename_i h
    rw [packInto_accurate (by rw [length_slice]; omega), ok_bind, h, Bool.true_and]
  · rename_i h
    rw [Bool.not_eq_true] at h
    rw [h, Bool.false_and]

theorem parseDirent_cases {data : Bytes} {offset : Nat} (hfit : offset + 40 ≤ data.length) :
    (DirentCrcs data offset ∧ ∃ entry : Dirent, entry.name = nameAt data offset ∧
        parseDirent data offset (nodeTypeAt data offset) (headerRestored data offset) =
          .ok (some entry)) ∨
      ¬DirentCrcs data offset ∧
        parseDirent data offset (nodeTypeAt data offset) (headerRestored data offset) = .ok none := by
  have hsplit : parseDirent data offset (nodeTypeAt data offset) (headerRestored data offset) =
      if ¬jffs2Crc (accurateBytes (slice data offset (offset + 32)) (nodeTypeAt data offset)
          (headerRestored data offset)) = u32 data (offset + 32) then .ok none
      else if ¬jffs2Crc (nameAt data offset) = u32 data (offset + 36) then .ok none
      else .ok (some
        { parentInode := u32 data (offset + 12), version := u32 data (offset + 16)
          inode := u32 data (offset + 20), mctime := u32 data (offset + 24)
          dtype := u8 data (offset + 29), name := nameAt data offset }) := by
    rw [parseDirent, unpackFits, raiseIf_of_not (by omega), ok_bind, byteAt_of_lt (by omega), ok_bind,
      byteAt_of_lt (by omega), ok_bind, unpackFits, raiseIf_of_not (by omega), ok_bind,
      restoredAccurateSlice_eq (by rw [length_slice]; omega), ok_bind]
    rfl
  rw [hsplit]
  by_cases hnode : jffs2Crc (accurateBytes (slice data offset (offset + 32)) (nodeTypeAt data offset)
      (headerRestored data offset)) = u32 data (offset + 32)
  · rw [if_neg (not_not.mpr hnode)]
    by_cases hname : jffs2Crc (nameAt data offset) = u32 data (offset + 36)
    · rw [if_neg (not_not.mpr hname)]
      exact .inl ⟨⟨hnode, hname⟩, _, rfl, rfl⟩
    · rw [if_pos hname]
      exact .inr ⟨fun h => hname h.2, rfl⟩
  · rw [if_pos hnode]
    exact .inr ⟨fun h => hnode h.1, rfl⟩

theorem parseInode_cases {data : Bytes} {offset : Nat} (hfit : offset + 68 ≤ data.length) :
    (InodeCrcs data offset ∧ ∃ node : Inode, node.payload = payloadAt data offset ∧
        node.compressedSize = compressedSizeAt data offset ∧
        parseInode data offset (nodeTypeAt data offset) (headerRestored data offset) =
          .ok (some node)) ∨
      ¬InodeCrcs data offset ∧
        parseInode data offset (nodeTypeAt data offset) (headerRestored data offset) = .ok none := by
  rw [parseInode, unpackFits, raiseIf_of_not (by omega), ok_bind]
  have hraw : 4 ≤ (slice data offset (offset + 60)).length := by
    rw [length_slice]
    omega
  simp only [restoredAccurateSlice_eq hraw data offset, ok_bind]
  by_cases hnode : jffs2Crc (accurateBytes (slice data offset (offset + 60)) (nodeTypeAt data offset)
      (headerRestored data offset)) = u32 data (offset + 64)
  · rw [if_neg (not_not.mpr hnode)]
    by_cases hdata : jffs2Crc (slice data (offset + 68) (offset + 68 + u32 data (offset + 48))) =
        u32 data (offset + 60)
    · rw [if_neg (not_not.mpr hdata)]
      exact .inl ⟨⟨hnode, hdata⟩, _, rfl, rfl, rfl⟩
    · rw [if_pos hdata]
      exact .inr ⟨fun h => hdata h.2, rfl⟩
  · rw [if_pos hnode]
    exact .inr ⟨fun h => hnode h.1, rfl⟩

-- the three branches of `parseKind`, by what the header announces
theorem parseKind_dirent {data : Bytes} {offset : Nat} (h : IsDirentAt data offset) (obsolete : Bool) :
    parseKind data offset (nodeTypeAt data offset) (totalAt data offset) obsolete = (do
      let entry ← parseDirent data offset (nodeTypeAt data offset) obsolete
      .ok (entry.map .dirent)) := if_pos h

theorem parseKind_inode {data : Bytes} {offset : Nat} (hdirent : ¬IsDirentAt data offset)
    (h : IsInodeAt data offset) (obsolete : Bool) :
    parseKind data offset (nodeTypeAt data offset) (totalAt data offset) obsolete = (do
      let node ← parseInode data offset (nodeTypeAt data offset) obsolete
      .ok (node.map .inode)) := (if_neg hdirent).trans (if_pos h)

theorem parseKind_plain {data : Bytes} {offset : Nat} (hdirent : ¬IsDirentAt data offset)
    (hinode : ¬IsInodeAt data offset) (obsolete : Bool) :
    ∃ kind, parseKind data offset (nodeTypeAt data offset) (totalAt data offset) obsolete =
        .ok (some kind) ∧ KindAt data offset kind := by
  have hkind : parseKind data offset (nodeTypeAt data offset) (totalAt data offset) obsolete =
      if nodeTypeAt data offset &&& 0x0FFF = JFFS2_CLEANMARKER then .ok (some .cleanmarker)
      else .ok (some (.other (nodeTypeAt data offset &&& 0x0FFF))) :=
    (if_neg hdirent).trans (if_neg hinode)
  rw [hkind]
  split
  · exact ⟨.cleanmarker, rfl, hdirent, hinode⟩
  · exact ⟨.other _, rfl, hdirent, hinode⟩

/-- What the checks of a header leave to be decided by the kind of the node. -/
theorem parseKind_cases {data : Bytes} {offset : Nat} (hheader : HeaderAt data offset) :
    ((IsDirentAt data offset → DirentCrcs data offset) ∧ (IsInodeAt data offset → InodeCrcs data offset) ∧
        ∃ kind, parseKind data offset (nodeTypeAt data offset) (totalAt data offset)
          (headerRestored data offset) = .ok (some kind) ∧ KindAt data offset kind) ∨
      (IsDirentAt data offset ∧ ¬DirentCrcs data offset ∨ IsInodeAt data offset ∧ ¬InodeCrcs data offset) ∧
        parseKind data offset (nodeTypeAt data offset) (totalAt data offset)
          (headerRestored data offset) = .ok none := by
  have hfits := hheader.fits
  by_cases hdirent : IsDirentAt data offset
  · have hleast := hdirent.2
    rw [parseKind_dirent hdirent]
    rcases @parseDirent_cases data offset (by omega) with ⟨hcrcs, entry, hname, hparse⟩ | ⟨hcrcs, hparse⟩
    · rw [hparse, ok_bind]
      exact .inl ⟨fun _ => hcrcs, fun h => absurd h (not_isInodeAt hdirent), .dirent entry, rfl,
        hdirent, hname⟩
    · rw [hparse, ok_bind]
      exact .inr ⟨.inl ⟨hdirent, hcrcs⟩, rfl⟩
  · by_cases hinode : IsInodeAt data offset
    · have hleast := hinode.2
      rw [parseKind_inode hdirent hinode]
      rcases @parseInode_cases data offset (by omega) with ⟨hcrcs, node, hpayload, hsize, hparse⟩ |
        ⟨hcrcs, hparse⟩
      · rw [hparse, ok_bind]
        exact .inl ⟨fun h => absurd h hdirent, fun _ => hcrcs, .inode node, rfl, hinode, hpayload, hsize⟩
      · rw [hparse, ok_bind]
        exact .inr ⟨.inr ⟨hinode, hcrcs⟩, rfl⟩
    · exact .inl ⟨fun h => absurd h hdirent, fun h => absurd h hinode,
        parseKind_plain hdirent hinode (headerRestored data offset)⟩

/-- The scan finds a node at an offset exactly when the bytes there pass its checks. -/
theorem parseNodeAt_cases {data : Bytes} {offset : Nat} (haligned : offset % 4 = 0)
    (hfit : offset + 11 < data.length) :
    (NodeAt data offset ∧ ∃ n, parseNodeAt data offset = .ok (some n) ∧ Describes data offset n) ∨
      ¬NodeAt data offset ∧ parseNodeAt data offset = .ok none := by
  rw [parseNodeAt, unpackFits, raiseIf_of_not (by omega), ok_bind]
  by_cases hmagic : u16 data offset = JFFS2_MAGIC
  · simp only [if_neg (not_not.mpr hmagic), unpackFits]
    rw [raiseIf_of_not (by omega), ok_bind]
    by_cases htotal : u32 data (offset + 4) < 12 ∨ data.length < offset + u32 data (offset + 4)
    · rw [if_pos htotal]
      refine .inr ⟨fun h => ?_, rfl⟩
      have hleast := h.header.least
      have hfits := h.header.fits
      rw [totalAt] at hleast hfits
      omega
    · rw [if_neg htotal]
      have hobsolete := @headerObsolete_eq data offset (by omega)
      rw [nodeTypeAt, headerCurrent] at hobsolete
      rw [hobsolete, ok_bind]
      by_cases hcrc : (headerCurrent data offset || headerRestored data offset) = true
      · rw [if_neg (by rw [Bool.not_eq_true']; exact Bool.not_eq_false _ |>.mpr hcrc)]
        have hheader : HeaderAt data offset := ⟨hmagic, by rw [totalAt]; omega, by rw [totalAt]; omega, hcrc⟩
        rcases parseKind_cases hheader with ⟨hdirent, hinode, kind, hparse, hkind⟩ | ⟨hfailed, hparse⟩
        · rw [nodeTypeAt, totalAt] at hparse
          rw [hparse, ok_bind]
          exact .inl ⟨⟨haligned, hheader, hdirent, hinode⟩, _, rfl, ⟨rfl, rfl, hkind⟩⟩
        · rw [nodeTypeAt, totalAt] at hparse
          rw [hparse, ok_bind]
          refine .inr ⟨fun h => ?_, rfl⟩
          rcases hfailed with ⟨hkind, hcrcs⟩ | ⟨hkind, hcrcs⟩
          · exact hcrcs (h.dirent hkind)
          · exact hcrcs (h.inode hkind)
      · refine .inr ⟨fun h => hcrc h.header.crc, ?_⟩
        rw [Bool.not_eq_true] at hcrc
        rw [if_pos (by rw [Bool.not_eq_true']; exact hcrc)]
  · rw [if_pos hmagic]
    exact .inr ⟨fun h => hmagic h.header.magic, rfl⟩

theorem collectNodes_total {data : Bytes} {offsets : List Nat}
    (h : ∀ offset ∈ offsets, ∃ found, parseNodeAt data offset = .ok found) :
    ∃ nodes, collectNodes data offsets = .ok nodes := by
  induction offsets with
  | nil => exact ⟨[], rfl⟩
  | cons offset offsets ih =>
    rw [List.forall_mem_cons] at h
    obtain ⟨found, hfound⟩ := h.1
    obtain ⟨nodes, hnodes⟩ := ih h.2
    exact ⟨found.toList ++ nodes, by rw [collectNodes, hfound, ok_bind, hnodes, ok_bind]⟩

/-- The scan never raises. -/
theorem parseJffs2_total (data : Bytes) : ∃ nodes, parseJffs2 data = .ok nodes := by
  apply collectNodes_total
  intro offset hoffset
  obtain ⟨haligned, hfit⟩ := mem_scanOffsets.mp hoffset
  rcases parseNodeAt_cases haligned hfit with ⟨-, n, hn, -⟩ | ⟨-, hnone⟩
  · exact ⟨some n, hn⟩
  · exact ⟨none, hnone⟩

theorem describes_of_scan {data : Bytes} {nodes : List Node} (h : parseJffs2 data = .ok nodes) {n : Node}
    (hn : n ∈ nodes) : NodeAt data n.offset ∧ Describes data n.offset n := by
  obtain ⟨offset, haligned, hfit, hparse⟩ := (mem_parseJffs2 h).mp hn
  rcases parseNodeAt_cases haligned hfit with ⟨hnode, n', hparse', hdescribes⟩ | ⟨-, hnone⟩
  · obtain rfl : n' = n := Option.some.inj (Except.ok.inj (hparse'.symm.trans hparse))
    rw [hdescribes.start]
    exact ⟨hnode, hdescribes⟩
  · rw [hnone] at hparse
    exact absurd hparse (by simp)

theorem scan_of_nodeAt {data : Bytes} {nodes : List Node} (h : parseJffs2 data = .ok nodes) {offset : Nat}
    (hnode : NodeAt data offset) : ∃ n ∈ nodes, Describes data offset n := by
  have hleast := hnode.header.least
  have hfits := hnode.header.fits
  have hfit : offset + 11 < data.length := by omega
  rcases parseNodeAt_cases hnode.aligned hfit with ⟨-, n, hparse, hdescribes⟩ | ⟨hnone, -⟩
  · exact ⟨n, (mem_parseJffs2 h).mpr ⟨offset, hnode.aligned, hfit, hparse⟩, hdescribes⟩
  · exact absurd hnode hnone

theorem node_eq_of_offset {data : Bytes} {nodes : List Node} (h : parseJffs2 data = .ok nodes) {a b : Node}
    (ha : a ∈ nodes) (hb : b ∈ nodes) (hoffset : a.offset = b.offset) : a = b := by
  obtain ⟨o, hao, hafit, haparse⟩ := (mem_parseJffs2 h).mp ha
  obtain ⟨p, hbo, hbfit, hbparse⟩ := (mem_parseJffs2 h).mp hb
  have start {offset : Nat} {n : Node} (haligned : offset % 4 = 0) (hfit : offset + 11 < data.length)
      (hparse : parseNodeAt data offset = .ok (some n)) : n.offset = offset := by
    rcases parseNodeAt_cases haligned hfit with ⟨-, n', hparse', hdescribes⟩ | ⟨-, hnone⟩
    · obtain rfl : n' = n := Option.some.inj (Except.ok.inj (hparse'.symm.trans hparse))
      exact hdescribes.start
    · rw [hnone] at hparse
      exact absurd hparse (by simp)
  rw [← start hao hafit haparse, hoffset, start hbo hbfit hbparse] at haparse
  exact Option.some.inj (Except.ok.inj (haparse.symm.trans hbparse))

end Cc2Camera.Image
