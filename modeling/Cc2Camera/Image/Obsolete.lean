import Cc2Camera.Image.Extents
import Cc2Camera.Lib.Crc
import Mathlib.Data.Nat.Bitwise

/-!
# Obsolete — what the scan makes of a node that the flash has retired

NOR flash retires a node by clearing the ACCURATE bit of its type, which spoils both checksums taken
over the header.  The scan recognises the node by setting the bit again in what it checksums; the name
and the data do not contain it.
-/

open Bytes Exceptions

namespace Cc2Camera.Image

/-! ## 1. A node as a function of the bytes at its offset -/

def direntRead (data : Bytes) (offset : Nat) : Dirent where
  parentInode := u32 data (offset + 12)
  version := u32 data (offset + 16)
  inode := u32 data (offset + 20)
  mctime := u32 data (offset + 24)
  dtype := u8 data (offset + 29)
  name := nameAt data offset

def inodeRead (data : Bytes) (offset : Nat) : Inode where
  inode := u32 data (offset + 12)
  version := u32 data (offset + 16)
  mode := u32 data (offset + 20)
  uid := u16 data (offset + 24)
  gid := u16 data (offset + 26)
  fileSize := u32 data (offset + 28)
  atime := u32 data (offset + 32)
  mtime := u32 data (offset + 36)
  ctime := u32 data (offset + 40)
  fileOffset := u32 data (offset + 44)
  compressedSize := compressedSizeAt data offset
  decompressedSize := u32 data (offset + 52)
  compression := u8 data (offset + 56)
  userCompression := u8 data (offset + 57)
  flags := u16 data (offset + 58)
  payload := payloadAt data offset

def kindRead (data : Bytes) (offset : Nat) : NodeKind :=
  if IsDirentAt data offset then .dirent (direntRead data offset)
  else if IsInodeAt data offset then .inode (inodeRead data offset)
  else if nodeTypeAt data offset &&& 0x0FFF = JFFS2_CLEANMARKER then .cleanmarker
  else .other (nodeTypeAt data offset &&& 0x0FFF)

def nodeRead (data : Bytes) (offset : Nat) : Node where
  offset := offset
  nodeType := nodeTypeAt data offset
  totalLength := totalAt data offset
  current := headerCurrent data offset
  obsolete := headerRestored data offset
  kind := kindRead data offset

theorem parseDirent_read {data : Bytes} {offset : Nat} (hfit : offset + 40 ≤ data.length)
    (h : DirentCrcs data offset) :
    parseDirent data offset (nodeTypeAt data offset) (headerRestored data offset) =
      .ok (some (direntRead data offset)) := by
  have hnode := h.1
  have hname := h.2
  rw [parseDirent, unpackFits, raiseIf_of_not (by omega), ok_bind, byteAt_of_lt (by omega), ok_bind,
    byteAt_of_lt (by omega), ok_bind, unpackFits, raiseIf_of_not (by omega), ok_bind]
  dsimp only
  rw [restoredAccurateSlice_eq (by rw [length_slice]; omega), ok_bind, if_neg (not_not.mpr hnode)]
  exact if_neg (not_not.mpr hname)

theorem parseInode_read {data : Bytes} {offset : Nat} (hfit : offset + 68 ≤ data.length)
    (h : InodeCrcs data offset) :
    parseInode data offset (nodeTypeAt data offset) (headerRestored data offset) =
      .ok (some (inodeRead data offset)) := by
  have hnode := h.1
  have hdata := h.2
  rw [parseInode, unpackFits, raiseIf_of_not (by omega), ok_bind]
  dsimp only
  rw [restoredAccurateSlice_eq (by rw [length_slice]; omega), ok_bind, if_neg (not_not.mpr hnode)]
  exact if_neg (not_not.mpr hdata)

theorem parseKind_read {data : Bytes} {offset : Nat} (h : NodeAt data offset) :
    parseKind data offset (nodeTypeAt data offset) (totalAt data offset) (headerRestored data offset) =
      .ok (some (kindRead data offset)) := by
  have hfits := h.header.fits
  unfold kindRead
  by_cases hdirent : IsDirentAt data offset
  · have hleast := hdirent.2
    rw [if_pos hdirent, parseKind_dirent hdirent, parseDirent_read (by omega) (h.dirent hdirent)]
    rfl
  · rw [if_neg hdirent]
    by_cases hinode : IsInodeAt data offset
    · have hleast := hinode.2
      rw [if_pos hinode, parseKind_inode hdirent hinode, parseInode_read (by omega) (h.inode hinode)]
      rfl
    · rw [if_neg hinode]
      have hplain : parseKind data offset (nodeTypeAt data offset) (totalAt data offset)
          (headerRestored data offset) =
          if nodeTypeAt data offset &&& 0x0FFF = JFFS2_CLEANMARKER then .ok (some .cleanmarker)
          else .ok (some (.other (nodeTypeAt data offset &&& 0x0FFF))) :=
        (if_neg hdirent).trans (if_neg hinode)
      rw [hplain]
      by_cases hmarker : nodeTypeAt data offset &&& 0x0FFF = JFFS2_CLEANMARKER
      · rw [if_pos hmarker, if_pos hmarker]
      · rw [if_neg hmarker, if_neg hmarker]

/-- Where the checks pass, the scan returns the node that is read there. -/
theorem parseNodeAt_read {data : Bytes} {offset : Nat} (h : NodeAt data offset) :
    parseNodeAt data offset = .ok (some (nodeRead data offset)) := by
  have hleast := h.header.least
  have hfits := h.header.fits
  have htotal : ¬(u32 data (offset + 4) < 12 ∨ data.length < offset + u32 data (offset + 4)) := by
    rw [totalAt] at hleast hfits
    omega
  have hobsolete := @headerObsolete_eq data offset (by omega)
  have hcrc : ¬(!(headerCurrent data offset || headerRestored data offset)) = true := by
    rw [h.header.crc]
    decide
  have hkind := parseKind_read h
  rw [parseNodeAt, unpackFits, raiseIf_of_not (by omega), ok_bind]
  dsimp only
  rw [if_neg (not_not.mpr h.header.magic), unpackFits, raiseIf_of_not (by omega), ok_bind, if_neg htotal]
  unfold nodeTypeAt headerCurrent at hobsolete
  rw [hobsolete, ok_bind]
  unfold headerCurrent at hcrc
  rw [if_neg hcrc]
  unfold nodeTypeAt totalAt at hkind
  rw [hkind]
  rfl

theorem mem_scan_iff {data : Bytes} {nodes : List Node} (h : parseJffs2 data = .ok nodes) {n : Node} :
    n ∈ nodes ↔ NodeAt data n.offset ∧ n = nodeRead data n.offset := by
  rw [mem_parseJffs2 h]
  constructor
  · rintro ⟨offset, haligned, hfit, hparse⟩
    rcases parseNodeAt_cases haligned hfit with ⟨hnode, -⟩ | ⟨-, hnone⟩
    · rw [parseNodeAt_read hnode] at hparse
      have hn : nodeRead data offset = n := Option.some.inj (Except.ok.inj hparse)
      rw [← hn]
      exact ⟨hnode, rfl⟩
    · rw [hnone] at hparse
      cases hparse
  · rintro ⟨hnode, hn⟩
    have hleast := hnode.header.least
    have hfits := hnode.header.fits
    refine ⟨n.offset, hnode.aligned, by omega, ?_⟩
    rw [parseNodeAt_read hnode, ← hn]

/-! ## 2. The bytes a node is read from -/

/-- How many bytes the scan examines for a node, from its offset on. -/
def Node.examined (n : Node) : Nat :=
  match n.kind with
  | .dirent entry => 40 + entry.name.length
  | .inode data => 68 + data.compressedSize
  | _ => 12

section Outside

variable {data : Bytes} {offset k : Nat} (x : UInt8)

theorem nodeTypeAt_set (h : k < offset ∨ offset + 12 ≤ k) :
    nodeTypeAt (data.set k x) offset = nodeTypeAt data offset := u16_set_outside data x (by omega)

theorem totalAt_set (h : k < offset + 4 ∨ offset + 8 ≤ k) :
    totalAt (data.set k x) offset = totalAt data offset := u32_set_outside data x (by omega)

theorem headerCurrent_set (h : k < offset ∨ offset + 12 ≤ k) :
    headerCurrent (data.set k x) offset = headerCurrent data offset := by
  unfold headerCurrent
  rw [slice_set_outside data x (by omega), u32_set_outside data x (by omega)]

theorem headerRestored_set (h : k < offset ∨ offset + 12 ≤ k) :
    headerRestored (data.set k x) offset = headerRestored data offset := by
  unfold headerRestored
  rw [headerCurrent_set x h, nodeTypeAt_set x h, slice_set_outside data x (by omega),
    u32_set_outside data x (by omega)]

theorem headerAt_set (h : k < offset ∨ offset + 12 ≤ k) (hheader : HeaderAt data offset) :
    HeaderAt (data.set k x) offset where
  magic := by
    rw [u16_set_outside data x (by omega)]
    exact hheader.magic
  least := by
    rw [totalAt_set x (by omega)]
    exact hheader.least
  fits := by
    rw [totalAt_set x (by omega), List.length_set]
    exact hheader.fits
  crc := by
    rw [headerCurrent_set x h, headerRestored_set x h]
    exact hheader.crc

theorem isDirentAt_set (h : k < offset ∨ offset + 12 ≤ k) :
    IsDirentAt (data.set k x) offset ↔ IsDirentAt data offset := by
  unfold IsDirentAt
  rw [nodeTypeAt_set x h, totalAt_set x (by omega)]

theorem isInodeAt_set (h : k < offset ∨ offset + 12 ≤ k) :
    IsInodeAt (data.set k x) offset ↔ IsInodeAt data offset := by
  unfold IsInodeAt
  rw [nodeTypeAt_set x h, totalAt_set x (by omega)]

-- a name that ends before the changed byte is not cut off by the end of the partition
theorem nameAt_set (h : k < offset ∨ offset + 40 + (nameAt data offset).length ≤ k) (hk : k < data.length) :
    nameAt (data.set k x) offset = nameAt data offset := by
  have hsize : nameSizeAt (data.set k x) offset = nameSizeAt data offset :=
    u8_set_outside data x (by omega)
  unfold nameAt at h ⊢
  rw [length_slice] at h
  rw [hsize, slice_set_outside data x (by omega)]

theorem payloadAt_set (h : k < offset ∨ offset + 68 + compressedSizeAt data offset ≤ k) :
    payloadAt (data.set k x) offset = payloadAt data offset := by
  have hsize : compressedSizeAt (data.set k x) offset = compressedSizeAt data offset :=
    u32_set_outside data x (by omega)
  unfold payloadAt
  rw [hsize, slice_set_outside data x (by omega)]

theorem direntCrcs_set (h : k < offset ∨ offset + 40 + (nameAt data offset).length ≤ k)
    (hk : k < data.length) : DirentCrcs (data.set k x) offset ↔ DirentCrcs data offset := by
  unfold DirentCrcs
  rw [nodeTypeAt_set x (by omega), headerRestored_set x (by omega), nameAt_set x h hk,
    slice_set_outside data x (by omega), u32_set_outside data x (by omega),
    u32_set_outside data x (by omega)]

theorem inodeCrcs_set (h : k < offset ∨ offset + 68 + compressedSizeAt data offset ≤ k) :
    InodeCrcs (data.set k x) offset ↔ InodeCrcs data offset := by
  unfold InodeCrcs
  rw [nodeTypeAt_set x (by omega), headerRestored_set x (by omega), payloadAt_set x h,
    slice_set_outside data x (by omega), u32_set_outside data x (by omega),
    u32_set_outside data x (by omega)]

theorem direntRead_set (h : k < offset + 12 ∨ offset + 40 ≤ k)
    (hname : nameAt (data.set k x) offset = nameAt data offset) :
    direntRead (data.set k x) offset = direntRead data offset := by
  unfold direntRead
  rw [hname, u8_set_outside data x (by omega)]
  simp (disch := omega) only [u32_set_outside]

theorem inodeRead_set (h : k < offset + 12 ∨ offset + 68 ≤ k)
    (hpayload : payloadAt (data.set k x) offset = payloadAt data offset) :
    inodeRead (data.set k x) offset = inodeRead data offset := by
  unfold inodeRead compressedSizeAt
  rw [hpayload]
  simp (disch := omega) only [u8_set_outside, u16_set_outside, u32_set_outside]

/-- A byte outside what is examined for a node changes nothing about it. -/
theorem nodeRead_set (hnode : NodeAt data offset) (hk : k < data.length)
    (h : k < offset ∨ offset + (nodeRead data offset).examined ≤ k) :
    NodeAt (data.set k x) offset ∧ nodeRead (data.set k x) offset = nodeRead data offset := by
  have hheader : k < offset ∨ offset + 12 ≤ k := by
    have hleast : 12 ≤ (nodeRead data offset).examined := by
      unfold Node.examined
      split <;> omega
    omega
  have hdirent : IsDirentAt data offset →
      k < offset ∨ offset + 40 + (nameAt data offset).length ≤ k := by
    intro his
    have hkind : (nodeRead data offset).kind = .dirent (direntRead data offset) := if_pos his
    rw [Node.examined, hkind, ← Nat.add_assoc] at h
    exact h
  have hinode : IsInodeAt data offset →
      k < offset ∨ offset + 68 + compressedSizeAt data offset ≤ k := by
    intro his
    have hkind : (nodeRead data offset).kind = .inode (inodeRead data offset) :=
      (if_neg fun hother => not_isInodeAt hother his).trans (if_pos his)
    rw [Node.examined, hkind, ← Nat.add_assoc] at h
    exact h
  constructor
  · exact
      { aligned := hnode.aligned
        header := headerAt_set x hheader hnode.header
        dirent := by
          rw [isDirentAt_set x hheader]
          intro his
          exact (direntCrcs_set x (hdirent his) hk).mpr (hnode.dirent his)
        inode := by
          rw [isInodeAt_set x hheader]
          intro his
          exact (inodeCrcs_set x (hinode his)).mpr (hnode.inode his) }
  · have hkind : kindRead (data.set k x) offset = kindRead data offset := by
      unfold kindRead
      simp only [isDirentAt_set x hheader, isInodeAt_set x hheader, nodeTypeAt_set x hheader]
      by_cases his : IsDirentAt data offset
      · have hwhere := hdirent his
        rw [if_pos his, if_pos his, direntRead_set x (by omega) (nameAt_set x hwhere hk)]
      · rw [if_neg his, if_neg his]
        by_cases his' : IsInodeAt data offset
        · have hwhere := hinode his'
          rw [if_pos his', if_pos his', inodeRead_set x (by omega) (payloadAt_set x hwhere)]
        · rw [if_neg his', if_neg his']
    unfold nodeRead
    rw [hkind, nodeTypeAt_set x hheader, totalAt_set x (by omega), headerCurrent_set x hheader,
      headerRestored_set x hheader]

end Outside

/-! ## 3. Clearing the ACCURATE bit -/

/-- The partition with the ACCURATE bit of the type at `offset` cleared: bit 13 of a little-endian word. -/
def clearAccurate (data : Bytes) (offset : Nat) : Bytes := data.modify (offset + 3) (· &&& 0xDF)

theorem length_clearAccurate (data : Bytes) (offset : Nat) :
    (clearAccurate data offset).length = data.length := List.length_modify ..

theorem clearAccurate_eq_set {data : Bytes} {offset : Nat} (h : offset + 3 < data.length) :
    clearAccurate data offset = data.set (offset + 3) (data[offset + 3] &&& 0xDF) := by
  unfold clearAccurate
  rw [List.modify_eq_set_getElem? , List.getElem?_eq_getElem h]
  rfl

section Cleared

variable {data : Bytes} {offset : Nat} (hfit : offset + 12 ≤ data.length)

include hfit

theorem totalAt_clearAccurate : totalAt (clearAccurate data offset) offset = totalAt data offset := by
  rw [clearAccurate_eq_set (by omega), totalAt_set _ (by omega)]

theorem u32_clearAccurate {i : Nat} (hi : offset + 4 ≤ i) :
    u32 (clearAccurate data offset) i = u32 data i := by
  rw [clearAccurate_eq_set (by omega), u32_set_outside _ _ (by omega)]

theorem nameAt_clearAccurate : nameAt (clearAccurate data offset) offset = nameAt data offset := by
  have hsize : nameSizeAt (clearAccurate data offset) offset = nameSizeAt data offset := by
    unfold nameSizeAt
    rw [clearAccurate_eq_set (by omega), u8_set_outside _ _ (by omega)]
  unfold nameAt
  rw [hsize, clearAccurate_eq_set (by omega), slice_set_outside _ _ (by omega)]

theorem payloadAt_clearAccurate : payloadAt (clearAccurate data offset) offset = payloadAt data offset := by
  have hsize : compressedSizeAt (clearAccurate data offset) offset = compressedSizeAt data offset :=
    u32_clearAccurate hfit (by omega)
  unfold payloadAt
  rw [hsize, clearAccurate_eq_set (by omega), slice_set_outside _ _ (by omega)]

end Cleared

/-- The register of the filesystem's checksum starts and ends without being inverted. -/
theorem jffs2Crc_eq_run (data : Bytes) : jffs2Crc data = (Crc.run 0xEDB88320#32 0#32 data).toNat := by
  have hrun : data.foldl crc32Byte (~~~BitVec.ofNat 32 0xFFFFFFFF) = Crc.run 0xEDB88320#32 0#32 data := rfl
  have hones : (0xFFFFFFFF : Nat) = (BitVec.allOnes 32).toNat := rfl
  have hmask (x : BitVec 32) : x.toNat &&& 0xFFFFFFFF = x.toNat := by
    show x.toNat &&& 2 ^ 32 - 1 = x.toNat
    exact Nat.and_two_pow_sub_one_of_lt_two_pow x.isLt
  unfold jffs2Crc zlibCrc32
  rw [hrun, hones, ← BitVec.toNat_xor, BitVec.xor_allOnes, BitVec.not_not, ← hones, hmask]

/-- One wrong byte is always noticed. -/
theorem jffs2Crc_set_ne {data : Bytes} {k : Nat} {y : UInt8} (hk : k < data.length) (hy : data[k] ≠ y) :
    jffs2Crc (data.set k y) ≠ jffs2Crc data := by
  rw [jffs2Crc_eq_run, jffs2Crc_eq_run]
  intro h
  have hpoly : (0xEDB88320#32).msb = true := by decide
  exact Crc.run_set_ne (Crc.kept_of_msb hpoly) 0#32 hk (Crc.setWidth_xor_ne_zero (by decide) hy)
    (BitVec.eq_of_toNat_eq h)

/-- A bit that is not set is added by setting it. -/
theorem or_two_pow_of_clear {n i : Nat} (h : n / 2 ^ i % 2 = 0) : n ||| 2 ^ i = n + 2 ^ i := by
  have heven : 2 ^ 1 * (n / 2 ^ i / 2) = n / 2 ^ i := by omega
  have hhigh : (n ||| 2 ^ i) / 2 ^ i = n / 2 ^ i + 1 := by
    rw [Nat.or_div_two_pow, Nat.div_self (Nat.two_pow_pos i), ← heven,
      ← Nat.two_pow_add_eq_or_of_lt (by decide)]
  have hlow : (n ||| 2 ^ i) % 2 ^ i = n % 2 ^ i := by
    rw [Nat.or_mod_two_pow, Nat.mod_self, Nat.or_zero]
  have hsum := Nat.div_add_mod (n ||| 2 ^ i) (2 ^ i)
  rw [hhigh, hlow, Nat.mul_add, Nat.mul_one] at hsum
  have hn := Nat.div_add_mod n (2 ^ i)
  omega

theorem and_two_pow_eq_zero {n i : Nat} : n &&& 2 ^ i = 0 ↔ n / 2 ^ i % 2 = 0 := by
  rw [Nat.and_two_pow, Nat.testBit_eq_decide_div_mod_eq]
  have hpos := Nat.two_pow_pos i
  rcases Nat.mod_two_eq_zero_or_one (n / 2 ^ i) with h | h <;> simp [h]

/-- Clearing the bit in the byte that holds it. -/
theorem clear_accurate_byte : ∀ n < 256, n / 2 ^ 5 % 2 = 1 → (n &&& 0xDF) + 2 ^ 5 = n := by
  decide +kernel

section Retired

variable {data : Bytes} {offset : Nat} (hfit : offset + 12 ≤ data.length)
  (haccurate : nodeTypeAt data offset &&& JFFS2_NODE_ACCURATE ≠ 0)

include haccurate

theorem accurate_bit : nodeTypeAt data offset / 2 ^ 13 % 2 = 1 := by
  have hbit : ¬nodeTypeAt data offset / 2 ^ 13 % 2 = 0 := mt and_two_pow_eq_zero.mpr haccurate
  omega

include hfit

theorem clearAccurate_byte :
    (data[offset + 3] &&& 0xDF).toNat + 2 ^ 5 = data[offset + 3].toNat := by
  have hbit := accurate_bit haccurate
  have hlow := UInt8.toNat_lt data[offset + 2]
  have hhigh := UInt8.toNat_lt data[offset + 3]
  have htype : nodeTypeAt data offset = data[offset + 2].toNat + 256 * data[offset + 3].toNat :=
    u16_of_lt (by omega)
  rw [UInt8.toNat_and]
  exact clear_accurate_byte _ hhigh (by omega)

theorem nodeTypeAt_clearAccurate :
    nodeTypeAt (clearAccurate data offset) offset + 2 ^ 13 = nodeTypeAt data offset := by
  have hbyte := clearAccurate_byte hfit haccurate
  have hlength := length_clearAccurate data offset
  have htype : nodeTypeAt data offset = data[offset + 2].toNat + 256 * data[offset + 3].toNat :=
    u16_of_lt (by omega)
  have hcleared : nodeTypeAt (clearAccurate data offset) offset =
      data[offset + 2].toNat + 256 * (data[offset + 3] &&& 0xDF).toNat := by
    unfold nodeTypeAt
    rw [u16_of_lt (by omega)]
    simp only [clearAccurate_eq_set (show offset + 3 < data.length by omega)]
    rw [List.getElem_set_ne (by omega), List.getElem_set_self]
  omega

theorem clearAccurate_type_clear :
    nodeTypeAt (clearAccurate data offset) offset / 2 ^ 13 % 2 = 0 := by
  have htype := nodeTypeAt_clearAccurate hfit haccurate
  have hbit := accurate_bit haccurate
  omega

theorem clearAccurate_type_restored :
    nodeTypeAt (clearAccurate data offset) offset ||| JFFS2_NODE_ACCURATE = nodeTypeAt data offset := by
  rw [← nodeTypeAt_clearAccurate hfit haccurate]
  exact or_two_pow_of_clear (clearAccurate_type_clear hfit haccurate)

theorem clearAccurate_base :
    nodeTypeAt (clearAccurate data offset) offset &&& 0x0FFF = nodeTypeAt data offset &&& 0x0FFF := by
  have htype := nodeTypeAt_clearAccurate hfit haccurate
  show _ &&& 2 ^ 12 - 1 = _ &&& 2 ^ 12 - 1
  rw [Nat.and_two_pow_sub_one_eq_mod, Nat.and_two_pow_sub_one_eq_mod]
  omega

/-- With the bit set again, every prefix that reaches past the type is as it was. -/
theorem accurateBytes_clearAccurate {n : Nat} (hn : 4 ≤ n) :
    accurateBytes (slice (clearAccurate data offset) offset (offset + n))
      (nodeTypeAt (clearAccurate data offset) offset) true = slice data offset (offset + n) := by
  have htype : leBytes 2 (nodeTypeAt data offset) = slice data (offset + 2) (offset + 4) := by
    have hlength : (slice data (offset + 2) (offset + 2 + 2)).length = 2 := by
      rw [length_slice]
      omega
    have hback := leBytes_leNat (slice data (offset + 2) (offset + 2 + 2))
    rw [hlength] at hback
    exact hback
  have hfront : (slice (clearAccurate data offset) offset (offset + n)).take 2 =
      slice data offset (offset + 2) := by
    rw [← slice_zero, slice_slice _ (by omega), clearAccurate_eq_set (by omega),
      slice_set_outside _ _ (by omega)]
    rfl
  have hback : (slice (clearAccurate data offset) offset (offset + n)).drop 4 =
      slice data (offset + 4) (offset + n) := by
    rw [← slice_of_length_le (j := n) (by rw [length_slice]; omega), slice_slice _ (by omega),
      clearAccurate_eq_set (by omega), slice_set_outside _ _ (by omega)]
  show splice _ 2 4 _ = _
  rw [splice, clearAccurate_type_restored hfit haccurate, htype, hfront, hback,
    slice_append_slice data (by omega) (by omega), slice_append_slice data (by omega) (by omega)]

/-- A prefix that reaches past the type, as it is, no longer has its checksum. -/
theorem jffs2Crc_clearAccurate {n : Nat} (hn : 4 ≤ n) :
    jffs2Crc (slice (clearAccurate data offset) offset (offset + n)) ≠
      jffs2Crc (slice data offset (offset + n)) := by
  have hbyte := clearAccurate_byte hfit haccurate
  have hlength : 3 < (slice data offset (offset + n)).length := by
    rw [length_slice]
    omega
  rw [clearAccurate_eq_set (by omega), slice_set_inside _ _ (by omega) (by omega), Nat.add_sub_cancel_left]
  apply jffs2Crc_set_ne hlength
  have hget : (slice data offset (offset + n))[3] = data[offset + 3] := by
    apply Option.some.inj
    rw [← List.getElem?_eq_getElem hlength, getElem?_slice, if_pos (by omega), List.getElem?_eq_getElem]
  intro heq
  rw [hget] at heq
  rw [← heq] at hbyte
  omega

theorem headerCurrent_clearAccurate (hcurrent : headerCurrent data offset = true) :
    headerCurrent (clearAccurate data offset) offset = false := by
  have hstored := u32_clearAccurate hfit (show offset + 4 ≤ offset + 8 by omega)
  have hne := jffs2Crc_clearAccurate hfit haccurate (n := 8) (by decide)
  have hcrc : jffs2Crc (slice data offset (offset + 8)) = u32 data (offset + 8) :=
    of_decide_eq_true hcurrent
  unfold headerCurrent
  rw [hstored, ← hcrc]
  exact decide_eq_false hne

theorem headerRestored_clearAccurate (hcurrent : headerCurrent data offset = true) :
    headerRestored (clearAccurate data offset) offset = true := by
  have hstored := u32_clearAccurate hfit (show offset + 4 ≤ offset + 8 by omega)
  have hclear : nodeTypeAt (clearAccurate data offset) offset &&& JFFS2_NODE_ACCURATE = 0 :=
    and_two_pow_eq_zero.mpr (clearAccurate_type_clear hfit haccurate)
  have hcrc : jffs2Crc (slice data offset (offset + 8)) = u32 data (offset + 8) :=
    of_decide_eq_true hcurrent
  unfold headerRestored
  rw [headerCurrent_clearAccurate hfit haccurate hcurrent, hstored, decide_eq_true hclear,
    accurateBytes_clearAccurate hfit haccurate (by decide), decide_eq_true hcrc]
  rfl

theorem isDirentAt_clearAccurate :
    IsDirentAt (clearAccurate data offset) offset ↔ IsDirentAt data offset := by
  unfold IsDirentAt
  rw [clearAccurate_base hfit haccurate, totalAt_clearAccurate hfit]

theorem isInodeAt_clearAccurate :
    IsInodeAt (clearAccurate data offset) offset ↔ IsInodeAt data offset := by
  unfold IsInodeAt
  rw [clearAccurate_base hfit haccurate, totalAt_clearAccurate hfit]

/-- The retired node passes the checks of a node whose checksums are taken with the bit set again. -/
theorem nodeAt_clearAccurate (hnode : NodeAt data offset) (hcurrent : headerCurrent data offset = true) :
    NodeAt (clearAccurate data offset) offset := by
  have hlength := length_clearAccurate data offset
  have htotal := totalAt_clearAccurate hfit
  have hrestored := headerRestored_clearAccurate hfit haccurate hcurrent
  -- a node that is current has its checksums taken over the bytes as they are
  have hplain : headerRestored data offset = false := by
    unfold headerRestored
    rw [hcurrent]
    rfl
  exact
    { aligned := hnode.aligned
      header :=
        { magic := by
            rw [clearAccurate_eq_set (by omega), u16_set_outside _ _ (by omega)]
            exact hnode.header.magic
          least := by
            rw [htotal]
            exact hnode.header.least
          fits := by
            rw [htotal, hlength]
            exact hnode.header.fits
          crc := by rw [hrestored, Bool.or_true] }
      dirent := by
        rw [isDirentAt_clearAccurate hfit haccurate]
        intro his
        have hcrcs := hnode.dirent his
        unfold DirentCrcs at hcrcs ⊢
        rw [hplain] at hcrcs
        rw [hrestored, accurateBytes_clearAccurate hfit haccurate (by decide),
          nameAt_clearAccurate hfit, u32_clearAccurate hfit (by omega),
          u32_clearAccurate hfit (by omega)]
        exact hcrcs
      inode := by
        rw [isInodeAt_clearAccurate hfit haccurate]
        intro his
        have hcrcs := hnode.inode his
        unfold InodeCrcs at hcrcs ⊢
        rw [hplain] at hcrcs
        rw [hrestored, accurateBytes_clearAccurate hfit haccurate (by decide),
          payloadAt_clearAccurate hfit, u32_clearAccurate hfit (by omega),
          u32_clearAccurate hfit (by omega)]
        exact hcrcs }

theorem kindRead_clearAccurate : kindRead (clearAccurate data offset) offset = kindRead data offset := by
  have hdirent : direntRead (clearAccurate data offset) offset = direntRead data offset := by
    have hname := nameAt_clearAccurate hfit
    rw [clearAccurate_eq_set (by omega)] at hname ⊢
    exact direntRead_set _ (by omega) hname
  have hinode : inodeRead (clearAccurate data offset) offset = inodeRead data offset := by
    have hpayload := payloadAt_clearAccurate hfit
    rw [clearAccurate_eq_set (by omega)] at hpayload ⊢
    exact inodeRead_set _ (by omega) hpayload
  unfold kindRead
  simp only [isDirentAt_clearAccurate hfit haccurate, isInodeAt_clearAccurate hfit haccurate, hdirent,
    hinode, clearAccurate_base hfit haccurate]

end Retired

/-! ## 4. The scan before and after -/

/-- Retiring a node leaves it in the scan as an obsolete node with the same content, and leaves every
node alone that is not read from the changed byte. -/
theorem parseJffs2_clearAccurate {data : Bytes} {nodes : List Node} {n : Node}
    (hnodes : parseJffs2 data = .ok nodes) (hn : n ∈ nodes) (hcurrent : n.current = true)
    (haccurate : n.nodeType &&& JFFS2_NODE_ACCURATE ≠ 0) :
    ∃ nodes', parseJffs2 (clearAccurate data n.offset) = .ok nodes' ∧
      { n with nodeType := n.nodeType - JFFS2_NODE_ACCURATE, current := false, obsolete := true } ∈
        nodes' ∧
      ∀ m ∈ nodes, n.offset + 3 < m.offset ∨ m.offset + m.examined ≤ n.offset + 3 → m ∈ nodes' := by
  rcases parseJffs2_total (clearAccurate data n.offset) with ⟨nodes', hnodes'⟩
  rcases (mem_scan_iff hnodes).mp hn with ⟨hnode, hread⟩
  have hleast := hnode.header.least
  have hfits := hnode.header.fits
  have hfit : n.offset + 12 ≤ data.length := by omega
  have htype : n.nodeType = nodeTypeAt data n.offset := congrArg Node.nodeType hread
  have hheader : headerCurrent data n.offset = true := (congrArg Node.current hread).symm.trans hcurrent
  rw [htype] at haccurate
  refine ⟨nodes', hnodes', ?_, ?_⟩
  · apply (mem_scan_iff hnodes').mpr
    constructor
    · exact nodeAt_clearAccurate hfit haccurate hnode hheader
    · have hcleared := nodeTypeAt_clearAccurate hfit haccurate
      have hdifference : nodeTypeAt data n.offset - JFFS2_NODE_ACCURATE =
          nodeTypeAt (clearAccurate data n.offset) n.offset := by
        rw [← hcleared]
        exact Nat.add_sub_cancel _ _
      unfold nodeRead
      dsimp only
      rw [htype, hdifference, totalAt_clearAccurate hfit,
        headerCurrent_clearAccurate hfit haccurate hheader,
        headerRestored_clearAccurate hfit haccurate hheader, kindRead_clearAccurate hfit haccurate]
      have htotal : n.totalLength = totalAt data n.offset := congrArg Node.totalLength hread
      have hkind : n.kind = kindRead data n.offset := congrArg Node.kind hread
      rw [htotal, hkind]
  · intro m hm hwhere
    rcases (mem_scan_iff hnodes).mp hm with ⟨hother, hreadOther⟩
    have hsame := nodeRead_set (data[n.offset + 3] &&& 0xDF) hother (k := n.offset + 3) (by omega)
      (by rw [← hreadOther]; exact hwhere)
    rw [← clearAccurate_eq_set (by omega)] at hsame
    apply (mem_scan_iff hnodes').mpr
    exact ⟨hsame.1, hreadOther.trans hsame.2.symm⟩

/-! ## A file and its entry -/

def attrEntry : Dirent := rootDirent 1 2 1 8 (ascii "uvc.attr")

def attrInode : Inode := wholeInode 2 1 0x81A4 0 0 18 18 18 0 (ascii "adb_en:0")

def linkedFile : Bytes := encodedDirent attrEntry ++ encodedInode attrInode

theorem linkedFile_nodes : parseJffs2 linkedFile = .ok [direntNode 0 attrEntry, inodeNode 48 attrInode] := by
  decide +kernel

/-- Either node is retired, beside the other. -/
theorem parseJffs2_clearAccurate_linkedFile :
    (∃ nodes', parseJffs2 (clearAccurate linkedFile 0) = .ok nodes' ∧
      { direntNode 0 attrEntry with nodeType := 0xC001, current := false, obsolete := true } ∈ nodes' ∧
        inodeNode 48 attrInode ∈ nodes') ∧
    ∃ nodes', parseJffs2 (clearAccurate linkedFile 48) = .ok nodes' ∧
      { inodeNode 48 attrInode with nodeType := 0xC002, current := false, obsolete := true } ∈ nodes' ∧
        direntNode 0 attrEntry ∈ nodes' := by
  have hentry : direntNode 0 attrEntry ∈ [direntNode 0 attrEntry, inodeNode 48 attrInode] := List.mem_cons_self
  have hinode : inodeNode 48 attrInode ∈ [direntNode 0 attrEntry, inodeNode 48 attrInode] := by simp
  constructor
  · obtain ⟨nodes', hparsed, hretired, hkept⟩ := parseJffs2_clearAccurate linkedFile_nodes hentry rfl (by decide)
    exact ⟨nodes', hparsed, hretired, hkept _ hinode (.inl (by decide))⟩
  · obtain ⟨nodes', hparsed, hretired, hkept⟩ := parseJffs2_clearAccurate linkedFile_nodes hinode rfl (by decide)
    exact ⟨nodes', hparsed, hretired, hkept _ hentry (.inr (by decide))⟩

end Cc2Camera.Image
