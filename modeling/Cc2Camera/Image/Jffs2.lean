import Cc2Camera.Python

/-!
# Jffs2 — the node scanner of the config partition

`parseJffs2` tries every four-byte aligned offset on its own: a CRC-valid header yields a node whatever
the nodes before it were.  A scan is therefore a filtered map over offsets (`mem_parseJffs2`), and what
one offset yields is decided by the bytes from there on.
-/

open Bytes Exceptions

namespace Cc2Camera.Image

def JFFS2_MAGIC : Nat := 0x1985
def JFFS2_NODE_ACCURATE : Nat := 0x2000
def JFFS2_DIRENT : Nat := 0x0001
def JFFS2_INODE : Nat := 0x0002
def JFFS2_CLEANMARKER : Nat := 0x0003

/-! ## CRC-32 -/

def crc32Bit (crc : BitVec 32) : BitVec 32 :=
  if crc.getLsbD 0 then (crc >>> 1) ^^^ 0xEDB88320#32 else crc >>> 1

def crc32Byte (crc : BitVec 32) (byte : UInt8) : BitVec 32 :=
  Nat.repeat crc32Bit 8 (crc ^^^ byte.toBitVec.setWidth 32)

/-- `zlib.crc32(data, value)`. -/
def zlibCrc32 (data : Bytes) (value : Nat) : Nat :=
  (~~~ data.foldl crc32Byte (~~~ BitVec.ofNat 32 value)).toNat

def jffs2Crc (data : Bytes) : Nat :=
  (zlibCrc32 data 0xFFFFFFFF ^^^ 0xFFFFFFFF) &&& 0xFFFFFFFF

def align4 (value : Nat) : Nat := (value + 3) / 4 * 4

theorem zlibCrc32_lt (data : Bytes) (value : Nat) : zlibCrc32 data value < 2 ^ 32 :=
  BitVec.isLt _

theorem jffs2Crc_lt (data : Bytes) : jffs2Crc data < 256 ^ 4 := by
  have h : jffs2Crc data ≤ 0xFFFFFFFF := Nat.and_le_right
  omega

/-! ## Nodes -/

structure Dirent where
  parentInode : Nat
  version : Nat
  inode : Nat
  mctime : Nat
  dtype : Nat
  name : Bytes
  deriving DecidableEq, Repr

structure Inode where
  inode : Nat
  version : Nat
  mode : Nat
  uid : Nat
  gid : Nat
  fileSize : Nat
  atime : Nat
  mtime : Nat
  ctime : Nat
  fileOffset : Nat
  compressedSize : Nat
  decompressedSize : Nat
  compression : Nat
  userCompression : Nat
  flags : Nat
  payload : Bytes
  deriving DecidableEq, Repr

inductive NodeKind where
  | dirent (entry : Dirent)
  | inode (data : Inode)
  | cleanmarker
  | other (baseType : Nat)
  deriving DecidableEq, Repr

structure Node where
  offset : Nat
  nodeType : Nat
  totalLength : Nat
  current : Bool
  obsolete : Bool
  kind : NodeKind
  deriving DecidableEq, Repr

def Node.dirent? (n : Node) : Option Dirent :=
  match n.kind with
  | .dirent entry => some entry
  | _ => none

def Node.inode? (n : Node) : Option Inode :=
  match n.kind with
  | .inode data => some data
  | _ => none

/-! ## Scanning -/

def restoredAccurateSlice (raw : Bytes) (nodeType : Nat) (obsolete : Bool) : Except Exc Bytes :=
  if obsolete then packInto 2 raw 2 (nodeType ||| JFFS2_NODE_ACCURATE) else .ok raw

-- the dirent branch of the scan; `none` is its `continue`
def parseDirent (data : Bytes) (offset nodeType : Nat) (obsolete : Bool) :
    Except Exc (Option Dirent) := do
  unpackFits 16 data (offset + 12)
  let nameSize ← byteAt data (offset + 28)
  let dtype ← byteAt data (offset + 29)
  unpackFits 8 data (offset + 32)
  let name := slice data (offset + 40) (offset + 40 + nameSize)
  let nodeCrcBytes ← restoredAccurateSlice (slice data offset (offset + 32)) nodeType obsolete
  if jffs2Crc nodeCrcBytes ≠ u32 data (offset + 32) then .ok none
  else if jffs2Crc name ≠ u32 data (offset + 36) then .ok none
  else
    .ok (some
      { parentInode := u32 data (offset + 12)
        version := u32 data (offset + 16)
        inode := u32 data (offset + 20)
        mctime := u32 data (offset + 24)
        dtype := dtype
        name := name })

-- the inode branch: fields "<IIIHHIIIIIIIBBHII" at offset + 12
def parseInode (data : Bytes) (offset nodeType : Nat) (obsolete : Bool) :
    Except Exc (Option Inode) := do
  unpackFits 56 data (offset + 12)
  let compressedSize := u32 data (offset + 48)
  let payload := slice data (offset + 68) (offset + 68 + compressedSize)
  let nodeCrcBytes ← restoredAccurateSlice (slice data offset (offset + 60)) nodeType obsolete
  if jffs2Crc nodeCrcBytes ≠ u32 data (offset + 64) then .ok none
  else if jffs2Crc payload ≠ u32 data (offset + 60) then .ok none
  else
    .ok (some
      { inode := u32 data (offset + 12)
        version := u32 data (offset + 16)
        mode := u32 data (offset + 20)
        uid := u16 data (offset + 24)
        gid := u16 data (offset + 26)
        fileSize := u32 data (offset + 28)
        atime := u32 data (offset + 32)
        mtime := u32 data (offset + 36)
        ctime := u32 data (offset + 40)
        fileOffset := u32 data (offset + 44)
        compressedSize := compressedSize
        decompressedSize := u32 data (offset + 52)
        compression := u8 data (offset + 56)
        userCompression := u8 data (offset + 57)
        flags := u16 data (offset + 58)
        payload := payload })

-- what a CRC-valid header at `offset` announces
def parseKind (data : Bytes) (offset nodeType totalLength : Nat) (obsolete : Bool) :
    Except Exc (Option NodeKind) :=
  let baseType := nodeType &&& 0x0FFF
  if baseType = JFFS2_DIRENT ∧ 40 ≤ totalLength then do
    let entry ← parseDirent data offset nodeType obsolete
    .ok (entry.map .dirent)
  else if baseType = JFFS2_INODE ∧ 68 ≤ totalLength then do
    let node ← parseInode data offset nodeType obsolete
    .ok (node.map .inode)
  else if baseType = JFFS2_CLEANMARKER then .ok (some .cleanmarker)
  else .ok (some (.other baseType))

-- a header whose CRC is right once the ACCURATE bit is set again
def headerObsolete (header : Bytes) (nodeType storedHeaderCrc : Nat) (current : Bool) :
    Except Exc Bool :=
  if !current && decide (nodeType &&& JFFS2_NODE_ACCURATE = 0) then do
    let fixedHeader ← packInto 2 header 2 (nodeType ||| JFFS2_NODE_ACCURATE)
    .ok (decide (jffs2Crc fixedHeader = storedHeaderCrc))
  else .ok false

-- one turn of the scan loop: `none` is a `continue`
def parseNodeAt (data : Bytes) (offset : Nat) : Except Exc (Option Node) := do
  unpackFits 4 data offset
  let magic := u16 data offset
  let nodeType := u16 data (offset + 2)
  if magic ≠ JFFS2_MAGIC then .ok none
  else do
    unpackFits 8 data (offset + 4)
    let totalLength := u32 data (offset + 4)
    let storedHeaderCrc := u32 data (offset + 8)
    if totalLength < 12 ∨ data.length < offset + totalLength then .ok none
    else do
      let header := slice data offset (offset + 8)
      let current := decide (jffs2Crc header = storedHeaderCrc)
      let obsolete ← headerObsolete header nodeType storedHeaderCrc current
      if !(current || obsolete) then .ok none
      else do
        let kind ← parseKind data offset nodeType totalLength obsolete
        .ok (kind.map fun kind =>
          { offset := offset
            nodeType := nodeType
            totalLength := totalLength
            current := current
            obsolete := obsolete
            kind := kind })

/-- `range(0, len(data) - 11, 4)`. -/
def scanOffsets (length : Nat) : List Nat := (List.range ((length - 11 + 3) / 4)).map (4 * ·)

def collectNodes (data : Bytes) : List Nat → Except Exc (List Node)
  | [] => .ok []
  | offset :: offsets => do
    let node ← parseNodeAt data offset
    let nodes ← collectNodes data offsets
    .ok (node.toList ++ nodes)

def parseJffs2 (data : Bytes) : Except Exc (List Node) :=
  collectNodes data (scanOffsets data.length)

theorem mem_scanOffsets {length offset : Nat} :
    offset ∈ scanOffsets length ↔ offset % 4 = 0 ∧ offset + 11 < length := by
  simp only [scanOffsets, List.mem_map, List.mem_range]
  constructor
  · rintro ⟨k, hk, rfl⟩
    omega
  · intro h
    exact ⟨offset / 4, by omega⟩

/-- Membership in a scan is decided offset by offset. -/
theorem mem_collectNodes {data : Bytes} {offsets : List Nat} {nodes : List Node} {n : Node}
    (h : collectNodes data offsets = .ok nodes) :
    n ∈ nodes ↔ ∃ offset ∈ offsets, parseNodeAt data offset = .ok (some n) := by
  induction offsets generalizing nodes with
  | nil =>
    have hnodes : nodes = [] := by simpa [collectNodes] using h.symm
    simp [hnodes]
  | cons offset offsets ih =>
    rw [collectNodes, bind_eq_ok] at h
    obtain ⟨node, hnode, h⟩ := h
    obtain ⟨rest, hrest, h⟩ := bind_eq_ok.mp h
    have hnodes : node.toList ++ rest = nodes := by simpa using h
    rw [← hnodes, List.mem_append, ih hrest, Option.mem_toList]
    simp only [List.mem_cons, exists_eq_or_imp, hnode, Except.ok.injEq]

theorem mem_parseJffs2 {data : Bytes} {nodes : List Node} {n : Node}
    (h : parseJffs2 data = .ok nodes) :
    n ∈ nodes ↔
      ∃ offset, offset % 4 = 0 ∧ offset + 11 < data.length ∧ parseNodeAt data offset = .ok (some n) := by
  rw [mem_collectNodes h]
  simp only [mem_scanOffsets, and_assoc]

end Cc2Camera.Image
