import Cc2Camera.Python

/-!
# Image — the SquashFS reader of `squashfs_extract.py`

An image is a file and the offset its superblock stands at.  `lzma.decompress` is a parameter; everything else
the reader does is here.  The caches of decompressed blocks change no result and are left out.
-/

open Bytes Exceptions

namespace Cc2Camera.SquashfsExtract

def SQUASHFS_MAGIC : Nat := 0x73717368
def METADATA_UNCOMPRESSED : Nat := 0x8000
def DATA_UNCOMPRESSED : Nat := 0x01000000
def INVALID_FRAGMENT : Nat := 0xFFFFFFFF
def METADATA_BLOCK_SIZE : Nat := 8192

/-- The exceptions of the tool, with what their messages show. -/
inductive SquashExc where
  -- `ValueError`s of its own
  | truncatedSuperblock
  | badMagic (magic : Nat)
  | unsupportedVersion (major minor : Nat)
  | unsupportedCompressor (compression : Nat)
  | truncatedRead (relativeOffset wanted got : Nat)
  | oversizedMetadata (relativeOffset : Nat)
  | outsideBlock
  | unsupportedInode (kind ref : Nat)
  | notDirectory
  | truncatedHeader
  | truncatedEntry
  | truncatedName
  | notRegularFile
  | badDataBlock (expected got : Nat)
  | missingData
  | truncatedTail
  | badExtractedSize (expected got : Nat)
  | unsafeEntry (name : Bytes)
  | emptyName
  -- of the library
  | lzmaError
  | zeroDivisionError
  | assertionError
  | fileNotFoundError
  | osError
  deriving DecidableEq, Repr

def u64 (data : Bytes) (offset : Nat) : Nat := leNat (slice data offset (offset + 8))

/-- The fields of the superblock that are read. -/
structure Superblock where
  blockSize : Nat
  rootInode : Nat
  inodeTableStart : Nat
  directoryTableStart : Nat
  fragmentTableStart : Nat
  deriving DecidableEq, Repr

def Superblock.read (image : Bytes) (base : Nat) : Except SquashExc Superblock := do
  let raw := slice image base (base + 96)
  raiseIf (raw.length ≠ 96) .truncatedSuperblock
  raiseIf (u32 raw 0 ≠ SQUASHFS_MAGIC) (.badMagic (u32 raw 0))
  raiseIf (¬(u16 raw 28 = 4 ∧ u16 raw 30 = 0)) (.unsupportedVersion (u16 raw 28) (u16 raw 30))
  raiseIf (u16 raw 20 ≠ 4) (.unsupportedCompressor (u16 raw 20))
  .ok
    { blockSize := u32 raw 12, rootInode := u64 raw 32, inodeTableStart := u64 raw 64
      directoryTableStart := u64 raw 72, fragmentTableStart := u64 raw 80 }

structure Inode where
  kind : Nat
  mode : Nat
  startBlock : Option Nat := none
  fileSize : Nat := 0
  fragment : Nat := INVALID_FRAGMENT
  fragmentOffset : Nat := 0
  blockSizes : List Nat := []
  directoryOffset : Nat := 0
  symlink : Option Bytes := none
  rdev : Option Nat := none
  deriving DecidableEq, Repr

structure SquashFS where
  image : Bytes
  base : Nat
  sb : Superblock
  deriving DecidableEq, Repr

/-- `SquashFS(image_path, base)`. -/
def SquashFS.open (image : Bytes) (base : Nat) : Except SquashExc SquashFS := do
  let sb ← Superblock.read image base
  .ok { image := image, base := base, sb := sb }

namespace SquashFS

def readAt (fs : SquashFS) (relativeOffset size : Nat) : Except SquashExc Bytes := do
  let data := slice fs.image (fs.base + relativeOffset) (fs.base + relativeOffset + size)
  raiseIf (data.length ≠ size) (.truncatedRead relativeOffset size data.length)
  .ok data

section Reader

variable (decompress : Bytes → Option Bytes) (fs : SquashFS)

/-! ## Metadata -/

-- the data of a block and where the next block starts
def metadataBlock (relativeOffset : Nat) : Except SquashExc (Bytes × Nat) := do
  let header ← fs.readAt relativeOffset 2
  let storedSize := u16 header 0 &&& 0x7FFF
  let payload ← fs.readAt (relativeOffset + 2) storedSize
  let data ← if u16 header 0 &&& METADATA_UNCOMPRESSED ≠ 0 then .ok payload
    else orRaise (decompress payload) .lzmaError
  raiseIf (METADATA_BLOCK_SIZE < data.length) (.oversizedMetadata relativeOffset)
  .ok (data, relativeOffset + 2 + storedSize)

-- every block gives a byte at least
def readMetadataLoop : Nat → Nat → Nat → Nat → Except SquashExc Bytes
  | 0, _, _, _ => .ok []
  | fuel + 1, block, offset, size =>
    if size = 0 then .ok []
    else do
      let (data, nextBlock) ← metadataBlock decompress fs block
      let piece := (data.drop offset).take size
      raiseIf (piece = []) .outsideBlock
      let rest ← readMetadataLoop fuel nextBlock 0 (size - piece.length)
      .ok (piece ++ rest)

def readMetadata (tableStart blockOffset innerOffset size : Nat) : Except SquashExc Bytes :=
  readMetadataLoop decompress fs size (tableStart + blockOffset) innerOffset size

/-- Where a metadata stream stands: a block and an offset in its data. -/
structure Position where
  block : Nat
  offset : Nat

-- every block stands at least two bytes behind the one before, and none can be read behind the end of the file
def takeLoop : Nat → Position → Nat → Except SquashExc (Bytes × Position)
  | 0, position, size => .error (.truncatedRead position.block size 0)
  | fuel + 1, position, size =>
    if size = 0 then .ok ([], position)
    else do
      let (data, nextBlock) ← metadataBlock decompress fs position.block
      let piece := (data.drop position.offset).take size
      if piece.length = size then .ok (piece, { position with offset := position.offset + size })
      else do
        let (rest, last) ← takeLoop fuel { block := nextBlock, offset := 0 } (size - piece.length)
        .ok (piece ++ rest, last)

/-- `self._take(stream, size)`. -/
def take (position : Position) (size : Nat) : Except SquashExc (Bytes × Position) :=
  takeLoop decompress fs (fs.image.length + 1) position size

/-! ## Inodes -/

def blockCount (fileSize fragment : Nat) : Except SquashExc Nat := do
  raiseIf (fs.sb.blockSize = 0) .zeroDivisionError
  .ok (fileSize / fs.sb.blockSize +
    if fragment = INVALID_FRAGMENT ∧ fileSize % fs.sb.blockSize ≠ 0 then 1 else 0)

-- `struct.unpack` of a row of 32-bit fields
def words (raw : Bytes) (count : Nat) : List Nat := (List.range count).map fun i => u32 raw (4 * i)

def readInode (ref : Nat) : Except SquashExc Inode := do
  let stream : Position := { block := fs.sb.inodeTableStart + (ref >>> 16), offset := ref &&& 0xFFFF }
  let (base, stream) ← take decompress fs stream 16
  let kind := u16 base 0
  let mode := u16 base 2
  if kind = 1 then do
    let (raw, _) ← take decompress fs stream 16
    .ok
      { kind := kind, mode := mode, startBlock := some (u32 raw 0), fileSize := u16 raw 8
        directoryOffset := u16 raw 10 }
  else if kind = 8 then do
    let (raw, _) ← take decompress fs stream 24
    .ok
      { kind := kind, mode := mode, startBlock := some (u32 raw 8), fileSize := u32 raw 4
        directoryOffset := u16 raw 18 }
  else if kind = 2 then do
    let (raw, stream) ← take decompress fs stream 16
    let count ← blockCount fs (u32 raw 12) (u32 raw 4)
    let (sizes, _) ← take decompress fs stream (4 * count)
    .ok
      { kind := kind, mode := mode, startBlock := some (u32 raw 0), fileSize := u32 raw 12
        fragment := u32 raw 4, fragmentOffset := u32 raw 8, blockSizes := words sizes count }
  else if kind = 9 then do
    let (raw, stream) ← take decompress fs stream 40
    let count ← blockCount fs (u64 raw 8) (u32 raw 28)
    let (sizes, _) ← take decompress fs stream (4 * count)
    .ok
      { kind := kind, mode := mode, startBlock := some (u64 raw 0), fileSize := u64 raw 8
        fragment := u32 raw 28, fragmentOffset := u32 raw 32, blockSizes := words sizes count }
  else if kind = 3 ∨ kind = 10 then do
    let (raw, stream) ← take decompress fs stream 8
    let (target, stream) ← take decompress fs stream (u32 raw 4)
    let _ ← take decompress fs stream (if kind = 10 then 4 else 0)
    .ok { kind := kind, mode := mode, symlink := some target, fileSize := u32 raw 4 }
  else if kind = 4 ∨ kind = 5 ∨ kind = 11 ∨ kind = 12 then do
    let (raw, stream) ← take decompress fs stream 8
    let _ ← take decompress fs stream (if kind = 11 ∨ kind = 12 then 4 else 0)
    .ok { kind := kind, mode := mode, rdev := some (u32 raw 4) }
  else if kind = 6 ∨ kind = 7 ∨ kind = 13 ∨ kind = 14 then do
    let _ ← take decompress fs stream (if kind = 13 ∨ kind = 14 then 8 else 4)
    .ok { kind := kind, mode := mode }
  else .error (.unsupportedInode kind ref)

end Reader

end SquashFS

def Inode.isDirectory (inode : Inode) : Bool := inode.kind = 1 ∨ inode.kind = 8

def Inode.isRegular (inode : Inode) : Bool := inode.kind = 2 ∨ inode.kind = 9

def Inode.isSymlink (inode : Inode) : Bool := inode.kind = 3 ∨ inode.kind = 10

/-! ## Directories -/

structure DirectoryEntry where
  name : Bytes
  ref : Nat
  kind : Nat
  deriving DecidableEq, Repr

-- the `for` loop over the entries below one header, and what it leaves; the name is decoded with
-- "surrogateescape", so that the operating system gets its bytes back
def parseEntries (inodeBlock : Nat) : Nat → Bytes → Except SquashExc (List DirectoryEntry × Bytes)
  | 0, raw => .ok ([], raw)
  | count + 1, raw => do
    raiseIf (raw.length < 8) .truncatedEntry
    let nameSize := u16 raw 6 + 1
    let name := slice raw 8 (8 + nameSize)
    raiseIf (name.length ≠ nameSize) .truncatedName
    let entry : DirectoryEntry := { name := name, ref := (inodeBlock <<< 16) ||| u16 raw 0, kind := u16 raw 4 }
    let (entries, rest) ← parseEntries inodeBlock count (raw.drop (8 + nameSize))
    .ok (entry :: entries, rest)

-- the `while` loop; every header takes twelve bytes
def parseDirectory : Nat → Bytes → Except SquashExc (List DirectoryEntry)
  | 0, _ => .ok []
  | fuel + 1, raw =>
    if raw = [] then .ok []
    else do
      raiseIf (raw.length < 12) .truncatedHeader
      let (entries, rest) ← parseEntries (u32 raw 4) (u32 raw 0 + 1) (raw.drop 12)
      let more ← parseDirectory fuel rest
      .ok (entries ++ more)

namespace SquashFS

section Reader

variable (decompress : Bytes → Option Bytes) (fs : SquashFS)

def readDirectory (inode : Inode) : Except SquashExc (List DirectoryEntry) := do
  raiseIf (inode.isDirectory = false) .notDirectory
  let startBlock ← orRaise inode.startBlock .notDirectory
  let raw ← readMetadata decompress fs fs.sb.directoryTableStart startBlock inode.directoryOffset (inode.fileSize - 3)
  parseDirectory raw.length raw

/-! ## Files -/

def fragmentEntry (index : Nat) : Except SquashExc (Nat × Nat) := do
  let entriesPerMetadataBlock := METADATA_BLOCK_SIZE / 16
  let pointer ← fs.readAt (fs.sb.fragmentTableStart + index / entriesPerMetadataBlock * 8) 8
  let raw ← readMetadata decompress fs (u64 pointer 0) 0 (index % entriesPerMetadataBlock * 16) 16
  .ok (u64 raw 0, u32 raw 8)

-- a stored block, and how it is read
def dataBlock (start sizeWord : Nat) : Except SquashExc Bytes := do
  let payload ← fs.readAt start (sizeWord &&& 0x00FFFFFF)
  if sizeWord &&& DATA_UNCOMPRESSED ≠ 0 then .ok payload else orRaise (decompress payload) .lzmaError

def fragmentData (index : Nat) : Except SquashExc Bytes := do
  let (start, sizeWord) ← fragmentEntry decompress fs index
  dataBlock decompress fs start sizeWord

-- the `for` loop over the block sizes, and how much of the file is left
def readBlocks : List Nat → Nat → Nat → Except SquashExc (Bytes × Nat)
  | [], _, remaining => .ok ([], remaining)
  | sizeWord :: sizes, dataOffset, remaining => do
    let logicalSize := min remaining fs.sb.blockSize
    let storedSize := sizeWord &&& 0x00FFFFFF
    if storedSize = 0 then do
      let (rest, left) ← readBlocks sizes dataOffset (remaining - logicalSize)
      .ok (List.replicate logicalSize 0 ++ rest, left)
    else do
      let block ← dataBlock decompress fs dataOffset sizeWord
      raiseIf (block.length ≠ logicalSize) (.badDataBlock logicalSize block.length)
      let (rest, left) ← readBlocks sizes (dataOffset + storedSize) (remaining - logicalSize)
      .ok (block ++ rest, left)

def readFile (inode : Inode) : Except SquashExc Bytes := do
  raiseIf (inode.isRegular = false) .notRegularFile
  let startBlock ← orRaise inode.startBlock .notRegularFile
  let (blocks, remaining) ← readBlocks decompress fs inode.blockSizes startBlock inode.fileSize
  let tail ← if remaining = 0 then .ok [] else do
    raiseIf (inode.fragment = INVALID_FRAGMENT) .missingData
    let fragment ← fragmentData decompress fs inode.fragment
    let tail := slice fragment inode.fragmentOffset (inode.fragmentOffset + remaining)
    raiseIf (tail.length ≠ remaining) .truncatedTail
    .ok tail
  let out := blocks ++ tail
  raiseIf (out.length ≠ inode.fileSize) (.badExtractedSize inode.fileSize out.length)
  .ok out

end Reader

end SquashFS

end Cc2Camera.SquashfsExtract
