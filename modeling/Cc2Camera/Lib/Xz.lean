import Cc2Camera.Lib.Bytes
import Mathlib.Data.FinEnum
import Mathlib.Tactic.Common

/-!
# Xz — a decoder for XZ streams

One stream with any number of blocks.  The decoder supports blocks that state both their sizes and have
one LZMA2 filter, and the CRC32 check; everything the format says of itself (sizes, counts, paddings,
checksums, the flags repeated in the footer) is compared with what is there.  The checksum and the raw
LZMA2 codec are parameters.
-/

open Bytes

namespace Xz

def require (c : Prop) [Decidable c] : Option Unit := if c then some () else none

def takeBytes (count : Nat) (data : Bytes) : Option (Bytes × Bytes) := do
  require (count ≤ data.length)
  some (data.take count, data.drop count)

/-- The bytes missing to a multiple of four. -/
def paddingOf (size : Nat) : Nat := (4 - size % 4) % 4

/-! ## Variable-length integers -/

/-- Seven bits a byte, low bits first; a last byte of zero would be redundant. -/
def readVli : Bytes → Option (Nat × Bytes)
  | [] => none
  | b :: data =>
    if b.toNat < 128 then some (b.toNat, data)
    else do
      let (high, rest) ← readVli data
      require (high ≠ 0)
      some (b.toNat - 128 + 128 * high, rest)

/-- The integers of the format take nine bytes at most. -/
def vli (data : Bytes) : Option (Nat × Bytes) := do
  let (value, rest) ← readVli data
  require (data.length ≤ rest.length + 9)
  some (value, rest)

/-! ## Streams -/

def MAGIC : Bytes := [0xFD, 0x37, 0x7A, 0x58, 0x5A, 0x00]

def FOOTER_MAGIC : Bytes := [0x59, 0x5A]

-- the reserved byte and the CRC32 check
def CRC32_FLAGS : Bytes := [0x00, 0x01]

/-- The dictionary size an LZMA2 property byte stands for. -/
def dictionarySize (bits : Nat) : Option Nat :=
  if 40 < bits then none
  else if bits = 40 then some (2 ^ 32 - 1)
  else some ((2 + bits % 2) * 2 ^ (bits / 2 + 11))

/-- The flags of the one filter: its ID, the size of its properties and the property byte. -/
def filterFlags (fields : Bytes) : Option (Nat × Bytes) := do
  let (id, rest) ← vli fields
  require (id = 0x21)
  let (size, rest) ← vli rest
  require (size = 1)
  let (property, rest) ← takeBytes 1 rest
  let dictionary ← dictionarySize (leNat property)
  some (dictionary, rest)

structure Header where
  compressedSize : Nat
  uncompressedSize : Nat
  dictionary : Nat

structure Block where
  unpaddedSize : Nat
  data : Bytes

/-- What the index says of a block. -/
def Block.record (block : Block) : Nat × Nat := (block.unpaddedSize, block.data.length)

section Decoder

variable (crc32 : Bytes → Nat) (lzma2 : Nat → Bytes → Option Bytes)

/-- A block header with its size byte and without its CRC. -/
def headerFields (header : Bytes) : Option Header := do
  -- one filter, no reserved bit, both sizes
  require ((header.drop 1).head? = some 0xC0)
  let (compressedSize, rest) ← vli (header.drop 2)
  require (compressedSize ≠ 0)
  let (uncompressedSize, rest) ← vli rest
  let (dictionary, padding) ← filterFlags rest
  require (∀ b ∈ padding, b = 0)
  some { compressedSize := compressedSize, uncompressedSize := uncompressedSize
         dictionary := dictionary }

def readHeader (data : Bytes) : Option (Header × Nat × Bytes) := do
  let (sizeByte, _) ← takeBytes 1 data
  let size := (leNat sizeByte + 1) * 4
  let (header, rest) ← takeBytes (size - 4) data
  let (stored, rest) ← takeBytes 4 rest
  require (leNat stored = crc32 header)
  let fields ← headerFields header
  some (fields, size, rest)

def readBlock (data : Bytes) : Option (Block × Bytes) := do
  let (header, size, rest) ← readHeader crc32 data
  let (compressed, rest) ← takeBytes header.compressedSize rest
  let (padding, rest) ← takeBytes (paddingOf header.compressedSize) rest
  require (∀ b ∈ padding, b = 0)
  let (check, rest) ← takeBytes 4 rest
  let out ← lzma2 header.dictionary compressed
  require (out.length = header.uncompressedSize)
  require (leNat check = crc32 out)
  some ({ unpaddedSize := size + header.compressedSize + 4, data := out }, rest)

/-- The blocks up to the index, whose first byte no block header begins with. -/
def readBlocks : Nat → Bytes → Option (List Block × Bytes)
  | 0, _ => none
  | fuel + 1, data =>
    if data.head? = some 0 then some ([], data)
    else do
      let (block, rest) ← readBlock crc32 lzma2 data
      let (blocks, rest) ← readBlocks fuel rest
      some (block :: blocks, rest)

def readRecords : Nat → Bytes → Option (List (Nat × Nat) × Bytes)
  | 0, data => some ([], data)
  | count + 1, data => do
    let (unpadded, rest) ← vli data
    let (uncompressed, rest) ← vli rest
    let (records, rest) ← readRecords count rest
    some ((unpadded, uncompressed) :: records, rest)

/-- The index behind its indicator byte: its records and its size. -/
def readIndex (data : Bytes) : Option (List (Nat × Nat) × Nat × Bytes) := do
  let (count, rest) ← vli (data.drop 1)
  let (records, rest) ← readRecords count rest
  let size := data.length - rest.length
  let (padding, rest) ← takeBytes (paddingOf size) rest
  require (∀ b ∈ padding, b = 0)
  let (stored, rest) ← takeBytes 4 rest
  require (leNat stored = crc32 (data.take (size + paddingOf size)))
  some (records, size + paddingOf size + 4, rest)

/-- The twelve bytes of the footer, which state the size of the index. -/
def checkFooter (indexSize : Nat) (data : Bytes) : Option Unit := do
  let (stored, rest) ← takeBytes 4 data
  let (backward, rest) ← takeBytes 4 rest
  let (flags, magic) ← takeBytes 2 rest
  require (leNat stored = crc32 (backward ++ flags))
  require ((leNat backward + 1) * 4 = indexSize)
  require (flags = CRC32_FLAGS)
  require (magic = FOOTER_MAGIC)

def checkStreamHeader (data : Bytes) : Option Bytes := do
  let (magic, rest) ← takeBytes 6 data
  require (magic = MAGIC)
  let (flags, rest) ← takeBytes 2 rest
  let (stored, rest) ← takeBytes 4 rest
  require (leNat stored = crc32 flags)
  require (flags = CRC32_FLAGS)
  some rest

def decode (data : Bytes) : Option Bytes := do
  let rest ← checkStreamHeader crc32 data
  let (blocks, rest) ← readBlocks crc32 lzma2 (rest.length + 1) rest
  let (records, size, rest) ← readIndex crc32 rest
  require (records = blocks.map Block.record)
  checkFooter crc32 size rest
  some (blocks.flatMap Block.data)

end Decoder

/-! ## Reading a concatenation -/

@[simp] theorem require_of {c : Prop} [Decidable c] (h : c) : require c = some () := if_pos h

theorem takeBytes_append {count : Nat} {a b : Bytes} (h : a.length = count) :
    takeBytes count (a ++ b) = some (a, b) := by
  unfold takeBytes
  rw [require_of (by rw [List.length_append]; omega), ← h, List.take_left, List.drop_left]
  rfl

theorem vli_of_readVli {data rest : Bytes} {value : Nat} (h : readVli data = some (value, rest))
    (hshort : data.length ≤ rest.length + 9) : vli data = some (value, rest) := by
  unfold vli
  rw [h]
  show (require _ >>= _) = _
  rw [require_of hshort]
  rfl

theorem paddingOf_lt (size : Nat) : paddingOf size < 4 := Nat.mod_lt _ (by decide)

theorem paddingOf_add (size : Nat) : (size + paddingOf size) % 4 = 0 := by
  unfold paddingOf
  omega

end Xz
