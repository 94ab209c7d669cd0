import Cc2Camera.Image.SystemPatch
import Cc2Camera.Lib.Xz

/-!
# XzFragment — the hand-written XZ container, read by the format's own rules

`build_squashfs_xz_fragment` lays out one block and its index.  A decoder of the format accepts the
stream, finds every stated size and checksum right, and returns the data (`decode_fragment`).
-/

open Bytes Exceptions

namespace Cc2Camera.Image

/-! ## 1. Variable-length integers -/

theorem xzVli_small {value : Nat} (h : value / 128 = 0) :
    xzVli value = [UInt8.ofNat (value % 128)] := by
  rw [xzVli, if_pos h]

theorem xzVli_large {value : Nat} (h : value / 128 ≠ 0) :
    xzVli value = UInt8.ofNat (value % 128 + 128) :: xzVli (value / 128) := by
  rw [xzVli, if_neg h]

theorem readVli_xzVli (value : Nat) (rest : Bytes) :
    Xz.readVli (xzVli value ++ rest) = some (value, rest) := by
  induction value using xzVli.induct with
  | case1 value h =>
    have hbyte : (UInt8.ofNat (value % 128)).toNat = value := by
      rw [UInt8.toNat_ofNat']
      omega
    rw [xzVli_small h]
    show (if (UInt8.ofNat (value % 128)).toNat < 128 then _ else _) = _
    rw [hbyte, if_pos (by omega)]
    rfl
  | case2 value h ih =>
    have hbyte : (UInt8.ofNat (value % 128 + 128)).toNat = value % 128 + 128 := by
      rw [UInt8.toNat_ofNat']
      omega
    have hvalue : value % 128 + 128 - 128 + 128 * (value / 128) = value := by omega
    rw [xzVli_large h, List.cons_append, Xz.readVli, hbyte, if_neg (by omega), ih]
    show (Xz.require _ >>= _) = _
    rw [Xz.require_of h]
    exact congrArg (fun v => some (v, rest)) hvalue

/-- The length of an integer is the least one its value fits. -/
theorem length_xzVli (value : Nat) :
    value < 128 ^ (xzVli value).length ∧
      ((xzVli value).length = 1 ∨ 128 ^ ((xzVli value).length - 1) ≤ value) := by
  induction value using xzVli.induct with
  | case1 value h =>
    rw [xzVli_small h]
    show value < 128 ^ 1 ∧ _
    exact ⟨by omega, .inl rfl⟩
  | case2 value h ih =>
    rw [xzVli_large h, List.length_cons, Nat.add_sub_cancel, pow_succ]
    generalize (xzVli (value / 128)).length = length at ih
    have hfits := ih.1
    refine ⟨by omega, .inr ?_⟩
    cases ih.2 with
    | inl hone =>
      rw [hone]
      omega
    | inr hleast =>
      have hpos : 0 < length := by
        by_contra hzero
        have hnil : length = 0 := by omega
        rw [hnil] at hfits
        omega
      have hpow : 128 ^ length = 128 ^ (length - 1) * 128 := by
        rw [← pow_succ, Nat.sub_add_cancel hpos]
      omega

theorem length_xzVli_le {value : Nat} (h : value < 2 ^ 63) :
    1 ≤ (xzVli value).length ∧ (xzVli value).length ≤ 9 := by
  have hlength := length_xzVli value
  constructor
  · by_contra hzero
    have hnil : (xzVli value).length = 0 := by omega
    rw [hnil] at hlength
    omega
  · by_contra hlong
    cases hlength.2 with
    | inl hone => omega
    | inr hleast =>
      have hpow : 128 ^ 9 ≤ 128 ^ ((xzVli value).length - 1) :=
        Nat.pow_le_pow_right (by decide) (by omega)
      have hlimit : 128 ^ 9 = 2 ^ 63 := by decide
      omega

theorem vli_xzVli {value : Nat} (h : value < 2 ^ 63) (rest : Bytes) :
    Xz.vli (xzVli value ++ rest) = some (value, rest) := by
  have hlength := length_xzVli_le h
  apply Xz.vli_of_readVli (readVli_xzVli value rest)
  rw [List.length_append]
  omega

/-! ## 2. The block header -/

-- the block header with its size byte and without its CRC
def xzHeaderBytes (compressedSize uncompressedSize : Nat) : Bytes :=
  let fields := xzBlockFields compressedSize uncompressedSize
  let padded := fields ++ List.replicate (padding4 (fields.length + 4)) 0
  UInt8.ofNat ((padded.length + 4) / 4 - 1) :: padded.tail

section Sizes

variable {compressedSize uncompressedSize : Nat} (hcompressed : compressedSize < 2 ^ 63)
  (huncompressed : uncompressedSize < 2 ^ 63)
include hcompressed huncompressed

theorem length_xzBlockFields :
    7 ≤ (xzBlockFields compressedSize uncompressedSize).length ∧
      (xzBlockFields compressedSize uncompressedSize).length ≤ 23 := by
  have hc := length_xzVli_le hcompressed
  have hu := length_xzVli_le huncompressed
  unfold xzBlockFields
  simp only [List.length_append, List.length_cons, List.length_nil]
  omega

/-- The size byte counts the header with its CRC in words. -/
theorem length_xzHeaderBytes :
    (xzHeaderBytes compressedSize uncompressedSize).length + 4 =
        (leNat ((xzHeaderBytes compressedSize uncompressedSize).take 1) + 1) * 4 ∧
      (xzHeaderBytes compressedSize uncompressedSize).length ≤ 24 := by
  have hfields := length_xzBlockFields hcompressed huncompressed
  unfold xzHeaderBytes
  generalize xzBlockFields compressedSize uncompressedSize = fields at hfields
  have hpadding := Xz.paddingOf_add (fields.length + 4)
  have hlt := Xz.paddingOf_lt (fields.length + 4)
  have hpadded : (fields ++ List.replicate (padding4 (fields.length + 4)) 0).length =
      fields.length + Xz.paddingOf (fields.length + 4) := by
    rw [List.length_append, List.length_replicate]
    rfl
  simp only [List.length_cons, List.length_tail, hpadded, List.take_succ_cons, List.take_zero]
  show _ = ((UInt8.ofNat _).toNat + 256 * 0 + 1) * 4 ∧ _
  rw [UInt8.toNat_ofNat']
  omega

theorem xzBlockHeader_eq :
    xzBlockHeader compressedSize uncompressedSize =
      .ok (xzHeaderBytes compressedSize uncompressedSize ++
        leBytes 4 (zlibCrc32 (xzHeaderBytes compressedSize uncompressedSize) 0)) := by
  have hfields := length_xzBlockFields hcompressed huncompressed
  have hlt := Xz.paddingOf_lt ((xzBlockFields compressedSize uncompressedSize).length + 4)
  unfold xzBlockHeader xzHeaderBytes
  generalize xzBlockFields compressedSize uncompressedSize = fields at hfields hlt ⊢
  have hpadded : (fields ++ List.replicate (padding4 (fields.length + 4)) 0).length =
      fields.length + Xz.paddingOf (fields.length + 4) := by
    rw [List.length_append, List.length_replicate]
    rfl
  dsimp only
  generalize fields ++ List.replicate (padding4 (fields.length + 4)) 0 = padded at hpadded ⊢
  have hsplice (b : UInt8) : splice padded 0 1 [b] = b :: padded.tail := by
    rw [splice, List.take_zero, List.nil_append, List.drop_one]
    rfl
  rw [raiseIf_of_not (by omega), ok_bind, hsplice, pack_of_lt (zlibCrc32_lt _ _), ok_bind]

omit hcompressed huncompressed in
theorem xzHeaderBytes_layout :
    ∃ sizeByte zeros, xzHeaderBytes compressedSize uncompressedSize =
      sizeByte :: 0xC0 :: (xzVli compressedSize ++ (xzVli uncompressedSize ++
        (0x21 :: 0x01 :: 0x0A :: List.replicate zeros 0))) := by
  unfold xzHeaderBytes xzBlockFields
  simp only [List.append_assoc, List.cons_append, List.nil_append, List.tail_cons]
  exact ⟨_, _, rfl⟩

omit hcompressed huncompressed in
/-- LZMA2 with a dictionary of 128 KiB. -/
theorem filterFlags_xz (zeros : Bytes) :
    Xz.filterFlags (0x21 :: 0x01 :: 0x0A :: zeros) = some (0x20000, zeros) := by
  have hid : xzVli 0x21 = [0x21] := xzVli_small rfl
  have hone : xzVli 1 = [0x01] := xzVli_small rfl
  have hfirst := @vli_xzVli 0x21 (by decide) (0x01 :: 0x0A :: zeros)
  have hsecond := @vli_xzVli 1 (by decide) (0x0A :: zeros)
  rw [hid, List.singleton_append] at hfirst
  rw [hone, List.singleton_append] at hsecond
  have hthird := @Xz.takeBytes_append 1 [0x0A] zeros rfl
  rw [List.singleton_append] at hthird
  unfold Xz.filterFlags
  simp only [hfirst, hsecond, hthird, Option.bind_eq_bind, Option.bind_some, Xz.require_of]
  rfl

theorem headerFields_xz (hpos : compressedSize ≠ 0) :
    Xz.headerFields (xzHeaderBytes compressedSize uncompressedSize) =
      some { compressedSize := compressedSize, uncompressedSize := uncompressedSize
             dictionary := 0x20000 } := by
  rcases @xzHeaderBytes_layout compressedSize uncompressedSize with ⟨sizeByte, zeros, hlayout⟩
  rw [hlayout]
  have hzeros : ∀ b ∈ List.replicate zeros (0 : UInt8), b = 0 := fun b => List.eq_of_mem_replicate
  unfold Xz.headerFields
  simp only [List.drop_succ_cons, List.drop_zero, List.head?_cons, vli_xzVli hcompressed,
    vli_xzVli huncompressed, filterFlags_xz, Option.bind_eq_bind, Option.bind_some,
    Xz.require_of hpos, Xz.require_of hzeros, Xz.require_of]

theorem readHeader_xz (hpos : compressedSize ≠ 0) (rest : Bytes) :
    Xz.readHeader (zlibCrc32 · 0)
        (xzHeaderBytes compressedSize uncompressedSize ++
          (leBytes 4 (zlibCrc32 (xzHeaderBytes compressedSize uncompressedSize) 0) ++ rest)) =
      some ({ compressedSize := compressedSize, uncompressedSize := uncompressedSize
              dictionary := 0x20000 },
        (xzHeaderBytes compressedSize uncompressedSize).length + 4, rest) := by
  have hlength := length_xzHeaderBytes hcompressed huncompressed
  have hfields := headerFields_xz hcompressed huncompressed hpos
  have hfirst : xzHeaderBytes compressedSize uncompressedSize =
      (xzHeaderBytes compressedSize uncompressedSize).take 1 ++
        (xzHeaderBytes compressedSize uncompressedSize).drop 1 := (List.take_append_drop 1 _).symm
  have hone : ((xzHeaderBytes compressedSize uncompressedSize).take 1).length = 1 := rfl
  generalize xzHeaderBytes compressedSize uncompressedSize = header at hlength hfields hfirst hone
  have hsize : (leNat (header.take 1) + 1) * 4 - 4 = header.length := by omega
  have hbyte : Xz.takeBytes 1 (header ++ (leBytes 4 (zlibCrc32 header 0) ++ rest)) =
      some (header.take 1, header.drop 1 ++ (leBytes 4 (zlibCrc32 header 0) ++ rest)) := by
    conv_lhs => rw [hfirst, List.append_assoc]
    rw [Xz.takeBytes_append hone, ← hfirst]
  have hstored := leNat_leBytes (w := 4) (zlibCrc32_lt header 0)
  unfold Xz.readHeader
  simp only [hbyte, hsize, Xz.takeBytes_append rfl, Xz.takeBytes_append (length_leBytes 4 _), hstored,
    hfields, Option.bind_eq_bind, Option.bind_some, Xz.require_of, hlength.1]

end Sizes

/-! ## 3. The block -/

section Fragment

variable (lzma2 : Nat → Bytes → Option Bytes) {compressed data : Bytes}

theorem readBlock_xz (hne : compressed ≠ []) (hinverse : lzma2 0x20000 compressed = some data)
    (hcompressed : compressed.length < 2 ^ 63) (hdata : data.length < 2 ^ 63) (rest : Bytes) :
    Xz.readBlock (zlibCrc32 · 0) lzma2
        (xzHeaderBytes compressed.length data.length ++
          (leBytes 4 (zlibCrc32 (xzHeaderBytes compressed.length data.length) 0) ++
            (compressed ++ (List.replicate (padding4 compressed.length) 0 ++
              (leBytes 4 (zlibCrc32 data 0) ++ rest))))) =
      some ({ unpaddedSize :=
                (xzHeaderBytes compressed.length data.length).length + 4 + compressed.length + 4
              data := data }, rest) := by
  have hpos : compressed.length ≠ 0 := mt List.eq_nil_of_length_eq_zero hne
  have hheader := readHeader_xz hcompressed hdata hpos
  have hzeros : ∀ b ∈ List.replicate (padding4 compressed.length) (0 : UInt8), b = 0 :=
    fun b => List.eq_of_mem_replicate
  have hpadding := @Xz.takeBytes_append (Xz.paddingOf compressed.length)
    (List.replicate (padding4 compressed.length) 0)
    (leBytes 4 (zlibCrc32 data 0) ++ rest) List.length_replicate
  have hstored := leNat_leBytes (w := 4) (zlibCrc32_lt data 0)
  unfold Xz.readBlock
  simp only [hheader, Xz.takeBytes_append rfl, hpadding, Xz.takeBytes_append (length_leBytes 4 _),
    hinverse, hstored, Option.bind_eq_bind, Option.bind_some, Xz.require_of hzeros, Xz.require_of]

/-! ## 4. The index and the footer -/

def xzRecords (unpaddedSize uncompressedSize : Nat) : Bytes :=
  [0x00, 0x01] ++ xzVli unpaddedSize ++ xzVli uncompressedSize

def xzIndexBytes (unpaddedSize uncompressedSize : Nat) : Bytes :=
  xzRecords unpaddedSize uncompressedSize ++
    List.replicate (padding4 (xzRecords unpaddedSize uncompressedSize).length) 0

theorem xzIndex_eq (unpaddedSize uncompressedSize : Nat) :
    xzIndex unpaddedSize uncompressedSize =
      .ok (xzIndexBytes unpaddedSize uncompressedSize ++
        leBytes 4 (zlibCrc32 (xzIndexBytes unpaddedSize uncompressedSize) 0)) := by
  unfold xzIndex
  dsimp only
  rw [pack_of_lt (zlibCrc32_lt _ _)]
  rfl

theorem readIndex_xz {unpaddedSize uncompressedSize : Nat} (hunpadded : unpaddedSize < 2 ^ 63)
    (huncompressed : uncompressedSize < 2 ^ 63) (rest : Bytes) :
    Xz.readIndex (zlibCrc32 · 0)
        (xzIndexBytes unpaddedSize uncompressedSize ++
          (leBytes 4 (zlibCrc32 (xzIndexBytes unpaddedSize uncompressedSize) 0) ++ rest)) =
      some ([(unpaddedSize, uncompressedSize)],
        (xzIndexBytes unpaddedSize uncompressedSize).length + 4, rest) := by
  have hcount := @vli_xzVli 1 (by decide)
  have hone : xzVli 1 = [0x01] := xzVli_small rfl
  generalize hcrc : leBytes 4 (zlibCrc32 (xzIndexBytes unpaddedSize uncompressedSize) 0) = crc
  have hcrcLength : crc.length = 4 := by rw [← hcrc, length_leBytes]
  have hstored : leNat crc = zlibCrc32 (xzIndexBytes unpaddedSize uncompressedSize) 0 := by
    rw [← hcrc, leNat_leBytes (zlibCrc32_lt _ _)]
  generalize hzeros : List.replicate (padding4 (xzRecords unpaddedSize uncompressedSize).length)
    (0 : UInt8) = zeros
  have hzerosLength : zeros.length =
      Xz.paddingOf (xzRecords unpaddedSize uncompressedSize).length := by
    rw [← hzeros, List.length_replicate]
    rfl
  have hbytes : xzIndexBytes unpaddedSize uncompressedSize =
      xzRecords unpaddedSize uncompressedSize ++ zeros := by
    rw [← hzeros]
    rfl
  have hdrop : (xzIndexBytes unpaddedSize uncompressedSize ++ (crc ++ rest)).drop 1 =
      xzVli 1 ++ (xzVli unpaddedSize ++ (xzVli uncompressedSize ++ (zeros ++ (crc ++ rest)))) := by
    rw [hbytes, xzRecords, hone]
    simp only [List.append_assoc, List.cons_append, List.nil_append, List.drop_succ_cons,
      List.drop_zero]
  have hrecords : Xz.readRecords 1
      (xzVli unpaddedSize ++ (xzVli uncompressedSize ++ (zeros ++ (crc ++ rest)))) =
        some ([(unpaddedSize, uncompressedSize)], zeros ++ (crc ++ rest)) := by
    unfold Xz.readRecords
    simp only [vli_xzVli hunpadded, vli_xzVli huncompressed, Xz.readRecords, Option.bind_eq_bind,
      Option.bind_some]
  have hsize : (xzIndexBytes unpaddedSize uncompressedSize ++ (crc ++ rest)).length -
      (zeros ++ (crc ++ rest)).length = (xzRecords unpaddedSize uncompressedSize).length := by
    rw [hbytes, List.append_assoc, List.length_append]
    omega
  have hcovered : (xzRecords unpaddedSize uncompressedSize).length +
      Xz.paddingOf (xzRecords unpaddedSize uncompressedSize).length =
        (xzIndexBytes unpaddedSize uncompressedSize).length := by
    rw [hbytes, List.length_append, hzerosLength]
  have hnull : ∀ b ∈ zeros, b = 0 := by
    rw [← hzeros]
    exact fun b => List.eq_of_mem_replicate
  unfold Xz.readIndex
  simp only [hdrop, hcount, hrecords, hsize, Xz.takeBytes_append hzerosLength,
    Xz.takeBytes_append hcrcLength, hcovered, List.take_left, hstored, Option.bind_eq_bind,
    Option.bind_some, Xz.require_of hnull, Xz.require_of]

theorem length_xzIndexBytes {unpaddedSize uncompressedSize : Nat} (hunpadded : unpaddedSize < 2 ^ 63)
    (huncompressed : uncompressedSize < 2 ^ 63) :
    (xzIndexBytes unpaddedSize uncompressedSize).length % 4 = 0 ∧
      (xzIndexBytes unpaddedSize uncompressedSize).length ≤ 24 := by
  have hfirst := length_xzVli_le hunpadded
  have hsecond := length_xzVli_le huncompressed
  have hrecords : (xzRecords unpaddedSize uncompressedSize).length ≤ 20 := by
    unfold xzRecords
    simp only [List.length_append, List.length_cons, List.length_nil]
    omega
  have hpadding := Xz.paddingOf_add (xzRecords unpaddedSize uncompressedSize).length
  have hlt := Xz.paddingOf_lt (xzRecords unpaddedSize uncompressedSize).length
  unfold xzIndexBytes
  rw [List.length_append, List.length_replicate]
  show (_ + Xz.paddingOf _) % 4 = 0 ∧ _ + Xz.paddingOf _ ≤ 24
  omega

theorem checkFooter_xz {size : Nat} (hfour : size % 4 = 0) (hpos : 4 ≤ size) (hfits : size < 2 ^ 32) :
    Xz.checkFooter (zlibCrc32 · 0) size
        (leBytes 4 (zlibCrc32 (leBytes 4 (size / 4 - 1) ++ [0x00, 0x01]) 0) ++
          (leBytes 4 (size / 4 - 1) ++ ([0x00, 0x01] ++ [0x59, 0x5A]))) = some () := by
  have hbackward : leNat (leBytes 4 (size / 4 - 1)) = size / 4 - 1 :=
    leNat_leBytes (show size / 4 - 1 < 2 ^ 32 by omega)
  have hstored := leNat_leBytes (w := 4)
    (zlibCrc32_lt (leBytes 4 (size / 4 - 1) ++ [0x00, 0x01]) 0)
  have hsize : (size / 4 - 1 + 1) * 4 = size := by omega
  have hflags := @Xz.takeBytes_append 2 [0x00, 0x01] [0x59, 0x5A] rfl
  unfold Xz.checkFooter
  simp only [Xz.takeBytes_append (length_leBytes 4 _), hflags, hstored, hbackward, hsize,
    Option.bind_eq_bind, Option.bind_some, Xz.require_of]
  rfl

end Fragment

/-! ## 5. The stream -/

section Stream

variable (codecs : Codecs) (lzma2 : Nat → Bytes → Option Bytes) {data : Bytes}

/-- The size the index states of the block: its header, the compressed data and the check. -/
def xzUnpaddedSize (data : Bytes) : Nat :=
  (xzHeaderBytes (codecs.lzmaCompress data).length data.length).length + 4 +
    (codecs.lzmaCompress data).length + 4

-- the stream part by part, each behind the one before it
def xzStream (data : Bytes) : Bytes :=
  let compressed := codecs.lzmaCompress data
  let header := xzHeaderBytes compressed.length data.length
  let index := xzIndexBytes (xzUnpaddedSize codecs data) data.length
  XZ_MAGIC ++ ([0x00, 0x01] ++ (leBytes 4 (zlibCrc32 [0x00, 0x01] 0) ++
    (header ++ (leBytes 4 (zlibCrc32 header 0) ++
      (compressed ++ (List.replicate (padding4 compressed.length) 0 ++
        (leBytes 4 (zlibCrc32 data 0) ++
          (index ++ (leBytes 4 (zlibCrc32 index 0) ++
            (leBytes 4 (zlibCrc32 (leBytes 4 ((index.length + 4) / 4 - 1) ++ [0x00, 0x01]) 0) ++
              (leBytes 4 ((index.length + 4) / 4 - 1) ++ ([0x00, 0x01] ++ [0x59, 0x5A]))))))))))))

theorem buildSquashfsXzFragment_eq (hdata : data.length < 2 ^ 63)
    (hunpadded : xzUnpaddedSize codecs data < 2 ^ 63) :
    buildSquashfsXzFragment codecs data = .ok (xzStream codecs data) := by
  have hcompressed : (codecs.lzmaCompress data).length < 2 ^ 63 := by
    unfold xzUnpaddedSize at hunpadded
    omega
  have hindex := length_xzIndexBytes hunpadded hdata
  have hheader := xzBlockHeader_eq hcompressed hdata
  have hsize : (xzHeaderBytes (codecs.lzmaCompress data).length data.length ++
      leBytes 4 (zlibCrc32 (xzHeaderBytes (codecs.lzmaCompress data).length data.length) 0)).length +
        (codecs.lzmaCompress data).length + 4 = xzUnpaddedSize codecs data := by
    rw [List.length_append, length_leBytes]
    rfl
  have hlength : (xzIndexBytes (xzUnpaddedSize codecs data) data.length ++
      leBytes 4 (zlibCrc32 (xzIndexBytes (xzUnpaddedSize codecs data) data.length) 0)).length =
        (xzIndexBytes (xzUnpaddedSize codecs data) data.length).length + 4 := by
    rw [List.length_append, length_leBytes]
  have hbackward : ((xzIndexBytes (xzUnpaddedSize codecs data) data.length).length + 4) / 4 - 1 <
      256 ^ 4 := by
    omega
  unfold buildSquashfsXzFragment
  dsimp only
  rw [pack_of_lt (zlibCrc32_lt _ _), ok_bind, hheader, ok_bind, pack_of_lt (zlibCrc32_lt _ _), ok_bind,
    hsize, xzIndex_eq, ok_bind, hlength, pack_of_lt hbackward, ok_bind, pack_of_lt (zlibCrc32_lt _ _),
    ok_bind]
  have hletters : ascii "YZ" = [0x59, 0x5A] := rfl
  rw [hletters]
  unfold xzStream
  simp only [List.append_assoc]

theorem xzHeaderBytes_head (hcompressed : (codecs.lzmaCompress data).length < 2 ^ 63)
    (hdata : data.length < 2 ^ 63) (rest : Bytes) :
    (xzHeaderBytes (codecs.lzmaCompress data).length data.length ++ rest).head? ≠ some 0 := by
  have hlength := length_xzHeaderBytes hcompressed hdata
  have hlayout := @xzHeaderBytes_layout (codecs.lzmaCompress data).length data.length
  rcases hlayout with ⟨sizeByte, zeros, hlayout⟩
  rw [hlayout] at hlength ⊢
  intro hzero
  have hbyte : sizeByte = 0 := Option.some.inj hzero
  have hfour := hlength.1
  rw [hbyte] at hfour
  simp only [List.length_cons, List.length_append, List.take_succ_cons, List.take_zero] at hfour
  change _ = (0 + 256 * 0 + 1) * 4 at hfour
  omega

/-- A decoder of the format accepts the stream and returns the data. -/
theorem decode_xzStream (hne : codecs.lzmaCompress data ≠ [])
    (hinverse : lzma2 0x20000 (codecs.lzmaCompress data) = some data) (hdata : data.length < 2 ^ 63)
    (hunpadded : xzUnpaddedSize codecs data < 2 ^ 63) :
    Xz.decode (zlibCrc32 · 0) lzma2 (xzStream codecs data) = some data := by
  have hcompressed : (codecs.lzmaCompress data).length < 2 ^ 63 := by
    unfold xzUnpaddedSize at hunpadded
    omega
  have hindex := length_xzIndexBytes hunpadded hdata
  have hfooter := @checkFooter_xz
    ((xzIndexBytes (xzUnpaddedSize codecs data) data.length).length + 4) (by omega) (by omega)
    (by omega)
  unfold xzStream
  dsimp only
  generalize hfooterBytes : leBytes 4 (zlibCrc32 (leBytes 4
    (((xzIndexBytes (xzUnpaddedSize codecs data) data.length).length + 4) / 4 - 1) ++ [0x00, 0x01]) 0) ++
      (leBytes 4 (((xzIndexBytes (xzUnpaddedSize codecs data) data.length).length + 4) / 4 - 1) ++
        ([0x00, 0x01] ++ [0x59, 0x5A])) = footer at hfooter ⊢
  have hreadIndex := readIndex_xz hunpadded hdata footer
  have hindexHead : (xzIndexBytes (xzUnpaddedSize codecs data) data.length ++
      (leBytes 4 (zlibCrc32 (xzIndexBytes (xzUnpaddedSize codecs data) data.length) 0) ++
        footer)).head? = some 0 := rfl
  generalize xzIndexBytes (xzUnpaddedSize codecs data) data.length ++
    (leBytes 4 (zlibCrc32 (xzIndexBytes (xzUnpaddedSize codecs data) data.length) 0) ++
      footer) = indexBytes at hreadIndex hindexHead ⊢
  have hreadBlock := readBlock_xz lzma2 hne hinverse hcompressed hdata indexBytes
  have hhead := xzHeaderBytes_head codecs hcompressed hdata
    (leBytes 4 (zlibCrc32 (xzHeaderBytes (codecs.lzmaCompress data).length data.length) 0) ++
      (codecs.lzmaCompress data ++ (List.replicate (padding4 (codecs.lzmaCompress data).length) 0 ++
        (leBytes 4 (zlibCrc32 data 0) ++ indexBytes))))
  generalize xzHeaderBytes (codecs.lzmaCompress data).length data.length ++
    (leBytes 4 (zlibCrc32 (xzHeaderBytes (codecs.lzmaCompress data).length data.length) 0) ++
      (codecs.lzmaCompress data ++ (List.replicate (padding4 (codecs.lzmaCompress data).length) 0 ++
        (leBytes 4 (zlibCrc32 data 0) ++ indexBytes)))) = blockBytes at hreadBlock hhead ⊢
  have hstreamHeader : Xz.checkStreamHeader (zlibCrc32 · 0) (XZ_MAGIC ++ ([0x00, 0x01] ++
      (leBytes 4 (zlibCrc32 [0x00, 0x01] 0) ++ blockBytes))) = some blockBytes := by
    have hmagic := @Xz.takeBytes_append 6 XZ_MAGIC
      ([0x00, 0x01] ++ (leBytes 4 (zlibCrc32 [0x00, 0x01] 0) ++ blockBytes)) rfl
    have hflags := @Xz.takeBytes_append 2 [0x00, 0x01]
      (leBytes 4 (zlibCrc32 [0x00, 0x01] 0) ++ blockBytes) rfl
    have hstored := leNat_leBytes (w := 4) (zlibCrc32_lt [0x00, 0x01] 0)
    have hsame : XZ_MAGIC = Xz.MAGIC := rfl
    have hcheck : ([0x00, 0x01] : Bytes) = Xz.CRC32_FLAGS := rfl
    unfold Xz.checkStreamHeader
    simp only [hmagic, hflags, Xz.takeBytes_append (length_leBytes 4 _), hstored, Option.bind_eq_bind,
      Option.bind_some, Xz.require_of hsame, Xz.require_of hcheck, Xz.require_of]
  have hblocks : Xz.readBlocks (zlibCrc32 · 0) lzma2 (blockBytes.length + 1) blockBytes =
      some ([{ unpaddedSize := xzUnpaddedSize codecs data, data := data }], indexBytes) := by
    cases hlength : blockBytes.length with
    | zero =>
      rw [List.eq_nil_of_length_eq_zero hlength] at hreadBlock
      cases hreadBlock
    | succ fuel =>
      have hrest : Xz.readBlocks (zlibCrc32 · 0) lzma2 (fuel + 1) indexBytes = some ([], indexBytes) := by
        rw [Xz.readBlocks, if_pos hindexHead]
      rw [Xz.readBlocks, if_neg hhead]
      simp only [hreadBlock, hrest, Option.bind_eq_bind, Option.bind_some]
      rfl
  unfold Xz.decode
  simp only [hstreamHeader, hblocks, hreadIndex, hfooter, Option.bind_eq_bind, Option.bind_some,
    List.map_cons, List.map_nil, Xz.Block.record, Xz.require_of, List.flatMap_cons, List.flatMap_nil,
    List.append_nil]

/-- The container is well formed for any LZMA2 codec that inverts itself, and its integers are the
shortest the format has for their values. -/
theorem decode_fragment (hne : codecs.lzmaCompress data ≠ [])
    (hinverse : lzma2 0x20000 (codecs.lzmaCompress data) = some data) (hdata : data.length < 2 ^ 63)
    (hunpadded : xzUnpaddedSize codecs data < 2 ^ 63) :
    (∃ xz, buildSquashfsXzFragment codecs data = .ok xz ∧
        Xz.decode (zlibCrc32 · 0) lzma2 xz = some data) ∧
      ∀ (value : Nat) (rest : Bytes), Xz.readVli (xzVli value ++ rest) = some (value, rest) ∧
        ((xzVli value).length = 1 ∨ 128 ^ ((xzVli value).length - 1) ≤ value) := by
  have hbuilt := buildSquashfsXzFragment_eq codecs hdata hunpadded
  have hdecoded := decode_xzStream codecs lzma2 hne hinverse hdata hunpadded
  exact ⟨⟨_, hbuilt, hdecoded⟩, fun value rest => ⟨readVli_xzVli value rest, (length_xzVli value).2⟩⟩

end Stream

-- what the codec makes of `b"abc"`: one stored chunk and the end marker
def abcCodecs : Codecs where
  zlibDecompress _ _ := none
  lzmaDecompress _ := none
  lzmaCompress data := if data = ascii "abc" then [0x01, 0x00, 0x02, 0x61, 0x62, 0x63, 0x00] else [0x00]

theorem decode_fragment_abc :
    (∃ xz, buildSquashfsXzFragment abcCodecs (ascii "abc") = .ok xz ∧
        Xz.decode (zlibCrc32 · 0) (fun _ chunks => some ((chunks.drop 3).dropLast)) xz =
          some (ascii "abc")) ∧
      ∀ (value : Nat) (rest : Bytes), Xz.readVli (xzVli value ++ rest) = some (value, rest) ∧
        ((xzVli value).length = 1 ∨ 128 ^ ((xzVli value).length - 1) ≤ value) :=
  decode_fragment abcCodecs _ (by decide) (by decide) (by decide) (by decide +kernel)

end Cc2Camera.Image
