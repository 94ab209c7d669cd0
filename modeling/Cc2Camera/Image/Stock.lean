import Cc2Camera.Image.Blank
import Cc2Camera.Image.Layouts
import Cc2Camera.Image.SystemPatch
import Cc2Camera.Image.XzFragment

/-!
# Stock — an unpatched unit with two files in its config partition

The system window is zeros, in which a codec finds a fragment with the stock script.  The hash looks at lengths and, in
the three strings that the patch alters, at one place that it alters.
-/

open Bytes Exceptions

namespace Cc2Camera.Image

/-! ## 1. The script -/

theorem length_copyBlocks :
    ORIGINAL_COPY_BLOCK.length = 778 ∧ PATCHED_COPY_BLOCK_VISIBLE.length = 686 := by
  rw [ORIGINAL_COPY_BLOCK, PATCHED_COPY_BLOCK_VISIBLE, length_ascii, length_ascii]
  constructor
  · apply Eq.trans
    · iterate 11 apply length_joined
      all_goals exact length_literal rfl
    · rfl
  · apply Eq.trans
    · iterate 8 apply length_joined
      all_goals exact length_literal rfl
    · rfl

-- "# [" and "# C"
theorem copyBlocks_head :
    (∃ rest, ORIGINAL_COPY_BLOCK = 0x23 :: 0x20 :: 0x5B :: rest) ∧
      ∃ rest, PATCHED_COPY_BLOCK_VISIBLE = 0x23 :: 0x20 :: 0x43 :: rest := by
  constructor
  · simp only [ORIGINAL_COPY_BLOCK, ascii_append, List.append_assoc, -String.reduceAppend]
    exact ⟨_, rfl⟩
  · simp only [PATCHED_COPY_BLOCK_VISIBLE, ascii_append, List.append_assoc, -String.reduceAppend]
    exact ⟨_, rfl⟩

/-- A script of the stock length that begins with `block`. -/
def scriptWith (block : Bytes) : Bytes := block ++ List.replicate (5699 - block.length) 0x20

def stockScript : Bytes := scriptWith ORIGINAL_COPY_BLOCK

def patchedBlock : Bytes :=
  PATCHED_COPY_BLOCK_VISIBLE.dropLast ++
    List.replicate (ORIGINAL_COPY_BLOCK.length - PATCHED_COPY_BLOCK_VISIBLE.length) 0x20 ++ [0x0A]

def patchedScript : Bytes := scriptWith patchedBlock

theorem length_patchedBlock : patchedBlock.length = 778 := by
  obtain ⟨hstock, hpatched⟩ := length_copyBlocks
  rw [patchedBlock, List.length_append, List.length_append, List.length_dropLast, List.length_replicate, hstock,
    hpatched]
  rfl

theorem length_scriptWith {block : Bytes} (h : block.length = 778) : (scriptWith block).length = 5699 := by
  rw [scriptWith, List.length_append, List.length_replicate, h]

theorem length_stockScript : stockScript.length = 5699 := length_scriptWith length_copyBlocks.1

theorem length_patchedScript : patchedScript.length = 5699 := length_scriptWith length_patchedBlock

theorem stockScript_mark : stockScript[2]? = some 0x5B := by
  obtain ⟨rest, hrest⟩ := copyBlocks_head.1
  rw [stockScript, scriptWith, hrest]
  rfl

theorem patchedScript_mark : patchedScript[2]? = some 0x43 := by
  obtain ⟨rest, hrest⟩ := copyBlocks_head.2
  have hlen := length_copyBlocks.2
  rw [hrest] at hlen
  cases rest with
  | nil => cases hlen
  | cons b rest =>
    rw [patchedScript, scriptWith, patchedBlock, hrest]
    rfl

section Absent

variable {pattern replacement data : Bytes} {head : UInt8} {fuel : Nat}

theorem not_isPrefixOf_of_head {b : UInt8} (hpattern : pattern.head? = some head) (hb : b ≠ head) :
    pattern.isPrefixOf (b :: data) = false := by
  cases pattern with
  | nil => cases hpattern
  | cons c pattern =>
    cases hpattern
    rw [List.isPrefixOf, beq_eq_false_iff_ne.mpr hb.symm, Bool.false_and]

theorem countBytes_absent (hpattern : pattern.head? = some head) (hdata : ∀ b ∈ data, b ≠ head) :
    countBytes pattern fuel data = 0 := by
  induction fuel generalizing data with
  | zero => rfl
  | succ fuel ih =>
    cases data with
    | nil => rfl
    | cons b data =>
      obtain ⟨hb, hdata⟩ := List.forall_mem_cons.mp hdata
      rw [countBytes, not_isPrefixOf_of_head hpattern hb, if_neg Bool.false_ne_true, ih hdata]

theorem replaceBytes_absent (hpattern : pattern.head? = some head) (hdata : ∀ b ∈ data, b ≠ head) :
    replaceBytes pattern replacement fuel data = data := by
  induction fuel generalizing data with
  | zero => rfl
  | succ fuel ih =>
    cases data with
    | nil => rfl
    | cons b data =>
      obtain ⟨hb, hdata⟩ := List.forall_mem_cons.mp hdata
      rw [replaceBytes, not_isPrefixOf_of_head hpattern hb, if_neg Bool.false_ne_true, ih hdata]

/-- The pattern at the start, and nowhere behind it a byte that it begins with. -/
theorem countBytes_front (hpattern : pattern.head? = some head) (hdata : ∀ b ∈ data, b ≠ head) :
    countBytes pattern (fuel + 1) (pattern ++ data) = 1 := by
  cases pattern with
  | nil => cases hpattern
  | cons c pattern =>
    have hfront : (c :: pattern).isPrefixOf (c :: (pattern ++ data)) = true :=
      List.isPrefixOf_iff_prefix.mpr (List.prefix_append (c :: pattern) data)
    have hdrop : (c :: (pattern ++ data)).drop (c :: pattern).length = data := List.drop_left
    rw [List.cons_append, countBytes, if_pos hfront, hdrop, countBytes_absent hpattern hdata]

theorem replaceBytes_front (hpattern : pattern.head? = some head) (hdata : ∀ b ∈ data, b ≠ head) :
    replaceBytes pattern replacement (fuel + 1) (pattern ++ data) = replacement ++ data := by
  cases pattern with
  | nil => cases hpattern
  | cons c pattern =>
    have hfront : (c :: pattern).isPrefixOf (c :: (pattern ++ data)) = true :=
      List.isPrefixOf_iff_prefix.mpr (List.prefix_append (c :: pattern) data)
    have hdrop : (c :: (pattern ++ data)).drop (c :: pattern).length = data := List.drop_left
    rw [List.cons_append, replaceBytes, if_pos hfront, hdrop, replaceBytes_absent hpattern hdata]

end Absent

/-! ## 2. The fragment -/

/-- A fragment of the stock size with the script where it belongs. -/
def fragmentWith (script : Bytes) : Bytes :=
  List.replicate BASHRC_FRAGMENT_OFFSET 0 ++ script ++
    List.replicate (FRAGMENT_UNCOMPRESSED_SIZE - (BASHRC_FRAGMENT_OFFSET + 5699)) 0

section Fragment

variable {script : Bytes} (h : script.length = 5699)
include h

theorem length_fragmentWith : (fragmentWith script).length = FRAGMENT_UNCOMPRESSED_SIZE := by
  rw [fragmentWith, List.length_append, List.length_append, List.length_replicate, List.length_replicate, h]
  rfl

theorem slice_fragmentWith :
    slice (fragmentWith script) BASHRC_FRAGMENT_OFFSET (BASHRC_FRAGMENT_OFFSET + 5699) = script := by
  have hmiddle := slice_append_middle (List.replicate BASHRC_FRAGMENT_OFFSET (0 : UInt8)) script
    (List.replicate (FRAGMENT_UNCOMPRESSED_SIZE - (BASHRC_FRAGMENT_OFFSET + 5699)) 0)
  rwa [List.length_replicate, h] at hmiddle

theorem fragmentWith_mark : (fragmentWith script)[BASHRC_FRAGMENT_OFFSET + 2]? = script[2]? := by
  rw [fragmentWith, List.getElem?_append_left (by rw [List.length_append, List.length_replicate, h]; omega),
    List.getElem?_append_right (by rw [List.length_replicate]; omega), List.length_replicate,
    Nat.add_sub_cancel_left]

/-- Another script in its place. -/
theorem fragmentWith_replace (script' : Bytes) :
    slice (fragmentWith script) 0 BASHRC_FRAGMENT_OFFSET ++ script' ++
      (fragmentWith script).drop (BASHRC_FRAGMENT_OFFSET + 5699) = fragmentWith script' := by
  have hhead : (List.replicate BASHRC_FRAGMENT_OFFSET (0 : UInt8)).length = BASHRC_FRAGMENT_OFFSET :=
    List.length_replicate
  have hbefore : slice (fragmentWith script) 0 BASHRC_FRAGMENT_OFFSET = List.replicate BASHRC_FRAGMENT_OFFSET 0 := by
    rw [fragmentWith, List.append_assoc, slice_append_left _ _ (by rw [hhead]), slice_replicate _ _ (Nat.le_refl _),
      Nat.sub_zero]
  have hbehind : (fragmentWith script).drop (BASHRC_FRAGMENT_OFFSET + 5699) =
      List.replicate (FRAGMENT_UNCOMPRESSED_SIZE - (BASHRC_FRAGMENT_OFFSET + 5699)) 0 := by
    have hlength : (List.replicate BASHRC_FRAGMENT_OFFSET (0 : UInt8) ++ script).length =
        BASHRC_FRAGMENT_OFFSET + 5699 := by rw [List.length_append, hhead, h]
    rw [fragmentWith, ← hlength, List.drop_left]
  rw [hbefore, hbehind, fragmentWith]

end Fragment

/-! ## 3. Hash and codecs -/

def markedHashlib : Hashlib where
  sha256 data :=
    if data.length = PATCH_SIZE then
      if u32 data (SQUASHFS_FRAGMENT_SIZE_FIELD - PATCH_START) = PATCHED_FRAGMENT_XZ_SIZE then PATCHED_PATCH_SHA256
      else ORIGINAL_PATCH_SHA256
    else if data.length = FRAGMENT_UNCOMPRESSED_SIZE then
      if data[BASHRC_FRAGMENT_OFFSET + 2]? = some 0x43 then PATCHED_FRAGMENT_SHA256 else ORIGINAL_FRAGMENT_SHA256
    else if data.length = 5699 then
      if data[2]? = some 0x43 then PATCHED_BASHRC_SHA256 else ORIGINAL_BASHRC_SHA256
    else lengthDigest data.length
  md5 _ := zeroMd5

def stockCodecs : Codecs where
  zlibDecompress _ _ := none
  lzmaDecompress _ := some (fragmentWith stockScript)
  lzmaCompress _ := List.replicate 25508 0

section Digests

variable {data : Bytes}

theorem markedHashlib_byLength : HashesByLength markedHashlib := by
  intro data hdata
  simp only [PATCHED_LENGTHS, List.mem_cons, List.not_mem_nil, or_false, not_or] at hdata
  obtain ⟨hwindow, hfragment, hscript⟩ := hdata
  show (if _ then _ else _) = _
  rw [if_neg hwindow, if_neg hfragment, if_neg hscript]

theorem markedHashlib_window (h : data.length = PATCH_SIZE) :
    markedHashlib.sha256 data =
      if u32 data (SQUASHFS_FRAGMENT_SIZE_FIELD - PATCH_START) = PATCHED_FRAGMENT_XZ_SIZE then PATCHED_PATCH_SHA256
      else ORIGINAL_PATCH_SHA256 := if_pos h

theorem markedHashlib_fragment (h : data.length = FRAGMENT_UNCOMPRESSED_SIZE) :
    markedHashlib.sha256 data =
      if data[BASHRC_FRAGMENT_OFFSET + 2]? = some 0x43 then PATCHED_FRAGMENT_SHA256 else ORIGINAL_FRAGMENT_SHA256 := by
  have hother : data.length ≠ PATCH_SIZE := by
    rw [h]
    decide
  exact (if_neg hother).trans (if_pos h)

theorem markedHashlib_script (h : data.length = 5699) :
    markedHashlib.sha256 data = if data[2]? = some 0x43 then PATCHED_BASHRC_SHA256 else ORIGINAL_BASHRC_SHA256 := by
  have hwindow : data.length ≠ PATCH_SIZE := by
    rw [h]
    decide
  have hfragment : data.length ≠ FRAGMENT_UNCOMPRESSED_SIZE := by
    rw [h]
    decide
  exact (if_neg hwindow).trans ((if_neg hfragment).trans (if_pos h))

end Digests

/-! ## 4. The patched window -/

theorem patchBashrc_stock : patchBashrc markedHashlib stockScript = .ok patchedScript := by
  obtain ⟨hstock, hpatched⟩ := length_copyBlocks
  obtain ⟨rest, hrest⟩ := copyBlocks_head.1
  have hhead : ORIGINAL_COPY_BLOCK.head? = some 0x23 := by rw [hrest]; rfl
  have hblank : ∀ b ∈ List.replicate (5699 - ORIGINAL_COPY_BLOCK.length) (0x20 : UInt8), b ≠ 0x23 := by
    intro b hb
    rw [List.eq_of_mem_replicate hb]
    decide
  have hcount : countBytes ORIGINAL_COPY_BLOCK 5699 stockScript = 1 := countBytes_front hhead hblank
  have hreplaced : replaceBytes ORIGINAL_COPY_BLOCK patchedBlock 5699 stockScript = patchedScript := by
    rw [stockScript, scriptWith, replaceBytes_front hhead hblank, patchedScript, scriptWith, length_patchedBlock,
      hstock]
  have hblock : PATCHED_COPY_BLOCK_VISIBLE.dropLast ++
      List.replicate (ORIGINAL_COPY_BLOCK.length - PATCHED_COPY_BLOCK_VISIBLE.length) 0x20 ++ [0x0A] = patchedBlock :=
    rfl
  have hdigest : markedHashlib.sha256 stockScript = ORIGINAL_BASHRC_SHA256 := by
    rw [markedHashlib_script length_stockScript, stockScript_mark]
    decide
  have hdigest' : markedHashlib.sha256 patchedScript = PATCHED_BASHRC_SHA256 := by
    rw [markedHashlib_script length_patchedScript, patchedScript_mark, if_pos rfl]
  unfold patchBashrc
  dsimp only
  rw [length_stockScript, hcount, hblock, hreplaced, hdigest, hdigest', length_patchedScript, raiseIf_of_not (by simp),
    ok_bind, raiseIf_of_not (by simp), ok_bind, raiseIf_of_not (by omega), ok_bind, raiseIf_of_not (by simp), ok_bind,
    raiseIf_of_not (by simp), ok_bind]

def patchedFragment : Bytes := fragmentWith patchedScript

theorem length_patchedFragment : patchedFragment.length = 100167 := length_fragmentWith length_patchedScript

theorem buildSquashfsXzFragment_stock :
    ∃ xz, buildSquashfsXzFragment stockCodecs patchedFragment = .ok xz ∧ xz.length = PATCHED_FRAGMENT_XZ_SIZE := by
  have hcompressed : (stockCodecs.lzmaCompress patchedFragment).length = 25508 := List.length_replicate
  have hheader : (xzHeaderBytes 25508 100167).length = 12 := by
    simp [xzHeaderBytes, xzBlockFields, xzVli, padding4]
  have hindex : (xzIndexBytes 25528 100167).length = 8 := by simp [xzIndexBytes, xzRecords, xzVli, padding4]
  have hunpadded : xzUnpaddedSize stockCodecs patchedFragment = 25528 := by
    rw [xzUnpaddedSize, hcompressed, length_patchedFragment, hheader]
  refine ⟨_, buildSquashfsXzFragment_eq stockCodecs (by rw [length_patchedFragment]; decide)
    (by rw [hunpadded]; decide), ?_⟩
  unfold xzStream
  dsimp only
  simp only [List.length_append, length_leBytes, List.length_replicate, hcompressed, length_patchedFragment, hheader,
    hunpadded, hindex]
  rfl

section Window

variable {image : Bytes} (hlen : image.length = FLASH_SIZE)
include hlen

theorem stockFragment_stock : Image.stockFragment markedHashlib stockCodecs image = .ok (fragmentWith stockScript) := by
  have hxz : (slice image SQUASHFS_FRAGMENT_START (SQUASHFS_FRAGMENT_START + ORIGINAL_FRAGMENT_XZ_SIZE)).length =
      ORIGINAL_FRAGMENT_XZ_SIZE := by
    rw [length_slice, hlen]
    decide
  have hdigest : markedHashlib.sha256
      (slice image SQUASHFS_FRAGMENT_START (SQUASHFS_FRAGMENT_START + ORIGINAL_FRAGMENT_XZ_SIZE)) =
        ORIGINAL_FRAGMENT_XZ_SHA256 := by
    rw [markedHashlib_byLength _ (by rw [hxz]; decide), hxz]
    decide
  have hfragment := length_fragmentWith length_stockScript
  have hcontent : markedHashlib.sha256 (fragmentWith stockScript) = ORIGINAL_FRAGMENT_SHA256 := by
    rw [markedHashlib_fragment hfragment, fragmentWith_mark length_stockScript, stockScript_mark]
    decide
  have hdecoded (xz : Bytes) : stockCodecs.lzmaDecompress xz = some (fragmentWith stockScript) := rfl
  unfold stockFragment
  dsimp only
  rw [hdigest, raiseIf_of_not (by simp), ok_bind, hdecoded, orRaise_some, ok_bind, hfragment, hcontent,
    raiseIf_of_not (by simp), ok_bind]

theorem patchedXz_stock :
    ∃ xz, patchedXz markedHashlib stockCodecs image = .ok xz ∧ xz.length = PATCHED_FRAGMENT_XZ_SIZE := by
  obtain ⟨xz, hbuilt, hlength⟩ := buildSquashfsXzFragment_stock
  have hdigest : markedHashlib.sha256 patchedFragment = PATCHED_FRAGMENT_SHA256 := by
    rw [patchedFragment, markedHashlib_fragment (length_fragmentWith length_patchedScript),
      fragmentWith_mark length_patchedScript, patchedScript_mark, if_pos rfl]
  have hdigest' : markedHashlib.sha256 xz = PATCHED_FRAGMENT_XZ_SHA256 := by
    rw [markedHashlib_byLength _ (by rw [hlength]; decide), hlength]
    decide
  refine ⟨xz, ?_, hlength⟩
  unfold patchedXz
  rw [stockFragment_stock hlen, ok_bind]
  dsimp only
  rw [slice_fragmentWith length_stockScript, patchBashrc_stock, ok_bind, fragmentWith_replace length_stockScript]
  change (raiseIf (markedHashlib.sha256 patchedFragment ≠ PATCHED_FRAGMENT_SHA256) _ >>= fun _ =>
    buildSquashfsXzFragment stockCodecs patchedFragment >>= _) = _
  rw [hdigest, raiseIf_of_not (by simp), ok_bind, hbuilt, ok_bind, hlength, hdigest', raiseIf_of_not (by simp), ok_bind]

/-- The stock window is patched, and the result is the audited window. -/
theorem buildSystemPatchWindow_stock
    (hstock : markedHashlib.sha256 (slice image PATCH_START PATCH_END) = ORIGINAL_PATCH_SHA256) :
    ∃ region, buildSystemPatchWindow markedHashlib stockCodecs image = .ok region ∧
      markedHashlib.sha256 region = PATCHED_PATCH_SHA256 := by
  obtain ⟨xz, hxz, hlength⟩ := patchedXz_stock hlen
  have hwindow : (slice image PATCH_START PATCH_END).length = PATCH_SIZE := by
    rw [length_slice, hlen]
    decide
  let spliced := splice (slice image PATCH_START PATCH_END) (SQUASHFS_FRAGMENT_START - PATCH_START)
    (SQUASHFS_FRAGMENT_START - PATCH_START + xz.length) xz
  have hspliced : spliced.length = PATCH_SIZE := by
    rw [length_splice_of_fit _ _ (Nat.le_add_right _ _) (by rw [hwindow, hlength]; decide) (by omega), hwindow]
  let region := splice spliced (SQUASHFS_FRAGMENT_SIZE_FIELD - PATCH_START)
    (SQUASHFS_FRAGMENT_SIZE_FIELD - PATCH_START + 4) (leBytes 4 xz.length)
  have hpacked : packInto 4 spliced (SQUASHFS_FRAGMENT_SIZE_FIELD - PATCH_START) xz.length = .ok region := by
    rw [packInto, pack_of_lt (by rw [hlength]; decide), ok_bind, raiseIf_of_not (by rw [hspliced]; decide), ok_bind]
  have hregion : region.length = PATCH_SIZE := (packInto_length hpacked).trans hspliced
  have hsize : u32 region (SQUASHFS_FRAGMENT_SIZE_FIELD - PATCH_START) = PATCHED_FRAGMENT_XZ_SIZE := by
    have hinside := slice_splice_inside spliced (leBytes 4 xz.length)
      (j := SQUASHFS_FRAGMENT_SIZE_FIELD - PATCH_START + 4)
      (show SQUASHFS_FRAGMENT_SIZE_FIELD - PATCH_START ≤ spliced.length by rw [hspliced]; decide)
    rw [length_leBytes] at hinside
    rw [u32, hinside, leNat_leBytes (by rw [hlength]; decide), hlength]
  have hdigest : markedHashlib.sha256 region = PATCHED_PATCH_SHA256 := by
    rw [markedHashlib_window hregion, if_pos hsize]
  refine ⟨region, ?_, hdigest⟩
  unfold buildSystemPatchWindow
  dsimp only
  rw [hstock, raiseIf_of_not (by simp), ok_bind, hxz, ok_bind]
  change (packInto 4 spliced (SQUASHFS_FRAGMENT_SIZE_FIELD - PATCH_START) xz.length >>= _) = _
  rw [hpacked, ok_bind, hdigest, raiseIf_of_not (by simp), ok_bind]

end Window

/-! ## 5. The config partition -/

def stockSerial : Bytes := ascii "serial=12PSSSS3AAAAAAAAAAAAAAAAAAAAAAAAAAAA\n"

def stockAttr : Bytes := ascii "adb_en:0\nfps:30\n"

def serialFile : ConfigFile :=
  { name := SERIAL_CFG, data := stockSerial, inode := 2, mode := 0x81A4, uid := 0, gid := 0, atime := 18
    mtime := 18, ctime := 18, flags := 0, direntMctime := 1, dtype := 8 }

def attrFile : ConfigFile :=
  { name := ascii "uvc.attr", data := stockAttr, inode := 3, mode := 0x81A4, uid := 0, gid := 0, atime := 18
    mtime := 20, ctime := 20, flags := 0, direntMctime := 1, dtype := 8 }

def stockFiles : List ConfigFile := [serialFile, attrFile]

-- the entries and the serial, then `uvc.attr` as it was at first and as it is now
def serialDirent : Dirent := rootDirent 4 2 1 8 SERIAL_CFG
def attrDirent : Dirent := rootDirent 5 3 1 8 (ascii "uvc.attr")
def serialNode : Inode := wholeInode 2 1 0x81A4 0 0 18 18 18 0 stockSerial
def formerAttr : Inode := wholeInode 3 1 0x81A4 0 0 18 18 18 0 (ascii "adb_en:1\nfps:15\n")
def currentAttr : Inode := wholeInode 3 2 0x81A4 0 0 18 20 20 0 stockAttr

theorem stockNodes_fit :
    (serialDirent.Fits ∧ attrDirent.Fits) ∧ serialNode.Fits ∧ formerAttr.Fits ∧ currentAttr.Fits := by
  simp only [Dirent.fits_iff, Inode.fits_iff]
  decide

def stockRecords : List Record :=
  [cleanmarkerRecord, direntRecord serialDirent stockNodes_fit.1.1, inodeRecord serialNode stockNodes_fit.2.1,
    direntRecord attrDirent stockNodes_fit.1.2, inodeRecord formerAttr stockNodes_fit.2.2.1,
    inodeRecord currentAttr stockNodes_fit.2.2.2]

def stockConfig : Bytes := laidOut (bodyOf [] stockRecords)

def stockNodes : List Node :=
  [cleanmarkerNode 0, direntNode 12 serialDirent, inodeNode 64 serialNode, direntNode 176 attrDirent,
    inodeNode 224 formerAttr, inodeNode 308 currentAttr]

def stockSerialValue : Bytes := slice stockSerial 7 43

def stockInfo : ConfigInfo := configInfo stockNodes stockSerial stockSerialValue .liveCurrent (some stockFiles)

theorem read_stockConfig : (bodyOf [] stockRecords).length = 4 * 98 ∧ parseJffs2 stockConfig = .ok stockNodes ∧
    extractSerialAndConfigInfo stockCodecs stockConfig true true = .ok stockInfo := by
  have hlength : (bodyOf [] stockRecords).length = 4 * 98 := by decide +kernel
  have hnodes : nodesOf 0 stockRecords = stockNodes := by decide +kernel
  have hparse : parseJffs2 stockConfig = .ok stockNodes := by
    rw [stockConfig, parseJffs2_bodyOf hlength (by rw [hlength]; decide) (by decide +kernel), hnodes]
  refine ⟨hlength, hparse, ?_⟩
  rw [extractSerialAndConfigInfo, hparse, ok_bind]
  decide +kernel

/-! ## 6. What the builder makes of it -/

theorem stockFiles_rebuildable : ∀ file ∈ stockFiles, Rebuildable file := by
  simp only [stockFiles, List.forall_mem_cons]
  exact ⟨⟨by decide, by decide, by decide, by decide, by decide, by decide, by decide⟩,
    ⟨by decide, by decide, by decide, by decide, by decide, by decide, by decide⟩, nofun⟩

theorem stockFiles_fit : LayoutFits (align4 encodedCleanmarker.length) stockFiles := by
  rw [length_encodedCleanmarker]
  exact ⟨by decide, by decide, by decide, by decide, trivial⟩

theorem stockFiles_storable : ∀ file ∈ stockFiles, Storable file :=
  storable_of_fits stockFiles_rebuildable stockFiles_fit

def rebuiltRecords : List Record := cleanmarkerRecord :: recordsOf stockFiles stockFiles_storable

def rebuiltStock : Bytes := laidOut (bodyOf [] rebuiltRecords)

def rebuiltNodes : List Node := cleanmarkerNode 0 :: fileNodes 12 stockFiles

def rebuiltInfo : ConfigInfo := configInfo rebuiltNodes stockSerial stockSerialValue .liveCurrent (some stockFiles)

theorem read_rebuiltStock : (bodyOf [] rebuiltRecords).length = 4 * 77 ∧ parseJffs2 rebuiltStock = .ok rebuiltNodes ∧
    extractSerialAndConfigInfo stockCodecs rebuiltStock true true = .ok rebuiltInfo := by
  have hlength : (bodyOf [] rebuiltRecords).length = 4 * 77 := by decide +kernel
  have hnodes : nodesOf 0 rebuiltRecords = rebuiltNodes := by decide +kernel
  have hparse : parseJffs2 rebuiltStock = .ok rebuiltNodes := by
    rw [rebuiltStock, parseJffs2_bodyOf hlength (by rw [hlength]; decide) (by decide +kernel), hnodes]
  refine ⟨hlength, hparse, ?_⟩
  rw [extractSerialAndConfigInfo, hparse, ok_bind]
  decide +kernel

theorem buildPreservedConfig_stock : buildPreservedConfig stockCodecs stockFiles = .ok rebuiltStock := by
  have hsorted : sortByName stockFiles = stockFiles := by decide
  have hlaid := layoutFiles_eq stockFiles_storable stockFiles_fit
  have hcursor : align4 encodedCleanmarker.length = 12 := by
    rw [length_encodedCleanmarker]
    rfl
  have hbody (records : List Record) :
      bodyOf [] (cleanmarkerRecord :: records) = bodyOf encodedCleanmarker records := rfl
  have hbuilt : laidOut (bodyOf encodedCleanmarker (recordsOf stockFiles stockFiles_storable)) = rebuiltStock := by
    rw [rebuiltStock, rebuiltRecords, hbody]
  rw [hbuilt, hcursor] at hlaid
  have hlive : rebuiltInfo.liveConfigFiles = some stockFiles := rfl
  unfold buildPreservedConfig
  rw [hsorted]
  dsimp only
  rw [raiseIf_of_not (by decide), ok_bind, raiseIf_of_not (by decide), ok_bind,
    raiseIf_of_not (by decide), ok_bind, encodeCleanmarker_eq, ok_bind, splice_cleanmarker, hlaid, ok_bind]
  dsimp only
  rw [read_rebuiltStock.2.2, ok_bind, hlive, orRaise_some, ok_bind, raiseIf_of_not (by decide), ok_bind,
    raiseIf_of_not (by decide), ok_bind]

end Cc2Camera.Image
