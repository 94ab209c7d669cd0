import Cc2Camera.Image.Analyze

/-!
# SystemPatch — rebuilding the audited SquashFS window

The window is rebuilt from source: decompress the stock fragment, replace one block of `bashrc.sh` by a
block of the same length, compress it into a hand-written XZ container and splice it over the old one.
-/

open Bytes Exceptions

namespace Cc2Camera.Image

variable (hashlib : Hashlib) (codecs : Codecs)

-- the complete human-readable source transformation
def ORIGINAL_COPY_BLOCK : Bytes :=
  ascii
    ("# [ ! -f /etc/conf.d/uvc.attr ] && cp /system/config/uvc.attr /etc/conf.d/uvc.attr\n" ++
      "# [ ! -f /etc/conf.d/uvc.config ] && cp /system/config/uvc.config /etc/conf.d/uvc.config\n" ++
      "# [ ! -f /etc/conf.d/dev_config.cfg ] && cp /system/config/dev_config.cfg /etc/conf.d/dev_config.cfg\n" ++
      "cp /system/config/uvc.attr /etc/conf.d/uvc.attr\n" ++
      "cp /system/config/uvc2.attr /etc/conf.d/uvc2.attr\n" ++
      "cp /system/config/uvc_dualstream.config /etc/conf.d/uvc.config\n" ++
      "cp /system/config/uvc_dualstream.config /etc/conf.d/uvc_dualstream.config\n" ++
      "cp /system/config/dev_config.cfg /etc/conf.d/dev_config.cfg\n" ++
      "\n" ++
      "# [ ! -f /etc/conf.d/uvc2.attr ] && cp /system/config/uvc2.attr /etc/conf.d/uvc2.attr\n" ++
      "# [ ! -f /etc/conf.d/uvc_dualstream.config ] && cp /system/config/uvc_dualstream.config /etc/conf.d/uvc_dualstream.config\n" ++
      "\n")

def PATCHED_COPY_BLOCK_VISIBLE : Bytes :=
  ascii
    ("# Copy defaults only when absent.  The original unconditional copies\n" ++
      "# consume JFFS2 space on every boot, while this firmware cannot reclaim it.\n" ++
      "[ -f /etc/conf.d/uvc.attr ] || cp /system/config/uvc.attr /etc/conf.d/uvc.attr\n" ++
      "[ -f /etc/conf.d/uvc2.attr ] || cp /system/config/uvc2.attr /etc/conf.d/uvc2.attr\n" ++
      "[ -f /etc/conf.d/uvc.config ] || cp /system/config/uvc_dualstream.config /etc/conf.d/uvc.config\n" ++
      "[ -f /etc/conf.d/uvc_dualstream.config ] || cp /system/config/uvc_dualstream.config /etc/conf.d/uvc_dualstream.config\n" ++
      "[ -f /etc/conf.d/dev_config.cfg ] || cp /system/config/dev_config.cfg /etc/conf.d/dev_config.cfg\n" ++
      "\n" ++
      "# SquashFS in-place patch padding; keep bashrc.sh length unchanged.\n")

/-! ## The XZ container -/

/-- `-length % 4`: the padding up to a multiple of four. -/
def padding4 (length : Nat) : Nat := (4 - length % 4) % 4

/-- An XZ variable-length integer. -/
def xzVli (value : Nat) : Bytes :=
  if value / 128 = 0 then [UInt8.ofNat (value % 128)]
  else UInt8.ofNat (value % 128 + 128) :: xzVli (value / 128)
termination_by value
decreasing_by omega

def XZ_MAGIC : Bytes := [0xFD, 0x37, 0x7A, 0x58, 0x5A, 0x00]

-- the block header without its size byte and its CRC
def xzBlockFields (compressedSize uncompressedSize : Nat) : Bytes :=
  [0x00, 0xC0] ++ xzVli compressedSize ++ xzVli uncompressedSize ++ [0x21, 0x01, 0x0A]

def xzBlockHeader (compressedSize uncompressedSize : Nat) : Except Exc Bytes := do
  let fields := xzBlockFields compressedSize uncompressedSize
  let padded := fields ++ List.replicate (padding4 (fields.length + 4)) 0
  let sizeByte := (padded.length + 4) / 4 - 1
  raiseIf (256 ≤ sizeByte) .valueError
  let header := splice padded 0 1 [UInt8.ofNat sizeByte]
  let crc ← pack 4 (zlibCrc32 header 0)
  .ok (header ++ crc)

def xzIndex (unpaddedSize uncompressedSize : Nat) : Except Exc Bytes := do
  let records := [0x00, 0x01] ++ xzVli unpaddedSize ++ xzVli uncompressedSize
  let padded := records ++ List.replicate (padding4 records.length) 0
  let crc ← pack 4 (zlibCrc32 padded 0)
  .ok (padded ++ crc)

def buildSquashfsXzFragment (data : Bytes) : Except Exc Bytes := do
  let compressed := codecs.lzmaCompress data
  -- CRC32 check type
  let streamFlags : Bytes := [0x00, 0x01]
  let flagsCrc ← pack 4 (zlibCrc32 streamFlags 0)
  let streamHeader := XZ_MAGIC ++ streamFlags ++ flagsCrc
  let blockHeader ← xzBlockHeader compressed.length data.length
  let check ← pack 4 (zlibCrc32 data 0)
  let block := blockHeader ++ compressed ++ List.replicate (padding4 compressed.length) 0 ++ check
  let index ← xzIndex (blockHeader.length + compressed.length + 4) data.length
  let backwardSize ← pack 4 (index.length / 4 - 1)
  let footerFields := backwardSize ++ streamFlags
  let footerCrc ← pack 4 (zlibCrc32 footerFields 0)
  .ok (streamHeader ++ block ++ index ++ (footerCrc ++ footerFields ++ ascii "YZ"))

/-! ## The script -/

-- `data.replace(pattern, replacement)`
def replaceBytes (pattern replacement : Bytes) : Nat → Bytes → Bytes
  | 0, data => data
  | _ + 1, [] => []
  | fuel + 1, b :: bs =>
    if pattern.isPrefixOf (b :: bs) then
      replacement ++ replaceBytes pattern replacement fuel ((b :: bs).drop pattern.length)
    else b :: replaceBytes pattern replacement fuel bs

def patchBashrc (original : Bytes) : Except Exc Bytes := do
  raiseIf (hashlib.sha256 original ≠ ORIGINAL_BASHRC_SHA256)
    (.validationError "Extracted bashrc.sh failed its stock SHA-256 check")
  raiseIf (countBytes ORIGINAL_COPY_BLOCK original.length original ≠ 1)
    (.validationError "Stock bashrc.sh does not contain one exact copy block")
  raiseIf (ORIGINAL_COPY_BLOCK.length < PATCHED_COPY_BLOCK_VISIBLE.length)
    (.validationError "Internal bashrc replacement is too large")
  let padding := ORIGINAL_COPY_BLOCK.length - PATCHED_COPY_BLOCK_VISIBLE.length
  let replacement := PATCHED_COPY_BLOCK_VISIBLE.dropLast ++ List.replicate padding 0x20 ++ [0x0A]
  let patched := replaceBytes ORIGINAL_COPY_BLOCK replacement original.length original
  raiseIf (patched.length ≠ original.length)
    (.validationError "Internal bashrc patch changed the script length")
  raiseIf (hashlib.sha256 patched ≠ PATCHED_BASHRC_SHA256)
    (.validationError "Generated bashrc.sh failed its patched SHA-256 check")
  .ok patched

/-! ## The window -/

def stockFragment (image : Bytes) : Except Exc Bytes := do
  let originalXz := slice image SQUASHFS_FRAGMENT_START
    (SQUASHFS_FRAGMENT_START + ORIGINAL_FRAGMENT_XZ_SIZE)
  raiseIf (hashlib.sha256 originalXz ≠ ORIGINAL_FRAGMENT_XZ_SHA256)
    (.validationError "Stock SquashFS fragment failed its SHA-256 check")
  let fragment ← orRaise (codecs.lzmaDecompress originalXz)
    (.validationError "Stock SquashFS fragment failed to decompress")
  raiseIf (fragment.length ≠ FRAGMENT_UNCOMPRESSED_SIZE ∨
      hashlib.sha256 fragment ≠ ORIGINAL_FRAGMENT_SHA256)
    (.validationError "Stock SquashFS fragment content is not the audited version")
  .ok fragment

def patchedXz (image : Bytes) : Except Exc Bytes := do
  let fragment ← stockFragment hashlib codecs image
  let bashrcEnd := BASHRC_FRAGMENT_OFFSET + 5699
  let patchedScript ← patchBashrc hashlib (slice fragment BASHRC_FRAGMENT_OFFSET bashrcEnd)
  let patchedFragment := slice fragment 0 BASHRC_FRAGMENT_OFFSET ++ patchedScript ++
    fragment.drop bashrcEnd
  raiseIf (hashlib.sha256 patchedFragment ≠ PATCHED_FRAGMENT_SHA256)
    (.validationError "Patched SquashFS fragment failed its content hash")
  let xz ← buildSquashfsXzFragment codecs patchedFragment
  raiseIf (xz.length ≠ PATCHED_FRAGMENT_XZ_SIZE ∨ hashlib.sha256 xz ≠ PATCHED_FRAGMENT_XZ_SHA256)
    (.validationError ("Deterministic XZ output differs from the audited patched fragment; " ++
      "check the Python/liblzma implementation"))
  .ok xz

def buildSystemPatchWindow (image : Bytes) : Except Exc Bytes := do
  let stockWindow := slice image PATCH_START PATCH_END
  raiseIf (hashlib.sha256 stockWindow ≠ ORIGINAL_PATCH_SHA256)
    (.validationError "Refusing to patch a non-stock system window")
  let xz ← patchedXz hashlib codecs image
  let fragmentRelative := SQUASHFS_FRAGMENT_START - PATCH_START
  -- the shorter stream leaves the old trailing bytes untouched
  let window := splice stockWindow fragmentRelative (fragmentRelative + xz.length) xz
  let window ← packInto 4 window (SQUASHFS_FRAGMENT_SIZE_FIELD - PATCH_START) xz.length
  raiseIf (hashlib.sha256 window ≠ PATCHED_PATCH_SHA256)
    (.validationError "Generated system window failed its audited SHA-256")
  .ok window

def applySystemPatch (image : Bytes) (state : SystemState) : Except Exc (Bytes × Bool) :=
  match state with
  | .knownBashrcPatched => .ok (slice image PATCH_START PATCH_END, false)
  | .stockUnpatched => do
    let window ← buildSystemPatchWindow hashlib codecs image
    .ok (window, true)
  | .unknown => .error (.validationError "Cannot patch system state 'unknown'")

theorem patchedXz_length {image xz : Bytes} (h : patchedXz hashlib codecs image = .ok xz) :
    xz.length = PATCHED_FRAGMENT_XZ_SIZE := by
  unfold patchedXz at h
  obtain ⟨fragment, _, h⟩ := bind_eq_ok.mp h
  obtain ⟨script, _, h⟩ := bind_eq_ok.mp h
  obtain ⟨_, _, h⟩ := bind_eq_ok.mp h
  obtain ⟨built, _, h⟩ := bind_eq_ok.mp h
  obtain ⟨_, hlength, h⟩ := bind_eq_ok.mp h
  rw [raiseIf_eq_ok, not_or, not_not] at hlength
  rw [← Except.ok.inj h]
  exact hlength.1

/-- A window is rebuilt at its own length, whatever the codec produced. -/
theorem applySystemPatch_length {image region : Bytes} {state : SystemState} {changed : Bool}
    (hlen : image.length = FLASH_SIZE)
    (h : applySystemPatch hashlib codecs image state = .ok (region, changed)) :
    region.length = PATCH_SIZE := by
  have hstock : (slice image PATCH_START PATCH_END).length = PATCH_SIZE := by
    rw [length_slice, hlen]
    decide
  cases state with
  | knownBashrcPatched =>
    rw [← (Prod.mk.inj (Except.ok.inj h)).1]
    exact hstock
  | unknown => exact absurd h (by simp [applySystemPatch])
  | stockUnpatched =>
    obtain ⟨window, hwindow, h⟩ := bind_eq_ok.mp h
    rw [← (Prod.mk.inj (Except.ok.inj h)).1]
    unfold buildSystemPatchWindow at hwindow
    obtain ⟨_, _, hwindow⟩ := bind_eq_ok.mp hwindow
    obtain ⟨xz, hxz, hwindow⟩ := bind_eq_ok.mp hwindow
    obtain ⟨packed, hpacked, hwindow⟩ := bind_eq_ok.mp hwindow
    obtain ⟨_, _, hwindow⟩ := bind_eq_ok.mp hwindow
    have hxzlen := patchedXz_length hashlib codecs hxz
    rw [← Except.ok.inj hwindow, packInto_length hpacked, length_splice_of_fit]
    · exact hstock
    · exact Nat.le_add_right _ _
    · rw [hstock, hxzlen]
      decide
    · rw [Nat.add_sub_cancel_left]

end Cc2Camera.Image
