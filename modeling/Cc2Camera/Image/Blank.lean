import Cc2Camera.Image.Minimal
import Cc2Camera.Image.Analyze

/-!
# Blank — an accepted image for every serial

`blankImage` is a flash image of zeros around a HWCONFIG record and a canonical config partition.  Under a
hash that only looks at lengths it carries the reference fingerprints, so the validator accepts it for
every serial and every supported date.
-/

open Bytes Exceptions

namespace Cc2Camera.Image

variable (codecs : Codecs)

/-! ## 1. A hash by length -/

/-- The reference digests by the length of the string they belong to, with the patched window and either stream of the
fragment. -/
def DIGESTS_BY_LENGTH : List (Nat × String) :=
  REFERENCE_SEGMENTS.map (fun segment => (segment.stop - segment.start, segment.expectedHash)) ++
    [(PATCH_SIZE, PATCHED_PATCH_SHA256),
      (ORIGINAL_FRAGMENT_XZ_SIZE, ORIGINAL_FRAGMENT_XZ_SHA256),
      (PATCHED_FRAGMENT_XZ_SIZE, PATCHED_FRAGMENT_XZ_SHA256),
      (0x200A, HWCONFIG_BEFORE_IDENTITY_SHA256),
      (0xDF8D, HWCONFIG_AFTER_UNIT_FIELDS_SHA256),
      (0x7D7F9B, NORMALIZED_INVARIANT_SHA256)]

def lengthDigest (length : Nat) : String := (DIGESTS_BY_LENGTH.lookup length).getD ""

def zeroMd5 : {digest : Bytes // digest.length = 16} := ⟨List.replicate 16 0, rfl⟩

def lengthHashlib : Hashlib where
  sha256 data := lengthDigest data.length
  md5 _ := zeroMd5

-- codecs that decode nothing: a blank unit holds no compressed data
def plainCodecs : Codecs where
  zlibDecompress _ _ := none
  lzmaDecompress _ := none
  lzmaCompress data := data

/-! ## 2. The image -/

def blankUoid : Bytes := ascii "12PSSSS3" ++ List.replicate 86 0x41

def blankRecord (date : Date) : Bytes :=
  leBytes 2 12 ++ leBytes 2 0x100 ++ List.replicate 13 0 ++ blankUoid ++ leBytes 2 date.year ++
    leBytes 1 date.month ++ leBytes 1 date.day

/-- Zeros around the record of the unit, and a config partition. -/
def unitImage (date : Date) (config : Bytes) : Bytes :=
  List.replicate HW_RECORD_START 0 ++ blankRecord date ++ List.replicate (CONFIG_START - HW_DATE_END) 0 ++ config

def blankImage (date : Date) (serial : Bytes) : Bytes := unitImage date (minimalConfig serial)

/-- An image with the record of the unit in it. -/
structure ShowsUnit (date : Date) (image : Bytes) : Prop where
  length : image.length = FLASH_SIZE
  record : slice image HW_RECORD_START HW_DATE_END = blankRecord date

theorem length_blankRecord (date : Date) : (blankRecord date).length = 115 := by
  simp [blankRecord, blankUoid, ascii]

section Blank

variable {date : Date} {config : Bytes} (hconfig : config.length = CONFIG_SIZE)
include hconfig

theorem unitImage_showsUnit : ShowsUnit date (unitImage date config) where
  length := by
    rw [unitImage, List.length_append, List.length_append, List.length_append, List.length_replicate,
      List.length_replicate, length_blankRecord, hconfig]
    rfl
  record := by
    have hstart : (List.replicate HW_RECORD_START (0 : UInt8)).length = HW_RECORD_START := List.length_replicate
    have hmiddle := slice_append_middle (List.replicate HW_RECORD_START (0 : UInt8)) (blankRecord date)
      (List.replicate (CONFIG_START - HW_DATE_END) 0 ++ config)
    rw [hstart, length_blankRecord, ← List.append_assoc] at hmiddle
    exact hmiddle

theorem slice_unitImage_config : slice (unitImage date config) CONFIG_START CONFIG_END = config := by
  have hhead : (List.replicate HW_RECORD_START 0 ++ blankRecord date ++
      List.replicate (CONFIG_START - HW_DATE_END) 0).length = CONFIG_START := by
    rw [List.length_append, List.length_append, List.length_replicate, List.length_replicate, length_blankRecord]
    rfl
  rw [unitImage, slice_append_right _ _ (by rw [hhead]), hhead, Nat.sub_self,
    show CONFIG_END - CONFIG_START = config.length by rw [hconfig]; rfl, slice_self]

end Blank

/-! ## 3. Their validation -/

/-- The lengths of what the patch is made of, in which stock and patched bytes differ. -/
def PATCHED_LENGTHS : List Nat := [PATCH_SIZE, FRAGMENT_UNCOMPRESSED_SIZE, 5699]

/-- The reference digests wherever the length decides. -/
def HashesByLength (hashlib : Hashlib) : Prop :=
  ∀ data, data.length ∉ PATCHED_LENGTHS → hashlib.sha256 data = lengthDigest data.length

section Unit

variable {hashlib : Hashlib} {date : Date} {image : Bytes} (hhash : HashesByLength hashlib)
  (h : ShowsUnit date image)

include h in
theorem ShowsUnit.slice_record {i j : Nat} (hj : j ≤ 115) :
    slice image (HW_RECORD_START + i) (HW_RECORD_START + j) = slice (blankRecord date) i j := by
  rw [← h.record, slice_slice _ (by show HW_RECORD_START + j ≤ HW_RECORD_START + 115; omega)]

def blankHwRecord : HwRecord :=
  { recordType := 12
    recordLength := 0x100
    recordEnd := HW_RECORD_PAYLOAD_START + 0x100
    extensionStart := HW_KNOWN_PAYLOAD_END
    extensionLength := 0
    extensionSha256 := lengthDigest 0 }

include hhash h in
theorem identifyHwconfigVariant_unit :
    identifyHwconfigVariant hashlib image = .ok ("type12-length256", blankHwRecord) := by
  have htype : leNat (slice image HW_RECORD_START (HW_RECORD_START + 2)) = 12 := by
    have hread := h.slice_record (i := 0) (j := 2) (by omega)
    rw [Nat.add_zero] at hread
    rw [hread]
    rfl
  have hlength : leNat (slice image (HW_RECORD_START + 2) HW_RECORD_PAYLOAD_START) = 0x100 := by
    rw [HW_RECORD_PAYLOAD_START, h.slice_record (by omega)]
    rfl
  have hempty : (slice image HW_KNOWN_PAYLOAD_END (HW_RECORD_PAYLOAD_START + 0x100)).length = 0 := by
    rw [length_slice, h.length]
    rfl
  have hextension : hashlib.sha256 (slice image HW_KNOWN_PAYLOAD_END (HW_RECORD_PAYLOAD_START + 0x100)) =
      lengthDigest 0 := by
    rw [hhash _ (by rw [hempty]; decide), hempty]
  rw [identifyHwconfigVariant, htype, hlength, raiseIf_of_not (by decide), ok_bind,
    raiseIf_of_not (by decide), ok_bind, raiseIf_of_not (by decide), ok_bind]
  have hfits : ¬CONFIG_START < HW_RECORD_PAYLOAD_START + 0x100 := by decide
  simp only [raiseIf_of_not hfits, ok_bind, hextension]
  rfl

include hhash h in
theorem segmentErrors_unit : segmentErrors hashlib image = [] := by
  rw [segmentErrors, List.flatMap_eq_nil_iff]
  intro segment hsegment
  have hlength : (slice image segment.start segment.stop).length = min segment.stop FLASH_SIZE - segment.start := by
    rw [length_slice, h.length]
  have hdigest : ∀ segment ∈ REFERENCE_SEGMENTS,
      min segment.stop FLASH_SIZE - segment.start ∉ PATCHED_LENGTHS ∧
        lengthDigest (min segment.stop FLASH_SIZE - segment.start) = segment.expectedHash := by decide
  obtain ⟨hother, hsegment⟩ := hdigest segment hsegment
  rw [hhash _ (by rw [hlength]; exact hother), hlength, if_pos hsegment]

include hhash h in
theorem normalizedErrors_unit : normalizedErrors hashlib image blankHwRecord = [] := by
  have hbefore : (normalizedHwconfigBeforeIdentity image).length = 0x200A := by
    simp only [normalizedHwconfigBeforeIdentity, List.length_append, length_slice, length_leBytes, h.length]
    rfl
  have hafter : (normalizedHwconfigAfterUnitFields image blankHwRecord).length = 0xDF8D := by
    simp only [normalizedHwconfigAfterUnitFields, List.length_append, length_slice,
      List.length_replicate, h.length]
    rfl
  have hinvariant : (invariantBytes image blankHwRecord).length = 0x7D7F9B := by
    simp only [invariantBytes, List.length_append, length_slice, length_leBytes, h.length, hafter]
    rfl
  rw [normalizedErrors, hhash _ (by rw [hbefore]; decide), hhash _ (by rw [hafter]; decide),
    hhash _ (by rw [hinvariant]; decide), hbefore, hafter, hinvariant]
  decide

include h

theorem uoidMatches_unit : uoidMatches (slice image HW_UOID_START HW_UOID_END) = true := by
  have hwindow := h.slice_record (i := 17) (j := 111) (by omega)
  rw [show HW_UOID_START = HW_RECORD_START + 17 from rfl, show HW_UOID_END = HW_RECORD_START + 111 from rfl,
    hwindow]
  have huoid : slice (blankRecord date) 17 111 = blankUoid := by
    rw [blankRecord, List.append_assoc, List.append_assoc]
    exact slice_append_middle _ _ _
  rw [huoid]
  decide

theorem decodeHwconfigDate_unit (hdate : date ∈ HW_SUPPORTED_DATES) :
    decodeHwconfigDate image = .ok date.isoformat := by
  have hlen : HW_DATE_START + 4 ≤ image.length := by
    rw [h.length]
    decide
  have hread {i j : Nat} (hj : j ≤ 4) : slice image (HW_DATE_START + i) (HW_DATE_START + j) =
      slice (blankRecord date) (111 + i) (111 + j) := by
    rw [show HW_DATE_START = HW_RECORD_START + 111 from rfl, Nat.add_assoc, Nat.add_assoc,
      h.slice_record (by omega)]
  have hfields : ∀ date ∈ HW_SUPPORTED_DATES,
      leNat (slice (blankRecord date) 111 113) = date.year ∧
        leNat (slice (blankRecord date) 113 114) = date.month ∧
        leNat (slice (blankRecord date) 114 115) = date.day ∧ date.valid = true := by decide +kernel
  obtain ⟨hyear, hmonth, hday, hok⟩ := hfields date hdate
  have hread0 := hread (i := 0) (j := 2) (by omega)
  rw [Nat.add_zero] at hread0
  rw [decodeHwconfigDate, hread0, hyear, byteAt_of_lt (by omega), ok_bind, byteAt_of_lt (by omega),
    ok_bind, u8, u8, Nat.add_assoc, Nat.add_assoc, hread (by omega), hread (by omega), hmonth, hday]
  have hvalue : ¬(!date.valid) = true := by simp [hok]
  have hsupported : ¬date ∉ HW_SUPPORTED_DATES := not_not.mpr hdate
  change (do
    raiseIf ((!date.valid) = true) _
    raiseIf (date ∉ HW_SUPPORTED_DATES) _
    .ok date.isoformat) = _
  rw [raiseIf_of_not hvalue, ok_bind, raiseIf_of_not hsupported, ok_bind]

include hhash in
/-- Whatever the patch window and a readable config partition hold. -/
theorem ShowsUnit.checks (hdate : date ∈ HW_SUPPORTED_DATES) (hsystem : systemState hashlib image ≠ .unknown)
    {allow preserve : Bool} {info : ConfigInfo}
    (hconfig : extractSerialAndConfigInfo codecs (slice image CONFIG_START CONFIG_END) allow preserve = .ok info)
    (hserial : serialPayloadIsValid info.serialPayload = true) :
    ImageChecks hashlib codecs image allow preserve "type12-length256" blankHwRecord date.isoformat info
      (minimalConfig info.serialPayload) where
  length := h.length
  variant := identifyHwconfigVariant_unit hhash h
  segments := segmentErrors_unit hhash h
  normalized := normalizedErrors_unit hhash h
  system := hsystem
  uoid := uoidMatches_unit h
  date := decodeHwconfigDate_unit h hdate
  config := hconfig
  canonical := buildMinimalConfig_of_valid codecs hserial

end Unit

/-! ## 4. The blank image is accepted -/

theorem lengthHashlib_sha256 (data : Bytes) : lengthHashlib.sha256 data = lengthDigest data.length := rfl

theorem lengthHashlib_byLength : HashesByLength lengthHashlib := fun data _ => lengthHashlib_sha256 data

section Accepted

variable {date : Date} {serial : Bytes} (hvalid : serialPayloadIsValid serial = true)
include hvalid

theorem blankImage_showsUnit : ShowsUnit date (blankImage date serial) :=
  unitImage_showsUnit (length_minimalConfig hvalid)

theorem slice_blankImage_config : slice (blankImage date serial) CONFIG_START CONFIG_END = minimalConfig serial :=
  slice_unitImage_config (length_minimalConfig hvalid)

theorem systemState_blankImage :
    systemState lengthHashlib (blankImage date serial) = .knownBashrcPatched := by
  have hsize : (slice (blankImage date serial) PATCH_START PATCH_END).length = PATCH_SIZE := by
    rw [length_slice, (blankImage_showsUnit hvalid).length]
    decide
  rw [systemState, lengthHashlib_sha256, hsize]
  decide

/-- The validator accepts the blank image of every serial and every supported date. -/
theorem blankImage_checks (hdate : date ∈ HW_SUPPORTED_DATES) (allow : Bool) :
    ∃ value, serialMatch serial = some value ∧
      ImageChecks lengthHashlib codecs (blankImage date serial) allow false "type12-length256"
        blankHwRecord date.isoformat (minimalInfo serial value) (minimalConfig serial) := by
  obtain ⟨value, hvalue, hextract⟩ := extract_minimalConfig codecs hvalid allow
  rw [← slice_blankImage_config hvalid] at hextract
  have hsystem : systemState lengthHashlib (blankImage date serial) ≠ .unknown := by
    rw [systemState_blankImage hvalid]
    decide
  exact ⟨value, hvalue,
    (blankImage_showsUnit hvalid).checks codecs lengthHashlib_byLength hdate hsystem hextract hvalid⟩

end Accepted

end Cc2Camera.Image
