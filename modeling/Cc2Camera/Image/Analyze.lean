import Cc2Camera.Image.Rebuild

/-!
# Analyze — the strict validator of a full flash image

`analyzeImage` collects every complaint before it raises, so an accepted image is one with an empty
list of complaints.
-/

open Bytes Exceptions

namespace Cc2Camera.Image

variable (hashlib : Hashlib) (codecs : Codecs)

/-! ## HWCONFIG -/

structure HwRecord where
  recordType : Nat
  recordLength : Nat
  recordEnd : Nat
  extensionStart : Nat
  extensionLength : Nat
  extensionSha256 : String
  deriving DecidableEq, Repr

def identifyHwconfigVariant (image : Bytes) : Except Exc (String × HwRecord) := do
  let recordType := leNat (slice image HW_RECORD_START (HW_RECORD_START + 2))
  let recordLength := leNat (slice image (HW_RECORD_START + 2) HW_RECORD_PAYLOAD_START)
  raiseIf (recordType ≠ 12)
    (.validationError ("HWCONFIG record has type " ++ toString recordType ++ "; expected type 12"))
  raiseIf (recordLength < 0x100)
    (.validationError ("HWCONFIG type-12 payload is shorter than its known 256-byte " ++
      "prefix (payload_length=" ++ toString recordLength ++ ")"))
  raiseIf (recordLength ∉ HW_SUPPORTED_PAYLOAD_LENGTHS)
    (.validationError ("HWCONFIG type-12 payload length is not one of the physically " ++
      "observed lengths " ++
      String.intercalate ", " (HW_SUPPORTED_PAYLOAD_LENGTHS.map toString) ++
      " (payload_length=" ++ toString recordLength ++ ")"))
  let recordEnd := HW_RECORD_PAYLOAD_START + recordLength
  raiseIf (CONFIG_START < recordEnd)
    (.validationError ("HWCONFIG type-12 payload extends beyond the HWCONFIG partition " ++
      "(payload_length=" ++ toString recordLength ++ ")"))
  .ok ("type12-length" ++ toString recordLength,
    { recordType := recordType
      recordLength := recordLength
      recordEnd := recordEnd
      extensionStart := HW_KNOWN_PAYLOAD_END
      extensionLength := recordLength - 0x100
      extensionSha256 := hashlib.sha256 (slice image HW_KNOWN_PAYLOAD_END recordEnd) })

def normalizedHwconfigBeforeIdentity (image : Bytes) : Bytes :=
  slice image 0x7D0000 (HW_RECORD_START + 2) ++ leBytes 2 0x100 ++
    slice image HW_RECORD_PAYLOAD_START HW_CHECK_START

def normalizedHwconfigAfterUnitFields (image : Bytes) (record : HwRecord) : Bytes :=
  slice image HW_DATE_END HW_KNOWN_PAYLOAD_END ++ List.replicate record.extensionLength 0 ++
    slice image record.recordEnd CONFIG_START

def invariantBytes (image : Bytes) (record : HwRecord) : Bytes :=
  slice image 0 PATCH_START ++ slice image PATCH_END (HW_RECORD_START + 2) ++ leBytes 2 0x100 ++
    slice image HW_RECORD_PAYLOAD_START HW_CHECK_START ++ slice image HW_CHECK_END HW_UOID_START ++
    normalizedHwconfigAfterUnitFields image record

def daysInMonth (year month : Nat) : Nat :=
  if month = 2 then
    if year % 4 = 0 ∧ (year % 100 ≠ 0 ∨ year % 400 = 0) then 29 else 28
  else if month ∈ [4, 6, 9, 11] then 30
  else 31

-- what the constructor `date(year, month, day)` accepts
def Date.valid (d : Date) : Bool :=
  1 ≤ d.year ∧ d.year ≤ 9999 ∧ 1 ≤ d.month ∧ d.month ≤ 12 ∧ 1 ≤ d.day ∧
    d.day ≤ daysInMonth d.year d.month

def decodeHwconfigDate (image : Bytes) : Except Exc String := do
  let year := leNat (slice image HW_DATE_START (HW_DATE_START + 2))
  let month ← byteAt image (HW_DATE_START + 2)
  let day ← byteAt image (HW_DATE_START + 3)
  let value : Date := ⟨year, month, day⟩
  raiseIf (!value.valid)
    (.validationError ("The unit-specific HWCONFIG date field is not a valid " ++
      "little-endian year/month/day value (" ++ value.isoformat ++ ")"))
  raiseIf (value ∉ HW_SUPPORTED_DATES)
    (.validationError ("The unit-specific HWCONFIG date field is not one of the physically " ++
      "observed values " ++
      String.intercalate ", " (HW_SUPPORTED_DATES.map Date.isoformat) ++
      " (value=" ++ value.isoformat ++ ")"))
  .ok value.isoformat

-- the class [A-Za-z0-9+/=]
def isBase64 (b : UInt8) : Bool :=
  isUpperAlnum b || (97 ≤ b && b ≤ 122) || b == 43 || b == 47 || b == 61

/-- `UOID_PATTERN.fullmatch(uoid)`. -/
def uoidMatches (uoid : Bytes) : Bool :=
  uoid.length = 94 ∧ slice uoid 0 7 = ascii "12PSSSS" ∧
    slice uoid 7 8 ∈ [ascii "3", ascii "4", ascii "5"] ∧ (slice uoid 8 94).all isBase64

/-! ## The whole image -/

inductive SystemState where
  | stockUnpatched
  | knownBashrcPatched
  | unknown
  deriving DecidableEq, Repr

structure Analysis where
  sourceName : String
  size : Nat
  sha256 : String
  invariantSha256 : String
  hwconfigVariant : String
  hwconfigExtensionLength : Nat
  hwconfigExtensionSha256 : String
  systemState : SystemState
  systemPatchSha256 : String
  hwconfigCheck : Bytes
  hwconfigDate : String
  uoid : Bytes
  serialPayload : Bytes
  serialValue : Bytes
  serialSource : SerialSource
  configCurrentNodeCount : Nat
  configObsoleteNodeCount : Nat
  configUnexpectedNames : List Bytes
  liveConfigFiles : Option (List ConfigFile)
  configIsCanonical : Bool
  canonicalConfigSha256 : String
  warnings : List String

/-- `try: x  except ValidationError as exc`, with `str(exc)` as the other outcome. -/
def catchValidation {α : Type} (x : Except Exc α) : Except Exc (Except String α) :=
  match x with
  | .ok a => .ok (.ok a)
  | .error (.validationError msg) => .ok (.error msg)
  | .error e => .error e

def complaint {α : Type} : Except String α → List String
  | .ok _ => []
  | .error msg => [msg]

-- "name 0xSTART-0xLAST does not match the supported reference firmware"
def segmentComplaint (name : String) (start stop : Nat) (suffix : String) : String :=
  name ++ " " ++ hex6 start ++ "-" ++ hex6 (stop - 1) ++
    " does not match the supported reference firmware" ++ suffix

def segmentErrors (image : Bytes) : List String :=
  REFERENCE_SEGMENTS.flatMap fun segment =>
    if hashlib.sha256 (slice image segment.start segment.stop) = segment.expectedHash then []
    else [segmentComplaint segment.name segment.start segment.stop ""]

def AFTER_NORMALIZING : String :=
  " after normalizing HWCONFIG unit fields and extension"

def normalizedErrors (image : Bytes) (record : HwRecord) : List String :=
  (if hashlib.sha256 (normalizedHwconfigBeforeIdentity image) = HWCONFIG_BEFORE_IDENTITY_SHA256 then []
    else [segmentComplaint "hwconfig_before_identity_check" 0x7D0000 HW_CHECK_START
      AFTER_NORMALIZING]) ++
  (if hashlib.sha256 (normalizedHwconfigAfterUnitFields image record) =
      HWCONFIG_AFTER_UNIT_FIELDS_SHA256 then []
    else [segmentComplaint "hwconfig_after_unit_fields" HW_DATE_END CONFIG_START
      AFTER_NORMALIZING]) ++
  (if hashlib.sha256 (invariantBytes image record) = NORMALIZED_INVARIANT_SHA256 then []
    else ["The combined normalized invariant firmware fingerprint does " ++
      "not match the supported reference firmware"])

def systemState (image : Bytes) : SystemState :=
  if hashlib.sha256 (slice image PATCH_START PATCH_END) = ORIGINAL_PATCH_SHA256 then .stockUnpatched
  else if hashlib.sha256 (slice image PATCH_START PATCH_END) = PATCHED_PATCH_SHA256 then
    .knownBashrcPatched
  else .unknown

def systemErrors (image : Bytes) : List String :=
  if systemState hashlib image = .unknown then
    ["The /home/bashrc.sh SquashFS patch window is neither the exact " ++
      "stock version nor the exact audited patched version"]
  else []

def uoidErrors (image : Bytes) : List String :=
  if uoidMatches (slice image HW_UOID_START HW_UOID_END) then []
  else ["The unit-specific HWCONFIG UOID field does not have the expected " ++
    "94-byte ASCII structure"]

def checkValueWarnings (image : Bytes) : List String :=
  if slice image HW_CHECK_START HW_CHECK_END ∈ [List.replicate 3 0, List.replicate 3 0xFF] then
    ["The unit-specific three-byte HWCONFIG check value is all-zero/all-FF"]
  else []

def serialSourceWarnings (info : ConfigInfo) : List String :=
  if info.serialSource ≠ .liveCurrent then
    ["serial.cfg was recovered from a unique historical JFFS2 node " ++
      "because no valid live serial entry was available"]
  else []

-- the dict `analyze_image` returns, from what its checks computed
def analysisOf (image : Bytes) (sourceName name : String) (record : HwRecord) (date : String)
    (info : ConfigInfo) (canonicalConfig : Bytes) : Analysis :=
  { sourceName := sourceName
    size := image.length
    sha256 := hashlib.sha256 image
    invariantSha256 := hashlib.sha256 (invariantBytes image record)
    hwconfigVariant := name
    hwconfigExtensionLength := record.extensionLength
    hwconfigExtensionSha256 := record.extensionSha256
    systemState := systemState hashlib image
    systemPatchSha256 := hashlib.sha256 (slice image PATCH_START PATCH_END)
    hwconfigCheck := slice image HW_CHECK_START HW_CHECK_END
    hwconfigDate := date
    uoid := slice image HW_UOID_START HW_UOID_END
    serialPayload := info.serialPayload
    serialValue := info.serialValue
    serialSource := info.serialSource
    configCurrentNodeCount := info.currentNodeCount
    configObsoleteNodeCount := info.obsoleteNodeCount
    configUnexpectedNames := info.unexpectedNames
    liveConfigFiles := info.liveConfigFiles
    configIsCanonical := slice image CONFIG_START CONFIG_END = canonicalConfig
    canonicalConfigSha256 := hashlib.sha256 canonicalConfig
    warnings := checkValueWarnings image ++ serialSourceWarnings info }

theorem analysisOf_systemState {image : Bytes} {sourceName name : String} {record : HwRecord} {date : String}
    {info : ConfigInfo} {canonicalConfig : Bytes} :
    (analysisOf hashlib image sourceName name record date info canonicalConfig).systemState =
      systemState hashlib image :=
  rfl

-- the list `errors` once every check has run
def imageErrors (image : Bytes) (variant : Except String (String × HwRecord))
    (hwconfigDate : Except String String) (configInfo : Except String ConfigInfo) : List String :=
  complaint variant ++ segmentErrors hashlib image ++
    (match variant with
      | .ok (_, record) => normalizedErrors hashlib image record
      | .error _ => []) ++
    systemErrors hashlib image ++ uoidErrors image ++ complaint hwconfigDate ++ complaint configInfo

def analyzeImage (image : Bytes) (sourceName : String)
    (allowUnknownConfig preserveConfigData : Bool) : Except Exc Analysis := do
  raiseIf (image.length ≠ FLASH_SIZE)
    (.validationError (sourceName ++ ": expected exactly " ++ toString FLASH_SIZE ++ " bytes, got " ++
      toString image.length))
  let variant ← catchValidation (identifyHwconfigVariant hashlib image)
  let hwconfigDate ← catchValidation (decodeHwconfigDate image)
  let configInfo ← catchValidation
    (extractSerialAndConfigInfo codecs (slice image CONFIG_START CONFIG_END) allowUnknownConfig
      preserveConfigData)
  let errors := imageErrors hashlib image variant hwconfigDate configInfo
  raiseIf (errors ≠ [])
    (.validationError (sourceName ++ " failed strict validation:\n  - " ++
      String.intercalate "\n  - " errors))
  let (name, record) ← variant.mapError fun _ => .typeError
  let date ← hwconfigDate.mapError fun _ => .typeError
  let info ← configInfo.mapError fun _ => .assertionError
  let canonicalConfig ← buildMinimalConfig codecs info.serialPayload
  .ok (analysisOf hashlib image sourceName name record date info canonicalConfig)

/-- What an image passed when `analyzeImage` accepts it. -/
structure ImageChecks (image : Bytes) (allowUnknownConfig preserveConfigData : Bool) (name : String)
    (record : HwRecord) (date : String) (info : ConfigInfo) (canonicalConfig : Bytes) : Prop where
  length : image.length = FLASH_SIZE
  variant : identifyHwconfigVariant hashlib image = .ok (name, record)
  segments : segmentErrors hashlib image = []
  normalized : normalizedErrors hashlib image record = []
  system : systemState hashlib image ≠ .unknown
  uoid : uoidMatches (slice image HW_UOID_START HW_UOID_END) = true
  date : decodeHwconfigDate image = .ok date
  config : extractSerialAndConfigInfo codecs (slice image CONFIG_START CONFIG_END)
    allowUnknownConfig preserveConfigData = .ok info
  canonical : buildMinimalConfig codecs info.serialPayload = .ok canonicalConfig

theorem catchValidation_eq_ok {α : Type} {x : Except Exc α} {y : Except String α} :
    catchValidation x = .ok y ↔
      (∃ a, x = .ok a ∧ y = .ok a) ∨ ∃ msg, x = .error (.validationError msg) ∧ y = .error msg := by
  cases x with
  | ok a => simp [catchValidation, eq_comm]
  | error e => cases e <;> simp [catchValidation, eq_comm]

theorem complaint_eq_nil {α : Type} {x : Except String α} : complaint x = [] ↔ ∃ a, x = .ok a := by
  cases x <;> simp [complaint]

theorem catchValidation_of_ok {α : Type} {x : Except Exc α} {a : α} (h : x = .ok a) :
    catchValidation x = .ok (.ok a) := by
  rw [h, catchValidation]

theorem imageErrors_eq_nil {image : Bytes} {variant : Except String (String × HwRecord)}
    {hwconfigDate : Except String String} {configInfo : Except String ConfigInfo} :
    imageErrors hashlib image variant hwconfigDate configInfo = [] ↔
      ∃ name record date info, variant = .ok (name, record) ∧ hwconfigDate = .ok date ∧
        configInfo = .ok info ∧ segmentErrors hashlib image = [] ∧
        normalizedErrors hashlib image record = [] ∧ systemState hashlib image ≠ .unknown ∧
        uoidMatches (slice image HW_UOID_START HW_UOID_END) = true := by
  have hsystem : systemErrors hashlib image = [] ↔ systemState hashlib image ≠ .unknown := by
    unfold systemErrors
    split <;> simp_all
  have huoid : uoidErrors image = [] ↔
      uoidMatches (slice image HW_UOID_START HW_UOID_END) = true := by
    unfold uoidErrors
    split <;> simp_all
  simp only [imageErrors, List.append_eq_nil_iff, complaint_eq_nil, hsystem, huoid]
  constructor
  · rintro ⟨⟨⟨⟨⟨⟨⟨⟨name, record⟩, rfl⟩, hs⟩, hn⟩, hsys⟩, hu⟩, date, rfl⟩, info, rfl⟩
    exact ⟨name, record, date, info, rfl, rfl, rfl, hs, hn, hsys, hu⟩
  · rintro ⟨name, record, date, info, rfl, rfl, rfl, hs, hn, hsys, hu⟩
    exact ⟨⟨⟨⟨⟨⟨⟨(name, record), rfl⟩, hs⟩, hn⟩, hsys⟩, hu⟩, date, rfl⟩, info, rfl⟩

theorem analyzeImage_eq_ok {image : Bytes} {sourceName : String} {allow preserve : Bool}
    {analysis : Analysis} :
    analyzeImage hashlib codecs image sourceName allow preserve = .ok analysis ↔
      ∃ name record date info canonical,
        ImageChecks hashlib codecs image allow preserve name record date info canonical ∧
        analysis = analysisOf hashlib image sourceName name record date info canonical := by
  constructor
  · intro h
    unfold analyzeImage at h
    obtain ⟨_, hlen, h⟩ := bind_eq_ok.mp h
    obtain ⟨variant, hvariant, h⟩ := bind_eq_ok.mp h
    obtain ⟨hwconfigDate, hdate, h⟩ := bind_eq_ok.mp h
    obtain ⟨configInfo, hinfo, h⟩ := bind_eq_ok.mp h
    obtain ⟨_, herrors, h⟩ := bind_eq_ok.mp h
    rw [raiseIf_eq_ok, not_not] at hlen herrors
    obtain ⟨name, record, date, info, rfl, rfl, rfl, hs, hn, hsys, hu⟩ :=
      (imageErrors_eq_nil hashlib).mp herrors
    change (buildMinimalConfig codecs info.serialPayload >>= _) = _ at h
    obtain ⟨canonical, hcanonical, h⟩ := bind_eq_ok.mp h
    have hv : identifyHwconfigVariant hashlib image = .ok (name, record) := by
      simpa using catchValidation_eq_ok.mp hvariant
    have hd : decodeHwconfigDate image = .ok date := by
      simpa using catchValidation_eq_ok.mp hdate
    have hc : extractSerialAndConfigInfo codecs (slice image CONFIG_START CONFIG_END) allow preserve =
        .ok info := by
      simpa using catchValidation_eq_ok.mp hinfo
    exact ⟨name, record, date, info, canonical, ⟨hlen, hv, hs, hn, hsys, hu, hd, hc, hcanonical⟩,
      (Except.ok.inj h).symm⟩
  · rintro ⟨name, record, date, info, canonical, checks, rfl⟩
    have herrors : imageErrors hashlib image (.ok (name, record)) (.ok date) (.ok info) = [] :=
      (imageErrors_eq_nil hashlib).mpr ⟨name, record, date, info, rfl, rfl, rfl, checks.segments,
        checks.normalized, checks.system, checks.uoid⟩
    unfold analyzeImage
    rw [raiseIf_of_not (not_not.mpr checks.length), ok_bind,
      catchValidation_of_ok checks.variant, ok_bind, catchValidation_of_ok checks.date, ok_bind,
      catchValidation_of_ok checks.config, ok_bind]
    change (raiseIf (imageErrors hashlib image (.ok (name, record)) (.ok date) (.ok info) ≠ []) _ >>=
      fun _ => buildMinimalConfig codecs info.serialPayload >>= _) = _
    rw [raiseIf_of_not (not_not.mpr herrors), ok_bind, checks.canonical, ok_bind]

end Cc2Camera.Image
