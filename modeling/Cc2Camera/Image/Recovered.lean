import Cc2Camera.Backup.Preserved
import Cc2Camera.Image.Coverage
import Cc2Camera.Image.Rebuilt
import Cc2Camera.Image.Recovery
import Cc2Camera.Image.Stock
import Cc2Camera.Restore.Prepare

/-!
# Recovered — what a published recovery image is

Outside its two windows it is the input, so every field the validator reads there keeps its value; inside
the config window it is what a builder returned.  The gates of the restore command follow from these two.
-/

open Bytes Exceptions

namespace Cc2Camera.Image

variable (hashlib : Hashlib) (codecs : Codecs) (pyText : PyText) (json : JsonCodec)

/-! ## 1. Frame -/

/-- Two images that agree outside the patch window and the config window. -/
structure SameFirmware (a b : Bytes) : Prop where
  length : a.length = b.length
  before : slice a 0 PATCH_START = slice b 0 PATCH_START
  between : slice a PATCH_END CONFIG_START = slice b PATCH_END CONFIG_START

theorem slice_eq_of_slice_eq {a b : Bytes} {i j k l : Nat} (h : slice a i j = slice b i j)
    (hi : i ≤ k) (hj : l ≤ j) : slice a k l = slice b k l := by
  rw [slice_eq_slice_iff] at h ⊢
  intro m hkm hml
  exact h m (by omega) (by omega)

section Frame

variable {a b : Bytes} (h : SameFirmware a b)
include h

theorem SameFirmware.slice_between {i j : Nat} (hi : PATCH_END ≤ i) (hj : j ≤ CONFIG_START) :
    slice a i j = slice b i j := slice_eq_of_slice_eq h.between hi hj

theorem SameFirmware.byteAt_between {i : Nat} (hi : PATCH_END ≤ i) (hj : i < CONFIG_START) :
    byteAt a i = byteAt b i := by
  rw [byteAt, byteAt, (slice_eq_slice_iff _ _ _ _).mp h.between i hi hj]

theorem SameFirmware.getElem? (hlen : b.length = FLASH_SIZE) {i : Nat}
    (hpatch : ¬(PATCH_START ≤ i ∧ i < PATCH_END)) (hconfig : ¬(CONFIG_START ≤ i ∧ i < CONFIG_END)) :
    a[i]? = b[i]? := by
  by_cases hbefore : i < PATCH_START
  · exact (slice_eq_slice_iff _ _ _ _).mp h.before i (Nat.zero_le i) hbefore
  · by_cases hbetween : i < CONFIG_START
    · exact (slice_eq_slice_iff _ _ _ _).mp h.between i (by omega) hbetween
    · -- both images end with the config partition
      have hflash : FLASH_SIZE ≤ i := by
        show CONFIG_END ≤ i
        omega
      rw [List.getElem?_eq_none (by rw [h.length, hlen]; exact hflash),
        List.getElem?_eq_none (by rw [hlen]; exact hflash)]

theorem SameFirmware.identifyHwconfigVariant :
    identifyHwconfigVariant hashlib a = identifyHwconfigVariant hashlib b := by
  unfold Image.identifyHwconfigVariant
  rw [h.slice_between (i := HW_RECORD_START) (by decide) (by decide),
    h.slice_between (i := HW_RECORD_START + 2) (by decide) (by decide)]
  generalize leNat (slice b (HW_RECORD_START + 2) HW_RECORD_PAYLOAD_START) = recordLength
  simp only
  -- the extension is hashed only once it is known to end before the config partition
  by_cases hend : CONFIG_START < HW_RECORD_PAYLOAD_START + recordLength
  · simp only [raiseIf_of hend, error_bind]
  · rw [h.slice_between (i := HW_KNOWN_PAYLOAD_END) (by decide) (Nat.le_of_not_lt hend)]

theorem SameFirmware.decodeHwconfigDate : decodeHwconfigDate a = decodeHwconfigDate b := by
  unfold Image.decodeHwconfigDate
  rw [h.slice_between (i := HW_DATE_START) (by decide) (by decide),
    h.byteAt_between (i := HW_DATE_START + 2) (by decide) (by decide),
    h.byteAt_between (i := HW_DATE_START + 3) (by decide) (by decide)]

end Frame

section Windows

variable {image region config : Bytes} (hlen : image.length = FLASH_SIZE)
  (hregion : region.length = PATCH_SIZE) (hconfig : config.length = CONFIG_SIZE)
include hlen hregion hconfig

-- the input once its patch window is assigned
omit hconfig in
theorem length_patched : (splice image PATCH_START PATCH_END region).length = FLASH_SIZE := by
  rw [length_splice_of_fit _ _ (by decide) (by rw [hlen]; decide) hregion, hlen]

theorem length_recoveryImage : (recoveryImage image region config).length = FLASH_SIZE := by
  have hpatched := length_patched hlen hregion
  rw [recoveryImage, length_splice_of_fit _ _ (by decide) (by rw [hpatched]; decide) hconfig, hpatched]

theorem sameFirmware_recoveryImage : SameFirmware (recoveryImage image region config) image where
  length := by rw [length_recoveryImage hlen hregion hconfig, hlen]
  before := by
    have hpatched := length_patched hlen hregion
    rw [recoveryImage, slice_splice_before _ _ (by rw [hpatched]; decide) (by decide),
      slice_splice_before _ _ (by rw [hlen]; decide) (by decide)]
  between := by
    have hpatched := length_patched hlen hregion
    rw [recoveryImage, slice_splice_before _ _ (by rw [hpatched]; decide) (by decide),
      slice_splice_after _ _ (by decide) (by rw [hlen]; decide) hregion (by decide)]

omit hconfig in
theorem slice_recoveryImage_patch :
    slice (recoveryImage image region config) PATCH_START PATCH_END = region := by
  have hpatched := length_patched hlen hregion
  have hinside := slice_splice_inside image region (i := PATCH_START) (j := PATCH_END) (by rw [hlen]; decide)
  rw [recoveryImage, slice_splice_before _ _ (by rw [hpatched]; decide) (by decide)]
  rwa [hregion] at hinside

theorem slice_recoveryImage_config :
    slice (recoveryImage image region config) CONFIG_START CONFIG_END = config := by
  have hpatched := length_patched hlen hregion
  have hinside := slice_splice_inside (splice image PATCH_START PATCH_END region) config
    (i := CONFIG_START) (j := CONFIG_END) (by rw [hpatched]; decide)
  rwa [hconfig] at hinside

end Windows

/-- Nothing a builder lays out reaches the upgrade flag. -/
theorem upgradeFlag_erased {image config : Bytes} (h : ErasedTail config)
    (hconfig : slice image CONFIG_START CONFIG_END = config) :
    u32 image Protocol.UPGRADE_FLAG_OFFSET = 0xFFFFFFFF := by
  have hflag : slice image Protocol.UPGRADE_FLAG_OFFSET (Protocol.UPGRADE_FLAG_OFFSET + 4) =
      slice config 0x18000 0x18004 := by
    rw [← hconfig, slice_slice _ (by decide)]
    rfl
  -- the flag word is the one at 0x18000 of the partition, behind the first eraseblock
  have htail : slice config 0x18000 0x18004 =
      slice (slice config FIRST_ERASEBLOCK CONFIG_SIZE) 0x14000 0x14004 := by
    rw [slice_slice _ (by decide)]
    rfl
  rw [u32, hflag, htail, h.tail, slice_replicate _ _ (by decide)]
  rfl

/-! ## 2. What a successful build did -/

theorem checkRecovery_eq_ok {image recovery rebuiltConfig : Bytes} {mode : ConfigMode}
    {out : Analysis} :
    checkRecovery hashlib codecs image recovery rebuiltConfig mode = .ok out ↔
      (slice recovery 0 PATCH_START = slice image 0 PATCH_START ∧
        slice recovery PATCH_END CONFIG_START = slice image PATCH_END CONFIG_START ∧
        recovery.drop CONFIG_END = image.drop CONFIG_END) ∧
      analyzeImage hashlib codecs recovery "generated recovery image"
        (decide (mode = .preserveFiles)) (decide (mode = .preserveFiles)) = .ok out ∧
      out.systemState = .knownBashrcPatched ∧
      (mode = .serialOnly → out.configIsCanonical = true) ∧
      slice recovery CONFIG_START CONFIG_END = rebuiltConfig := by
  simp only [checkRecovery, bind_eq_ok, raiseIf_eq_ok, not_or, not_and, not_not, exists_const,
    Except.ok.injEq, Bool.not_eq_true', Bool.not_eq_false]
  constructor
  · rintro ⟨houtside, out', hanalyze, hstate, hcanonical, hconfig, rfl⟩
    exact ⟨houtside, hanalyze, hstate, hcanonical, hconfig⟩
  · rintro ⟨houtside, hanalyze, hstate, hcanonical, hconfig⟩
    exact ⟨houtside, out, hanalyze, hstate, hcanonical, hconfig, rfl⟩

/-- The steps of a successful rebuild, with the two windows it assigned. -/
structure RebuildSteps (image : Bytes) (analysis : Analysis) (mode : ConfigMode)
    (recovery : Recovery) (region config : Bytes) (changed : Bool) : Prop where
  patch : applySystemPatch hashlib codecs image analysis.systemState = .ok (region, changed)
  serial : serialPayloadIsValid analysis.serialPayload = true
  rebuilt : rebuildConfig codecs analysis mode (minimalConfig analysis.serialPayload) = .ok config
  check : checkRecovery hashlib codecs image (recoveryImage image region config) config mode =
    .ok recovery.outputAnalysis
  result : recovery =
    { analysis := analysis
      outputAnalysis := recovery.outputAnalysis
      recoveryBytes := recoveryImage image region config
      rebuiltConfig := config
      serialPayload := analysis.serialPayload
      changedRegions := changedRegions changed (slice image CONFIG_START CONFIG_END ≠ config) }

theorem rebuildImage_eq_ok {image : Bytes} {analysis : Analysis} {mode : ConfigMode}
    {recovery : Recovery} :
    rebuildImage hashlib codecs image analysis mode = .ok recovery ↔
      ∃ region config changed,
        RebuildSteps hashlib codecs image analysis mode recovery region config changed := by
  constructor
  · intro h
    obtain ⟨⟨region, changed⟩, hpatch, h⟩ := bind_eq_ok.mp h
    obtain ⟨canonical, hcanonical, h⟩ := bind_eq_ok.mp h
    obtain ⟨config, hconfig, h⟩ := bind_eq_ok.mp h
    obtain ⟨out, hcheck, h⟩ := bind_eq_ok.mp h
    obtain rfl := Except.ok.inj h
    obtain ⟨hserial, rfl⟩ := (buildMinimalConfig_eq_ok codecs).mp hcanonical
    exact ⟨region, config, changed, hpatch, hserial, hconfig, hcheck, rfl⟩
  · rintro ⟨region, config, changed, hpatch, hserial, hconfig, hcheck, hresult⟩
    rw [rebuildImage, hpatch, ok_bind]
    simp only [buildMinimalConfig_of_valid codecs hserial, ok_bind, hconfig, hcheck, ← hresult]

theorem rebuildImage_of_steps {image region config : Bytes} {analysis output : Analysis} {mode : ConfigMode}
    {changed : Bool} (hpatch : applySystemPatch hashlib codecs image analysis.systemState = .ok (region, changed))
    (hserial : serialPayloadIsValid analysis.serialPayload = true)
    (hrebuilt : rebuildConfig codecs analysis mode (minimalConfig analysis.serialPayload) = .ok config)
    (hcheck : checkRecovery hashlib codecs image (recoveryImage image region config) config mode = .ok output) :
    rebuildImage hashlib codecs image analysis mode =
      .ok
        { analysis := analysis
          outputAnalysis := output
          recoveryBytes := recoveryImage image region config
          rebuiltConfig := config
          serialPayload := analysis.serialPayload
          changedRegions := changedRegions changed (slice image CONFIG_START CONFIG_END ≠ config) } :=
  (rebuildImage_eq_ok hashlib codecs).mpr ⟨region, config, changed, hpatch, hserial, hrebuilt, hcheck, rfl⟩

theorem buildRecovery_eq_ok {disk : Disk} {inputPath outputDir : Path} {confirmationPaths : List Path}
    {options : Options} {recovery : Recovery} :
    buildRecovery hashlib codecs pyText json disk inputPath outputDir confirmationPaths options =
        .ok recovery ↔
      (options.wipeUnknownConfig && options.preserves) = false ∧
      ∃ image source confirmed analysis,
        readImageSource hashlib pyText json inputPath (disk.file inputPath) = .ok (image, source) ∧
        verifyConfirmationReads hashlib pyText json disk image confirmationPaths = .ok confirmed ∧
        analyzeImage hashlib codecs image (sourceName inputPath source)
          (options.wipeUnknownConfig || options.preserves) options.preserves = .ok analysis ∧
        (MIN_IDENTICAL_READS ≤ totalReads source confirmed ∨ options.allowFewerReads = true) ∧
        protectInputs disk outputDir (inputPath :: confirmationPaths) = .ok () ∧
        disk.lexists outputDir = false ∧ disk.stage outputDir = .ok () ∧
        rebuildImage hashlib codecs image analysis options.configMode = .ok recovery ∧
        disk.write outputDir = .ok () ∧ disk.publish outputDir = .ok () := by
  simp only [buildRecovery, bind_eq_ok, raiseIf_eq_ok, exists_const, Bool.not_eq_true, Prod.exists]
  constructor
  · rintro ⟨hmode, image, source, hread, confirmed, hconfirmed, analysis, hanalysis, hreads, _, hprotect,
      hfresh, _, hstage, r, hrebuild, _, hwrite, _, hpublish, hr⟩
    obtain rfl := Except.ok.inj hr
    refine ⟨hmode, image, source, confirmed, analysis, hread, hconfirmed, hanalysis, ?_, hprotect,
      hfresh, hstage, hrebuild, hwrite, hpublish⟩
    by_contra hfew
    rw [not_or, Nat.not_le, Bool.not_eq_true] at hfew
    simp [hfew.1, hfew.2] at hreads
  · rintro ⟨hmode, image, source, confirmed, analysis, hread, hconfirmed, hanalysis, hreads, hprotect,
      hfresh, hstage, hrebuild, hwrite, hpublish⟩
    refine ⟨hmode, image, source, hread, confirmed, hconfirmed, analysis, hanalysis, ?_, (), hprotect,
      hfresh, (), hstage, recovery, hrebuild, (), hwrite, (), hpublish, rfl⟩
    rcases hreads with hreads | hreads
    · simp [Nat.not_lt.mpr hreads]
    · simp [hreads]

/-! ## 3. Both windows -/

theorem Options.preserves_eq (options : Options) :
    decide (options.configMode = .preserveFiles) = options.preserves := rfl

section Steps

variable {hashlib codecs} {image : Bytes} {analysis : Analysis} {mode : ConfigMode}
  {recovery : Recovery} {region config : Bytes} {changed : Bool}
  (h : RebuildSteps hashlib codecs image analysis mode recovery region config changed)
include h

theorem RebuildSteps.bytes : recovery.recoveryBytes = recoveryImage image region config :=
  congrArg Recovery.recoveryBytes h.result

/-- Either builder leaves everything behind the first eraseblock erased. -/
theorem RebuildSteps.erased : ErasedTail config := by
  have hconfig := h.rebuilt
  cases mode with
  | serialOnly =>
    rw [← Except.ok.inj hconfig]
    exact minimalConfig_erasedTail h.serial
  | preserveFiles =>
    obtain ⟨files, -, hbuilt⟩ := bind_eq_ok.mp hconfig
    obtain ⟨_, _, hpreserved⟩ := buildPreservedConfig_eq_ok codecs hbuilt
    exact hpreserved.erased

theorem RebuildSteps.region_length (hlen : image.length = FLASH_SIZE) :
    region.length = PATCH_SIZE := applySystemPatch_length hashlib codecs hlen h.patch

theorem RebuildSteps.sameFirmware (hlen : image.length = FLASH_SIZE) :
    SameFirmware recovery.recoveryBytes image := by
  rw [h.bytes]
  exact sameFirmware_recoveryImage hlen (h.region_length hlen) h.erased.length

theorem RebuildSteps.configWindow (hlen : image.length = FLASH_SIZE) :
    slice recovery.recoveryBytes CONFIG_START CONFIG_END = config := by
  rw [h.bytes]
  exact slice_recoveryImage_config hlen (h.region_length hlen) h.erased.length

/-- The rebuilt partition is read as the serial of the input, in either mode. -/
theorem RebuildSteps.readsSerial {source : String} {allow : Bool} {info : ConfigInfo}
    (hanalysis : analyzeImage hashlib codecs image source allow (decide (mode = .preserveFiles)) =
      .ok analysis)
    (hinfo : extractSerialAndConfigInfo codecs config (decide (mode = .preserveFiles))
      (decide (mode = .preserveFiles)) = .ok info) :
    info.serialPayload = analysis.serialPayload := by
  have hconfig := h.rebuilt
  cases mode with
  | serialOnly =>
    obtain ⟨value, -, hextract⟩ := extract_minimalConfig codecs h.serial false
    rw [← Except.ok.inj hconfig] at hinfo
    rw [← Except.ok.inj (hextract.symm.trans hinfo)]
    rfl
  | preserveFiles =>
    obtain ⟨files, hlive, hbuilt⟩ := bind_eq_ok.mp hconfig
    obtain ⟨parsed, rebuiltFiles, hpreserved⟩ := buildPreservedConfig_eq_ok codecs hbuilt
    have hparsed : parsed = info := Except.ok.inj (hpreserved.reading.symm.trans hinfo)
    -- the files that were written hold one `serial.cfg`, with the serial of the input
    obtain ⟨name, record, date, inputInfo, canonical, hchecks, rfl⟩ :=
      (analyzeImage_eq_ok hashlib codecs).mp hanalysis
    obtain ⟨_, inputFiles, _, _, hinput, _, serial, hmem, hname, hdata⟩ :=
      extractSerialAndConfigInfo_files codecs hchecks.config
    obtain rfl : inputFiles = files := Option.some.inj (hinput.symm.trans (orRaise_eq_ok.mp hlive))
    rw [← hparsed, hpreserved.serial hmem hname, hdata]
    rfl

end Steps

/-! ## 4. Images a build leaves alone -/

/-- Assigning both windows what they hold changes nothing. -/
theorem recoveryImage_self (image : Bytes) :
    recoveryImage image (slice image PATCH_START PATCH_END) (slice image CONFIG_START CONFIG_END) =
      image := by
  rw [recoveryImage, splice_slice_self _ (by decide), splice_slice_self _ (by decide)]

-- what a build that changes nothing publishes
def unchanged (image : Bytes) (analysis output : Analysis) : Recovery :=
  { analysis := analysis
    outputAnalysis := output
    recoveryBytes := image
    rebuiltConfig := slice image CONFIG_START CONFIG_END
    serialPayload := analysis.serialPayload
    changedRegions := [] }

section Fixed

variable {image : Bytes} {source : String} {mode : ConfigMode} {analysis output : Analysis}
  {allow : Bool}

/-- A patched image whose config partition the builder would return is rebuilt to itself. -/
theorem rebuildImage_fixed
    (hanalysis : analyzeImage hashlib codecs image source allow (decide (mode = .preserveFiles)) =
      .ok analysis)
    (hstate : analysis.systemState = .knownBashrcPatched)
    (hrebuilt : rebuildConfig codecs analysis mode (minimalConfig analysis.serialPayload) =
      .ok (slice image CONFIG_START CONFIG_END))
    (houtput : analyzeImage hashlib codecs image "generated recovery image"
      (decide (mode = .preserveFiles)) (decide (mode = .preserveFiles)) = .ok output) :
    rebuildImage hashlib codecs image analysis mode = .ok (unchanged image analysis output) := by
  obtain ⟨_, _, _, info, canonical, hchecks, rfl⟩ := (analyzeImage_eq_ok hashlib codecs).mp hanalysis
  obtain ⟨_, _, _, infoOut, canonicalOut, hchecksOut, houtputEq⟩ :=
    (analyzeImage_eq_ok hashlib codecs).mp houtput
  have hserial := extractSerialAndConfigInfo_serial codecs hchecks.config
  refine (rebuildImage_eq_ok hashlib codecs).mpr
    ⟨slice image PATCH_START PATCH_END, slice image CONFIG_START CONFIG_END, false, ?_⟩
  refine
    { patch := by rw [hstate]; rfl
      serial := hserial
      rebuilt := hrebuilt
      check := ?_
      result := ?_ }
  · rw [recoveryImage_self, checkRecovery_eq_ok]
    refine ⟨⟨rfl, rfl, rfl⟩, houtput, ?_, ?_, rfl⟩
    · show output.systemState = .knownBashrcPatched
      rw [houtputEq]
      exact hstate
    · -- in the serial-only mode the partition is the canonical one of the serial it is read as
      rintro rfl
      have hconfig : minimalConfig info.serialPayload = slice image CONFIG_START CONFIG_END :=
        Except.ok.inj hrebuilt
      obtain ⟨_, -, hextract⟩ := extract_minimalConfig codecs hserial false
      have hread := hchecksOut.config
      rw [← hconfig] at hread
      have hinfo := Except.ok.inj (hextract.symm.trans hread)
      have hcanonical := ((buildMinimalConfig_eq_ok codecs).mp hchecksOut.canonical).2
      rw [← hinfo] at hcanonical
      rw [houtputEq]
      exact decide_eq_true (hconfig.symm.trans hcanonical.symm)
  · rw [unchanged, recoveryImage_self]
    simp [changedRegions]

end Fixed

/-! ## 5. The identity of the unit -/

/-- Two validations that found the same unit. -/
structure SameIdentity (a b : Analysis) : Prop where
  serialPayload : a.serialPayload = b.serialPayload
  uoid : a.uoid = b.uoid
  hwconfigCheck : a.hwconfigCheck = b.hwconfigCheck
  hwconfigDate : a.hwconfigDate = b.hwconfigDate
  hwconfigVariant : a.hwconfigVariant = b.hwconfigVariant
  hwconfigExtensionLength : a.hwconfigExtensionLength = b.hwconfigExtensionLength
  hwconfigExtensionSha256 : a.hwconfigExtensionSha256 = b.hwconfigExtensionSha256

/-- Outside the config partition the identity is read from bytes that no build changes. -/
theorem sameIdentity_of_sameFirmware {a b : Bytes} {sourceA sourceB : String}
    {allowA allowB preserveA preserveB : Bool} {analysisA analysisB : Analysis}
    (h : SameFirmware a b)
    (ha : analyzeImage hashlib codecs a sourceA allowA preserveA = .ok analysisA)
    (hb : analyzeImage hashlib codecs b sourceB allowB preserveB = .ok analysisB)
    (hserial : analysisA.serialPayload = analysisB.serialPayload) :
    SameIdentity analysisA analysisB := by
  obtain ⟨nameA, recordA, dateA, infoA, canonicalA, hchecksA, rfl⟩ :=
    (analyzeImage_eq_ok hashlib codecs).mp ha
  obtain ⟨nameB, recordB, dateB, infoB, canonicalB, hchecksB, rfl⟩ :=
    (analyzeImage_eq_ok hashlib codecs).mp hb
  have hvariant := hchecksA.variant
  rw [h.identifyHwconfigVariant, hchecksB.variant] at hvariant
  obtain ⟨rfl, rfl⟩ := Prod.mk.inj (Except.ok.inj hvariant)
  have hdate := hchecksA.date
  rw [h.decodeHwconfigDate, hchecksB.date] at hdate
  exact
    { serialPayload := hserial
      uoid := h.slice_between (by decide) (by decide)
      hwconfigCheck := h.slice_between (by decide) (by decide)
      hwconfigDate := (Except.ok.inj hdate).symm
      hwconfigVariant := rfl
      hwconfigExtensionLength := rfl
      hwconfigExtensionSha256 := rfl }

/-! ## 6. The gates -/

/-- The source name is only a label of the result. -/
theorem analyzeImage_sourceName {image : Bytes} {source : String} {allow preserve : Bool}
    {analysis : Analysis}
    (h : analyzeImage hashlib codecs image source allow preserve = .ok analysis) (name : String) :
    analyzeImage hashlib codecs image name allow preserve =
      .ok { analysis with sourceName := name } := by
  obtain ⟨variant, record, date, info, canonical, hchecks, rfl⟩ :=
    (analyzeImage_eq_ok hashlib codecs).mp h
  exact (analyzeImage_eq_ok hashlib codecs).mpr
    ⟨variant, record, date, info, canonical, hchecks, rfl⟩

/-- An accepted image has the kernel the restore preparation knows. -/
theorem validatePreparationImage_of_checks {image : Bytes} {allow preserve : Bool} {name : String}
    {record : HwRecord} {date : String} {info : ConfigInfo} {canonical : Bytes}
    (h : ImageChecks hashlib codecs image allow preserve name record date info canonical) :
    RestorePrepare.validatePreparationImage hashlib image = .ok () := by
  rw [RestorePrepare.validatePreparationImage_eq_ok]
  have hkernel : (⟨"kernel", 0x040000, 0x190000, RestorePrepare.KERNEL_SHA256⟩ : Segment) ∈
      REFERENCE_SEGMENTS := List.mem_cons_of_mem _ List.mem_cons_self
  exact ⟨h.length, mem_segments_hash hashlib h.segments hkernel⟩

theorem SameFirmware.validateReplacement {a b : Bytes} (h : SameFirmware a b)
    (hlen : b.length = FLASH_SIZE) : AdbBackup.validateReplacementAgainstBackup a b = .ok () := by
  rw [AdbBackup.validateReplacementAgainstBackup_eq_ok]
  refine ⟨h.length.trans hlen, hlen, ?_⟩
  intro range hrange
  simp only [AdbBackup.immutableRanges, List.mem_cons, List.not_mem_nil, or_false] at hrange
  rcases hrange with rfl | rfl
  · exact h.before
  · exact h.between

/-- A published recovery image is the input outside its two windows, is validated as the same unit in the
patched state, and passes every gate of the restore command when the input is the preserved backup. -/
theorem buildRecovery_passes_restore_gates {disk : Disk} {inputPath outputDir : Path}
    {confirmationPaths : List Path} {options : Options} {recovery : Recovery}
    (h : buildRecovery hashlib codecs pyText json disk inputPath outputDir confirmationPaths options =
      .ok recovery) :
    ∃ image source,
      readImageSource hashlib pyText json inputPath (disk.file inputPath) = .ok (image, source) ∧
      analyzeImage hashlib codecs image (sourceName inputPath source)
        (options.wipeUnknownConfig || options.preserves) options.preserves = .ok recovery.analysis ∧
      (recovery.recoveryBytes.length = image.length ∧
        ∀ i, ¬(0x463000 ≤ i ∧ i < 0x46B000) → ¬(0x7E0000 ≤ i ∧ i < 0x800000) →
          recovery.recoveryBytes[i]? = image[i]?) ∧
      (∀ name, ∃ output,
        analyzeImage hashlib codecs recovery.recoveryBytes name options.preserves options.preserves =
          .ok output ∧
        output.systemState = .knownBashrcPatched ∧ SameIdentity output recovery.analysis) ∧
      Protocol.validateFullRestoreImage recovery.recoveryBytes = .ok () ∧
      AdbBackup.validateReplacementAgainstBackup recovery.recoveryBytes image = .ok () ∧
      RestorePrepare.validatePreparationImage hashlib image = .ok () := by
  obtain ⟨-, image, source, confirmed, analysis, hread, -, hanalysis, -, -, -, -, hrebuild, -, -⟩ :=
    (buildRecovery_eq_ok hashlib codecs pyText json).mp h
  obtain ⟨region, config, changed, hsteps⟩ := (rebuildImage_eq_ok hashlib codecs).mp hrebuild
  obtain ⟨_, _, _, _, _, hchecks, -⟩ := (analyzeImage_eq_ok hashlib codecs).mp hanalysis
  have hlen := hchecks.length
  have hsame := hsteps.sameFirmware hlen
  have hwindow := hsteps.configWindow hlen
  have hrecorded : recovery.analysis = analysis := congrArg Recovery.analysis hsteps.result
  -- the validation of the generated image
  obtain ⟨-, houtput, hstate, -, -⟩ := (checkRecovery_eq_ok hashlib codecs).mp hsteps.check
  rw [← hsteps.bytes, Options.preserves_eq] at houtput
  have hserial : recovery.outputAnalysis.serialPayload = analysis.serialPayload := by
    obtain ⟨_, _, _, info, _, houtputChecks, houtputEq⟩ :=
      (analyzeImage_eq_ok hashlib codecs).mp houtput
    have hinfo := houtputChecks.config
    rw [hwindow] at hinfo
    rw [houtputEq]
    exact hsteps.readsSerial hanalysis hinfo
  refine ⟨image, source, hread, hrecorded ▸ hanalysis, ⟨hsame.length, ?_⟩, ?_, ?_,
    hsame.validateReplacement hlen, validatePreparationImage_of_checks hashlib codecs hchecks⟩
  · intro i hpatch hconfig
    exact hsame.getElem? hlen hpatch hconfig
  · intro name
    have hidentity := sameIdentity_of_sameFirmware hashlib codecs hsame houtput hanalysis hserial
    refine ⟨_, analyzeImage_sourceName hashlib codecs houtput name, hstate, ?_⟩
    rw [hrecorded]
    exact { hidentity with }
  · rw [Protocol.validateFullRestoreImage_eq_ok, upgradeFlag_erased hsteps.erased hwindow]
    exact ⟨hsame.length.trans hlen, by decide⟩

/-! ## 7. A build of an unpatched unit -/

-- a directory with one raw dump in it and nothing at the output path
def dumpDisk (image : Bytes) : Disk where
  file _ := { isFile := true, readBytes := .ok image, openZip := .error .badZipFile }
  resolve path := [text path.str]
  lexists _ := false
  stage _ := .ok ()
  write _ := .ok ()
  publish _ := .ok ()

def dumpPath : Path := ⟨"dump.bin", text ".bin"⟩
def recoveryDir : Path := ⟨"recovery", []⟩

-- raw dumps need no JSON
def noJson : JsonCodec where
  dumps _ := []
  loads _ := .error .valueError

def preserveOptions : Options :=
  { configMode := .preserveFiles, wipeUnknownConfig := false, allowFewerReads := true }

def stockUnit : Bytes := unitImage ⟨2026, 3, 2⟩ stockConfig

theorem length_stockConfig : stockConfig.length = CONFIG_SIZE :=
  length_laidOut (by rw [read_stockConfig.1]; decide)

theorem length_rebuiltStock : rebuiltStock.length = CONFIG_SIZE :=
  length_laidOut (by rw [read_rebuiltStock.1]; decide)

theorem stockUnit_shows : ShowsUnit ⟨2026, 3, 2⟩ stockUnit := unitImage_showsUnit length_stockConfig

theorem stockUnit_window :
    markedHashlib.sha256 (slice stockUnit PATCH_START PATCH_END) = ORIGINAL_PATCH_SHA256 := by
  have hzeros : slice stockUnit PATCH_START PATCH_END = List.replicate (PATCH_END - PATCH_START) 0 := by
    have hstart : (List.replicate HW_RECORD_START (0 : UInt8)).length = HW_RECORD_START := List.length_replicate
    rw [stockUnit, unitImage, List.append_assoc, List.append_assoc, slice_append_left _ _ (by rw [hstart]; decide),
      slice_replicate _ _ (by decide)]
  have hsize : u32 (slice stockUnit PATCH_START PATCH_END) (SQUASHFS_FRAGMENT_SIZE_FIELD - PATCH_START) = 0 := by
    rw [hzeros, u32, slice_replicate _ _ (by decide), Nat.add_sub_cancel_left]
    rfl
  have hlength : (slice stockUnit PATCH_START PATCH_END).length = PATCH_SIZE := by
    rw [hzeros, List.length_replicate]
    rfl
  rw [markedHashlib_window hlength, hsize]
  decide

/-- The window is patched, and the partition is laid out anew. -/
theorem buildRecovery_stock :
    ∃ recovery, buildRecovery markedHashlib stockCodecs plainText noJson (dumpDisk stockUnit) dumpPath recoveryDir []
        preserveOptions = .ok recovery ∧
      recovery.changedRegions.map ChangedRegion.name = ["system_bashrc_patch", "config"] := by
  have hlen := stockUnit_shows.length
  obtain ⟨region, hbuilt, hdigest⟩ := buildSystemPatchWindow_stock hlen stockUnit_window
  have hpatch : applySystemPatch markedHashlib stockCodecs stockUnit .stockUnpatched = .ok (region, true) := by
    rw [applySystemPatch, hbuilt, ok_bind]
  have hregion := applySystemPatch_length markedHashlib stockCodecs hlen hpatch
  have hsame : SameFirmware (recoveryImage stockUnit region rebuiltStock) stockUnit :=
    sameFirmware_recoveryImage hlen hregion length_rebuiltStock
  have hwindow : slice (recoveryImage stockUnit region rebuiltStock) CONFIG_START CONFIG_END = rebuiltStock :=
    slice_recoveryImage_config hlen hregion length_rebuiltStock
  have hconfig : slice stockUnit CONFIG_START CONFIG_END = stockConfig := slice_unitImage_config length_stockConfig
  -- both images are accepted
  have hstate : systemState markedHashlib stockUnit = .stockUnpatched := by
    rw [systemState, stockUnit_window, if_pos rfl]
  have hstate' : systemState markedHashlib (recoveryImage stockUnit region rebuiltStock) = .knownBashrcPatched := by
    rw [systemState, slice_recoveryImage_patch hlen hregion, hdigest]
    decide
  have hshows : ShowsUnit ⟨2026, 3, 2⟩ (recoveryImage stockUnit region rebuiltStock) :=
    ⟨hsame.length.trans hlen, (hsame.slice_between (by decide) (by decide)).trans stockUnit_shows.record⟩
  have hserial : serialPayloadIsValid stockSerial = true := by decide +kernel
  have hread : extractSerialAndConfigInfo stockCodecs (slice stockUnit CONFIG_START CONFIG_END) true true =
      .ok stockInfo := by
    rw [hconfig]
    exact read_stockConfig.2.2
  have hread' : extractSerialAndConfigInfo stockCodecs
      (slice (recoveryImage stockUnit region rebuiltStock) CONFIG_START CONFIG_END) true true = .ok rebuiltInfo := by
    rw [hwindow]
    exact read_rebuiltStock.2.2
  have hchecks := stockUnit_shows.checks stockCodecs markedHashlib_byLength (by decide) (by rw [hstate]; decide)
    hread hserial
  have hchecks' := hshows.checks stockCodecs markedHashlib_byLength (by decide) (by rw [hstate']; decide)
    hread' hserial
  obtain ⟨analysis, hanalysis⟩ : ∃ analysis, analysis = analysisOf markedHashlib stockUnit dumpPath.str
    "type12-length256" blankHwRecord (Date.isoformat ⟨2026, 3, 2⟩) stockInfo (minimalConfig stockSerial) := ⟨_, rfl⟩
  obtain ⟨output, houtput⟩ : ∃ output, output = analysisOf markedHashlib
    (recoveryImage stockUnit region rebuiltStock) "generated recovery image" "type12-length256" blankHwRecord
    (Date.isoformat ⟨2026, 3, 2⟩) rebuiltInfo (minimalConfig stockSerial) := ⟨_, rfl⟩
  have hanalyze := (analyzeImage_eq_ok markedHashlib stockCodecs).mpr ⟨_, _, _, _, _, hchecks, hanalysis⟩
  have hanalyze' := (analyzeImage_eq_ok markedHashlib stockCodecs).mpr ⟨_, _, _, _, _, hchecks', houtput⟩
  -- the steps of the build
  have hpatches : applySystemPatch markedHashlib stockCodecs stockUnit analysis.systemState = .ok (region, true) := by
    rw [hanalysis, analysisOf_systemState, hstate, hpatch]
  have hvalid : serialPayloadIsValid analysis.serialPayload = true := by
    rw [hanalysis]
    exact hserial
  have hrebuilt : rebuildConfig stockCodecs analysis .preserveFiles (minimalConfig analysis.serialPayload) =
      .ok rebuiltStock := by
    have hfiles : analysis.liveConfigFiles = some stockFiles := by
      rw [hanalysis]
      rfl
    rw [rebuildConfig, hfiles, orRaise_some, ok_bind, buildPreservedConfig_stock]
  have htail (data : Bytes) (h : data.length = FLASH_SIZE) : data.drop CONFIG_END = [] :=
    List.drop_eq_nil_of_le (Nat.le_of_eq h)
  have hpatched : output.systemState = .knownBashrcPatched := by
    rw [houtput, analysisOf_systemState, hstate']
  have hcheck : checkRecovery markedHashlib stockCodecs stockUnit (recoveryImage stockUnit region rebuiltStock)
      rebuiltStock .preserveFiles = .ok output :=
    (checkRecovery_eq_ok markedHashlib stockCodecs).mpr ⟨⟨hsame.before, hsame.between,
      (htail _ hshows.length).trans (htail _ hlen).symm⟩, hanalyze', hpatched,
      fun hmode => absurd hmode (by decide), hwindow⟩
  have hrebuild := rebuildImage_of_steps markedHashlib stockCodecs hpatches hvalid hrebuilt hcheck
  refine ⟨_, (buildRecovery_eq_ok markedHashlib stockCodecs plainText noJson).mpr
    ⟨rfl, _, _, [], _, rfl, rfl, hanalyze, .inr rfl, rfl, rfl, rfl, hrebuild, rfl, rfl⟩, ?_⟩
  have hchanged : slice stockUnit CONFIG_START CONFIG_END ≠ rebuiltStock := by
    intro heq
    have hnodes := read_stockConfig.2.1
    rw [← hconfig, heq, read_rebuiltStock.2.1] at hnodes
    exact absurd (Except.ok.inj hnodes) (by decide)
  show (changedRegions true (decide (slice stockUnit CONFIG_START CONFIG_END ≠ rebuiltStock))).map _ = _
  rw [decide_eq_true hchanged]
  rfl

/-- An unpatched unit with two files, of which the build keeps both. -/
theorem buildRecovery_passes_restore_gates_stock :
    ∃ recovery image source,
      buildRecovery markedHashlib stockCodecs plainText noJson (dumpDisk stockUnit) dumpPath recoveryDir []
        preserveOptions = .ok recovery ∧
      recovery.changedRegions.map ChangedRegion.name = ["system_bashrc_patch", "config"] ∧
      readImageSource markedHashlib plainText noJson dumpPath ((dumpDisk stockUnit).file dumpPath) =
        .ok (image, source) ∧
      Protocol.validateFullRestoreImage recovery.recoveryBytes = .ok () ∧
      AdbBackup.validateReplacementAgainstBackup recovery.recoveryBytes image = .ok () ∧
      RestorePrepare.validatePreparationImage markedHashlib image = .ok () := by
  obtain ⟨recovery, hbuild, hchanged⟩ := buildRecovery_stock
  obtain ⟨image, source, hread, -, -, -, hgates⟩ :=
    buildRecovery_passes_restore_gates markedHashlib stockCodecs plainText noJson hbuild
  exact ⟨recovery, image, source, hbuild, hchanged, hread, hgates⟩

end Cc2Camera.Image
