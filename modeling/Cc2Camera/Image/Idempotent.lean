import Cc2Camera.Image.Recovered

/-!
# Idempotent — a recovery image is a fixed point of the build

What a builder reads back from its own partition it would lay out again, so the output of a build is an
image that `rebuildImage_fixed` applies to.
-/

open Bytes Exceptions

namespace Cc2Camera.Image

variable (hashlib : Hashlib) (codecs : Codecs) (pyText : PyText) (json : JsonCodec)

/-! ## The output of a build -/

/-- Only the names a partition may hold depend on the permission. -/
theorem analyzeImage_allow {image : Bytes} {source : String} {preserve : Bool} {analysis : Analysis}
    (h : analyzeImage hashlib codecs image source false preserve = .ok analysis) (allow : Bool) :
    analyzeImage hashlib codecs image source allow preserve = .ok analysis := by
  rw [analyzeImage_eq_ok] at h ⊢
  obtain ⟨variant, record, date, info, canonical, hchecks, rfl⟩ := h
  exact ⟨variant, record, date, info, canonical,
    { hchecks with config := extractSerialAndConfigInfo_allow codecs hchecks.config allow }, rfl⟩

section Steps

variable {hashlib codecs} {image : Bytes} {analysis : Analysis} {mode : ConfigMode}
  {recovery : Recovery} {region config : Bytes} {changed : Bool}
  (h : RebuildSteps hashlib codecs image analysis mode recovery region config changed)
include h

/-- Rebuilding the config partition of a generated image gives that partition again. -/
theorem RebuildSteps.rebuildConfig_again {source : String} {allow : Bool} {again : Analysis}
    (hlen : image.length = FLASH_SIZE)
    (hagain : analyzeImage hashlib codecs recovery.recoveryBytes source allow
      (decide (mode = .preserveFiles)) = .ok again)
    (hserial : again.serialPayload = analysis.serialPayload) :
    rebuildConfig codecs again mode (minimalConfig again.serialPayload) = .ok config := by
  have hconfig := h.rebuilt
  cases mode with
  | serialOnly =>
    rw [hserial]
    exact hconfig
  | preserveFiles =>
    obtain ⟨files, -, hbuilt⟩ := bind_eq_ok.mp hconfig
    obtain ⟨parsed, rebuiltFiles, hpreserved⟩ := buildPreservedConfig_eq_ok codecs hbuilt
    obtain ⟨_, _, _, info, _, hchecks, rfl⟩ := (analyzeImage_eq_ok hashlib codecs).mp hagain
    have hread := hchecks.config
    rw [h.configWindow hlen] at hread
    obtain rfl := extractSerialAndConfigInfo_unique codecs hpreserved.reading hread
    show (orRaise parsed.liveConfigFiles .assertionError >>= buildPreservedConfig codecs) = _
    rw [hpreserved.live, orRaise_some, ok_bind]
    exact hpreserved.rebuild hbuilt

/-- A generated image is a fixed point: building it again publishes the same bytes. -/
theorem RebuildSteps.rebuildImage_again {source : String} {allow : Bool}
    (hanalysis : analyzeImage hashlib codecs image source allow (decide (mode = .preserveFiles)) =
      .ok analysis)
    {source' : String} {allow' : Bool} {again : Analysis}
    (hagain : analyzeImage hashlib codecs recovery.recoveryBytes source' allow'
      (decide (mode = .preserveFiles)) = .ok again) :
    rebuildImage hashlib codecs recovery.recoveryBytes again mode =
      .ok (unchanged recovery.recoveryBytes again recovery.outputAnalysis) := by
  obtain ⟨_, _, _, _, _, hchecks, -⟩ := (analyzeImage_eq_ok hashlib codecs).mp hanalysis
  have hlen := hchecks.length
  obtain ⟨-, houtput, hstate, -, -⟩ := (checkRecovery_eq_ok hashlib codecs).mp h.check
  rw [← h.bytes] at houtput
  obtain ⟨name, record, date, info, canonical, houtputChecks, houtputEq⟩ :=
    (analyzeImage_eq_ok hashlib codecs).mp houtput
  obtain ⟨_, _, _, infoAgain, _, hagainChecks, hagainEq⟩ :=
    (analyzeImage_eq_ok hashlib codecs).mp hagain
  -- the second validation reads the same partition, with no fewer names allowed
  have hread := houtputChecks.config
  have hreadAgain := hagainChecks.config
  rw [h.configWindow hlen] at hread hreadAgain
  have hserial : again.serialPayload = analysis.serialPayload := by
    rw [hagainEq, extractSerialAndConfigInfo_unique codecs hreadAgain hread]
    exact h.readsSerial hanalysis hread
  refine rebuildImage_fixed hashlib codecs hagain ?_ ?_ houtput
  · rw [hagainEq]
    rw [houtputEq] at hstate
    exact hstate
  · rw [h.configWindow hlen]
    exact h.rebuildConfig_again hlen hagain hserial

end Steps

/-! ## The live files -/

/-- The rebuilt partition holds the live files of `config` as they are, and one made-up `serial.cfg` only
when none of them is. -/
structure KeepsLiveFiles (config rebuilt serialPayload : Bytes) (live rebuiltFiles : List ConfigFile)
    (info : ConfigInfo) : Prop where
  input : ∃ nodes map, parseJffs2 config = .ok nodes ∧ currentDirents nodes = .ok map ∧
    reconstructLiveConfigFiles codecs nodes map = .ok live
  reading : extractSerialAndConfigInfo codecs rebuilt true true = .ok info
  files : info.liveConfigFiles = some rebuiltFiles
  obsolete : info.obsoleteNodeCount = 0
  kept : ((∃ file ∈ live, file.name = SERIAL_CFG) ∧ rebuiltFiles.Perm live) ∨
    ((∀ file ∈ live, file.name ≠ SERIAL_CFG) ∧ ∃ serial : ConfigFile, serial.name = SERIAL_CFG ∧
      serial.data = serialPayload ∧ rebuiltFiles.Perm (live ++ [serial]))

variable {hashlib codecs} in
theorem RebuildSteps.keepsLiveFiles {image : Bytes} {analysis : Analysis} {recovery : Recovery}
    {region config : Bytes} {changed : Bool} {source : String} {allow : Bool}
    (h : RebuildSteps hashlib codecs image analysis .preserveFiles recovery region config changed)
    (hanalysis : analyzeImage hashlib codecs image source allow true = .ok analysis) :
    ∃ live files info, KeepsLiveFiles codecs (slice image CONFIG_START CONFIG_END) config
      analysis.serialPayload live files info := by
  obtain ⟨files, hfiles, hbuilt⟩ := bind_eq_ok.mp h.rebuilt
  obtain ⟨parsed, rebuiltFiles, hpreserved⟩ := buildPreservedConfig_eq_ok codecs hbuilt
  obtain ⟨_, _, _, info, _, hchecks, rfl⟩ := (analyzeImage_eq_ok hashlib codecs).mp hanalysis
  -- the files that were laid out are those of the input, with a serial.cfg
  have hnodes := extractSerialAndConfigInfo_nodes codecs hchecks.config
  obtain ⟨map, read, hmap, hlaid, hread, -, -⟩ :=
    extractSerialAndConfigInfo_files codecs hchecks.config
  obtain rfl : read = files := Option.some.inj (hread.symm.trans (orRaise_eq_ok.mp hfiles))
  obtain ⟨live, hlive, hcases⟩ := liveConfigFiles_eq_ok codecs hlaid
  refine ⟨live, rebuiltFiles, parsed, ⟨info.nodes, map, hnodes, hmap, hlive⟩, hpreserved.reading,
    hpreserved.live, hpreserved.obsolete, ?_⟩
  rcases hcases with ⟨serial, hmem, hname, -, rfl⟩ | ⟨hnone, serial, hname, hdata, rfl⟩
  · exact .inl ⟨⟨serial, hmem, hname⟩, hpreserved.perm⟩
  · exact .inr ⟨hnone, serial, hname, hdata, hpreserved.perm.trans (sortByName_perm _)⟩

/-! ## Two builds -/

/-- A second build of a published recovery image: its own file system, enough reads, the same options. -/
structure SecondRun (disk : Disk) (inputPath outputDir : Path) (confirmationPaths : List Path)
    (options : Options) (image : Bytes) (source : Source) (confirmed : List ConfirmedRead) : Prop where
  input : readImageSource hashlib pyText json inputPath (disk.file inputPath) = .ok (image, source)
  reads : verifyConfirmationReads hashlib pyText json disk image confirmationPaths = .ok confirmed
  enough : MIN_IDENTICAL_READS ≤ totalReads source confirmed ∨ options.allowFewerReads = true
  apart : protectInputs disk outputDir (inputPath :: confirmationPaths) = .ok ()
  fresh : disk.lexists outputDir = false
  stage : disk.stage outputDir = .ok ()
  write : disk.write outputDir = .ok ()
  publish : disk.publish outputDir = .ok ()

/-- A recovery image built again with the same options comes out byte for byte, with no region changed; and
the preserving mode keeps the live files of the input. -/
theorem buildRecovery_idempotent {disk : Disk} {inputPath outputDir : Path}
    {confirmationPaths : List Path} {options : Options} {recovery : Recovery}
    (h : buildRecovery hashlib codecs pyText json disk inputPath outputDir confirmationPaths options =
      .ok recovery) :
    (∀ disk' inputPath' outputDir' confirmationPaths' source' confirmed',
      SecondRun hashlib pyText json disk' inputPath' outputDir' confirmationPaths' options
        recovery.recoveryBytes source' confirmed' →
      ∃ second,
        buildRecovery hashlib codecs pyText json disk' inputPath' outputDir' confirmationPaths' options =
          .ok second ∧
        second.recoveryBytes = recovery.recoveryBytes ∧ second.changedRegions = []) ∧
    (options.configMode = .preserveFiles →
      ∃ image source,
        readImageSource hashlib pyText json inputPath (disk.file inputPath) = .ok (image, source) ∧
        ∃ live files info, KeepsLiveFiles codecs (slice image CONFIG_START CONFIG_END)
          (slice recovery.recoveryBytes CONFIG_START CONFIG_END) recovery.serialPayload live files
          info) := by
  obtain ⟨hmode, image, source, confirmed, analysis, hread, -, hanalysis, -, -, -, -, hrebuild, -, -⟩ :=
    (buildRecovery_eq_ok hashlib codecs pyText json).mp h
  obtain ⟨region, config, changed, hsteps⟩ := (rebuildImage_eq_ok hashlib codecs).mp hrebuild
  obtain ⟨_, _, _, _, _, hchecks, -⟩ := (analyzeImage_eq_ok hashlib codecs).mp hanalysis
  refine ⟨?_, ?_⟩
  · intro disk' inputPath' outputDir' confirmationPaths' source' confirmed' hrun
    -- the validator of the first run accepted the image under any name
    obtain ⟨-, houtput, -, -, -⟩ := (checkRecovery_eq_ok hashlib codecs).mp hsteps.check
    rw [← hsteps.bytes, Options.preserves_eq] at houtput
    have hnamed := analyzeImage_sourceName hashlib codecs houtput (sourceName inputPath' source')
    have hagain : analyzeImage hashlib codecs recovery.recoveryBytes (sourceName inputPath' source')
        (options.wipeUnknownConfig || options.preserves) options.preserves =
          .ok { recovery.outputAnalysis with sourceName := sourceName inputPath' source' } := by
      cases hpreserves : options.preserves with
      | true =>
        rw [hpreserves] at hnamed
        rw [Bool.or_true]
        exact hnamed
      | false =>
        rw [hpreserves] at hnamed
        exact analyzeImage_allow hashlib codecs hnamed _
    refine ⟨_, (buildRecovery_eq_ok hashlib codecs pyText json).mpr ⟨hmode, _, _, _, _, hrun.input,
      hrun.reads, hagain, hrun.enough, hrun.apart, hrun.fresh, hrun.stage,
      hsteps.rebuildImage_again hanalysis hagain, hrun.write, hrun.publish⟩, rfl, rfl⟩
  · intro hpreserve
    have hpreserves : options.preserves = true := decide_eq_true hpreserve
    rw [hpreserve] at hsteps
    rw [hpreserves] at hanalysis
    obtain ⟨live, files, info, hkept⟩ := hsteps.keepsLiveFiles hanalysis
    have hserial : recovery.serialPayload = analysis.serialPayload :=
      congrArg Recovery.serialPayload hsteps.result
    rw [← hsteps.configWindow hchecks.length, ← hserial] at hkept
    exact ⟨image, source, hread, live, files, info, hkept⟩

/-- The second build of the patched unit changes nothing, and the first one kept both files of the unit. -/
theorem buildRecovery_idempotent_stock :
    ∃ recovery second,
      buildRecovery markedHashlib stockCodecs plainText noJson (dumpDisk stockUnit) dumpPath
        recoveryDir [] preserveOptions = .ok recovery ∧
      recovery.changedRegions.map ChangedRegion.name = ["system_bashrc_patch", "config"] ∧
      buildRecovery markedHashlib stockCodecs plainText noJson (dumpDisk recovery.recoveryBytes)
        dumpPath recoveryDir [] preserveOptions = .ok second ∧
      second.recoveryBytes = recovery.recoveryBytes ∧ second.changedRegions = [] ∧
      ∃ image source,
        readImageSource markedHashlib plainText noJson dumpPath ((dumpDisk stockUnit).file dumpPath) =
          .ok (image, source) ∧
        ∃ live files info, KeepsLiveFiles stockCodecs (slice image CONFIG_START CONFIG_END)
          (slice recovery.recoveryBytes CONFIG_START CONFIG_END) recovery.serialPayload live files
          info := by
  obtain ⟨recovery, hbuild, hchanged⟩ := buildRecovery_stock
  obtain ⟨hsecond, hkeeps⟩ :=
    buildRecovery_idempotent markedHashlib stockCodecs plainText noJson hbuild
  obtain ⟨second, hrun, hbytes, hregions⟩ := hsecond (dumpDisk recovery.recoveryBytes) dumpPath
    recoveryDir [] _ []
    { input := rfl, reads := rfl, enough := .inr rfl, apart := rfl, fresh := rfl, stage := rfl
      write := rfl, publish := rfl }
  exact ⟨recovery, second, hbuild, hchanged, hrun, hbytes, hregions, hkeeps rfl⟩

end Cc2Camera.Image
