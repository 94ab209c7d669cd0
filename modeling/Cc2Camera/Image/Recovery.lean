import Cc2Camera.Image.Source
import Cc2Camera.Image.SystemPatch

/-!
# Recovery — `build_recovery`, from the reads that evidence an image to the published directory

The reports and the flashing instructions are left out; the images written, the regions reported as
changed and every check on the way are here in the order of the source.
-/

open Bytes Exceptions

namespace Cc2Camera.Image

variable (hashlib : Hashlib) (codecs : Codecs) (pyText : PyText) (json : JsonCodec)

/-- The file system as one run of the builder sees it. -/
structure Disk where
  file : Path → FileView
  -- the components of `path.resolve()`
  resolve : Path → List Text
  lexists : Path → Bool
  -- the staging directory, the files written into it, and its exclusive rename
  stage : Path → Except Exc Unit
  write : Path → Except Exc Unit
  publish : Path → Except Exc Unit

inductive ConfigMode where
  | serialOnly
  | preserveFiles
  deriving DecidableEq, Repr

structure Options where
  configMode : ConfigMode
  wipeUnknownConfig : Bool
  allowFewerReads : Bool
  deriving DecidableEq

def Options.preserves (options : Options) : Bool := options.configMode = .preserveFiles

/-! ## Confirmation reads -/

structure DifferenceSummary where
  differentBytes : Nat
  firstDifference : Option Nat
  lastDifference : Option Nat

-- the indices at which the loop of `difference_summary` finds a difference
def differences (before after : Bytes) : List Nat :=
  (List.range (min before.length after.length)).filter fun i => before[i]? ≠ after[i]?

def differenceSummary (before after : Bytes) : Except Exc DifferenceSummary := do
  raiseIf (before.length ≠ after.length) .valueError
  .ok
    { differentBytes := (differences before after).length
      firstDifference := (differences before after).head?
      lastDifference := (differences before after).getLast? }

structure ConfirmedRead where
  filename : String
  sourceFormat : Text
  evidencedIdenticalReads : Nat

-- `f"...{summary[...]:06X}"` of a difference that was found
def differenceText (path : Path) (summary : DifferenceSummary) : Except Exc String := do
  let first ← orRaise summary.firstDifference .typeError
  let last ← orRaise summary.lastDifference .typeError
  .ok ("Confirmation read " ++ path.str ++ " is not byte-identical to the primary: " ++
    toString summary.differentBytes ++ " differing bytes, first=" ++ hex6 first ++ ", last=" ++
    hex6 last)

def confirmRead (disk : Disk) (primary : Bytes) (path : Path) : Except Exc ConfirmedRead := do
  let (data, source) ← readImageSource hashlib pyText json path (disk.file path)
  raiseIf (data.length ≠ primary.length)
    (.validationError ("Confirmation read " ++ path.str ++ " has " ++ toString data.length ++
      " bytes; the primary has " ++ toString primary.length))
  if data ≠ primary then do
    let summary ← differenceSummary primary data
    let message ← differenceText path summary
    .error (.validationError message)
  else
    .ok
      { filename := path.str
        sourceFormat := source.format
        evidencedIdenticalReads := source.evidencedIdenticalReads }

def verifyConfirmationReads (disk : Disk) (primary : Bytes) :
    List Path → Except Exc (List ConfirmedRead)
  | [] => .ok []
  | path :: paths => do
    let result ← confirmRead hashlib pyText json disk primary path
    let results ← verifyConfirmationReads disk primary paths
    .ok (result :: results)

def totalReads (inputSource : Source) (confirmed : List ConfirmedRead) : Nat :=
  (confirmed.map fun item => item.evidencedIdenticalReads).foldl max
    (max inputSource.evidencedIdenticalReads (1 + confirmed.length))

/-! ## The image -/

structure ChangedRegion where
  name : String
  start : Nat
  endInclusive : Nat
  size : Nat
  deriving DecidableEq, Repr

/-- What is written into the staging directory, with the two analyses. -/
structure Recovery where
  analysis : Analysis
  outputAnalysis : Analysis
  recoveryBytes : Bytes
  rebuiltConfig : Bytes
  serialPayload : Bytes
  changedRegions : List ChangedRegion

def rebuildConfig (analysis : Analysis) (configMode : ConfigMode) (canonicalConfig : Bytes) :
    Except Exc Bytes :=
  match configMode with
  | .serialOnly => .ok canonicalConfig
  | .preserveFiles => do
    let files ← orRaise analysis.liveConfigFiles .assertionError
    buildPreservedConfig codecs files

/-- The input with its two windows assigned. -/
def recoveryImage (image patchedRegion rebuiltConfig : Bytes) : Bytes :=
  splice (splice image PATCH_START PATCH_END patchedRegion) CONFIG_START CONFIG_END rebuiltConfig

def changedRegions (patchChanged configChanged : Bool) : List ChangedRegion :=
  (if patchChanged then
    [{ name := "system_bashrc_patch", start := PATCH_START, endInclusive := PATCH_END - 1
       size := PATCH_SIZE }]
  else []) ++
  (if configChanged then
    [{ name := "config", start := CONFIG_START, endInclusive := CONFIG_END - 1, size := CONFIG_SIZE }]
  else [])

-- the checks on a generated image, which leave its analysis
def checkRecovery (image recovery rebuiltConfig : Bytes) (configMode : ConfigMode) :
    Except Exc Analysis := do
  raiseIf (slice recovery 0 PATCH_START ≠ slice image 0 PATCH_START ∨
      slice recovery PATCH_END CONFIG_START ≠ slice image PATCH_END CONFIG_START ∨
      recovery.drop CONFIG_END ≠ image.drop CONFIG_END)
    (.validationError "Internal safety check: bytes changed outside allowed regions")
  let outputAnalysis ← analyzeImage hashlib codecs recovery "generated recovery image"
    (configMode = .preserveFiles) (configMode = .preserveFiles)
  raiseIf (outputAnalysis.systemState ≠ .knownBashrcPatched)
    (.validationError "Generated image is not in the known patched system state")
  raiseIf (configMode = .serialOnly ∧ !outputAnalysis.configIsCanonical)
    (.validationError "Generated config is not canonical")
  raiseIf (slice recovery CONFIG_START CONFIG_END ≠ rebuiltConfig)
    (.validationError "Generated config differs from the selected rebuilt partition")
  .ok outputAnalysis

def rebuildImage (image : Bytes) (analysis : Analysis) (configMode : ConfigMode) :
    Except Exc Recovery := do
  let (patchedRegion, patchChanged) ← applySystemPatch hashlib codecs image analysis.systemState
  let canonicalConfig ← buildMinimalConfig codecs analysis.serialPayload
  let rebuiltConfig ← rebuildConfig codecs analysis configMode canonicalConfig
  let outputAnalysis ← checkRecovery hashlib codecs image
    (recoveryImage image patchedRegion rebuiltConfig) rebuiltConfig configMode
  .ok
    { analysis := analysis
      outputAnalysis := outputAnalysis
      recoveryBytes := recoveryImage image patchedRegion rebuiltConfig
      rebuiltConfig := rebuiltConfig
      serialPayload := analysis.serialPayload
      changedRegions := changedRegions patchChanged
        (slice image CONFIG_START CONFIG_END ≠ rebuiltConfig) }

/-! ## The build -/

def sourceName (inputPath : Path) (source : Source) : String :=
  match source.imageMember with
  | none => inputPath.str
  | some member => inputPath.str ++ "!" ++ String.ofList (member.map Char.ofNat)

def protectInputs (disk : Disk) (outputDir : Path) : List Path → Except Exc Unit
  | [] => .ok ()
  | path :: paths => do
    raiseIf ((disk.resolve outputDir).isPrefixOf (disk.resolve path))
      (.validationError ("Refusing an output directory that contains input dump " ++ path.str))
    protectInputs disk outputDir paths

def buildRecovery (disk : Disk) (inputPath outputDir : Path) (confirmationPaths : List Path)
    (options : Options) : Except Exc Recovery := do
  raiseIf (options.wipeUnknownConfig && options.preserves)
    (.validationError "--wipe-unknown-config is valid only with --config-mode serial-only")
  let (image, inputSource) ← readImageSource hashlib pyText json inputPath (disk.file inputPath)
  let confirmedReads ← verifyConfirmationReads hashlib pyText json disk image confirmationPaths
  let analysis ← analyzeImage hashlib codecs image (sourceName inputPath inputSource)
    (options.wipeUnknownConfig || options.preserves) options.preserves
  raiseIf (totalReads inputSource confirmedReads < MIN_IDENTICAL_READS && !options.allowFewerReads)
    (.validationError ("Only " ++ toString (totalReads inputSource confirmedReads) ++
      " identical physical read(s) were supplied. " ++
      "Provide " ++ toString MIN_IDENTICAL_READS ++ " " ++
      "total physical reads with --confirm-read, or explicitly accept the " ++
      "higher risk with --allow-fewer-reads."))
  protectInputs disk outputDir (inputPath :: confirmationPaths)
  raiseIf (disk.lexists outputDir) .fileExistsError
  disk.stage outputDir
  let recovery ← rebuildImage hashlib codecs image analysis options.configMode
  disk.write outputDir
  disk.publish outputDir
  .ok recovery

end Cc2Camera.Image
