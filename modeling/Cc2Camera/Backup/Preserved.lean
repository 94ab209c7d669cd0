import Cc2Camera.Backup.Archive

/-!
# Preserved — `adb_backup.py`: partition maps, the preserved backup and its comparisons
-/

open Bytes Exceptions

namespace Cc2Camera.AdbBackup

variable (hashlib : Hashlib) (pyText : PyText) (json : JsonCodec)

-- imported from protocol.py
def FLASH_SIZE : Nat := 0x800000

def EXPECTED_PARTITIONS : List (String × Nat) :=
  [("boot", 0x040000), ("kernel", 0x150000), ("root", 0x158000), ("system", 0x4E8000),
    ("hwconfig", 0x010000), ("config", 0x020000)]

def REQUIRED_IDENTICAL_READS : Nat := 3
def MAX_READ_ATTEMPTS : Nat := 5
def KNOWN_BOOTLOADER_SHA256 : String :=
  "5602ec961b4410ccceea0d4910e4fa768c6998bd4ba86143ba50855bdd0b7a54"
def BACKUP_IMAGE_MEMBER : Text := text "flash.bin"
def BACKUP_MANIFEST_MEMBER : Text := text "manifest.json"
def MAX_MANIFEST_SIZE : Nat := 1024 * 1024
def HARDWARE_RECOVERY_PATCH_START : Nat := 0x463000
def HARDWARE_RECOVERY_PATCH_END : Nat := 0x46B000
def HARDWARE_RECOVERY_CONFIG_START : Nat := 0x7E0000

/-! ## Partition maps -/

/-- A partition as `/proc/mtd` describes it. -/
structure MtdPartition where
  index : Nat
  size : Nat
  eraseSize : Nat
  name : Text
  deriving DecidableEq

/-- The same dataclass filled from a manifest: its fields are not checked when it is built. -/
structure RecordedPartition where
  index : Json
  size : Json
  eraseSize : Json
  name : Json

def MtdPartition.record (part : MtdPartition) : RecordedPartition :=
  { index := .int part.index, size := .int part.size, eraseSize := .int part.eraseSize
    name := .str part.name }

/-- `asdict(part)`. -/
def MtdPartition.asdict (part : MtdPartition) : Json :=
  .obj [(text "index", .int part.index), (text "size", .int part.size),
    (text "erase_size", .int part.eraseSize), (text "name", .str part.name)]

def PARTITION_FIELDS : List Text := [text "index", text "size", text "erase_size", text "name"]

/-- `MtdPartition(**item)`. -/
def partitionOfItem (item : Json) : Except Exc RecordedPartition := do
  let fields ← orRaise item.dict? .typeError
  raiseIf (fields.any fun f => f.1 ∉ PARTITION_FIELDS) .typeError
  let index ← orRaise (fields.lookup (text "index")) .typeError
  let size ← orRaise (fields.lookup (text "size")) .typeError
  let eraseSize ← orRaise (fields.lookup (text "erase_size")) .typeError
  let name ← orRaise (fields.lookup (text "name")) .typeError
  .ok { index := index, size := size, eraseSize := eraseSize, name := name }

def partitionsOfItems : List Json → Except Exc (List RecordedPartition)
  | [] => .ok []
  | item :: items => do
    let part ← partitionOfItem item
    let parts ← partitionsOfItems items
    .ok (part :: parts)

-- elementwise `==` of two sequences
def sequenceEqs (values : List Json) (expected : List Nat) : Bool :=
  values.length = expected.length ∧ (values.zip expected).all fun p => p.1.eqs (.int p.2)

def formatSizes : List Json → Except Exc (List String)
  | [] => .ok []
  | size :: sizes => do
    let head ← size.formatHex
    let tail ← formatSizes sizes
    .ok (("0x" ++ head) :: tail)

-- the loop over the expected names
def checkNames : List (RecordedPartition × (String × Nat)) → Except Exc Unit
  | [] => .ok ()
  | (part, (expectedName, _)) :: rest => do
    let name ← orRaise part.name.str? .attributeError
    raiseIf (pyText.casefold name ≠ text expectedName)
      (.protocolError ("unexpected mtd" ++ pyText.format part.index ++ " name " ++ pyText.repr name ++
        "; expected '" ++ expectedName ++ "'"))
    checkNames rest

def validatePartitionMap (parts : List RecordedPartition) : Except Exc Unit := do
  raiseIf (!sequenceEqs (parts.map fun part => part.index) (List.range parts.length))
    (.protocolError "MTD indices are not contiguous from mtd0")
  let expectedSizes := EXPECTED_PARTITIONS.map Prod.snd
  if !sequenceEqs (parts.map fun part => part.size) expectedSizes then do
    let got ← formatSizes (parts.map fun part => part.size)
    let want ← formatSizes (expectedSizes.map fun (size : Nat) => Json.int size)
    .error (.protocolError ("unexpected CC2 partition sizes (" ++ String.intercalate ", " got ++
      "); expected " ++ String.intercalate ", " want))
  else do
    checkNames pyText (parts.zip EXPECTED_PARTITIONS)
    let total ← Json.sum (parts.map fun part => part.size)
    raiseIf (total ≠ FLASH_SIZE) (.protocolError "MTD partitions do not cover exactly 8 MiB")

/-! ## The preserved backup -/

def hashes (data : Bytes) : List (String × Expected) :=
  [("size", .int data.length), ("sha256", .str (text (hashlib.sha256 data))),
    ("md5", .str (text (hex (hashlib.md5 data))))]

structure BootloaderReference where
  sha256 : String
  knownReference : Bool
  deriving DecidableEq

def bootloaderReference (image : Bytes) : Except Exc BootloaderReference := do
  raiseIf (image.length ≠ FLASH_SIZE) (.protocolError "cannot fingerprint a non-8-MiB flash image")
  let observed := hashlib.sha256 (slice image 0 0x040000)
  .ok { sha256 := observed, knownReference := observed = KNOWN_BOOTLOADER_SHA256 }

-- the items of the dict `bootloader_reference` returns
def BootloaderReference.items (reference : BootloaderReference) : List (String × Expected) :=
  [("partition", .str (text "boot")), ("size", .int 0x040000), ("sha256", .str (text reference.sha256)),
    ("known_sha256", .str (text KNOWN_BOOTLOADER_SHA256)),
    ("known_reference", .bool reference.knownReference)]

def ZIP_SUFFIX : Text := text ".zip"

def validateBackupArchivePath (path : Path) : Except Exc Unit :=
  raiseIf (pyText.casefold path.suffix ≠ ZIP_SUFFIX)
    (.protocolError "backup output must be a .zip archive containing flash.bin and manifest.json")

def archivePolicy : ArchivePolicy where
  imageMember := BACKUP_IMAGE_MEMBER
  manifestMember := BACKUP_MANIFEST_MEMBER
  flashSize := FLASH_SIZE
  maxManifestSize := MAX_MANIFEST_SIZE
  fail := .protocolError
  isOwn := Exc.isProtocolError
  wrongMembers := "preserved backup ZIP must contain exactly flash.bin and manifest.json"
  encrypted := "preserved backup ZIP must not be encrypted"
  wrongImageSize := "preserved backup image is not exactly 8 MiB"
  manifestTooLarge := "preserved backup manifest is unexpectedly large"
  unreadable := "preserved backup ZIP is unreadable or corrupt"

-- `except (TypeError, ValueError)` around the construction of the partitions
def recordedPartitions (recorded : List Json) : Except Exc (List RecordedPartition) :=
  recover (partitionsOfItems recorded) fun e =>
    if e ∈ [.typeError, .valueError] then
      some (.error (.protocolError "preserved backup manifest partition map is invalid"))
    else none

-- the manifest checks of `load_preserved_backup`
def validateManifest (manifest : Json) (data : Bytes) : Except Exc Unit := do
  let fields ← orRaise manifest.dict?
    (.protocolError "preserved backup manifest must be a JSON object")
  raiseIf (!(dictGet fields "format").eqs (.str (text "cc2flash-backup-v2")))
    (.protocolError "preserved backup requires a v2 manifest with three identical reads")
  checkFields fields
    (fun key => .protocolError ("preserved backup manifest " ++ key ++ " does not match the file"))
    (hashes hashlib data)
  let expectedBootloader ← bootloaderReference hashlib data
  let recordedBootloader ← orRaise (dictGet fields "bootloader").dict?
    (.protocolError "preserved backup manifest has no bootloader fingerprint")
  checkFields recordedBootloader
    (fun key =>
      .protocolError ("preserved backup manifest bootloader " ++ key ++ " does not match the file"))
    expectedBootloader.items
  let acceptance := dictGet recordedBootloader "acceptance"
  raiseIf (expectedBootloader.knownReference && !acceptance.eqs (.str (text "known-reference")))
    (.protocolError "known bootloader lacks known-reference acceptance")
  raiseIf (!expectedBootloader.knownReference && !acceptance.eqs (.str (text "explicit-hash")))
    (.protocolError "unknown bootloader lacks explicit exact-hash acceptance")
  raiseIf (!(dictGet fields "required_identical_reads").eqs (.int REQUIRED_IDENTICAL_READS))
    (.protocolError "preserved backup does not require three identical reads")
  raiseIf ((dictGet fields "consecutive_identical_reads").int? ≠ some (REQUIRED_IDENTICAL_READS : Int))
    (.protocolError "preserved backup lacks three consecutive identical physical reads")
  let readPasses ← orRaise (dictGet fields "read_passes").int?
    (.protocolError "preserved backup has an invalid physical-read count")
  raiseIf (¬((REQUIRED_IDENTICAL_READS : Int) ≤ readPasses ∧ readPasses ≤ MAX_READ_ATTEMPTS))
    (.protocolError "preserved backup has an invalid physical-read count")
  raiseIf (!(dictGet fields "maximum_read_attempts").eqs (.int MAX_READ_ATTEMPTS))
    (.protocolError "preserved backup has an unexpected read-attempt policy")
  let recordedParts ← orRaise (dictGet fields "partitions").list?
    (.protocolError "preserved backup manifest has no partition map")
  let parts ← recordedPartitions recordedParts
  validatePartitionMap pyText parts

def loadPreservedBackup (path : Path) (file : FileView) : Except Exc Bytes := do
  raiseIf (!file.isFile) (.protocolError ("preserved backup does not exist: " ++ path.str))
  validateBackupArchivePath pyText path
  let (data, manifestBytes) ← readArchive archivePolicy file.openZip
  raiseIf (data.length ≠ FLASH_SIZE) (.protocolError "preserved backup image is not exactly 8 MiB")
  let manifest ← readManifest json (.protocolError "preserved backup manifest is unreadable")
    manifestBytes
  validateManifest hashlib pyText manifest data
  .ok data

/-! ## Comparisons -/

/-- The first index at which two strings of one length differ. -/
def firstDifference (a b : Bytes) : Option Nat :=
  (List.range (min a.length b.length)).find? fun i => a[i]? ≠ b[i]?

def immutableRanges : List (Nat × Nat) :=
  [(0, HARDWARE_RECOVERY_PATCH_START), (HARDWARE_RECOVERY_PATCH_END, HARDWARE_RECOVERY_CONFIG_START)]

def checkRanges (replacement preserved : Bytes) : List (Nat × Nat) → Except Exc Unit
  | [] => .ok ()
  | (start, stop) :: ranges =>
    if slice replacement start stop = slice preserved start stop then
      checkRanges replacement preserved ranges
    else do
      let relative ← orRaise
        (firstDifference (slice replacement start stop) (slice preserved start stop)) .stopIteration
      .error (.protocolError ("replacement image differs from the preserved backup outside " ++
        "hardware-recovery's audited patch/config regions at 0x" ++
        paddedDigits 16 6 (start + relative) ++
        "; refusing a possible wrong-unit or unsupported image"))

def validateReplacementAgainstBackup (replacement preserved : Bytes) : Except Exc Unit := do
  raiseIf (replacement.length ≠ FLASH_SIZE ∨ preserved.length ≠ FLASH_SIZE)
    (.protocolError "replacement and preserved backup must both be exactly 8 MiB")
  checkRanges replacement preserved immutableRanges

def validatePostRestoreReadback (expected actual : Bytes) : Except Exc Bool := do
  raiseIf (expected.length ≠ FLASH_SIZE ∨ actual.length ≠ FLASH_SIZE)
    (.protocolError "expected image and post-write readback must both be exactly 8 MiB")
  let wanted := slice expected 0 HARDWARE_RECOVERY_CONFIG_START
  let observed := slice actual 0 HARDWARE_RECOVERY_CONFIG_START
  if wanted ≠ observed then do
    let offset ← orRaise (firstDifference wanted observed) .stopIteration
    .error (.protocolError ("post-write flash readback differs from the replacement image in " ++
      "a boot-stable region at 0x" ++ paddedDigits 16 6 offset))
  else
    .ok (expected.drop HARDWARE_RECOVERY_CONFIG_START = actual.drop HARDWARE_RECOVERY_CONFIG_START)

theorem validateReplacementAgainstBackup_eq_ok {replacement preserved : Bytes} {u : Unit} :
    validateReplacementAgainstBackup replacement preserved = .ok u ↔
      replacement.length = FLASH_SIZE ∧ preserved.length = FLASH_SIZE ∧
        ∀ range ∈ immutableRanges,
          slice replacement range.1 range.2 = slice preserved range.1 range.2 := by
  have hranges : ∀ ranges : List (Nat × Nat), checkRanges replacement preserved ranges = .ok u ↔
      ∀ range ∈ ranges, slice replacement range.1 range.2 = slice preserved range.1 range.2 := by
    intro ranges
    induction ranges with
    | nil => simp [checkRanges]
    | cons range ranges ih =>
      obtain ⟨start, stop⟩ := range
      rw [checkRanges, List.forall_mem_cons]
      by_cases h : slice replacement start stop = slice preserved start stop
      · rw [if_pos h, ih, and_iff_right h]
      · rw [if_neg h]
        simp [h, bind_eq_ok]
  rw [validateReplacementAgainstBackup, bind_eq_ok]
  simp only [raiseIf_eq_ok, hranges, not_or, not_not, exists_and_left, exists_const, and_assoc]

end Cc2Camera.AdbBackup
