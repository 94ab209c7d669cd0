import Cc2Camera.Backup.Archive
import Cc2Camera.Image.Layout

/-!
# Source — `image.py`'s reader of raw dumps and backup ZIPs
-/

open Bytes Exceptions

namespace Cc2Camera.Image

variable (hashlib : Hashlib) (pyText : PyText) (json : JsonCodec)

def USB_BACKUP_FORMAT : Text := text "cc2flash-backup-v2"
def USB_BACKUP_IMAGE_MEMBER : Text := text "flash.bin"
def USB_BACKUP_MANIFEST_MEMBER : Text := text "manifest.json"
def MAX_USB_MANIFEST_SIZE : Nat := 1024 * 1024
def KNOWN_BOOTLOADER_SHA256 : String :=
  "5602ec961b4410ccceea0d4910e4fa768c6998bd4ba86143ba50855bdd0b7a54"
def EXPECTED_USB_PARTITIONS : List (Nat × Nat × String) :=
  [(0, 0x040000, "boot"), (1, 0x150000, "kernel"), (2, 0x158000, "root"), (3, 0x4E8000, "system"),
    (4, 0x010000, "hwconfig"), (5, 0x020000, "config")]

def imageHashes (data : Bytes) : List (String × Expected) :=
  [("size", .int data.length), ("sha256", .str (text (hashlib.sha256 data))),
    ("md5", .str (text (hex (hashlib.md5 data))))]

def bootHash (image : Bytes) : String := hashlib.sha256 (slice image 0 0x040000)

def expectedBootloader (image : Bytes) : List (String × Expected) :=
  [("partition", .str (text "boot")), ("size", .int 0x040000),
    ("sha256", .str (text (bootHash hashlib image))),
    ("known_sha256", .str (text KNOWN_BOOTLOADER_SHA256)),
    ("known_reference", .bool (bootHash hashlib image = KNOWN_BOOTLOADER_SHA256))]

def expectedAcceptance (image : Bytes) : Text :=
  if bootHash hashlib image = KNOWN_BOOTLOADER_SHA256 then text "known-reference"
  else text "explicit-hash"

/-- The metadata dict that comes with an image. -/
structure Source where
  format : Text
  imageMember : Option Text
  readPasses : Option Int
  bootloaderAcceptance : Option Text
  evidencedIdenticalReads : Nat
  deriving DecidableEq

-- the evidence a validated manifest stands for, as `read_image_source` completes it
def usbEvidence (image : Bytes) (readPasses : Int) : Source :=
  { format := USB_BACKUP_FORMAT
    imageMember := some USB_BACKUP_IMAGE_MEMBER
    readPasses := some readPasses
    bootloaderAcceptance := some (expectedAcceptance hashlib image)
    evidencedIdenticalReads := MIN_IDENTICAL_READS }

-- the body of the loop over the partition map
def partitionItemMatches (item : Json) (expected : Nat × Nat × String) : Bool :=
  match item.dict? with
  | none => false
  | some fields =>
    (dictGet fields "index").eqs (.int expected.1) && (dictGet fields "size").eqs (.int expected.2.1) &&
      match (dictGet fields "name").str? with
      | none => false
      | some name => pyText.casefold name = text expected.2.2

def validateUsbBackupManifest (manifest : Json) (image : Bytes) : Except Exc Source := do
  let fields ← orRaise manifest.dict? (.validationError "USB backup manifest must be a JSON object")
  raiseIf (!(dictGet fields "format").eqs (.str USB_BACKUP_FORMAT))
    (.validationError ("USB backup requires a cc2flash-backup-v2 manifest with three " ++
      "identical reads"))
  checkFields fields
    (fun key => .validationError ("USB backup manifest " ++ key ++ " does not match flash.bin"))
    (imageHashes hashlib image)
  let bootloader ← orRaise (dictGet fields "bootloader").dict?
    (.validationError "USB backup manifest has no bootloader fingerprint")
  checkFields bootloader
    (fun key =>
      .validationError ("USB backup manifest bootloader " ++ key ++ " does not match flash.bin"))
    (expectedBootloader hashlib image)
  raiseIf (!(dictGet bootloader "acceptance").eqs (.str (expectedAcceptance hashlib image)))
    (.validationError ("USB backup manifest does not contain the required bootloader " ++
      "hash acceptance"))
  raiseIf (!(dictGet fields "required_identical_reads").eqs (.int MIN_IDENTICAL_READS))
    (.validationError "USB backup does not require three identical reads")
  raiseIf ((dictGet fields "consecutive_identical_reads").int? ≠ some (MIN_IDENTICAL_READS : Int))
    (.validationError "USB backup lacks three consecutive identical physical reads")
  let readPasses ← orRaise (dictGet fields "read_passes").int?
    (.validationError "USB backup has an invalid physical-read count")
  raiseIf (¬((MIN_IDENTICAL_READS : Int) ≤ readPasses ∧ readPasses ≤ MAX_USB_READ_ATTEMPTS))
    (.validationError "USB backup has an invalid physical-read count")
  raiseIf (!(dictGet fields "maximum_read_attempts").eqs (.int MAX_USB_READ_ATTEMPTS))
    (.validationError "USB backup has an unexpected read-attempt policy")
  let partitions ← orRaise (dictGet fields "partitions").list?
    (.validationError "USB backup manifest has an invalid partition map")
  raiseIf (partitions.length ≠ EXPECTED_USB_PARTITIONS.length)
    (.validationError "USB backup manifest has an invalid partition map")
  raiseIf (!((partitions.zip EXPECTED_USB_PARTITIONS).all fun p => partitionItemMatches pyText p.1 p.2))
    (.validationError "USB backup manifest has an invalid partition map")
  .ok (usbEvidence hashlib image readPasses)

def archivePolicy : ArchivePolicy where
  imageMember := USB_BACKUP_IMAGE_MEMBER
  manifestMember := USB_BACKUP_MANIFEST_MEMBER
  flashSize := FLASH_SIZE
  maxManifestSize := MAX_USB_MANIFEST_SIZE
  fail := .validationError
  isOwn := Exc.isValidationError
  wrongMembers := "USB backup ZIP must contain exactly flash.bin and manifest.json"
  encrypted := "USB backup ZIP must not be encrypted"
  wrongImageSize := "USB backup flash.bin is not exactly 8 MiB"
  manifestTooLarge := "USB backup manifest is unexpectedly large"
  unreadable := "USB backup ZIP is unreadable or corrupt"

def ZIP_SUFFIX : Text := text ".zip"

def readImageSource (path : Path) (file : FileView) : Except Exc (Bytes × Source) :=
  if pyText.casefold path.suffix ≠ ZIP_SUFFIX then do
    let image ← file.readBytes
    .ok (image,
      { format := text "raw-flash-image"
        imageMember := none
        readPasses := none
        bootloaderAcceptance := none
        evidencedIdenticalReads := 1 })
  else do
    let (image, manifestBytes) ← readArchive archivePolicy file.openZip
    raiseIf (image.length ≠ FLASH_SIZE) (.validationError "USB backup flash.bin is not exactly 8 MiB")
    let manifest ← readManifest json (.validationError "USB backup manifest is unreadable") manifestBytes
    let source ← validateUsbBackupManifest hashlib pyText manifest image
    .ok (image, source)

end Cc2Camera.Image
