import Cc2Camera.Adb.Stable
import Cc2Camera.Publish.Calls

/-!
# Command — `command_backup`

The command first reads the camera and then publishes files, so its operations are those of both.
-/

open Bytes Exceptions Program

namespace Cc2Camera

open Host AdbBackup

/-! ## The manifest as JSON -/

/-- The value of a manifest field that is later compared with `expected`. -/
def Expected.json : Expected → Json
  | .int n => .int n
  | .bool b => .bool b
  | .str s => .str s

def jsonItems (items : List (String × Expected)) : List (Text × Json) :=
  items.map fun item => (text item.1, item.2.json)

/-- `manifest["bootloader"]` once `command_backup` has noted why it accepts it. -/
def bootloaderFields (bootloader : BootloaderReference) (acceptance : String) : List (Text × Json) :=
  jsonItems bootloader.items ++ [(text "acceptance", .str (text acceptance))]

def AdbBackup.Manifest.fields (manifest : Manifest) (acceptance : String) : List (Text × Json) :=
  [(text "format", .str (text "cc2flash-backup-v2")),
    (text "created_utc", .str (text manifest.createdUtc)),
    (text "adb_serial", match manifest.adbSerial with
      | none => .null
      | some serial => .str (text serial)),
    (text "device_identity", .str manifest.deviceIdentity),
    (text "read_passes", .int manifest.readPasses),
    (text "required_identical_reads", .int REQUIRED_IDENTICAL_READS),
    (text "consecutive_identical_reads", .int manifest.consecutiveIdenticalReads),
    (text "maximum_read_attempts", .int MAX_READ_ATTEMPTS),
    (text "bootloader", .obj (bootloaderFields manifest.bootloader acceptance))] ++
    jsonItems manifest.digest ++ [(text "partitions", .arr (manifest.partitions.map MtdPartition.asdict))]

/-! ## The command -/

structure BackupArgs where
  output : Path
  -- where `output` leads
  location : Publish.Location
  adb : String
  serial : Option String
  acceptBootloaderSha256 : Option String

/-- Operations of the camera side and of the file side. -/
abbrev BackupOp : Type := Op ⊕ Publish.FileOp

abbrev BackupReply : BackupOp → Type := SumReply Reply Publish.FileReply

abbrev BackupProgram (α : Type) : Type := Program BackupOp BackupReply Exc α

abbrev BackupTrace : Type := List (Event BackupOp BackupReply)

def readProgress : ReadProgress := fun attempt maximum consecutive required =>
  ["Flash read " ++ toString attempt ++ "/" ++ toString maximum ++ " complete; consecutive identical: " ++
    toString consecutive ++ "/" ++ toString required]

def BackupArgs.client (args : BackupArgs) : AdbClient := { executable := args.adb, serial := args.serial }

-- `_common_command(args, command)`
def BackupArgs.commonCommand (args : BackupArgs) (command : String) : List String :=
  ["cc2camera", command] ++ (if args.adb = "adb" then [] else ["--adb", args.adb]) ++
    match args.serial with
    | none => []
    | some serial => if serial = "" then [] else ["--serial", serial]

/-- What `command_backup` makes of `AdbUnavailable`. -/
def BackupArgs.unavailable (args : BackupArgs) (x : Exc) : Exc :=
  if x.isAdbUnavailable then
    .protocolError (x.str ++ "\nbackup is strictly read-only and did not modify the camera.\n" ++
      "Start ADB explicitly for this boot, then rerun backup:\n  " ++
      " ".intercalate (args.commonCommand "start-adb"))
  else x

/-- Why the boot partition is accepted, or the refusal. -/
def BackupArgs.acceptance (args : BackupArgs) (bootloader : BootloaderReference) : Except Exc String := do
  let observed := bootloader.sha256
  raiseIf (args.acceptBootloaderSha256 ≠ none ∧ args.acceptBootloaderSha256 ≠ some observed)
    (.protocolError ("--accept-bootloader-sha256 does not match the observed boot partition: observed " ++
      observed))
  if bootloader.knownReference then .ok "known-reference"
  else if args.acceptBootloaderSha256 = some observed then .ok "explicit-hash"
  else
    .error (.protocolError ("unknown bootloader SHA-256; no backup was published:\n  " ++ observed ++
      "\nAfter independently reviewing that exact hash, accept it with:\n  " ++ " ".intercalate
        (args.commonCommand "backup" ++ ["--accept-bootloader-sha256", observed, args.output.str])))

section Command

variable (hashlib : Hashlib) (unicode : Unicode) (pyText : PyText) (json : JsonCodec)
  (zipfile : Publish.ZipFile) (invocation : List String → String)

def BackupArgs.backup (args : BackupArgs) (image : Bytes) (manifest : Manifest) (acceptance : String) :
    Publish.Backup :=
  { path := args.output, location := args.location, image := image
    manifest := .obj (manifest.fields acceptance) }

def BackupArgs.report (args : BackupArgs) (image : Bytes) (manifest : Manifest) : List String :=
  ["Backup complete (three consecutive identical full reads; " ++ toString manifest.readPasses ++
      " total attempt(s))",
    "Size:   " ++ toString image.length, "SHA256: " ++ hashlib.sha256 image,
    "MD5:    " ++ hex (hashlib.md5 image), "Boot:   " ++ manifest.bootloader.sha256,
    "Known bootloader: " ++ (if manifest.bootloader.knownReference then "yes" else "no (explicitly accepted)"),
    "Saved archive: " ++ args.output.str, "Archive members: flash.bin, manifest.json",
    "Next, build this camera's recovery image:", invocation ["build-image", args.output.str]]

-- the part that only reads the camera
def acquireBackup (args : BackupArgs) : Host (Bytes × Manifest × String) := do
  lift (validateBackupArchivePath pyText args.output)
  let (image, manifest) ← (acquireStable hashlib unicode pyText args.client readProgress).handle fun x =>
    .raise (args.unavailable x)
  let acceptance ← lift (args.acceptance manifest.bootloader)
  pure (image, manifest, acceptance)

def commandBackup (args : BackupArgs) : BackupProgram Nat := do
  let (image, manifest, acceptance) ← (acquireBackup hashlib unicode pyText args).left
  let _ ← (Publish.saveBackup pyText json zipfile (args.backup image manifest acceptance)).right
  (printAll (args.report hashlib invocation image manifest)).left
  pure 0

end Command

end Cc2Camera
