import Cc2Camera.Backup.Command
import Cc2Camera.Device.Uploads
import Cc2Camera.Restore.Preparation

/-!
# Command — `command_restore`, `command_plan` and `command_start_adb`

The offline checks, the two questions, the preparation, the transfer and the verification after it, in the source's
order.  The loops that poll are given the rounds they may still make.
-/

open Bytes Exceptions Program

namespace Cc2Camera

open Protocol Host HidTransport AdbBackup RestorePrepare

structure RestoreArgs where
  image : Path
  backup : Path
  -- `args.backup` is a non-empty string
  backupGiven : Bool
  adb : String
  serial : Option String
  dryRun : Bool
  bootloaderTimeout : ℚ
  rebootTimeout : ℚ
  adbTimeout : ℚ

def RestoreArgs.client (args : RestoreArgs) : AdbClient := { executable := args.adb, serial := args.serial }

/-- What polls: rounds for `wait_for_hid` in the bootloader and after it, and for `wait_for_device`. -/
structure Rounds where
  bootloader : Nat
  reboot : Nat
  adb : Nat

def confirmed (answer expected : String) (refusal : String) : Except Exc Unit :=
  raiseIf (answer ≠ expected) (.protocolError refusal)

section Command

variable (hashlib : Hashlib) (unicode : Unicode) (pyText : PyText) (json : JsonCodec)
  -- `json.dumps(result, indent=2)`
  (pretty : Json → String)

/-! ## `--dry-run` -/

/-- The image and the hash of the backup of `command_plan`. -/
def planResult (args : RestoreArgs) (image : Bytes) (backup : Option Bytes) (blob : Bytes) (plan : UpdatePlan) : Json :=
  .obj [(text "image", .str (text args.image.str)), (text "image_size", .int image.length),
    (text "image_sha256", .str (text (hashlib.sha256 image))), (text "image_md5", .str (text (hex (hashlib.md5 image)))),
    (text "preserved_backup", if backup.isSome then .str (text args.backup.str) else .null),
    (text "preserved_backup_sha256", match backup with
      | some preserved => .str (text (hashlib.sha256 preserved))
      | none => .null),
    (text "preserved_backup_compatible", .bool backup.isSome), (text "flash_offset", .int plan.flashOffset),
    (text "transfer_size", .int plan.transferSize), (text "packets", .int plan.packetCount),
    (text "packet_payload", .int plan.packetPayloadSize),
    (text "metadata_and_image_header_built", .bool (blob ≠ [])), (text "writes_performed", .bool false)]

-- the checks of the backup, when there is one
def planBackup (args : RestoreArgs) (file : FileView) (image : Bytes) : Except Exc (Option Bytes) :=
  if args.backupGiven then do
    let preserved ← loadPreservedBackup hashlib pyText json args.backup file
    validateReplacementAgainstBackup image preserved
    validatePreparationImage hashlib preserved
    .ok (some preserved)
  else .ok none

/-- `command_plan(args)`; `file` is what `args.backup` shows. -/
def commandPlan (args : RestoreArgs) (file : FileView) : Host Nat := do
  let image ← call (.readBytes args.image.str)
  lift (validateFullRestoreImage image)
  let backup ← lift (planBackup hashlib pyText json args file image)
  let (blob, plan) ← lift (buildUpdateBlob hashlib image 0)
  call (.print (pretty (planResult hashlib args image backup blob plan)))
  pure 0

/-! ## Questions -/

def confirmWrite (args : RestoreArgs) (image : Bytes) : Host Unit := do
  let terminal ← call .isatty
  lift (raiseIf (terminal = false)
    (.protocolError "restore requires an interactive RESTORE-CC2 confirmation; nothing was written"))
  printAll ["WRITE OPERATION", "Input:  " ++ args.image.str, "Range:  0x000000-0x" ++ paddedDigits 16 6 (Protocol.FLASH_SIZE - 1),
    "SHA256: " ++ hashlib.sha256 image, "Backup: " ++ args.backup.str,
    "Requires online root ADB; temporarily sets the driver erase size to 4 KiB."]
  let phrase ← call (.input "Type RESTORE-CC2 to continue: ")
  lift (confirmed phrase "RESTORE-CC2" "confirmation did not match; nothing was written")

/-- `answer.strip().casefold() in {"y", "yes"}`. -/
def isAffirmative (answer : String) : Bool :=
  pyText.casefold (unicode.strip (text answer)) ∈ [text "y", text "yes"]

def ADB_QUESTION : String :=
  "ADB is offline after restore. Start /bin/adbd temporarily through " ++
    "normal HID for post-write readback? [y/N] "

def confirmTemporaryAdbForReadback : Host Unit := do
  let terminal ← call .isatty
  lift (raiseIf (terminal = false)
    (.protocolError ("ADB is offline after restore; temporary ADB startup requires an " ++
      "interactive confirmation. No HID ADB-start command was sent, and " ++
      "the restore is not post-verified")))
  let answer ← call (.input ADB_QUESTION)
  lift (raiseIf (isAffirmative unicode pyText answer = false)
    (.protocolError ("temporary ADB startup was declined. No HID ADB-start command was " ++
      "sent, and the restore is not post-verified")))

/-! ## `restore` -/

/-- The callback of the transfer: every fifth percent, once. -/
def transferProgress : Progress where
  State := Int
  start := -1
  report last done total :=
    let percent : Int := done * 100 / total
    if percent ≠ last ∧ (percent % 5 = 0 ∨ done = total) then
      (percent, ["Transfer: " ++ toString percent ++ "% (" ++ toString done ++ "/" ++ toString total ++ ")"])
    else (last, [])

/-- What passed the offline checks of `command_restore`. -/
structure Checked where
  image : Bytes
  preserved : Bytes
  blob : Bytes
  plan : UpdatePlan

-- from the start to `_confirm`
def checkRestore (args : RestoreArgs) (file : FileView) : Host Checked := do
  let preserved ← lift (loadPreservedBackup hashlib pyText json args.backup file)
  let image ← call (.readBytes args.image.str)
  lift (validateFullRestoreImage image)
  lift (validateReplacementAgainstBackup image preserved)
  printAll (if hashlib.sha256 image = hashlib.sha256 preserved then
    ["Note: replacement image is byte-identical to the preserved backup."] else [])
  let (blob, plan) ← lift (buildUpdateBlob hashlib image 0)
  lift (validatePreparationImage hashlib preserved)
  confirmWrite hashlib args image
  pure { image := image, preserved := preserved, blob := blob, plan := plan }

-- up to the return of normal mode
def writeImage (args : RestoreArgs) (rounds : Rounds) (checked : Checked) : Host Unit := do
  call (.print "Validating the live camera and preparing its temporary SFC erase size.")
  prepareRestore hashlib unicode pyText args.client checked.preserved readProgress
  call (.print "Entering bootloader HID mode; the 8-byte flag write begins now.")
  enterBootloader
  waitForHid BOOT_VID BOOT_HID_PID args.bootloaderTimeout rounds.bootloader
  restoreBlob checked.blob checked.plan transferProgress
  printAll ["Bootloader accepted the image MD5 and has started erase/write.",
    "Do not disconnect power; waiting for normal-mode USB to return."]
  waitForHid NORMAL_VID NORMAL_PID args.rebootTimeout rounds.reboot

def raiseWhenExpired (remaining : ℚ) (msg : String) : Host Unit := lift (raiseIf (remaining ≤ 0) (.protocolError msg))

def notPostVerified : String :=
  "normal HID returned, but ADB readback did not become available; write is not post-verified"

-- `except AdbUnavailable` of the wait for a shell
def startTemporaryAdb (args : RestoreArgs) (rounds : Rounds) (deadline : ℚ) : Host Unit := do
  confirmTemporaryAdbForReadback unicode pyText
  let now ← call .monotonic
  raiseWhenExpired (deadline - now)
    ("post-restore ADB availability timeout expired before the " ++
      "temporary start. No HID ADB-start command was sent, and " ++ "the restore is not post-verified")
  startAdbThroughUploadCommand.handle fun x => .raise (if x.isProtocolError then
    .protocolError ("normal HID returned, but the explicitly confirmed temporary " ++
      "ADB start failed; write is not post-verified") else x)
  let later ← call .monotonic
  raiseWhenExpired (deadline - later)
    ("post-restore ADB availability timeout expired after the " ++ "confirmed temporary start; write is not post-verified")
  (args.client.waitForDevice unicode pyText (deadline - later) rounds.adb).handle fun x => .raise
    (if x.isProtocolError then .protocolError notPostVerified else x)

def firstAvailability (args : RestoreArgs) (deadline : ℚ) : Host Unit := do
  let now ← call .monotonic
  raiseWhenExpired (deadline - now) "post-restore ADB availability timeout expired; write is not post-verified"
  args.client.ensureAvailable unicode pyText (min 10 (deadline - now))

def awaitAdb (args : RestoreArgs) (rounds : Rounds) : Host Unit := do
  let start ← call .monotonic
  (firstAvailability unicode pyText args (start + args.adbTimeout)).handle fun x =>
    if x.isAdbUnavailable then startTemporaryAdb unicode pyText args rounds (start + args.adbTimeout)
    else .raise (if x.isProtocolError then .protocolError notPostVerified else x)

def verifyRestore (args : RestoreArgs) (image : Bytes) : Host Unit := do
  let (verified, _) ← (acquireStable hashlib unicode pyText args.client readProgress).handle fun x => .raise
    (if x.isProtocolError then
      .protocolError ("ADB became available, but stable post-write readback failed; " ++
        "write is not post-verified: " ++ x.str)
    else x)
  let exact ← lift (validatePostRestoreReadback image verified)
  printAll
    [if exact then "Restore complete: three consecutive post-write reads exactly match the input image."
      else "Restore complete: three consecutive post-write reads match every " ++
        "boot-stable byte through HWCONFIG. Config changed during the " ++
        "required verification boot and was not claimed byte-exact.",
      "SHA256: " ++ hashlib.sha256 image]

/-- `command_restore(args)`; `file` is what `args.backup` shows. -/
def commandRestore (args : RestoreArgs) (file : FileView) (rounds : Rounds) : Host Nat :=
  if args.dryRun then commandPlan hashlib pyText json pretty args file
  else do
    let checked ← checkRestore hashlib pyText json args file
    writeImage hashlib unicode pyText args rounds checked
    printAll ["Normal mode returned; requiring three consecutive identical flash reads for post-write verification."]
    awaitAdb unicode pyText args rounds
    verifyRestore hashlib unicode pyText args checked.image
    pure 0

end Command

/-! ## `main` -/

/-- What `main` makes of a command's exception. -/
def Exc.isReported (x : Exc) : Bool := x.isProtocolError ∨ x.isValidationError ∨ x.isOsError ∨ x = .eofError

/-- The exit code of `main` with this command. -/
def exitCode (command : Host Nat) : Host Nat :=
  command.handle fun x =>
    if x.isReported then do
      call (.print ("cc2camera: error: " ++ x.str))
      pure 2
    else .raise x

end Cc2Camera
