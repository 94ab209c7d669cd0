import Cc2Camera.Adb.Mtd
import Cc2Camera.Device.Host
import Mathlib.Data.List.Infix

/-!
# Client — `AdbClient` and `acquire_stable`

Each `adb` invocation is one `subprocess.run`; whatever it answers is checked here.
-/

open Bytes Exceptions Program

namespace Cc2Camera.AdbBackup

open Host

/-- `data.decode("utf-8", "replace")` and `str.strip()`. -/
structure Unicode where
  decode : Bytes → Text
  strip : Text → Text

section Client

variable (unicode : Unicode) (pyText : PyText)

structure AdbClient where
  executable : String
  serial : Option String

def AdbClient.base (adb : AdbClient) : List String :=
  match adb.serial with
  | none => [adb.executable]
  | some serial => if serial = "" then [adb.executable] else [adb.executable, "-s", serial]

def AdbClient.notFound (adb : AdbClient) : Exc :=
  .protocolError ("ADB executable not found: " ++ adb.executable ++
    ". Install Google SDK Platform Tools, then pass --adb with the path to adb. " ++
    "Setup: https://github.com/phryneas/cc2_camera_fix/blob/main/docs/INSTALLATION.md")

/-- `subprocess.run` and the two exceptions the client translates. -/
def AdbClient.process (adb : AdbClient) (command : List String) (timeout : ℚ) (timedOut : String) :
    Host CompletedProcess :=
  (call (.runProcess command timeout)).handle fun x =>
    if x = .fileNotFoundError then .raise adb.notFound
    else if x = .timeoutExpired then .raise (.protocolError (timedOut ++ " ".intercalate command))
    else .raise x

def AdbClient.run (adb : AdbClient) (args : List String) (timeout : ℚ) : Host Bytes := do
  let result ← adb.process (adb.base ++ args) timeout "ADB command timed out: "
  lift (raiseIf (result.returncode ≠ 0)
    (.protocolError ("ADB command failed (" ++ toString result.returncode ++ "): " ++
      textString (unicode.strip (unicode.decode result.stderr)))))
  pure result.stdout

def AdbClient.shell (adb : AdbClient) (remoteArgs : List String) (timeout : ℚ) : Host Bytes :=
  adb.run unicode ("shell" :: remoteArgs) timeout

def AdbClient.pull (adb : AdbClient) (remotePath localPath : String) : Host Unit := do
  let _ ← adb.run unicode ["pull", remotePath, localPath] 120
  let present ← call (.isFile localPath)
  lift (raiseIf (present = false)
    (.protocolError ("ADB pull reported success but created no file for " ++ remotePath)))

/-- Whether `ensure_available` takes the camera to be merely not online. -/
def AdbClient.isOffline (adb : AdbClient) (detail : Text) : Bool :=
  let lowered := pyText.casefold detail
  text "no devices" <:+: lowered ∨ (text "device" <:+: lowered ∧ text "not found" <:+: lowered) ∨
    (adb.serial = none ∧ detail = text "no device") ∨ text "device offline" <:+: lowered ∨
    detail = text "offline"

def AdbClient.ensureAvailable (adb : AdbClient) (timeout : ℚ) : Host Unit := do
  lift (raiseIf (timeout ≤ 0)
    (.protocolError "ADB availability timeout must be a finite positive number"))
  let result ← adb.process (adb.base ++ ["get-state"]) timeout "ADB availability check timed out: "
  let state := unicode.strip (unicode.decode result.stdout)
  let stderr := unicode.strip (unicode.decode result.stderr)
  let detail := if stderr ≠ [] then stderr else if state ≠ [] then state else text "no device"
  lift (if result.returncode = 0 ∧ state = text "device" then .ok ()
    else if adb.isOffline pyText detail then
      .error (.adbUnavailable ("ADB camera is not online (" ++ textString detail ++ ")"))
    else .error (.protocolError ("ADB device is not usable (" ++ textString detail ++ ")")))

-- the two kinds of exception that are no failure while the transport changes
def isTransition (x : Exc) : Bool :=
  x.isAdbUnavailable ∨
    (x.isProtocolError ∧ text "adb device is not usable (error: closed)" <:+: pyText.casefold (text x.str))

def waitTimedOut (lastState : String) : Exc :=
  .protocolError ("timed out waiting for ADB to become online; last state: " ++ lastState)

-- the `while` loop, with the iterations it may still make
def AdbClient.waitLoop (adb : AdbClient) (deadline : ℚ) : Nat → String → Host Unit
  | 0, _ => .pending
  | budget + 1, lastState => do
    let now ← call .monotonic
    lift (raiseIf (deadline - now ≤ 0) (waitTimedOut lastState))
    let outcome ← (adb.ensureAvailable unicode pyText (min 10 (deadline - now))).attempt
    match outcome with
    | .ok _ => pure ()
    | .error x => do
      lift (raiseIf (isTransition pyText x = false) x)
      let later ← call .monotonic
      lift (raiseIf (deadline - later ≤ 0) (waitTimedOut x.str))
      call (.sleep (min (1 / 2) (deadline - later)))
      adb.waitLoop deadline budget x.str

/-- Poll across the transition from normal HID to ADB. -/
def AdbClient.waitForDevice (adb : AdbClient) (timeout : ℚ) (budget : Nat) : Host Unit := do
  lift (raiseIf (timeout ≤ 0) (.protocolError "ADB wait timeout must be a finite positive number"))
  let start ← call .monotonic
  adb.waitLoop unicode pyText (start + timeout) budget "ADB has not been checked"

def AdbClient.identityAndPartitions (adb : AdbClient) : Host (Text × List MtdPartition) := do
  adb.ensureAvailable unicode pyText 10
  let output ← adb.shell unicode ["id"] 30
  let identity := unicode.strip (unicode.decode output)
  lift (raiseIf (¬text "uid=0" <:+: identity)
    (.protocolError "ADB shell is not root; refusing raw MTD access"))
  let listing ← adb.shell unicode ["cat", "/proc/mtd"] 30
  let mtd ← lift (asciiStrict listing)
  let parts ← lift (parseProcMtd mtd)
  lift (validatePartitionMap pyText (parts.map MtdPartition.record))
  pure (identity, parts)

/-! ## Full reads -/

def MtdPartition.device (part : MtdPartition) : String := "/dev/mtd" ++ toString part.index

/-- `directory / name`. -/
def joinPath (directory name : String) : String := directory ++ "/" ++ name

def AdbClient.readPartition (adb : AdbClient) (directory : String) (part : MtdPartition) : Host Bytes := do
  let localPath := joinPath directory ("mtd" ++ toString part.index ++ ".bin")
  adb.pull unicode part.device localPath
  let data ← call (.readBytes localPath)
  lift (raiseIf (data.length ≠ part.size)
    (.protocolError ("short read from " ++ part.device ++ ": got " ++ toString data.length ++ ", expected " ++
      toString part.size)))
  pure data

def AdbClient.readPartitions (adb : AdbClient) (directory : String) : List MtdPartition → Host Bytes
  | [] => pure []
  | part :: parts => do
    let data ← adb.readPartition unicode directory part
    let rest ← adb.readPartitions directory parts
    pure (data ++ rest)

def AdbClient.readFlashOnce (adb : AdbClient) (parts : List MtdPartition) : Host Bytes := do
  let directory ← call (.makeTempDir "cc2camera-adb-pull-")
  let image ← (adb.readPartitions unicode directory parts).ensuring (call (.removeTempDir directory))
  lift (raiseIf (image.length ≠ FLASH_SIZE) (.protocolError "assembled flash image is not exactly 8 MiB"))
  pure image

end Client

/-! ## Stable acquisition -/

section Acquire

variable (hashlib : Hashlib) (unicode : Unicode) (pyText : PyText)

/-- A read-progress callback: what it prints. -/
abbrev ReadProgress : Type := Nat → Nat → Nat → Nat → List String

/-- The manifest `acquire_stable` returns. -/
structure Manifest where
  createdUtc : String
  adbSerial : Option String
  deviceIdentity : Text
  readPasses : Nat
  consecutiveIdenticalReads : Nat
  bootloader : BootloaderReference
  digest : List (String × Expected)
  partitions : List MtdPartition

/-- The image accepted, the number of reads and how many of them in a row were equal. -/
structure Accepted where
  image : Bytes
  attempts : Nat
  consecutive : Nat

-- the `for` loop, with the reads it may still make
def AdbClient.acquireLoop (adb : AdbClient) (parts : List MtdPartition) (progress : ReadProgress) :
    Nat → Nat → Nat → Option Bytes → Host (Option Accepted)
  | 0, _, _, _ => pure none
  | remaining + 1, attempts, consecutive, previous => do
    let current ← adb.readFlashOnce unicode parts
    let consecutive := if previous = some current then consecutive + 1 else 1
    printAll (progress (attempts + 1) MAX_READ_ATTEMPTS consecutive REQUIRED_IDENTICAL_READS)
    if REQUIRED_IDENTICAL_READS ≤ consecutive then
      pure (some { image := current, attempts := attempts + 1, consecutive := consecutive })
    else adb.acquireLoop parts progress remaining (attempts + 1) consecutive (some current)

def acquireStable (adb : AdbClient) (progress : ReadProgress) : Host (Bytes × Manifest) := do
  let (identity, parts) ← adb.identityAndPartitions unicode pyText
  let outcome ← adb.acquireLoop unicode parts progress MAX_READ_ATTEMPTS 0 0 none
  let accepted ← lift (orRaise outcome (.protocolError ("five complete flash reads did not produce three " ++
    "consecutive identical images; no backup was accepted or written")))
  let createdUtc ← call .utcNow
  let bootloader ← lift (bootloaderReference hashlib accepted.image)
  pure (accepted.image,
    { createdUtc := createdUtc, adbSerial := adb.serial, deviceIdentity := identity
      readPasses := accepted.attempts, consecutiveIdenticalReads := accepted.consecutive
      bootloader := bootloader, digest := hashes hashlib accepted.image, partitions := parts })

end Acquire

end Cc2Camera.AdbBackup
