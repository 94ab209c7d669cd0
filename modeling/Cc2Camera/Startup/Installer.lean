import Cc2Camera.Startup.Online

/-!
# Installer — `install_startup` as it talks to the camera
-/

open Bytes Exceptions Program

namespace Cc2Camera.Installer

open Host AdbBackup RestorePrepare Startup

/-- The features `install_startup` knows. -/
def functionalityOf (name : String) : Option Functionality :=
  if name = "adb" then some .adb else if name = "erase-fix" then some .eraseFix else none

def MOUNT_SCRIPT : String :=
  "[ \"$(id -u)\" = 0 ] &&\n" ++
  "busybox awk '$2==\"/etc/conf.d\" && $1==\"/dev/mtdblock5\" && $3==\"jffs2\" && " ++
    "$4 ~ /(^|,)rw(,|$)/ \x7bn++\x7d END \x7bexit(n!=1)\x7d' /proc/mounts &&\n" ++
  "busybox awk '$2==\"/tmp\" && $3==\"tmpfs\" \x7bn++\x7d END \x7bexit(n!=1)\x7d' /proc/mounts &&\n" ++
  "[ ! -L /etc/conf.d ] && [ ! -L /etc/conf.d/enabled ] &&\n" ++
  "\x7b [ ! -e /etc/conf.d/enabled ] || [ -d /etc/conf.d/enabled ]; \x7d && echo CC2_OK"

def MKTEMP_SCRIPT : String := "umask 077; busybox mktemp -d /tmp/cc2-install.XXXXXX && echo CC2_OK"

def SYNC_SCRIPT : String := "sync && echo CC2_OK"

def STAGE_PREFIX : Bytes := ascii "/tmp/cc2-install."

def isAlphanumeric (b : UInt8) : Bool :=
  (48 ≤ b ∧ b ≤ 57) ∨ (65 ≤ b ∧ b ≤ 90) ∨ (97 ≤ b ∧ b ≤ 122)

/-- One `/tmp/cc2-install.XXXXXX` directory. -/
def IsStage (name : Bytes) : Prop :=
  STAGE_PREFIX <+: name ∧ (name.drop STAGE_PREFIX.length).length = 6 ∧
    (name.drop STAGE_PREFIX.length).all isAlphanumeric = true

instance (name : Bytes) : Decidable (IsStage name) := inferInstanceAs (Decidable (_ ∧ _))

def configPart (image : Bytes) : Bytes := image.drop 0x7E0000

section Steps

variable (unicode : Unicode) (adb : AdbClient)

/-- The first loop: the requested files that are absent; any other content than the exact one is refused. -/
def inspect (root : String) : List (Managed × Nat) → Host (List Managed)
  | [] => pure []
  | (entry, i) :: rest => do
    let current ← readOptional unicode adb (managedText entry.1) (joinPath root ("old-" ++ toString i))
    lift (raiseIf (current ≠ none ∧ current ≠ some entry.2)
      (.protocolError ("unknown existing " ++ managedText entry.1 ++
        "; preserve and resolve it explicitly; no migration or overwrite")))
    let others ← inspect root rest
    pure (if current = none then entry :: others else others)

def makeStage : Host Bytes := do
  let stage ← checked unicode adb MKTEMP_SCRIPT 30
  lift (raiseIf (¬IsStage stage) (.protocolError "invalid RAM staging directory"))
  pure stage

def push (localPath remote : String) (content : Bytes) : Host Unit := do
  call (.writeBytes localPath content)
  let _ ← adb.run unicode ["push", localPath, remote] 30
  pure ()

/-- Each payload is pushed to the staging directory and read back there. -/
def stagePayloads (root stage : String) : List (Managed × Nat) → Host Unit
  | [] => pure ()
  | (entry, i) :: rest => do
    push unicode adb (joinPath root ("new-" ++ toString i)) (joinPath stage (toString i)) entry.2
    let back ← pullBytes unicode adb (joinPath stage (toString i)) (joinPath root "readback")
    lift (raiseIf (back ≠ entry.2)
      (.protocolError "RAM staging readback mismatch; config untouched"))
    stagePayloads root stage rest

/-- Files already present are staged for the comparison in the guards. -/
def stageExisting (root stage : String) (payloads : List Managed) : List (Managed × Nat) → Host Unit
  | [] => pure ()
  | (entry, i) :: rest => do
    if entry.1 ∈ payloads.map Prod.fst then stageExisting root stage payloads rest
    else do
      push unicode adb (joinPath root ("existing-" ++ toString i))
        (joinPath stage ("existing-" ++ toString i)) entry.2
      stageExisting root stage payloads rest

def finalModeScript (dest : String) : String :=
  "[ ! -L " ++ dest ++ " ] && [ \"$(busybox stat -c %a " ++ dest ++ ")\" = 755 ] && echo CC2_OK"

/-- The last loop: mode and content of every requested file. -/
def verifyInstalled (root : String) : List (Managed × Nat) → Host Unit
  | [] => pure ()
  | (entry, i) :: rest => do
    let _ ← checked unicode adb (finalModeScript (managedText entry.1)) 30
    let back ← pullBytes unicode adb (managedText entry.1) (joinPath root ("final-" ++ toString i))
    lift (raiseIf (back ≠ entry.2)
      (.protocolError ("persistent hook readback mismatch; stop, preserve diagnostics; " ++
        "do not retry blindly")))
    verifyInstalled root rest

def guardScript (stage : String) (requests payloads : List Managed) (blocks : Nat) : String :=
  guardText stage (guards requests payloads blocks) ++ " && echo CC2_OK"

/-- The free blocks the guards ask for. -/
def guardBlocks (plan : SpacePlan) : Nat := (plan.writeBudget + ERASE) / 4096

/-- The body of the inner `try`: stage, check again, write once and read back. -/
def installStaged (root stage : String) (live : Bytes) (requests payloads : List Managed) :
    Host SpacePlan := do
  stagePayloads unicode adb root stage payloads.zipIdx
  singleCamera unicode adb
  let _ ← checked unicode adb SYNC_SCRIPT 30
  let now ← pullBytes unicode adb "/dev/mtd5" (joinPath root "config-now")
  lift (raiseIf (now ≠ configPart live)
    (.protocolError "config changed during installation preflight; config untouched"))
  let free ← available unicode adb
  let plan ← lift (spacePlan now payloads free)
  stageExisting unicode adb root stage payloads requests.zipIdx
  let _ ← checked unicode adb (guardScript stage requests payloads (guardBlocks plan)) 30
  let _ ← checked unicode adb (scriptText stage (installScript requests payloads (guardBlocks plan))) 120
  verifyInstalled unicode adb root requests.zipIdx
  pure plan

def removeStage (stage : String) : Host Unit := do
  let _ ← adb.shell unicode ["rm -rf " ++ stage] 30
  pure ()

/-- The body of the outer `with`. -/
def installInto (root : String) (live : Bytes) (requests : List Managed) : Host (Option SpacePlan) := do
  let payloads ← inspect unicode adb root requests.zipIdx
  if payloads = [] then pure none
  else do
    let free ← available unicode adb
    let _ ← lift (spacePlan (configPart live) payloads free)
    let stage ← makeStage unicode adb
    let stage := textString (stage.map UInt8.toNat)
    let plan ← (installStaged unicode adb root stage live requests payloads).ensuring
      (removeStage unicode adb stage)
    pure (some plan)

end Steps

section Install

variable (hashlib : Hashlib) (unicode : Unicode) (pyText : PyText) (json : JsonCodec)

/-- `install_startup(adb, backup, functionality=..., progress=...)`; `file` is what `backup` shows. -/
def installStartup (adb : AdbClient) (backup : Cc2Camera.Path) (file : FileView) (functionality : String)
    (progress : ReadProgress) : Host (Option SpacePlan) := do
  let feature ← lift (orRaise (functionalityOf functionality)
    (.protocolError "unknown startup functionality"))
  let preserved ← lift (loadPreservedBackup hashlib pyText json backup file)
  lift (validatePreparationImage hashlib preserved)
  adb.ensureAvailable unicode pyText 10
  singleCamera unicode adb
  let (live, _) ← acquireStable hashlib unicode pyText adb progress
  lift (validatePreparationImage hashlib live)
  lift (validateReplacementAgainstBackup live preserved)
  let (_, parts) ← adb.identityAndPartitions unicode pyText
  lift (raiseIf (∃ part ∈ parts, part.eraseSize ≠ ERASE)
    (.protocolError "unexpected partition erase geometry"))
  let _ ← checked unicode adb MOUNT_SCRIPT 30
  let root ← call (.makeTempDir "cc2-hooks-")
  (installInto unicode adb root live (requested feature)).ensuring (call (.removeTempDir root))

end Install

end Cc2Camera.Installer
