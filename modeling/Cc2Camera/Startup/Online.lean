import Cc2Camera.Image.Jffs2
import Cc2Camera.Restore.Camera
import Cc2Camera.Startup.Calls

/-!
# Online — what `install_startup` asks of the camera: space, confirmed scripts and managed files
-/

open Bytes Exceptions Program

namespace Cc2Camera.Installer

open Host AdbBackup Startup

/-! ## Space -/

def ERASE : Nat := 0x4000

def RESERVE_BLOCKS : Nat := 5

structure SpacePlan where
  cleanBlocks : Nat
  writeBudget : Nat
  filesystemAvailable : Int
  deriving DecidableEq

def cleanHeader : Bytes := leFields [(2, 0x1985), (2, 0x2003), (4, 12)]

def cleanMarker : Bytes := cleanHeader ++ leBytes 4 (Image.jffs2Crc cleanHeader)

def isClean (config : Bytes) (o : Nat) : Bool :=
  slice config o (o + 12) = cleanMarker ∧
    slice config (o + 12) (o + ERASE) = List.replicate (ERASE - 12) 0xFF

def cleanBlocks (config : Bytes) : Nat :=
  (List.range ((config.length + ERASE - 1) / ERASE)).countP fun k => isClean config (k * ERASE)

/-- What writing one payload may cost. -/
def writeCost (data : Bytes) : Nat := data.length + (data.length + 4095) / 4096 * 128 + 1024

def writeBudget (payloads : List Managed) : Nat :=
  (4096 + (payloads.map fun entry => writeCost entry.2).sum + ERASE - 1) / ERASE * ERASE

def spacePlan (config : Bytes) (payloads : List Managed) (available : Int) : Except Exc SpacePlan := do
  raiseIf (config.length ≠ 0x20000 ∨ payloads = [] ∨ available < 0)
    (.protocolError "invalid config space evidence")
  let clean := cleanBlocks config
  let budget := writeBudget payloads
  raiseIf (clean * ERASE < budget + RESERVE_BLOCKS * ERASE ∨ available < budget + ERASE)
    (.protocolError ("insufficient safe config space: " ++ toString clean ++ " clean 16-KiB blocks, " ++
      toString available ++ " filesystem bytes available; need " ++ toString budget ++
      " write bytes plus " ++ toString RESERVE_BLOCKS ++
      " clean reserve blocks. No persistent write performed"))
  .ok { cleanBlocks := clean, writeBudget := budget, filesystemAvailable := available }

/-! ## Confirmed scripts -/

section Camera

variable (unicode : Unicode) (adb : AdbClient)

-- white space of `bytes`
def isByteSpace (b : UInt8) : Bool := b = 32 ∨ (9 ≤ b.toNat ∧ b.toNat ≤ 13)

def OK_MARK : Bytes := ascii "CC2_OK"

/-- The checks of `_checked` on what the shell printed. -/
def confirmed (printed : Bytes) : Except Exc Bytes := do
  let output := stripped isByteSpace (printed.filter (· ≠ 13))
  raiseIf (¬OK_MARK <:+ output)
    (.protocolError ("camera preflight/write did not confirm success: " ++
      textString (asciiReplace (output.drop (output.length - 500)))))
  .ok (stripped isByteSpace (output.take (output.length - 6)))

def checked (script : String) (timeout : ℚ) : Host Bytes := do
  let printed ← adb.shell unicode [script ++ "\n"] timeout
  lift (confirmed printed)

def STATFS_SCRIPT : String := "busybox stat -f -c '%a %S' /etc/conf.d && echo CC2_OK"

/-- The two numbers of a free-space report. -/
def matchStatfs (output : Bytes) : Option (Text × Text) := do
  let (blocks, rest) ← some1 isDigit (output.map UInt8.toNat)
  let rest ← literal " " rest
  let (size, rest) ← some1 isDigit rest
  if rest = [] then some (blocks, size) else none

def availableOf (output : Bytes) : Except Exc Int := do
  let (blocks, size) ← orRaise (matchStatfs output) (.protocolError "invalid filesystem free-space report")
  let blocks ← decimalInt blocks
  let size ← decimalInt size
  raiseIf (size ≠ 4096 ∨ 32 < blocks) (.protocolError "unexpected config statfs geometry")
  .ok (blocks * size)

def available : Host Int := do
  let output ← checked unicode adb STATFS_SCRIPT 30
  lift (availableOf output)

/-! ## Managed files -/

def isSafe (c : Char) : Bool :=
  c.isAlphanum ∨ c ∈ ['_', '@', '%', '+', '=', ':', ',', '.', '/', '-']

/-- `shlex.quote`. -/
def shlexQuote (s : String) : String :=
  if s = "" then "''"
  else if s.toList.all isSafe then s
  else "'" ++ s.replace "'" "'\"'\"'" ++ "'"

def kindScript (quoted : String) : String :=
  "if [ -L " ++ quoted ++ " ]; then echo link; elif [ -f " ++ quoted ++ " ]; then echo file; elif [ -e " ++
    quoted ++ " ]; then echo other; else echo absent; fi; echo CC2_OK"

def sizeScript (quoted : String) : String := "busybox stat -c %s " ++ quoted ++ " && echo CC2_OK"

def modeScript (quoted : String) : String := "busybox stat -c %a " ++ quoted ++ " && echo CC2_OK"

/-- The size a managed file reports, when it is a number and small enough. -/
def hookSize (remote : String) (size : Bytes) : Except Exc Nat := do
  let digits := size.map UInt8.toNat
  let oversized := Exc.protocolError ("oversized managed hook: " ++ remote)
  raiseIf (digits = [] ∨ !digits.all isDigit) oversized
  let value ← decimalInt digits
  raiseIf (MAX_HOOK_BYTES < value) oversized
  .ok value

/-- `adb.pull(remote, local)` and `local.read_bytes()`. -/
def pullBytes (remote localPath : String) : Host Bytes := do
  adb.pull unicode remote localPath
  call (.readBytes localPath)

-- the part of `_read_optional` for a regular file
def readHook (remote localPath : String) : Host Bytes := do
  let quoted := shlexQuote remote
  let reported ← checked unicode adb (sizeScript quoted) 30
  let size ← lift (hookSize remote reported)
  let mode ← checked unicode adb (modeScript quoted) 30
  lift (raiseIf (mode ≠ ascii "755")
    (.protocolError ("unexpected hook permissions: " ++ remote ++ "; expected 755")))
  let data ← pullBytes unicode adb remote localPath
  lift (raiseIf (data.length ≠ size) (.protocolError "hook changed during preflight"))
  pure data

def readOptional (remote localPath : String) : Host (Option Bytes) := do
  let kind ← checked unicode adb (kindScript (shlexQuote remote)) 30
  if kind = ascii "absent" then pure none
  else do
    lift (raiseIf (kind ≠ ascii "file") (.protocolError ("refusing non-regular managed path: " ++ remote)))
    let data ← readHook unicode adb remote localPath
    pure (some data)

end Camera

end Cc2Camera.Installer
