import Cc2Camera.Startup.EraseHook
import Cc2Camera.Startup.Online

/-!
# Preparation — `prepare_restore`, which sets the erase size the flag write needs

Everything the camera prints is text that is parsed here before it becomes part of a command.
-/

open Bytes Exceptions Program

namespace Cc2Camera.RestorePrepare

open Host AdbBackup
open Installer (isByteSpace)
open StartupPayloads (hex8 wordText)

/-! ## What the camera prints -/

/-- The digits of a `devmem` readback. -/
def matchWord (printed : Bytes) : Option Text := do
  let digits ← literal "0x" ((stripped isByteSpace printed).map UInt8.toNat)
  if digits.length = 8 ∧ digits.all isHexDigit then some digits else none

/-- The checks of `_word` on what was printed. -/
def wordOf (printed : Bytes) : Except Exc Nat := do
  let digits ← orRaise (matchWord printed) (.protocolError "invalid devmem readback; no HID trigger was sent")
  .ok (digitsValue 16 digits)

def fieldAddress (pointer : Nat) : Except Exc Nat := do
  raiseIf (pointer % 4 ≠ 0 ∨ ¬(0x80450000 ≤ pointer ∧ pointer ≤ 0x84000000 - 0x264))
    (.protocolError "SFC object pointer is outside the supported RAM range")
  .ok (pointer - 0x80000000 + ERASE_OFFSET)

/-- The address on a line of `/proc/kallsyms`, when it is about the function `name`. -/
def symbolOn (name : String) (line : Text) : Option Text :=
  let digits := line.take 8
  if digits.length = 8 ∧ digits.all isHexDigit ∧
      (line.drop 8 = text (" t " ++ name) ∨ line.drop 8 = text (" T " ++ name)) then some digits
  else none

/-- `re.findall` with the pattern of one symbol. -/
def symbolMatches (name : String) (symbols : Text) : List Text :=
  ((withoutCr symbols).splitOn 10).filterMap (symbolOn name)

def checkSymbols (symbols : Text) : List (String × Nat) → Except Exc Unit
  | [] => .ok ()
  | (name, address) :: rest => do
    raiseIf (symbolMatches name symbols ≠ [text (hex8 address)])
      (.protocolError ("missing, ambiguous or unexpected kernel symbol: " ++ name))
    checkSymbols symbols rest

def confirmSync (printed : Bytes) : Except Exc Unit :=
  raiseIf (stripped isByteSpace printed ≠ ascii "CC2_SYNC_OK")
    (.protocolError "sync failed; no RAM write or HID trigger was sent")

def confirmErase (printed : Bytes) : Except Exc Unit :=
  raiseIf (stripped isByteSpace (printed.filter (· ≠ 13)) ≠ ascii "0x00001000\nCC2_ERASE_READY")
    (.protocolError "guarded SFC write/readback did not confirm 0x1000")

/-! ## The guarded command -/

/-- Recheck the pointer and the value, write unless it is written already, and read back: one command line. -/
def guardedCommand (pointer field old : Nat) : String :=
  "[ \"$(busybox devmem 0x" ++ hex8 POINTER_PHYSICAL ++ " 32)\" = \"" ++ wordText pointer ++ "\" ] && " ++
    ("[ \"$(busybox devmem 0x" ++ hex8 field ++ " 32)\" = \"" ++ wordText old ++ "\" ] && ") ++
    (if old ≠ 0x1000 then "busybox devmem 0x" ++ hex8 field ++ " 32 0x00001000 && " else "") ++
    ("busybox devmem 0x" ++ hex8 field ++ " 32 && echo CC2_ERASE_READY")

/-- What `except AdbUnavailable` makes of an exception. -/
def notOnline : Exc → Exc
  | .adbUnavailable _ =>
    .protocolError ("restore requires online root ADB before its flag write; run the " ++
      "explicit start-adb command with the same --adb/--serial selection " ++
      "and retry. No HID trigger was sent")
  | x => x

/-- What `except ProtocolError` around the guarded command makes of an exception. -/
def maybePatched (x : Exc) : Exc :=
  if x.isProtocolError then
    .protocolError (x.str ++ "; no HID trigger was sent. RAM may already be patched; " ++
      "no automatic retry or rollback was attempted")
  else x

/-! ## The run -/

section Prepare

variable (hashlib : Hashlib) (unicode : Unicode) (pyText : PyText) (adb : AdbClient)

def word (address : Nat) : Host Nat := do
  let printed ← adb.shell unicode ["busybox", "devmem", "0x" ++ hex8 address, "32"] 30
  lift (wordOf printed)

def checkInstructions : List (Nat × Nat) → Host Unit
  | [] => pure ()
  | (address, expected) :: rest => do
    let found ← word unicode adb address
    lift (raiseIf (found ≠ expected)
      (.protocolError "live SFC instructions do not match the known kernel"))
    checkInstructions rest

/-- The guarded command and the independent reads after it. -/
def writeAndVerify (pointer field old : Nat) : Host Unit := do
  let printed ← adb.shell unicode [guardedCommand pointer field old] 30
  lift (confirmErase printed)
  let pointerNow ← word unicode adb POINTER_PHYSICAL
  let changed := Exc.protocolError "SFC pointer or erase-size readback changed"
  lift (raiseIf (pointerNow ≠ pointer) changed)
  let value ← word unicode adb field
  lift (raiseIf (value ≠ 0x1000) changed)

-- from `/proc/kallsyms` to the end of `prepare_restore`
def patchEraseSize : Host Unit := do
  let symbols ← adb.shell unicode ["cat", "/proc/kallsyms"] 30
  lift (checkSymbols (asciiReplace symbols) SYMBOLS)
  checkInstructions unicode adb INSTRUCTIONS
  let pointer ← word unicode adb POINTER_PHYSICAL
  let field ← lift (fieldAddress pointer)
  let old ← word unicode adb field
  lift (raiseIf (old ≠ 0x4000 ∧ old ≠ 0x1000)
    (.protocolError "unexpected live SFC erase size; refusing RAM modification"))
  let synced ← adb.shell unicode ["sync && echo CC2_SYNC_OK"] 30
  lift (confirmSync synced)
  singleCamera unicode adb
  (writeAndVerify unicode adb pointer field old).handle fun x => .raise (maybePatched x)

def prepareRestore (preserved : Bytes) (progress : ReadProgress) : Host Unit := do
  lift (validatePreparationImage hashlib preserved)
  (adb.ensureAvailable unicode pyText 10).handle fun x => .raise (notOnline x)
  singleCamera unicode adb
  let (live, _) ← acquireStable hashlib unicode pyText adb progress
  lift (validatePreparationImage hashlib live)
  lift (validateReplacementAgainstBackup live preserved)
  let (_, parts) ← adb.identityAndPartitions unicode pyText
  lift (raiseIf (∃ part ∈ parts, part.eraseSize ≠ 0x4000)
    (.protocolError "unexpected MTD erase geometry; refusing RAM modification"))
  patchEraseSize unicode adb

end Prepare

end Cc2Camera.RestorePrepare
