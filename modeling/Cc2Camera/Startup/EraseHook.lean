import Cc2Camera.Lib.Shell
import Cc2Camera.Restore.Prepare
import Cc2Camera.Backup.Preserved

/-!
# EraseHook — the boot script of `startup_payloads.erase_hook`

The script line by line, over arbitrary outcomes of the commands it runs.  Shell arithmetic on the text
a command printed is a parameter: `none` is an expansion error, which ends the script.
-/

open Program Shell

namespace Cc2Camera.StartupPayloads

open RestorePrepare AdbBackup

def KERNEL_MD5 : String := "388e256470b2ad70f4a29cc37e0fee32"

/-- The variables the runner hands to a hook. -/
structure Environment where
  CC2_STAGE : String
  PWD : String
  deriving DecidableEq, Repr

/-! ## Commands -/

-- word() { busybox devmem "$1" 32; }
def word (address : String) : Command := ["busybox", "devmem", address, "32"]

def ramWrite (field : String) : Command := ["busybox", "devmem", field, "32", "0x00001000"]

def pointerWord : Command := word "0x0043b190"

def mounted : Command :=
  ["busybox", "awk",
   "$2==\"/etc/conf.d\" \x7bn++; if($1!=\"/dev/mtdblock5\" || $3!=\"jffs2\" || $4 !~ /(^|,)rw(,|$)/)bad=1\x7d " ++
     "END \x7bexit(n!=1 || bad)\x7d",
   "/proc/mounts"]

def mountTopology : Command :=
  ["busybox", "awk",
   "$1==\"/dev/mtdblock5\" || $2 ~ /^\\/etc\\/conf.d\\// \x7bn++\x7d END \x7bprint n+0\x7d", "/proc/mounts"]

def configUnmounted : Command :=
  ["busybox", "awk", "$2==\"/etc/conf.d\" \x7bbad=1\x7d END \x7bexit bad\x7d", "/proc/mounts"]

def partitionTable : Command :=
  ["busybox", "sed", "1d;y/ABCDEFGHIJKLMNOPQRSTUVWXYZ/abcdefghijklmnopqrstuvwxyz/", "/proc/mtd"]

def symbolAddress (name : String) : Command :=
  ["busybox", "awk", "$3==\"" ++ name ++ "\" \x7bprint $1\x7d", "/proc/kallsyms"]

def kernelMd5 : Command := ["busybox", "md5sum", "/dev/mtd1"]

-- its output goes to /dev/null
def pidofUcamera : Command := ["busybox", "pidof", "ucamera"]

def unmount : Command := ["busybox", "umount", "/etc/conf.d"]

def mountConfig : Command :=
  ["busybox", "mount", "-t", "jffs2", "/dev/mtdblock5", "/etc/conf.d"]

def serialPresent : Command := ["[", "-s", "/etc/conf.d/serial.cfg", "]"]

def activeMessage : Command :=
  ["echo", "cc2flash: erase fix active; master=0x1000; partition geometry=0x4000"]

/-! ## Texts the script compares with -/

/-- `f'{value:08x}'`. -/
def hex8 (value : Nat) : String := paddedDigits 16 8 value

/-- `f'{value:#x}'`. -/
def hexPrefixed (value : Nat) : String := "0x" ++ paddedDigits 16 1 value

/-- `f'0x{value:08X}'`. -/
def wordText (value : Nat) : String := "0x" ++ (hex8 value).toUpper

def mtdLine (entry : (String × Nat) × Nat) : String :=
  "mtd" ++ toString entry.2 ++ ": " ++ hex8 entry.1.2 ++ " 00004000 \"" ++ entry.1.1 ++ "\""

def mtd : String := "\n".intercalate (EXPECTED_PARTITIONS.zipIdx.map mtdLine)

/-- The pattern `0x????????`. -/
def isWordText (text : String) : Bool := text.length == 10 && "0x".isPrefixOf text

def pointerInRange (p : Int) : Bool := 0x80450000 ≤ p && p ≤ 0x83fffd9c && p.tmod 4 == 0

/-! ## The script -/

def fail (arguments : String) : Sh Unit := do
  let _ ← exec ["echo", "cc2flash: erase fix refused: " ++ arguments]
  exit 1

def symbols : Sh Unit :=
  each SYMBOLS fun (name, address) => orElse (prints (symbolAddress name) (hex8 address)) (fail "symbols")

def checks : Sh Unit :=
  each INSTRUCTIONS fun (address, value) =>
    orElse (prints (word (hexPrefixed address)) (wordText value)) (fail "instructions")

/-- `$((text))`. -/
def arithmetic (arith : String → Option Int) (text : String) : Sh Int :=
  match arith text with
  | some value => pure value
  | none => exit 1

/-- Up to the last line before `umount`: the pointer, the field's address and its old value. -/
def preflight (arith : String → Option Int) (env : Environment) : Sh (String × String × String) := do
  orElse (pure (env.CC2_STAGE != "" && env.PWD == "/")) (fail "runner")
  andThen (succeeds pidofUcamera) (fail "ucamera-running")
  orElse (succeeds mounted) (fail "config-mount")
  orElse (prints mountTopology "1") (fail "mount-topology")
  orElse (prints partitionTable mtd) (fail "partition-map")
  symbols
  checks
  let hash ← capture kernelMd5 (fail "kernel-read")
  orElse (pure (hash == KERNEL_MD5 ++ "  /dev/mtd1")) (fail "kernel-hash")
  let pointer ← capture pointerWord (fail "pointer")
  orElse (pure (isWordText pointer)) (fail "pointer-format")
  let p ← arithmetic arith pointer
  orElse (pure (pointerInRange p)) (fail "pointer-range")
  let field := toString (p - 0x80000000 + 16)
  let old ← capture (word field) (fail "field")
  orElse (pure (old == "0x00004000" || old == "0x00001000")) (fail "erase-size")
  andThen (succeeds pidofUcamera) (fail "ucamera-running")
  orElse (succeeds ["sync"]) (fail "sync")
  pure (pointer, field, old)

def recheck (pointer field old : String) : Sh Unit := do
  orElse (succeeds configUnmounted) (fail "still-mounted")
  orElse (both (prints pointerWord pointer) (prints (word field) old)) (fail "pointer-changed")
  checks

def writeField (field old : String) : Sh Unit :=
  if old ≠ "0x00001000" then orElse (succeeds (ramWrite field)) (fail "ram-write") else pure ()

def readBack (pointer field : String) : Sh Unit :=
  orElse (both (prints pointerWord pointer) (prints (word field) "0x00001000")) (fail "readback")

def remount : Sh Unit := orElse (succeeds mountConfig) (fail "remount")

/-- The lines between `trap '…' 0` and `trap - 0`. -/
def correct (pointer field old : String) : Sh Unit := do
  recheck pointer field old
  writeField field old
  readBack pointer field
  remount

/-- The trap's action. -/
def recoveryMount : Sh Unit :=
  orElse (succeeds mountConfig) do
    let _ ← exec ["echo", "cc2flash: recovery mount FAILED"]
    pure ()

def verify : Sh Unit := do
  orElse (succeeds mounted) (fail "mount-readback")
  orElse (prints partitionTable mtd) (fail "geometry-changed")
  orElse (succeeds serialPresent) (fail "serial-missing")

/-- The whole script; its result is the status of the last command. -/
def eraseHook (arith : String → Option Int) (env : Environment) : Sh Nat := do
  let (pointer, field, old) ← preflight arith env
  orElse (succeeds unmount) (fail "unmount")
  trapExit recoveryMount (correct pointer field old)
  verify
  let finished ← exec activeMessage
  pure finished.status

end Cc2Camera.StartupPayloads
