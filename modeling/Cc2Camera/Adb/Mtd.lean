import Cc2Camera.Backup.Preserved
import Mathlib.Data.List.Sort

/-!
# Mtd — text the camera prints, and its partition map

Python's text functions on what the tool decodes as ASCII, and `parse_proc_mtd`.
-/

open Exceptions

namespace Cc2Camera

/-! ## Text -/

def textString (t : Text) : String := String.ofList (t.map Char.ofNat)

/-- `data.decode("ascii", "replace")`. -/
def asciiReplace (data : Bytes) : Text := data.map fun b => if b.toNat < 128 then b.toNat else 0xFFFD

/-- `data.decode("ascii", "strict")`. -/
def asciiStrict (data : Bytes) : Except Exc Text := do
  raiseIf (data.any fun b => 128 ≤ b.toNat) .unicodeDecodeError
  .ok (data.map UInt8.toNat)

-- white space of `str` among ASCII characters
def isSpace (c : Nat) : Bool := c = 32 ∨ (9 ≤ c ∧ c ≤ 13) ∨ (28 ≤ c ∧ c ≤ 31)

-- line boundaries of `str.splitlines` among ASCII characters
def isBoundary (c : Nat) : Bool := (10 ≤ c ∧ c ≤ 13) ∨ (28 ≤ c ∧ c ≤ 30)

/-- Without the elements at both ends that satisfy `p`. -/
def stripped {α : Type} (p : α → Bool) (t : List α) : List α :=
  ((t.dropWhile p).reverse.dropWhile p).reverse

def withoutCr (t : Text) : Text := t.filter (· ≠ 13)

/-- `t.splitlines()` of a text without carriage returns. -/
def splitlines (t : Text) : List Text :=
  let pieces := t.splitOnP isBoundary
  if pieces.getLast? = some [] then pieces.dropLast else pieces

/-- `t.split()`. -/
def splitWords (t : Text) : List Text := (t.splitOnP isSpace).filter (· ≠ [])

def isDigit (c : Nat) : Bool := 48 ≤ c ∧ c ≤ 57

def isHexDigit (c : Nat) : Bool := isDigit c ∨ (65 ≤ c ∧ c ≤ 70) ∨ (97 ≤ c ∧ c ≤ 102)

def digitValue (c : Nat) : Nat := if c ≤ 57 then c - 48 else if c ≤ 70 then c - 55 else c - 87

def digitsValue (base : Nat) (digits : Text) : Nat :=
  digits.foldl (fun value c => value * base + digitValue c) 0

/-- `int(digits)`: Python converts at most 4300 decimal digits. -/
def decimalInt (digits : Text) : Except Exc Nat := do
  raiseIf (4300 < digits.length) .valueError
  .ok (digitsValue 10 digits)

namespace AdbBackup

/-! ## `/proc/mtd` -/

-- one or more characters of a class, and what follows them
def some1 (p : Nat → Bool) (t : Text) : Option (Text × Text) :=
  if t.takeWhile p = [] then none else some (t.takeWhile p, t.dropWhile p)

def literal (s : String) (t : Text) : Option Text :=
  if text s <+: t then some (t.drop (text s).length) else none

/-- The groups of `MTD_LINE`: index, size, erase size and name. -/
def matchMtdLine (line : Text) : Option (Text × Text × Text × Text) := do
  let rest ← literal "mtd" line
  let (index, rest) ← some1 isDigit rest
  let rest ← literal ":" rest
  let (_, rest) ← some1 isSpace rest
  let (size, rest) ← some1 isHexDigit rest
  let (_, rest) ← some1 isSpace rest
  let (erase, rest) ← some1 isHexDigit rest
  let (_, rest) ← some1 isSpace rest
  let rest ← literal "\"" rest
  let (name, rest) ← some1 (· ≠ 34) rest
  if rest = text "\"" then some (index, size, erase, name) else none

def partitionsOfLines : List Text → Except Exc (List MtdPartition)
  | [] => .ok []
  | raw :: lines =>
    match matchMtdLine (stripped isSpace raw) with
    | none => partitionsOfLines lines
    | some (index, size, erase, name) => do
      let index ← decimalInt index
      let parts ← partitionsOfLines lines
      .ok ({ index := index, size := digitsValue 16 size, eraseSize := digitsValue 16 erase, name := name } ::
        parts)

def parseProcMtd (t : Text) : Except Exc (List MtdPartition) := do
  let parts ← partitionsOfLines (splitlines (withoutCr t))
  raiseIf (parts = []) (.protocolError "camera returned no parseable MTD partitions")
  .ok (parts.insertionSort fun a b => a.index ≤ b.index)

end AdbBackup

end Cc2Camera
