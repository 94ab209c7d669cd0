import Cc2Camera.Mips.Decode
import Mathlib.Logic.Function.Basic

/-!
# Propagation — the table of known values in `mips32_disasm.main`

One iteration of the loop: the chain of cases that computes a result, the table's update and the invalidation of
what the chain passed over.  Labels and annotations are left out.
-/

open Bytes

namespace Cc2Camera.Mips32Disasm

/-- The binary and the virtual address its file offset corresponds to. -/
structure View where
  data : Bytes
  base : Int
  fileOffset : Int

/-- `regs`: the values that are known. -/
abbrev Table : Type := Fin 32 → Option Nat

/-- `x & 0xFFFFFFFF`. -/
def mask32 (x : Int) : Nat := (x % 2 ^ 32).toNat

def sx (value bits : Nat) : Int :=
  let sign := 1 <<< (bits - 1)
  ((value &&& (sign - 1) : Nat) : Int) - (value &&& sign : Nat)

def View.offset (view : View) (address : Int) : Int := view.fileOffset + address - view.base

/-- `0 <= memoff <= len(data) - 4`. -/
def View.HoldsWord (view : View) (address : Int) : Prop :=
  0 ≤ view.offset address ∧ view.offset address ≤ (view.data.length : Int) - 4

instance (view : View) (address : Int) : Decidable (view.HoldsWord address) :=
  inferInstanceAs (Decidable (_ ∧ _))

def View.word (view : View) (address : Int) : Nat := u32 view.data (view.offset address).toNat

section Step

variable (view : View) (word : Nat) (table : Table)

-- `result_reg` and `result`
def outcome : Option (Fin 32 × Option Nat) :=
  let name := decode word
  if name = .lui then some (rt word, some (mask32 (imm word <<< 16 : Nat)))
  else if name ∈ [.addiu, .addi] ∧ table (rs word) ≠ none then
    (table (rs word)).map fun a => (rt word, some (mask32 (a + sx (imm word) 16)))
  else if name ∈ [.ori, .xori, .andi] ∧ table (rs word) ≠ none then
    (table (rs word)).map fun a =>
      let result := if name = .ori then a ||| imm word else if name = .xori then a ^^^ imm word else a &&& imm word
      (rt word, some (mask32 result))
  else if name ∈ [.addu, .add, .or] then
    (table (rs word)).bind fun a => (table (rt word)).map fun b =>
      (rd word, some (mask32 (if name ≠ .or then a + b else a ||| b : Nat)))
  else if name ∈ [.subu, .sub] ∧ table (rs word) ≠ none ∧ table (rt word) ≠ none then
    (table (rs word)).bind fun a => (table (rt word)).map fun b => (rd word, some (mask32 ((a : Int) - b)))
  else if name = .sll ∧ table (rt word) ≠ none then
    (table (rt word)).map fun b => (rd word, some (mask32 (b <<< sa word : Nat)))
  else if name = .srl ∧ table (rt word) ≠ none then
    (table (rt word)).map fun b => (rd word, some (b >>> sa word))
  else if name = .lw ∧ table (rs word) ≠ none then
    (table (rs word)).bind fun a =>
      let address := mask32 (a + sx (imm word) 16)
      if view.HoldsWord address then some (rt word, some (view.word address)) else none
  else if name ∈ [.lb, .lbu, .lh, .lhu] ∧ table (rs word) ≠ none then some (rt word, none)
  else if name ∈ [.jal, .jalr] then none
  else if op word ∈ LOAD_OPS then some (rt word, none)
  else none

-- "Conservative invalidation for instructions which visibly assign a GPR."
def invalidate : Table :=
  let name := decode word
  if name ∈ [.slti, .sltiu] ∨ name ∈ [.mfc0, .mfc1, .cfc1, .mfhi, .mflo, .rdhwr] then
    Function.update table (if name ∉ [.mfhi, .mflo] then rt word else rd word) none
  else if name ∈ [.slt, .sltu, .xor, .nor, .and, .movz, .movn, .mul, .clz, .clo, .ext, .ins, .wsbh, .seb, .seh] then
    Function.update table (if name ∉ [.ext, .ins] then rd word else rt word) none
  else table

/-- One iteration of the loop. -/
def propagate (pc : Int) : Table :=
  let linked := if decode word ∈ [.jal, .jalr] then Function.update table 31 (some (mask32 (pc + 8))) else table
  match outcome view word table with
  | some (resultReg, result) => if resultReg ≠ 0 then Function.update linked resultReg result else linked
  | none => invalidate word linked

end Step

/-- An address and the word that stands there. -/
abbrev Instruction : Type := Int × Nat

/-- The table after a sequence. -/
def propagateAll (view : View) (table : Table) (instructions : List Instruction) : Table :=
  instructions.foldl (fun table (pc, word) => propagate view word table pc) table

-- `range(start, end, 4)`, up to the end of the file
def instructionsFrom (view : View) : Nat → Int → List Instruction
  | 0, _ => []
  | count + 1, pc =>
    if view.offset pc < 0 ∨ view.data.length < view.offset pc + 4 then []
    else (pc, view.word pc) :: instructionsFrom view count (pc + 4)

def initialTable (gp : Option Nat) : Table := fun r => if r = 0 then some 0 else if r = 28 then gp else none

/-- The table with which the instruction at the end is met. -/
def main (view : View) (gp : Option Nat) (start stop : Int) : Table :=
  propagateAll view (initialTable gp) (instructionsFrom view ((stop - start + 3) / 4).toNat start)

end Cc2Camera.Mips32Disasm
