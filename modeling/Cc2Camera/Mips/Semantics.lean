import Cc2Camera.Mips.Propagation

/-!
# Semantics — what the instructions do to the registers

The integer instructions of MIPS32 that fall through to the next one.  A trap (an overflow of `add`, `addi` or
`sub`) leaves the sequence and has no step; `srl` with a one in the field of `rs` rotates.
-/

namespace Cc2Camera.Mips32Disasm

/-- The general registers; register 0 reads as zero. -/
structure Registers where
  read : Fin 32 → BitVec 32
  zero : read 0 = 0

namespace Registers

variable (regs : Registers)

/-- What is written to register 0 is lost. -/
def write (r : Fin 32) (v : BitVec 32) : Registers :=
  if h : r = 0 then regs
  else
    { read := Function.update regs.read r v
      zero := by rw [Function.update_of_ne (Ne.symm h), regs.zero] }

theorem write_zero (v : BitVec 32) : regs.write 0 v = regs := dif_pos rfl

theorem read_write {r : Fin 32} (h : r ≠ 0) (v : BitVec 32) :
    (regs.write r v).read = Function.update regs.read r v := by
  rw [write, dif_neg h]

end Registers

section Step

variable (word : Nat) (regs : Registers)

def zeroExtended : BitVec 32 := BitVec.ofNat 32 (imm word)

def signExtended : BitVec 32 := (BitVec.ofNat 16 (imm word)).signExtend 32

def address : BitVec 32 := regs.read (rs word) + signExtended word

def ofBool (b : Bool) : BitVec 32 := if b then 1 else 0

/-- The destination and the value of an instruction that reads registers only. -/
def alu : Option (Fin 32 × BitVec 32) :=
  let a := regs.read (rs word)
  let b := regs.read (rt word)
  match decode word with
  | .lui => some (rt word, zeroExtended word <<< 16)
  | .addi => if a.saddOverflow (signExtended word) then none else some (rt word, a + signExtended word)
  | .addiu => some (rt word, a + signExtended word)
  | .ori => some (rt word, a ||| zeroExtended word)
  | .xori => some (rt word, a ^^^ zeroExtended word)
  | .andi => some (rt word, a &&& zeroExtended word)
  | .slti => some (rt word, ofBool (a.slt (signExtended word)))
  | .sltiu => some (rt word, ofBool (a.ult (signExtended word)))
  | .add => if a.saddOverflow b then none else some (rd word, a + b)
  | .addu => some (rd word, a + b)
  | .sub => if a.ssubOverflow b then none else some (rd word, a - b)
  | .subu => some (rd word, a - b)
  | .or => some (rd word, a ||| b)
  | .and => some (rd word, a &&& b)
  | .xor => some (rd word, a ^^^ b)
  | .nor => some (rd word, ~~~(a ||| b))
  | .slt => some (rd word, ofBool (a.slt b))
  | .sltu => some (rd word, ofBool (a.ult b))
  | .sll => some (rd word, b <<< sa word)
  | .srl => some (rd word, if rs word = 1 then b.rotateRight (sa word) else b >>> sa word)
  | .sra => some (rd word, b.sshiftRight (sa word))
  | _ => none

/-- One instruction.  A load puts anything into its register; a word is loaded from outside the file. -/
inductive Step (view : View) : Registers → Prop where
  | alu {d : Fin 32} {v : BitVec 32} (h : alu word regs = some (d, v)) : Step view (regs.write d v)
  | load (v : BitVec 32) (h : decode word ∈ [.lb, .lh, .lwl, .lw, .lbu, .lhu, .lwr, .ll])
      (houtside : decode word = .lw → ¬view.HoldsWord (address word regs).toNat) : Step view (regs.write (rt word) v)
  -- the loads into floating-point registers
  | loadFp (h : decode word ∈ [.lwc1, .ldc1]) : Step view regs

end Step

/-- The registers after a sequence. -/
def Executes (view : View) : List Instruction → Registers → Registers → Prop
  | [], regs, regs' => regs' = regs
  | (_, word) :: rest, regs, regs' => ∃ next, Step word regs view next ∧ Executes view rest next regs'

end Cc2Camera.Mips32Disasm
