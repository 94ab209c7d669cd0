import Cc2Camera.Python
import Mathlib.Data.Fin.Basic

/-!
# Decode — the mnemonics of `mips32_disasm.decode`

The operand texts are left out; nothing that is propagated depends on them.
-/

namespace Cc2Camera.Mips32Disasm

instance neZero_registers : NeZero 32 := ⟨by decide⟩

inductive Mnemonic where
  | nop
  -- op 0
  | sll | srl | sra | sllv | srlv | srav | jr | jalr | movz | movn | syscall | break_ | mfhi | mthi | mflo | mtlo
  | mult | multu | div | divu | add | addu | sub | subu | and | or | xor | nor | slt | sltu
  | tge | tgeu | tlt | tltu | teq | tne
  -- op 1
  | bltz | bgez | bltzl | bgezl | tgei | tgeiu | tlti | tltiu | teqi | tnei | bltzal | bgezal | bltzall | bgezall
  -- jumps and branches
  | j | jal | beq | bne | blez | bgtz | beql | bnel | blezl | bgtzl
  -- immediates
  | addi | addiu | slti | sltiu | andi | ori | xori | lui
  -- coprocessors; the operation of the floating-point ones is 0 to 7 for add, sub, mul, div, sqrt, abs, mov, neg
  | mfc0 | mtc0 | eret | wait | mfc1 | cfc1 | mtc1 | ctc1 | fp (operation : Nat) (double : Bool) | bc1f | bc1t
  -- ops 28 and 31
  | madd | maddu | msub | msubu | mul | clz | clo | ext | ins | wsbh | seb | seh | rdhwr
  -- memory
  | lb | lh | lwl | lw | lbu | lhu | lwr | ll | lwc1 | ldc1
  | sb | sh | swl | sw | swr | sc | swc1 | sdc1 | cache
  | word
  deriving DecidableEq, Repr

section Fields

variable (word : Nat)

def op : Nat := word >>> 26

-- a register number is masked with 31
def rs : Fin 32 := Fin.ofNat 32 (word >>> 21)

def rt : Fin 32 := Fin.ofNat 32 (word >>> 16)

def rd : Fin 32 := Fin.ofNat 32 (word >>> 11)

def sa : Nat := (word >>> 6) &&& 31

def fn : Nat := word &&& 63

def imm : Nat := word &&& 0xFFFF

/-! ## Opcode groups -/

def special : Mnemonic :=
  match fn word with
  | 0 => .sll | 2 => .srl | 3 => .sra | 4 => .sllv | 6 => .srlv | 7 => .srav
  | 8 => .jr | 9 => .jalr | 10 => .movz | 11 => .movn | 12 => .syscall | 13 => .break_
  | 16 => .mfhi | 17 => .mthi | 18 => .mflo | 19 => .mtlo
  | 24 => .mult | 25 => .multu | 26 => .div | 27 => .divu
  | 32 => .add | 33 => .addu | 34 => .sub | 35 => .subu | 36 => .and | 37 => .or | 38 => .xor | 39 => .nor
  | 42 => .slt | 43 => .sltu
  | 48 => .tge | 49 => .tgeu | 50 => .tlt | 51 => .tltu | 52 => .teq | 54 => .tne
  | _ => .word

def regimm : Mnemonic :=
  match (rt word).val with
  | 0 => .bltz | 1 => .bgez | 2 => .bltzl | 3 => .bgezl
  | 8 => .tgei | 9 => .tgeiu | 10 => .tlti | 11 => .tltiu | 12 => .teqi | 14 => .tnei
  | 16 => .bltzal | 17 => .bgezal | 18 => .bltzall | 19 => .bgezall
  | _ => .word

def cop0 : Mnemonic :=
  match (rs word).val with
  | 0 => .mfc0
  | 4 => .mtc0
  | _ => if word = 0x42000018 then .eret else if word = 0x42000020 then .wait else .word

def cop1 : Mnemonic :=
  match (rs word).val with
  | 0 => .mfc1 | 2 => .cfc1 | 4 => .mtc1 | 6 => .ctc1
  | 16 => if fn word < 8 then .fp (fn word) false else .word
  | 17 => if fn word < 8 then .fp (fn word) true else .word
  | 8 => if (rt word).val % 2 = 1 then .bc1t else .bc1f
  | _ => .word

def special2 : Mnemonic :=
  match fn word with
  | 0 => .madd | 1 => .maddu | 4 => .msub | 5 => .msubu | 2 => .mul | 32 => .clz | 33 => .clo
  | _ => .word

def special3 : Mnemonic :=
  match fn word with
  | 0 => .ext
  | 4 => .ins
  | 32 =>
    match sa word with
    | 2 => .wsbh | 16 => .seb | 24 => .seh
    | _ => .word
  | 59 => .rdhwr
  | _ => .word

def decode : Mnemonic :=
  if word = 0 then .nop
  else match op word with
    | 0 => special word
    | 1 => regimm word
    | 2 => .j | 3 => .jal | 4 => .beq | 5 => .bne | 6 => .blez | 7 => .bgtz
    | 20 => .beql | 21 => .bnel | 22 => .blezl | 23 => .bgtzl
    | 8 => .addi | 9 => .addiu | 10 => .slti | 11 => .sltiu
    | 12 => .andi | 13 => .ori | 14 => .xori | 15 => .lui
    | 16 => cop0 word
    | 17 => cop1 word
    | 28 => special2 word
    | 31 => special3 word
    | 32 => .lb | 33 => .lh | 34 => .lwl | 35 => .lw | 36 => .lbu | 37 => .lhu | 38 => .lwr | 48 => .ll
    | 49 => .lwc1 | 53 => .ldc1
    | 40 => .sb | 41 => .sh | 42 => .swl | 43 => .sw | 46 => .swr | 56 => .sc | 57 => .swc1 | 61 => .sdc1
    | 47 => .cache
    | _ => .word

end Fields

def Mnemonic.isLoad : Mnemonic → Bool
  | .lb | .lh | .lwl | .lw | .lbu | .lhu | .lwr | .ll | .lwc1 | .ldc1 => true
  | _ => false

-- `(32, 33, 34, 35, 36, 37, 38, 48, 49, 53)`
def LOAD_OPS : List Nat := [32, 33, 34, 35, 36, 37, 38, 48, 49, 53]

section Loads

variable (word : Nat)

@[simp] theorem special_isLoad : (special word).isLoad = false := by
  unfold special
  split <;> rfl

@[simp] theorem regimm_isLoad : (regimm word).isLoad = false := by
  unfold regimm
  split <;> rfl

@[simp] theorem cop0_isLoad : (cop0 word).isLoad = false := by
  unfold cop0
  repeat' split
  all_goals rfl

@[simp] theorem cop1_isLoad : (cop1 word).isLoad = false := by
  unfold cop1
  repeat' split
  all_goals rfl

@[simp] theorem special2_isLoad : (special2 word).isLoad = false := by
  unfold special2
  split <;> rfl

@[simp] theorem special3_isLoad : (special3 word).isLoad = false := by
  unfold special3
  repeat' split
  all_goals rfl

/-- The loads have opcodes of their own. -/
theorem isLoad_decode : (decode word).isLoad = decide (op word ∈ LOAD_OPS) := by
  unfold decode
  split
  · next h =>
    rw [h]
    rfl
  · have hword : Mnemonic.word.isLoad = false := rfl
    split <;> first
      | (next hop => rw [hop]; rfl)
      | (simp [*, LOAD_OPS]; done)
      -- none of the opcodes
      | (simp only [hword, LOAD_OPS, List.mem_cons, List.not_mem_nil, or_false]
         symm
         apply decide_eq_false
         rintro (h | h | h | h | h | h | h | h | h | h) <;> contradiction)

end Loads

end Cc2Camera.Mips32Disasm
