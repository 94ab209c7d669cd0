import Cc2Camera.Mips.Semantics
import Mathlib.Data.Nat.Bitwise

/-!
# Soundness — when the known values are the real ones

The chain of `main` computes right values, and most instructions it computes nothing for are invalidated.  Those
with an unknown source, `sra` and a load of a word from outside the file are not: what the table knew of their
destination stays.
-/

namespace Cc2Camera.Mips32Disasm

/-- Every value the table holds is in the register. -/
def Sound (table : Table) (regs : Registers) : Prop := ∀ r v, table r = some v → (regs.read r).toNat = v

/-! ## Values -/

section Values

theorem mask32_of_lt {n : Nat} (h : n < 2 ^ 32) : mask32 n = n := by
  unfold mask32
  omega

theorem imm_lt (word : Nat) : imm word < 65536 := Nat.lt_of_le_of_lt Nat.and_le_right (by decide)

theorem sx_imm (word : Nat) : sx (imm word) 16 = (BitVec.ofNat 16 (imm word)).toInt := by
  have hlt := imm_lt word
  have hlow : imm word &&& 0x7FFF = imm word % 2 ^ 15 := Nat.and_two_pow_sub_one_eq_mod _ 15
  have hsign : imm word &&& 0x8000 = ((imm word).testBit 15).toNat * 2 ^ 15 := Nat.and_two_pow _ 15
  rw [BitVec.toInt_eq_toNat_cond, BitVec.toNat_ofNat, Nat.mod_eq_of_lt hlt]
  show ((imm word &&& 0x7FFF : Nat) : Int) - (imm word &&& 0x8000 : Nat) = _
  rw [hlow, hsign, Nat.testBit_eq_decide_div_mod_eq]
  by_cases hbit : imm word / 2 ^ 15 % 2 = 1
  · rw [decide_eq_true hbit, if_neg (by omega), Bool.toNat_true]
    omega
  · rw [decide_eq_false hbit, if_pos (by omega), Bool.toNat_false]
    omega

theorem toNat_zeroExtended (word : Nat) : (zeroExtended word).toNat = imm word :=
  Nat.mod_eq_of_lt ((imm_lt word).trans (by decide))

theorem mask32_add_sx (a : BitVec 32) (word : Nat) :
    mask32 (a.toNat + sx (imm word) 16) = (a + signExtended word).toNat := by
  unfold mask32 signExtended BitVec.signExtend
  rw [sx_imm, BitVec.toNat_add, BitVec.toNat_ofInt]
  omega

theorem mask32_add (a b : BitVec 32) : mask32 (a.toNat + b.toNat : Nat) = (a + b).toNat := by
  unfold mask32
  rw [BitVec.toNat_add]
  omega

theorem mask32_sub (a b : BitVec 32) : mask32 ((a.toNat : Int) - b.toNat) = (a - b).toNat := by
  have ha := a.isLt
  have hb := b.isLt
  unfold mask32
  rw [BitVec.toNat_sub]
  omega

end Values

/-! ## Updates -/

section Updates

variable {table : Table} {regs : Registers} {d : Fin 32} {v : BitVec 32}

theorem Sound.known (h : Sound table regs) :
    Sound (if d ≠ 0 then Function.update table d (some v.toNat) else table) (regs.write d v) := by
  by_cases hd : d = 0
  · rw [if_neg (not_not.mpr hd), hd, regs.write_zero]
    exact h
  rw [if_pos hd]
  intro r n hr
  rw [regs.read_write hd]
  by_cases hr' : r = d
  · rw [hr', Function.update_self] at hr ⊢
    exact Option.some.inj hr
  · rw [Function.update_of_ne hr'] at hr ⊢
    exact h r n hr

theorem Sound.forget (h : Sound table regs) : Sound (Function.update table d none) regs := by
  intro r n hr
  by_cases hr' : r = d
  · rw [hr', Function.update_self] at hr
    cases hr
  · rw [Function.update_of_ne hr'] at hr
    exact h r n hr

theorem Sound.forgotten (h : Sound table regs) : Sound (Function.update table d none) (regs.write d v) := by
  intro r n hr
  by_cases hr' : r = d
  · rw [hr', Function.update_self] at hr
    cases hr
  rw [Function.update_of_ne hr'] at hr
  by_cases hd : d = 0
  · rw [hd, regs.write_zero]
    exact h r n hr
  · rw [regs.read_write hd, Function.update_of_ne hr']
    exact h r n hr

/-- A destination nothing is known of, or that cannot be written. -/
theorem Sound.kept (h : Sound table regs) (hd : d = 0 ∨ table d = none) : Sound table (regs.write d v) := by
  by_cases hzero : d = 0
  · rw [hzero, regs.write_zero]
    exact h
  have hnone := hd.resolve_left hzero
  intro r n hr
  have hne : r ≠ d := by
    intro heq
    rw [heq, hnone] at hr
    cases hr
  rw [regs.read_write hzero, Function.update_of_ne hne]
  exact h r n hr

end Updates

/-! ## One instruction -/

section Step

variable {view : View} {word : Nat} {table : Table} {regs : Registers} {pc : Int} {d : Fin 32} {v : BitVec 32}

theorem propagate_of_some {x : Option Nat} (hname : decode word ∉ [.jal, .jalr])
    (h : outcome view word table = some (d, x)) :
    propagate view word table pc = if d ≠ 0 then Function.update table d x else table := by
  unfold propagate
  rw [h, if_neg hname]

theorem propagate_of_none (hname : decode word ∉ [.jal, .jalr]) (h : outcome view word table = none) :
    propagate view word table pc = invalidate word table := by
  unfold propagate
  rw [h, if_neg hname]

theorem sound_computed (hs : Sound table regs) (hname : decode word ∉ [.jal, .jalr])
    (h : outcome view word table = some (d, some v.toNat)) : Sound (propagate view word table pc) (regs.write d v) := by
  rw [propagate_of_some hname h]
  exact hs.known

theorem sound_loaded (hs : Sound table regs) (hname : decode word ∉ [.jal, .jalr])
    (h : outcome view word table = some (d, none)) : Sound (propagate view word table pc) (regs.write d v) := by
  rw [propagate_of_some hname h]
  by_cases hd : d = 0
  · rw [if_neg (not_not.mpr hd), hd, regs.write_zero]
    exact hs
  · rw [if_pos hd]
    exact hs.forgotten

theorem sound_invalidated (hs : Sound table regs) (hname : decode word ∉ [.jal, .jalr])
    (h : outcome view word table = none) (hinvalidate : invalidate word table = Function.update table d none) :
    Sound (propagate view word table pc) (regs.write d v) := by
  rw [propagate_of_none hname h, hinvalidate]
  exact hs.forgotten

theorem sound_passed (hs : Sound table regs) (hname : decode word ∉ [.jal, .jalr])
    (h : outcome view word table = none) (hinvalidate : invalidate word table = table)
    (hd : d = 0 ∨ table d = none) : Sound (propagate view word table pc) (regs.write d v) := by
  rw [propagate_of_none hname h, hinvalidate]
  exact hs.kept hd

/-! ### The condition -/

/-- Nothing is known of the register, or it is register 0. -/
def Free (table : Table) (r : Fin 32) : Prop := r = 0 ∨ table r = none

/-- Where the chain and the invalidation pass an instruction over, its destination is free; and a rotation is not
computed as a shift. -/
structure Tracked (word : Nat) (table : Table) : Prop where
  immediate : decode word ∈ [.addi, .addiu, .ori, .xori, .andi] → table (rs word) = none → Free table (rt word)
  register : decode word ∈ [.add, .addu, .or, .sub, .subu] → table (rs word) = none ∨ table (rt word) = none →
    Free table (rd word)
  shift : decode word ∈ [.sll, .srl] → table (rt word) = none → Free table (rd word)
  rotation : decode word = .srl → rs word = 1 → table (rt word) = none ∨ rd word = 0
  arithmetic : decode word = .sra → Free table (rd word)
  loaded : decode word = .lw → table (rs word) ≠ none → Free table (rt word)

/-! ### Instructions on registers -/

theorem not_jump_of_alu (h : alu word regs = some (d, v)) : decode word ∉ [.jal, .jalr] := by
  intro hmem
  simp only [List.mem_cons, List.not_mem_nil, or_false] at hmem
  rcases hmem with hname | hname
  · simp [alu, hname] at h
  · simp [alu, hname] at h

theorem not_load_of_alu (h : alu word regs = some (d, v)) : op word ∉ LOAD_OPS := by
  intro hop
  have hload : (decode word).isLoad = true := by
    rw [isLoad_decode]
    exact decide_eq_true hop
  unfold Mnemonic.isLoad at hload
  split at hload
  all_goals first
    | (next hname => simp [alu, hname] at h; done)
    | cases hload

section Alu

variable (hs : Sound table regs) (ht : Tracked word table) (hname : decode word ∉ [.jal, .jalr])
  (hop : op word ∉ LOAD_OPS)

include hs ht hname hop

theorem sound_add_immediate (h : decode word ∈ [.addiu, .addi]) :
    Sound (propagate view word table pc) (regs.write (rt word) (regs.read (rs word) + signExtended word)) := by
  simp only [List.mem_cons, List.not_mem_nil, or_false] at h
  cases ha : table (rs word) with
  | none =>
    have hd : Free table (rt word) := by
      apply ht.immediate _ ha
      rcases h with h | h <;> simp [h]
    apply sound_passed hs hname _ _ hd
    · rcases h with h | h <;> simp [outcome, h, ha, hop]
    · rcases h with h | h <;> simp [invalidate, h]
  | some a =>
    apply sound_computed hs hname
    rw [← mask32_add_sx, hs _ _ ha]
    rcases h with h | h <;> simp [outcome, h, ha]

theorem sound_logic_immediate {f : BitVec 32 → BitVec 32 → BitVec 32}
    (h : (decode word = .ori ∧ f = (· ||| ·)) ∨ (decode word = .xori ∧ f = (· ^^^ ·)) ∨
      (decode word = .andi ∧ f = (· &&& ·))) :
    Sound (propagate view word table pc) (regs.write (rt word) (f (regs.read (rs word)) (zeroExtended word))) := by
  have hinvalidate : invalidate word table = table := by
    rcases h with ⟨h, -⟩ | ⟨h, -⟩ | ⟨h, -⟩ <;> simp [invalidate, h]
  cases ha : table (rs word) with
  | none =>
    have hd : Free table (rt word) := by
      apply ht.immediate _ ha
      rcases h with ⟨h, -⟩ | ⟨h, -⟩ | ⟨h, -⟩ <;> simp [h]
    apply sound_passed hs hname _ hinvalidate hd
    rcases h with ⟨h, -⟩ | ⟨h, -⟩ | ⟨h, -⟩ <;> simp [outcome, h, ha, hop]
  | some a =>
    apply sound_computed hs hname
    have hvalue := mask32_of_lt (f (regs.read (rs word)) (zeroExtended word)).isLt
    rw [← hvalue]
    rcases h with ⟨h, rfl⟩ | ⟨h, rfl⟩ | ⟨h, rfl⟩ <;>
      simp [outcome, h, ha, toNat_zeroExtended, hs _ _ ha]

theorem sound_register {f : BitVec 32 → BitVec 32 → BitVec 32}
    (h : (decode word ∈ [.add, .addu] ∧ f = (· + ·)) ∨ (decode word = .or ∧ f = (· ||| ·)) ∨
      (decode word ∈ [.sub, .subu] ∧ f = (· - ·))) :
    Sound (propagate view word table pc)
      (regs.write (rd word) (f (regs.read (rs word)) (regs.read (rt word)))) := by
  simp only [List.mem_cons, List.not_mem_nil, or_false] at h
  have hinvalidate : invalidate word table = table := by
    rcases h with ⟨h | h, -⟩ | ⟨h, -⟩ | ⟨h | h, -⟩ <;> simp [invalidate, h]
  have hfree (hnone : table (rs word) = none ∨ table (rt word) = none) : Free table (rd word) := by
    apply ht.register _ hnone
    rcases h with ⟨h | h, -⟩ | ⟨h, -⟩ | ⟨h | h, -⟩ <;> simp [h]
  cases ha : table (rs word) with
  | none =>
    apply sound_passed hs hname _ hinvalidate (hfree (.inl ha))
    rcases h with ⟨h | h, -⟩ | ⟨h, -⟩ | ⟨h | h, -⟩ <;> simp [outcome, h, ha, hop]
  | some a =>
    cases hb : table (rt word) with
    | none =>
      apply sound_passed hs hname _ hinvalidate (hfree (.inr hb))
      rcases h with ⟨h | h, -⟩ | ⟨h, -⟩ | ⟨h | h, -⟩ <;> simp [outcome, h, ha, hb, hop]
    | some b =>
      apply sound_computed hs hname
      have hread := hs _ _ ha
      have hread' := hs _ _ hb
      rcases h with ⟨h, rfl⟩ | ⟨h, rfl⟩ | ⟨h, rfl⟩
      · rw [← mask32_add, hread, hread']
        rcases h with h | h <;> simp [outcome, h, ha, hb]
      · have hvalue := mask32_of_lt (regs.read (rs word) ||| regs.read (rt word)).isLt
        rw [← hvalue, BitVec.toNat_or, hread, hread']
        simp [outcome, h, ha, hb]
      · rw [← mask32_sub, hread, hread']
        rcases h with h | h <;> simp [outcome, h, ha, hb]

theorem sound_shift_left (h : decode word = .sll) :
    Sound (propagate view word table pc) (regs.write (rd word) (regs.read (rt word) <<< sa word)) := by
  cases hb : table (rt word) with
  | none =>
    have hd : Free table (rd word) := ht.shift (by simp [h]) hb
    apply sound_passed hs hname _ _ hd
    · simp [outcome, h, hb, hop]
    · simp [invalidate, h]
  | some b =>
    apply sound_computed hs hname
    have hvalue : mask32 (b <<< sa word : Nat) = (regs.read (rt word) <<< sa word).toNat := by
      rw [BitVec.toNat_shiftLeft, hs _ _ hb]
      unfold mask32
      omega
    rw [← hvalue]
    simp [outcome, h, hb]

theorem sound_shift_right (h : decode word = .srl) :
    Sound (propagate view word table pc) (regs.write (rd word)
      (if rs word = 1 then (regs.read (rt word)).rotateRight (sa word) else regs.read (rt word) >>> sa word)) := by
  cases hb : table (rt word) with
  | none =>
    have hd : Free table (rd word) := ht.shift (by simp [h]) hb
    apply sound_passed hs hname _ _ hd
    · simp [outcome, h, hb, hop]
    · simp [invalidate, h]
  | some b =>
    by_cases hrotate : rs word = 1
    · -- what is computed for a rotation is not stored
      have hzero : rd word = 0 := by
        apply (ht.rotation h hrotate).resolve_left
        rw [hb]
        exact nofun
      have hout : outcome view word table = some (0, some (b >>> sa word)) := by
        simp [outcome, h, hb, hzero]
      rw [hzero, regs.write_zero, propagate_of_some hname hout, if_neg (not_not.mpr rfl)]
      exact hs
    · rw [if_neg hrotate]
      apply sound_computed hs hname
      rw [BitVec.toNat_ushiftRight, hs _ _ hb]
      simp [outcome, h, hb]

theorem sound_shift_arithmetic (h : decode word = .sra) :
    Sound (propagate view word table pc) (regs.write (rd word) v) := by
  apply sound_passed hs hname _ _ (ht.arithmetic h)
  · simp [outcome, h, hop]
  · simp [invalidate, h]

omit ht hop in
theorem sound_upper (h : decode word = .lui) :
    Sound (propagate view word table pc) (regs.write (rt word) (zeroExtended word <<< 16)) := by
  apply sound_computed hs hname
  have hvalue : mask32 (imm word <<< 16 : Nat) = (zeroExtended word <<< 16).toNat := by
    rw [BitVec.toNat_shiftLeft, toNat_zeroExtended]
    unfold mask32
    omega
  rw [← hvalue]
  simp [outcome, h]

omit ht

theorem sound_comparison (h : decode word ∈ [.slti, .sltiu]) :
    Sound (propagate view word table pc) (regs.write (rt word) v) := by
  simp only [List.mem_cons, List.not_mem_nil, or_false] at h
  apply sound_invalidated hs hname
  · rcases h with h | h <;> simp [outcome, h, hop]
  · rcases h with h | h <;> simp [invalidate, h]

theorem sound_forgotten (h : decode word ∈ [.slt, .sltu, .xor, .nor, .and]) :
    Sound (propagate view word table pc) (regs.write (rd word) v) := by
  simp only [List.mem_cons, List.not_mem_nil, or_false] at h
  apply sound_invalidated hs hname
  · rcases h with h | h | h | h | h <;> simp [outcome, h, hop]
  · rcases h with h | h | h | h | h <;> simp [invalidate, h]

end Alu

theorem sound_alu (hs : Sound table regs) (ht : Tracked word table) (h : alu word regs = some (d, v)) :
    Sound (propagate view word table pc) (regs.write d v) := by
  have hname := not_jump_of_alu h
  have hop := not_load_of_alu h
  unfold alu at h
  dsimp only at h
  split at h
  case h_1 hm => cases h; exact sound_upper hs hname hm
  case h_2 hm =>
    split at h
    · cases h
    · cases h
      exact sound_add_immediate hs ht hname hop (by simp [hm])
  case h_3 hm => cases h; exact sound_add_immediate hs ht hname hop (by simp [hm])
  case h_4 hm => cases h; exact sound_logic_immediate hs ht hname hop (.inl ⟨hm, rfl⟩)
  case h_5 hm => cases h; exact sound_logic_immediate hs ht hname hop (.inr (.inl ⟨hm, rfl⟩))
  case h_6 hm => cases h; exact sound_logic_immediate hs ht hname hop (.inr (.inr ⟨hm, rfl⟩))
  case h_7 hm => cases h; exact sound_comparison hs hname hop (by simp [hm])
  case h_8 hm => cases h; exact sound_comparison hs hname hop (by simp [hm])
  case h_9 hm =>
    split at h
    · cases h
    · cases h
      exact sound_register hs ht hname hop (.inl ⟨by simp [hm], rfl⟩)
  case h_10 hm => cases h; exact sound_register hs ht hname hop (.inl ⟨by simp [hm], rfl⟩)
  case h_11 hm =>
    split at h
    · cases h
    · cases h
      exact sound_register hs ht hname hop (.inr (.inr ⟨by simp [hm], rfl⟩))
  case h_12 hm => cases h; exact sound_register hs ht hname hop (.inr (.inr ⟨by simp [hm], rfl⟩))
  case h_13 hm => cases h; exact sound_register hs ht hname hop (.inr (.inl ⟨hm, rfl⟩))
  case h_19 hm => cases h; exact sound_shift_left hs ht hname hop hm
  case h_20 hm => cases h; exact sound_shift_right hs ht hname hop hm
  case h_21 hm => cases h; exact sound_shift_arithmetic hs ht hname hop hm
  case h_22 => cases h
  -- `and`, `xor`, `nor`, `slt` and `sltu`
  all_goals
    next hm => cases h; exact sound_forgotten hs hname hop (by simp [hm])

/-! ### Loads -/

theorem sound_load (hs : Sound table regs) (ht : Tracked word table)
    (h : decode word ∈ [.lb, .lh, .lwl, .lw, .lbu, .lhu, .lwr, .ll])
    (houtside : decode word = .lw → ¬view.HoldsWord (address word regs).toNat) :
    Sound (propagate view word table pc) (regs.write (rt word) v) := by
  simp only [List.mem_cons, List.not_mem_nil, or_false] at h
  have hname : decode word ∉ [.jal, .jalr] := by
    rcases h with h | h | h | h | h | h | h | h <;> simp [h]
  have hop : op word ∈ LOAD_OPS := by
    apply of_decide_eq_true
    rw [← isLoad_decode]
    rcases h with h | h | h | h | h | h | h | h <;> rw [h] <;> rfl
  by_cases hlw : decode word = .lw ∧ table (rs word) ≠ none
  · obtain ⟨hm, hknown⟩ := hlw
    obtain ⟨a, ha⟩ := Option.ne_none_iff_exists'.mp hknown
    have haddress : mask32 (a + sx (imm word) 16) = (address word regs).toNat := by
      rw [← hs _ _ ha]
      exact mask32_add_sx _ word
    apply sound_passed hs hname _ _ (ht.loaded hm hknown)
    · simp [outcome, hm, ha, haddress, houtside hm]
    · simp [invalidate, hm]
  · apply sound_loaded hs hname
    rcases h with h | h | h | h | h | h | h | h <;> simp_all [outcome]

theorem sound_step {regs' : Registers} (hs : Sound table regs) (ht : Tracked word table)
    (hstep : Step word regs view regs') : Sound (propagate view word table pc) regs' := by
  cases hstep with
  | alu h => exact sound_alu hs ht h
  | load v h houtside => exact sound_load hs ht h houtside
  | loadFp h =>
    simp only [List.mem_cons, List.not_mem_nil, or_false] at h
    have hname : decode word ∉ [.jal, .jalr] := by
      rcases h with h | h <;> simp [h]
    have hop : op word ∈ LOAD_OPS := by
      apply of_decide_eq_true
      rw [← isLoad_decode]
      rcases h with h | h <;> rw [h] <;> rfl
    have hout : outcome view word table = some (rt word, none) := by
      rcases h with h | h <;> simp [outcome, h, hop]
    rw [propagate_of_some hname hout]
    split
    · exact hs.forget
    · exact hs

end Step

/-! ## Sequences -/

section Sequences

variable {view : View} {table : Table} {regs : Registers}

theorem propagateAll_cons (instruction : Instruction) (rest : List Instruction) :
    propagateAll view table (instruction :: rest) =
      propagateAll view (propagate view instruction.2 table instruction.1) rest := rfl

/-- Where every instruction of a sequence is tracked, every value the table holds after each of them is right. -/
theorem annotations_sound {instructions : List Instruction} (hs : Sound table regs)
    (htracked : ∀ done pc word rest, instructions = done ++ (pc, word) :: rest →
      Tracked word (propagateAll view table done)) :
    ∀ done rest regs', instructions = done ++ rest → Executes view done regs regs' →
      Sound (propagateAll view table done) regs' := by
  intro done rest regs' hsplit hrun
  induction done generalizing instructions table regs with
  | nil =>
    obtain rfl : regs' = regs := hrun
    exact hs
  | cons instruction done ih =>
    obtain ⟨pc, word⟩ := instruction
    obtain ⟨next, hstep, hrun⟩ := hrun
    rw [propagateAll_cons]
    have hfirst : Tracked word table := htracked [] pc word (done ++ rest) hsplit
    refine ih (sound_step hs hfirst hstep) (fun done' pc' word' rest' hrest => ?_) rfl hrun
    have hall := htracked ((pc, word) :: done') pc' word' rest' ?_
    · exact hall
    · rw [hsplit, List.cons_append, hrest]
      rfl

theorem sound_initialTable {gp : Option Nat} (hgp : ∀ v, gp = some v → (regs.read 28).toNat = v) :
    Sound (initialTable gp) regs := by
  intro r v hr
  unfold initialTable at hr
  split at hr
  · next hzero =>
    rw [hzero, regs.zero]
    exact Option.some.inj hr
  · split at hr
    · next hpointer =>
      rw [hpointer]
      exact hgp v hr
    · cases hr

/-- What `main` knows at the end of a range it has run through. -/
theorem main_sound {gp : Option Nat} {start stop : Int} {regs' : Registers}
    (hgp : ∀ v, gp = some v → (regs.read 28).toNat = v)
    (htracked : ∀ done pc word rest,
      instructionsFrom view ((stop - start + 3) / 4).toNat start = done ++ (pc, word) :: rest →
        Tracked word (propagateAll view (initialTable gp) done))
    (hrun : Executes view (instructionsFrom view ((stop - start + 3) / 4).toNat start) regs regs') :
    Sound (main view gp start stop) regs' :=
  annotations_sound (sound_initialTable hgp) htracked _ [] regs' (List.append_nil _).symm hrun

end Sequences

/-! ### Two sequences -/

def clearRegisters : Registers where
  read _ := 0
  zero := rfl

def noFile : View := { data := [], base := 0, fileOffset := 0 }

-- `lui $t0, 0x1234; ori $t0, $t0, 0x5678`
def loadConstant : List Instruction := [(0, 0x3C081234), (4, 0x35085678)]

-- `lui $t0, 0x8000; addiu $t0, $t1, 0`
def overwrite : List Instruction := [(0, 0x3C088000), (4, 0x25280000)]

theorem executes_loadConstant :
    Executes noFile loadConstant clearRegisters ((clearRegisters.write 8 0x12340000).write 8 0x12345678) :=
  ⟨_, .alu (by decide), _, .alu (by decide), rfl⟩

theorem executes_overwrite :
    Executes noFile overwrite clearRegisters ((clearRegisters.write 8 0x80000000).write 8 0) :=
  ⟨_, .alu (by decide), _, .alu (by decide), rfl⟩

theorem sound_clear : Sound (initialTable none) clearRegisters := sound_initialTable nofun

theorem annotations_sound_loadConstant :
    Sound (propagateAll noFile (initialTable none) loadConstant)
      ((clearRegisters.write 8 0x12340000).write 8 0x12345678) := by
  have hupper : decode 0x3C081234 = .lui := by decide
  have hlower : decode 0x35085678 = .ori := by decide
  have hknown : propagateAll noFile (initialTable none) [(0, 0x3C081234)] (rs 0x35085678) ≠ none := by decide
  refine annotations_sound sound_clear ?_ loadConstant [] _ rfl executes_loadConstant
  rintro (_ | ⟨_, _ | ⟨_, done⟩⟩) pc word rest hsplit
  · cases hsplit
    constructor <;> simp [hupper]
  · cases hsplit
    constructor <;> simp [hlower, hknown]
  · cases done <;> cases hsplit

/-- The old value stays where a source is unknown. -/
theorem not_annotations_sound_overwrite :
    Sound (initialTable none) clearRegisters ∧
      Executes noFile overwrite clearRegisters ((clearRegisters.write 8 0x80000000).write 8 0) ∧
      ¬Sound (propagateAll noFile (initialTable none) overwrite) ((clearRegisters.write 8 0x80000000).write 8 0) := by
  refine ⟨sound_clear, executes_overwrite, fun h => ?_⟩
  have hstale : propagateAll noFile (initialTable none) overwrite 8 = some 0x80000000 := by decide
  have hvalue := h 8 0x80000000 hstale
  exact absurd hvalue (by decide)

end Cc2Camera.Mips32Disasm
