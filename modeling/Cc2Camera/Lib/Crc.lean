import Cc2Camera.Lib.Bytes
import Mathlib.Tactic.Common

/-!
# Crc — right-shifting checksum registers and the differences they keep

A register of `w` bits takes a byte in at its low end and is then shifted right eight times, the
polynomial being added whenever a one falls out.  A shift is linear (`shift_xor`), so two runs over
strings that differ in one byte end apart by that difference, shifted on (`run_differ`).  Whether the
difference can vanish is a question about the polynomial alone: it cannot when a set of register
values closed under shifts contains it and not zero (`run_ne_of_kept`).
-/

namespace Crc

variable {w : Nat}

def shift (poly crc : BitVec w) : BitVec w :=
  if crc.getLsbD 0 then (crc >>> 1) ^^^ poly else crc >>> 1

def shifts (poly : BitVec w) (n : Nat) (crc : BitVec w) : BitVec w := Nat.repeat (shift poly) n crc

def step (poly crc : BitVec w) (byte : UInt8) : BitVec w :=
  shifts poly 8 (crc ^^^ byte.toBitVec.setWidth w)

def run (poly crc : BitVec w) (data : Bytes) : BitVec w := data.foldl (step poly) crc

/-! ## Linearity -/

theorem shift_xor (poly a b : BitVec w) : shift poly (a ^^^ b) = shift poly a ^^^ shift poly b := by
  unfold shift
  rw [BitVec.getLsbD_xor, BitVec.ushiftRight_xor_distrib]
  cases a.getLsbD 0 <;> cases b.getLsbD 0
  · rfl
  · show (a >>> 1) ^^^ (b >>> 1) ^^^ poly = (a >>> 1) ^^^ ((b >>> 1) ^^^ poly)
    rw [BitVec.xor_assoc]
  · show (a >>> 1) ^^^ (b >>> 1) ^^^ poly = (a >>> 1) ^^^ poly ^^^ (b >>> 1)
    rw [BitVec.xor_assoc, BitVec.xor_assoc, BitVec.xor_comm poly]
  · show (a >>> 1) ^^^ (b >>> 1) = (a >>> 1) ^^^ poly ^^^ ((b >>> 1) ^^^ poly)
    rw [BitVec.xor_comm (b >>> 1) poly, BitVec.xor_assoc (a >>> 1), ← BitVec.xor_assoc poly poly,
      BitVec.xor_self, BitVec.zero_xor]

theorem shifts_succ (poly : BitVec w) (n : Nat) (crc : BitVec w) :
    shifts poly (n + 1) crc = shift poly (shifts poly n crc) := rfl

theorem shifts_xor (poly : BitVec w) (n : Nat) (a b : BitVec w) :
    shifts poly n (a ^^^ b) = shifts poly n a ^^^ shifts poly n b := by
  induction n with
  | zero => rfl
  | succ n ih => rw [shifts_succ, ih, shift_xor, shifts_succ, shifts_succ]

theorem step_xor (poly a d : BitVec w) (byte : UInt8) :
    step poly (a ^^^ d) byte = step poly a byte ^^^ shifts poly 8 d := by
  unfold step
  rw [← shifts_xor, BitVec.xor_assoc, BitVec.xor_comm d, ← BitVec.xor_assoc]

/-- The value of a register difference once `n` further bytes, the same on both sides, are taken in. -/
def carried (poly : BitVec w) : Nat → BitVec w → BitVec w
  | 0, d => d
  | n + 1, d => carried poly n (shifts poly 8 d)

theorem run_xor (poly a d : BitVec w) (data : Bytes) :
    run poly (a ^^^ d) data = run poly a data ^^^ carried poly data.length d := by
  induction data generalizing a d with
  | nil => rfl
  | cons byte data ih =>
    show run poly (step poly (a ^^^ d) byte) data = _
    rw [step_xor, ih]
    rfl

/-- Two strings that differ in one byte. -/
theorem run_differ (poly init : BitVec w) (front back : Bytes) (x y : UInt8) :
    run poly init (front ++ y :: back) =
      run poly init (front ++ x :: back) ^^^
        carried poly (back.length + 1) ((x ^^^ y).toBitVec.setWidth w) := by
  have hbyte : y.toBitVec.setWidth w = x.toBitVec.setWidth w ^^^ (x ^^^ y).toBitVec.setWidth w := by
    rw [UInt8.toBitVec_xor, BitVec.setWidth_xor, ← BitVec.xor_assoc, BitVec.xor_self,
      BitVec.zero_xor]
  have hstep (crc : BitVec w) :
      step poly crc y = step poly crc x ^^^ shifts poly 8 ((x ^^^ y).toBitVec.setWidth w) := by
    unfold step
    rw [hbyte, ← BitVec.xor_assoc, shifts_xor]
  show List.foldl _ _ _ = List.foldl _ _ _ ^^^ _
  rw [List.foldl_append, List.foldl_append, List.foldl_cons, List.foldl_cons, hstep]
  exact run_xor poly _ _ back

/-! ## Differences that stay -/

/-- A set of register differences that no shift leaves and that does not contain zero. -/
structure Kept (poly : BitVec w) (P : BitVec w → Prop) : Prop where
  shift : ∀ d, P d → P (Crc.shift poly d)
  ne_zero : ¬P 0#w

theorem Kept.carried {poly : BitVec w} {P : BitVec w → Prop} (h : Kept poly P) (n : Nat)
    {d : BitVec w} (hd : P d) : P (Crc.carried poly n d) := by
  have hshifts (m : Nat) {d : BitVec w} (hd : P d) : P (Crc.shifts poly m d) := by
    induction m with
    | zero => exact hd
    | succ m ih => exact h.shift _ ih
  induction n generalizing d with
  | zero => exact hd
  | succ n ih => exact ih (hshifts 8 hd)

theorem run_ne_of_kept {poly : BitVec w} {P : BitVec w → Prop} (h : Kept poly P)
    {init : BitVec w} {front back : Bytes} {x y : UInt8}
    (hd : P ((x ^^^ y).toBitVec.setWidth w)) :
    run poly init (front ++ y :: back) ≠ run poly init (front ++ x :: back) := by
  intro heq
  apply h.ne_zero
  have hcarried := h.carried (back.length + 1) hd
  rw [run_differ poly init front back x y] at heq
  have hself := BitVec.xor_self (x := run poly init (front ++ x :: back))
  rw [← hself]
  nth_rewrite 2 [← heq]
  rw [← BitVec.xor_assoc, hself, BitVec.zero_xor]
  exact hcarried

theorem run_set_ne {poly : BitVec w} {P : BitVec w → Prop} (h : Kept poly P) (init : BitVec w)
    {data : Bytes} {k : Nat} {y : UInt8} (hk : k < data.length)
    (hd : P ((data[k] ^^^ y).toBitVec.setWidth w)) :
    run poly init (data.set k y) ≠ run poly init data := by
  have hsplit : data.take k ++ data[k] :: data.drop (k + 1) = data := by
    rw [List.getElem_cons_drop, List.take_append_drop]
  rw [List.set_eq_take_append_cons_drop, if_pos hk]
  conv_rhs => rw [← hsplit]
  exact run_ne_of_kept h hd

theorem toNat_mod_two (d : BitVec w) : d.toNat % 2 = (d.getLsbD 0).toNat := by
  rw [BitVec.getLsbD, Nat.testBit_zero]
  rcases Nat.mod_two_eq_zero_or_one d.toNat with hmod | hmod <;> simp [hmod]

/-- With the top bit in the polynomial a shift loses nothing, and every difference stays. -/
theorem kept_of_msb {poly : BitVec w} (h : poly.msb = true) : Kept poly (· ≠ 0#w) where
  shift d hd hzero := by
    apply hd
    have hlow := toNat_mod_two d
    have hhalf : (d >>> 1).toNat = d.toNat / 2 := BitVec.toNat_ushiftRight d 1
    unfold Crc.shift at hzero
    cases hbit : d.getLsbD 0 with
    | false =>
      rw [hbit, if_neg Bool.false_ne_true] at hzero
      rw [hzero] at hhalf
      rw [hbit] at hlow
      apply BitVec.eq_of_toNat_eq
      show d.toNat = 0
      have hnil : (0#w).toNat = 0 := BitVec.toNat_zero
      rw [hnil] at hhalf
      rw [Bool.toNat_false] at hlow
      omega
    | true =>
      -- half of a register cannot reach the top bit of the polynomial
      rw [hbit, if_pos rfl, BitVec.xor_eq_zero_iff] at hzero
      have hge := BitVec.msb_eq_true_iff_two_mul_ge.mp h
      have hlt := d.isLt
      rw [hbit, Bool.toNat_true] at hlow
      rw [← hzero, hhalf] at hge
      omega
  ne_zero := fun h => h rfl

/-- Bytes that differ, differ in a register that is no narrower than they are. -/
theorem setWidth_xor_ne_zero (hw : 8 ≤ w) {x y : UInt8} (h : x ≠ y) :
    (x ^^^ y).toBitVec.setWidth w ≠ 0#w := by
  intro hzero
  apply h
  apply UInt8.toBitVec_inj.mp
  apply BitVec.xor_eq_zero_iff.mp
  rw [← UInt8.toBitVec_xor]
  apply BitVec.eq_of_toNat_eq
  have hlt : (x ^^^ y).toBitVec.toNat < 2 ^ w :=
    Nat.lt_of_lt_of_le (BitVec.isLt _) (Nat.pow_le_pow_right (by decide) hw)
  have hwidth := congrArg BitVec.toNat hzero
  rw [BitVec.toNat_setWidth, Nat.mod_eq_of_lt hlt, BitVec.toNat_zero] at hwidth
  rw [hwidth, BitVec.toNat_zero]

end Crc
