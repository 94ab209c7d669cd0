import Mathlib.Data.Nat.Log
import Mathlib.Tactic.Ring

/-!
# TrueDiv — true division of integers and its ceiling

`a / b` on integers is the quotient rounded to a 53-bit significand, to nearest with ties to even.  The
ceiling of a rounded quotient can differ from the ceiling of the exact one in general; it does not while
`a` keeps below `2 ^ 52` (`ceil_trueDiv`).
-/

namespace TrueDiv

/-- A nonnegative finite binary64 number, `significand * 2 ^ exponent`. -/
structure Binary64 where
  significand : Nat
  exponent : Int
  deriving DecidableEq, Repr

/-- `n / d` rounded to the nearest integer, ties to even. -/
def roundDiv (n d : Nat) : Nat :=
  if 2 * (n % d) < d ∨ (2 * (n % d) = d ∧ n / d % 2 = 0) then n / d else n / d + 1

/-- `⌊log₂ (a / b)⌋` of a positive quotient. -/
def floorLog2 (a b : Nat) : Int :=
  if b ≤ a then Nat.log 2 (a / b) else -Nat.clog 2 ((b + a - 1) / a)

def trueDiv (a b : Nat) : Binary64 :=
  let exponent := floorLog2 a b - 52
  { significand := roundDiv (a * 2 ^ (-exponent).toNat) (b * 2 ^ exponent.toNat)
    exponent := exponent }

/-- `math.ceil`. -/
def Binary64.ceil (x : Binary64) : Nat :=
  (x.significand * 2 ^ x.exponent.toNat + 2 ^ (-x.exponent).toNat - 1) / 2 ^ (-x.exponent).toNat

theorem roundDiv_le {n d k : Nat} (hd : 0 < d) (h : n ≤ k * d) : roundDiv n d ≤ k := by
  have hdiv := Nat.div_add_mod n d
  unfold roundDiv
  split
  · exact Nat.div_le_of_le_mul (by rw [Nat.mul_comm]; exact h)
  · rename_i hup
    -- rounded up, so the quotient is not the integer `k` itself
    by_contra hgt
    have hle : k ≤ n / d := by omega
    have hmul : k * d ≤ d * (n / d) := by
      rw [Nat.mul_comm]
      exact Nat.mul_le_mul_left d hle
    omega

theorem lt_roundDiv {n d k : Nat} (hd : 0 < d) (h : 2 * (k * d) + d < 2 * n) : k < roundDiv n d := by
  have hdiv := Nat.div_add_mod n d
  have hmod := Nat.mod_lt n hd
  have hle : k ≤ n / d := (Nat.le_div_iff_mul_le hd).mpr (by omega)
  unfold roundDiv
  split
  · rename_i hdown
    -- a quotient at or below `k` would leave more than half behind
    rcases Nat.lt_or_eq_of_le hle with hlt | heq
    · exact hlt
    · rw [← heq, Nat.mul_comm d k] at hdiv
      omega
  · omega

/-- The scale of a quotient below `2 ^ 52` leaves room for the whole divisor. -/
theorem lt_scale {a b : Nat} (ha : 0 < a) (hb : 0 < b) (hsmall : a < 2 ^ 52) :
    floorLog2 a b ≤ 52 ∧ b < 2 ^ (52 - floorLog2 a b).toNat := by
  unfold floorLog2
  split
  · rename_i hle
    have hpow : 2 ^ Nat.log 2 (a / b) ≤ a / b :=
      Nat.pow_log_le_self 2 (Nat.div_pos hle hb).ne'
    have hmul : 2 ^ Nat.log 2 (a / b) * b ≤ a := (Nat.le_div_iff_mul_le hb).mp hpow
    have hlog : Nat.log 2 (a / b) < 52 := by
      apply (Nat.pow_lt_pow_iff_right (by decide : 1 < 2)).mp
      calc
        2 ^ Nat.log 2 (a / b) ≤ a / b := hpow
        _ ≤ a := Nat.div_le_self a b
        _ < 2 ^ 52 := hsmall
    refine ⟨by omega, ?_⟩
    have hexp : (52 - (Nat.log 2 (a / b) : Int)).toNat = 52 - Nat.log 2 (a / b) := by omega
    rw [hexp]
    apply Nat.lt_of_mul_lt_mul_left (a := 2 ^ Nat.log 2 (a / b))
    rw [← Nat.pow_add, Nat.add_sub_cancel' hlog.le]
    omega
  · rename_i hgt
    have hclog : (b + a - 1) / a ≤ 2 ^ Nat.clog 2 ((b + a - 1) / a) :=
      Nat.le_pow_clog (by decide) _
    have hceil : b ≤ (b + a - 1) / a * a := by
      have hdiv := Nat.div_add_mod (b + a - 1) a
      have hmod := Nat.mod_lt (b + a - 1) ha
      rw [Nat.mul_comm] at hdiv
      omega
    refine ⟨by omega, ?_⟩
    have hexp : (52 - -(Nat.clog 2 ((b + a - 1) / a) : Int)).toNat =
        Nat.clog 2 ((b + a - 1) / a) + 52 := by omega
    rw [hexp, Nat.pow_add]
    calc
      b ≤ (b + a - 1) / a * a := hceil
      _ ≤ 2 ^ Nat.clog 2 ((b + a - 1) / a) * a := Nat.mul_le_mul_right a hclog
      _ < 2 ^ Nat.clog 2 ((b + a - 1) / a) * 2 ^ 52 :=
        Nat.mul_lt_mul_of_pos_left hsmall (Nat.two_pow_pos _)

/-- The ceiling of a true division is the exact ceiling, for a numerator below `2 ^ 52`. -/
theorem ceil_trueDiv {a b : Nat} (ha : 0 < a) (hb : 0 < b) (hsmall : a < 2 ^ 52) :
    (trueDiv a b).ceil = (a + b - 1) / b := by
  obtain ⟨hlog, hscale⟩ := lt_scale ha hb hsmall
  have hneg : (-(floorLog2 a b - 52)).toNat = (52 - floorLog2 a b).toNat := by omega
  have hpos : (floorLog2 a b - 52).toNat = 0 := by omega
  simp only [Binary64.ceil, trueDiv, hneg, hpos, Nat.pow_zero, Nat.mul_one]
  generalize (52 - floorLog2 a b).toNat = s at hscale
  have hs : 0 < 2 ^ s := Nat.two_pow_pos s
  -- `a` lies in the last unit before `c * b`, so `a * 2 ^ s / b` rounds into the last unit before `c`
  obtain ⟨c, hc⟩ : ∃ c, (a + b - 1) / b = c + 1 :=
    ⟨(a + b - 1) / b - 1, (Nat.sub_add_cancel (Nat.div_pos (by omega) hb)).symm⟩
  have hdiv := Nat.div_add_mod (a + b - 1) b
  have hmod := Nat.mod_lt (a + b - 1) hb
  rw [hc, Nat.mul_add, Nat.mul_one] at hdiv
  have hupper : a ≤ (c + 1) * b := by
    rw [Nat.add_mul, Nat.one_mul, Nat.mul_comm c b]
    omega
  have hlower : c * b + 1 ≤ a := by
    rw [Nat.mul_comm]
    omega
  have hround : roundDiv (a * 2 ^ s) b ≤ (c + 1) * 2 ^ s := by
    apply roundDiv_le hb
    calc
      a * 2 ^ s ≤ (c + 1) * b * 2 ^ s := Nat.mul_le_mul_right _ hupper
      _ = (c + 1) * 2 ^ s * b := by ring
  have hround' : c * 2 ^ s < roundDiv (a * 2 ^ s) b := by
    apply lt_roundDiv hb
    have hstep : (c * b + 1) * 2 ^ s ≤ a * 2 ^ s := Nat.mul_le_mul_right _ hlower
    have hexpand : (c * b + 1) * 2 ^ s = c * 2 ^ s * b + 2 ^ s := by ring
    omega
  rw [hc]
  have hlo : c + 1 ≤ (roundDiv (a * 2 ^ s) b + 2 ^ s - 1) / 2 ^ s := by
    rw [Nat.le_div_iff_mul_le hs, Nat.add_mul, Nat.one_mul]
    omega
  have hhi : (roundDiv (a * 2 ^ s) b + 2 ^ s - 1) / 2 ^ s < c + 2 := by
    rw [Nat.div_lt_iff_lt_mul hs, Nat.add_mul]
    rw [Nat.add_mul] at hround
    omega
  omega

end TrueDiv
