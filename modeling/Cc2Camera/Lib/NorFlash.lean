import Cc2Camera.Lib.Bytes

/-!
# NorFlash — a chip that erases to ones and programs by clearing bits
-/

open Bytes

namespace NorFlash

structure Chip where
  erase : Bytes → (offset length : Nat) → Bytes
  write : Bytes → (offset : Nat) → (data : Bytes) → Bytes

/-- What the data sheet of a chip with such sectors promises about whole sectors. -/
structure Chip.Works (chip : Chip) (sector : Nat) : Prop where
  erased : ∀ flash offset length, sector ∣ offset → sector ∣ length → offset + length ≤ flash.length →
    chip.erase flash offset length = splice flash offset (offset + length) (List.replicate length 0xFF)
  written : ∀ flash offset data, offset + data.length ≤ flash.length →
    chip.write flash offset data = splice flash offset (offset + data.length)
      (List.zipWith (· &&& ·) (slice flash offset (offset + data.length)) data)

theorem zipWith_ones (data : Bytes) :
    List.zipWith (· &&& ·) (List.replicate data.length (0xFF : UInt8)) data = data := by
  induction data with
  | nil => rfl
  | cons b data ih =>
    have hones : 0xFF &&& b = b := by
      apply UInt8.toNat_inj.mp
      rw [UInt8.toNat_and]
      have hlt := b.toNat_lt
      show 255 &&& b.toNat = b.toNat
      rw [Nat.and_comm, show (255 : Nat) = 2 ^ 8 - 1 from rfl, Nat.and_two_pow_sub_one_eq_mod]
      omega
    rw [List.length_cons, List.replicate_succ, List.zipWith_cons_cons, hones, ih]

section Works

variable {chip : Chip} {sector : Nat}

theorem splice_splice (flash a b : Bytes) {i j : Nat} (hi : i ≤ flash.length) (ha : i + a.length = j) :
    splice (splice flash i j a) i j b = splice flash i j b := by
  have htake : (splice flash i j a).take i = flash.take i := by
    rw [splice, List.append_assoc, List.take_left' (by rw [List.length_take]; omega)]
  have hdrop : (splice flash i j a).drop j = flash.drop j := by
    rw [splice, List.drop_left' (by rw [List.length_append, List.length_take]; omega)]
  show (splice flash i j a).take i ++ b ++ (splice flash i j a).drop j = _
  rw [htake, hdrop]
  rfl

/-- Whole sectors that were erased take what is written. -/
theorem Chip.Works.programs (h : chip.Works sector) {flash data : Bytes} {offset : Nat} (hoffset : sector ∣ offset)
    (hsectors : sector ∣ data.length) (hfits : offset + data.length ≤ flash.length) :
    chip.write (chip.erase flash offset data.length) offset data = splice flash offset (offset + data.length) data := by
  have herased := h.erased flash offset data.length hoffset hsectors hfits
  have hones : (List.replicate data.length (0xFF : UInt8)).length = data.length := List.length_replicate
  have hlength : (chip.erase flash offset data.length).length = flash.length := by
    rw [herased]
    exact length_splice_of_fit _ _ (Nat.le_add_right _ _) hfits (by rw [hones]; omega)
  have hslice : slice (chip.erase flash offset data.length) offset (offset + data.length) =
      List.replicate data.length 0xFF := by
    have hinside := slice_splice_inside flash (List.replicate data.length (0xFF : UInt8)) (i := offset)
      (j := offset + data.length) (by omega)
    rwa [hones, ← herased] at hinside
  rw [h.written _ offset data (by omega), hslice, zipWith_ones, herased]
  exact splice_splice flash _ _ (by omega) (by rw [hones])

/-- A chip of one size, written from end to end. -/
theorem Chip.Works.programs_whole (h : chip.Works sector) {flash data : Bytes} (hsectors : sector ∣ data.length)
    (hlength : data.length = flash.length) : chip.write (chip.erase flash 0 data.length) 0 data = data := by
  have hwhole : chip.write (chip.erase flash 0 data.length) 0 data = splice flash 0 (0 + data.length) data :=
    h.programs (Nat.dvd_zero sector) hsectors (by omega)
  rw [hwhole, splice, Nat.zero_add, List.take_zero, hlength, List.drop_length, List.append_nil, List.nil_append]

end Works

/-! ## A chip -/

/-- The chip that does so, and leaves what is not whole sectors as it is. -/
def sectored (sector : Nat) : Chip where
  erase flash offset length :=
    if sector ∣ offset ∧ sector ∣ length ∧ offset + length ≤ flash.length then
      splice flash offset (offset + length) (List.replicate length 0xFF)
    else flash
  write flash offset data :=
    splice flash offset (offset + data.length) (List.zipWith (· &&& ·) (slice flash offset (offset + data.length)) data)

theorem sectored_works (sector : Nat) : (sectored sector).Works sector where
  erased _ _ _ hoffset hlength hfits := if_pos ⟨hoffset, hlength, hfits⟩
  written _ _ _ _ := rfl

end NorFlash
