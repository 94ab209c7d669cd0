import Cc2Camera.Lib.Bytes

/-!
# Chunks — a list cut into pieces of one size

`chunks n xs` is `[xs[i : i + n] for i in range(0, len(xs), n)]`: every piece but the last holds `n`
elements, and the pieces concatenate to the list.
-/

namespace Bytes

variable {α : Type}

def chunks (n : Nat) (xs : List α) : List (List α) :=
  (List.range ((xs.length + n - 1) / n)).map fun k => slice xs (k * n) (k * n + n)

theorem length_chunks (n : Nat) (xs : List α) : (chunks n xs).length = (xs.length + n - 1) / n := by
  rw [chunks, List.length_map, List.length_range]

theorem getElem?_chunks {n : Nat} {xs : List α} {k : Nat} (h : k < (xs.length + n - 1) / n) :
    (chunks n xs)[k]? = some (slice xs (k * n) (k * n + n)) := by
  rw [chunks, List.getElem?_map, List.getElem?_range h, Option.map_some]

theorem length_le_of_mem_chunks {n : Nat} {xs chunk : List α} (h : chunk ∈ chunks n xs) :
    chunk.length ≤ n := by
  obtain ⟨k, -, rfl⟩ := List.mem_map.mp h
  rw [length_slice]
  omega

-- the first `m` pieces make up the first `m * n` elements
theorem flatten_slices (n m : Nat) (xs : List α) :
    ((List.range m).map fun k => slice xs (k * n) (k * n + n)).flatten = xs.take (m * n) := by
  induction m with
  | zero => simp
  | succ m ih =>
    rw [List.range_succ, List.map_append, List.flatten_append, ih, List.map_singleton,
      List.flatten_singleton, ← slice_zero, slice_append_slice _ (Nat.zero_le _) (Nat.le_add_right _ _),
      slice_zero, Nat.succ_mul]

theorem le_ceil_mul {n : Nat} (hn : 0 < n) (length : Nat) : length ≤ (length + n - 1) / n * n := by
  have hmod := Nat.div_add_mod (length + n - 1) n
  have hlt := Nat.mod_lt (length + n - 1) hn
  rw [Nat.mul_comm] at hmod
  omega

theorem ne_nil_of_mem_chunks {n : Nat} (hn : 0 < n) {xs chunk : List α} (h : chunk ∈ chunks n xs) : chunk ≠ [] := by
  obtain ⟨k, hk, rfl⟩ := List.mem_map.mp h
  have hlt : k * n < xs.length := by
    have hbound := (Nat.le_div_iff_mul_le hn).mp (Nat.succ_le_of_lt (List.mem_range.mp hk))
    rw [Nat.succ_mul] at hbound
    omega
  apply List.ne_nil_of_length_pos
  rw [length_slice]
  omega

theorem flatten_chunks {n : Nat} (hn : 0 < n) (xs : List α) : (chunks n xs).flatten = xs := by
  rw [chunks, flatten_slices]
  exact List.take_of_length_le (le_ceil_mul hn xs.length)

theorem sum_length_chunks {n : Nat} (hn : 0 < n) (xs : List α) :
    ((chunks n xs).map List.length).sum = xs.length := by
  rw [← List.length_flatten, flatten_chunks hn]

end Bytes
