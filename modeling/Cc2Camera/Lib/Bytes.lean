import Mathlib.Data.Nat.Log
import Mathlib.Tactic.Ring

/-!
# Bytes — slices, slice assignment and little-endian words

Byte strings are lists of `UInt8`.  `slice` and `splice` are the reads and the assignments of a
half-open range; every equality of two slices is settled index by index (`slice_eq_slice_iff`), and
a read after an assignment by one of the three `slice_splice_*` lemmas.
-/

/-- A byte string. -/
abbrev Bytes := List UInt8

-- named, so that every membership of a byte string is decided by the same instance
instance : LawfulBEq Bytes := inferInstance

namespace Bytes

variable {α : Type}

/-- The half-open range `b[i:j]`, clipped to the bounds of `b`. -/
def slice (b : List α) (i j : Nat) : List α := (b.take j).drop i

/-- `b` after the assignment `b[i:j] = r`. -/
def splice (b : List α) (i j : Nat) (r : List α) : List α := b.take i ++ r ++ b.drop j

/-! ## Slices -/

@[simp] theorem length_slice (b : List α) (i j : Nat) :
    (slice b i j).length = min j b.length - i := by
  simp [slice]

theorem getElem?_slice (b : List α) (i j k : Nat) :
    (slice b i j)[k]? = if i + k < j then b[i + k]? else none := by
  rw [slice, List.getElem?_drop, List.getElem?_take]

theorem slice_eq_nil_of_le {b : List α} {i j : Nat} (h : j ≤ i) : slice b i j = [] := by
  apply List.eq_nil_of_length_eq_zero
  rw [length_slice]
  omega

theorem slice_zero (b : List α) (j : Nat) : slice b 0 j = b.take j := rfl

theorem slice_self (b : List α) : slice b 0 b.length = b := by
  rw [slice_zero, List.take_length]

theorem slice_of_length_le {b : List α} {i j : Nat} (h : b.length ≤ j) :
    slice b i j = b.drop i := by
  rw [slice, List.take_of_length_le h]

/-- Two slices over the same range agree exactly when the strings agree at each index of it. -/
theorem slice_eq_slice_iff (a b : List α) (i j : Nat) :
    slice a i j = slice b i j ↔ ∀ k, i ≤ k → k < j → a[k]? = b[k]? := by
  constructor
  · intro h k hik hkj
    have hk := congrArg (fun l => l[k - i]?) h
    simp only [getElem?_slice] at hk
    rwa [if_pos (by omega), if_pos (by omega), Nat.add_sub_cancel' hik] at hk
  · intro h
    apply List.ext_getElem?
    intro k
    rw [getElem?_slice, getElem?_slice]
    split
    · exact h _ (Nat.le_add_right i k) (by assumption)
    · rfl

theorem slice_singleton {b : List α} {i : Nat} (h : i < b.length) : slice b i (i + 1) = [b[i]] := by
  rw [slice, List.drop_take, Nat.add_sub_cancel_left, List.take_one, List.head?_drop,
    List.getElem?_eq_getElem h, Option.toList_some]

/-- A slice of a slice is a slice of the original string. -/
theorem slice_slice (b : List α) {i j k l : Nat} (h : i + l ≤ j) :
    slice (slice b i j) k l = slice b (i + k) (i + l) := by
  apply List.ext_getElem?
  intro m
  simp only [getElem?_slice]
  by_cases hm : k + m < l
  · rw [if_pos hm, if_pos (by omega), if_pos (by omega), Nat.add_assoc]
  · rw [if_neg hm, if_neg (by omega)]

theorem slice_append_slice (b : List α) {i j k : Nat} (hij : i ≤ j) (hjk : j ≤ k) :
    slice b i j ++ slice b j k = slice b i k := by
  rw [slice, slice, slice]
  conv_rhs => rw [← List.take_append_drop j (b.take k)]
  rw [List.take_take, Nat.min_eq_left hjk, List.drop_append]
  congr 1
  by_cases hlen : j ≤ b.length
  · rw [List.length_take, Nat.min_eq_left hlen, Nat.sub_eq_zero_of_le hij, List.drop_zero]
  · rw [List.drop_eq_nil_of_le (by rw [List.length_take]; omega), List.drop_nil]

theorem slice_append_left (a b : List α) {i j : Nat} (h : j ≤ a.length) :
    slice (a ++ b) i j = slice a i j := by
  rw [slice, List.take_append_of_le_length h, slice]

theorem slice_append_right (a b : List α) {i j : Nat} (h : a.length ≤ i) :
    slice (a ++ b) i j = slice b (i - a.length) (j - a.length) := by
  apply List.ext_getElem?
  intro k
  simp only [getElem?_slice]
  rw [List.getElem?_append_right (by omega)]
  by_cases hk : i + k < j
  · rw [if_pos hk, if_pos (by omega)]
    congr 1
    omega
  · rw [if_neg hk, if_neg (by omega)]

/-- Reading a whole component back out of a concatenation. -/
theorem slice_append_middle (a b c : List α) :
    slice (a ++ b ++ c) a.length (a.length + b.length) = b := by
  rw [slice_append_left _ _ (by rw [List.length_append]), slice_append_right _ _ (Nat.le_refl _),
    Nat.sub_self, Nat.add_sub_cancel_left, slice_self]

/-- Reading the part `b` of a string that is cut into three. -/
theorem slice_of_append {data a b c : List α} {i j : Nat} (h : data = a ++ (b ++ c))
    (hi : a.length = i) (hj : i + b.length = j) : slice data i j = b := by
  rw [h, ← List.append_assoc, ← hj, ← hi, slice_append_middle]

/-- Concatenations with the same first and third part agree there. -/
theorem getElem?_append_hole (a b b' m d d' : List α) (hb : b.length = b'.length) {k : Nat}
    (hk : k < a.length ∨ (a.length + b.length ≤ k ∧ k < a.length + b.length + m.length)) :
    (a ++ (b ++ (m ++ d)))[k]? = (a ++ (b' ++ (m ++ d')))[k]? := by
  rcases hk with hk | ⟨hlo, hhi⟩
  · rw [List.getElem?_append_left hk, List.getElem?_append_left hk]
  · have third (x z : List α) (hx : x.length = b.length) :
        (a ++ (x ++ (m ++ z)))[k]? = m[k - a.length - b.length]? := by
      rw [List.getElem?_append_right (Nat.le_trans (Nat.le_add_right _ _) hlo), ← hx,
        List.getElem?_append_right (by omega), List.getElem?_append_left (by omega)]
    rw [third b d rfl, third b' d' hb.symm]

/-- A concatenation found in a longer string: its first part. -/
theorem slice_head_of_append {b x y : List α} {i : Nat}
    (h : slice b i (i + (x ++ y).length) = x ++ y) : slice b i (i + x.length) = x := by
  have hx := slice_slice b (i := i) (j := i + (x ++ y).length) (k := 0) (l := x.length)
    (by rw [List.length_append]; omega)
  rw [h, slice_append_left _ _ (Nat.le_refl _), slice_self, Nat.add_zero] at hx
  exact hx.symm

/-- A concatenation found in a longer string: its second part. -/
theorem slice_tail_of_append {b x y : List α} {i : Nat}
    (h : slice b i (i + (x ++ y).length) = x ++ y) :
    slice b (i + x.length) (i + x.length + y.length) = y := by
  have hy := slice_slice b (i := i) (j := i + (x ++ y).length) (k := x.length)
    (l := (x ++ y).length) (Nat.le_refl _)
  rw [h, slice_append_right _ _ (Nat.le_refl _), Nat.sub_self, List.length_append,
    Nat.add_sub_cancel_left, slice_self] at hy
  rw [Nat.add_assoc]
  exact hy.symm

/-- A nonempty string found in a longer one lies within its bounds. -/
theorem le_length_of_slice {b x : List α} {i : Nat} (hx : x ≠ [])
    (h : slice b i (i + x.length) = x) : i + x.length ≤ b.length := by
  have hlen := congrArg List.length h
  rw [length_slice] at hlen
  have hpos := List.length_pos_iff.mpr hx
  omega

theorem slice_replicate (n : Nat) (x : α) {i j : Nat} (h : j ≤ n) :
    slice (List.replicate n x) i j = List.replicate (j - i) x := by
  rw [slice, List.take_replicate, List.drop_replicate, Nat.min_eq_left h]

/-! ## Slice assignment -/

theorem length_splice (b r : List α) {i j : Nat} (hi : i ≤ b.length) :
    (splice b i j r).length = i + r.length + (b.length - j) := by
  rw [splice, List.length_append, List.length_append, List.length_take, List.length_drop,
    Nat.min_eq_left hi]

/-- Assigning a range of its own length keeps the length. -/
theorem length_splice_of_fit (b r : List α) {i j : Nat} (hij : i ≤ j) (hj : j ≤ b.length)
    (hr : r.length = j - i) : (splice b i j r).length = b.length := by
  rw [length_splice b r (by omega)]
  omega

theorem slice_splice_before (b r : List α) {i j k l : Nat} (hi : i ≤ b.length) (hl : l ≤ i) :
    slice (splice b i j r) k l = slice b k l := by
  rw [splice, List.append_assoc, slice_append_left _ _ (by rw [List.length_take]; omega)]
  rw [slice, slice, List.take_take, Nat.min_eq_left hl]

theorem slice_splice_inside (b r : List α) {i j : Nat} (hi : i ≤ b.length) :
    slice (splice b i j r) i (i + r.length) = r := by
  have hlen : (b.take i).length = i := by rw [List.length_take, Nat.min_eq_left hi]
  have h := slice_append_middle (b.take i) r (b.drop j)
  rwa [hlen] at h

theorem slice_splice_after (b r : List α) {i j k l : Nat} (hij : i ≤ j) (hj : j ≤ b.length)
    (hr : r.length = j - i) (hk : j ≤ k) :
    slice (splice b i j r) k l = slice b k l := by
  have hlen : (b.take i ++ r).length = j := by
    rw [List.length_append, List.length_take, Nat.min_eq_left (by omega), hr]
    omega
  rw [splice, slice_append_right _ _ (by rw [hlen]; exact hk), hlen]
  apply List.ext_getElem?
  intro m
  simp only [getElem?_slice, List.getElem?_drop]
  by_cases hm : k + m < l
  · rw [if_pos hm, if_pos (by omega)]
    congr 1
    omega
  · rw [if_neg hm, if_neg (by omega)]

/-- Replacing a range by what it already holds changes nothing. -/
theorem splice_slice_self (b : List α) {i j : Nat} (hij : i ≤ j) :
    splice b i j (slice b i j) = b := by
  rw [splice, ← slice_zero, slice_append_slice b (Nat.zero_le i) hij, slice_zero,
    List.take_append_drop]

theorem getElem?_splice_outside (b r : List α) {i j k : Nat} (hij : i ≤ j) (hj : j ≤ b.length)
    (hr : r.length = j - i) (hk : k < i ∨ j ≤ k) : (splice b i j r)[k]? = b[k]? := by
  have hcases : slice (splice b i j r) k (k + 1) = slice b k (k + 1) := by
    rcases hk with hk | hk
    · exact slice_splice_before b r (by omega) (by omega)
    · exact slice_splice_after b r hij hj hr hk
  exact (slice_eq_slice_iff _ _ _ _).mp hcases k (Nat.le_refl k) (Nat.lt_succ_self k)

theorem splice_append_right (a b r : List α) {i j : Nat} (hi : a.length ≤ i) (hij : i ≤ j) :
    splice (a ++ b) i j r = a ++ splice b (i - a.length) (j - a.length) r := by
  rw [splice, splice, List.take_append, List.drop_append, List.take_of_length_le hi,
    List.drop_eq_nil_of_le (by omega), List.nil_append, List.append_assoc, List.append_assoc,
    List.append_assoc]

/-- Writing into the uniform rest behind `a` leaves a uniform gap before and a uniform rest after. -/
theorem splice_append_replicate (a r : List α) (x : α) {n i : Nat} (hi : a.length ≤ i)
    (hfit : i + r.length ≤ a.length + n) :
    splice (a ++ List.replicate n x) i (i + r.length) r =
      a ++ List.replicate (i - a.length) x ++ r ++
        List.replicate (a.length + n - (i + r.length)) x := by
  rw [splice_append_right _ _ _ hi (Nat.le_add_right _ _), splice, List.take_replicate,
    List.drop_replicate, Nat.min_eq_left (by omega), List.append_assoc, List.append_assoc,
    List.append_assoc]
  congr 4
  omega

/-! ## Single bytes -/

theorem slice_set_outside (b : List α) (x : α) {i j k : Nat} (h : k < i ∨ j ≤ k) :
    slice (b.set k x) i j = slice b i j := by
  rw [slice_eq_slice_iff]
  intro m him hmj
  rw [List.getElem?_set_ne (by omega)]

theorem slice_set_inside (b : List α) (x : α) {i j k : Nat} (hi : i ≤ k) (hj : k < j) :
    slice (b.set k x) i j = (slice b i j).set (k - i) x := by
  apply List.ext_getElem?
  intro m
  by_cases hm : i + m < j
  · by_cases hk : m = k - i
    · have hadd : i + (k - i) = k := by omega
      rw [getElem?_slice, if_pos hm, hk, hadd, List.getElem?_set, List.getElem?_set]
      rw [if_pos rfl, if_pos rfl, length_slice]
      by_cases hlen : k < b.length
      · rw [if_pos hlen, if_pos (by omega)]
      · rw [if_neg hlen, if_neg (by omega)]
    · rw [getElem?_slice, if_pos hm, List.getElem?_set_ne (by omega),
        List.getElem?_set_ne (by omega), getElem?_slice, if_pos hm]
  · rw [getElem?_slice, if_neg hm, List.getElem?_eq_none]
    rw [List.length_set, length_slice]
    omega

/-- A string with one byte changed differs from itself wherever that byte is read. -/
theorem slice_set_ne {b : List α} {x : α} {i j k : Nat} (hk : k < b.length) (hi : i ≤ k) (hj : k < j)
    (hx : x ≠ b[k]) : slice (b.set k x) i j ≠ slice b i j := by
  intro h
  have hget := (slice_eq_slice_iff _ _ i j).mp h k hi hj
  rw [List.getElem?_set_self hk, List.getElem?_eq_getElem hk] at hget
  exact hx (Option.some.inj hget)

/-! ## Little-endian words -/

/-- The number whose little-endian digits in base 256 are the bytes. -/
def leNat : Bytes → Nat
  | [] => 0
  | b :: bs => b.toNat + 256 * leNat bs

/-- The `w` low bytes of `n`, least significant first. -/
def leBytes : Nat → Nat → Bytes
  | 0, _ => []
  | w + 1, n => UInt8.ofNat n :: leBytes w (n / 256)

@[simp] theorem length_leBytes (w n : Nat) : (leBytes w n).length = w := by
  induction w generalizing n with
  | zero => rfl
  | succ w ih => rw [leBytes, List.length_cons, ih]

theorem leNat_lt (b : Bytes) : leNat b < 256 ^ b.length := by
  induction b with
  | nil => simp [leNat]
  | cons x xs ih =>
    rw [leNat, List.length_cons, pow_succ]
    have hx := x.toNat_lt
    omega

theorem leNat_leBytes {w n : Nat} (h : n < 256 ^ w) : leNat (leBytes w n) = n := by
  induction w generalizing n with
  | zero =>
    rw [pow_zero] at h
    rw [leBytes, leNat]
    omega
  | succ w ih =>
    rw [pow_succ] at h
    rw [leBytes, leNat, ih (Nat.div_lt_of_lt_mul (by omega)), UInt8.toNat_ofNat']
    have hmod := Nat.mod_add_div n 256
    omega

theorem leBytes_leNat (b : Bytes) : leBytes b.length (leNat b) = b := by
  induction b with
  | nil => rfl
  | cons x xs ih =>
    have hx := x.toNat_lt
    rw [List.length_cons, leBytes, leNat, Nat.add_mul_div_left _ _ (by decide),
      Nat.div_eq_of_lt (by omega), Nat.zero_add, ih]
    congr 1
    apply UInt8.toNat_inj.mp
    rw [UInt8.toNat_ofNat']
    omega

theorem leNat_inj {a b : Bytes} (hlength : a.length = b.length) (h : leNat a = leNat b) : a = b := by
  rw [← leBytes_leNat a, ← leBytes_leNat b, hlength, h]

/-! ## Records of little-endian fields -/

/-- The fields of a packed record, each given by its width and its value. -/
def leFields (fields : List (Nat × Nat)) : Bytes := fields.flatMap fun f => leBytes f.1 f.2

/-- The number of bytes before field `k`. -/
def fieldStart (fields : List (Nat × Nat)) (k : Nat) : Nat := ((fields.take k).map Prod.fst).sum

@[simp] theorem leFields_nil : leFields [] = [] := rfl

@[simp] theorem leFields_cons (f : Nat × Nat) (fields : List (Nat × Nat)) :
    leFields (f :: fields) = leBytes f.1 f.2 ++ leFields fields := rfl

theorem leFields_append (a b : List (Nat × Nat)) : leFields (a ++ b) = leFields a ++ leFields b :=
  List.flatMap_append

theorem length_leFields (fields : List (Nat × Nat)) :
    (leFields fields).length = (fields.map Prod.fst).sum := by
  induction fields with
  | nil => rfl
  | cons f fields ih =>
    rw [leFields_cons, List.length_append, length_leBytes, ih, List.map_cons, List.sum_cons]

/-- A field that fits its width is read back from its place in the record. -/
theorem leNat_leFields {fields : List (Nat × Nat)} {k w v : Nat} (hk : fields[k]? = some (w, v))
    (hv : v < 256 ^ w) :
    leNat (slice (leFields fields) (fieldStart fields k) (fieldStart fields k + w)) = v := by
  obtain ⟨hlt, hget⟩ := List.getElem?_eq_some_iff.mp hk
  have hsplit : leFields fields =
      leFields (fields.take k) ++ leBytes w v ++ leFields (fields.drop (k + 1)) := by
    conv_lhs => rw [← List.take_append_drop k fields, ← List.getElem_cons_drop hlt, hget]
    rw [leFields_append, leFields_cons, List.append_assoc]
  have hmiddle := slice_append_middle (leFields (fields.take k)) (leBytes w v)
    (leFields (fields.drop (k + 1)))
  rw [length_leFields, length_leBytes, ← hsplit] at hmiddle
  rw [fieldStart, hmiddle, leNat_leBytes hv]

theorem fieldStart_add_le {fields : List (Nat × Nat)} {k w v : Nat} (hk : fields[k]? = some (w, v)) :
    fieldStart fields k + w ≤ (leFields fields).length := by
  obtain ⟨hlt, hget⟩ := List.getElem?_eq_some_iff.mp hk
  have hsum : (fields.map Prod.fst).sum =
      fieldStart fields k + (w + ((fields.drop (k + 1)).map Prod.fst).sum) := by
    conv_lhs => rw [← List.take_append_drop k fields, ← List.getElem_cons_drop hlt, hget]
    rw [List.map_append, List.sum_append, List.map_cons, List.sum_cons, fieldStart]
  rw [length_leFields, hsum]
  omega

/-- A field of a record that lies at `offset` of a longer string. -/
theorem leNat_field_at {data rest : Bytes} {offset : Nat} {fields : List (Nat × Nat)} {k w v : Nat}
    (hdata : slice data offset (offset + (leFields fields ++ rest).length) = leFields fields ++ rest)
    (hk : fields[k]? = some (w, v)) (hv : v < 256 ^ w) :
    leNat (slice data (offset + fieldStart fields k) (offset + fieldStart fields k + w)) = v := by
  have hfit := fieldStart_add_le hk
  have hslice := slice_slice data (i := offset) (j := offset + (leFields fields ++ rest).length)
    (k := fieldStart fields k) (l := fieldStart fields k + w)
    (by rw [List.length_append]; omega)
  rw [hdata, slice_append_left _ _ hfit] at hslice
  rw [Nat.add_assoc, ← hslice, leNat_leFields hk hv]

/-- The leading fields of a record that lies at `offset` of a longer string. -/
theorem slice_leading_fields {data rest : Bytes} {offset : Nat} {fields a b : List (Nat × Nat)}
    (hdata : slice data offset (offset + (leFields fields ++ rest).length) = leFields fields ++ rest)
    (hfields : fields = a ++ b) :
    slice data offset (offset + (a.map Prod.fst).sum) = leFields a := by
  have h := slice_head_of_append hdata
  rw [hfields, leFields_append] at h
  rw [← length_leFields]
  exact slice_head_of_append h

end Bytes
