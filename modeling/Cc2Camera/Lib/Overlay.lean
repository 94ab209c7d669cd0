import Cc2Camera.Lib.Bytes

/-!
# Overlay — writes over a buffer of fixed size

Writes are applied in order and clipped to the buffer, so the last write that covers a position decides
what is read there (`getElem?_putAll`), and a position no write covers keeps its value.
-/

open Bytes

namespace Overlay

variable {α : Type}

structure Write (α : Type) where
  start : Nat
  data : List α

def Write.Covers (w : Write α) (p : Nat) : Prop := w.start ≤ p ∧ p < w.start + w.data.length

instance (w : Write α) (p : Nat) : Decidable (w.Covers p) := inferInstanceAs (Decidable (_ ∧ _))

/-- One write, clipped to the buffer. -/
def put (buffer : List α) (w : Write α) : List α :=
  if buffer.length ≤ w.start then buffer
  else
    splice buffer w.start (min (w.start + w.data.length) buffer.length)
      (w.data.take (min (w.start + w.data.length) buffer.length - w.start))

def putAll (buffer : List α) (writes : List (Write α)) : List α := writes.foldl put buffer

/-- The last write that covers a position. -/
def lastWrite (writes : List (Write α)) (p : Nat) : Option (Write α) :=
  writes.reverse.find? fun w => w.Covers p

@[simp] theorem length_put (buffer : List α) (w : Write α) : (put buffer w).length = buffer.length := by
  unfold put
  split
  · rfl
  · rw [length_splice _ _ (by omega), List.length_take]
    omega

theorem put_of_length_le {buffer : List α} {w : Write α} (h : buffer.length ≤ w.start) :
    put buffer w = buffer := if_pos h

theorem put_nil (buffer : List α) (start : Nat) : put buffer ⟨start, []⟩ = buffer := by
  by_cases h : buffer.length ≤ start
  · exact put_of_length_le h
  · rw [put, if_neg h, List.length_nil, Nat.add_zero, Nat.min_eq_left (Nat.le_of_not_le h), List.take_nil, splice,
      List.append_nil, List.take_append_drop]

theorem getElem?_put {buffer : List α} (w : Write α) {p : Nat} (hp : p < buffer.length) :
    (put buffer w)[p]? = if w.Covers p then w.data[p - w.start]? else buffer[p]? := by
  unfold put
  split
  · rw [if_neg (fun h => by have hstart := h.1; omega)]
  · rename_i hstart
    have htake : (w.data.take (min (w.start + w.data.length) buffer.length - w.start)).length =
        min (w.start + w.data.length) buffer.length - w.start := by
      rw [List.length_take]
      omega
    by_cases hcovers : w.Covers p
    · obtain ⟨hlo, hhi⟩ := id hcovers
      -- inside the range: read the written bytes
      have hinside := slice_splice_inside buffer
        (w.data.take (min (w.start + w.data.length) buffer.length - w.start)) (i := w.start)
        (j := min (w.start + w.data.length) buffer.length) (by omega)
      have hread := congrArg (fun l => l[p - w.start]?) hinside
      simp only [getElem?_slice, htake] at hread
      rw [if_pos (by omega), Nat.add_sub_cancel' hlo, List.getElem?_take,
        if_pos (by omega)] at hread
      rw [if_pos hcovers, hread]
    · have houtside : p < w.start ∨ w.start + w.data.length ≤ p := by
        by_contra hin
        exact hcovers ⟨by omega, by omega⟩
      rw [if_neg hcovers, getElem?_splice_outside _ _ (by omega) (by omega) htake (by omega)]

@[simp] theorem length_putAll (buffer : List α) (writes : List (Write α)) :
    (putAll buffer writes).length = buffer.length := by
  induction writes generalizing buffer with
  | nil => rfl
  | cons w writes ih => rw [putAll, List.foldl_cons, ← putAll, ih, length_put]

theorem lastWrite_cons (w : Write α) (writes : List (Write α)) (p : Nat) :
    lastWrite (w :: writes) p =
      (lastWrite writes p).or (if w.Covers p then some w else none) := by
  rw [lastWrite, List.reverse_cons, List.find?_append, ← lastWrite]
  by_cases h : w.Covers p <;> simp [h]

theorem lastWrite_eq_none {writes : List (Write α)} {p : Nat} :
    lastWrite writes p = none ↔ ∀ w ∈ writes, ¬w.Covers p := by
  simp [lastWrite]

theorem lastWrite_append (older newer : List (Write α)) (p : Nat) :
    lastWrite (older ++ newer) p = (lastWrite newer p).or (lastWrite older p) := by
  rw [lastWrite, List.reverse_append, List.find?_append, ← lastWrite, ← lastWrite]

/-- Writes in the order of a key: the one that decides a position has the highest key of those that
cover it. -/
theorem lastWrite_of_pairwise {β : Type} {key : β → Nat} {write : β → Write α} {items : List β}
    (hsorted : items.Pairwise fun a b => key a ≤ key b) {p : Nat} {w : Write α}
    (h : lastWrite (items.map write) p = some w) :
    ∃ item ∈ items, write item = w ∧ w.Covers p ∧
      ∀ other ∈ items, (write other).Covers p → key other ≤ key item := by
  induction items with
  | nil => exact absurd h (by simp [lastWrite])
  | cons item items ih =>
    obtain ⟨hfirst, hrest⟩ := List.pairwise_cons.mp hsorted
    rw [List.map_cons, lastWrite_cons] at h
    cases hlast : lastWrite (items.map write) p with
    | some later =>
      rw [hlast, Option.some_or] at h
      obtain rfl : later = w := Option.some.inj h
      obtain ⟨found, hfound, hwrite, hcovers, hhighest⟩ := ih hrest hlast
      refine ⟨found, List.mem_cons_of_mem _ hfound, hwrite, hcovers, fun other hother hc => ?_⟩
      rcases List.mem_cons.mp hother with rfl | hother
      · exact hfirst found hfound
      · exact hhighest other hother hc
    | none =>
      rw [hlast, Option.none_or] at h
      have hnone := lastWrite_eq_none.mp hlast
      split at h
      · rename_i hcovers
        obtain rfl : write item = w := Option.some.inj h
        refine ⟨item, List.mem_cons_self, rfl, hcovers, fun other hother hc => ?_⟩
        rcases List.mem_cons.mp hother with rfl | hother
        · exact Nat.le_refl _
        · exact absurd hc (hnone _ (List.mem_map_of_mem hother))
      · exact absurd h (by simp)

/-- The last write that covers a position decides it. -/
theorem getElem?_putAll {buffer : List α} {writes : List (Write α)} {p : Nat}
    (hp : p < buffer.length) :
    (putAll buffer writes)[p]? =
      match lastWrite writes p with
      | some w => w.data[p - w.start]?
      | none => buffer[p]? := by
  induction writes generalizing buffer with
  | nil => rfl
  | cons w writes ih =>
    rw [putAll, List.foldl_cons, ← putAll, ih (by rw [length_put]; exact hp), lastWrite_cons,
      getElem?_put w hp]
    cases lastWrite writes p with
    | some w' => rfl
    | none =>
      by_cases h : w.Covers p
      · rw [if_pos h, if_pos h]
        rfl
      · rw [if_neg h, if_neg h]
        rfl

/-! ## A whole buffer with newer writes over it -/

/-- Some position is left by `newer` with a value other than `data` has there: the last of the writes
that cover it brought another one. -/
def Alters (data : List α) (newer : List (Write α)) : Prop :=
  ∃ p < data.length, ∃ w, lastWrite newer p = some w ∧ w.data[p - w.start]? ≠ data[p]?

theorem not_alters_of_empty {data : List α} {newer : List (Write α)}
    (h : ∀ w ∈ newer, w.data = []) : ¬Alters data newer := by
  rintro ⟨p, -, w, hlast, -⟩
  have hfound := List.find?_some hlast
  rw [decide_eq_true_eq] at hfound
  have hmem : w ∈ newer := List.mem_reverse.mp (List.mem_of_find?_eq_some hlast)
  obtain ⟨hlo, hhi⟩ := hfound
  rw [h w hmem, List.length_nil] at hhi
  omega

/-- Once the whole of `data` was written, what lay below it no longer matters: it is read back exactly
when the buffer has its size and no newer write alters it. -/
theorem putAll_whole_iff {buffer data : List α} {older newer : List (Write α)} :
    data = putAll buffer (older ++ ⟨0, data⟩ :: newer) ↔
      buffer.length = data.length ∧ ¬Alters data newer := by
  have hread {p : Nat} (hp : p < data.length) (hlen : buffer.length = data.length) :
      (putAll buffer (older ++ ⟨0, data⟩ :: newer))[p]? =
        match lastWrite newer p with
        | some w => w.data[p - w.start]?
        | none => data[p]? := by
    have hcovers : Write.Covers ⟨0, data⟩ p := ⟨Nat.zero_le p, by simpa using hp⟩
    rw [getElem?_putAll (by omega), lastWrite_append, lastWrite_cons, if_pos hcovers]
    cases lastWrite newer p with
    | some w => rfl
    | none => rfl
  constructor
  · intro h
    have hlen : buffer.length = data.length := by
      rw [h, length_putAll]
    refine ⟨hlen, ?_⟩
    rintro ⟨p, hp, w, hlast, hother⟩
    have hbyte := hread hp hlen
    rw [← h, hlast] at hbyte
    exact hother hbyte.symm
  · rintro ⟨hlen, hkept⟩
    apply List.ext_getElem?
    intro p
    by_cases hp : p < data.length
    · rw [hread hp hlen]
      cases hlast : lastWrite newer p with
      | none => rfl
      | some w =>
        by_contra hother
        exact hkept ⟨p, hp, w, hlast, fun heq => hother heq.symm⟩
    · rw [List.getElem?_eq_none (by omega), List.getElem?_eq_none (by rw [length_putAll]; omega)]

end Overlay
