import Mathlib.Data.List.Sort

/-!
# Sorting — stable sorting of records by a key

`sort(key=…)` is an insertion sort by the order of the keys.  Records with distinct keys have one sorted
arrangement, so a permutation of them sorts to the same list.
-/

namespace Sorting

variable {α β : Type} [LE β] [Std.IsLinearOrder β] [DecidableLE β]

/-- `xs.sort(key=key)`. -/
def sortByKey (key : α → β) (xs : List α) : List α := xs.insertionSort fun a b => key a ≤ key b

instance keyTotal (key : α → β) : Std.Total fun a b : α => key a ≤ key b where
  total _ _ := Std.le_total

instance keyTrans (key : α → β) : IsTrans α fun a b : α => key a ≤ key b where
  trans _ _ _ := Std.le_trans

omit [Std.IsLinearOrder β] in
theorem perm_sortByKey (key : α → β) (xs : List α) : (sortByKey key xs).Perm xs :=
  List.perm_insertionSort _ xs

theorem pairwise_sortByKey (key : α → β) (xs : List α) :
    (sortByKey key xs).Pairwise fun a b => key a ≤ key b := List.pairwise_insertionSort _ xs

theorem sortByKey_eq_of_perm {key : α → β} {xs ys : List α} (hkeys : (xs.map key).Nodup)
    (h : xs.Perm ys) : sortByKey key xs = sortByKey key ys := by
  have hsorted : (sortByKey key xs).Perm (sortByKey key ys) :=
    (perm_sortByKey key xs).trans (h.trans (perm_sortByKey key ys).symm)
  refine hsorted.eq_of_pairwise ?_ (pairwise_sortByKey key xs) (pairwise_sortByKey key ys)
  -- two records of the list with one key are the same record
  intro a b ha hb hab hba
  have hax := (perm_sortByKey key xs).mem_iff.mp ha
  have hbx := h.mem_iff.mpr ((perm_sortByKey key ys).mem_iff.mp hb)
  exact List.inj_on_of_nodup_map hkeys hax hbx (Std.le_antisymm hab hba)

/-- The last record of a sorted list has the greatest key. -/
theorem key_le_of_getLast? {key : α → β} {xs : List α} {last : α}
    (h : (sortByKey key xs).getLast? = some last) {a : α} (ha : a ∈ xs) : key a ≤ key last := by
  obtain ⟨front, hfront⟩ := List.getLast?_eq_some_iff.mp h
  have hsorted := pairwise_sortByKey key xs
  have hmem := (perm_sortByKey key xs).mem_iff.mpr ha
  rw [hfront] at hsorted hmem
  rcases List.mem_append.mp hmem with hmem | hmem
  · exact (List.pairwise_append.mp hsorted).2.2 a hmem last (List.mem_singleton_self last)
  · rw [List.mem_singleton.mp hmem]
    exact Std.le_refl (key last)

/-- `xs.sort(key=key, reverse=True)`. -/
def sortByKeyReverse (key : α → β) (xs : List α) : List α :=
  xs.insertionSort fun a b => key b ≤ key a

instance keyReverseTotal (key : α → β) : Std.Total fun a b : α => key b ≤ key a where
  total _ _ := Std.le_total

instance keyReverseTrans (key : α → β) : IsTrans α fun a b : α => key b ≤ key a where
  trans _ _ _ hab hbc := Std.le_trans hbc hab

omit [Std.IsLinearOrder β] in
theorem perm_sortByKeyReverse (key : α → β) (xs : List α) : (sortByKeyReverse key xs).Perm xs :=
  List.perm_insertionSort _ xs

/-- The first record of a list sorted in reverse has the greatest key. -/
theorem key_le_of_head {key : α → β} {xs front : List α} {first : α}
    (h : sortByKeyReverse key xs = first :: front) {a : α} (ha : a ∈ xs) : key a ≤ key first := by
  have hsorted := List.pairwise_insertionSort (fun a b : α => key b ≤ key a) xs
  have hmem := (perm_sortByKeyReverse key xs).mem_iff.mpr ha
  rw [show xs.insertionSort (fun a b => key b ≤ key a) = first :: front from h] at hsorted
  rw [h] at hmem
  rcases List.mem_cons.mp hmem with rfl | hmem
  · exact Std.le_refl (key a)
  · exact (List.pairwise_cons.mp hsorted).1 a hmem

/-- A stable sort by the key of an association list: every key is still read at its first entry. -/
theorem lookup_sortByKey {γ : Type} [BEq β] [LawfulBEq β] (entries : List (β × γ)) (key : β) :
    (sortByKey Prod.fst entries).lookup key = entries.lookup key := by
  have hinsert (entry : β × γ) (sorted : List (β × γ)) :
      (sorted.orderedInsert (fun a b => a.1 ≤ b.1) entry).lookup key = (entry :: sorted).lookup key := by
    induction sorted with
    | nil => rfl
    | cons first rest ih =>
      rw [List.orderedInsert_cons]
      split
      · rfl
      · rename_i hafter
        -- an entry is moved behind smaller keys only
        have hne : first.1 ≠ entry.1 := fun he => hafter (he ▸ Std.le_refl entry.1)
        rw [List.lookup_cons, ih, List.lookup_cons, List.lookup_cons, List.lookup_cons]
        by_cases hfirst : key = first.1
        · rw [beq_iff_eq.mpr hfirst, beq_eq_false_iff_ne.mpr (fun he => hne (hfirst.symm.trans he))]
        · rw [beq_eq_false_iff_ne.mpr hfirst]
  induction entries with
  | nil => rfl
  | cons entry entries ih =>
    rw [sortByKey, List.insertionSort_cons, hinsert, List.lookup_cons, List.lookup_cons]
    cases key == entry.1 with
    | true => rfl
    | false => exact ih

end Sorting
