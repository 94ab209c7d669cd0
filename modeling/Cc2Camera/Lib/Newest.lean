import Mathlib.Data.List.Perm.Basic

/-!
# Newest — the record of highest version in a list

A record is the newest of a list when its version is the highest and no other position has it; the list is
ambiguous when two positions share the highest version.  Both are facts about the list up to order.
-/

namespace Newest

variable {α β : Type} (version : α → Nat)

structure IsNewest (entries : List α) (e : α) : Prop where
  only : (entries.filter fun x => version x = version e) = [e]
  le : ∀ x ∈ entries, version x ≤ version e

/-- Two positions of the list share the highest version. -/
def Ambiguous (entries : List α) : Prop :=
  ∃ e ∈ entries, (∀ x ∈ entries, version x ≤ version e) ∧
    2 ≤ (entries.filter fun x => version x = version e).length

variable {version}

theorem IsNewest.mem {entries : List α} {e : α} (h : IsNewest version entries e) : e ∈ entries :=
  List.mem_of_mem_filter (h.only ▸ List.mem_singleton_self e)

/-- A record that has the newest version is the newest one. -/
theorem IsNewest.eq_of_version {entries : List α} {e x : α} (h : IsNewest version entries e)
    (hx : x ∈ entries) (hversion : version x = version e) : x = e := by
  have hmem : x ∈ entries.filter fun x => version x = version e :=
    List.mem_filter.mpr ⟨hx, decide_eq_true hversion⟩
  rwa [h.only, List.mem_singleton] at hmem

theorem IsNewest.unique {entries : List α} {e e' : α} (h : IsNewest version entries e)
    (h' : IsNewest version entries e') : e = e' :=
  h'.eq_of_version h.mem (Nat.le_antisymm (h'.le e h.mem) (h.le e' h'.mem))

theorem IsNewest.of_perm {entries entries' : List α} {e : α} (h : IsNewest version entries e)
    (hperm : entries.Perm entries') : IsNewest version entries' e where
  only := List.perm_singleton.mp ((hperm.filter _).symm.trans (.of_eq h.only))
  le x hx := h.le x (hperm.mem_iff.mpr hx)

theorem Ambiguous.of_perm {entries entries' : List α} (h : Ambiguous version entries)
    (hperm : entries.Perm entries') : Ambiguous version entries' := by
  obtain ⟨e, he, hle, htwo⟩ := h
  refine ⟨e, hperm.mem_iff.mp he, fun x hx => hle x (hperm.mem_iff.mpr hx), ?_⟩
  rwa [← (hperm.filter _).length_eq]

theorem IsNewest.not_ambiguous {entries : List α} {e : α} (h : IsNewest version entries e) :
    ¬Ambiguous version entries := by
  rintro ⟨e', he', hle, htwo⟩
  have hsame : e' = e := h.eq_of_version he' (Nat.le_antisymm (h.le e' he') (hle e h.mem))
  rw [hsame, h.only, List.length_singleton] at htwo
  exact absurd htwo (by decide)

theorem not_ambiguous_nil : ¬Ambiguous version ([] : List α) := fun ⟨_, he, _⟩ => List.not_mem_nil he

/-! ## Keeping the newest of what was seen -/

theorem isNewest_singleton (e : α) : IsNewest version [e] e where
  only := by simp
  le x hx := Nat.le_of_eq (congrArg version (List.mem_singleton.mp hx))

theorem IsNewest.append_of_gt {entries : List α} {e x : α} (h : IsNewest version entries e)
    (hx : version x < version e) : IsNewest version (entries ++ [x]) e where
  only := by
    have hother : ¬version x = version e := by omega
    rw [List.filter_append, h.only, List.filter_singleton, decide_eq_false hother]
    rfl
  le y hy := by
    rcases List.mem_append.mp hy with hy | hy
    · exact h.le y hy
    · rw [List.mem_singleton.mp hy]
      exact Nat.le_of_lt hx

theorem IsNewest.append_of_lt {entries : List α} {e x : α} (h : IsNewest version entries e)
    (hx : version e < version x) : IsNewest version (entries ++ [x]) x where
  only := by
    have hnone : (entries.filter fun y => version y = version x) = [] := by
      rw [List.filter_eq_nil_iff]
      intro y hy
      have hle := h.le y hy
      simp only [decide_eq_true_eq]
      omega
    rw [List.filter_append, hnone, List.filter_singleton, decide_eq_true rfl]
    rfl
  le y hy := by
    rcases List.mem_append.mp hy with hy | hy
    · exact Nat.le_of_lt (Nat.lt_of_le_of_lt (h.le y hy) hx)
    · exact Nat.le_of_eq (congrArg version (List.mem_singleton.mp hy))

/-! ## Repeated values -/

/-- Two positions that yield one value can be brought to the front. -/
theorem exists_perm_of_not_nodup {f : α → Option β} {xs : List α} (h : ¬(xs.filterMap f).Nodup) :
    ∃ a b rest v, xs.Perm (a :: b :: rest) ∧ f a = some v ∧ f b = some v := by
  induction xs with
  | nil => exact absurd List.nodup_nil h
  | cons x xs ih =>
    have deeper (htail : ¬(xs.filterMap f).Nodup) :
        ∃ a b rest v, (x :: xs).Perm (a :: b :: rest) ∧ f a = some v ∧ f b = some v := by
      obtain ⟨a, b, rest, v, hperm, ha, hb⟩ := ih htail
      refine ⟨a, b, x :: rest, v, (hperm.cons x).trans ?_, ha, hb⟩
      exact (List.Perm.swap a x _).trans ((List.Perm.swap b x rest).cons a)
    cases hx : f x with
    | none =>
      rw [List.filterMap_cons_none hx] at h
      exact deeper h
    | some v =>
      rw [List.filterMap_cons_some hx, List.nodup_cons, not_and_or, not_not] at h
      rcases h with hmem | htail
      · obtain ⟨b, hb, hfb⟩ := List.mem_filterMap.mp hmem
        obtain ⟨front, back, rfl⟩ := List.append_of_mem hb
        exact ⟨x, b, front ++ back, v, List.perm_middle.cons x, hx, hfb⟩
      · exact deeper htail

end Newest
