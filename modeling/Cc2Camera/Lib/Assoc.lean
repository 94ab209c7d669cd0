import Mathlib.Tactic.Common

/-!
# Assoc — a list of entries as a store

The first entry of a key counts.  Assigning to a key that is present changes what that key holds and nothing else.
-/

namespace Assoc

variable {κ β : Type} [DecidableEq κ]

def lookup (key : κ) : List (κ × β) → Option β
  | [] => none
  | entry :: rest => if entry.1 = key then some entry.2 else lookup key rest

/-- Gives the first entry of the key another value; a key that is not there is not added. -/
def assign (key : κ) (value : β) : List (κ × β) → List (κ × β)
  | [] => []
  | entry :: rest => if entry.1 = key then (key, value) :: rest else entry :: assign key value rest

variable {key other : κ} {value : β} {entries : List (κ × β)}

theorem lookup_assign :
    lookup other (assign key value entries) =
      if other = key then (lookup key entries).map fun _ => value else lookup other entries := by
  induction entries with
  | nil =>
    split <;> rfl
  | cons entry rest ih =>
    by_cases hentry : entry.1 = key
    · by_cases hother : other = key
      · simp [assign, lookup, hentry, hother]
      · have hne : ¬key = other := fun h => hother h.symm
        simp [assign, lookup, hentry, hother, hne]
    · by_cases hother : other = key
      · subst hother
        simpa [assign, lookup, hentry] using ih
      · simp only [assign, hentry, if_false, lookup, ih, hother]

/-- Where a key is found, and what stands around it. -/
theorem lookup_eq_some_iff_split :
    lookup key entries = some value ↔
      ∃ before after, entries = before ++ (key, value) :: after ∧ ∀ entry ∈ before, entry.1 ≠ key := by
  induction entries with
  | nil => simp [lookup]
  | cons entry rest ih =>
    rw [lookup]
    by_cases hentry : entry.1 = key
    · rw [if_pos hentry]
      constructor
      · intro h
        refine ⟨[], rest, ?_, nofun⟩
        rw [List.nil_append, ← hentry, ← Option.some.inj h]
      · rintro ⟨before, after, hsplit, hbefore⟩
        cases before with
        | nil =>
          obtain ⟨rfl, -⟩ := List.cons.inj hsplit
          rfl
        | cons first before =>
          obtain ⟨rfl, -⟩ := List.cons.inj hsplit
          exact absurd hentry (hbefore entry List.mem_cons_self)
    · rw [if_neg hentry, ih]
      constructor
      · rintro ⟨before, after, rfl, hbefore⟩
        exact ⟨entry :: before, after, rfl, List.forall_mem_cons.mpr ⟨hentry, hbefore⟩⟩
      · rintro ⟨before, after, hsplit, hbefore⟩
        cases before with
        | nil =>
          obtain ⟨rfl, -⟩ := List.cons.inj hsplit
          exact absurd rfl hentry
        | cons first before =>
          obtain ⟨rfl, rfl⟩ := List.cons.inj hsplit
          exact ⟨before, after, rfl, (List.forall_mem_cons.mp hbefore).2⟩

theorem assign_split {before after : List (κ × β)} {old : β} (hbefore : ∀ entry ∈ before, entry.1 ≠ key) :
    assign key value (before ++ (key, old) :: after) = before ++ (key, value) :: after := by
  induction before with
  | nil => exact if_pos rfl
  | cons first before ih =>
    obtain ⟨hfirst, hrest⟩ := List.forall_mem_cons.mp hbefore
    rw [List.cons_append, assign, if_neg hfirst, ih hrest]
    rfl

end Assoc
