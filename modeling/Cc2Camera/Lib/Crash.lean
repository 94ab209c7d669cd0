import Mathlib.Tactic.Common

/-!
# Crash — lists of commands that may be cut off

A machine says of each command what it does when it runs to its end and what it may leave behind when
it is cut off inside.  `Interrupted` collects every state a list of commands can be left in: cut off
before any command, inside one, or after the last.
-/

namespace Crash

/-- What one command may do to the state: run to its end, or be cut off inside. -/
structure Machine (C σ : Type) where
  performs : C → σ → σ → Prop
  tears : C → σ → σ → Prop

variable {C σ : Type} {m : Machine C σ} {c : C} {cs ds : List C} {s s' : σ}

inductive Completes (m : Machine C σ) : List C → σ → σ → Prop where
  | nil (s : σ) : Completes m [] s s
  | cons {c : C} {cs : List C} {s s' s'' : σ} (h : m.performs c s s') (hrest : Completes m cs s' s'') :
      Completes m (c :: cs) s s''

inductive Interrupted (m : Machine C σ) : List C → σ → σ → Prop where
  | cut (cs : List C) (s : σ) : Interrupted m cs s s
  | torn {c : C} {cs : List C} {s s' : σ} (h : m.tears c s s') : Interrupted m (c :: cs) s s'
  | step {c : C} {cs : List C} {s s' s'' : σ} (h : m.performs c s s')
      (hrest : Interrupted m cs s' s'') : Interrupted m (c :: cs) s s''

theorem completes_nil : Completes m [] s s' ↔ s' = s := by
  constructor
  · intro h
    cases h
    rfl
  · intro h
    rw [h]
    exact .nil s

theorem completes_cons :
    Completes m (c :: cs) s s' ↔ ∃ mid, m.performs c s mid ∧ Completes m cs mid s' := by
  constructor
  · intro h
    cases h with
    | cons hstep hrest => exact ⟨_, hstep, hrest⟩
  · intro h
    obtain ⟨mid, hstep, hrest⟩ := h
    exact .cons hstep hrest

theorem completes_append :
    Completes m (cs ++ ds) s s' ↔ ∃ mid, Completes m cs s mid ∧ Completes m ds mid s' := by
  induction cs generalizing s with
  | nil => simp only [List.nil_append, completes_nil, exists_eq_left]
  | cons c cs ih =>
    rw [List.cons_append, completes_cons]
    simp only [ih, completes_cons]
    constructor
    · intro h
      obtain ⟨mid, hstep, last, hcs, hds⟩ := h
      exact ⟨last, ⟨mid, hstep, hcs⟩, hds⟩
    · intro h
      obtain ⟨last, ⟨mid, hstep, hcs⟩, hds⟩ := h
      exact ⟨mid, hstep, last, hcs, hds⟩

theorem interrupted_nil : Interrupted m [] s s' ↔ s' = s := by
  constructor
  · intro h
    cases h
    rfl
  · intro h
    rw [h]
    exact .cut [] s

theorem interrupted_cons :
    Interrupted m (c :: cs) s s' ↔
      s' = s ∨ m.tears c s s' ∨ ∃ mid, m.performs c s mid ∧ Interrupted m cs mid s' := by
  constructor
  · intro h
    cases h with
    | cut => exact .inl rfl
    | torn htear => exact .inr (.inl htear)
    | step hstep hrest => exact .inr (.inr ⟨_, hstep, hrest⟩)
  · rintro (rfl | htear | ⟨mid, hstep, hrest⟩)
    · exact .cut _ s'
    · exact .torn htear
    · exact .step hstep hrest

/-- A sequence is left in its first part, or after that part has run to its end. -/
theorem interrupted_append :
    Interrupted m (cs ++ ds) s s' ↔
      Interrupted m cs s s' ∨ ∃ mid, Completes m cs s mid ∧ Interrupted m ds mid s' := by
  induction cs generalizing s with
  | nil =>
    simp only [List.nil_append, interrupted_nil, completes_nil, exists_eq_left]
    constructor
    · exact Or.inr
    · rintro (rfl | h)
      · exact .cut ds s'
      · exact h
  | cons c cs ih =>
    rw [List.cons_append, interrupted_cons, interrupted_cons]
    simp only [ih, completes_cons]
    constructor
    · rintro (h | h | ⟨mid, hstep, h | ⟨last, hcs, hds⟩⟩)
      · exact .inl (.inl h)
      · exact .inl (.inr (.inl h))
      · exact .inl (.inr (.inr ⟨mid, hstep, h⟩))
      · exact .inr ⟨last, ⟨mid, hstep, hcs⟩, hds⟩
    · rintro ((h | h | ⟨mid, hstep, h⟩) | ⟨last, ⟨mid, hstep, hcs⟩, hds⟩)
      · exact .inl h
      · exact .inr (.inl h)
      · exact .inr (.inr ⟨mid, hstep, .inl h⟩)
      · exact .inr (.inr ⟨mid, hstep, .inr ⟨last, hcs, hds⟩⟩)

theorem Completes.interrupted (h : Completes m cs s s') : Interrupted m cs s s' := by
  induction h with
  | nil s => exact .cut [] s
  | cons hstep _ ih => exact .step hstep ih

end Crash
