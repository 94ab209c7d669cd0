import Cc2Camera.Lib.Program
import Mathlib.Logic.Function.Basic

/-!
# Concurrent — programs over a shared state, by rely and guarantee

Processes run their programs one operation at a time, in any order, and any of them may die at any
point.  A program is `Safe` when every operation it issues keeps its guarantee, whatever the others do
between its operations as long as they keep to what it relies on.  Safe programs that cooperate keep
their guarantees and the invariant in every reachable state.
-/

open Program

namespace Concurrent

variable {ι σ Op X α β : Type} {Reply : Op → Type}

/-- How the shared state answers an operation of a process. -/
abbrev Semantics (ι σ Op : Type) (Reply : Op → Type) : Type :=
  ι → σ → (op : Op) → Reply op → σ → Prop

/-- What holds of a process: the invariant of all states, what it relies on and what it guarantees. -/
structure Contract (σ : Type) where
  inv : σ → Prop
  rely : σ → σ → Prop
  guar : σ → σ → Prop

section Safe

variable (answers : σ → (op : Op) → Reply op → σ → Prop) (contract : Contract σ)

/-- From state `s`, the program keeps the guarantee, and ends, if it does, in `returns` or `raises`. -/
def Safe (p : Program Op Reply X α) (returns : σ → α → Prop) (raises : σ → X → Prop) (s : σ) : Prop :=
  match p with
  | .ret a => returns s a
  | .raise x => raises s x
  | .pending => True
  | .act op k => ∀ s₁, contract.rely s s₁ → contract.inv s₁ → ∀ r s₂, answers s₁ op r s₂ →
      contract.guar s₁ s₂ ∧ Safe (k r) returns raises s₂

variable {answers contract} {returns : σ → α → Prop} {raises : σ → X → Prop} {s s' : σ}

theorem safe_bind {p : Program Op Reply X α} {f : α → Program Op Reply X β}
    {returns : σ → β → Prop} :
    Safe answers contract (p >>= f) returns raises s ↔
      Safe answers contract p (fun s a => Safe answers contract (f a) returns raises s) raises s := by
  induction p generalizing s with
  | ret a => rfl
  | raise x => rfl
  | pending => rfl
  | act op k ih =>
    exact forall₃_congr fun s₁ _ _ => forall₃_congr fun r s₂ _ => and_congr Iff.rfl (ih r)

theorem safe_handle {p : Program Op Reply X α} {g : X → Program Op Reply X α} :
    Safe answers contract (p.handle g) returns raises s ↔
      Safe answers contract p returns (fun s x => Safe answers contract (g x) returns raises s) s := by
  induction p generalizing s with
  | ret a => rfl
  | raise x => rfl
  | pending => rfl
  | act op k ih =>
    exact forall₃_congr fun s₁ _ _ => forall₃_congr fun r s₂ _ => and_congr Iff.rfl (ih r)

theorem safe_attempt {p : Program Op Reply X α} {returns : σ → Except X α → Prop} :
    Safe answers contract p.attempt returns raises s ↔
      Safe answers contract p (fun s a => returns s (.ok a)) (fun s x => returns s (.error x)) s := by
  induction p generalizing s with
  | ret a => rfl
  | raise x => rfl
  | pending => rfl
  | act op k ih =>
    exact forall₃_congr fun s₁ _ _ => forall₃_congr fun r s₂ _ => and_congr Iff.rfl (ih r)

theorem safe_ensuring {p : Program Op Reply X α} {c : Program Op Reply X Unit} :
    Safe answers contract (p.ensuring c) returns raises s ↔
      Safe answers contract p
        (fun s a => Safe answers contract c (fun s _ => returns s a) raises s)
        (fun s x => Safe answers contract c (fun s _ => raises s x) raises s) s := by
  rw [ensuring, safe_bind, safe_attempt]
  simp only [safe_bind]
  rfl

theorem safe_mono {p : Program Op Reply X α} {returns' : σ → α → Prop} {raises' : σ → X → Prop}
    (h : Safe answers contract p returns raises s) (hreturns : ∀ s a, returns s a → returns' s a)
    (hraises : ∀ s x, raises s x → raises' s x) : Safe answers contract p returns' raises' s := by
  induction p generalizing s with
  | ret a => exact hreturns s a h
  | raise x => exact hraises s x h
  | pending => trivial
  | act op k ih =>
    intro s₁ hrely hinv r s₂ hanswer
    obtain ⟨hguar, hrest⟩ := h s₁ hrely hinv r s₂ hanswer
    exact ⟨hguar, ih r hrest⟩

/-- Sequencing: what the first part leaves is what the second part starts from. -/
theorem safe_seq {p : Program Op Reply X α} {f : α → Program Op Reply X β} {mid : σ → α → Prop}
    {returns : σ → β → Prop} {raises' : σ → X → Prop} (hp : Safe answers contract p mid raises' s)
    (hraises : ∀ s x, raises' s x → raises s x)
    (hf : ∀ s a, mid s a → Safe answers contract (f a) returns raises s) :
    Safe answers contract (p >>= f) returns raises s :=
  safe_bind.mpr (safe_mono hp hf hraises)

theorem safe_ofExcept {e : Except X α} (hok : ∀ a, e = .ok a → returns s a)
    (herror : ∀ x, e = .error x → raises s x) : Safe answers contract (ofExcept e) returns raises s := by
  cases e with
  | ok a => exact hok a rfl
  | error x => exact herror x rfl

/-- What a finished process says of the state is forgotten here, so nothing the others do matters. -/
abbrev SafeOn (answers : σ → (op : Op) → Reply op → σ → Prop) (contract : Contract σ)
    (p : Program Op Reply X α) (s : σ) : Prop :=
  Safe answers contract p (fun _ _ => True) (fun _ _ => True) s

theorem SafeOn.rely {p : Program Op Reply X α}
    (htrans : ∀ a b c, contract.rely a b → contract.rely b c → contract.rely a c)
    (h : SafeOn answers contract p s) (hrely : contract.rely s s') : SafeOn answers contract p s' := by
  cases p with
  | ret a => trivial
  | raise x => trivial
  | pending => trivial
  | act op k => exact fun s₁ hrely₁ => h s₁ (htrans _ _ _ hrely hrely₁)

end Safe

/-! ## Systems -/

section System

variable [DecidableEq ι]

/-- A shared state and what each process still has to run. -/
structure System (ι σ Op : Type) (Reply : Op → Type) (X α : Type) where
  state : σ
  programs : ι → Program Op Reply X α

/-- A step of process `i`: its next operation, or its death. -/
inductive Step (answers : Semantics ι σ Op Reply) (i : ι) :
    System ι σ Op Reply X α → System ι σ Op Reply X α → Prop where
  | act {s s' : σ} {programs : ι → Program Op Reply X α} {op : Op}
      {k : Reply op → Program Op Reply X α} {r : Reply op} (hnext : programs i = .act op k)
      (h : answers i s op r s') : Step answers i ⟨s, programs⟩ ⟨s', Function.update programs i (k r)⟩
  | die (s : σ) (programs : ι → Program Op Reply X α) :
      Step answers i ⟨s, programs⟩ ⟨s, Function.update programs i .pending⟩

inductive Reachable (answers : Semantics ι σ Op Reply) (start : System ι σ Op Reply X α) :
    System ι σ Op Reply X α → Prop where
  | start : Reachable answers start start
  | step {sys sys' : System ι σ Op Reply X α} {i : ι} (h : Reachable answers start sys)
      (hstep : Step answers i sys sys') : Reachable answers start sys'

theorem Reachable.act {answers : Semantics ι σ Op Reply} {start sys : System ι σ Op Reply X α} {i : ι} {s : σ}
    {op : Op} {k : Reply op → Program Op Reply X α} {r : Reply op} (h : Reachable answers start sys)
    (hnext : sys.programs i = .act op k) (hanswer : answers i sys.state op r s) :
    Step answers i sys ⟨s, Function.update sys.programs i (k r)⟩ ∧
      Reachable answers start ⟨s, Function.update sys.programs i (k r)⟩ :=
  ⟨.act hnext hanswer, h.step (.act hnext hanswer)⟩

/-- The contracts of the processes fit together. -/
structure Cooperate (inv : σ → Prop) (rely guar : ι → σ → σ → Prop) : Prop where
  refl : ∀ i s, rely i s s
  trans : ∀ i a b c, rely i a b → rely i b c → rely i a c
  others : ∀ i j s s', i ≠ j → inv s → guar j s s' → rely i s s'
  keeps : ∀ i s s', inv s → guar i s s' → inv s'

variable {answers : Semantics ι σ Op Reply} {inv : σ → Prop} {rely guar : ι → σ → σ → Prop}

/-- Every state is sound and every process safe in it. -/
structure AllSafe (answers : Semantics ι σ Op Reply) (inv : σ → Prop) (rely guar : ι → σ → σ → Prop)
    (sys : System ι σ Op Reply X α) : Prop where
  sound : inv sys.state
  safe : ∀ i, SafeOn (answers i) ⟨inv, rely i, guar i⟩ (sys.programs i) sys.state

theorem AllSafe.guarantee {sys sys' : System ι σ Op Reply X α} {i : ι} (hco : Cooperate inv rely guar)
    (h : AllSafe answers inv rely guar sys) (hstep : Step answers i sys sys') :
    sys'.state = sys.state ∨ guar i sys.state sys'.state := by
  cases hstep with
  | @act s s' programs op k r hnext hanswer =>
    have hsafe := h.safe i
    rw [show (⟨s, programs⟩ : System ι σ Op Reply X α).programs i = .act op k from hnext] at hsafe
    exact .inr (hsafe s (hco.refl i s) h.sound r s' hanswer).1
  | die => exact .inl rfl

theorem AllSafe.step {sys sys' : System ι σ Op Reply X α} {i : ι} (hco : Cooperate inv rely guar)
    (h : AllSafe answers inv rely guar sys) (hstep : Step answers i sys sys') :
    AllSafe answers inv rely guar sys' := by
  cases hstep with
  | @act s s' programs op k r hnext hanswer =>
    have hsafe := h.safe i
    rw [show (⟨s, programs⟩ : System ι σ Op Reply X α).programs i = .act op k from hnext] at hsafe
    obtain ⟨hguar, hrest⟩ := hsafe s (hco.refl i s) h.sound r s' hanswer
    refine ⟨hco.keeps i s s' h.sound hguar, fun j => ?_⟩
    by_cases hj : j = i
    · subst hj
      show SafeOn _ _ (Function.update programs j (k r) j) s'
      rw [Function.update_self]
      exact hrest
    · show SafeOn _ _ (Function.update programs i (k r) j) s'
      rw [Function.update_of_ne hj]
      exact (h.safe j).rely (hco.trans j) (hco.others j i s s' hj h.sound hguar)
  | die s programs =>
    refine ⟨h.sound, fun j => ?_⟩
    by_cases hj : j = i
    · subst hj
      show SafeOn _ _ (Function.update programs j .pending j) s
      rw [Function.update_self]
      trivial
    · show SafeOn _ _ (Function.update programs i .pending j) s
      rw [Function.update_of_ne hj]
      exact h.safe j

/-- Safe programs stay safe, in every interleaving and whoever dies. -/
theorem allSafe_of_reachable {start sys : System ι σ Op Reply X α} (hco : Cooperate inv rely guar)
    (hstart : AllSafe answers inv rely guar start) (h : Reachable answers start sys) :
    AllSafe answers inv rely guar sys := by
  induction h with
  | start => exact hstart
  | step _ hstep ih => exact ih.step hco hstep

end System

end Concurrent
