import Mathlib.Tactic.Common

/-!
# Exceptions — reading a computation that may raise

A Python function that may raise is an `Except` computation.  A guard clause is `raiseIf`, so that a
body is a chain of binds, and `bind_eq_ok` opens such a chain one statement at a time.
-/

namespace Exceptions

variable {ε α β : Type}

/-- The guard clause `if c: raise e`. -/
def raiseIf (c : Prop) [Decidable c] (e : ε) : Except ε Unit := if c then .error e else .ok ()

/-- An optional value, or the exception raised when there is none. -/
def orRaise (o : Option α) (e : ε) : Except ε α :=
  match o with
  | some a => .ok a
  | none => .error e

@[simp] theorem raiseIf_eq_ok {c : Prop} [Decidable c] {e : ε} {u : Unit} :
    raiseIf c e = .ok u ↔ ¬c := by
  unfold raiseIf
  split <;> simp_all

theorem raiseIf_of_not {c : Prop} [Decidable c] {e : ε} (h : ¬c) : raiseIf c e = .ok () :=
  if_neg h

@[simp] theorem raiseIf_false {e : ε} : raiseIf False e = .ok () := rfl

theorem raiseIf_of {c : Prop} [Decidable c] {e : ε} (h : c) : raiseIf c e = .error e :=
  if_pos h

@[simp] theorem orRaise_some (a : α) (e : ε) : orRaise (some a) e = .ok a := rfl

@[simp] theorem orRaise_none (e : ε) : (orRaise none e : Except ε α) = .error e := rfl

@[simp] theorem orRaise_eq_ok {o : Option α} {e : ε} {a : α} :
    orRaise o e = .ok a ↔ o = some a := by
  cases o <;> simp [orRaise]

/-- A block succeeds exactly when its first statement does and the rest does from there. -/
theorem bind_eq_ok {x : Except ε α} {f : α → Except ε β} {b : β} :
    (x >>= f) = .ok b ↔ ∃ a, x = .ok a ∧ f a = .ok b := by
  cases x with
  | error e => simp [bind, Except.bind]
  | ok a => simp [bind, Except.bind]

@[simp] theorem ok_bind (a : α) (f : α → Except ε β) : ((.ok a : Except ε α) >>= f) = f a := rfl

@[simp] theorem error_bind (e : ε) (f : α → Except ε β) :
    ((.error e : Except ε α) >>= f) = .error e := rfl

theorem mapM_of_ok {f : α → Except ε β} {g : α → β} {xs : List α} (h : ∀ a ∈ xs, f a = .ok (g a)) :
    xs.mapM f = .ok (xs.map g) := by
  induction xs with
  | nil => rfl
  | cons x xs ih =>
    obtain ⟨hx, hxs⟩ := List.forall_mem_cons.mp h
    rw [List.mapM_cons, hx, ok_bind, ih hxs]
    rfl

@[simp] theorem pure_eq_ok (a : α) : (pure a : Except ε α) = .ok a := rfl

@[simp] theorem throw_eq_error (e : ε) : (throw e : Except ε α) = .error e := rfl

/-- `try: x  except e: h e`, for the exceptions `h` answers. -/
def recover (x : Except ε α) (h : ε → Option (Except ε α)) : Except ε α :=
  match x with
  | .ok a => .ok a
  | .error e => (h e).getD (.error e)

@[simp] theorem recover_ok (a : α) (h : ε → Option (Except ε α)) : recover (.ok a) h = .ok a := rfl

/-- A handler that only renames exceptions does not change what succeeds. -/
theorem recover_eq_ok {x : Except ε α} {h : ε → Option (Except ε α)} {a : α}
    (hh : ∀ e r, h e = some r → ∃ e', r = .error e') : recover x h = .ok a ↔ x = .ok a := by
  cases x with
  | ok b => simp [recover]
  | error e =>
    simp only [recover, reduceCtorEq, iff_false]
    cases he : h e with
    | none => simp
    | some r =>
      obtain ⟨e', rfl⟩ := hh e r he
      simp

/-! ## The exceptions a computation may raise -/

section RaisesOnly

variable {P : ε → Prop}

/-- Whatever `x` raises is of the kind `P`. -/
structure RaisesOnly (P : ε → Prop) (x : Except ε α) : Prop where
  kind : ∀ e, x = .error e → P e

theorem raisesOnly_ok (a : α) : RaisesOnly P (.ok a : Except ε α) where
  kind := nofun

theorem raisesOnly_error {e : ε} (h : P e) : RaisesOnly P (.error e : Except ε α) where
  kind e' he := by
    rw [← Except.error.inj he]
    exact h

theorem raisesOnly_raiseIf {c : Prop} [Decidable c] {e : ε} (h : c → P e) :
    RaisesOnly P (raiseIf c e) := by
  unfold raiseIf
  split
  · exact raisesOnly_error (h (by assumption))
  · exact raisesOnly_ok ()

theorem raisesOnly_orRaise {o : Option α} {e : ε} (h : o = none → P e) :
    RaisesOnly P (orRaise o e) := by
  cases o with
  | none => exact raisesOnly_error (h rfl)
  | some a => exact raisesOnly_ok a

/-- In a block, each statement is met in a state its predecessors have produced. -/
theorem raisesOnly_bind {x : Except ε α} {f : α → Except ε β} (hx : RaisesOnly P x)
    (hf : ∀ a, x = .ok a → RaisesOnly P (f a)) : RaisesOnly P (x >>= f) := by
  cases x with
  | error e => exact raisesOnly_error (hx.kind e rfl)
  | ok a => exact hf a rfl

/-- A guard clause and what stands behind it. -/
theorem raisesOnly_guard {c : Prop} [Decidable c] {e : ε} {f : Unit → Except ε β} (he : c → P e)
    (hf : ¬c → RaisesOnly P (f ())) : RaisesOnly P (raiseIf c e >>= f) := by
  apply raisesOnly_bind (raisesOnly_raiseIf he)
  intro u hu
  exact hf (raiseIf_eq_ok.mp hu)

theorem raisesOnly_ite {c : Prop} [Decidable c] {x y : Except ε α} (hx : c → RaisesOnly P x)
    (hy : ¬c → RaisesOnly P y) : RaisesOnly P (if c then x else y) := by
  split
  · exact hx (by assumption)
  · exact hy (by assumption)

/-- A block is left by an exception of a statement, or every statement has returned. -/
theorem raises_or_bind {Q : Prop} {x : Except ε α} {f : α → Except ε β} (hx : RaisesOnly P x)
    (hf : ∀ a, x = .ok a → (∃ e, P e ∧ f a = .error e) ∨ Q) :
    (∃ e, P e ∧ (x >>= f) = .error e) ∨ Q := by
  cases x with
  | error e => exact .inl ⟨e, hx.kind e rfl, rfl⟩
  | ok a => exact hf a rfl

theorem raises_or_guard {Q : Prop} {c : Prop} [Decidable c] {e : ε} {f : Unit → Except ε β}
    (he : c → P e) (hf : ¬c → (∃ e, P e ∧ f () = .error e) ∨ Q) :
    (∃ e', P e' ∧ (raiseIf c e >>= f) = .error e') ∨ Q := by
  apply raises_or_bind (raisesOnly_raiseIf he)
  intro u hu
  exact hf (raiseIf_eq_ok.mp hu)

/-- A computation that does not return raises an exception of the kind it is limited to. -/
theorem RaisesOnly.raises {x : Except ε α} (h : RaisesOnly P x) (hx : ∀ a, x ≠ .ok a) :
    ∃ e, P e ∧ x = .error e := by
  cases x with
  | error e => exact ⟨e, h.kind e rfl, rfl⟩
  | ok a => exact absurd rfl (hx a)

end RaisesOnly

end Exceptions
