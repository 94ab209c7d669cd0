import Mathlib.Tactic.Common

/-!
# Programs — interactive programs, their runs and a weakest precondition over histories

A `Program` issues operations and continues with whatever reply the environment chooses, may raise,
and may be cut off.  `Runs` gives the traces it can produce, every prefix included.  A safety law has
the form "an operation is issued only when the history so far permits it": `wp allowed p returns
raises h` says so of every run of `p` from the history `h`, together with what holds when `p` returns
or raises, and `wp_sound` reads the law off a run.
-/

/-- A program over the operations `Op`, raising exceptions from `X`.  `pending` is a program that
is still running when its budget of iterations is spent. -/
inductive Program (Op : Type) (Reply : Op → Type) (X α : Type) : Type where
  | ret (a : α)
  | raise (x : X)
  | pending
  | act (op : Op) (k : Reply op → Program Op Reply X α)

namespace Program

variable {Op : Type} {Reply : Op → Type} {X α β : Type}

/-- Run `p`, then `f` on its result. -/
def bind (p : Program Op Reply X α) (f : α → Program Op Reply X β) : Program Op Reply X β :=
  match p with
  | ret a => f a
  | raise x => raise x
  | pending => pending
  | act op k => act op fun r => (k r).bind f

instance : Monad (Program Op Reply X) where
  pure := ret
  bind := bind

/-- Issue one operation and return its reply. -/
def perform (op : Op) : Program Op Reply X (Reply op) := act op ret

/-- `try: p  except x: g x`. -/
def handle (p : Program Op Reply X α) (g : X → Program Op Reply X α) : Program Op Reply X α :=
  match p with
  | ret a => ret a
  | raise x => g x
  | pending => pending
  | act op k => act op fun r => (k r).handle g

/-- Run `p` and hand its exception over as a value. -/
def attempt (p : Program Op Reply X α) : Program Op Reply X (Except X α) :=
  match p with
  | ret a => ret (.ok a)
  | raise x => ret (.error x)
  | pending => pending
  | act op k => act op fun r => (k r).attempt

/-- A pure computation that may raise. -/
def ofExcept (e : Except X α) : Program Op Reply X α :=
  match e with
  | .ok a => ret a
  | .error x => raise x

/-- `try: p  finally: c`; an exception of `c` replaces the outcome of `p`. -/
def ensuring (p : Program Op Reply X α) (c : Program Op Reply X Unit) : Program Op Reply X α :=
  p.attempt >>= fun r => c >>= fun _ => ofExcept r

@[simp] theorem pure_eq_ret (a : α) : (pure a : Program Op Reply X α) = ret a := rfl

@[simp] theorem ret_bind (a : α) (f : α → Program Op Reply X β) :
    ((ret a : Program Op Reply X α) >>= f) = f a := rfl

@[simp] theorem raise_bind (x : X) (f : α → Program Op Reply X β) :
    ((raise x : Program Op Reply X α) >>= f) = raise x := rfl

@[simp] theorem act_bind (op : Op) (k : Reply op → Program Op Reply X α)
    (f : α → Program Op Reply X β) : (act op k >>= f) = act op fun r => k r >>= f := rfl

/-! ## Runs -/

/-- One operation together with the reply it received. -/
structure Event (Op : Type) (Reply : Op → Type) where
  op : Op
  reply : Reply op

/-- How a run ended, or that it was still going on. -/
inductive Outcome (X α : Type) where
  | returned (a : α)
  | raised (x : X)
  | running
  deriving DecidableEq

/-- `Runs p t o`: some choice of replies makes `p` issue the events `t` and end as `o`.  A run may
be cut off anywhere, so the traces of a program are closed under prefixes. -/
inductive Runs : Program Op Reply X α → List (Event Op Reply) → Outcome X α → Prop where
  | ret (a : α) : Runs (ret a) [] (.returned a)
  | raise (x : X) : Runs (raise x) [] (.raised x)
  | stop (p : Program Op Reply X α) : Runs p [] .running
  | act {op : Op} {k : Reply op → Program Op Reply X α} {r : Reply op}
      {t : List (Event Op Reply)} {o : Outcome X α} (h : Runs (k r) t o) :
      Runs (act op k) (⟨op, r⟩ :: t) o

section Returned

/-! ### Runs that return -/

theorem runs_ret {a b : α} {t : List (Event Op Reply)} :
    Runs (ret a : Program Op Reply X α) t (.returned b) ↔ a = b ∧ t = [] := by
  constructor
  · intro h
    cases h
    exact ⟨rfl, rfl⟩
  · rintro ⟨rfl, rfl⟩
    exact .ret a

theorem runs_raise {x : X} {b : α} {t : List (Event Op Reply)} :
    ¬Runs (raise x : Program Op Reply X α) t (.returned b) := nofun

theorem runs_pending {b : α} {t : List (Event Op Reply)} :
    ¬Runs (pending : Program Op Reply X α) t (.returned b) := nofun

theorem runs_act {op : Op} {k : Reply op → Program Op Reply X α} {b : α}
    {t : List (Event Op Reply)} :
    Runs (act op k) t (.returned b) ↔ ∃ r t', t = ⟨op, r⟩ :: t' ∧ Runs (k r) t' (.returned b) := by
  constructor
  · intro h
    cases h with
    | act h => exact ⟨_, _, rfl, h⟩
  · rintro ⟨r, t', rfl, h⟩
    exact .act h

/-- A sequence that returns is a first part that returned, followed by the second part. -/
theorem runs_bind {p : Program Op Reply X α} {f : α → Program Op Reply X β} {b : β}
    {t : List (Event Op Reply)} :
    Runs (p >>= f) t (.returned b) ↔
      ∃ t₁ a t₂, Runs p t₁ (.returned a) ∧ Runs (f a) t₂ (.returned b) ∧ t = t₁ ++ t₂ := by
  induction p generalizing t with
  | ret a =>
    rw [ret_bind]
    constructor
    · intro h
      exact ⟨[], a, t, .ret a, h, rfl⟩
    · rintro ⟨t₁, a', t₂, h₁, h₂, rfl⟩
      obtain ⟨rfl, rfl⟩ := runs_ret.mp h₁
      exact h₂
  | raise x => simp [runs_raise]
  | pending =>
    change Runs pending t _ ↔ _
    simp [runs_pending]
  | act op k ih =>
    rw [act_bind, runs_act]
    simp only [ih, runs_act]
    constructor
    · rintro ⟨r, t', rfl, t₁, a, t₂, h₁, h₂, rfl⟩
      exact ⟨⟨op, r⟩ :: t₁, a, t₂, ⟨r, t₁, rfl, h₁⟩, h₂, rfl⟩
    · rintro ⟨t₁, a, t₂, ⟨r, t', rfl, h₁⟩, h₂, rfl⟩
      exact ⟨r, t' ++ t₂, rfl, t', a, t₂, h₁, h₂, rfl⟩

/-- The events of both parts of a sequence that returned are among the events of the whole. -/
theorem runs_bind_subset {p : Program Op Reply X α} {f : α → Program Op Reply X β} {b : β}
    {t T : List (Event Op Reply)} (hsub : t ⊆ T) (h : Runs (p >>= f) t (.returned b)) :
    ∃ t₁ a t₂, t₁ ⊆ T ∧ t₂ ⊆ T ∧ Runs p t₁ (.returned a) ∧ Runs (f a) t₂ (.returned b) := by
  obtain ⟨t₁, a, t₂, hp, hf, rfl⟩ := runs_bind.mp h
  have hleft : t₁ ⊆ T := fun e he => hsub (List.mem_append_left t₂ he)
  have hright : t₂ ⊆ T := fun e he => hsub (List.mem_append_right t₁ he)
  exact ⟨t₁, a, t₂, hleft, hright, hp, hf⟩

theorem runs_attempt_ok {p : Program Op Reply X α} {a : α} {t : List (Event Op Reply)} :
    Runs p.attempt t (.returned (.ok a)) ↔ Runs p t (.returned a) := by
  induction p generalizing t with
  | ret b =>
    rw [attempt, runs_ret, runs_ret]
    simp
  | raise x =>
    rw [attempt, runs_ret]
    simp [runs_raise]
  | pending => simp [attempt, runs_pending]
  | act op k ih =>
    rw [attempt, runs_act, runs_act]
    simp only [ih]

theorem runs_ofExcept {e : Except X α} {a : α} {t : List (Event Op Reply)} :
    Runs (ofExcept e : Program Op Reply X α) t (.returned a) ↔ e = .ok a ∧ t = [] := by
  cases e with
  | ok b =>
    rw [ofExcept, runs_ret]
    simp
  | error x => simp [ofExcept, runs_raise]

/-- A guarded body that returns is the body, returned, and then the clean-up, returned. -/
theorem runs_ensuring {p : Program Op Reply X α} {c : Program Op Reply X Unit} {a : α}
    {t : List (Event Op Reply)} :
    Runs (p.ensuring c) t (.returned a) ↔
      ∃ t₁ t₂, Runs p t₁ (.returned a) ∧ Runs c t₂ (.returned ()) ∧ t = t₁ ++ t₂ := by
  rw [ensuring, runs_bind]
  simp only [runs_bind, runs_ofExcept]
  constructor
  · rintro ⟨t₁, _, t₂, h₁, ⟨t₃, u, _, h₂, ⟨rfl, rfl⟩, rfl⟩, rfl⟩
    exact ⟨t₁, t₃, runs_attempt_ok.mp h₁, h₂, by rw [List.append_nil]⟩
  · rintro ⟨t₁, t₂, h₁, h₂, rfl⟩
    exact ⟨t₁, .ok a, t₂, runs_attempt_ok.mpr h₁, ⟨t₂, (), [], h₂, ⟨rfl, rfl⟩,
      (List.append_nil t₂).symm⟩, rfl⟩

end Returned

/-! ## Runs of any kind -/

section Cases

/-- What a program returned, and where, is fixed by its replies. -/
theorem Runs.returned_unique {p : Program Op Reply X α} {t t' u u' : List (Event Op Reply)} {a b : α}
    (h : Runs p t (.returned a)) (h' : Runs p t' (.returned b)) (heq : t ++ u = t' ++ u') :
    t = t' ∧ a = b := by
  induction p generalizing t t' with
  | ret c =>
    cases h with
    | ret =>
      cases h' with
      | ret => exact ⟨rfl, rfl⟩
  | raise x => cases h
  | pending => exact absurd h runs_pending
  | act op k ih =>
    obtain ⟨r, t₁, rfl, hfirst⟩ := runs_act.mp h
    obtain ⟨r', t₁', rfl, hsecond⟩ := runs_act.mp h'
    obtain ⟨hevent, hrest⟩ := List.cons.inj heq
    obtain rfl : r = r' := by simpa using hevent
    obtain ⟨rfl, hresult⟩ := ih r hfirst hsecond hrest
    exact ⟨rfl, hresult⟩

/-- A run of a program that begins with an operation, by its first event. -/
theorem runs_act_cases {op : Op} {k : Reply op → Program Op Reply X α} {o : Outcome X α}
    {t : List (Event Op Reply)} (h : Runs (act op k) t o) :
    (t = [] ∧ o = .running) ∨ ∃ r t', t = ⟨op, r⟩ :: t' ∧ Runs (k r) t' o := by
  cases h with
  | stop => exact .inl ⟨rfl, rfl⟩
  | act hrest => exact .inr ⟨_, _, rfl, hrest⟩

theorem runs_ret_cases {a : α} {o : Outcome X α} {t : List (Event Op Reply)}
    (h : Runs (ret a : Program Op Reply X α) t o) : t = [] ∧ (o = .returned a ∨ o = .running) := by
  cases h with
  | ret => exact ⟨rfl, .inl rfl⟩
  | stop => exact ⟨rfl, .inr rfl⟩

/-- A run of a sequence ends inside its first part, or the first part returned. -/
theorem runs_bind_cases {p : Program Op Reply X α} {f : α → Program Op Reply X β} {o : Outcome X β}
    {t : List (Event Op Reply)} (h : Runs (p >>= f) t o) :
    (∃ t₁ a t₂, t = t₁ ++ t₂ ∧ Runs p t₁ (.returned a) ∧ Runs (f a) t₂ o) ∨
      ∃ o', Runs p t o' ∧ (∀ a, o' ≠ .returned a) ∧ ∀ b, o ≠ .returned b := by
  induction p generalizing t with
  | ret a => exact .inl ⟨[], a, t, rfl, .ret a, h⟩
  | raise x =>
    cases h with
    | raise => exact .inr ⟨_, .raise x, nofun, nofun⟩
    | stop => exact .inr ⟨_, .stop _, nofun, nofun⟩
  | pending =>
    cases h with
    | stop => exact .inr ⟨_, .stop _, nofun, nofun⟩
  | act op k ih =>
    cases h with
    | stop => exact .inr ⟨_, .stop _, nofun, nofun⟩
    | @act _ _ r t o hrun =>
      rcases ih r hrun with ⟨t₁, a, t₂, rfl, h₁, h₂⟩ | ⟨o', hfirst, ho⟩
      · exact .inl ⟨⟨op, r⟩ :: t₁, a, t₂, rfl, .act h₁, h₂⟩
      · exact .inr ⟨o', .act hfirst, ho⟩

/-- A sequence raises what its first part raises. -/
theorem runs_bind_of_raised {p : Program Op Reply X α} {f : α → Program Op Reply X β} {x : X}
    {t : List (Event Op Reply)} (h : Runs p t (.raised x)) : Runs (p >>= f) t (.raised x) := by
  induction p generalizing t with
  | ret a => cases h
  | raise y =>
    cases h
    exact .raise x
  | pending => cases h
  | act op k ih =>
    cases h with
    | act h => exact .act (ih _ h)

/-- A sequence goes on with its second part after its first has returned. -/
theorem runs_bind_of_returned {p : Program Op Reply X α} {f : α → Program Op Reply X β} {a : α} {o : Outcome X β}
    {t t' : List (Event Op Reply)} (hp : Runs p t (.returned a)) (hf : Runs (f a) t' o) :
    Runs (p >>= f) (t ++ t') o := by
  induction p generalizing t with
  | ret b =>
    cases hp
    exact hf
  | raise x => cases hp
  | pending => cases hp
  | act op k ih =>
    cases hp with
    | act h => exact .act (ih _ h)

/-- A handler goes on after the exception it handles. -/
theorem runs_handle_of_raised {p : Program Op Reply X α} {g : X → Program Op Reply X α} {x : X} {o : Outcome X α}
    {t t' : List (Event Op Reply)} (hp : Runs p t (.raised x)) (hg : Runs (g x) t' o) : Runs (p.handle g) (t ++ t') o := by
  induction p generalizing t with
  | ret a => cases hp
  | raise y =>
    cases hp
    exact hg
  | pending => cases hp
  | act op k ih =>
    cases hp with
    | act h => exact .act (ih _ h)

theorem runs_attempt_of_raised {p : Program Op Reply X α} {x : X} {t : List (Event Op Reply)}
    (h : Runs p t (.raised x)) : Runs p.attempt t (.returned (.error x)) := by
  induction p generalizing t with
  | ret a => cases h
  | raise y =>
    cases h
    exact .ret _
  | pending => cases h
  | act op k ih =>
    cases h with
    | act h => exact .act (ih _ h)

/-- The replies decide how a program ends. -/
theorem runs_unique {p : Program Op Reply X α} {t : List (Event Op Reply)} {o o' : Outcome X α}
    (h : Runs p t o) (h' : Runs p t o') (ho : o ≠ .running) (ho' : o' ≠ .running) : o = o' := by
  induction h with
  | ret a =>
    cases h' with
    | ret => rfl
    | stop => exact absurd rfl ho'
  | raise x =>
    cases h' with
    | raise => rfl
    | stop => exact absurd rfl ho'
  | stop p => exact absurd rfl ho
  | act _ ih =>
    cases h' with
    | act h' => exact ih h' ho

/-- A handler that always raises adds no run that returns. -/
theorem runs_handle_raises {p : Program Op Reply X α} {g : X → Program Op Reply X α} {a : α}
    {t : List (Event Op Reply)} (hg : ∀ x, ∃ y, g x = raise y) :
    Runs (p.handle g) t (.returned a) ↔ Runs p t (.returned a) := by
  induction p generalizing t with
  | ret b => rfl
  | raise x =>
    obtain ⟨y, hy⟩ := hg x
    rw [handle, hy]
    exact ⟨fun h => absurd h runs_raise, fun h => absurd h runs_raise⟩
  | pending => rfl
  | act op k ih =>
    rw [handle, runs_act, runs_act]
    simp only [ih]

end Cases

/-! ## Two kinds of operations -/

section Sum

variable {Op' : Type} {Reply' : Op' → Type}

abbrev SumReply (Reply : Op → Type) (Reply' : Op' → Type) : Op ⊕ Op' → Type
  | .inl op => Reply op
  | .inr op => Reply' op

def left : Program Op Reply X α → Program (Op ⊕ Op') (SumReply Reply Reply') X α
  | ret a => ret a
  | raise x => raise x
  | pending => pending
  | act op k => act (.inl op) fun r => (k r).left

def right : Program Op' Reply' X α → Program (Op ⊕ Op') (SumReply Reply Reply') X α
  | ret a => ret a
  | raise x => raise x
  | pending => pending
  | act op k => act (.inr op) fun r => (k r).right

def Event.left (e : Event Op Reply) : Event (Op ⊕ Op') (SumReply Reply Reply') := ⟨.inl e.op, e.reply⟩

def Event.right (e : Event Op' Reply') : Event (Op ⊕ Op') (SumReply Reply Reply') := ⟨.inr e.op, e.reply⟩

theorem runs_left {p : Program Op Reply X α} {t : List (Event (Op ⊕ Op') (SumReply Reply Reply'))}
    {o : Outcome X α} (h : Runs p.left t o) : ∃ t', t = t'.map Event.left ∧ Runs p t' o := by
  induction p generalizing t with
  | ret a =>
    cases h with
    | ret => exact ⟨[], rfl, .ret a⟩
    | stop => exact ⟨[], rfl, .stop _⟩
  | raise x =>
    cases h with
    | raise => exact ⟨[], rfl, .raise x⟩
    | stop => exact ⟨[], rfl, .stop _⟩
  | pending =>
    cases h with
    | stop => exact ⟨[], rfl, .stop _⟩
  | act op k ih =>
    cases h with
    | stop => exact ⟨[], rfl, .stop _⟩
    | @act _ _ r t o hrun =>
      obtain ⟨t', rfl, hrun'⟩ := ih r hrun
      exact ⟨⟨op, r⟩ :: t', rfl, .act hrun'⟩

theorem runs_right {p : Program Op' Reply' X α} {t : List (Event (Op ⊕ Op') (SumReply Reply Reply'))}
    {o : Outcome X α} (h : Runs p.right t o) : ∃ t', t = t'.map Event.right ∧ Runs p t' o := by
  induction p generalizing t with
  | ret a =>
    cases h with
    | ret => exact ⟨[], rfl, .ret a⟩
    | stop => exact ⟨[], rfl, .stop _⟩
  | raise x =>
    cases h with
    | raise => exact ⟨[], rfl, .raise x⟩
    | stop => exact ⟨[], rfl, .stop _⟩
  | pending =>
    cases h with
    | stop => exact ⟨[], rfl, .stop _⟩
  | act op k ih =>
    cases h with
    | stop => exact ⟨[], rfl, .stop _⟩
    | @act _ _ r t o hrun =>
      obtain ⟨t', rfl, hrun'⟩ := ih r hrun
      exact ⟨⟨op, r⟩ :: t', rfl, .act hrun'⟩

theorem runs_left_of {p : Program Op Reply X α} {t : List (Event Op Reply)} {o : Outcome X α}
    (h : Runs p t o) :
    Runs (p.left : Program (Op ⊕ Op') (SumReply Reply Reply') X α) (t.map Event.left) o := by
  induction h with
  | ret a => exact .ret a
  | raise x => exact .raise x
  | stop p => exact .stop _
  | act h ih => exact .act ih

theorem runs_right_of {p : Program Op' Reply' X α} {t : List (Event Op' Reply')} {o : Outcome X α}
    (h : Runs p t o) :
    Runs (p.right : Program (Op ⊕ Op') (SumReply Reply Reply') X α) (t.map Event.right) o := by
  induction h with
  | ret a => exact .ret a
  | raise x => exact .raise x
  | stop p => exact .stop _
  | act h ih => exact .act ih

end Sum

/-! ## Weakest preconditions over histories -/

section WeakestPrecondition

variable (allowed : List (Event Op Reply) → Op → Prop)

/-- From the history `h`, every operation `p` issues is `allowed` after the history before it, and
`p` ends, if it does, in `returns` or `raises`. -/
def wp (p : Program Op Reply X α) (returns : List (Event Op Reply) → α → Prop)
    (raises : List (Event Op Reply) → X → Prop) (h : List (Event Op Reply)) : Prop :=
  match p with
  | ret a => returns h a
  | raise x => raises h x
  | pending => True
  | act op k => allowed h op ∧ ∀ r, (k r).wp returns raises (h ++ [⟨op, r⟩])

variable {allowed}

theorem wp_mono {p : Program Op Reply X α} {Q Q' : List (Event Op Reply) → α → Prop}
    {S S' : List (Event Op Reply) → X → Prop} {h : List (Event Op Reply)}
    (hp : p.wp allowed Q S h) (hQ : ∀ h a, Q h a → Q' h a) (hS : ∀ h x, S h x → S' h x) :
    p.wp allowed Q' S' h := by
  induction p generalizing h with
  | ret a => exact hQ h a hp
  | raise x => exact hS h x hp
  | pending => trivial
  | act op k ih => exact ⟨hp.1, fun r => ih r (hp.2 r)⟩

theorem wp_bind {p : Program Op Reply X α} {f : α → Program Op Reply X β}
    {Q : List (Event Op Reply) → β → Prop} {S : List (Event Op Reply) → X → Prop}
    {h : List (Event Op Reply)} :
    (p >>= f).wp allowed Q S h ↔ p.wp allowed (fun h a => (f a).wp allowed Q S h) S h := by
  induction p generalizing h with
  | ret a => rfl
  | raise x => rfl
  | pending => rfl
  | act op k ih => exact and_congr Iff.rfl (forall_congr' fun r => ih r)

theorem wp_handle {p : Program Op Reply X α} {g : X → Program Op Reply X α}
    {Q : List (Event Op Reply) → α → Prop} {S : List (Event Op Reply) → X → Prop}
    {h : List (Event Op Reply)} :
    (p.handle g).wp allowed Q S h ↔ p.wp allowed Q (fun h x => (g x).wp allowed Q S h) h := by
  induction p generalizing h with
  | ret a => rfl
  | raise x => rfl
  | pending => rfl
  | act op k ih => exact and_congr Iff.rfl (forall_congr' fun r => ih r)

theorem wp_attempt {p : Program Op Reply X α}
    {Q : List (Event Op Reply) → Except X α → Prop} {S : List (Event Op Reply) → X → Prop}
    {h : List (Event Op Reply)} :
    p.attempt.wp allowed Q S h ↔
      p.wp allowed (fun h a => Q h (.ok a)) (fun h x => Q h (.error x)) h := by
  induction p generalizing h with
  | ret a => rfl
  | raise x => rfl
  | pending => rfl
  | act op k ih => exact and_congr Iff.rfl (forall_congr' fun r => ih r)

theorem wp_ensuring {p : Program Op Reply X α} {c : Program Op Reply X Unit}
    {Q : List (Event Op Reply) → α → Prop} {S : List (Event Op Reply) → X → Prop}
    {h : List (Event Op Reply)} :
    (p.ensuring c).wp allowed Q S h ↔
      p.wp allowed (fun h a => c.wp allowed (fun h _ => Q h a) S h)
        (fun h x => c.wp allowed (fun h _ => S h x) S h) h := by
  rw [ensuring, wp_bind, wp_attempt]
  simp only [wp_bind]
  rfl

/-- A finished run of `p` may be recorded in what is known when `p` ends. -/
theorem wp_runs {p : Program Op Reply X α} {Q : List (Event Op Reply) → α → Prop}
    {S : List (Event Op Reply) → X → Prop} {h : List (Event Op Reply)}
    (hp : p.wp allowed Q S h) :
    p.wp allowed (fun h' a => Q h' a ∧ ∃ t, h' = h ++ t ∧ Runs p t (.returned a))
      (fun h' x => S h' x ∧ ∃ t, h' = h ++ t ∧ Runs p t (.raised x)) h := by
  induction p generalizing h with
  | ret a => exact ⟨hp, [], (List.append_nil h).symm, .ret a⟩
  | raise x => exact ⟨hp, [], (List.append_nil h).symm, .raise x⟩
  | pending => trivial
  | act op k ih =>
    refine ⟨hp.1, fun r => wp_mono (ih r (hp.2 r)) ?_ ?_⟩
    · rintro h' a ⟨hQ, t, rfl, ht⟩
      exact ⟨hQ, ⟨op, r⟩ :: t, by rw [List.append_assoc, List.singleton_append], .act ht⟩
    · rintro h' x ⟨hS, t, rfl, ht⟩
      exact ⟨hS, ⟨op, r⟩ :: t, by rw [List.append_assoc, List.singleton_append], .act ht⟩

/-- What is proved of a program on its own holds of it behind any history that allows what it issues. -/
theorem wp_shift {allowed' : List (Event Op Reply) → Op → Prop} {p : Program Op Reply X α}
    {Q : List (Event Op Reply) → α → Prop} {S : List (Event Op Reply) → X → Prop} {h : List (Event Op Reply)}
    (past : List (Event Op Reply)) (hp : p.wp allowed Q S h)
    (hallowed : ∀ h op, allowed h op → allowed' (past ++ h) op) :
    p.wp allowed' (fun h' a => ∃ h, h' = past ++ h ∧ Q h a) (fun h' x => ∃ h, h' = past ++ h ∧ S h x) (past ++ h) := by
  induction p generalizing h with
  | ret a => exact ⟨h, rfl, hp⟩
  | raise x => exact ⟨h, rfl, hp⟩
  | pending => trivial
  | act op k ih =>
    refine ⟨hallowed h op hp.1, fun r => ?_⟩
    rw [List.append_assoc]
    exact ih r (hp.2 r)

/-- What `wp` promises, read off a run: each operation was allowed when it was issued, and the run
ended as promised. -/
theorem wp_sound {p : Program Op Reply X α} {Q : List (Event Op Reply) → α → Prop}
    {S : List (Event Op Reply) → X → Prop} {h t : List (Event Op Reply)} {o : Outcome X α}
    (hp : p.wp allowed Q S h) (ht : Runs p t o) :
    (∀ before event after, t = before ++ event :: after → allowed (h ++ before) event.op) ∧
      (∀ a, o = .returned a → Q (h ++ t) a) ∧ (∀ x, o = .raised x → S (h ++ t) x) := by
  induction ht generalizing h with
  | ret a =>
    refine ⟨by simp, ?_, by simp⟩
    rintro b ⟨⟩
    rw [List.append_nil]
    exact hp
  | raise x =>
    refine ⟨by simp, by simp, ?_⟩
    rintro y ⟨⟩
    rw [List.append_nil]
    exact hp
  | stop p => exact ⟨by simp, by simp, by simp⟩
  | @act op k r t o hrun ih =>
    obtain ⟨hallowed, hrest⟩ := hp
    obtain ⟨hops, hret, hraise⟩ := ih (hrest r)
    refine ⟨?_, ?_, ?_⟩
    · rintro (_ | ⟨e, before⟩) event after heq
      · obtain ⟨rfl, rfl⟩ := List.cons.inj heq
        simpa using hallowed
      · obtain ⟨rfl, rfl⟩ := List.cons.inj heq
        simpa using hops before event after rfl
    · intro a ha
      simpa using hret a ha
    · intro x hx
      simpa using hraise x hx

end WeakestPrecondition

/-! ## What a program may issue -/

section Uses

variable {ok : Op → Prop} {exc : X → Prop}

/-- Every operation the program may issue satisfies `ok` and every exception it may raise `exc`. -/
def Uses (ok : Op → Prop) (exc : X → Prop) : Program Op Reply X α → Prop
  | ret _ => True
  | raise x => exc x
  | pending => True
  | act op k => ok op ∧ ∀ r, (k r).Uses ok exc

theorem uses_bind {p : Program Op Reply X α} {f : α → Program Op Reply X β}
    (hp : p.Uses ok exc) (hf : ∀ a, (f a).Uses ok exc) : (p >>= f).Uses ok exc := by
  induction p with
  | ret a => exact hf a
  | raise x => exact hp
  | pending => trivial
  | act op k ih => exact ⟨hp.1, fun r => ih r (hp.2 r)⟩

theorem uses_handle {exc' : X → Prop} {p : Program Op Reply X α} {g : X → Program Op Reply X α}
    (hp : p.Uses ok exc) (hg : ∀ x, exc x → (g x).Uses ok exc') : (p.handle g).Uses ok exc' := by
  induction p with
  | ret a => trivial
  | raise x => exact hg x hp
  | pending => trivial
  | act op k ih => exact ⟨hp.1, fun r => ih r (hp.2 r)⟩

theorem uses_mono {ok' : Op → Prop} {exc' : X → Prop} {p : Program Op Reply X α} (hp : p.Uses ok exc)
    (hok : ∀ op, ok op → ok' op) (hexc : ∀ x, exc x → exc' x) : p.Uses ok' exc' := by
  induction p with
  | ret a => trivial
  | raise x => exact hexc x hp
  | pending => trivial
  | act op k ih => exact ⟨hok op hp.1, fun r => ih r (hp.2 r)⟩

theorem uses_ofExcept {e : Except X α} (h : ∀ x, e = .error x → exc x) :
    (ofExcept e : Program Op Reply X α).Uses ok exc := by
  cases e with
  | ok a => trivial
  | error x => exact h x rfl

theorem uses_attempt {exc' : X → Prop} {p : Program Op Reply X α} (hp : p.Uses ok exc) :
    p.attempt.Uses ok exc' := by
  induction p with
  | ret a => trivial
  | raise x => trivial
  | pending => trivial
  | act op k ih => exact ⟨hp.1, fun r => ih r (hp.2 r)⟩

theorem uses_ensuring {p : Program Op Reply X α} {c : Program Op Reply X Unit}
    (hp : p.Uses ok fun _ => True) (hc : c.Uses ok fun _ => True) :
    (p.ensuring c).Uses ok fun _ => True := by
  refine uses_bind (uses_attempt hp) fun r => uses_bind hc fun _ => ?_
  exact uses_ofExcept fun _ _ => trivial

/-- A part of a program that issues only operations allowed from `h` on adds one of its own runs to
the history. -/
theorem wp_of_uses {allowed : List (Event Op Reply) → Op → Prop} {p : Program Op Reply X α}
    {h : List (Event Op Reply)} (hp : p.Uses ok exc) (hallowed : ∀ t op, ok op → allowed (h ++ t) op) :
    p.wp allowed
      (fun h' a => ∃ t, h' = h ++ t ∧ Runs p t (.returned a) ∧ ∀ e ∈ t, ok e.op)
      (fun h' x => ∃ t, h' = h ++ t ∧ exc x ∧ ∀ e ∈ t, ok e.op) h := by
  induction p generalizing h with
  | ret a => exact ⟨[], (List.append_nil h).symm, .ret a, nofun⟩
  | raise x => exact ⟨[], (List.append_nil h).symm, hp, nofun⟩
  | pending => trivial
  | act op k ih =>
    have hcons : ∀ r (t : List (Event Op Reply)), (∀ e ∈ t, ok e.op) →
        ∀ e ∈ (⟨op, r⟩ :: t : List (Event Op Reply)), ok e.op :=
      fun r t ht => List.forall_mem_cons.mpr ⟨hp.1, ht⟩
    have happend : ∀ r (t : List (Event Op Reply)), h ++ [⟨op, r⟩] ++ t = h ++ ⟨op, r⟩ :: t :=
      fun r t => by rw [List.append_assoc, List.singleton_append]
    refine ⟨by simpa using hallowed [] op hp.1, fun r => wp_mono (ih r (hp.2 r) fun t => ?_) ?_ ?_⟩
    · rw [happend r t]
      exact hallowed _
    · rintro h' a ⟨t, rfl, ht, hok⟩
      exact ⟨_, happend r t, .act ht, hcons r t hok⟩
    · rintro h' x ⟨t, rfl, hx, hok⟩
      exact ⟨_, happend r t, hx, hcons r t hok⟩

/-- One such part in front of the rest of a program whose exceptions do not matter. -/
theorem wp_step {allowed : List (Event Op Reply) → Op → Prop} {p : Program Op Reply X α}
    {f : α → Program Op Reply X β} {returns : List (Event Op Reply) → β → Prop}
    {h : List (Event Op Reply)} (hp : p.Uses ok exc) (hallowed : ∀ t op, ok op → allowed (h ++ t) op)
    (hrest : ∀ t a, Runs p t (.returned a) → (∀ e ∈ t, ok e.op) →
      (f a).wp allowed returns (fun _ _ => True) (h ++ t)) :
    (p >>= f).wp allowed returns (fun _ _ => True) h := by
  refine wp_bind.mpr (wp_mono (wp_of_uses hp hallowed) ?_ fun _ _ _ => trivial)
  rintro h' a ⟨t, rfl, hrun, hok⟩
  exact hrest t a hrun hok

/-- A pure computation in front of the rest of a program whose exceptions do not matter. -/
theorem wp_ofExcept {allowed : List (Event Op Reply) → Op → Prop} {e : Except X α}
    {f : α → Program Op Reply X β} {returns : List (Event Op Reply) → β → Prop}
    {h : List (Event Op Reply)}
    (hrest : ∀ a, e = .ok a → (f a).wp allowed returns (fun _ _ => True) h) :
    (ofExcept e >>= f).wp allowed returns (fun _ _ => True) h := by
  cases e with
  | ok a => exact hrest a rfl
  | error x => trivial

/-- A pure computation at the end of a program whose exceptions do not matter. -/
theorem wp_ofExcept_end {allowed : List (Event Op Reply) → Op → Prop} {e : Except X α}
    {returns : List (Event Op Reply) → α → Prop} {h : List (Event Op Reply)}
    (hend : ∀ a, e = .ok a → returns h a) :
    (ofExcept e : Program Op Reply X α).wp allowed returns (fun _ _ => True) h := by
  cases e with
  | ok a => exact hend a rfl
  | error x => trivial

/-- An operation whose permission depends on the very history, in front of the rest of a program. -/
theorem wp_step_once {allowed : List (Event Op Reply) → Op → Prop} {op : Op}
    {k : Reply op → Program Op Reply X α} {f : α → Program Op Reply X β}
    {returns : List (Event Op Reply) → β → Prop} {h : List (Event Op Reply)}
    (hk : ∀ r, (k r).Uses (fun _ => False) fun _ => True) (hallowed : allowed h op)
    (hrest : ∀ r a, Runs (act op k) [⟨op, r⟩] (.returned a) →
      (f a).wp allowed returns (fun _ _ => True) (h ++ [⟨op, r⟩])) :
    (act op k >>= f).wp allowed returns (fun _ _ => True) h := by
  refine ⟨hallowed, fun r => wp_step (hk r) (fun _ _ hfalse => hfalse.elim) fun t a hrun hfalse => ?_⟩
  have hnil : t = [] := List.eq_nil_iff_forall_not_mem.mpr hfalse
  subst hnil
  rw [List.append_nil]
  exact hrest r a (.act hrun)

end Uses

/-! ## What a program can return -/

section CanReturn

/-- Some replies make the program return `a`. -/
def CanReturn (p : Program Op Reply X α) (a : α) : Prop := ∃ t, Runs p t (.returned a)

theorem canReturn_ret (a : α) : CanReturn (ret a : Program Op Reply X α) a := ⟨[], .ret a⟩

theorem canReturn_act {op : Op} {k : Reply op → Program Op Reply X α} {a : α} (r : Reply op)
    (h : CanReturn (k r) a) : CanReturn (act op k) a := by
  obtain ⟨t, ht⟩ := h
  exact ⟨_, .act ht⟩

theorem canReturn_bind {p : Program Op Reply X α} {f : α → Program Op Reply X β} {a : α} {b : β}
    (hp : CanReturn p a) (hf : CanReturn (f a) b) : CanReturn (p >>= f) b := by
  obtain ⟨t₁, h₁⟩ := hp
  obtain ⟨t₂, h₂⟩ := hf
  exact ⟨t₁ ++ t₂, runs_bind.mpr ⟨t₁, a, t₂, h₁, h₂, rfl⟩⟩

theorem canReturn_ofExcept {e : Except X α} {a : α} (h : e = .ok a) :
    CanReturn (ofExcept e : Program Op Reply X α) a := ⟨[], runs_ofExcept.mpr ⟨h, rfl⟩⟩

theorem canReturn_handle {p : Program Op Reply X α} {g : X → Program Op Reply X α} {a : α}
    (h : CanReturn p a) : CanReturn (p.handle g) a := by
  induction p with
  | ret b => exact h
  | raise x =>
    obtain ⟨t, ht⟩ := h
    exact absurd ht runs_raise
  | pending => exact h
  | act op k ih =>
    obtain ⟨t, ht⟩ := h
    obtain ⟨r, t', -, hrest⟩ := runs_act.mp ht
    exact canReturn_act r (ih r ⟨t', hrest⟩)

theorem canReturn_ensuring {p : Program Op Reply X α} {c : Program Op Reply X Unit} {a : α}
    (hp : CanReturn p a) (hc : CanReturn c ()) : CanReturn (p.ensuring c) a := by
  obtain ⟨t₁, h₁⟩ := hp
  obtain ⟨t₂, h₂⟩ := hc
  exact ⟨t₁ ++ t₂, runs_ensuring.mpr ⟨t₁, t₂, h₁, h₂, rfl⟩⟩

theorem canReturn_left {Op' : Type} {Reply' : Op' → Type} {p : Program Op Reply X α} {a : α}
    (h : CanReturn p a) : CanReturn (p.left : Program (Op ⊕ Op') (SumReply Reply Reply') X α) a := by
  obtain ⟨t, ht⟩ := h
  exact ⟨_, runs_left_of ht⟩

theorem canReturn_right {Op' : Type} {Reply' : Op' → Type} {p : Program Op' Reply' X α} {a : α}
    (h : CanReturn p a) : CanReturn (p.right : Program (Op ⊕ Op') (SumReply Reply Reply') X α) a := by
  obtain ⟨t, ht⟩ := h
  exact ⟨_, runs_right_of ht⟩

end CanReturn

/-! ## Running against a machine -/

/-- Run `p` against a machine that answers each operation and changes state. -/
def interact {σ : Type} (answer : σ → (op : Op) → σ × Reply op) :
    Program Op Reply X α → σ → σ × Outcome X α
  | ret a, s => (s, .returned a)
  | raise x, s => (s, .raised x)
  | pending, s => (s, .running)
  | act op k, s => (k (answer s op).2).interact answer (answer s op).1

section Interact

variable {σ : Type} {answer : σ → (op : Op) → σ × Reply op}

@[simp] theorem interact_ret (a : α) (s : σ) :
    (ret a : Program Op Reply X α).interact answer s = (s, .returned a) := rfl

@[simp] theorem interact_raise (x : X) (s : σ) :
    (raise x : Program Op Reply X α).interact answer s = (s, .raised x) := rfl

@[simp] theorem interact_act (op : Op) (k : Reply op → Program Op Reply X α) (s : σ) :
    (act op k).interact answer s = (k (answer s op).2).interact answer (answer s op).1 := rfl

/-- Running against a machine is one of the runs of the program. -/
theorem exists_runs_interact (answer : σ → (op : Op) → σ × Reply op) (p : Program Op Reply X α)
    (s : σ) :
    ∃ t, Runs p t (p.interact answer s).2 := by
  induction p generalizing s with
  | ret a => exact ⟨[], .ret a⟩
  | raise x => exact ⟨[], .raise x⟩
  | pending => exact ⟨[], .stop pending⟩
  | act op k ih =>
    obtain ⟨t, ht⟩ := ih (answer s op).2 (answer s op).1
    exact ⟨_, .act ht⟩

/-- A sequence runs its second part from where the first part returned. -/
theorem interact_bind_of_returned {p : Program Op Reply X α} {f : α → Program Op Reply X β}
    {s s' : σ} {a : α} (h : p.interact answer s = (s', .returned a)) :
    (p >>= f).interact answer s = (f a).interact answer s' := by
  induction p generalizing s with
  | ret b =>
    simp only [interact_ret, Prod.mk.injEq, Outcome.returned.injEq] at h
    obtain ⟨rfl, rfl⟩ := h
    rfl
  | raise x => simp at h
  | pending => simp [interact] at h
  | act op k ih => exact ih _ h

theorem interact_attempt_of_returned {p : Program Op Reply X α} {s s' : σ} {a : α}
    (h : p.interact answer s = (s', .returned a)) :
    p.attempt.interact answer s = (s', .returned (.ok a)) := by
  induction p generalizing s with
  | ret b =>
    simp only [interact_ret, Prod.mk.injEq, Outcome.returned.injEq] at h
    obtain ⟨rfl, rfl⟩ := h
    rfl
  | raise x => simp at h
  | pending => simp [interact] at h
  | act op k ih => exact ih _ h

theorem interact_ensuring_of_returned {p : Program Op Reply X α} {c : Program Op Reply X Unit}
    {s s₁ s₂ : σ} {a : α} (h : p.interact answer s = (s₁, .returned a))
    (hc : c.interact answer s₁ = (s₂, .returned ())) :
    (p.ensuring c).interact answer s = (s₂, .returned a) := by
  rw [ensuring, interact_bind_of_returned (interact_attempt_of_returned h),
    interact_bind_of_returned hc]
  rfl

end Interact

/-- What a machine made of a program: where it stands, what was issued and how it ended. -/
structure Playback (Op : Type) (Reply : Op → Type) (X α σ : Type) where
  state : σ
  events : List (Event Op Reply)
  outcome : Outcome X α

/-- Run `p` against a machine and keep the events. -/
def play {σ : Type} (answer : σ → (op : Op) → σ × Reply op) :
    Program Op Reply X α → σ → Playback Op Reply X α σ
  | ret a, s => ⟨s, [], .returned a⟩
  | raise x, s => ⟨s, [], .raised x⟩
  | pending, s => ⟨s, [], .running⟩
  | act op k, s =>
    let rest := (k (answer s op).2).play answer (answer s op).1
    { rest with events := ⟨op, (answer s op).2⟩ :: rest.events }

/-- A sequence plays its second part from where the first part returned. -/
theorem play_bind_of_returned {σ : Type} {answer : σ → (op : Op) → σ × Reply op} {p : Program Op Reply X α}
    {f : α → Program Op Reply X β} {s s' : σ} {t : List (Event Op Reply)} {a : α}
    (h : p.play answer s = ⟨s', t, .returned a⟩) :
    (p >>= f).play answer s =
      { (f a).play answer s' with events := t ++ ((f a).play answer s').events } := by
  induction p generalizing s t with
  | ret b =>
    obtain ⟨rfl, rfl, hab⟩ := Playback.mk.inj h
    obtain rfl := Outcome.returned.inj hab
    rfl
  | raise x => cases h
  | pending => cases h
  | act op k ih =>
    simp only [play, Playback.mk.injEq] at h
    obtain ⟨hstate, rfl, houtcome⟩ := h
    have hrest := ih (answer s op).2 (s := (answer s op).1) (t := ((k (answer s op).2).play answer (answer s op).1).events)
      (by rw [← hstate, ← houtcome])
    rw [act_bind, play, hrest]
    rfl

theorem play_bind_of_raised {σ : Type} {answer : σ → (op : Op) → σ × Reply op} {p : Program Op Reply X α}
    {f : α → Program Op Reply X β} {s s' : σ} {t : List (Event Op Reply)} {x : X}
    (h : p.play answer s = ⟨s', t, .raised x⟩) : (p >>= f).play answer s = ⟨s', t, .raised x⟩ := by
  induction p generalizing s t with
  | ret b => cases h
  | raise y =>
    obtain ⟨rfl, rfl, hxy⟩ := Playback.mk.inj h
    obtain rfl := Outcome.raised.inj hxy
    rfl
  | pending => cases h
  | act op k ih =>
    simp only [play, Playback.mk.injEq] at h
    obtain ⟨hstate, rfl, houtcome⟩ := h
    have hrest := ih (answer s op).2 (s := (answer s op).1) (t := ((k (answer s op).2).play answer (answer s op).1).events)
      (by rw [← hstate, ← houtcome])
    rw [act_bind, play, hrest]

/-- A run whose replies are those of a machine without state is what the machine plays. -/
theorem play_of_runs {answer : Unit → (op : Op) → Unit × Reply op} {p : Program Op Reply X α}
    {t : List (Event Op Reply)} {o : Outcome X α} (h : Runs p t o) (ho : o ≠ .running)
    (hanswers : ∀ e ∈ t, e.reply = (answer () e.op).2) : p.play answer () = ⟨(), t, o⟩ := by
  induction h with
  | ret a => rfl
  | raise x => rfl
  | stop p => exact absurd rfl ho
  | @act op k r t o hrun ih =>
    obtain ⟨hreply, hrest⟩ := List.forall_mem_cons.mp hanswers
    change r = (answer () op).2 at hreply
    subst hreply
    rw [play, ih ho hrest]

theorem runs_play {σ : Type} (answer : σ → (op : Op) → σ × Reply op) (p : Program Op Reply X α) (s : σ) :
    Runs p (p.play answer s).events (p.play answer s).outcome := by
  induction p generalizing s with
  | ret a => exact .ret a
  | raise x => exact .raise x
  | pending => exact .stop pending
  | act op k ih => exact .act (ih (answer s op).2 (answer s op).1)

end Program
