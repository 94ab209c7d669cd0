import Cc2Camera.Lib.Program

/-!
# World — runs of a program in a world that answers it

A world has a state.  It says which replies a state allows and what state an event leaves behind.  `RunsIn`
are the runs of a program whose replies the world gives; like `Runs` they may be cut off anywhere.
-/

namespace Program

variable {Op : Type} {Reply : Op → Type} {X α β σ : Type}

structure World (Op : Type) (Reply : Op → Type) (σ : Type) where
  answers : σ → Event Op Reply → Prop
  after : σ → Event Op Reply → σ

namespace World

variable (w : World Op Reply σ)

def afterAll (s : σ) (t : List (Event Op Reply)) : σ := t.foldl w.after s

/-- Every event of the trace is one the world answers so. -/
def Gives : σ → List (Event Op Reply) → Prop
  | _, [] => True
  | s, e :: t => w.answers s e ∧ Gives (w.after s e) t

structure RunsIn (s : σ) (p : Program Op Reply X α) (t : List (Event Op Reply)) (o : Outcome X α) : Prop where
  runs : Runs p t o
  gives : w.Gives s t

variable {w} {s : σ} {t t' : List (Event Op Reply)}

@[simp] theorem afterAll_nil : w.afterAll s [] = s := rfl

@[simp] theorem afterAll_cons (e : Event Op Reply) : w.afterAll s (e :: t) = w.afterAll (w.after s e) t := rfl

theorem afterAll_append : w.afterAll s (t ++ t') = w.afterAll (w.afterAll s t) t' := List.foldl_append

theorem RunsIn.act {op : Op} {k : Reply op → Program Op Reply X α} {r : Reply op} {o : Outcome X α}
    (hanswers : w.answers s ⟨op, r⟩) (h : w.RunsIn (w.after s ⟨op, r⟩) (k r) t o) :
    w.RunsIn s (act op k) (⟨op, r⟩ :: t) o := ⟨.act h.runs, hanswers, h.gives⟩

/-- A run of a program that begins with an operation, by its first event. -/
theorem runsIn_act {op : Op} {k : Reply op → Program Op Reply X α} {o : Outcome X α}
    (h : w.RunsIn s (Program.act op k) t o) :
    (t = [] ∧ o = .running) ∨ ∃ r t', t = ⟨op, r⟩ :: t' ∧ w.answers s ⟨op, r⟩ ∧
      w.RunsIn (w.after s ⟨op, r⟩) (k r) t' o := by
  obtain ⟨hruns, hgives⟩ := h
  rcases runs_act_cases hruns with hstopped | ⟨r, t', rfl, hrest⟩
  · exact .inl hstopped
  · exact .inr ⟨r, t', rfl, hgives.1, hrest, hgives.2⟩

theorem runsIn_ret {a : α} {o : Outcome X α} (h : w.RunsIn s (ret a) t o) :
    t = [] ∧ (o = .returned a ∨ o = .running) := runs_ret_cases h.runs

/-- A run of a sequence is one of its first part that did not return, or one that did and one of the rest. -/
theorem runsIn_bind {p : Program Op Reply X α} {f : α → Program Op Reply X β} {o : Outcome X β}
    (h : w.RunsIn s (p >>= f) t o) :
    (∃ t₁ a t₂, t = t₁ ++ t₂ ∧ w.RunsIn s p t₁ (.returned a) ∧ w.RunsIn (w.afterAll s t₁) (f a) t₂ o) ∨
      (∃ x, w.RunsIn s p t (.raised x) ∧ o = .raised x) ∨ (w.RunsIn s p t .running ∧ o = .running) := by
  obtain ⟨hruns, hgives⟩ := h
  induction p generalizing s t with
  | ret a => exact .inl ⟨[], a, t, rfl, ⟨.ret a, trivial⟩, hruns, hgives⟩
  | raise x =>
    cases hruns with
    | raise => exact .inr (.inl ⟨x, ⟨.raise x, trivial⟩, rfl⟩)
    | stop => exact .inr (.inr ⟨⟨.stop _, trivial⟩, rfl⟩)
  | pending =>
    cases hruns with
    | stop => exact .inr (.inr ⟨⟨.stop _, trivial⟩, rfl⟩)
  | act op k ih =>
    cases hruns with
    | stop => exact .inr (.inr ⟨⟨.stop _, trivial⟩, rfl⟩)
    | @act _ _ r t o hrest =>
      rcases ih r hrest hgives.2 with ⟨t₁, a, t₂, rfl, h₁, h₂⟩ | ⟨x, h₁, rfl⟩ | ⟨h₁, rfl⟩
      · exact .inl ⟨⟨op, r⟩ :: t₁, a, t₂, rfl, .act hgives.1 h₁, h₂⟩
      · exact .inr (.inl ⟨x, .act hgives.1 h₁, rfl⟩)
      · exact .inr (.inr ⟨.act hgives.1 h₁, rfl⟩)

/-- A sequence that returned. -/
theorem runsIn_bind_returned {p : Program Op Reply X α} {f : α → Program Op Reply X β} {b : β}
    (h : w.RunsIn s (p >>= f) t (.returned b)) :
    ∃ t₁ a t₂, t = t₁ ++ t₂ ∧ w.RunsIn s p t₁ (.returned a) ∧
      w.RunsIn (w.afterAll s t₁) (f a) t₂ (.returned b) := by
  rcases runsIn_bind h with hseq | ⟨x, -, hx⟩ | ⟨-, hx⟩
  · exact hseq
  · cases hx
  · cases hx

/-- What a handler returned it was given, or it answered an exception. -/
theorem runsIn_handle_returned {p : Program Op Reply X α} {g : X → Program Op Reply X α} {a : α}
    (h : w.RunsIn s (p.handle g) t (.returned a)) :
    w.RunsIn s p t (.returned a) ∨ ∃ t₁ x t₂, t = t₁ ++ t₂ ∧ w.RunsIn s p t₁ (.raised x) ∧
      w.RunsIn (w.afterAll s t₁) (g x) t₂ (.returned a) := by
  obtain ⟨hruns, hgives⟩ := h
  induction p generalizing s t with
  | ret b => exact .inl ⟨hruns, hgives⟩
  | raise x => exact .inr ⟨[], x, t, rfl, ⟨.raise x, trivial⟩, hruns, hgives⟩
  | pending => exact absurd hruns runs_pending
  | act op k ih =>
    obtain ⟨r, t', rfl, hrest⟩ := runs_act.mp hruns
    rcases ih r hrest hgives.2 with hreturned | ⟨t₁, x, t₂, rfl, hraised, hanswered⟩
    · exact .inl (.act hgives.1 hreturned)
    · exact .inr ⟨⟨op, r⟩ :: t₁, x, t₂, rfl, .act hgives.1 hraised, hanswered⟩

/-- The operations of a run are those the program may issue. -/
theorem RunsIn.uses {ok : Op → Prop} {exc : X → Prop} {p : Program Op Reply X α} {o : Outcome X α}
    (h : w.RunsIn s p t o) (hp : p.Uses ok exc) : ∀ e ∈ t, ok e.op := by
  have hwp : p.wp (fun _ op => ok op) _ _ [] := wp_of_uses hp fun _ _ h => h
  intro e he
  obtain ⟨before, after, rfl⟩ := List.append_of_mem he
  exact (wp_sound hwp h.runs).1 before e after rfl

/-! ## Runs that end -/

variable (w) in
/-- No run from `s` goes on for ever: each returns so, or raises so, unless it is cut off. -/
def Ensures : Program Op Reply X α → (σ → α → Prop) → (σ → X → Prop) → σ → Prop
  | ret a, returns, _, s => returns s a
  | raise x, _, raises, s => raises s x
  | pending, _, _, _ => False
  | act op k, returns, raises, s =>
    ∀ r, w.answers s ⟨op, r⟩ → Ensures (k r) returns raises (w.after s ⟨op, r⟩)

variable {returns : σ → α → Prop} {raises : σ → X → Prop}

theorem ensures_mono {returns' : σ → α → Prop} {raises' : σ → X → Prop} {p : Program Op Reply X α}
    (h : w.Ensures p returns raises s) (hreturns : ∀ s a, returns s a → returns' s a)
    (hraises : ∀ s x, raises s x → raises' s x) : w.Ensures p returns' raises' s := by
  induction p generalizing s with
  | ret a => exact hreturns s a h
  | raise x => exact hraises s x h
  | pending => exact h
  | act op k ih => exact fun r hr => ih r (h r hr)

theorem ensures_bind {p : Program Op Reply X α} {f : α → Program Op Reply X β} {returns : σ → β → Prop} :
    w.Ensures (p >>= f) returns raises s ↔
      w.Ensures p (fun s a => w.Ensures (f a) returns raises s) raises s := by
  induction p generalizing s with
  | ret a => exact Iff.rfl
  | raise x => exact Iff.rfl
  | pending => exact Iff.rfl
  | act op k ih =>
    constructor
    · exact fun h r hr => (ih r).mp (h r hr)
    · exact fun h r hr => (ih r).mpr (h r hr)

theorem ensures_ofExcept {e : Except X α} :
    w.Ensures (ofExcept e) returns raises s ↔ (∀ a, e = .ok a → returns s a) ∧ ∀ x, e = .error x → raises s x := by
  cases e with
  | ok a => simp [ofExcept, Ensures]
  | error x => simp [ofExcept, Ensures]

/-- A sequence, from what its first part ensures. -/
theorem Ensures.then {p : Program Op Reply X α} {f : α → Program Op Reply X β} {returns' : σ → β → Prop}
    (h : w.Ensures p returns raises s)
    (hf : ∀ s a, returns s a → w.Ensures (f a) returns' raises s) : w.Ensures (p >>= f) returns' raises s :=
  ensures_bind.mpr (ensures_mono h hf fun _ _ hx => hx)

theorem Ensures.sound {p : Program Op Reply X α} {o : Outcome X α} (h : w.Ensures p returns raises s)
    (hrun : w.RunsIn s p t o) :
    (∀ a, o = .returned a → returns (w.afterAll s t) a) ∧ ∀ x, o = .raised x → raises (w.afterAll s t) x := by
  obtain ⟨hruns, hgives⟩ := hrun
  induction hruns generalizing s with
  | ret a =>
    refine ⟨?_, nofun⟩
    rintro _ ⟨⟩
    exact h
  | raise x =>
    refine ⟨nofun, ?_⟩
    rintro _ ⟨⟩
    exact h
  | stop p => exact ⟨nofun, nofun⟩
  | act _ ih => exact ih (h _ hgives.1) hgives.2

/-- Where the world always has an answer, some run ends. -/
theorem Ensures.exists_run {p : Program Op Reply X α} (hlive : ∀ s op, ∃ r, w.answers s ⟨op, r⟩)
    (h : w.Ensures p returns raises s) :
    ∃ t, (∃ a, w.RunsIn s p t (.returned a)) ∨ ∃ x, w.RunsIn s p t (.raised x) := by
  induction p generalizing s with
  | ret a => exact ⟨[], .inl ⟨a, .ret a, trivial⟩⟩
  | raise x => exact ⟨[], .inr ⟨x, .raise x, trivial⟩⟩
  | pending => exact h.elim
  | act op k ih =>
    obtain ⟨r, hr⟩ := hlive s op
    obtain ⟨t, ⟨a, hrun⟩ | ⟨x, hrun⟩⟩ := ih r (h r hr)
    · exact ⟨⟨op, r⟩ :: t, .inl ⟨a, .act hr hrun⟩⟩
    · exact ⟨⟨op, r⟩ :: t, .inr ⟨x, .act hr hrun⟩⟩

/-- The world that answers anything; its state is the history. -/
def history : World Op Reply (List (Event Op Reply)) where
  answers _ _ := True
  after t e := t ++ [e]

theorem runsIn_history {p : Program Op Reply X α} {o : Outcome X α} (h : Runs p t o)
    (s : List (Event Op Reply)) : history.RunsIn s p t o := by
  refine ⟨h, ?_⟩
  clear h
  induction t generalizing s with
  | nil => trivial
  | cons e t ih => exact ⟨trivial, ih _⟩

theorem afterAll_history (s : List (Event Op Reply)) : history.afterAll s t = s ++ t := by
  induction t generalizing s with
  | nil => exact (List.append_nil s).symm
  | cons e t ih =>
    rw [afterAll_cons, ih, history, List.append_assoc]
    rfl

theorem ensures_history {op : Op} {returns : List (Event Op Reply) → Reply op → Prop}
    {raises : List (Event Op Reply) → X → Prop} :
    history.Ensures (perform op) returns raises t ↔ ∀ r, returns (t ++ [⟨op, r⟩]) r :=
  forall_congr' fun _ => imp_iff_right trivial

/-- What a program ensures whatever it is answered, it ensures against a machine. -/
theorem ensures_play {ς : Type} (answer : ς → (op : Op) → ς × Reply op) {p : Program Op Reply X α}
    {returns : List (Event Op Reply) → α → Prop} {raises : List (Event Op Reply) → X → Prop}
    (h : history.Ensures p returns raises t) (m : ς) :
    (∃ a, (p.play answer m).outcome = .returned a ∧ returns (t ++ (p.play answer m).events) a) ∨
      ∃ x, (p.play answer m).outcome = .raised x ∧ raises (t ++ (p.play answer m).events) x := by
  induction p generalizing t m with
  | ret a => exact .inl ⟨a, rfl, by rw [play, List.append_nil]; exact h⟩
  | raise x => exact .inr ⟨x, rfl, by rw [play, List.append_nil]; exact h⟩
  | pending => exact h.elim
  | act op k ih =>
    have hrest := ih (answer m op).2 (h (answer m op).2 trivial) (answer m op).1
    simp only [history, List.append_assoc, List.singleton_append] at hrest
    exact hrest

/-! ## From state to state -/

variable (w) in
/-- A run from `s` returns `a` and leaves the world in `s'`. -/
def Reaches (s : σ) (p : Program Op Reply X α) (s' : σ) (a : α) : Prop :=
  ∃ t, w.RunsIn s p t (.returned a) ∧ w.afterAll s t = s'

variable {s' : σ}

theorem reaches_ret {a b : α} : w.Reaches s (ret a : Program Op Reply X α) s' b ↔ a = b ∧ s = s' := by
  constructor
  · rintro ⟨t, ⟨hruns, -⟩, hafter⟩
    obtain ⟨hab, rfl⟩ := runs_ret.mp hruns
    exact ⟨hab, hafter⟩
  · rintro ⟨rfl, rfl⟩
    exact ⟨[], ⟨.ret a, trivial⟩, rfl⟩

theorem reaches_raise {x : X} {b : α} : ¬w.Reaches s (raise x : Program Op Reply X α) s' b := by
  rintro ⟨t, ⟨hruns, -⟩, -⟩
  exact runs_raise hruns

theorem reaches_act {op : Op} {k : Reply op → Program Op Reply X α} {b : α} :
    w.Reaches s (act op k) s' b ↔ ∃ r, w.answers s ⟨op, r⟩ ∧ w.Reaches (w.after s ⟨op, r⟩) (k r) s' b := by
  constructor
  · rintro ⟨t, ⟨hruns, hgives⟩, hafter⟩
    obtain ⟨r, t', rfl, hrest⟩ := runs_act.mp hruns
    exact ⟨r, hgives.1, t', ⟨hrest, hgives.2⟩, hafter⟩
  · rintro ⟨r, hanswers, t', hrun, hafter⟩
    exact ⟨⟨op, r⟩ :: t', .act hanswers hrun, hafter⟩

theorem reaches_bind {p : Program Op Reply X α} {f : α → Program Op Reply X β} {b : β} :
    w.Reaches s (p >>= f) s' b ↔ ∃ s₁ a, w.Reaches s p s₁ a ∧ w.Reaches s₁ (f a) s' b := by
  induction p generalizing s with
  | ret a =>
    rw [ret_bind]
    constructor
    · exact fun h => ⟨s, a, reaches_ret.mpr ⟨rfl, rfl⟩, h⟩
    · rintro ⟨s₁, a', hfirst, hrest⟩
      obtain ⟨rfl, rfl⟩ := reaches_ret.mp hfirst
      exact hrest
  | raise x => exact iff_of_false reaches_raise fun ⟨_, _, hfirst, _⟩ => reaches_raise hfirst
  | pending =>
    exact iff_of_false (fun ⟨_, hrun, _⟩ => runs_pending hrun.runs) fun ⟨_, _, ⟨_, hrun, _⟩, _⟩ =>
      runs_pending hrun.runs
  | act op k ih =>
    rw [act_bind, reaches_act]
    simp only [ih, reaches_act]
    constructor
    · rintro ⟨r, hanswers, s₁, a, hfirst, hrest⟩
      exact ⟨s₁, a, ⟨r, hanswers, hfirst⟩, hrest⟩
    · rintro ⟨s₁, a, ⟨r, hanswers, hfirst⟩, hrest⟩
      exact ⟨r, hanswers, s₁, a, hfirst, hrest⟩

theorem reaches_ofExcept {e : Except X α} {a : α} :
    w.Reaches s (ofExcept e) s' a ↔ e = .ok a ∧ s = s' := by
  cases e with
  | ok b => simp [ofExcept, reaches_ret]
  | error x => simp [ofExcept, reaches_raise]

theorem reaches_attempt_ok {p : Program Op Reply X α} {a : α} :
    w.Reaches s p.attempt s' (.ok a) ↔ w.Reaches s p s' a :=
  exists_congr fun _ => and_congr_left fun _ =>
    ⟨fun h => ⟨runs_attempt_ok.mp h.runs, h.gives⟩, fun h => ⟨runs_attempt_ok.mpr h.runs, h.gives⟩⟩

/-- A body with its clean-up, both of which returned. -/
theorem reaches_ensuring {p : Program Op Reply X α} {c : Program Op Reply X Unit} {a : α} :
    w.Reaches s (p.ensuring c) s' a ↔ ∃ s₁, w.Reaches s p s₁ a ∧ w.Reaches s₁ c s' () := by
  rw [ensuring]
  simp only [reaches_bind, reaches_ofExcept]
  constructor
  · rintro ⟨s₁, _, hbody, s₂, _, hclean, rfl, rfl⟩
    exact ⟨s₁, reaches_attempt_ok.mp hbody, hclean⟩
  · rintro ⟨s₁, hbody, hclean⟩
    exact ⟨s₁, .ok a, reaches_attempt_ok.mpr hbody, s', (), hclean, rfl, rfl⟩

/-! ## What every run keeps to -/

variable (w) in
/-- From `s` on every event the world gives is allowed, and the program ends, if it does, so. -/
def Safe (allowed : σ → Event Op Reply → Prop) :
    Program Op Reply X α → (σ → α → Prop) → (σ → X → Prop) → σ → Prop
  | ret a, returns, _, s => returns s a
  | raise x, _, raises, s => raises s x
  | pending, _, _, _ => True
  | act op k, returns, raises, s =>
    ∀ r, w.answers s ⟨op, r⟩ → allowed s ⟨op, r⟩ ∧ Safe allowed (k r) returns raises (w.after s ⟨op, r⟩)

section Safe

variable {allowed : σ → Event Op Reply → Prop}

theorem safe_mono {returns' : σ → α → Prop} {raises' : σ → X → Prop} {p : Program Op Reply X α}
    (h : w.Safe allowed p returns raises s) (hreturns : ∀ s a, returns s a → returns' s a)
    (hraises : ∀ s x, raises s x → raises' s x) : w.Safe allowed p returns' raises' s := by
  induction p generalizing s with
  | ret a => exact hreturns s a h
  | raise x => exact hraises s x h
  | pending => trivial
  | act op k ih => exact fun r hr => ⟨(h r hr).1, ih r (h r hr).2⟩

theorem safe_bind {p : Program Op Reply X α} {f : α → Program Op Reply X β} {returns : σ → β → Prop} :
    w.Safe allowed (p >>= f) returns raises s ↔
      w.Safe allowed p (fun s a => w.Safe allowed (f a) returns raises s) raises s := by
  induction p generalizing s with
  | ret a => exact Iff.rfl
  | raise x => exact Iff.rfl
  | pending => exact Iff.rfl
  | act op k ih => exact forall_congr' fun r => imp_congr Iff.rfl (and_congr Iff.rfl (ih r))

theorem safe_handle {p : Program Op Reply X α} {g : X → Program Op Reply X α} :
    w.Safe allowed (p.handle g) returns raises s ↔
      w.Safe allowed p returns (fun s x => w.Safe allowed (g x) returns raises s) s := by
  induction p generalizing s with
  | ret a => exact Iff.rfl
  | raise x => exact Iff.rfl
  | pending => exact Iff.rfl
  | act op k ih => exact forall_congr' fun r => imp_congr Iff.rfl (and_congr Iff.rfl (ih r))

/-- A sequence, from what its first part keeps to. -/
theorem Safe.then {p : Program Op Reply X α} {f : α → Program Op Reply X β} {returns' : σ → β → Prop}
    (h : w.Safe allowed p returns raises s)
    (hf : ∀ s a, returns s a → w.Safe allowed (f a) returns' raises s) :
    w.Safe allowed (p >>= f) returns' raises s :=
  safe_bind.mpr (safe_mono h hf fun _ _ hx => hx)

/-- What every step keeps holds when the program returns. -/
theorem Safe.keeps {kept : σ → Prop} {p : Program Op Reply X α} (h : w.Safe allowed p returns raises s)
    (hs : kept s) (hstep : ∀ s e, w.answers s e → kept s → kept (w.after s e)) :
    w.Safe allowed p (fun s a => returns s a ∧ kept s) raises s := by
  induction p generalizing s with
  | ret a => exact ⟨h, hs⟩
  | raise x => exact h
  | pending => trivial
  | act op k ih => exact fun r hr => ⟨(h r hr).1, ih r (h r hr).2 (hstep s _ hr hs)⟩

theorem Safe.sound {p : Program Op Reply X α} {o : Outcome X α} (h : w.Safe allowed p returns raises s)
    (hrun : w.RunsIn s p t o) :
    ∀ before e after, t = before ++ e :: after → allowed (w.afterAll s before) e := by
  obtain ⟨hruns, hgives⟩ := hrun
  induction hruns generalizing s with
  | ret a => intro before e after ht; cases before <;> cases ht
  | raise x => intro before e after ht; cases before <;> cases ht
  | stop p => intro before e after ht; cases before <;> cases ht
  | act _ ih =>
    obtain ⟨hallowed, hrest⟩ := h _ hgives.1
    rintro (_ | ⟨e', before⟩) e after ht
    · cases ht
      exact hallowed
    · cases ht
      exact ih hrest hgives.2 before e after rfl

end Safe

variable (w) in
/-- The world where every event has `P` besides. -/
def only (P : σ → Event Op Reply → Prop) : World Op Reply σ where
  answers s e := w.answers s e ∧ P s e
  after := w.after

theorem gives_only {P : σ → Event Op Reply → Prop} :
    (w.only P).Gives s t ↔
      w.Gives s t ∧ ∀ before e after, t = before ++ e :: after → P (w.afterAll s before) e := by
  induction t generalizing s with
  | nil =>
    refine iff_of_true trivial ⟨trivial, fun before e after ht => ?_⟩
    cases before <;> cases ht
  | cons e t ih =>
    constructor
    · rintro ⟨⟨hanswers, hP⟩, hrest⟩
      obtain ⟨hgives, hall⟩ := ih.mp hrest
      refine ⟨⟨hanswers, hgives⟩, ?_⟩
      rintro (_ | ⟨e', before⟩) e'' after ht
      · cases ht
        exact hP
      · cases ht
        exact hall before e'' after rfl
    · rintro ⟨⟨hanswers, hgives⟩, hall⟩
      refine ⟨⟨hanswers, hall [] e t rfl⟩, ih.mpr ⟨hgives, fun before e' after ht => ?_⟩⟩
      exact hall (e :: before) e' after (congrArg (e :: ·) ht)

theorem RunsIn.only {P : σ → Event Op Reply → Prop} {p : Program Op Reply X α} {o : Outcome X α}
    (h : w.RunsIn s p t o) (hP : ∀ before e after, t = before ++ e :: after → P (w.afterAll s before) e) :
    (w.only P).RunsIn s p t o := ⟨h.runs, gives_only.mpr ⟨h.gives, hP⟩⟩

end World

/-! ## Where an event may leave several states -/

/-- Some way through the events of a trace, from a state to a state. -/
inductive Through (after : σ → Event Op Reply → σ → Prop) : σ → List (Event Op Reply) → σ → Prop where
  | nil (s : σ) : Through after s [] s
  | cons {s s₁ s' : σ} {e : Event Op Reply} {t : List (Event Op Reply)} (h : after s e s₁)
      (rest : Through after s₁ t s') : Through after s (e :: t) s'

section Through

variable {after : σ → Event Op Reply → σ → Prop} {s s' : σ} {t : List (Event Op Reply)}

@[simp] theorem through_nil : Through after s [] s' ↔ s = s' := by
  constructor
  · intro h
    cases h
    rfl
  · rintro rfl
    exact .nil s

@[simp] theorem through_cons {e : Event Op Reply} :
    Through after s (e :: t) s' ↔ ∃ s₁, after s e s₁ ∧ Through after s₁ t s' := by
  constructor
  · intro h
    cases h with
    | cons h rest => exact ⟨_, h, rest⟩
  · rintro ⟨s₁, h, rest⟩
    exact .cons h rest

/-- What every event of the trace keeps is kept. -/
theorem Through.keeps {P : σ → Prop} (h : Through after s t s')
    (hkeeps : ∀ e ∈ t, ∀ s s', after s e s' → P s → P s') (hs : P s) : P s' := by
  induction h with
  | nil s => exact hs
  | cons hafter _ ih =>
    obtain ⟨hfirst, hrest⟩ := List.forall_mem_cons.mp hkeeps
    exact ih hrest (hfirst _ _ hafter hs)

end Through

end Program
