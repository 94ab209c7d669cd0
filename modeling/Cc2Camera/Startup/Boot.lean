import Cc2Camera.Startup.Runner

/-!
# Boot — which hooks the boot runner executes, and when it lets the boot go on
-/

open Program Shell World

namespace Cc2Camera.StartupPayloads

/-! ## The mount the checks ask for -/

/-- Exactly one mount at `/etc/conf.d`: `/dev/mtdblock5`, `jffs2`, with the option `rw`. -/
def Usable (table : List Mount) : Prop :=
  ∃ m, table.filter (fun m => m.directory = "/etc/conf.d") = [m] ∧ m.device = "/dev/mtdblock5" ∧
    m.filesystem = "jffs2" ∧ ['r', 'w'] ∈ m.options.toList.splitOn ','

theorem head?_splitOn (options : List Char) :
    (options.splitOn ',').head? = some (options.takeWhile (· ≠ ',')) := by
  induction options with
  | nil => rfl
  | cons c rest ih =>
    rw [List.splitOn_cons_eq_if_modifyHead]
    by_cases hc : c = ','
    · simp [hc]
    · simp [hc, ih]

-- the pattern is searched from each position on; only the first may hold it without a comma before it
theorem searchRw_iff (options : List Char) :
    (searchRw true options = true ↔ ['r', 'w'] ∈ options.splitOn ',') ∧
      (searchRw false options = true ↔ ['r', 'w'] ∈ (options.splitOn ',').tail) := by
  induction options with
  | nil => decide
  | cons c rest ih =>
    have hhead := head?_splitOn (c :: rest)
    obtain ⟨first, others, hsplit⟩ := List.exists_cons_of_ne_nil (List.splitOn_ne_nil ',' (c :: rest))
    rw [hsplit] at hhead
    obtain rfl : first = (c :: rest).takeWhile (· ≠ ',') := Option.some.inj hhead
    have hfalse : searchRw false (c :: rest) = true ↔ ['r', 'w'] ∈ others := by
      rw [searchRw, Bool.false_and, Bool.false_or]
      rw [List.splitOn_cons_eq_if_modifyHead] at hsplit
      by_cases hc : c = ','
      · rw [if_pos (by simpa using hc)] at hsplit
        rw [decide_eq_true hc, ih.1, (List.cons.inj hsplit).2]
      · rw [if_neg (by simpa using hc)] at hsplit
        rw [decide_eq_false hc, ih.2, ← List.tail_modifyHead, hsplit, List.tail_cons]
    refine ⟨?_, by rw [hsplit, List.tail_cons, hfalse]⟩
    have htrue : searchRw true (c :: rest) = true ↔
        (c :: rest).takeWhile (· ≠ ',') = ['r', 'w'] ∨ searchRw false (c :: rest) = true := by
      rw [searchRw, searchRw, Bool.true_and, Bool.false_and, Bool.false_or, Bool.or_eq_true, decide_eq_true_iff]
    rw [htrue, hfalse, hsplit, List.mem_cons, eq_comm]

theorem configStatus_eq_zero {table : List Mount} : configStatus table = 0 ↔ Usable table := by
  unfold configStatus Usable
  generalize table.filter (fun m => m.directory = "/etc/conf.d") = config
  match config with
  | [] => simp
  | [m] => simp [← (searchRw_iff m.options.toList).1, not_or]
  | m :: m' :: rest => simp

/-! ## Hooks in a trace -/

abbrev RunnerTrace : Type := List (Event RunnerOp RunnerReply)

def executedOf : Event RunnerOp RunnerReply → Option Name
  | ⟨.hook _ name, _⟩ => some name
  | _ => none

/-- The hooks executed, in order. -/
def executed (t : RunnerTrace) : List Name := t.filterMap executedOf

def isHook : RunnerOp → Bool
  | .hook _ _ => true
  | _ => false

theorem executed_append (t t' : RunnerTrace) : executed (t ++ t') = executed t ++ executed t' :=
  List.filterMap_append

theorem executed_of_quiet {t : RunnerTrace} (h : ∀ e ∈ t, isHook e.op = false) : executed t = [] := by
  apply List.filterMap_eq_nil_iff.mpr
  intro e he
  obtain ⟨op, r⟩ := e
  cases op with
  | hook stage name => exact absurd (h _ he) Bool.true_eq_false.mp
  | _ => rfl

/-- Programs that execute no hook. -/
abbrev Quiet {α : Type} (p : Runner α) : Prop := p.Uses (isHook · = false) fun _ => True

theorem quiet_pure {α : Type} (a : α) : Quiet (pure a) := trivial

theorem quiet_ask {op : RunnerOp} (h : isHook op = false) : Quiet (ask op) := ⟨h, fun _ => trivial⟩

theorem quiet_ite {α : Type} {b : Bool} {p q : Runner α} (hp : Quiet p) (hq : Quiet q) :
    Quiet (if b then p else q) := by
  cases b
  · exact hq
  · exact hp

theorem quiet_exitUnless (ok : Bool) : Quiet (exitUnless ok) := quiet_ite trivial trivial

theorem quiet_isMissing (name : Name) : Quiet (isMissing name) :=
  uses_bind (quiet_ask rfl) fun _ => quiet_ite trivial (uses_bind (quiet_ask rfl) fun _ => trivial)

theorem quiet_isPlain (name : Name) : Quiet (isPlain name) :=
  uses_bind (quiet_ask rfl) fun _ => quiet_ite (uses_bind (quiet_ask rfl) fun _ => trivial) trivial

theorem quiet_stageHook (stage : String) (name : Name) : Quiet (stageHook stage name) := by
  refine uses_bind (quiet_isMissing name) fun missing => quiet_ite trivial ?_
  refine uses_bind (quiet_isPlain name) fun plain => uses_bind (quiet_exitUnless plain) fun _ => ?_
  exact uses_bind (quiet_ask rfl) fun status => quiet_exitUnless _

theorem quiet_stageHooks (stage : String) (names : List Name) : Quiet (stageHooks stage names) := by
  induction names with
  | nil => trivial
  | cons name rest ih => exact uses_bind (quiet_stageHook stage name) fun _ => ih

theorem quiet_forever {α : Type} {body : Runner Unit} (h : Quiet body) (budget : Nat) :
    Quiet (forever body budget : Runner α) := by
  induction budget with
  | zero => trivial
  | succ budget ih => exact uses_bind h fun _ => ih

theorem quiet_hold (budget : Nat) : Quiet (hold budget) :=
  uses_bind (quiet_ask rfl) fun _ => uses_bind (quiet_ask rfl) fun _ =>
    quiet_forever (uses_bind (quiet_ask rfl) fun _ => quiet_pure ()) budget

theorem quiet_checkMount (budget : Nat) : Quiet (checkMount budget) := by
  refine uses_bind (quiet_ask rfl) fun table => ?_
  split
  · exact quiet_hold budget
  · exact quiet_pure ()

/-! ## The second loop -/

section Dispatch

variable {s : BootState} {t : RunnerTrace} {budget : Nat} {stage : String} {name : Name}

/-- A held boot neither returns nor exits. -/
theorem running_of_hold {o : Outcome Nat Unit} (h : camera.RunsIn s (hold budget) t o) : o = .running := by
  have hforever {u : Outcome Nat Unit} (budget : Nat) (s : BootState) (t : RunnerTrace)
      (h : camera.RunsIn s (forever (do let _ ← command ["sleep", "60"]; pure ()) budget) t u) : u = .running := by
    induction budget generalizing s t with
    | zero =>
      obtain ⟨hruns, -⟩ := h
      cases hruns
      rfl
    | succ budget ih =>
      rcases runsIn_act h with ⟨-, ho⟩ | ⟨r, t', -, -, hrest⟩
      · exact ho
      · exact ih _ _ hrest
  rcases runsIn_act h with ⟨-, ho⟩ | ⟨r, t₁, -, -, h₁⟩
  · exact ho
  rcases runsIn_act h₁ with ⟨-, ho⟩ | ⟨r, t₂, -, -, h₂⟩
  · exact ho
  exact hforever budget _ _ h₂

/-- A check of the mount goes on only when it is usable, and never exits. -/
theorem held_of_checkMount {o : Outcome Nat Unit} (h : camera.RunsIn s (checkMount budget) t o) :
    (¬Usable s.mounts → o = .running) ∧ ∀ x, o ≠ .raised x := by
  rcases runsIn_act h with ⟨-, rfl⟩ | ⟨table, t', -, hanswers, hrest⟩
  · exact ⟨fun _ => rfl, nofun⟩
  · have hbranch : camera.RunsIn s (if (table.map configStatus).getD 1 ≠ 0 then hold budget else pure ()) t' o :=
      hrest
    split at hbranch
    · obtain rfl := running_of_hold hbranch
      exact ⟨fun _ => rfl, nofun⟩
    · next hzero =>
      have husable : Usable s.mounts := by
        rcases hanswers with rfl | rfl
        · exact absurd Nat.one_ne_zero hzero
        · exact configStatus_eq_zero.mp (not_not.mp hzero)
      refine ⟨fun hnot => absurd husable hnot, fun x hx => ?_⟩
      rw [hx] at hbranch
      rcases (runsIn_ret hbranch).2 with ho | ho
      · cases ho
      · cases ho

/-- What a run that executes hooks among `names` shows. -/
structure Dispatched {α : Type} (names : List Name) (t : RunnerTrace) (o : Outcome Nat α) : Prop where
  order : (executed t).Sublist names
  held : ∀ before stage name r after, t = before ++ ⟨.hook stage name, r⟩ :: after → ¬Usable r.state.mounts →
    executed after = [] ∧ o = .running
  complete : ∀ a, o = .returned a → ∀ name ∈ names,
    name ∈ executed t ∨ ∃ stage, ⟨.stagedIsFile stage name, false⟩ ∈ t
  goesOn : ∀ x, o ≠ .raised x

-- a hook among events of which the first, or the last, are no hooks
theorem split_of_quiet_left {pre before after : RunnerTrace} {r : HookResult} (hquiet : ∀ e ∈ pre, isHook e.op = false)
    (h : pre ++ t = before ++ ⟨.hook stage name, r⟩ :: after) :
    ∃ c, before = pre ++ c ∧ t = c ++ ⟨.hook stage name, r⟩ :: after := by
  rcases List.append_eq_append_iff.mp h with ⟨c, hbefore, ht⟩ | ⟨c, hpre, hafter⟩
  · exact ⟨c, hbefore, ht⟩
  · rcases c with _ | ⟨e, c⟩
    · exact ⟨[], by rw [hpre, List.append_nil, List.append_nil], hafter.symm⟩
    · obtain ⟨rfl, -⟩ := List.cons.inj hafter
      have hmem : (⟨.hook stage name, r⟩ : Event RunnerOp RunnerReply) ∈ pre := by simp [hpre]
      exact absurd (hquiet _ hmem) Bool.true_eq_false.mp

theorem split_of_quiet_right {post before after : RunnerTrace} {r : HookResult}
    (hquiet : ∀ e ∈ post, isHook e.op = false) (h : t ++ post = before ++ ⟨.hook stage name, r⟩ :: after) :
    ∃ c, t = before ++ ⟨.hook stage name, r⟩ :: c ∧ after = c ++ post := by
  rcases List.append_eq_append_iff.mp h with ⟨c, -, hpost⟩ | ⟨c, ht, hafter⟩
  · have hmem : (⟨.hook stage name, r⟩ : Event RunnerOp RunnerReply) ∈ post := by simp [hpost]
    exact absurd (hquiet _ hmem) Bool.true_eq_false.mp
  · rcases c with _ | ⟨e, c⟩
    · rw [List.nil_append] at hafter
      have hmem : (⟨.hook stage name, r⟩ : Event RunnerOp RunnerReply) ∈ post := by simp [← hafter]
      exact absurd (hquiet _ hmem) Bool.true_eq_false.mp
    · obtain ⟨rfl, rfl⟩ := List.cons.inj hafter
      exact ⟨c, ht, rfl⟩

theorem Dispatched.precede {α : Type} {names : List Name} {o : Outcome Nat α} {pre : RunnerTrace}
    (h : Dispatched names t o) (hquiet : ∀ e ∈ pre, isHook e.op = false) : Dispatched names (pre ++ t) o := by
  have hexecuted : executed (pre ++ t) = executed t := by
    rw [executed_append, executed_of_quiet hquiet, List.nil_append]
  refine ⟨hexecuted ▸ h.order, fun before stage name r after ht hnot => ?_, fun a ho later hlater => ?_, h.goesOn⟩
  · obtain ⟨c, -, hc⟩ := split_of_quiet_left hquiet ht
    exact h.held c stage name r after hc hnot
  · rw [hexecuted]
    refine (h.complete a ho later hlater).imp_right ?_
    rintro ⟨stage, hmem⟩
    exact ⟨stage, List.mem_append_right _ hmem⟩

theorem Dispatched.follow {α β : Type} {names : List Name} {a : α} {o : Outcome Nat β} {post : RunnerTrace}
    (h : Dispatched names t (.returned a)) (hquiet : ∀ e ∈ post, isHook e.op = false) (hgoes : ∀ x, o ≠ .raised x) :
    Dispatched names (t ++ post) o := by
  have hexecuted : executed (t ++ post) = executed t := by
    rw [executed_append, executed_of_quiet hquiet, List.append_nil]
  refine ⟨hexecuted ▸ h.order, fun before stage name r after ht hnot => ?_, fun _ _ later hlater => ?_, hgoes⟩
  · obtain ⟨c, hc, -⟩ := split_of_quiet_right hquiet ht
    cases (h.held before stage name r c hc hnot).2
  · rw [hexecuted]
    refine (h.complete a rfl later hlater).imp_right ?_
    rintro ⟨stage, hmem⟩
    exact ⟨stage, List.mem_append_left _ hmem⟩

theorem dispatched_of_quiet {names : List Name} {o : Outcome Nat Unit} (hquiet : ∀ e ∈ t, isHook e.op = false)
    (hcomplete : ∀ a, o = .returned a → ∀ name ∈ names, ∃ stage, ⟨.stagedIsFile stage name, false⟩ ∈ t)
    (hgoes : ∀ x, o ≠ .raised x) : Dispatched names t o := by
  refine ⟨?_, ?_, fun a ho name hname => .inr (hcomplete a ho name hname), hgoes⟩
  · rw [executed_of_quiet hquiet]
    exact List.nil_sublist names
  · rintro before stage name r after rfl
    exact absurd (hquiet _ (List.mem_append_right _ List.mem_cons_self)) Bool.true_eq_false.mp

-- the part of an iteration after its hook has ended
theorem held_of_report {words : Command} {o : Outcome Nat Unit}
    (h : camera.RunsIn s (command words >>= fun _ => checkMount budget) t o) :
    executed t = [] ∧ (¬Usable s.mounts → o = .running) ∧ ∀ x, o ≠ .raised x := by
  have hquiet : Quiet (command words >>= fun _ => checkMount budget) :=
    uses_bind (quiet_ask rfl) fun _ => quiet_checkMount budget
  refine ⟨executed_of_quiet (h.uses hquiet), ?_⟩
  rcases runsIn_act h with ⟨-, rfl⟩ | ⟨_, t', -, -, hrest⟩
  · exact ⟨fun _ => rfl, nofun⟩
  · exact held_of_checkMount hrest

theorem dispatched_of_runHook {o : Outcome Nat Unit} (h : camera.RunsIn s (runHook budget stage name) t o) :
    Dispatched [name] t o := by
  rcases runsIn_act h with ⟨rfl, rfl⟩ | ⟨file, t₁, rfl, -, h₁⟩
  · exact dispatched_of_quiet nofun (fun _ => nofun) nofun
  cases file with
  | false =>
    obtain ⟨rfl, ho⟩ := runsIn_ret h₁
    refine dispatched_of_quiet (List.forall_mem_singleton.mpr rfl) ?_ ?_
    · intro _ _
      exact List.forall_mem_singleton.mpr ⟨stage, List.mem_cons_self⟩
    · rintro x rfl
      simp at ho
  | true =>
    rcases runsIn_act h₁ with ⟨rfl, rfl⟩ | ⟨echoed, t₂, rfl, -, h₂⟩
    · exact dispatched_of_quiet (List.forall_mem_singleton.mpr rfl) (fun _ => nofun) nofun
    rcases runsIn_act h₂ with ⟨rfl, rfl⟩ | ⟨r, t₃, rfl, -, h₃⟩
    · refine dispatched_of_quiet (List.forall_mem_cons.mpr ⟨rfl, ?_⟩) (fun _ => nofun) nofun
      exact List.forall_mem_singleton.mpr rfl
    obtain ⟨hquiet, hheld, hgoes⟩ := held_of_report h₃
    have hexecuted : executed (⟨.stagedIsFile stage name, true⟩ ::
        ⟨.command ["echo", "cc2flash: running " ++ textOfName name], echoed⟩ :: ⟨.hook stage name, r⟩ :: t₃) =
          name :: executed t₃ := rfl
    refine ⟨?_, ?_, fun _ _ => ?_, hgoes⟩
    · rw [hexecuted, hquiet]
    · intro before stage' name' r' after ht hnot
      -- the third event is the only hook
      rcases before with _ | ⟨_, _ | ⟨_, _ | ⟨_, before⟩⟩⟩
      · cases ht
      · cases ht
      · cases ht
        exact ⟨hquiet, hheld hnot⟩
      · simp only [List.cons_append, List.cons.injEq] at ht
        rw [ht.2.2.2, executed_append] at hquiet
        simp [executed, executedOf] at hquiet
    · rw [hexecuted]
      exact List.forall_mem_singleton.mpr (.inl List.mem_cons_self)

theorem Dispatched.append {rest : List Name} {t' : RunnerTrace} {o : Outcome Nat Unit}
    (h : Dispatched [name] t (.returned ())) (h' : Dispatched rest t' o) : Dispatched (name :: rest) (t ++ t') o := by
  refine ⟨?_, ?_, fun a ho => ?_, h'.goesOn⟩
  · rw [executed_append]
    exact h.order.append h'.order
  · intro before stage name r after ht hnot
    rcases List.append_eq_append_iff.mp ht with ⟨c, rfl, hc⟩ | ⟨c, hc, hafter⟩
    · exact h'.held c stage name r after hc hnot
    · rcases c with _ | ⟨e, c⟩
      · exact h'.held [] stage name r after hafter.symm hnot
      · obtain ⟨rfl, rfl⟩ := List.cons.inj hafter
        cases (h.held before stage name r c hc hnot).2
  · refine List.forall_mem_cons.mpr ⟨?_, fun later hlater => ?_⟩
    · rcases h.complete () rfl name List.mem_cons_self with hmem | ⟨stage, hmem⟩
      · exact .inl (executed_append t t' ▸ List.mem_append_left _ hmem)
      · exact .inr ⟨stage, List.mem_append_left _ hmem⟩
    · rcases h'.complete a ho later hlater with hmem | ⟨stage, hmem⟩
      · exact .inl (executed_append t t' ▸ List.mem_append_right _ hmem)
      · exact .inr ⟨stage, List.mem_append_right _ hmem⟩

theorem dispatched_of_runHooks {names : List Name} {o : Outcome Nat Unit}
    (h : camera.RunsIn s (runHooks budget stage names) t o) : Dispatched names t o := by
  induction names generalizing s t with
  | nil =>
    obtain ⟨rfl, ho⟩ := runsIn_ret h
    refine dispatched_of_quiet nofun (fun _ _ => nofun) ?_
    rintro x rfl
    simp at ho
  | cons name rest ih =>
    rcases runsIn_bind h with ⟨t₁, u, t₂, rfl, hfirst, hrest⟩ | ⟨x, hraised, -⟩ | ⟨hrunning, rfl⟩
    · exact (dispatched_of_runHook hfirst).append (ih hrest)
    · exact absurd rfl ((dispatched_of_runHook hraised).goesOn x)
    · have hone := dispatched_of_runHook hrunning
      refine ⟨hone.order.trans (List.cons_sublist_cons.mpr (List.nil_sublist rest)), hone.held, fun _ => nofun, nofun⟩

end Dispatch

/-! ## The first loop -/

theorem FileKind.missing_iff {k : FileKind} : (!k.present && !k.isLink) = true ↔ k = .absent := by
  cases k <;> simp [present, isLink]

theorem FileKind.plain_iff {k : FileKind} : (k.isFile && !k.isLink) = true ↔ k = .regular := by
  cases k <;> simp [isFile, isLink]

section Staging

variable {s : BootState} {t : RunnerTrace} {stage : String} {name : Name}

theorem isMissing_returned {b : Bool} (h : camera.RunsIn s (isMissing name) t (.returned b)) :
    camera.afterAll s t = s ∧ (b = true ↔ s.enabled.kind name = .absent) := by
  rcases runsIn_act h with ⟨-, ho⟩ | ⟨present, t₁, rfl, hpresent, h₁⟩
  · cases ho
  change present = (s.enabled.kind name).present at hpresent
  rw [← FileKind.missing_iff, ← hpresent]
  cases present with
  | true =>
    obtain ⟨rfl, ho⟩ := runsIn_ret h₁
    simp at ho
    subst ho
    exact ⟨rfl, by simp⟩
  | false =>
    rcases runsIn_act h₁ with ⟨-, ho⟩ | ⟨link, t₂, rfl, hlink, h₂⟩
    · cases ho
    change link = (s.enabled.kind name).isLink at hlink
    obtain ⟨rfl, ho⟩ := runsIn_ret h₂
    simp at ho
    subst ho
    exact ⟨rfl, by simp [hlink]⟩

theorem isPlain_returned {b : Bool} (h : camera.RunsIn s (isPlain name) t (.returned b)) :
    camera.afterAll s t = s ∧ (b = true ↔ s.enabled.kind name = .regular) := by
  rcases runsIn_act h with ⟨-, ho⟩ | ⟨file, t₁, rfl, hfile, h₁⟩
  · cases ho
  change file = (s.enabled.kind name).isFile at hfile
  rw [← FileKind.plain_iff, ← hfile]
  cases file with
  | false =>
    obtain ⟨rfl, ho⟩ := runsIn_ret h₁
    simp at ho
    subst ho
    exact ⟨rfl, by simp⟩
  | true =>
    rcases runsIn_act h₁ with ⟨-, ho⟩ | ⟨link, t₂, rfl, hlink, h₂⟩
    · cases ho
    change link = (s.enabled.kind name).isLink at hlink
    obtain ⟨rfl, ho⟩ := runsIn_ret h₂
    simp at ho
    subst ho
    exact ⟨rfl, by simp [hlink]⟩

theorem exitUnless_returned {ok : Bool} {u : Unit} (h : camera.RunsIn s (exitUnless ok) t (.returned u)) :
    t = [] ∧ ok = true := by
  cases ok with
  | true => exact ⟨(runsIn_ret h).1, rfl⟩
  | false => cases h.runs

/-- An entry that let the script go on was absent and left alone, or a regular file and copied. -/
theorem stageHook_returned {u : Unit} (h : camera.RunsIn s (stageHook stage name) t (.returned u)) :
    (s.enabled.kind name = .absent ∧ camera.afterAll s t = s) ∨
      (s.enabled.kind name = .regular ∧ camera.afterAll s t = { s with staged := s.staged.insert name } ∧
        ⟨.stage stage name, (0 : Nat)⟩ ∈ t) := by
  obtain ⟨t₁, missing, t₂, rfl, h₁, h₂⟩ := runsIn_bind_returned h
  obtain ⟨hs₁, hmissing⟩ := isMissing_returned h₁
  rw [hs₁] at h₂
  cases missing with
  | true =>
    obtain ⟨rfl, -⟩ := runsIn_ret h₂
    exact .inl ⟨hmissing.mp rfl, by rw [List.append_nil, hs₁]⟩
  | false =>
    obtain ⟨t₃, plain, t₄, rfl, h₃, h₄⟩ := runsIn_bind_returned h₂
    obtain ⟨hs₃, hplain⟩ := isPlain_returned h₃
    rw [hs₃] at h₄
    obtain ⟨t₅, _, t₆, rfl, h₅, h₆⟩ := runsIn_bind_returned h₄
    obtain ⟨rfl, rfl⟩ := exitUnless_returned h₅
    rcases runsIn_act h₆ with ⟨-, ho⟩ | ⟨status, t₇, rfl, -, h₇⟩
    · cases ho
    obtain ⟨rfl, hstatus⟩ := exitUnless_returned h₇
    obtain rfl : status = 0 := eq_of_beq hstatus
    refine .inr ⟨hplain.mp rfl, ?_, by simp⟩
    rw [afterAll_append, hs₁, afterAll_append, hs₃]
    rfl

theorem Directory.mem_insert {d : Directory} {other : Name} :
    other ∈ (d.insert name).names ↔ other ∈ d.names ∨ other = name := by
  show (other ∈ if name ∈ d.names then d.names else name :: d.names) ↔ _
  split
  · next hmem => exact ⟨.inl, fun h => h.elim id fun heq => heq ▸ hmem⟩
  · rw [List.mem_cons, or_comm]

-- the names of `enabled` never change, so the kinds are those at the start
theorem stageHooks_returned {names : List Name} {u : Unit}
    (h : camera.RunsIn s (stageHooks stage names) t (.returned u)) :
    (camera.afterAll s t).enabled = s.enabled ∧ (camera.afterAll s t).mounts = s.mounts ∧
      (∀ name ∈ names, s.enabled.kind name = .absent ∨
        (s.enabled.kind name = .regular ∧ ⟨.stage stage name, (0 : Nat)⟩ ∈ t)) ∧
      ∀ other, other ∈ (camera.afterAll s t).staged.names ↔
        other ∈ s.staged.names ∨ (other ∈ names ∧ other ∈ s.enabled.names) := by
  induction names generalizing s t with
  | nil =>
    obtain ⟨rfl, -⟩ := runsIn_ret h
    simp
  | cons name rest ih =>
    obtain ⟨t₁, _, t₂, rfl, h₁, h₂⟩ := runsIn_bind_returned h
    rw [afterAll_append]
    obtain ⟨henabled, hmounts, hkinds, hstaged⟩ := ih h₂
    rcases stageHook_returned h₁ with ⟨habsent, hs⟩ | ⟨hregular, hs, hcopied⟩
    · rw [hs] at henabled hmounts hkinds hstaged ⊢
      refine ⟨henabled, hmounts, ?_, fun other => ?_⟩
      · refine List.forall_mem_cons.mpr ⟨.inl habsent, fun later hlater => ?_⟩
        exact (hkinds later hlater).imp_right fun h => ⟨h.1, List.mem_append_right _ h.2⟩
      · have hname : name ∉ s.enabled.names := fun hmem => (s.enabled.listed name).mp hmem habsent
        rw [hstaged, List.mem_cons]
        constructor
        · exact Or.imp_right (And.imp_left .inr)
        · rintro (hold | ⟨rfl | hrest, hmem⟩)
          · exact .inl hold
          · exact absurd hmem hname
          · exact .inr ⟨hrest, hmem⟩
    · rw [hs] at henabled hmounts hkinds hstaged ⊢
      refine ⟨henabled, hmounts, ?_, fun other => ?_⟩
      · refine List.forall_mem_cons.mpr ⟨.inr ⟨hregular, List.mem_append_left _ hcopied⟩, fun later hlater => ?_⟩
        exact (hkinds later hlater).imp_right fun h => ⟨h.1, List.mem_append_right _ h.2⟩
      · have hname : name ∈ s.enabled.names := (s.enabled.listed name).mpr (by rw [hregular]; nofun)
        rw [hstaged, Directory.mem_insert, List.mem_cons]
        constructor
        · rintro ((hold | rfl) | ⟨hrest, hmem⟩)
          · exact .inl hold
          · exact .inr ⟨.inl rfl, hname⟩
          · exact .inr ⟨.inr hrest, hmem⟩
        · rintro (hold | ⟨rfl | hrest, hmem⟩)
          · exact .inl (.inl hold)
          · exact .inl (.inr rfl)
          · exact .inr ⟨hrest, hmem⟩

theorem mem_visible {names : List Name} : name ∈ visible names ↔ name ∈ names ∧ isVisible name = true :=
  (Sorting.perm_sortByKey _ _).mem_iff.trans List.mem_filter

theorem visible_congr {names names' : List Name} (hnodup : names.Nodup) (hnodup' : names'.Nodup)
    (h : ∀ name, isVisible name = true → (name ∈ names ↔ name ∈ names')) : visible names = visible names' := by
  apply Sorting.sortByKey_eq_of_perm
  · rw [List.map_id']
    exact hnodup.filter _
  · apply (List.perm_ext_iff_of_nodup (hnodup.filter _) (hnodup'.filter _)).mpr
    intro name
    rw [List.mem_filter, List.mem_filter]
    exact and_congr_left (h name)

theorem Directory.visible_of_perm {d : Directory} {found : List Name} (h : found.Perm d.names) :
    visible found = visible d.names := visible_congr (h.nodup_iff.mpr d.nodup) d.nodup fun _ _ => h.mem_iff

-- `*` itself is a name `*` matches
theorem Directory.mem_expand {d : Directory} {found : List Name} (h : found.Perm d.names) :
    name ∈ expand found ∧ name ∈ d.names ↔ name ∈ visible d.names := by
  unfold expand
  rw [visible_of_perm h]
  split
  · next hnone =>
    rw [hnone, List.mem_singleton]
    refine ⟨?_, nofun⟩
    rintro ⟨rfl, hmem⟩
    have hvisible : ascii "*" ∈ visible d.names := mem_visible.mpr ⟨hmem, by decide⟩
    rw [hnone] at hvisible
    exact hvisible
  · exact ⟨And.left, fun hmem => ⟨hmem, (mem_visible.mp hmem).1⟩⟩

theorem quiet_staging : Quiet staging := by
  refine uses_bind (quiet_ask rfl) fun _ => uses_bind (quiet_exitUnless _) fun _ => ?_
  refine uses_bind (quiet_ask rfl) fun _ => uses_bind (quiet_ask rfl) fun made => ?_
  cases made with
  | none => trivial
  | some stage =>
    refine uses_bind (quiet_ask rfl) fun _ => uses_bind (quiet_exitUnless _) fun _ => ?_
    refine uses_bind (quiet_ask rfl) fun _ => uses_bind (quiet_exitUnless _) fun _ => ?_
    refine uses_bind (quiet_ask rfl) fun found => uses_bind (quiet_stageHooks stage _) fun _ => ?_
    refine uses_bind (quiet_ask rfl) fun _ => uses_bind (quiet_exitUnless _) fun _ => ?_
    exact uses_bind (quiet_ask rfl) fun _ => quiet_ite trivial trivial

-- `runsIn_act` with the rest of the program in its own form
theorem asked_returned {α : Type} {op : RunnerOp} {f : RunnerReply op → Runner α} {a : α}
    (h : camera.RunsIn s (ask op >>= f) t (.returned a)) :
    ∃ r t', t = ⟨op, r⟩ :: t' ∧ camera.answers s ⟨op, r⟩ ∧
      camera.RunsIn (camera.after s ⟨op, r⟩) (f r) t' (.returned a) := by
  rcases runsIn_act h with ⟨-, ho⟩ | hrest
  · cases ho
  · exact hrest

/-- When the shell is replaced, every visible entry was a regular file and the copies are the visible entries. -/
theorem staging_returned (h : camera.RunsIn s staging t (.returned stage)) :
    (∀ name ∈ visible s.enabled.names, s.enabled.kind name = .regular ∧ ⟨.stage stage name, (0 : Nat)⟩ ∈ t) ∧
      visible (camera.afterAll s t).staged.names = visible s.enabled.names := by
  obtain ⟨table, t₁, rfl, -, h₁⟩ := asked_returned h
  obtain ⟨_, _, t₂, rfl, hexit₁, h₂⟩ := runsIn_bind_returned h₁
  obtain ⟨rfl, -⟩ := exitUnless_returned hexit₁
  obtain ⟨umask, t₃, rfl, -, h₃⟩ := asked_returned h₂
  obtain ⟨made, t₄, rfl, -, h₄⟩ := asked_returned h₃
  cases made with
  | none => cases h₄.runs
  | some stage' =>
  obtain ⟨status, t₅, rfl, -, h₅⟩ := asked_returned h₄
  obtain ⟨_, _, t₆, rfl, hexit₂, h₆⟩ := runsIn_bind_returned h₅
  obtain ⟨rfl, hstatus⟩ := exitUnless_returned hexit₂
  obtain rfl : status = 0 := eq_of_beq hstatus
  obtain ⟨copied, t₇, rfl, -, h₇⟩ := asked_returned h₆
  obtain ⟨_, _, t₈, rfl, hexit₃, h₈⟩ := runsIn_bind_returned h₇
  obtain ⟨rfl, -⟩ := exitUnless_returned hexit₃
  obtain ⟨found, t₉, rfl, hfound, h₉⟩ := asked_returned h₈
  obtain ⟨t₁₀, _, t₁₁, rfl, hhooks, h₁₁⟩ := runsIn_bind_returned h₉
  obtain ⟨henabled, -, hkinds, hstaged⟩ := stageHooks_returned hhooks
  obtain ⟨moved, t₁₂, rfl, -, h₁₂⟩ := asked_returned h₁₁
  obtain ⟨_, _, t₁₃, rfl, hexit₄, h₁₃⟩ := runsIn_bind_returned h₁₂
  obtain ⟨rfl, -⟩ := exitUnless_returned hexit₄
  obtain ⟨replaced, t₁₄, rfl, -, h₁₄⟩ := asked_returned h₁₃
  cases replaced with
  | false => cases h₁₄.runs
  | true =>
  obtain ⟨rfl, hstage⟩ := runsIn_ret h₁₄
  obtain rfl : stage = stage' := by simpa using hstage
  have hperm : found.Perm s.enabled.names := hfound
  constructor
  · intro name hmem
    obtain ⟨hexpand, hname⟩ := (Directory.mem_expand hperm).mpr hmem
    rcases hkinds name hexpand with habsent | ⟨hregular, hcopied⟩
    · exact absurd habsent ((s.enabled.listed name).mp hname)
    · exact ⟨hregular, by simp [hcopied]⟩
  · apply visible_congr (Directory.nodup _) s.enabled.nodup
    intro name hvisible
    simp only [List.nil_append, afterAll_cons, afterAll_append, afterAll_nil]
    have hstate := (hstaged name).trans (or_iff_right List.not_mem_nil)
    refine hstate.trans ?_
    have hnames := @Directory.mem_expand name _ _ hperm
    rw [mem_visible, and_iff_left hvisible] at hnames
    exact hnames

end Staging

/-! ## Whole runs -/

section Runs

variable {s : BootState} {t : RunnerTrace} {budget : Nat} {stage : String} {name : Name}

theorem uses_runHooks (budget : Nat) (stage : String) (names : List Name) :
    (runHooks budget stage names).Uses (fun op => ∀ other name, op = .hook other name → other = stage)
      fun _ => True := by
  have hforever {α : Type} (budget : Nat) :
      (forever (do let _ ← command ["sleep", "60"]; pure ()) budget : Runner α).Uses
        (fun op => ∀ other name, op = .hook other name → other = stage) fun _ => True := by
    induction budget with
    | zero => trivial
    | succ budget ih => exact ⟨nofun, fun _ => ih⟩
  induction names with
  | nil => trivial
  | cons name rest ih =>
    refine uses_bind ⟨nofun, fun file => ?_⟩ fun _ => ih
    cases file with
    | false => trivial
    | true =>
      refine ⟨nofun, fun _ => ⟨fun other name h => (RunnerOp.hook.inj h).1.symm, fun _ => ⟨nofun, fun _ => ?_⟩⟩⟩
      refine ⟨nofun, fun table => ?_⟩
      change Program.Uses _ _ (if _ then hold budget else pure ())
      split
      · exact ⟨nofun, fun _ => ⟨nofun, fun _ => hforever budget⟩⟩
      · trivial

-- the pattern that matched nothing is no file
theorem executed_of_absent {o : Outcome Nat Unit} (h : camera.RunsIn s (runHooks budget stage [name]) t o)
    (habsent : s.staged.kind name = .absent) : executed t = [] := by
  have hone {t : RunnerTrace} {o : Outcome Nat Unit} (h : camera.RunsIn s (runHook budget stage name) t o) :
      executed t = [] := by
    rcases runsIn_act h with ⟨rfl, -⟩ | ⟨file, t', rfl, hfile, hrest⟩
    · rfl
    change file = (s.staged.kind name).isFile at hfile
    rw [habsent] at hfile
    subst hfile
    obtain ⟨rfl, -⟩ := runsIn_ret hrest
    rfl
  rcases runsIn_bind h with ⟨t₁, u, t₂, rfl, hfirst, hrest⟩ | ⟨x, hraised, -⟩ | ⟨hrunning, -⟩
  · obtain ⟨rfl, -⟩ := runsIn_ret hrest
    rw [List.append_nil]
    exact hone hfirst
  · exact hone hraised
  · exact hone hrunning

/-- The copy in RAM dispatches the visible files it finds staged. -/
theorem dispatched_of_ramWorker {o : Outcome Nat Nat} (h : camera.RunsIn s (ramWorker budget stage) t o) :
    Dispatched (visible s.staged.names) t o := by
  rcases runsIn_act h with ⟨rfl, rfl⟩ | ⟨found, t', rfl, hfound, hrest⟩
  · exact ⟨List.nil_sublist _, by simp, fun _ => nofun, nofun⟩
  have hperm : found.Perm s.staged.names := hfound
  change Dispatched _ ([⟨.stagedEntries stage, found⟩] ++ t') o
  refine Dispatched.precede ?_ (List.forall_mem_singleton.mpr rfl)
  change camera.RunsIn s (runHooks budget stage (expand found) >>= fun _ => command ["rm", "-rf", stage]) t' o at hrest
  have hhooks {t : RunnerTrace} {o : Outcome Nat Unit}
      (h : camera.RunsIn s (runHooks budget stage (expand found)) t o) : Dispatched (visible s.staged.names) t o := by
    have hall := dispatched_of_runHooks h
    unfold expand at h hall
    rw [Directory.visible_of_perm hperm] at h hall
    split at hall
    · next hnone =>
      rw [if_pos hnone] at h
      have habsent : s.staged.kind (ascii "*") = .absent := by
        by_contra hpresent
        have hvisible : ascii "*" ∈ visible s.staged.names :=
          mem_visible.mpr ⟨(s.staged.listed _).mpr hpresent, by decide⟩
        rw [hnone] at hvisible
        cases hvisible
      refine ⟨?_, hall.held, fun _ _ => ?_, hall.goesOn⟩
      · rw [executed_of_absent h habsent]
        exact List.nil_sublist _
      · rw [hnone]
        exact nofun
    · exact hall
  rcases runsIn_bind hrest with ⟨t₁, u, t₂, rfl, hfirst, hrm⟩ | ⟨x, hraised, -⟩ | ⟨hrunning, rfl⟩
  · have hquiet : Quiet (command ["rm", "-rf", stage]) := quiet_ask rfl
    refine (hhooks hfirst).follow (hrm.uses hquiet) ?_
    rintro x rfl
    rcases runsIn_act hrm with ⟨-, ho⟩ | ⟨status, t₃, -, -, hend⟩
    · cases ho
    · rcases (runsIn_ret hend).2 with ho | ho
      · cases ho
      · cases ho
  · exact absurd rfl ((hhooks hraised).goesOn x)
  · have hall := hhooks hrunning
    exact ⟨hall.order, fun before stage name r after ht hnot => ⟨(hall.held before stage name r after ht hnot).1, rfl⟩,
      fun _ => nofun, nofun⟩

theorem stage_of_ramWorker {o : Outcome Nat Nat} (h : camera.RunsIn s (ramWorker budget stage) t o) :
    ∀ e ∈ t, ∀ other name, e.op = .hook other name → other = stage := by
  have huses : (ramWorker budget stage).Uses
      (fun op => ∀ other name, op = .hook other name → other = stage) fun _ => True := by
    refine ⟨nofun, fun found => ?_⟩
    change Program.Uses _ _ (runHooks budget stage (expand found) >>= fun _ => command ["rm", "-rf", stage])
    exact uses_bind (uses_runHooks budget stage _) fun _ => ⟨nofun, fun _ => trivial⟩
  exact h.uses huses

end Runs

end Cc2Camera.StartupPayloads
