import Cc2Camera.Startup.Installed

/-!
# Calls — `install_startup` calls over the life of a config directory

A call chooses its payloads from what the directory holds, may be refused at any of its checks, and
runs the script to its end or until it is cut off.  Each state so reached keeps the managed files
absent or exact.
-/

open Crash Exceptions

namespace Cc2Camera.Startup

/-! ## The whole script -/

section Script

variable {requests payloads : List Managed} {blocks : Nat} {fs fs' : Fs}

theorem passes_tempGuard {i : Nat} :
    (∀ test ∈ tempGuard i, test.Passes fs) ↔ fs (temp i) = none := by
  have h := @performs_tempGuard i fs fs
  simpa only [shell, Line.performs, GuardPasses, List.mem_singleton, forall_eq, and_true] using h

/-- What a requested file must look like for its guards to pass. -/
def DestinationClear (fs : Fs) (payloads : List Managed) (entry : Managed × Nat) : Prop :=
  if entry.1.1 ∈ payloads.map Prod.fst then fs (.conf entry.1.1) = none
  else fs (.conf entry.1.1) ≠ some .link ∧
    SameContent fs (.conf entry.1.1) (.staged ("existing-" ++ toString entry.2))

theorem passes_destinationGuards {entry : Managed × Nat} :
    GuardPasses fs (destinationGuards payloads entry) ↔ DestinationClear fs payloads entry := by
  unfold GuardPasses destinationGuards DestinationClear
  by_cases hmem : entry.1.1 ∈ payloads.map Prod.fst
  · simp only [if_pos hmem, List.forall_mem_cons, List.mem_singleton, forall_eq, Test.Passes]
    constructor
    · rintro ⟨hnone | hlink, hnotLink⟩
      · exact hnone
      · exact absurd hlink hnotLink
    · intro hnone
      exact ⟨.inl hnone, by simp [hnone]⟩
  · simp only [if_neg hmem, List.forall_mem_cons, List.mem_singleton, forall_eq, Test.Passes]

theorem guardPasses_append {groups groups' : List (List Test)} :
    GuardPasses fs (groups ++ groups') ↔ GuardPasses fs groups ∧ GuardPasses fs groups' :=
  List.forall_mem_append

theorem guardPasses_guards :
    GuardPasses fs (guards requests payloads blocks) ↔
      (fs enabled = none ∨ fs enabled = some .directory) ∧
        (∀ entry ∈ requests.zipIdx, DestinationClear fs payloads entry) ∧
        ∀ i < payloads.length, fs (temp i) = none := by
  have henabled : GuardPasses fs [[.notLink enabled], [.absentOrDirectory enabled]] ↔
      fs enabled = none ∨ fs enabled = some .directory := by
    simp only [GuardPasses, List.forall_mem_cons, List.mem_singleton, forall_eq, Test.Passes]
    constructor
    · rintro ⟨hlink, hnone | hdir | hlink'⟩
      · exact .inl hnone
      · exact .inr hdir
      · exact absurd hlink' hlink
    · rintro (hnone | hdir)
      · exact ⟨by simp [hnone], .inl hnone⟩
      · exact ⟨by simp [hdir], .inr (.inl hdir)⟩
  have hdest : GuardPasses fs (requests.zipIdx.flatMap (destinationGuards payloads)) ↔
      ∀ entry ∈ requests.zipIdx, DestinationClear fs payloads entry := by
    rw [← forall₂_congr fun entry _ => passes_destinationGuards]
    simp only [GuardPasses, List.mem_flatMap, forall_exists_index, and_imp]
    exact ⟨fun h entry he tests => h tests entry he, fun h tests entry he => h entry he tests⟩
  have htemps : GuardPasses fs ((List.range payloads.length).map tempGuard) ↔
      ∀ i < payloads.length, fs (temp i) = none := by
    simp only [GuardPasses, List.mem_map, List.mem_range, forall_exists_index, and_imp,
      forall_apply_eq_imp_iff₂, passes_tempGuard]
  have hblocks : GuardPasses fs [[.freeBlocks blocks]] := by
    simp [GuardPasses, Test.Passes]
  unfold guards
  rw [guardPasses_append, guardPasses_append, guardPasses_append, henabled, hdest, htemps]
  simp only [hblocks, and_true, and_assoc]

theorem performs_mkdir (h : fs enabled = none ∨ fs enabled = some .directory) :
    shell.performs (.mkdir enabled) fs fs' ↔ fs' = makeEnabled fs := by
  show Makes fs enabled fs' ↔ _
  unfold Makes makeEnabled
  obtain hnone | hdir := h
  · rw [hnone, if_pos rfl]
  · rw [hdir, if_neg nofun]

theorem makeEnabled_of_ne {path : Path} (h : path ≠ enabled) : makeEnabled fs path = fs path := by
  unfold makeEnabled
  split
  · exact Function.update_of_ne h ..
  · rfl

theorem makeEnabled_enabled (h : fs enabled = none ∨ fs enabled = some .directory) :
    makeEnabled fs enabled = some .directory := by
  unfold makeEnabled
  obtain hnone | hdir := h
  · rw [if_pos hnone, Function.update_self]
  · rw [if_neg (by rw [hdir]; nofun), hdir]

/-- What a call brings to its script: managed payloads among the requests, staged exactly. -/
structure Brings (fs : Fs) (requests payloads : List Managed) : Prop where
  paths : ∀ entry ∈ payloads, IsManaged entry.1
  distinct : (payloads.map Prod.fst).Nodup
  among : payloads ⊆ requests
  staged : ∀ entry ∈ payloads.zipIdx, StagedAt fs entry.2 entry.1.2

theorem Brings.ready (h : Brings fs requests payloads)
    (hguard : GuardPasses fs (guards requests payloads blocks)) :
    Ready (makeEnabled fs) payloads 0 := by
  obtain ⟨henabled, hdest, -⟩ := guardPasses_guards.mp hguard
  refine ⟨h.paths, h.distinct, makeEnabled_enabled henabled, ?_, ?_⟩
  · intro entry he
    obtain ⟨mode, hmode⟩ := h.staged entry he
    refine ⟨mode, ?_⟩
    rw [makeEnabled_of_ne (by intro heq; cases heq), hmode]
  · intro entry he
    obtain ⟨i, hi⟩ := List.mem_iff_getElem?.mp (h.among he)
    have hclear := hdest (entry, i) (List.mem_zipIdx_iff_getElem?.mpr hi)
    rw [DestinationClear, if_pos (List.mem_map_of_mem he)] at hclear
    rw [makeEnabled_of_ne (enabled_ne_managed (h.paths entry he)).symm, hclear]

/-- Every state the script can leave. -/
theorem interrupted_installScript (hbrings : Brings fs requests payloads)
    (h : Interrupted shell (installScript requests payloads blocks) fs fs') :
    fs' = fs ∨ GuardPasses fs (guards requests payloads blocks) ∧
      ∃ done rest, payloads = done ++ rest ∧
        (fs' = installAll (makeEnabled fs) done ∨ ∃ entry rest' count mode, rest = entry :: rest' ∧
          makeEnabled fs (temp done.length) = none ∧
          fs' = copied (installAll (makeEnabled fs) done) done.length (entry.2.take count) mode) := by
  rw [installScript, List.append_assoc] at h
  simp only [List.cons_append, List.nil_append] at h
  obtain rfl | htear | ⟨_, rfl, h₁⟩ := interrupted_cons.mp h
  · exact .inl rfl
  · exact htear.elim
  obtain rfl | htear | ⟨_, rfl, h₂⟩ := interrupted_cons.mp h₁
  · exact .inl rfl
  · exact htear.elim
  obtain rfl | htear | ⟨_, ⟨hguard, rfl⟩, h₃⟩ := interrupted_cons.mp h₂
  · exact .inl rfl
  · exact htear.elim
  have hready := hbrings.ready hguard
  obtain rfl | htear | ⟨_, hmkdir, h₄⟩ := interrupted_cons.mp h₃
  · exact .inl rfl
  · exact htear.elim
  obtain rfl := (performs_mkdir (guardPasses_guards.mp hguard).1).mp hmkdir
  refine .inr ⟨hguard, ?_⟩
  obtain hpayloads | ⟨mid, hcomplete, h₅⟩ := interrupted_append.mp h₄
  · obtain ⟨done, rest, hsplit, hstate⟩ := interrupted_payloads hready hpayloads
    refine ⟨done, rest, hsplit, ?_⟩
    rw [Nat.zero_add] at hstate
    exact hstate
  · obtain ⟨-, rfl⟩ := (completes_payloads hready).mp hcomplete
    refine ⟨payloads, [], (List.append_nil _).symm, .inl ?_⟩
    obtain rfl | htear | ⟨_, rfl, h₆⟩ := interrupted_cons.mp h₅
    · rfl
    · exact htear.elim
    · exact interrupted_nil.mp h₆

/-- The script can run to its end exactly when its guards pass; every payload is then in place. -/
theorem completes_installScript (hbrings : Brings fs requests payloads) :
    Completes shell (installScript requests payloads blocks) fs fs' ↔
      GuardPasses fs (guards requests payloads blocks) ∧ fs' = installAll (makeEnabled fs) payloads := by
  rw [installScript, List.append_assoc]
  simp only [List.cons_append, List.nil_append]
  constructor
  · intro h
    obtain ⟨_, rfl, h₁⟩ := completes_cons.mp h
    obtain ⟨_, rfl, h₂⟩ := completes_cons.mp h₁
    obtain ⟨_, ⟨hguard, rfl⟩, h₃⟩ := completes_cons.mp h₂
    obtain ⟨_, hmkdir, h₄⟩ := completes_cons.mp h₃
    obtain rfl := (performs_mkdir (guardPasses_guards.mp hguard).1).mp hmkdir
    obtain ⟨_, hpayloads, h₅⟩ := completes_append.mp h₄
    obtain ⟨-, rfl⟩ := (completes_payloads (hbrings.ready hguard)).mp hpayloads
    obtain ⟨_, rfl, h₆⟩ := completes_cons.mp h₅
    exact ⟨hguard, completes_nil.mp h₆⟩
  · rintro ⟨hguard, rfl⟩
    obtain ⟨henabled, -, htemps⟩ := guardPasses_guards.mp hguard
    have hpayloads : Completes shell (payloads.zipIdx.flatMap payloadLines) (makeEnabled fs)
        (installAll (makeEnabled fs) payloads) := by
      refine (completes_payloads (hbrings.ready hguard)).mpr ⟨fun i hi => ?_, rfl⟩
      rw [Nat.zero_add, makeEnabled_of_ne (temp_ne_enabled i)]
      exact htemps i hi
    apply Completes.cons (show shell.performs .setE _ _ from rfl)
    apply Completes.cons (show shell.performs .umask _ _ from rfl)
    apply Completes.cons (show shell.performs (.guard _) _ _ from ⟨hguard, rfl⟩)
    apply Completes.cons ((performs_mkdir henabled).mpr rfl)
    apply completes_append.mpr
    exact ⟨_, hpayloads, .cons (show shell.performs .echoOk _ _ from rfl) (.nil _)⟩

/-- The script can be cut off while it copies any of its payloads. -/
theorem interrupted_installScript_torn {done rest : List Managed} {entry : Managed}
    (hbrings : Brings fs requests (done ++ entry :: rest))
    (hguard : GuardPasses fs (guards requests (done ++ entry :: rest) blocks)) (count mode : Nat) :
    Interrupted shell (installScript requests (done ++ entry :: rest) blocks) fs
      (copied (installAll (makeEnabled fs) done) done.length (entry.2.take count) mode) := by
  obtain ⟨henabled, -, htemps⟩ := guardPasses_guards.mp hguard
  have hpayloads := interrupted_payloads_torn (hbrings.ready hguard) (fun i hi => by
    rw [Nat.zero_add, makeEnabled_of_ne (temp_ne_enabled i)]
    exact htemps i hi) count mode
  rw [Nat.zero_add] at hpayloads
  rw [installScript, List.append_assoc]
  simp only [List.cons_append, List.nil_append]
  apply Interrupted.step (show shell.performs .setE _ _ from rfl)
  apply Interrupted.step (show shell.performs .umask _ _ from rfl)
  apply Interrupted.step (show shell.performs (.guard _) _ _ from ⟨hguard, rfl⟩)
  apply Interrupted.step ((performs_mkdir henabled).mpr rfl)
  exact interrupted_append.mpr (.inl hpayloads)

end Script

/-! ## Calls -/

/-- What persists: the files below the config directory. -/
abbrev Config : Type := List String → Option Node

def config (fs : Fs) : Config := fun relative => fs (.conf relative)

/-- The files a script starts from: the config directory and a fresh staging directory. -/
def staging (c : Config) (files : String → Option Node) : Fs
  | .conf relative => c relative
  | .staged name => files name

/-- The preflight's check of `enabled`. -/
def EnabledUsable (c : Config) : Prop := c ["enabled"] = none ∨ c ["enabled"] = some .directory

def managedText (relative : List String) : String := CONFIG ++ "/" ++ relativeText relative

/-- `_read_optional`, on a camera that answers truthfully. -/
def readOptional (c : Config) (relative : List String) : Except Exc (Option Bytes) :=
  match c relative with
  | none => .ok none
  | some (.file content mode) => do
    raiseIf (MAX_HOOK_BYTES < content.length)
      (.protocolError ("oversized managed hook: " ++ managedText relative))
    raiseIf (mode ≠ 0o755)
      (.protocolError ("unexpected hook permissions: " ++ managedText relative ++ "; expected 755"))
    .ok (some content)
  | some _ => .error (.protocolError ("refusing non-regular managed path: " ++ managedText relative))

/-- The payloads of a call: the requested files that are absent.  Other content is refused. -/
def missing (c : Config) : List Managed → Except Exc (List Managed)
  | [] => .ok []
  | entry :: rest => do
    let current ← readOptional c entry.1
    raiseIf (current ≠ none ∧ current ≠ some entry.2)
      (.protocolError ("unknown existing " ++ managedText entry.1 ++
        "; preserve and resolve it explicitly; no migration or overwrite"))
    let others ← missing c rest
    .ok (if current = none then entry :: others else others)

inductive Result where
  | returnedNone
  | returnedPlan
  | raised
  | unfinished
  deriving DecidableEq, Repr

/-- The payloads lie in the staging directory with their exact content, as read back there. -/
def Staged (payloads : List Managed) (files : String → Option Node) : Prop :=
  ∀ entry ∈ payloads.zipIdx, ∃ mode, files (toString entry.2) = some (.file entry.1.2 mode)

/-- One call of `install_startup`, from a config directory to what it leaves there.  Any check before
the script may refuse it and it may be cut off before or inside the script. -/
inductive Call (functionality : Functionality) (c : Config) : Result → Config → Prop where
  | refused : Call functionality c .raised c
  | stopped : Call functionality c .unfinished c
  | present (husable : EnabledUsable c) (hmissing : missing c (requested functionality) = .ok []) :
      Call functionality c .returnedNone c
  | cutOff {payloads : List Managed} {files : String → Option Node} {blocks : Nat} {fs' : Fs}
      {result : Result} (husable : EnabledUsable c)
      (hmissing : missing c (requested functionality) = .ok payloads) (hne : payloads ≠ [])
      (hstaged : Staged payloads files)
      (h : Interrupted shell (installScript (requested functionality) payloads blocks)
        (staging c files) fs')
      (hresult : result = .raised ∨ result = .unfinished) :
      Call functionality c result (config fs')
  | completed {payloads : List Managed} {files : String → Option Node} {blocks : Nat} {fs' : Fs}
      (husable : EnabledUsable c)
      (hmissing : missing c (requested functionality) = .ok payloads) (hne : payloads ≠ [])
      (hstaged : Staged payloads files)
      (h : Completes shell (installScript (requested functionality) payloads blocks)
        (staging c files) fs') :
      Call functionality c .returnedPlan (config fs')

/-- The config directories reached from `c₀` by calls of either feature. -/
inductive Reaches (c₀ : Config) : Config → Prop where
  | start : Reaches c₀ c₀
  | call {c c' : Config} {functionality : Functionality} {result : Result} (hreach : Reaches c₀ c)
      (h : Call functionality c result c') : Reaches c₀ c'

theorem readOptional_eq_ok {c : Config} {relative : List String} {current : Option Bytes} :
    readOptional c relative = .ok current ↔
      c relative = none ∧ current = none ∨ ∃ content, c relative = some (.file content 0o755) ∧
        content.length ≤ MAX_HOOK_BYTES ∧ current = some content := by
  unfold readOptional
  split
  next hnone =>
    simp [hnone, eq_comm]
  next content mode hfile =>
    simp only [bind_eq_ok, raiseIf_eq_ok, not_lt, not_not, hfile, reduceCtorEq, false_and, false_or,
      Option.some.injEq, Node.file.injEq, Except.ok.injEq]
    constructor
    · rintro ⟨_, hsize, _, hmode, rfl⟩
      exact ⟨content, ⟨rfl, hmode⟩, hsize, rfl⟩
    · rintro ⟨_, ⟨rfl, rfl⟩, hsize, rfl⟩
      exact ⟨(), hsize, (), rfl, rfl⟩
  next node hother hnode =>
    simp only [reduceCtorEq, false_iff, not_or, not_and, not_exists]
    refine ⟨fun h => absurd h ?_, fun content h => absurd h ?_⟩
    · rw [hnode]
      nofun
    · intro hfile
      rw [hnode] at hfile
      exact hother content 0o755 (Option.some.inj hfile)

theorem missing_eq_ok {c : Config} {requests payloads : List Managed} :
    missing c requests = .ok payloads ↔
      (∀ entry ∈ requests, c entry.1 = none ∨
        c entry.1 = some (exact entry) ∧ entry.2.length ≤ MAX_HOOK_BYTES) ∧
      payloads = requests.filter fun entry => (c entry.1).isNone := by
  induction requests generalizing payloads with
  | nil => simp [missing, eq_comm]
  | cons entry rest ih =>
    simp only [missing, bind_eq_ok, readOptional_eq_ok, raiseIf_eq_ok, ih, List.forall_mem_cons,
      List.filter_cons, Except.ok.injEq]
    constructor
    · rintro ⟨current, ⟨hnone, rfl⟩ | ⟨content, hfile, hsize, rfl⟩, _, hsame, others, ⟨hrest, rfl⟩, rfl⟩
      · refine ⟨⟨.inl hnone, hrest⟩, ?_⟩
        rw [hnone]
        rfl
      · obtain rfl : content = entry.2 := by simpa using hsame
        refine ⟨⟨.inr ⟨hfile, hsize⟩, hrest⟩, ?_⟩
        rw [hfile]
        rfl
    · rintro ⟨⟨hnone | ⟨hfile, hsize⟩, hrest⟩, rfl⟩
      · refine ⟨none, .inl ⟨hnone, rfl⟩, (), fun h => h.1 rfl, _, ⟨hrest, rfl⟩, ?_⟩
        rw [hnone]
        rfl
      · refine ⟨some entry.2, .inr ⟨entry.2, hfile, hsize, rfl⟩, (), fun h => h.2 rfl, _, ⟨hrest, rfl⟩, ?_⟩
        rw [hfile]
        rfl

end Cc2Camera.Startup
