import Cc2Camera.Backup.Agreement
import Cc2Camera.Startup.Answering
import Cc2Camera.Startup.Gates

/-!
# Gated — every operation of `install_startup` is permitted by what came before it
-/

open Bytes Exceptions Program

namespace Cc2Camera.Installer

open Host AdbBackup RestorePrepare Startup

/-! ## What the loops have seen -/

section Loops

variable {unicode : Unicode} {adb : AdbClient} {root stage : String} {entries : List (Managed × Nat)}
  {t : Trace}

theorem inspect_returned {payloads : List Managed}
    (h : Runs (inspect unicode adb root entries) t (.returned payloads)) :
    ∀ entry ∈ entries, ∃ localPath current,
      Ran (readOptional unicode adb (managedText entry.1.1) localPath) current t ∧
        (current = none ∨ current = some entry.1.2) := by
  induction entries generalizing t payloads with
  | nil => exact nofun
  | cons entry entries ih =>
    obtain ⟨t₁, current, t₂, hread, hrest, rfl⟩ := runs_bind.mp h
    obtain ⟨t₃, u, t₄, hguard, hrest', rfl⟩ := runs_bind.mp hrest
    obtain ⟨hpassed, rfl⟩ := runs_lift.mp hguard
    obtain ⟨t₅, others, t₆, hothers, hret, rfl⟩ := runs_bind.mp hrest'
    have hcurrent : current = none ∨ current = some entry.1.2 := by
      have hnot := raiseIf_eq_ok.mp hpassed
      by_cases hnone : current = none
      · exact .inl hnone
      · exact .inr (not_not.mp fun hne => hnot ⟨hnone, hne⟩)
    refine List.forall_mem_cons.mpr ⟨?_, fun later hlater => ?_⟩
    · exact ⟨_, current, (ran_of_runs hread).append_right _, hcurrent⟩
    · obtain ⟨localPath, found, hran, hfound⟩ := ih hothers later hlater
      exact ⟨localPath, found, ((hran.append_right _).append_left _).append_left _, hfound⟩

theorem pathsChecked_of_inspect {functionality : String} {payloads : List Managed}
    (h : Runs (inspect unicode adb root (requestsOf functionality).zipIdx) t (.returned payloads)) :
    PathsChecked unicode adb functionality t := by
  intro entry hentry
  obtain ⟨i, hi⟩ := List.mem_iff_getElem?.mp hentry
  exact inspect_returned h (entry, i) (List.mem_zipIdx_iff_getElem?.mpr hi)

theorem stagePayloads_returned (h : Runs (stagePayloads unicode adb root stage entries) t (.returned ())) :
    ∀ entry ∈ entries,
      Ran (pullBytes unicode adb (joinPath stage (toString entry.2)) (joinPath root "readback")) entry.1.2 t := by
  induction entries generalizing t with
  | nil => exact nofun
  | cons entry entries ih =>
    obtain ⟨t₁, u, t₂, hpush, h₁, rfl⟩ := runs_bind.mp h
    obtain ⟨t₃, back, t₄, hpull, h₂, rfl⟩ := runs_bind.mp h₁
    obtain ⟨t₅, u', t₆, hguard, h₃, rfl⟩ := runs_bind.mp h₂
    obtain ⟨hsame, rfl⟩ := runs_lift.mp hguard
    obtain rfl : back = entry.1.2 := not_not.mp (raiseIf_eq_ok.mp hsame)
    refine List.forall_mem_cons.mpr ⟨?_, fun later hlater => ?_⟩
    · exact ((ran_of_runs hpull).append_right _).append_left _
    · exact (((ih h₃ later hlater).append_left _).append_left _).append_left _

theorem verifyInstalled_returned (h : Runs (verifyInstalled unicode adb root entries) t (.returned ())) :
    ∀ entry ∈ entries,
      (∃ printed, Ran (checked unicode adb (finalModeScript (managedText entry.1.1)) 30) printed t) ∧
        ∃ localPath, Ran (pullBytes unicode adb (managedText entry.1.1) localPath) entry.1.2 t := by
  induction entries generalizing t with
  | nil => exact nofun
  | cons entry entries ih =>
    obtain ⟨t₁, printed, t₂, hmode, h₁, rfl⟩ := runs_bind.mp h
    obtain ⟨t₃, back, t₄, hpull, h₂, rfl⟩ := runs_bind.mp h₁
    obtain ⟨t₅, u, t₆, hguard, h₃, rfl⟩ := runs_bind.mp h₂
    obtain ⟨hsame, rfl⟩ := runs_lift.mp hguard
    obtain rfl : back = entry.1.2 := not_not.mp (raiseIf_eq_ok.mp hsame)
    refine List.forall_mem_cons.mpr ⟨⟨⟨printed, ?_⟩, ?_⟩, fun later hlater => ?_⟩
    · exact (ran_of_runs hmode).append_right _
    · exact ⟨_, ((ran_of_runs hpull).append_right _).append_left _⟩
    · obtain ⟨⟨printed', hmode'⟩, localPath, hpull'⟩ := ih h₃ later hlater
      exact ⟨⟨printed', ((hmode'.append_left _).append_left _).append_left _⟩, localPath,
        ((hpull'.append_left _).append_left _).append_left _⟩

end Loops

/-! ## The law -/

section Law

variable {hashlib : Hashlib} {unicode : Unicode} {pyText : PyText} {json : JsonCodec} {adb : AdbClient}
  {backup : Cc2Camera.Path} {file : FileView} {functionality : String} {progress : ReadProgress}

theorem PathsChecked.append {t : Trace} (h : PathsChecked unicode adb functionality t) (t' : Trace) :
    PathsChecked unicode adb functionality (t ++ t') := by
  intro entry hentry
  obtain ⟨localPath, current, hran, hcurrent⟩ := h entry hentry
  exact ⟨localPath, current, hran.append_right t', hcurrent⟩

theorem StageMade.append {stage : String} {t : Trace} (h : StageMade unicode adb stage t) (t' : Trace) :
    StageMade unicode adb stage (t ++ t') := by
  obtain ⟨name, hshape, hstage, hran⟩ := h
  exact ⟨name, hshape, hstage, hran.append_right t'⟩

theorem ReadBack.append {t : Trace} (h : ReadBack unicode adb functionality t) (t' : Trace) :
    ReadBack unicode adb functionality (t ++ t') := by
  obtain ⟨before, event, after, rfl, hwrites, hfiles⟩ := h
  refine ⟨before, event, after ++ t', by simp, hwrites, fun entry hentry => ?_⟩
  obtain ⟨⟨printed, hmode⟩, localPath, hpull⟩ := hfiles entry hentry
  exact ⟨⟨printed, hmode.append_right t'⟩, localPath, hpull.append_right t'⟩

theorem PathsChecked.prepend {t : Trace} (h : PathsChecked unicode adb functionality t) (t' : Trace) :
    PathsChecked unicode adb functionality (t' ++ t) := by
  intro entry hentry
  obtain ⟨localPath, current, hran, hcurrent⟩ := h entry hentry
  exact ⟨localPath, current, hran.append_left t', hcurrent⟩

theorem Evidence.Opens.paths {e : Evidence} {stage : String} {payloads : List Managed}
    (h : e.Opens hashlib unicode pyText json adb backup file functionality stage payloads) :
    PathsChecked unicode adb functionality e.opening :=
  ((h.checked.prepend _).append _).append _

theorem Evidence.Opens.stageMade {e : Evidence} {stage : String} {payloads : List Managed}
    (h : e.Opens hashlib unicode pyText json adb backup file functionality stage payloads) :
    StageMade unicode adb stage e.opening :=
  ⟨e.name, h.shape, h.stage, (ran_of_runs h.made).append_left _⟩

/-- No operation of the trace sends the writing script. -/
def Calm (adb : AdbClient) (requests : List Managed) (t : Trace) : Prop :=
  ∀ event ∈ t, ¬Writes adb requests event.op

theorem Calm.append {requests : List Managed} {t t' : Trace} (h : Calm adb requests t)
    (h' : Calm adb requests t') : Calm adb requests (t ++ t') :=
  List.forall_mem_append.mpr ⟨h, h'⟩

theorem calm_of_inspects {requests : List Managed} {t : Trace}
    (h : ∀ e ∈ t, Inspects adb requests e.op) : Calm adb requests t :=
  fun e he => not_writes_of_inspects (h e he)

theorem calm_of_stages {requests : List Managed} {stage : String} {t : Trace}
    (h : ∀ e ∈ t, Stages adb requests stage e.op) : Calm adb requests t :=
  fun e he => not_writes_of_stages (h e he)

/-- Permission, for the call at hand. -/
abbrev permitted (hashlib : Hashlib) (unicode : Unicode) (pyText : PyText) (json : JsonCodec) (adb : AdbClient)
    (backup : Cc2Camera.Path) (file : FileView) (functionality : String) : Trace → Op → Prop :=
  Permitted hashlib unicode pyText json adb backup file functionality

theorem permitted_inspects {h : Trace} (t : Trace) (op : Op)
    (hop : Inspects adb (requestsOf functionality) op) :
    permitted hashlib unicode pyText json adb backup file functionality (h ++ t) op := .inspect hop

theorem permitted_stages {h : Trace} {stage : String} (hpaths : PathsChecked unicode adb functionality h)
    (hstage : StageMade unicode adb stage h) (t : Trace) (op : Op)
    (hop : Stages adb (requestsOf functionality) stage op) :
    permitted hashlib unicode pyText json adb backup file functionality (h ++ t) op := by
  rcases hop with hinspects | hpushes
  · exact .inspect hinspects
  · exact .push (hpaths.append t) (hstage.append t) hpushes

-- what `checked` does with the answer to its only operation
theorem checked_once (unicode : Unicode) (adb : AdbClient) (script : String) (timeout : ℚ) : ∃ k,
    checked unicode adb script timeout = .act (shellOp adb (script ++ "\n") timeout) k ∧
      ∀ r, (k r).Uses (fun _ => False) fun _ => True := by
  refine ⟨_, rfl, fun r => ?_⟩
  refine uses_bind (uses_bind (uses_handle (uses_ofExcept fun _ _ => trivial) fun x _ => ?_)
    fun result => ?_) fun printed => only_lift _
  · exact only_ite trivial (only_ite trivial trivial)
  · exact only_bind (only_lift _) fun _ => only_pure _

theorem wp_installStaged {e : Evidence} {stage : String} {payloads : List Managed}
    (h : e.Opens hashlib unicode pyText json adb backup file functionality stage payloads)
    (hcalm : Calm adb (requestsOf functionality) e.opening) :
    (installStaged unicode adb e.root stage e.preflight.live (requestsOf functionality) payloads).wp
      (permitted hashlib unicode pyText json adb backup file functionality)
      (fun h' _ => ReadBack unicode adb functionality h') (fun _ _ => True) e.opening := by
  unfold installStaged
  refine wp_step (stages_stagePayloads _ _ _) (permitted_stages h.paths h.stageMade) ?_
  intro t₁ _ hstaged hok₁
  refine wp_step (inspects_of_reads reads_singleCamera) permitted_inspects ?_
  intro t₂ _ hsingle hok₂
  refine wp_step (inspects_checked .sync) permitted_inspects ?_
  intro t₃ flushed hflush hok₃
  refine wp_step (inspects_pullBytes _ _) permitted_inspects ?_
  intro t₄ now hconfig hok₄
  refine wp_ofExcept fun _ hnow => ?_
  obtain rfl : now = configPart e.preflight.live := not_not.mp (raiseIf_eq_ok.mp hnow)
  refine wp_step inspects_available permitted_inspects ?_
  intro t₅ free hfree hok₅
  refine wp_ofExcept fun plan hplan => ?_
  have hpaths := ((((h.paths.append t₁).append t₂).append t₃).append t₄).append t₅
  have hmade := ((((h.stageMade.append t₁).append t₂).append t₃).append t₄).append t₅
  refine wp_step (stages_stageExisting _ _ _ _) (permitted_stages hpaths hmade) ?_
  intro t₆ _ hexisting hok₆
  refine wp_step (inspects_checked (.guard _ _ _)) permitted_inspects ?_
  intro t₇ guarded hguard hok₇
  -- the evidence is complete
  let full : Evidence := { e with
    staging := t₁, camera := t₂, flush := t₃, config := t₄, space := t₅, existing := t₆, guards := t₇
    free := free, plan := plan }
  have hfull : full.Holds hashlib unicode pyText json adb backup file functionality stage payloads
      (guardBlocks plan) :=
    ⟨⟨h.preflight, h.inspected, h.checked, h.firstFree, h.firstPlan, h.made, h.shape, h.stage⟩,
      stagePayloads_returned hstaged, hsingle, ⟨flushed, hflush⟩, hconfig, hfree, hplan, rfl, hexisting,
      ⟨guarded, hguard⟩⟩
  have hfirst : Calm adb (requestsOf functionality) full.trace :=
    ((((((hcalm.append (calm_of_stages hok₁)).append (calm_of_inspects hok₂)).append
      (calm_of_inspects hok₃)).append (calm_of_inspects hok₄)).append (calm_of_inspects hok₅)).append
      (calm_of_stages hok₆)).append (calm_of_inspects hok₇)
  obtain ⟨k, hwrite, hk⟩ := checked_once unicode adb
    (scriptText stage (installScript (requestsOf functionality) payloads (guardBlocks plan))) 120
  rw [hwrite]
  refine wp_step_once hk (.write full hfull rfl hfirst) fun r _ _ => ?_
  refine wp_step (inspects_verifyInstalled _ _) permitted_inspects ?_
  intro t₈ _ hverified hok₈
  refine ⟨full.trace, ⟨_, r⟩, t₈, List.append_assoc _ _ _, ⟨stage, payloads, _, rfl⟩, ?_⟩
  intro entry hentry
  obtain ⟨i, hi⟩ := List.mem_iff_getElem?.mp hentry
  exact verifyInstalled_returned hverified (entry, i) (List.mem_zipIdx_iff_getElem?.mpr hi)

theorem makeStage_returned {name : Bytes} {t : Trace}
    (h : Runs (makeStage unicode adb) t (.returned name)) : IsStage name := by
  obtain ⟨t₁, stage, t₂, -, hrest, rfl⟩ := runs_bind.mp h
  obtain ⟨t₃, u, t₄, hguard, hret, rfl⟩ := runs_bind.mp hrest
  obtain ⟨hshape, rfl⟩ := runs_lift.mp hguard
  obtain ⟨rfl, rfl⟩ := runs_ret.mp hret
  exact not_not.mp (raiseIf_eq_ok.mp hshape)

/-- What a call leaves in its trace, by its result. -/
structure Finished (unicode : Unicode) (adb : AdbClient) (functionality : String) (t : Trace)
    (result : Option SpacePlan) : Prop where
  paths : PathsChecked unicode adb functionality t
  untouched : result = none → ∀ event ∈ t, Inspects adb (requestsOf functionality) event.op
  readBack : result ≠ none → ReadBack unicode adb functionality t

theorem wp_installInto {p : Preflight} {root : String}
    (hp : p.Holds hashlib unicode pyText json adb backup file)
    (hinspects : ∀ event ∈ p.trace ++ [⟨.makeTempDir "cc2-hooks-", .ok root⟩],
      Inspects adb (requestsOf functionality) event.op) :
    (installInto unicode adb root p.live (requestsOf functionality)).wp
      (permitted hashlib unicode pyText json adb backup file functionality)
      (Finished unicode adb functionality) (fun _ _ => True)
      (p.trace ++ [⟨.makeTempDir "cc2-hooks-", .ok root⟩]) := by
  unfold installInto
  refine wp_step (inspects_inspect _ _) permitted_inspects ?_
  intro t₁ payloads hinspect hok₁
  have hpaths : PathsChecked unicode adb functionality
      (p.trace ++ [⟨.makeTempDir "cc2-hooks-", .ok root⟩] ++ t₁) :=
    (pathsChecked_of_inspect hinspect).prepend _
  by_cases hempty : payloads = []
  · rw [if_pos hempty]
    exact ⟨hpaths, fun _ => List.forall_mem_append.mpr ⟨hinspects, hok₁⟩, fun hne => absurd rfl hne⟩
  · rw [if_neg hempty]
    refine wp_step inspects_available permitted_inspects ?_
    intro t₂ firstFree hfree hok₂
    refine wp_ofExcept fun firstPlan hplan => ?_
    have hmake : Only (· = makeStageOp adb) (makeStage unicode adb) :=
      only_bind (only_checked rfl) fun _ => only_bind (only_lift _) fun _ => only_pure _
    refine wp_step hmake (fun t op hop => hop ▸ .makeStage ((hpaths.append t₂).append t)) ?_
    intro t₃ name hmade hok₃
    let e : Evidence :=
      { preflight := p, root := root, name := name, firstFree := firstFree, firstPlan := firstPlan
        free := firstFree, plan := firstPlan, inspection := t₁, firstSpace := t₂, creation := t₃
        staging := [], camera := [], flush := [], config := [], space := [], existing := [], guards := [] }
    have he : e.Opens hashlib unicode pyText json adb backup file functionality
        (textString (name.map UInt8.toNat)) payloads :=
      ⟨hp, hinspect, pathsChecked_of_inspect hinspect, hfree, hplan, hmade, makeStage_returned hmade, rfl⟩
    have hcalm : Calm adb (requestsOf functionality) e.opening := by
      refine (((calm_of_inspects hinspects).append (calm_of_inspects hok₁)).append
        (calm_of_inspects hok₂)).append fun event hevent => ?_
      rw [hok₃ event hevent]
      exact not_writes_shell
    have hremove (h : Trace) (t : Trace) (hh : h = e.opening ++ t) :
        (removeStage unicode adb (textString (name.map UInt8.toNat))).wp
          (permitted hashlib unicode pyText json adb backup file functionality)
          (fun h' _ => ∃ t', h' = h ++ t') (fun _ _ => True) h := by
      have honly : Only (· = removeStageOp adb (textString (name.map UInt8.toNat)))
          (removeStage unicode adb (textString (name.map UInt8.toNat))) :=
        only_bind (only_run rfl) fun _ => only_pure _
      have hmade' : StageMade unicode adb (textString (name.map UInt8.toNat)) h := by
        rw [hh]
        exact he.stageMade.append t
      refine wp_mono (wp_of_uses honly fun t' op hop => hop ▸ .removeStage (hmade'.append t')) ?_
        fun _ _ _ => trivial
      rintro h' _ ⟨t', rfl, -⟩
      exact ⟨t', rfl⟩
    refine wp_bind.mpr (wp_ensuring.mpr (wp_mono (wp_runs (wp_installStaged he hcalm)) ?_ ?_))
    · rintro h plan ⟨hread, t, hh, -⟩
      refine wp_mono (hremove h t hh) ?_ fun _ _ _ => trivial
      rintro _ _ ⟨t', rfl⟩
      refine ⟨?_, nofun, fun _ => hread.append t'⟩
      rw [hh]
      exact (he.paths.append t).append t'
    · rintro h x ⟨-, t, hh, -⟩
      exact wp_mono (hremove h t hh) (fun _ _ _ => trivial) fun _ _ _ => trivial

theorem Finished.append {t : Trace} {result : Option SpacePlan} (h : Finished unicode adb functionality t result)
    {t' : Trace} (ht' : ∀ event ∈ t', Inspects adb (requestsOf functionality) event.op) :
    Finished unicode adb functionality (t ++ t') result := by
  refine ⟨h.paths.append t', fun hnone => ?_, fun hsome => (h.readBack hsome).append t'⟩
  exact List.forall_mem_append.mpr ⟨h.untouched hnone, ht'⟩

theorem wp_installStartup :
    (installStartup hashlib unicode pyText json adb backup file functionality progress).wp
      (permitted hashlib unicode pyText json adb backup file functionality)
      (Finished unicode adb functionality) (fun _ _ => True) [] := by
  unfold installStartup
  refine wp_ofExcept fun feature hfeature => ?_
  have hrequests : requested feature = requestsOf functionality := by
    rw [requestsOf, orRaise_eq_ok.mp hfeature]
    rfl
  refine wp_ofExcept fun preserved hloaded => wp_ofExcept fun _ hkernel => ?_
  refine wp_step (inspects_of_reads (reads_ensureAvailable _)) permitted_inspects ?_
  intro t₁ _ honline hok₁
  refine wp_step (inspects_of_reads reads_singleCamera) permitted_inspects ?_
  intro t₂ _ hsingle hok₂
  refine wp_step (inspects_of_reads (reads_acquireStable _ _)) permitted_inspects ?_
  rintro t₃ ⟨live, manifest⟩ hacquire hok₃
  obtain ⟨identification, reads, clock, rfl, hacquired⟩ := acquireStable_returned hacquire
  refine wp_ofExcept fun _ hlive => wp_ofExcept fun _ hreplacement => ?_
  refine wp_step (inspects_of_reads reads_identityAndPartitions) permitted_inspects ?_
  rintro t₄ ⟨identity, parts⟩ hparts hok₄
  refine wp_ofExcept fun _ herase => ?_
  refine wp_step (inspects_checked .mounts) permitted_inspects ?_
  intro t₅ printed hmounts hok₅
  let p : Preflight :=
    { preserved := preserved, live := live, manifest := manifest, identity := identity, parts := parts
      online := t₁, camera := t₂, identification := identification, reads := reads, clock := clock
      partitions := t₄, mounts := t₅ }
  have hunchanged := (validateReplacementAgainstBackup_eq_ok.mp hreplacement).2.2
  have hgeometry : ∀ part ∈ parts, part.eraseSize = ERASE := by
    intro part hpart
    by_contra hne
    exact raiseIf_eq_ok.mp herase ⟨part, hpart, hne⟩
  have hp : p.Holds hashlib unicode pyText json adb backup file :=
    ⟨hloaded, hkernel, honline, hsingle, hacquired,
      threeEqualReads_of_settled hacquired.valid hacquired.settled, hlive, hunchanged, hparts, hgeometry,
      ⟨printed, hmounts⟩⟩
  have hroot (root : String) : ∀ event ∈ p.trace ++ [⟨.makeTempDir "cc2-hooks-", .ok root⟩],
      Inspects adb (requestsOf functionality) event.op := by
    have hdirectory : ∀ event ∈ [(⟨.makeTempDir "cc2-hooks-", .ok root⟩ : Event Op Reply)],
        Inspects adb (requestsOf functionality) event.op := by
      intro event hevent
      rw [List.mem_singleton.mp hevent]
      exact .reads (.makeTempDir _)
    simp only [Preflight.trace, List.forall_mem_append] at hok₃ ⊢
    exact ⟨⟨⟨⟨⟨hok₁, hok₂⟩, hok₃⟩, hok₄⟩, hok₅⟩, hdirectory⟩
  rw [hrequests]
  refine wp_step_once (fun r => uses_ofExcept fun _ _ => trivial) (.inspect (.reads (.makeTempDir _))) ?_
  intro r root hrun
  obtain rfl : r = .ok root := by
    have := runs_call.mp hrun
    simpa using this
  have hcleanup (h : Trace) (Q : Trace → Prop)
      (hQ : ∀ t, (∀ event ∈ t, Inspects adb (requestsOf functionality) event.op) → Q (h ++ t)) :
      (call (.removeTempDir root)).wp
        (permitted hashlib unicode pyText json adb backup file functionality)
        (fun h' _ => Q h') (fun _ _ => True) h := by
    have honly : Only (Inspects adb (requestsOf functionality)) (call (.removeTempDir root)) :=
      only_call (.reads (.removeTempDir _))
    refine wp_mono (wp_of_uses honly permitted_inspects) ?_ fun _ _ _ => trivial
    rintro h' _ ⟨t, rfl, -, hok⟩
    exact hQ t hok
  have hinto := wp_installInto hp (hroot root)
  refine wp_ensuring.mpr (wp_mono hinto ?_ ?_)
  · intro h result houtcome
    exact hcleanup h _ fun t ht => houtcome.append ht
  · intro h x _
    exact hcleanup h (fun _ => True) fun _ _ => trivial

theorem Permitted.gates {before : Trace} {op : Op}
    (h : permitted hashlib unicode pyText json adb backup file functionality before op)
    (hwrites : Writes adb (requestsOf functionality) op) : Calm adb (requestsOf functionality) before := by
  cases h with
  | inspect h => exact absurd hwrites (not_writes_of_inspects h)
  | makeStage => exact absurd hwrites not_writes_shell
  | push _ _ h => exact absurd hwrites (not_writes_of_pushes h)
  | write e he hbefore hfirst => exact hfirst
  | removeStage => exact absurd hwrites not_writes_shell

/-- Every operation of a run is permitted by the events before it, the writing script is sent at most
once, and what a call returns says what it has done. -/
theorem installStartup_gated {t : Trace} {o : Outcome Exc (Option SpacePlan)}
    (h : Runs (installStartup hashlib unicode pyText json adb backup file functionality progress) t o) :
    (∀ before event after, t = before ++ event :: after →
        Permitted hashlib unicode pyText json adb backup file functionality before event.op) ∧
      (∀ before first middle second after, t = before ++ first :: (middle ++ second :: after) →
        ¬(Writes adb (requestsOf functionality) first.op ∧
          Writes adb (requestsOf functionality) second.op)) ∧
      ∀ result, o = .returned result → Finished unicode adb functionality t result := by
  obtain ⟨hpermitted, hreturned, -⟩ := wp_sound wp_installStartup h
  refine ⟨hpermitted, ?_, hreturned⟩
  rintro before first middle second after rfl ⟨hfirst, hsecond⟩
  have hcalm : Calm adb (requestsOf functionality) (before ++ first :: middle) :=
    (hpermitted (before ++ first :: middle) second after (by simp)).gates hsecond
  exact hcalm first (List.mem_append_right _ List.mem_cons_self) hfirst

end Law

/-! ## A stock camera with clean config blocks: one call installs, one finds everything in place -/

-- eight erase blocks with a clean marker each, behind an erased flash
def cleanBlock : Bytes := cleanMarker ++ List.replicate (ERASE - 12) 0xFF
def cleanConfig : Bytes := (List.replicate 8 cleanBlock).flatten
def cleanImage : Bytes := List.replicate 0x7E0000 0xFF ++ cleanConfig

def cleanPieces : List (MtdPartition × Bytes) :=
  EXPECTED_PARTITIONS.zipIdx.map fun (e, i) =>
    ({ index := i, size := e.2, eraseSize := 0x4000, name := text e.1 },
      if i = 5 then cleanConfig else List.replicate e.2 0xFF)

theorem length_cleanBlock : cleanBlock.length = ERASE := by
  have hmarker : cleanMarker.length = 12 := by decide +kernel
  rw [cleanBlock, List.length_append, List.length_replicate, hmarker]
  rfl

theorem length_cleanConfig : cleanConfig.length = 0x20000 := by
  rw [cleanConfig, List.length_flatten, List.map_replicate, length_cleanBlock]
  decide

theorem length_cleanImage : cleanImage.length = 0x800000 := by
  rw [cleanImage, List.length_append, List.length_replicate, length_cleanConfig]

theorem cleanPieces_image : cleanPieces.flatMap Prod.snd = cleanImage := by
  have hsum : 0x40000 + (0x150000 + (0x158000 + (0x4E8000 + 0x10000))) = 0x7E0000 := rfl
  simp only [cleanPieces, EXPECTED_PARTITIONS, List.zipIdx_cons, List.zipIdx_nil, List.map_cons, List.map_nil,
    List.flatMap_cons, List.flatMap_nil, List.append_nil, Nat.zero_add, Nat.reduceAdd, Nat.reduceEqDiff,
    if_false, if_true]
  rw [cleanImage, ← hsum]
  simp only [← List.replicate_append_replicate, List.append_assoc]

theorem length_cleanPieces : ∀ piece ∈ cleanPieces, piece.2.length = piece.1.size := by
  simp only [cleanPieces, EXPECTED_PARTITIONS, List.zipIdx_cons, List.zipIdx_nil, List.map_cons, List.map_nil,
    List.forall_mem_cons, Nat.zero_add, Nat.reduceAdd, Nat.reduceEqDiff, if_false, if_true,
    List.length_replicate, length_cleanConfig, true_and]
  exact fun _ h => absurd h List.not_mem_nil

theorem validatePreparationImage_of_length {image : Bytes} (h : image.length = 0x800000) :
    validatePreparationImage stockHashlib image = .ok () := by
  refine (validatePreparationImage_eq_ok _).mpr ⟨h, ?_⟩
  rw [stockHashlib_sha256, length_slice, h]
  rfl

theorem validatePreparationImage_stock : validatePreparationImage stockHashlib erasedImage = .ok () :=
  validatePreparationImage_of_length length_erasedImage

-- the two images differ in the config partition only
theorem validateReplacement_clean : validateReplacementAgainstBackup cleanImage erasedImage = .ok () := by
  refine validateReplacementAgainstBackup_eq_ok.mpr ⟨length_cleanImage, length_erasedImage, fun range hrange => ?_⟩
  have hbelow : ∀ range ∈ immutableRanges, range.2 ≤ 0x7E0000 := by decide
  have hstop := hbelow range hrange
  rw [cleanImage, slice_append_left _ _ (by rw [List.length_replicate]; exact hstop), erasedImage,
    slice_replicate _ _ hstop, slice_replicate _ _ (by omega)]

theorem configPart_clean : configPart cleanImage = cleanConfig :=
  List.drop_left' List.length_replicate

theorem isClean_clean {k : Nat} (hk : k < 8) : isClean cleanConfig (k * ERASE) = true := by
  have hsplit : cleanConfig = (List.replicate k cleanBlock).flatten ++
      (cleanBlock ++ (List.replicate (7 - k) cleanBlock).flatten) := by
    have hcount : k + (1 + (7 - k)) = 8 := by omega
    rw [cleanConfig, ← hcount, ← List.replicate_append_replicate, ← List.replicate_append_replicate,
      List.flatten_append, List.flatten_append, List.replicate_one, List.flatten_singleton]
  have hbefore : ((List.replicate k cleanBlock).flatten).length = k * ERASE := by
    rw [List.length_flatten, List.map_replicate, length_cleanBlock, List.sum_replicate_nat]
  have hmarker : cleanMarker.length = 12 := by decide +kernel
  have herase : ERASE = 0x4000 := rfl
  have hfirst : slice cleanConfig (k * ERASE) (k * ERASE + 12) = cleanMarker := by
    refine slice_of_append (c := List.replicate (ERASE - 12) 0xFF ++
      (List.replicate (7 - k) cleanBlock).flatten) ?_ hbefore (by rw [hmarker])
    rw [hsplit, cleanBlock, List.append_assoc]
  have hrest : slice cleanConfig (k * ERASE + 12) (k * ERASE + ERASE) = List.replicate (ERASE - 12) 0xFF := by
    refine slice_of_append (a := (List.replicate k cleanBlock).flatten ++ cleanMarker)
      (c := (List.replicate (7 - k) cleanBlock).flatten) ?_ (by rw [List.length_append, hbefore, hmarker])
      (by rw [List.length_replicate]; omega)
    rw [hsplit, cleanBlock]
    simp only [List.append_assoc]
  rw [isClean, hfirst, hrest]
  exact decide_eq_true ⟨rfl, rfl⟩

theorem cleanBlocks_clean : cleanBlocks cleanConfig = 8 := by
  have hcount : (cleanConfig.length + ERASE - 1) / ERASE = 8 := by
    rw [length_cleanConfig]
    rfl
  rw [cleanBlocks, hcount, List.countP_eq_length.mpr, List.length_range]
  exact fun k hk => isClean_clean (List.mem_range.mp hk)

theorem length_scriptText_nil : (StartupPayloads.scriptText []).length = 0 := rfl

theorem length_scriptText_cons {l : String} {lines : List String} {m n : Nat} (hl : l.length = m)
    (h : (StartupPayloads.scriptText lines).length = n) :
    (StartupPayloads.scriptText (l :: lines)).length = m + 1 + n := by
  rw [StartupPayloads.scriptText, length_ascii] at h ⊢
  have hline : (l ++ "\n").length = m + 1 := length_joined hl rfl
  rw [List.map_cons, String.join_cons, String.length_append, h, hline]

theorem length_ADB_HOOK : StartupPayloads.ADB_HOOK.length = 78 := by
  rw [StartupPayloads.ADB_HOOK]
  apply Eq.trans
  · repeat' with_reducible first
      | apply length_scriptText_cons
      | exact length_scriptText_nil
      | apply length_joined
    all_goals exact length_literal rfl
  · rfl

theorem length_RUNNER : StartupPayloads.RUNNER.length = 1458 := by
  rw [StartupPayloads.RUNNER]
  apply Eq.trans
  · repeat' with_reducible first
      | apply length_scriptText_cons
      | exact length_scriptText_nil
      | apply length_joined
    all_goals exact length_literal rfl
  · rfl

-- 16 free blocks are enough for the hook alone
theorem spacePlan_clean : spacePlan (configPart cleanImage) [featureHook .adb] 65536 =
    .ok { cleanBlocks := 8, writeBudget := 16384, filesystemAvailable := 65536 } := by
  have hbudget : writeBudget [featureHook .adb] = 16384 := by
    simp only [writeBudget, writeCost, featureHook, List.map_cons, List.map_nil, List.sum_cons, List.sum_nil,
      length_ADB_HOOK]
    rfl
  rw [configPart_clean, spacePlan, length_cleanConfig, cleanBlocks_clean, hbudget,
    raiseIf_of_not (by simp), ok_bind]
  dsimp only
  rw [raiseIf_of_not (by simp [ERASE, RESERVE_BLOCKS]), ok_bind]

/-- The runner is in place already; the hook is there or not. -/
def hookPresent (hook : Bool) (entry : Managed) : Bool := hook || entry.1 = systemSh

theorem canReturn_inspect_stock (hook : Bool) {root : String} :
    CanReturn (inspect utf8 plainAdb root (requested .adb).zipIdx)
      ((requested .adb).filter fun entry => !hookPresent hook entry) := by
  have hrunner : hookSize "/etc/conf.d/system.sh" (ascii "1458") = .ok StartupPayloads.RUNNER.length := by
    rw [length_RUNNER]
    decide +kernel
  have hhook : hookSize "/etc/conf.d/enabled/90-adb.sh" (ascii "78") = .ok StartupPayloads.ADB_HOOK.length := by
    rw [length_ADB_HOOK]
    decide +kernel
  have hnames : managedText (featureHook .adb).1 = "/etc/conf.d/enabled/90-adb.sh" ∧
      managedText runner.1 = "/etc/conf.d/system.sh" := by decide +kernel
  have hpresent : hookPresent hook runner = true ∧ hookPresent hook (featureHook .adb) = hook := by
    cases hook <;> exact ⟨rfl, rfl⟩
  have hread : ∀ localPath,
      CanReturn (readOptional utf8 plainAdb "/etc/conf.d/system.sh" localPath) (some StartupPayloads.RUNNER) :=
    fun _ => canReturn_readOptional_file (ascii "1458\nCC2_OK\n") (by decide +kernel) hrunner
  have hhookRead : ∀ localPath, CanReturn (readOptional utf8 plainAdb "/etc/conf.d/enabled/90-adb.sh" localPath)
      (if hook then some StartupPayloads.ADB_HOOK else none) := by
    intro localPath
    cases hook with
    | false => exact canReturn_readOptional_absent
    | true => exact canReturn_readOptional_file (ascii "78\nCC2_OK\n") (by decide +kernel) hhook
  refine canReturn_inspect (hookPresent hook) (requested .adb).zipIdx ?_
  simp only [requested, List.zipIdx_cons, List.zipIdx_nil, List.forall_mem_cons, hnames, hpresent, if_true]
  simp only [featureHook, runner]
  exact ⟨hhookRead, hread, fun _ h => absurd h List.not_mem_nil⟩

/-- Up to the temporary directory the camera answers every check. -/
theorem canReturn_installStartup {result : Option SpacePlan}
    (h : CanReturn (installInto utf8 plainAdb "cc2-hooks" cleanImage (requested .adb)) result) :
    CanReturn (installStartup stockHashlib utf8 plainText stockJson plainAdb barePath bareFile "adb"
      fun _ _ _ _ => []) result := by
  have hfeature : orRaise (functionalityOf "adb") (Exc.protocolError "unknown startup functionality") = .ok .adb := rfl
  have hkernel := validatePreparationImage_of_length length_cleanImage
  have hidentifies : Identifies utf8 plainText (ascii "device\n") (ascii "uid=0(root) gid=0(root)\n")
      (stockMtd.flatMap ascii) (cleanPieces.map Prod.fst) := stock_identifies
  obtain ⟨bootloader, hboot⟩ : ∃ bootloader, bootloaderReference stockHashlib cleanImage = .ok bootloader := by
    have hlength : ¬cleanImage.length ≠ FLASH_SIZE := not_not.mpr length_cleanImage
    rw [bootloaderReference, raiseIf_of_not hlength, ok_bind]
    exact ⟨_, rfl⟩
  have hgeometry : ¬∃ part ∈ cleanPieces.map Prod.fst, part.eraseSize ≠ ERASE := by decide +kernel
  refine canReturn_bind (canReturn_lift hfeature) (canReturn_bind (canReturn_lift loadPreservedBackup_stock) ?_)
  refine canReturn_bind (canReturn_lift validatePreparationImage_stock) ?_
  refine canReturn_bind (canReturn_ensureAvailable rfl hidentifies) (canReturn_bind canReturn_singleCamera ?_)
  refine canReturn_bind (canReturn_acquireStable "now" hidentifies length_cleanPieces cleanPieces_image
    length_cleanImage hboot) ?_
  refine canReturn_bind (canReturn_lift hkernel) (canReturn_bind (canReturn_lift validateReplacement_clean) ?_)
  refine canReturn_bind (canReturn_identityAndPartitions hidentifies) ?_
  refine canReturn_bind (canReturn_lift (raiseIf_of_not hgeometry)) (canReturn_bind canReturn_confirmed ?_)
  refine canReturn_bind (canReturn_call (.makeTempDir "cc2-hooks-") "cc2-hooks") ?_
  exact canReturn_ensuring h (canReturn_call (.removeTempDir "cc2-hooks") ())

theorem canReturn_install_plan :
    CanReturn (installInto utf8 plainAdb "cc2-hooks" cleanImage (requested .adb))
      (some { cleanBlocks := 8, writeBudget := 16384, filesystemAvailable := 65536 }) := by
  have hprinted : confirmed (ascii "16 4096\nCC2_OK\n") = .ok (ascii "16 4096") := by decide +kernel
  have hfree : availableOf (ascii "16 4096") = .ok 65536 := by decide +kernel
  have hstage : confirmed (ascii "/tmp/cc2-install.aB3xYz\nCC2_OK\n") = .ok (ascii "/tmp/cc2-install.aB3xYz") := by
    decide +kernel
  refine canReturn_bind (canReturn_inspect_stock false) ?_
  show CanReturn (if [featureHook .adb] = [] then _ else _) _
  rw [if_neg (List.cons_ne_nil _ _)]
  refine canReturn_bind (canReturn_available hprinted hfree) (canReturn_bind (canReturn_lift spacePlan_clean) ?_)
  refine canReturn_bind (canReturn_makeStage hstage (by decide +kernel)) ?_
  exact canReturn_bind (canReturn_ensuring (canReturn_installStaged hprinted hfree spacePlan_clean)
    canReturn_removeStage) (canReturn_ret _)

theorem canReturn_install_none :
    CanReturn (installInto utf8 plainAdb "cc2-hooks" cleanImage (requested .adb)) none := by
  refine canReturn_bind (canReturn_inspect_stock true) ?_
  show CanReturn (if [] = [] then _ else _) _
  rw [if_pos rfl]
  exact canReturn_ret none

/-- One run writes the hook and reads both files back; one finds both in place and sends nothing but
checks. -/
theorem installStartup_gated_stock :
    (∃ t plan, Runs (installStartup stockHashlib utf8 plainText stockJson plainAdb barePath bareFile "adb"
          fun _ _ _ _ => []) t (.returned (some plan)) ∧
        (∀ before event after, t = before ++ event :: after →
          Permitted stockHashlib utf8 plainText stockJson plainAdb barePath bareFile "adb" before event.op) ∧
        ReadBack utf8 plainAdb "adb" t) ∧
      ∃ t, Runs (installStartup stockHashlib utf8 plainText stockJson plainAdb barePath bareFile "adb"
          fun _ _ _ _ => []) t (.returned none) ∧
        (∀ before event after, t = before ++ event :: after →
          Permitted stockHashlib utf8 plainText stockJson plainAdb barePath bareFile "adb" before event.op) ∧
        ∀ event ∈ t, Inspects plainAdb (requestsOf "adb") event.op := by
  constructor
  · obtain ⟨t, ht⟩ := canReturn_installStartup canReturn_install_plan
    obtain ⟨hpermitted, -, hfinished⟩ := installStartup_gated ht
    exact ⟨t, _, ht, hpermitted, (hfinished _ rfl).readBack nofun⟩
  · obtain ⟨t, ht⟩ := canReturn_installStartup canReturn_install_none
    obtain ⟨hpermitted, -, hfinished⟩ := installStartup_gated ht
    exact ⟨t, ht, hpermitted, (hfinished _ rfl).untouched rfl⟩

end Cc2Camera.Installer
