import Cc2Camera.Startup.Boot

/-!
# Order — what every run of the boot runner does with the hooks
-/

open Program Shell World

namespace Cc2Camera.StartupPayloads

/-- A run from `s` that has executed hooks, or none, and has returned, exited or not ended. -/
structure RunnerLaw (s : BootState) (t : RunnerTrace) (o : Outcome Nat Nat) : Prop where
  refused : (∃ name ∈ s.enabled.names, isVisible name = true ∧ s.enabled.kind name ≠ .regular) → executed t = []
  order : (executed t).Sublist (visible s.enabled.names)
  increasing : (executed t).Pairwise (· < ·)
  staged : ∀ before stage name r after, t = before ++ ⟨.hook stage name, r⟩ :: after →
    ⟨.stage stage name, (0 : Nat)⟩ ∈ before
  held : ∀ before stage name r after, t = before ++ ⟨.hook stage name, r⟩ :: after → ¬Usable r.state.mounts →
    executed after = [] ∧ o = .running
  usable : ∀ status, o = .returned status → ∀ stage name r, ⟨.hook stage name, r⟩ ∈ t → Usable r.state.mounts
  complete : ∀ status, o = .returned status → ∀ name ∈ visible s.enabled.names,
    name ∈ executed t ∨ ∃ stage, ⟨.stagedIsFile stage name, false⟩ ∈ t
  stopped : ∀ x, o = .raised x → executed t = []

section Law

variable {s : BootState} {t : RunnerTrace} {o : Outcome Nat Nat} {budget : Nat}

theorem pairwise_lt_visible {names : List Name} (h : names.Nodup) : (visible names).Pairwise (· < ·) := by
  have hnodup : (visible names).Nodup := (Sorting.perm_sortByKey _ _).nodup_iff.mpr (h.filter _)
  have hsorted : (visible names).Pairwise (· ≤ ·) := Sorting.pairwise_sortByKey _ _
  exact (hsorted.and hnodup).imp fun h => Std.lt_of_le_of_ne h.1 h.2

theorem runnerLaw_of_quiet (hquiet : ∀ e ∈ t, isHook e.op = false) (ho : ∀ status, o ≠ .returned status) :
    RunnerLaw s t o := by
  have hnone : executed t = [] := executed_of_quiet hquiet
  have hno {before stage name r after} (ht : t = before ++ ⟨.hook stage name, r⟩ :: after) : False := by
    have hmem : (⟨.hook stage name, r⟩ : Event RunnerOp RunnerReply) ∈ t := by simp [ht]
    exact Bool.true_eq_false.mp (hquiet _ hmem)
  refine ⟨fun _ => hnone, ?_, ?_, ?_, ?_, fun status h => absurd h (ho status), fun status h => absurd h (ho status),
    fun _ _ => hnone⟩
  · rw [hnone]
    exact List.nil_sublist _
  · rw [hnone]
    exact .nil
  · intro before stage name r after ht
    exact (hno ht).elim
  · intro before stage name r after ht
    exact (hno ht).elim

/-- The boot runner, in every world its hooks make. -/
theorem runner_law (h : camera.RunsIn s (runner budget) t o) : RunnerLaw s t o := by
  rcases runsIn_bind h with ⟨t₁, stage, t₂, rfl, hstaging, hworker⟩ | ⟨x, hraised, rfl⟩ | ⟨hrunning, rfl⟩
  · have hquiet : ∀ e ∈ t₁, isHook e.op = false := hstaging.uses quiet_staging
    obtain ⟨hregular, hcopies⟩ := staging_returned hstaging
    have hall := (dispatched_of_ramWorker hworker).precede hquiet
    rw [hcopies] at hall
    refine ⟨?_, hall.order, (pairwise_lt_visible s.enabled.nodup).sublist hall.order, ?_, hall.held, ?_, hall.complete,
      fun x hx => absurd hx (hall.goesOn x)⟩
    · rintro ⟨name, hname, hvisible, hkind⟩
      exact absurd (hregular name (mem_visible.mpr ⟨hname, hvisible⟩)).1 hkind
    · intro before stage' name r after ht
      obtain ⟨c, rfl, ht₂⟩ := split_of_quiet_left hquiet ht
      have hmem : (⟨.hook stage' name, r⟩ : Event RunnerOp RunnerReply) ∈ t₂ := by simp [ht₂]
      obtain rfl : stage' = stage := stage_of_ramWorker hworker _ hmem stage' name rfl
      have hexecuted : name ∈ executed (t₁ ++ t₂) := by simp [ht, executed, executedOf]
      exact List.mem_append_left _ (hregular name (hall.order.subset hexecuted)).2
    · rintro status rfl stage' name r hmem
      by_contra hnot
      obtain ⟨before, after, ht⟩ := List.append_of_mem hmem
      cases (hall.held before stage' name r after ht hnot).2
  · exact runnerLaw_of_quiet (hraised.uses quiet_staging) fun status hstatus => by cases hstatus
  · exact runnerLaw_of_quiet (hrunning.uses quiet_staging) fun status hstatus => by cases hstatus

end Law

/-! ## A boot with two hooks -/

section TwoHooks

def tenAdb : Name := ascii "10-adb"

def twentyErase : Name := ascii "20-erase"

/-- The directory lists the later hook first. -/
def twoHooks : Directory := (Directory.empty.insert tenAdb).insert twentyErase

def stockMounts : List Mount :=
  [⟨"tmpfs", "/tmp", "tmpfs", "rw,relatime"⟩, ⟨"/dev/mtdblock5", "/etc/conf.d", "jffs2", "rw,relatime"⟩]

-- what the first hook leaves
def debugMounts : List Mount := stockMounts ++ [⟨"none", "/sys/kernel/debug", "debugfs", "rw,relatime"⟩]

def bootedWith (d : Directory) : BootState := ⟨d, .empty, stockMounts⟩

def stageDirectory : String := "/tmp/cc2-hooks.a1B2c3"

/-- The first loop on a regular file. -/
def stagedHook (name : Name) : RunnerTrace :=
  [⟨.present name, true⟩, ⟨.isFile name, true⟩, ⟨.isLink name, false⟩, ⟨.stage stageDirectory name, (0 : Nat)⟩]

/-- The second loop on a hook that leaves the config mount as it has to be. -/
def executedHook (name : Name) (result : HookResult) : RunnerTrace :=
  [⟨.stagedIsFile stageDirectory name, true⟩, ⟨.command ["echo", "cc2flash: running " ++ textOfName name], (0 : Nat)⟩,
    ⟨.hook stageDirectory name, result⟩,
    ⟨.command ["echo", "cc2flash: " ++ textOfName name ++ " exit " ++ toString result.status], (0 : Nat)⟩,
    ⟨.readMounts, some result.state.mounts⟩]

/-- The first hook mounts something, the second fails. -/
def twoHookTrace (d : Directory) : RunnerTrace :=
  [⟨.readMounts, some stockMounts⟩, ⟨.command ["umask", "077"], (0 : Nat)⟩, ⟨.makeStage, some stageDirectory⟩,
    ⟨.makeEnabled stageDirectory, (0 : Nat)⟩,
    ⟨.command ["cp", "/etc/conf.d/system.sh", stageDirectory ++ "/runner"], (0 : Nat)⟩, ⟨.entries, d.names⟩] ++
  stagedHook tenAdb ++ stagedHook twentyErase ++
  [⟨.command ["cd", "/"], (0 : Nat)⟩, ⟨.exec stageDirectory, true⟩, ⟨.stagedEntries stageDirectory, twoHooks.names⟩] ++
  executedHook tenAdb ⟨0, ⟨d, twoHooks, debugMounts⟩⟩ ++ executedHook twentyErase ⟨1, ⟨d, twoHooks, debugMounts⟩⟩ ++
  [⟨.command ["rm", "-rf", stageDirectory], (0 : Nat)⟩]

theorem runsIn_twoHooks {d : Directory} (hten : d.kind tenAdb = .regular) (htwenty : d.kind twentyErase = .regular)
    (hexpand : expand d.names = [tenAdb, twentyErase]) :
    camera.RunsIn (bootedWith d) (runner 0) (twoHookTrace d) (.returned 0) := by
  have hstaged : expand twoHooks.names = [tenAdb, twentyErase] := by decide
  refine .act (.inr rfl) (.act trivial (.act trivial (.act trivial (.act trivial (.act (.refl _) ?_)))))
  simp only [Program.bind, hexpand]
  -- the first loop
  refine .act (congrArg FileKind.present hten).symm (.act (congrArg FileKind.isFile hten).symm ?_)
  refine .act (congrArg FileKind.isLink hten).symm (.act trivial ?_)
  refine .act (congrArg FileKind.present htwenty).symm (.act (congrArg FileKind.isFile htwenty).symm ?_)
  refine .act (congrArg FileKind.isLink htwenty).symm (.act trivial (.act trivial (.act trivial ?_)))
  refine .act (.refl _) ?_
  simp only [Program.bind, hstaged]
  -- the second
  refine .act rfl (.act trivial (.act trivial (.act trivial (.act (.inr rfl) ?_))))
  refine .act rfl (.act trivial (.act trivial (.act trivial (.act (.inr rfl) (.act trivial ?_)))))
  exact ⟨.ret 0, trivial⟩

theorem runner_law_twoHooks :
    camera.RunsIn (bootedWith twoHooks) (runner 0) (twoHookTrace twoHooks) (.returned 0) ∧
      executed (twoHookTrace twoHooks) = [tenAdb, twentyErase] ∧
      RunnerLaw (bootedWith twoHooks) (twoHookTrace twoHooks) (.returned 0) := by
  have hrun := runsIn_twoHooks (d := twoHooks) (by decide) (by decide) (by decide)
  exact ⟨hrun, rfl, runner_law hrun⟩

def dotDirectory : Name := ascii ".d"

/-- A directory `.d` beside the hooks. -/
def hiddenDirectory : Directory where
  names := dotDirectory :: twoHooks.names
  kind := Function.update twoHooks.kind dotDirectory .other
  nodup := List.nodup_cons.mpr ⟨by decide, twoHooks.nodup⟩
  listed name := by
    by_cases hdot : name = dotDirectory
    · simp [hdot]
    · rw [Function.update_of_ne hdot, ← twoHooks.listed, List.mem_cons, or_iff_right hdot]

/-- The pattern `*` passes over a hidden entry, whatever it is. -/
theorem runner_executes_beside_hidden :
    ∃ t o, camera.RunsIn (bootedWith hiddenDirectory) (runner 0) t o ∧
      (∃ name ∈ hiddenDirectory.names, hiddenDirectory.kind name ≠ .regular) ∧ executed t ≠ [] := by
  refine ⟨twoHookTrace hiddenDirectory, .returned 0, runsIn_twoHooks (by decide) (by decide) (by decide), ?_, by decide⟩
  exact ⟨dotDirectory, List.mem_cons_self, by decide⟩

end TwoHooks

end Cc2Camera.StartupPayloads
