import Cc2Camera.Startup.Script

/-!
# Installed — the states the install script can leave

One payload's lines leave the files as they were, a temporary file with a prefix of the content, or
the payload in place.  By induction over the payloads, the whole script leaves a first part of them in
place and at most one temporary file.
-/

open Crash

namespace Cc2Camera.Startup

def exact (entry : Managed) : Node := .file entry.2 0o755

/-- `entry` in place, with its exact content and mode. -/
def install (fs : Fs) (entry : Managed) : Fs :=
  Function.update fs (.conf entry.1) (some (exact entry))

def installAll (fs : Fs) (entries : List Managed) : Fs := entries.foldl install fs

def makeEnabled (fs : Fs) : Fs :=
  if fs enabled = none then Function.update fs enabled (some .directory) else fs

/-- Payload `i` is staged with its content. -/
def StagedAt (fs : Fs) (i : Nat) (content : Bytes) : Prop :=
  ∃ mode, fs (.staged (toString i)) = some (.file content mode)

/-! ## Paths -/

/-- The paths the tool manages: the runner, and hooks inside `enabled`. -/
def IsManaged (relative : List String) : Prop :=
  relative = systemSh ∨ ∃ name, relative = ["enabled", name]

theorem temp_name_ne {i : Nat} {name : String} (hname : name.toList.head? ≠ some '.') :
    temp i ≠ .conf [name] := by
  intro h
  obtain ⟨htext, -⟩ := List.cons.inj (Path.conf.inj h)
  apply hname
  rw [← htext, String.toList_append]
  rfl

theorem temp_ne_enabled (i : Nat) : temp i ≠ enabled := temp_name_ne (by decide)

theorem temp_ne_managed {relative : List String} (h : IsManaged relative) (i : Nat) :
    temp i ≠ .conf relative := by
  obtain rfl | ⟨name, rfl⟩ := h
  · exact temp_name_ne (by decide)
  · intro heq
    simp [temp] at heq

theorem enabled_ne_managed {relative : List String} (h : IsManaged relative) :
    enabled ≠ .conf relative := by
  obtain rfl | ⟨name, rfl⟩ := h
  · decide
  · intro heq
    cases heq

theorem parent_managed {relative : List String} {fs : Fs} (h : IsManaged relative)
    (hdir : fs enabled = some .directory) : parent fs (.conf relative) = some .directory := by
  obtain rfl | ⟨name, rfl⟩ := h
  · rfl
  · exact hdir

/-! ## One payload -/

section Payload

variable {entry : Managed} {i : Nat} {fs fs' : Fs} {content : Bytes}

theorem performs_tempGuard :
    shell.performs (.guard [tempGuard i]) fs fs' ↔ fs (temp i) = none ∧ fs' = fs := by
  show GuardPasses fs [tempGuard i] ∧ fs' = fs ↔ _
  apply and_congr_left
  intro _
  simp only [GuardPasses, tempGuard, List.mem_singleton, forall_eq, List.forall_mem_cons, Test.Passes]
  constructor
  · rintro ⟨hnone | hlink, hnotLink⟩
    · exact hnone
    · exact absurd hlink hnotLink
  · intro hnone
    rw [hnone]
    exact ⟨.inl rfl, nofun⟩

theorem performs_cp (hstaged : StagedAt fs i content) (hfree : fs (temp i) = none) :
    shell.performs (.cp (.staged (toString i)) (temp i)) fs fs' ↔
      ∃ mode, fs' = Function.update fs (temp i) (some (.file content mode)) := by
  obtain ⟨mode, hstaged⟩ := hstaged
  show Copies fs _ _ fs' ↔ _
  simp only [Copies, hstaged, Receives, hfree]

theorem tears_cp (hstaged : StagedAt fs i content) (hfree : fs (temp i) = none) :
    shell.tears (.cp (.staged (toString i)) (temp i)) fs fs' ↔
      ∃ count mode, fs' = Function.update fs (temp i) (some (.file (content.take count) mode)) := by
  obtain ⟨mode, hstaged⟩ := hstaged
  show CopiesPart fs _ _ fs' ↔ _
  simp only [CopiesPart, hstaged, Receives, hfree]

/-- The files while the temporary file holds the whole content. -/
def copied (fs : Fs) (i : Nat) (content : Bytes) (mode : Nat) : Fs :=
  Function.update fs (temp i) (some (.file content mode))

theorem copied_temp (mode : Nat) : copied fs i content mode (temp i) = some (.file content mode) :=
  Function.update_self ..

theorem copied_of_ne {path : Path} (mode : Nat) (h : path ≠ temp i) :
    copied fs i content mode path = fs path := Function.update_of_ne h ..

theorem copied_enabled {mode : Nat} : copied fs i content mode enabled = fs enabled :=
  copied_of_ne mode (temp_ne_enabled i).symm

theorem staged_ne_temp (name : String) (i : Nat) : Path.staged name ≠ temp i := by
  intro h
  cases h

theorem performs_chmod {mode : Nat} :
    shell.performs (.chmod (temp i)) (copied fs i content mode) fs' ↔
      fs' = copied fs i content 0o755 := by
  show SetsMode _ _ fs' ↔ _
  simp only [SetsMode, copied_temp]
  simp only [copied, Function.update_idem]

theorem performs_cmp {mode : Nat} (hstaged : StagedAt fs i content) :
    shell.performs (.cmp (.staged (toString i)) (temp i)) (copied fs i content mode) fs' ↔
      fs' = copied fs i content mode := by
  obtain ⟨mode', hstaged⟩ := hstaged
  have hsource : copied fs i content mode (.staged (toString i)) = some (.file content mode') := by
    rw [copied_of_ne mode (staged_ne_temp _ i), hstaged]
  show SameContent _ _ _ ∧ fs' = _ ↔ _
  simp only [SameContent, hsource, copied_temp, true_and]

/-- Renaming the complete temporary file puts the payload in place. -/
theorem moved_copied (hfree : fs (temp i) = none) (hne : temp i ≠ .conf entry.1) :
    moved (copied fs i entry.2 0o755) (temp i) (.conf entry.1) (exact entry) = install fs entry := by
  ext path : 1
  by_cases htemp : path = temp i
  · rw [htemp, moved, Function.update_self, install, Function.update_of_ne hne, hfree]
  · rw [moved, Function.update_of_ne htemp, install]
    by_cases hdest : path = .conf entry.1
    · rw [hdest, Function.update_self, Function.update_self]
    · rw [Function.update_of_ne hdest, Function.update_of_ne hdest, copied_of_ne _ htemp]

theorem performs_mv (hpath : IsManaged entry.1) (hdir : fs enabled = some .directory)
    (hfree : fs (temp i) = none) (hdest : fs (.conf entry.1) = none) :
    shell.performs (.mv (temp i) (.conf entry.1)) (copied fs i entry.2 0o755) fs' ↔
      fs' = install fs entry := by
  have hne := temp_ne_managed hpath i
  have htarget : copied fs i entry.2 0o755 (.conf entry.1) = none := by
    rw [copied_of_ne _ hne.symm, hdest]
  have hparent : parent (copied fs i entry.2 0o755) (.conf entry.1) = some .directory :=
    parent_managed hpath (copied_enabled.trans hdir)
  rw [← moved_copied hfree hne]
  show Renames _ _ _ fs' ↔ _
  simp only [Renames, hparent, copied_temp, htarget]
  rfl

/-- What the lines of one payload can leave behind. -/
theorem interrupted_payloadLines (hpath : IsManaged entry.1) (hdir : fs enabled = some .directory)
    (hstaged : StagedAt fs i entry.2) (hdest : fs (.conf entry.1) = none)
    (h : Interrupted shell (payloadLines (entry, i)) fs fs') :
    fs' = fs ∨ fs (temp i) = none ∧
      ((∃ count mode, fs' = copied fs i (entry.2.take count) mode) ∨ fs' = install fs entry) := by
  have hwhole : ∀ mode, ∃ count mode', copied fs i entry.2 mode =
      copied fs i (entry.2.take count) mode' :=
    fun mode => ⟨entry.2.length, mode, by rw [List.take_length]⟩
  obtain rfl | htear | ⟨_, hguard, h₁⟩ := interrupted_cons.mp h
  · exact .inl rfl
  · exact htear.elim
  obtain ⟨hfree, rfl⟩ := performs_tempGuard.mp hguard
  obtain rfl | htear | ⟨_, hcp, h₂⟩ := interrupted_cons.mp h₁
  · exact .inl rfl
  · exact .inr ⟨hfree, .inl ((tears_cp hstaged hfree).mp htear)⟩
  obtain ⟨mode, rfl⟩ := (performs_cp hstaged hfree).mp hcp
  refine .inr ⟨hfree, ?_⟩
  obtain rfl | htear | ⟨_, hchmod, h₃⟩ := interrupted_cons.mp h₂
  · exact .inl (hwhole mode)
  · exact htear.elim
  obtain rfl := performs_chmod.mp hchmod
  obtain rfl | htear | ⟨_, hcmp, h₄⟩ := interrupted_cons.mp h₃
  · exact .inl (hwhole _)
  · exact htear.elim
  obtain rfl := (performs_cmp hstaged).mp hcmp
  obtain rfl | htear | ⟨_, rfl, h₅⟩ := interrupted_cons.mp h₄
  · exact .inl (hwhole _)
  · exact htear.elim
  obtain rfl | htear | ⟨_, hmv, h₆⟩ := interrupted_cons.mp h₅
  · exact .inl (hwhole _)
  · exact htear.elim
  obtain rfl := (performs_mv hpath hdir hfree hdest).mp hmv
  obtain rfl | htear | ⟨_, rfl, h₇⟩ := interrupted_cons.mp h₆
  · exact .inr rfl
  · exact htear.elim
  exact .inr (interrupted_nil.mp h₇)

/-- The lines of one payload run to their end exactly when its temporary name is free. -/
theorem completes_payloadLines (hpath : IsManaged entry.1) (hdir : fs enabled = some .directory)
    (hstaged : StagedAt fs i entry.2) (hdest : fs (.conf entry.1) = none) :
    Completes shell (payloadLines (entry, i)) fs fs' ↔ fs (temp i) = none ∧ fs' = install fs entry := by
  unfold payloadLines
  constructor
  · intro h
    obtain ⟨_, hguard, h₁⟩ := completes_cons.mp h
    obtain ⟨hfree, rfl⟩ := performs_tempGuard.mp hguard
    obtain ⟨_, hcp, h₂⟩ := completes_cons.mp h₁
    obtain ⟨mode, rfl⟩ := (performs_cp hstaged hfree).mp hcp
    obtain ⟨_, hchmod, h₃⟩ := completes_cons.mp h₂
    obtain rfl := performs_chmod.mp hchmod
    obtain ⟨_, hcmp, h₄⟩ := completes_cons.mp h₃
    obtain rfl := (performs_cmp hstaged).mp hcmp
    obtain ⟨_, rfl, h₅⟩ := completes_cons.mp h₄
    obtain ⟨_, hmv, h₆⟩ := completes_cons.mp h₅
    obtain rfl := (performs_mv hpath hdir hfree hdest).mp hmv
    obtain ⟨_, rfl, h₇⟩ := completes_cons.mp h₆
    exact ⟨hfree, completes_nil.mp h₇⟩
  · rintro ⟨hfree, rfl⟩
    apply Completes.cons (performs_tempGuard.mpr ⟨hfree, rfl⟩)
    apply Completes.cons ((performs_cp hstaged hfree).mpr ⟨0, rfl⟩)
    apply Completes.cons (performs_chmod.mpr rfl)
    apply Completes.cons ((performs_cmp hstaged).mpr rfl)
    apply Completes.cons (show shell.performs .sync _ _ from rfl)
    apply Completes.cons ((performs_mv hpath hdir hfree hdest).mpr rfl)
    apply Completes.cons (show shell.performs .sync _ _ from rfl)
    exact .nil _

end Payload

/-! ## All payloads -/

section Payloads

variable {fs fs' : Fs}

theorem install_of_ne {entry : Managed} {path : Path} (h : path ≠ .conf entry.1) :
    install fs entry path = fs path := Function.update_of_ne h ..

theorem install_enabled {entry : Managed} (hpath : IsManaged entry.1) :
    install fs entry enabled = fs enabled := install_of_ne (enabled_ne_managed hpath)

theorem install_temp {entry : Managed} (hpath : IsManaged entry.1) (i : Nat) :
    install fs entry (temp i) = fs (temp i) := install_of_ne (temp_ne_managed hpath i)

/-- What the payloads from number `k` on need before their lines run. -/
structure Ready (fs : Fs) (payloads : List Managed) (k : Nat) : Prop where
  paths : ∀ entry ∈ payloads, IsManaged entry.1
  distinct : (payloads.map Prod.fst).Nodup
  directory : fs enabled = some .directory
  staged : ∀ entry ∈ payloads.zipIdx k, StagedAt fs entry.2 entry.1.2
  absent : ∀ entry ∈ payloads, fs (.conf entry.1) = none

theorem Ready.tail {entry : Managed} {rest : List Managed} {k : Nat}
    (h : Ready fs (entry :: rest) k) : Ready (install fs entry) rest (k + 1) := by
  have hpath := h.paths entry List.mem_cons_self
  obtain ⟨hnot, hdistinct⟩ := List.nodup_cons.mp h.distinct
  refine ⟨fun e he => h.paths e (List.mem_cons_of_mem _ he), hdistinct, ?_, ?_, ?_⟩
  · rw [install_enabled hpath]
    exact h.directory
  · intro e he
    obtain ⟨mode, hmode⟩ := h.staged e (List.mem_cons_of_mem _ he)
    refine ⟨mode, ?_⟩
    rw [install_of_ne (by intro heq; cases heq), hmode]
  · intro e he
    have hne : Path.conf e.1 ≠ .conf entry.1 := by
      intro heq
      exact hnot (Path.conf.inj heq ▸ List.mem_map_of_mem he)
    rw [install_of_ne hne]
    exact h.absent e (List.mem_cons_of_mem _ he)

/-- The lines of the payloads leave a first part of them in place and at most one temporary file. -/
theorem interrupted_payloads {payloads : List Managed} {k : Nat} (hready : Ready fs payloads k)
    (h : Interrupted shell ((payloads.zipIdx k).flatMap payloadLines) fs fs') :
    ∃ done rest, payloads = done ++ rest ∧
      (fs' = installAll fs done ∨ ∃ entry rest' count mode, rest = entry :: rest' ∧
        fs (temp (k + done.length)) = none ∧
        fs' = copied (installAll fs done) (k + done.length) (entry.2.take count) mode) := by
  induction payloads generalizing k fs with
  | nil => exact ⟨[], [], rfl, .inl (interrupted_nil.mp h)⟩
  | cons entry rest ih =>
    have hpath := hready.paths entry List.mem_cons_self
    have hstaged : StagedAt fs k entry.2 := hready.staged (entry, k) List.mem_cons_self
    have hdest := hready.absent entry List.mem_cons_self
    rw [List.zipIdx_cons, List.flatMap_cons] at h
    obtain hblock | ⟨mid, hcomplete, hrest⟩ := interrupted_append.mp h
    · obtain rfl | ⟨hfree, ⟨count, mode, rfl⟩ | rfl⟩ :=
        interrupted_payloadLines hpath hready.directory hstaged hdest hblock
      · exact ⟨[], entry :: rest, rfl, .inl rfl⟩
      · exact ⟨[], entry :: rest, rfl, .inr ⟨entry, rest, count, mode, rfl, hfree, rfl⟩⟩
      · exact ⟨[entry], rest, rfl, .inl rfl⟩
    · obtain ⟨-, rfl⟩ := (completes_payloadLines hpath hready.directory hstaged hdest).mp hcomplete
      obtain ⟨done, tail, hsplit, hstate⟩ := ih hready.tail hrest
      refine ⟨entry :: done, tail, congrArg (entry :: ·) hsplit, ?_⟩
      have hindex : k + 1 + done.length = k + (entry :: done).length := by
        rw [List.length_cons]
        omega
      obtain rfl | ⟨e, tail', count, mode, htail, hfree, rfl⟩ := hstate
      · exact .inl rfl
      · rw [install_temp hpath] at hfree
        rw [hindex] at hfree ⊢
        exact .inr ⟨e, tail', count, mode, htail, hfree, rfl⟩

/-- The lines of the payloads run to their end exactly when the temporary names are free. -/
theorem completes_payloads {payloads : List Managed} {k : Nat} (hready : Ready fs payloads k) :
    Completes shell ((payloads.zipIdx k).flatMap payloadLines) fs fs' ↔
      (∀ i < payloads.length, fs (temp (k + i)) = none) ∧ fs' = installAll fs payloads := by
  induction payloads generalizing k fs with
  | nil =>
    show Completes shell [] fs fs' ↔ _
    rw [completes_nil]
    simp [installAll]
  | cons entry rest ih =>
    have hpath := hready.paths entry List.mem_cons_self
    have hstaged : StagedAt fs k entry.2 := hready.staged (entry, k) List.mem_cons_self
    have hdest := hready.absent entry List.mem_cons_self
    have hmid : ∀ mid, Completes shell (payloadLines (entry, k)) fs mid ↔
        fs (temp k) = none ∧ mid = install fs entry :=
      fun mid => completes_payloadLines hpath hready.directory hstaged hdest
    rw [List.zipIdx_cons, List.flatMap_cons, completes_append]
    simp only [hmid, and_assoc, exists_and_left, exists_eq_left, ih hready.tail,
      install_temp hpath, List.length_cons, Nat.forall_lt_succ_left]
    simp only [Nat.add_zero, Nat.add_assoc, Nat.add_comm 1]
    rfl

theorem Ready.left {done rest : List Managed} {k : Nat} (h : Ready fs (done ++ rest) k) :
    Ready fs done k := by
  refine ⟨fun e he => h.paths e (List.mem_append_left rest he), ?_, h.directory, ?_,
    fun e he => h.absent e (List.mem_append_left rest he)⟩
  · have hdistinct := h.distinct
    rw [List.map_append] at hdistinct
    exact (List.nodup_append.mp hdistinct).1
  · intro e he
    apply h.staged
    rw [List.zipIdx_append]
    exact List.mem_append_left _ he

theorem Ready.right {done rest : List Managed} {k : Nat} (h : Ready fs (done ++ rest) k) :
    Ready (installAll fs done) rest (k + done.length) := by
  induction done generalizing fs k with
  | nil => exact h
  | cons entry done ih =>
    have hindex : k + (entry :: done).length = k + 1 + done.length := by
      rw [List.length_cons]
      omega
    rw [hindex]
    exact ih h.tail

theorem installAll_temp {done : List Managed} (hpaths : ∀ entry ∈ done, IsManaged entry.1) (i : Nat) :
    installAll fs done (temp i) = fs (temp i) := by
  induction done generalizing fs with
  | nil => rfl
  | cons entry done ih =>
    obtain ⟨hpath, hrest⟩ := List.forall_mem_cons.mp hpaths
    show installAll (install fs entry) done (temp i) = _
    rw [ih hrest, install_temp hpath]

theorem installAll_of_not_mem {done : List Managed} {relative : List String}
    (h : relative ∉ done.map Prod.fst) :
    installAll fs done (.conf relative) = fs (.conf relative) := by
  induction done generalizing fs with
  | nil => rfl
  | cons entry done ih =>
    rw [List.map_cons, List.mem_cons, not_or] at h
    show installAll (install fs entry) done (.conf relative) = _
    rw [ih h.2, install_of_ne]
    intro heq
    exact h.1 (Path.conf.inj heq)

theorem installAll_of_mem {done : List Managed} {entry : Managed} (hmem : entry ∈ done)
    (hdistinct : (done.map Prod.fst).Nodup) :
    installAll fs done (.conf entry.1) = some (exact entry) := by
  induction done generalizing fs with
  | nil => cases hmem
  | cons first done ih =>
    obtain ⟨hnot, hrest⟩ := List.nodup_cons.mp hdistinct
    cases hmem with
    | head =>
      show installAll (install fs entry) done (.conf entry.1) = _
      rw [installAll_of_not_mem hnot, install, Function.update_self]
    | tail _ hmem => exact ih hmem hrest

/-- Any payload's copy can be cut off at any length. -/
theorem interrupted_payloads_torn {done rest : List Managed} {entry : Managed} {k : Nat}
    (hready : Ready fs (done ++ entry :: rest) k)
    (hfree : ∀ i < (done ++ entry :: rest).length, fs (temp (k + i)) = none) (count mode : Nat) :
    Interrupted shell (((done ++ entry :: rest).zipIdx k).flatMap payloadLines) fs
      (copied (installAll fs done) (k + done.length) (entry.2.take count) mode) := by
  have hright := hready.right
  have hstaged : StagedAt (installAll fs done) (k + done.length) entry.2 :=
    hright.staged (entry, k + done.length) List.mem_cons_self
  have hlength : (done ++ entry :: rest).length = done.length + (rest.length + 1) := by simp
  have htemp : installAll fs done (temp (k + done.length)) = none := by
    rw [installAll_temp hready.left.paths]
    apply hfree
    omega
  have hdone : Completes shell ((done.zipIdx k).flatMap payloadLines) fs (installAll fs done) := by
    refine (completes_payloads hready.left).mpr ⟨fun i hi => hfree i ?_, rfl⟩
    omega
  rw [List.zipIdx_append, List.flatMap_append, List.zipIdx_cons, List.flatMap_cons]
  refine interrupted_append.mpr (.inr ⟨_, hdone, interrupted_append.mpr (.inl ?_)⟩)
  apply Interrupted.step (performs_tempGuard.mpr ⟨htemp, rfl⟩)
  exact .torn ((tears_cp hstaged htemp).mpr ⟨count, mode, rfl⟩)

end Payloads

end Cc2Camera.Startup
