import Cc2Camera.Startup.Calls

/-!
# CrashSafe — what interrupted installations keep
-/

open Crash

namespace Cc2Camera.Startup

def managedFiles : List Managed := [runner, featureHook .eraseFix, featureHook .adb]

/-- Each managed path is absent or holds its exact content with mode 755. -/
def Sound (c : Config) : Prop :=
  ∀ entry ∈ managedFiles, c entry.1 = none ∨ c entry.1 = some (exact entry)

/-- What a call may do to one path: put an installed payload there, or create `enabled` or one of its two
temporary names where nothing was. -/
def Touched (c c' : Config) (done : List Managed) (relative : List String) : Prop :=
  (∃ entry ∈ done, entry.1 = relative) ∨ c' relative = c relative ∨
    c relative = none ∧ (.conf relative = enabled ∨ ∃ i < 2, .conf relative = temp i)

section Requests

theorem isManaged_of_mem {entry : Managed} (h : entry ∈ managedFiles) : IsManaged entry.1 := by
  simp only [managedFiles, List.mem_cons, List.not_mem_nil, or_false] at h
  obtain rfl | rfl | rfl := h
  · exact .inl rfl
  · exact .inr ⟨_, rfl⟩
  · exact .inr ⟨_, rfl⟩

theorem managed_unique {entry entry' : Managed} (h : entry ∈ managedFiles) (h' : entry' ∈ managedFiles)
    (hpath : entry.1 = entry'.1) : entry = entry' := by
  simp only [managedFiles, List.mem_cons, List.not_mem_nil, or_false] at h h'
  obtain rfl | rfl | rfl := h <;> obtain rfl | rfl | rfl := h'
  all_goals first | rfl | exact absurd hpath (by decide)

theorem requested_subset (functionality : Functionality) : requested functionality ⊆ managedFiles := by
  intro entry h
  simp only [requested, List.mem_cons, List.not_mem_nil, or_false] at h
  cases functionality
  all_goals
    obtain rfl | rfl := h
    all_goals simp [managedFiles]

theorem requested_distinct (functionality : Functionality) :
    ((requested functionality).map Prod.fst).Nodup := by
  cases functionality
  all_goals decide

end Requests

section Call

variable {functionality : Functionality} {c c' : Config} {result : Result}

theorem brings_missing {payloads : List Managed} {files : String → Option Node}
    (hmissing : missing c (requested functionality) = .ok payloads) (hstaged : Staged payloads files) :
    Brings (staging c files) (requested functionality) payloads := by
  obtain ⟨-, rfl⟩ := missing_eq_ok.mp hmissing
  have hsub : (requested functionality).filter (fun entry => (c entry.1).isNone) ⊆
      requested functionality := List.filter_sublist.subset
  refine ⟨fun entry he => isManaged_of_mem (requested_subset _ (hsub he)), ?_, hsub, hstaged⟩
  exact (requested_distinct functionality).sublist (List.filter_sublist.map Prod.fst)

/-- The paths a state left by the script differs in. -/
theorem touched_installAll (files : String → Option Node) (done : List Managed)
    (relative : List String) :
    Touched c (config (installAll (makeEnabled (staging c files)) done)) done relative := by
  by_cases hmem : relative ∈ done.map Prod.fst
  · exact .inl (List.mem_map.mp hmem)
  · refine .inr ?_
    show installAll _ done (.conf relative) = _ ∨ _
    rw [installAll_of_not_mem hmem]
    by_cases henabled : Path.conf relative = enabled
    · cases hnode : c relative with
      | none => exact .inr ⟨rfl, .inl henabled⟩
      | some node =>
        refine .inl ?_
        have hpresent : staging c files enabled ≠ none := by
          rw [← henabled]
          show c relative ≠ none
          rw [hnode]
          nofun
        rw [makeEnabled, if_neg hpresent]
        exact hnode
    · exact .inl (makeEnabled_of_ne henabled)

/-- What a call leaves: a first part of its payloads installed, and nothing else that was there touched. -/
structure LeftBy (functionality : Functionality) (c c' : Config) (done rest : List Managed) : Prop where
  payloads : (requested functionality).filter (fun entry => (c entry.1).isNone) = done ++ rest
  installed : ∀ entry ∈ done, c' entry.1 = some (exact entry)
  touched : ∀ relative, Touched c c' done relative

theorem leftBy_refl (functionality : Functionality) (c : Config) :
    LeftBy functionality c c [] ((requested functionality).filter fun entry => (c entry.1).isNone) :=
  ⟨rfl, nofun, fun _ => .inr (.inl rfl)⟩

theorem call_leftBy (h : Call functionality c result c') :
    ∃ done rest, LeftBy functionality c c' done rest := by
  cases h with
  | refused => exact ⟨[], _, leftBy_refl _ c⟩
  | stopped => exact ⟨[], _, leftBy_refl _ c⟩
  | present => exact ⟨[], _, leftBy_refl _ c⟩
  | @cutOff payloads files blocks fs' result husable hmissing hne hstaged h hresult =>
    have hbrings := brings_missing hmissing hstaged
    have hpayloads := (missing_eq_ok.mp hmissing).2
    obtain rfl | ⟨hguard, done, rest, hsplit, hstate⟩ := interrupted_installScript hbrings h
    · exact ⟨[], _, leftBy_refl _ c⟩
    have hdistinct : (done.map Prod.fst).Nodup := by
      have h := hbrings.distinct
      rw [hsplit, List.map_append] at h
      exact (List.nodup_append.mp h).1
    have hpaths : ∀ entry ∈ done, IsManaged entry.1 :=
      fun entry he => hbrings.paths entry (hsplit ▸ List.mem_append_left rest he)
    obtain rfl | ⟨entry, rest', count, mode, rfl, hfree, rfl⟩ := hstate
    · exact ⟨done, rest, hpayloads ▸ hsplit, fun entry he => installAll_of_mem he hdistinct,
        touched_installAll files done⟩
    · have hcount : done.length < 2 := by
        have hlength : payloads.length ≤ 2 := by
          rw [hpayloads]
          exact List.length_filter_le _ _
        rw [hsplit, List.length_append, List.length_cons] at hlength
        omega
      refine ⟨done, entry :: rest', hpayloads ▸ hsplit, fun entry he => ?_, fun relative => ?_⟩
      · show copied _ _ _ _ (.conf entry.1) = _
        rw [copied_of_ne _ (temp_ne_managed (hpaths entry he) _).symm]
        exact installAll_of_mem he hdistinct
      · by_cases htemp : Path.conf relative = temp done.length
        · refine .inr (.inr ⟨?_, .inr ⟨_, hcount, htemp⟩⟩)
          rw [makeEnabled_of_ne (temp_ne_enabled _), ← htemp] at hfree
          exact hfree
        · have hsame := touched_installAll (c := c) files done relative
          unfold Touched config at hsame ⊢
          rw [copied_of_ne _ htemp]
          exact hsame
  | @completed payloads files blocks fs' husable hmissing hne hstaged h =>
    have hbrings := brings_missing hmissing hstaged
    obtain ⟨hguard, rfl⟩ := (completes_installScript hbrings).mp h
    refine ⟨payloads, [], ?_, fun entry he => installAll_of_mem he hbrings.distinct,
      touched_installAll files payloads⟩
    rw [List.append_nil, (missing_eq_ok.mp hmissing).2]

section Left

variable {done rest : List Managed}

theorem LeftBy.of_mem (h : LeftBy functionality c c' done rest) {entry : Managed} (he : entry ∈ done) :
    entry ∈ managedFiles ∧ c entry.1 = none := by
  have hmem := List.mem_append_left rest he
  rw [← h.payloads, List.mem_filter] at hmem
  exact ⟨requested_subset _ hmem.1, Option.isNone_iff_eq_none.mp hmem.2⟩

theorem LeftBy.kept (h : LeftBy functionality c c' done rest) {relative : List String} {node : Node}
    (hnode : c relative = some node) : c' relative = some node := by
  have hpresent : c relative ≠ none := by
    rw [hnode]
    nofun
  obtain ⟨entry, he, rfl⟩ | hsame | ⟨hnone, -⟩ := h.touched relative
  · exact absurd (h.of_mem he).2 hpresent
  · rw [hsame, hnode]
  · exact absurd hnone hpresent

theorem LeftBy.sound (h : LeftBy functionality c c' done rest) (hsound : Sound c) : Sound c' := by
  intro entry he
  have hpath := isManaged_of_mem he
  obtain ⟨entry', he', hsame⟩ | hsame | ⟨-, henabled | ⟨i, -, htemp⟩⟩ := h.touched entry.1
  · obtain rfl := managed_unique (h.of_mem he').1 he hsame
    exact .inr (h.installed entry' he')
  · rw [hsame]
    exact hsound entry he
  · exact absurd henabled.symm (enabled_ne_managed hpath)
  · exact absurd htemp.symm (temp_ne_managed hpath i)

/-- The hook stands before the runner among the payloads, so it is in place once the runner is. -/
theorem LeftBy.runnerLast (h : LeftBy functionality c c' done rest) (hsound : Sound c)
    (habsent : c systemSh = none) (hpresent : c' systemSh ≠ none) :
    c' (featureHook functionality).1 = some (exact (featureHook functionality)) := by
  have hhook : featureHook functionality ∈ managedFiles :=
    requested_subset functionality List.mem_cons_self
  obtain hnone | hexact := hsound _ hhook
  · apply h.installed
    obtain ⟨entry, he, -⟩ | hsame | ⟨-, henabled | ⟨i, -, htemp⟩⟩ := h.touched systemSh
    · have hsplit := h.payloads
      rw [requested, List.filter_cons_of_pos (by rw [hnone]; rfl)] at hsplit
      cases done with
      | nil => cases he
      | cons first done =>
        obtain ⟨rfl, -⟩ := List.cons.inj hsplit
        exact List.mem_cons_self
    · exact absurd (hsame.trans habsent) hpresent
    · exact absurd henabled (by decide)
    · exact absurd htemp.symm (temp_ne_managed (.inl rfl) i)
  · exact h.kept hexact

end Left

/-- What a call keeps, wherever it was cut off. -/
structure CrashSafe (functionality : Functionality) (c c' : Config) : Prop where
  managed : Sound c'
  kept : ∀ relative node, c relative = some node → c' relative = some node
  /-- Whatever is new inside `enabled` is a complete managed file. -/
  complete : ∀ name rest, c' ("enabled" :: name :: rest) = c ("enabled" :: name :: rest) ∨
    ∃ entry ∈ managedFiles, entry.1 = "enabled" :: name :: rest ∧ c' entry.1 = some (exact entry)
  runnerLast : c systemSh = none → c' systemSh ≠ none →
    c' (featureHook functionality).1 = some (exact (featureHook functionality))

theorem call_crashSafe (hsound : Sound c) (h : Call functionality c result c') :
    CrashSafe functionality c c' := by
  obtain ⟨done, rest, hleft⟩ := call_leftBy h
  refine ⟨hleft.sound hsound, fun relative node => hleft.kept, ?_, hleft.runnerLast hsound⟩
  intro name rest'
  obtain ⟨entry, he, hpath⟩ | hsame | ⟨-, henabled | ⟨i, -, htemp⟩⟩ :=
    hleft.touched ("enabled" :: name :: rest')
  · exact .inr ⟨entry, (hleft.of_mem he).1, hpath, hleft.installed entry he⟩
  · exact .inl hsame
  · simp [enabled] at henabled
  · simp [temp] at htemp

theorem reaches_sound {c₀ : Config} (hsound : Sound c₀) (h : Reaches c₀ c) : Sound c := by
  induction h with
  | start => exact hsound
  | call _ hcall ih => exact (call_crashSafe ih hcall).managed

/-- What a whole history of calls keeps. -/
structure Preserved (c₀ c : Config) : Prop where
  managed : Sound c
  kept : ∀ relative node, c₀ relative = some node → c relative = some node
  complete : ∀ name rest, c ("enabled" :: name :: rest) = c₀ ("enabled" :: name :: rest) ∨
    ∃ entry ∈ managedFiles, entry.1 = "enabled" :: name :: rest ∧ c entry.1 = some (exact entry)

theorem reaches_preserved {c₀ : Config} (hsound : Sound c₀) (h : Reaches c₀ c) : Preserved c₀ c := by
  induction h with
  | start => exact ⟨hsound, fun _ _ hnode => hnode, fun _ _ => .inl rfl⟩
  | call _ hcall ih =>
    have hsafe := call_crashSafe ih.managed hcall
    refine ⟨hsafe.managed, fun relative node hnode => hsafe.kept _ _ (ih.kept _ _ hnode), ?_⟩
    intro name rest
    obtain hsame | hexact := hsafe.complete name rest
    · obtain hearlier | ⟨entry, he, hpath, hexact⟩ := ih.complete name rest
      · exact .inl (hsame.trans hearlier)
      · exact .inr ⟨entry, he, hpath, hsafe.kept _ _ hexact⟩
    · exact .inr hexact

/-- In every history of calls, each cut off anywhere: the whole history keeps what was there, and so
does every single call of it, which installs the runner only after its hook. -/
theorem installStartup_crashSafe {c₀ : Config} (hsound : Sound c₀) (hreach : Reaches c₀ c)
    (h : Call functionality c result c') : Preserved c₀ c' ∧ CrashSafe functionality c c' :=
  ⟨reaches_preserved hsound (hreach.call h), call_crashSafe (reaches_sound hsound hreach) h⟩

end Call

/-! ## A history with a cut -/

def emptyConfig : Config := fun _ => none

def adbStage (name : String) : Option Node :=
  if name = "0" then some (.file (featureHook .adb).2 0o644)
  else if name = "1" then some (.file runner.2 0o644)
  else none

/-- The hook is in place and the copy of the runner was cut off. -/
def tornConfig : Config :=
  config (copied (installAll (makeEnabled (staging emptyConfig adbStage)) [featureHook .adb]) 1
    (runner.2.take 9) 0o644)

theorem call_tornConfig : Call .adb emptyConfig .unfinished tornConfig := by
  have hmissing : missing emptyConfig (requested .adb) = .ok ([featureHook .adb] ++ [runner]) :=
    missing_eq_ok.mpr ⟨fun _ _ => .inl rfl, rfl⟩
  have hstaged : Staged ([featureHook .adb] ++ [runner]) adbStage := by
    intro entry he
    simp only [List.cons_append, List.nil_append, List.zipIdx_cons, List.zipIdx_nil, List.mem_cons,
      List.not_mem_nil, or_false] at he
    obtain rfl | rfl := he
    · exact ⟨0o644, if_pos rfl⟩
    · refine ⟨0o644, ?_⟩
      show adbStage "1" = _
      rw [adbStage, if_neg (by decide), if_pos rfl]
  have hguard : GuardPasses (staging emptyConfig adbStage)
      (guards (requested .adb) ([featureHook .adb] ++ [runner]) 0) := by
    refine guardPasses_guards.mpr ⟨.inl rfl, fun entry he => ?_, fun i _ => rfl⟩
    have hmem : entry.1.1 ∈ ([featureHook .adb] ++ [runner]).map Prod.fst :=
      List.mem_map_of_mem (List.mem_zipIdx_iff_getElem?.mp he |> List.mem_of_getElem?)
    rw [DestinationClear, if_pos hmem]
    rfl
  exact .cutOff (.inl rfl) hmissing (List.cons_ne_nil _ _) hstaged
    (interrupted_installScript_torn (brings_missing hmissing hstaged) hguard 9 0o644) (.inr rfl)

theorem installStartup_crashSafe_tornConfig :
    Preserved emptyConfig tornConfig ∧ CrashSafe .adb emptyConfig tornConfig :=
  installStartup_crashSafe (fun _ _ => .inl rfl) .start call_tornConfig

end Cc2Camera.Startup
