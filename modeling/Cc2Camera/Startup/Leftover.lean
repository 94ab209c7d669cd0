import Cc2Camera.Startup.CrashSafe

/-!
# Leftover — temporary files of an earlier call

A call guards one temporary name for each file that is still missing.  A leftover whose number lies
beyond these is not looked at.
-/

open Crash

namespace Cc2Camera.Startup

/-- Some `/etc/conf.d/.cc2-new-*` exists. -/
def Leftover (c : Config) : Prop := ∃ name, c [".cc2-new-" ++ name] ≠ none

/-- Whatever the next call meets, it writes nothing and does not report an installation. -/
def LeavesAlone (functionality : Functionality) (c : Config) : Prop :=
  ∀ result c', Call functionality c result c' → c' = c ∧ result ≠ .returnedPlan

/-- The call has nothing to install, refuses the directory, or guards a name that is taken. -/
def Refuses (functionality : Functionality) (c : Config) : Prop :=
  ∀ payloads, EnabledUsable c → missing c (requested functionality) = .ok payloads →
    payloads = [] ∨ ∃ i < payloads.length, c [".cc2-new-" ++ toString i] ≠ none

section Leftover

variable {functionality : Functionality} {c : Config}

theorem leavesAlone_of_refuses (h : Refuses functionality c) : LeavesAlone functionality c := by
  have hblocked : ∀ {payloads : List Managed} {files : String → Option Node} {blocks : Nat},
      EnabledUsable c → missing c (requested functionality) = .ok payloads → payloads ≠ [] →
      ¬GuardPasses (staging c files) (guards (requested functionality) payloads blocks) := by
    intro payloads files blocks husable hmissing hne hguard
    obtain hnil | ⟨i, hi, htaken⟩ := h payloads husable hmissing
    · exact hne hnil
    · exact htaken ((guardPasses_guards.mp hguard).2.2 i hi)
  intro result c' hcall
  cases hcall with
  | refused => exact ⟨rfl, nofun⟩
  | stopped => exact ⟨rfl, nofun⟩
  | present => exact ⟨rfl, nofun⟩
  | cutOff husable hmissing hne hstaged hrun hresult =>
    obtain rfl | ⟨hguard, -⟩ := interrupted_installScript (brings_missing hmissing hstaged) hrun
    · refine ⟨rfl, ?_⟩
      obtain rfl | rfl := hresult
      · nofun
      · nofun
    · exact absurd hguard (hblocked husable hmissing hne)
  | completed husable hmissing hne hstaged hrun =>
    obtain ⟨hguard, -⟩ := (completes_installScript (brings_missing hmissing hstaged)).mp hrun
    exact absurd hguard (hblocked husable hmissing hne)

/-- A staging directory that holds what a call pushes: its payloads, and the copies to compare with. -/
def pushed (requests payloads : List Managed) (name : String) : Option Node :=
  let copy (entries : List Managed) (i : Nat) : Option Node := entries[i]?.map fun e => .file e.2 0o644
  if name = "0" then copy payloads 0
  else if name = "1" then copy payloads 1
  else if name = "existing-0" then copy requests 0
  else if name = "existing-1" then copy requests 1
  else none

theorem pushed_payload {requests payloads : List Managed} {i : Nat} (hi : i < 2) :
    pushed requests payloads (toString i) = payloads[i]?.map fun e => .file e.2 0o644 := by
  match i, hi with
  | 0, _ =>
    show pushed requests payloads "0" = _
    rw [pushed, if_pos rfl]
  | 1, _ =>
    show pushed requests payloads "1" = _
    rw [pushed, if_neg (by decide), if_pos rfl]

theorem pushed_existing {requests payloads : List Managed} {i : Nat} (hi : i < 2) :
    pushed requests payloads ("existing-" ++ toString i) = requests[i]?.map fun e => .file e.2 0o644 := by
  match i, hi with
  | 0, _ =>
    show pushed requests payloads "existing-0" = _
    rw [pushed, if_neg (by decide), if_neg (by decide), if_pos rfl]
  | 1, _ =>
    show pushed requests payloads "existing-1" = _
    rw [pushed, if_neg (by decide), if_neg (by decide), if_neg (by decide), if_pos rfl]

/-- With the guarded names free, a call can install. -/
theorem exists_completed {payloads : List Managed} (husable : EnabledUsable c)
    (hmissing : missing c (requested functionality) = .ok payloads) (hne : payloads ≠ [])
    (hfree : ∀ i < payloads.length, c [".cc2-new-" ++ toString i] = none) :
    ∃ c', Call functionality c .returnedPlan c' := by
  obtain ⟨hpresent, hfilter⟩ := missing_eq_ok.mp hmissing
  have hlength : payloads.length ≤ 2 := by
    rw [hfilter]
    exact List.length_filter_le _ _
  have hstaged : Staged payloads (pushed (requested functionality) payloads) := by
    intro entry he
    have hentry := List.mem_zipIdx_iff_getElem?.mp he
    have hindex := (List.getElem?_eq_some_iff.mp hentry).1
    refine ⟨0o644, ?_⟩
    rw [pushed_payload (by omega), hentry]
    rfl
  have hguard : GuardPasses (staging c (pushed (requested functionality) payloads))
      (guards (requested functionality) payloads 0) := by
    refine guardPasses_guards.mpr ⟨husable, fun entry he => ?_, hfree⟩
    have hentry := List.mem_zipIdx_iff_getElem?.mp he
    have hindex : entry.2 < 2 := (List.getElem?_eq_some_iff.mp hentry).1
    unfold DestinationClear
    split
    next hmem =>
      obtain ⟨e, he', hpath⟩ := List.mem_map.mp hmem
      rw [hfilter, List.mem_filter] at he'
      show c entry.1.1 = none
      rw [← hpath]
      exact Option.isNone_iff_eq_none.mp he'.2
    next hnot =>
      have hfile : c entry.1.1 = some (exact entry.1) := by
        obtain hnone | ⟨hfile, -⟩ := hpresent entry.1 (List.mem_of_getElem? hentry)
        · refine absurd (List.mem_map_of_mem ?_) hnot
          rw [hfilter, List.mem_filter]
          exact ⟨List.mem_of_getElem? hentry, Option.isNone_iff_eq_none.mpr hnone⟩
        · exact hfile
      have hcopy : staging c (pushed (requested functionality) payloads)
          (.staged ("existing-" ++ toString entry.2)) = some (.file entry.1.2 0o644) := by
        show pushed (requested functionality) payloads ("existing-" ++ toString entry.2) = _
        rw [pushed_existing hindex, hentry]
        rfl
      have hdest : staging c (pushed (requested functionality) payloads) (.conf entry.1.1) =
          some (exact entry.1) := hfile
      rw [SameContent, hdest, hcopy]
      exact ⟨by simp [exact], rfl⟩
  have hbrings := brings_missing hmissing hstaged
  exact ⟨_, .completed husable hmissing hne hstaged
    ((completes_installScript hbrings).mpr ⟨hguard, rfl⟩)⟩

/-- A leftover keeps the next call from writing exactly when that call refuses by itself or one of the
names it guards is taken. -/
theorem leavesAlone_iff :
    (Leftover c → LeavesAlone functionality c) ↔ (Leftover c → Refuses functionality c) := by
  refine ⟨fun h hleftover payloads husable hmissing => ?_, fun h hleftover => ?_⟩
  · by_contra hnot
    simp only [not_or, not_exists, not_and, not_not] at hnot
    obtain ⟨hne, hfree⟩ := hnot
    obtain ⟨c', hcall⟩ := exists_completed husable hmissing hne hfree
    exact (h hleftover _ c' hcall).2 rfl
  · exact leavesAlone_of_refuses (h hleftover)

/-! ## After interrupted calls -/

/-- A call leaves no temporary file but the two it may copy to. -/
theorem call_temporaries {result : Result} {c' : Config} (h : Call functionality c result c') {name : String}
    (hnew : c' [".cc2-new-" ++ name] ≠ none) : c [".cc2-new-" ++ name] ≠ none ∨ name = "0" ∨ name = "1" := by
  obtain ⟨done, rest, hleft⟩ := call_leftBy h
  obtain ⟨entry, he, hpath⟩ | hsame | ⟨-, henabled | ⟨i, hi, htemp⟩⟩ := hleft.touched [".cc2-new-" ++ name]
  · have hpaths : ∀ entry ∈ managedFiles, entry.1.head? = some "enabled" ∨ entry.1.head? = some "system.sh" := by
      simp only [managedFiles, List.forall_mem_cons]
      exact ⟨.inr rfl, .inl rfl, .inl rfl, List.forall_mem_nil _⟩
    have hhead := hpaths entry (hleft.of_mem he).1
    rw [hpath] at hhead
    obtain hhead | hhead := hhead
    · exact absurd (congrArg String.toList (Option.some.inj hhead)) (by simp)
    · exact absurd (congrArg String.toList (Option.some.inj hhead)) (by simp)
  · exact .inl (hsame ▸ hnew)
  · exact absurd (congrArg String.toList (List.head_eq_of_cons_eq (Path.conf.inj henabled))) (by simp)
  · have hname : name = toString i :=
      (String.append_right_inj _).mp (List.head_eq_of_cons_eq (Path.conf.inj htemp))
    obtain rfl | rfl : i = 0 ∨ i = 1 := by omega
    · exact .inr (.inl hname)
    · exact .inr (.inr hname)

theorem reaches_temporaries {c₀ : Config} (hclean : ¬Leftover c₀) (h : Reaches c₀ c) {name : String}
    (hname : c [".cc2-new-" ++ name] ≠ none) : name = "0" ∨ name = "1" := by
  induction h with
  | start => exact absurd ⟨name, hname⟩ hclean
  | call _ hcall ih =>
    obtain hold | hnew := call_temporaries hcall hname
    · exact ih hold
    · exact hnew

/-- From a directory without leftovers, interrupted calls lead to one kind of state whose leftover the
next call overlooks: `.cc2-new-1` alone is left, and one requested file is missing. -/
theorem overlooks_iff {c₀ : Config} (hclean : ¬Leftover c₀) (h : Reaches c₀ c) :
    Leftover c ∧ ¬LeavesAlone functionality c ↔
      EnabledUsable c ∧ (∃ entry, missing c (requested functionality) = .ok [entry]) ∧
        ∀ name, c [".cc2-new-" ++ name] ≠ none ↔ name = "1" := by
  constructor
  · rintro ⟨⟨name, hname⟩, hwrites⟩
    have hrefuses := mt leavesAlone_of_refuses hwrites
    simp only [Refuses, not_forall, not_or, not_exists, not_and, not_not] at hrefuses
    obtain ⟨payloads, husable, hmissing, hne, hfree⟩ := hrefuses
    have hpositive := List.length_pos_iff.mpr hne
    -- the first temporary name is guarded, so the leftover has the second one
    have hsecond : ∀ name, c [".cc2-new-" ++ name] ≠ none → name = "1" := by
      intro name hname
      obtain rfl | hone := reaches_temporaries hclean h hname
      · exact absurd (hfree 0 hpositive) hname
      · exact hone
    have htaken : c [".cc2-new-" ++ "1"] ≠ none := hsecond name hname ▸ hname
    have hsingle : payloads.length = 1 := by
      by_contra hmore
      exact htaken (hfree 1 (by omega))
    obtain ⟨entry, rfl⟩ := List.length_eq_one_iff.mp hsingle
    refine ⟨husable, ⟨entry, hmissing⟩, fun name => ⟨hsecond name, ?_⟩⟩
    rintro rfl
    exact htaken
  · rintro ⟨husable, ⟨entry, hmissing⟩, hleftover⟩
    refine ⟨⟨"1", (hleftover "1").mpr rfl⟩, fun halone => ?_⟩
    obtain ⟨c', hcall⟩ := exists_completed husable hmissing (List.cons_ne_nil _ _) (by
      intro i hi
      obtain rfl : i = 0 := Nat.lt_one_iff.mp hi
      by_contra htaken
      exact absurd ((hleftover (toString 0)).mp htaken) (by decide))
    exact (halone _ c' hcall).2 rfl

/-- After a first installation that was cut off while it copied the runner, the retry has one payload
and guards one name; the leftover has the other number. -/
theorem tornConfig_leftover :
    ¬∀ c, Reaches emptyConfig c → Leftover c → ∀ functionality, LeavesAlone functionality c := by
  intro h
  have hleftover : Leftover tornConfig := by
    refine ⟨"1", ?_⟩
    have hcopy : tornConfig [".cc2-new-" ++ "1"] = some (.file (runner.2.take 9) 0o644) :=
      rfl
    rw [hcopy]
    exact Option.some_ne_none _
  have hdirectory : tornConfig ["enabled"] = some .directory := rfl
  have hhook : tornConfig (featureHook .adb).1 = some (exact (featureHook .adb)) := rfl
  have hrunner : tornConfig systemSh = none := rfl
  have hfree : tornConfig [".cc2-new-" ++ toString 0] = none := rfl
  have hsize : (featureHook .adb).2.length ≤ MAX_HOOK_BYTES := by decide +kernel
  have hmissing : missing tornConfig (requested .adb) = .ok [runner] := by
    refine missing_eq_ok.mpr ⟨?_, ?_⟩
    · simp only [requested, List.forall_mem_cons]
      exact ⟨.inr ⟨hhook, hsize⟩, .inl hrunner, List.forall_mem_nil _⟩
    · rw [requested, List.filter_cons_of_neg (by simp [hhook]),
        List.filter_cons_of_pos (by rw [runner, hrunner]; rfl), List.filter_nil]
  obtain ⟨c', hcall⟩ := exists_completed (.inr hdirectory) hmissing (List.cons_ne_nil _ _) (by
    intro i hi
    obtain rfl : i = 0 := Nat.lt_one_iff.mp hi
    exact hfree)
  have hlaw := h tornConfig (.call .start call_tornConfig) hleftover .adb
  exact (hlaw _ c' hcall).2 rfl

end Leftover

end Cc2Camera.Startup
