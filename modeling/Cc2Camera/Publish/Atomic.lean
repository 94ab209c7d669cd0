import Cc2Camera.Publish.Operations

/-!
# Atomic — publication is all-or-nothing in every interleaving

Any number of calls share the files, run one operation at a time and may die anywhere.
-/

open Program Concurrent Exceptions

namespace Cc2Camera.Publish

section Systems

variable {ι : Type} [DecidableEq ι] (pyText : PyText) (json : JsonCodec) (zipfile : ZipFile)
  (calls : ι → Publication)

/-- Where each call publishes. -/
abbrev destinations : ι → Location := fun i => (calls i).destination

/-- How the files answer the calls. -/
abbrev disk : Semantics ι (Disk ι) FileOp FileReply := answers zipfile.encode (destinations calls)

/-- No call has run yet. -/
structure Begins (sys : System ι (Disk ι) FileOp FileReply Exc Location) : Prop where
  programs : sys.programs = fun i => (calls i).program pyText json zipfile
  temp : ∀ i, sys.state.temp i = none
  published : ∀ i, sys.state.published i = false
  root : sys.state.files [] = some .directory

/-- What holds at every destination across a step of `i` from `s` to `s'`, wherever the destinations lie. -/
structure OneEach (i : ι) (s s' : Disk ι) : Prop where
  single : ∀ k k', destinations calls k = destinations calls k' → s.published k = true → s.published k' = true → k = k'
  removed : ∀ q, s.files q ≠ none → s'.files q = none → ∃ l, s.temp i = some l ∧ l <+: q
  remains : ∀ j, s.files (destinations calls j) ≠ none → s'.files (destinations calls j) ≠ none

/-- All-or-nothing publication at the destination of `j` across a step of `i` from `s` to `s'`. -/
structure AllOrNothing (start : Disk ι) (i j : ι) (s s' : Disk ι) : Prop extends OneEach calls i s s' where
  kept : s.files (destinations calls j) ≠ none →
    ∀ rest, s'.files (destinations calls j ++ rest) = s.files (destinations calls j ++ rest)
  complete : (∀ rest, s.files (destinations calls j ++ rest) = start.files (destinations calls j ++ rest)) ∨
    Absent start.files (destinations calls j) ∧ ∃ k, destinations calls k = destinations calls j ∧
      s.published k = true ∧ (calls k).Verified json zipfile ∧
        ∀ rest, s.files (destinations calls j ++ rest) = (calls k).complete json zipfile rest
  unpublished : s'.published i = s.published i →
    ∀ rest, s'.files (destinations calls j ++ rest) = s.files (destinations calls j ++ rest)

abbrev Shows (i : ι) : Location → Option Node := (calls i).complete json zipfile

abbrev Checks (i : ι) : Prop := (calls i).Verified json zipfile

variable {pyText json zipfile calls}

theorem foldl_place_root (body : Body) {built : Location → Option Node} (h : built [] ≠ none) :
    body.foldl place built [] ≠ none := by
  induction body generalizing built with
  | nil => exact h
  | cons step body ih =>
    apply ih
    cases step with
    | error x => exact h
    | ok entry =>
      obtain ⟨relative, node⟩ := entry
      show Function.update built relative (some node) [] ≠ none
      by_cases hrelative : ([] : Location) = relative
      · rw [← hrelative, Function.update_self]
        exact Option.some_ne_none _
      · rw [Function.update_of_ne hrelative]
        exact h

omit [DecidableEq ι] in
theorem complete_root (i : ι) : Shows json zipfile calls i [] ≠ none := by
  unfold Shows
  cases calls i with
  | backup b => exact Option.some_ne_none _
  | bundle b => exact foldl_place_root b.body (Option.some_ne_none _)

theorem program_safe (i : ι) (s : Disk ι) :
    SafeOn (disk zipfile calls i)
      (contract (destinations calls) (Shows json zipfile calls) (Checks json zipfile calls) i)
      ((calls i).program pyText json zipfile) s := by
  cases h : calls i with
  | backup b =>
    refine safe_saveBackup (by rw [destinations, h]; rfl) (fun hcheck => ?_) (by rw [Shows, h])
    rw [Checks, h]
    exact hcheck
  | bundle b =>
    refine safe_stagedDirectory (by rw [destinations, h]; rfl) (fun hbody => ?_) (by rw [Shows, h]; rfl)
    rw [Checks, h]
    exact hbody

theorem cooperate : Cooperate (Sound (destinations calls) (Shows json zipfile calls) (Checks json zipfile calls))
    (Relies (destinations calls))
    (Move (destinations calls) (Shows json zipfile calls) (Checks json zipfile calls)) where
  refl i s := ⟨rfl, fun _ _ _ _ _ => rfl, fun _ _ _ _ => rfl⟩
  trans i a b c hab hbc := by
    refine ⟨hbc.temp.trans hab.temp, fun l hl q hq hne => ?_, fun hi l hl rest => ?_⟩
    · have hfirst := hab.kept l hl q hq hne
      exact (hbc.kept l (hab.temp.trans hl) q hq (hfirst.trans_ne hne)).trans hfirst
    · exact (hbc.files hi l (hab.temp.trans hl) rest).trans (hab.files hi l hl rest)
  others i j s s' hij hsound hmove := hmove.relies hsound hij
  keeps i s s' hsound hmove := hmove.sound hsound

theorem Begins.allSafe {start : System ι (Disk ι) FileOp FileReply Exc Location}
    (h : Begins pyText json zipfile calls start) :
    AllSafe (disk zipfile calls)
      (Sound (destinations calls) (Shows json zipfile calls) (Checks json zipfile calls))
      (Relies (destinations calls))
      (Move (destinations calls) (Shows json zipfile calls) (Checks json zipfile calls)) start := by
  refine ⟨⟨h.root, ?_, ?_, ?_, ?_, ?_⟩, fun i => ?_⟩
  · intro i l hl
    exact absurd ((h.temp i).symm.trans hl) (Option.some_ne_none l).symm
  · intro i j l hl
    exact absurd ((h.temp i).symm.trans hl) (Option.some_ne_none l).symm
  · intro i _ hpublished
    exact absurd ((h.published i).symm.trans hpublished) Bool.false_ne_true
  · intro i hpublished
    exact absurd ((h.published i).symm.trans hpublished) Bool.false_ne_true
  · intro i j _ hpublished
    exact absurd ((h.published i).symm.trans hpublished) Bool.false_ne_true
  · rw [h.programs]
    exact program_safe i _

variable {start sys sys' : System ι (Disk ι) FileOp FileReply Exc Location} {i j : ι}

/-- In a reachable state an isolated destination is as it was, or one call has completed it. -/
theorem complete_of_reachable (hstart : Begins pyText json zipfile calls start)
    (h : Reachable (disk zipfile calls) start sys) (hj : Isolated (destinations calls) j) :
    (∀ rest, sys.state.files (destinations calls j ++ rest) =
        start.state.files (destinations calls j ++ rest)) ∨
      Absent start.state.files (destinations calls j) ∧
        ∃ k, destinations calls k = destinations calls j ∧ sys.state.published k = true ∧
          Checks json zipfile calls k ∧
          ∀ rest, sys.state.files (destinations calls j ++ rest) = Shows json zipfile calls k rest := by
  induction h with
  | start => exact .inl fun rest => rfl
  | @step sys sys' i hreach hstep ih =>
    have hsafe := allSafe_of_reachable cooperate hstart.allSafe hreach
    rcases hsafe.guarantee cooperate hstep with hsame | hmove
    · rw [hsame]
      exact ih
    · rcases hmove.destination_cases hsafe.sound hj with ⟨hkept, -⟩ | ⟨heq, habsent, hpublished, hverified, hshown⟩
      · rcases ih with hold | ⟨habsent, k, hk, hpublished, hverified, hshown⟩
        · exact .inl fun rest => (hkept rest).trans (hold rest)
        · exact .inr ⟨habsent, k, hk, hmove.published_mono hpublished, hverified,
            fun rest => (hkept rest).trans (hshown rest)⟩
      · refine .inr ⟨?_, i, heq.symm, hpublished, hverified, heq ▸ hshown⟩
        rcases ih with hold | ⟨-, k, hk, -, -, hshown⟩
        · exact fun rest => (hold rest).symm.trans (heq ▸ habsent rest)
        · have hroot := hshown []
          rw [heq, habsent []] at hroot
          exact absurd hroot.symm (complete_root k)

/-- All-or-nothing publication under any interleaving and any failures; at most one call publishes a destination, and a
step removes only from its own temporary, also where destinations lie inside one another. -/
theorem publish_allOrNothing (hstart : Begins pyText json zipfile calls start)
    (h : Reachable (disk zipfile calls) start sys) (hstep : Step (disk zipfile calls) i sys sys') :
    OneEach calls i sys.state sys'.state ∧
      ∀ j, Isolated (destinations calls) j → AllOrNothing json zipfile calls start.state i j sys.state sys'.state := by
  have hsafe := allSafe_of_reachable cooperate hstart.allSafe h
  have hsingle (k k' : ι) (hk : destinations calls k = destinations calls k') (hpk : sys.state.published k = true)
      (hpk' : sys.state.published k' = true) : k = k' := hsafe.sound.single k k' hk.symm hpk hpk'
  rcases hsafe.guarantee cooperate hstep with hsame | hmove
  · have hone : OneEach calls i sys.state sys'.state := by
      rw [hsame]
      exact ⟨hsingle, fun q hq hnone => absurd hnone hq, fun _ => id⟩
    refine ⟨hone, fun j hj => ⟨hone, ?_, complete_of_reachable hstart h hj, ?_⟩⟩
    · rw [hsame]
      exact fun _ _ => rfl
    · rw [hsame]
      exact fun _ _ => rfl
  · have hone : OneEach calls i sys.state sys'.state :=
      ⟨hsingle, fun q => hmove.removes_temp, fun j => hmove.keeps_occupied hsafe.sound⟩
    refine ⟨hone, fun j hj => ⟨hone, fun hexists => ?_, complete_of_reachable hstart h hj, fun hflag => ?_⟩⟩
    · rcases hmove.destination_cases hsafe.sound hj with ⟨hkept, -⟩ | ⟨heq, habsent, -⟩
      · exact hkept
      · rw [heq] at hexists
        exact absurd (habsent.eq_none List.prefix_rfl) hexists
    · rcases hmove.destination_cases hsafe.sound hj with ⟨hkept, -⟩ | ⟨heq, habsent, hpublished, -⟩
      · exact hkept
      -- a call that had published before finds its destination occupied
      · exact absurd (habsent.eq_none List.prefix_rfl) (hsafe.sound.occupied i (hflag ▸ hpublished))

end Systems

/-! ### Two small systems -/

def storedZip : ZipFile where
  encode members := members.flatMap Prod.snd
  namelist _ := .ok [AdbBackup.BACKUP_IMAGE_MEMBER, AdbBackup.BACKUP_MANIFEST_MEMBER]
  testzip _ := .ok none

def silentJson : JsonCodec where
  dumps _ := []
  loads _ := .error .valueError

/-- Only the root directory, and no call has run. -/
def opening (calls : Bool → Publication) : System Bool (Disk Bool) FileOp FileReply Exc Location where
  state := ⟨fun q => if q = [] then some .directory else none, fun _ => none, fun _ => false⟩
  programs i := (calls i).program plainText silentJson storedZip

theorem opening_begins (calls : Bool → Publication) :
    Begins plainText silentJson storedZip calls (opening calls) := ⟨rfl, fun _ => rfl, fun _ => rfl, rfl⟩

-- two empty directories aimed at the same place
def rivals : Bool → Publication := fun _ => .bundle ⟨["out"], []⟩

theorem rivals_isolated (i : Bool) : Isolated (destinations rivals) i := fun _ => .inl rfl

theorem publish_allOrNothing_rivals : ∃ sys sys',
    Reachable (disk storedZip rivals) (opening rivals) sys ∧ Step (disk storedZip rivals) true sys sys' ∧
      sys.state.files ["out"] = none ∧ sys'.state.files ["out"] = some .directory ∧
      OneEach rivals true sys.state sys'.state ∧
      AllOrNothing silentJson storedZip rivals (opening rivals).state true false sys.state sys'.state := by
  have h₀ : Reachable (disk storedZip rivals) (opening rivals) (opening rivals) := .start
  have h₁ := (h₀.act (i := true) rfl (show disk storedZip rivals true _ (.lexists ["out"]) (.ok false)
    (opening rivals).state from ⟨⟨fun _ => rfl, fun _ => rfl⟩, rfl⟩)).2
  have h₂ := (h₁.act (i := true) rfl (show disk storedZip rivals true _ (.mkdirParents []) (.ok ())
    (opening rivals).state from ⟨_, rfl, fun _ => .inl rfl⟩)).2
  have h₃ := (h₂.act (i := true) rfl (show disk storedZip rivals true _
    (.makeTempDir [] ".cc2camera-build-") (.ok [".cc2camera-build-" ++ "x"]) _ from
      ⟨⟨"x", rfl⟩, ⟨fun _ => rfl, nofun, fun _ => by decide +revert⟩, rfl⟩)).2
  have h₄ := (h₃.act (i := true) rfl (show disk storedZip rivals true _
    (.mkdir [".cc2camera-build-" ++ "x", "bundle"]) (.ok ()) _ from rfl)).2
  have hpublish := (h₄.act (i := true) rfl (show disk storedZip rivals true _
    (.renameNew [".cc2camera-build-" ++ "x", "bundle"] ["out"]) (.ok ()) _ from ⟨fun _ => rfl, rfl⟩)).1
  obtain ⟨hone, hall⟩ := publish_allOrNothing (opening_begins rivals) h₄ hpublish
  exact ⟨_, _, h₄, hpublish, rfl, rfl, hone, hall false (rivals_isolated false)⟩

-- one destination inside the other
def nested : Bool → Publication
  | true => .bundle ⟨["out", "inner"], []⟩
  | false => .bundle ⟨["out"], []⟩

/-- The parents a call makes may be the destination of another. -/
theorem nested_not_allOrNothing : ¬∀ {start sys sys' : System Bool (Disk Bool) FileOp FileReply Exc Location}
    {i j : Bool}, Begins plainText silentJson storedZip nested start →
      Reachable (disk storedZip nested) start sys → Step (disk storedZip nested) i sys sys' →
      AllOrNothing silentJson storedZip nested start.state i j sys.state sys'.state := by
  intro h
  have h₀ : Reachable (disk storedZip nested) (opening nested) (opening nested) := .start
  have h₁ := (h₀.act (i := true) rfl (show disk storedZip nested true _ (.lexists ["out", "inner"])
    (.ok false) (opening nested).state from ⟨⟨fun _ => rfl, fun _ => rfl⟩, rfl⟩)).2
  have h₂ := (h₁.act (i := true) rfl (show disk storedZip nested true _ (.mkdirParents ["out"]) (.ok ()) _
    from ⟨Function.update (opening nested).state.files ["out"] (some .directory), rfl, fun q => ?_⟩)).2
  · rcases (h (opening_begins nested) h₂ (.die _ _) (i := true) (j := false)).complete with hsame | hdone
    · exact absurd (hsame []) (by decide)
    · obtain ⟨-, k, -, hpublished, -⟩ := hdone
      exact Bool.false_ne_true hpublished
  · by_cases hq : q = ["out"]
    · subst hq
      exact .inr ⟨rfl, List.prefix_rfl, Function.update_self _ _ _⟩
    · exact .inl (Function.update_of_ne hq _ _)

end Cc2Camera.Publish
