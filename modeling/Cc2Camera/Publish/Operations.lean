import Cc2Camera.Publish.Moves

/-!
# Operations — the operations of the publishing calls are moves

Each operation of `save_backup` and of `staged_directory` is shown to be a `Move`, whatever the other
calls do in between, and what it leaves in the temporary is carried to the next.
-/

open Program Concurrent Exceptions

namespace Cc2Camera.Publish

section Operations

variable {ι : Type} [DecidableEq ι] {encode : List (Text × Bytes) → Bytes} {destination : ι → Location}
  {complete : ι → Location → Option Node} {verified : ι → Prop} {i : ι} {s : Disk ι} {l : Location}

/-- What call `i` relies on and guarantees. -/
abbrev contract (destination : ι → Location) (complete : ι → Location → Option Node)
    (verified : ι → Prop) (i : ι) : Contract (Disk ι) :=
  ⟨Sound destination complete verified, Relies destination i, Move destination complete verified i⟩

/-- `l` is the temporary of call `i`; when its destination is isolated, its files are known. -/
structure Working (destination : ι → Location) (i : ι) (l : Location) (known : Files → Prop)
    (s : Disk ι) : Prop where
  temp : s.temp i = some l
  known : Isolated destination i → known s.files

/-- The same with a staging directory in it, isolated or not. -/
structure Staged (destination : ι → Location) (i : ι) (l staging : Location) (known : Files → Prop)
    (s : Disk ι) : Prop extends Working destination i l known s where
  there : s.files staging ≠ none

theorem safe_call {op : FileOp} {returns : Disk ι → FileAnswer op → Prop} {raises : Disk ι → Exc → Prop}
    (h : ∀ s₁, Relies destination i s s₁ → Sound destination complete verified s₁ →
      ∀ r s₂, answers encode destination i s₁ op r s₂ → Move destination complete verified i s₁ s₂ ∧
        (∀ a, r = .ok a → returns s₂ a) ∧ ∀ x, r = .error x → raises s₂ x) :
    Safe (answers encode destination i) (contract destination complete verified i) (call op) returns raises s := by
  intro s₁ hrely hsound r s₂ hanswer
  obtain ⟨hmove, hok, herror⟩ := h s₁ hrely hsound r s₂ hanswer
  exact ⟨hmove, safe_ofExcept hok herror⟩

/-- An operation that touches nothing outside the temporary. -/
theorem safe_work {op : FileOp} {known : FileAnswer op → Files → Prop} (htemp : s.temp i = some l)
    (h : ∀ s₁, Relies destination i s s₁ → ∀ r s₂, answers encode destination i s₁ op r s₂ →
      ∃ files, s₂ = { s₁ with files } ∧ (∀ q, ¬l <+: q → files q = s₁.files q) ∧
        (Isolated destination i → ∀ a, r = .ok a → known a files)) :
    Safe (answers encode destination i) (contract destination complete verified i) (call op)
      (fun s a => Working destination i l (known a) s) (fun s _ => s.temp i = some l) s := by
  apply safe_call
  intro s₁ hrely hsound r s₂ hanswer
  obtain ⟨files, rfl, hfiles, hknown⟩ := h s₁ hrely r s₂ hanswer
  have htemp₁ : s₁.temp i = some l := hrely.temp.trans htemp
  refine ⟨.work l files htemp₁ hfiles, fun a ha => ⟨htemp₁, fun hi => hknown hi a ha⟩, fun x _ => htemp₁⟩

/-- Such an operation that leaves the staging directory there. -/
theorem safe_stage {op : FileOp} {staging : Location} {known : Files → Prop} (htemp : s.temp i = some l)
    (h : ∀ s₁, Relies destination i s s₁ → ∀ r s₂, answers encode destination i s₁ op r s₂ →
      ∃ files, s₂ = { s₁ with files } ∧ (∀ q, ¬l <+: q → files q = s₁.files q) ∧
        ∀ a, r = .ok a → files staging ≠ none ∧ (Isolated destination i → known files)) :
    Safe (answers encode destination i) (contract destination complete verified i) (call op)
      (fun s _ => Staged destination i l staging known s) (fun s _ => s.temp i = some l) s := by
  apply safe_call
  intro s₁ hrely hsound r s₂ hanswer
  obtain ⟨files, rfl, hfiles, hdone⟩ := h s₁ hrely r s₂ hanswer
  have htemp₁ : s₁.temp i = some l := hrely.temp.trans htemp
  refine ⟨.work l files htemp₁ hfiles, fun a ha => ?_, fun x _ => htemp₁⟩
  obtain ⟨hthere, hknown⟩ := hdone a ha
  exact ⟨⟨htemp₁, hknown⟩, hthere⟩

omit [DecidableEq ι] in
theorem write_inside {m : Location} (hm : l <+: m) (s₁ : Disk ι) (node : Option Node) :
    ∀ q, ¬l <+: q → (s₁.write m node).files q = s₁.files q := by
  intro q hq
  have hne : q ≠ m := fun he => hq (he ▸ hm)
  exact Function.update_of_ne hne _ _

omit [DecidableEq ι] in
theorem Spoils.inside {m : Location} {s₁ s₂ : Disk ι} (h : Spoils s₁ m s₂) (hm : l <+: m) :
    ∃ files, s₂ = { s₁ with files } ∧ ∀ q, ¬l <+: q → files q = s₁.files q := by
  rcases h with h | ⟨node, h⟩
  · exact ⟨s₁.files, h, fun q _ => rfl⟩
  · exact ⟨_, h, write_inside hm s₁ node⟩

omit [DecidableEq ι] in
theorem Relies.root {s₁ : Disk ι} (hrely : Relies destination i s s₁) (hi : Isolated destination i)
    (htemp : s.temp i = some l) : s₁.files l = s.files l := by
  have := hrely.files hi l htemp []
  rwa [List.append_nil] at this

/-! ### Before the temporary -/

theorem safe_pathExists : Safe (answers encode destination i) (contract destination complete verified i)
    (call (.pathExists (destination i))) (fun _ present => present = false → destination i ≠ [])
    (fun _ _ => True) s := by
  apply safe_call
  intro s₁ hrely hsound r s₂ hanswer
  cases r with
  | ok present =>
    obtain ⟨htrue, rfl⟩ := hanswer
    refine ⟨.idle, fun a ha => ?_, nofun⟩
    cases ha
    exact fun hfalse => hsound.named (htrue hfalse)
  | error x =>
    obtain rfl : s₂ = s₁ := hanswer
    exact ⟨.idle, nofun, fun _ _ => trivial⟩

theorem safe_lexists : Safe (answers encode destination i) (contract destination complete verified i)
    (call (.lexists (destination i))) (fun _ present => present = false → destination i ≠ [])
    (fun _ _ => True) s := by
  apply safe_call
  intro s₁ hrely hsound r s₂ hanswer
  cases r with
  | ok present =>
    obtain ⟨htrue, rfl⟩ := hanswer
    refine ⟨.idle, fun a ha => ?_, nofun⟩
    cases ha
    exact fun hfalse => hsound.named (.inl (htrue.mp hfalse))
  | error x =>
    obtain rfl : s₂ = s₁ := hanswer
    exact ⟨.idle, nofun, fun _ _ => trivial⟩

theorem safe_mkdirParents : Safe (answers encode destination i) (contract destination complete verified i)
    (call (.mkdirParents (parentOf (destination i)))) (fun _ _ => True) (fun _ _ => True) s := by
  apply safe_call
  intro s₁ hrely hsound r s₂ hanswer
  obtain ⟨files, rfl, hfiles⟩ := hanswer
  exact ⟨.parents files hfiles, fun _ _ => trivial, fun _ _ => trivial⟩

theorem safe_createTemp {label suffix : String} (hnamed : destination i ≠ []) :
    Safe (answers encode destination i) (contract destination complete verified i)
      (call (.createTemp (parentOf (destination i)) label suffix)) (fun s l => s.temp i = some l)
      (fun _ _ => True) s := by
  apply safe_call
  intro s₁ hrely hsound r s₂ hanswer
  cases r with
  | ok l =>
    obtain ⟨⟨name, hl⟩, hfresh, rfl⟩ := hanswer
    refine ⟨.take l _ ⟨hnamed, ⟨_, hl⟩, hfresh.apart⟩ hfresh, fun a ha => ?_, nofun⟩
    cases ha
    exact Function.update_self _ _ _
  | error x =>
    obtain rfl : s₂ = s₁ := hanswer
    exact ⟨.idle, nofun, fun _ _ => trivial⟩

theorem safe_makeTempDir {label : String} (hnamed : destination i ≠ []) :
    Safe (answers encode destination i) (contract destination complete verified i)
      (call (.makeTempDir (parentOf (destination i)) label))
      (fun s l => Working destination i l (fun files => ∀ name rest, files (l ++ name :: rest) = none) s)
      (fun _ _ => True) s := by
  apply safe_call
  intro s₁ hrely hsound r s₂ hanswer
  cases r with
  | ok l =>
    obtain ⟨⟨name, hl⟩, hfresh, rfl⟩ := hanswer
    refine ⟨.take l _ ⟨hnamed, ⟨_, hl⟩, hfresh.apart⟩ hfresh, fun a ha => ?_, nofun⟩
    cases ha
    refine ⟨Function.update_self _ _ _, fun _ name rest => ?_⟩
    have hne : l ++ name :: rest ≠ l := by simp
    exact (Function.update_of_ne hne _ _).trans (hfresh.absent _)
  | error x =>
    obtain rfl : s₂ = s₁ := hanswer
    exact ⟨.idle, nofun, fun _ _ => trivial⟩

/-! ### At the temporary archive -/

theorem safe_writestr {member : Text} {data : Bytes} (htemp : s.temp i = some l) :
    Safe (answers encode destination i) (contract destination complete verified i)
      (call (.writestr l member data)) (fun s _ => s.temp i = some l) (fun s _ => s.temp i = some l) s := by
  have hwork : Safe (answers encode destination i) (contract destination complete verified i)
      (call (.writestr l member data)) (fun s _ => Working destination i l (fun _ => True) s)
      (fun s _ => s.temp i = some l) s := by
    apply safe_work htemp
    intro s₁ hrely r s₂ hanswer
    obtain ⟨files, hs₂, hfiles⟩ := Spoils.inside hanswer List.prefix_rfl
    exact ⟨files, hs₂, hfiles, fun _ _ _ => trivial⟩
  exact safe_mono hwork (fun _ _ h => h.temp) fun _ _ h => h

theorem safe_closeZip {members : List (Text × Bytes)} (htemp : s.temp i = some l) :
    Safe (answers encode destination i) (contract destination complete verified i)
      (call (.closeZip l members))
      (fun s _ => Working destination i l (fun files => files l = some (.file (encode members))) s)
      (fun s _ => s.temp i = some l) s := by
  apply safe_work htemp
  intro s₁ hrely r s₂ hanswer
  cases r with
  | ok u =>
    refine ⟨_, hanswer, write_inside List.prefix_rfl s₁ _, fun _ _ _ => ?_⟩
    exact Function.update_self _ _ _
  | error x =>
    obtain ⟨files, hs₂, hfiles⟩ := Spoils.inside hanswer List.prefix_rfl
    exact ⟨files, hs₂, hfiles, nofun⟩

theorem safe_fsync {content : Bytes}
    (h : Working destination i l (fun files => files l = some (.file content)) s) :
    Safe (answers encode destination i) (contract destination complete verified i) (call (.fsync l))
      (fun s _ => Working destination i l (fun files => files l = some (.file content)) s)
      (fun s _ => s.temp i = some l) s := by
  apply safe_work h.temp
  intro s₁ hrely r s₂ hanswer
  refine ⟨s₁.files, hanswer, fun q _ => rfl, fun hi _ _ => ?_⟩
  exact (hrely.root hi h.temp).trans (h.known hi)

theorem safe_readZip {content : Bytes}
    (h : Working destination i l (fun files => files l = some (.file content)) s) :
    Safe (answers encode destination i) (contract destination complete verified i) (call (.readZip l))
      (fun s archive => Working destination i l
        (fun files => files l = some (.file content) ∧ archive = content) s)
      (fun s _ => s.temp i = some l) s := by
  apply safe_work h.temp
  intro s₁ hrely r s₂ hanswer
  cases r with
  | ok archive =>
    refine ⟨s₁.files, hanswer.2, fun q _ => rfl, fun hi a ha => ?_⟩
    cases ha
    have hcontent : s₁.files l = some (.file content) := (hrely.root hi h.temp).trans (h.known hi)
    refine ⟨hcontent, ?_⟩
    have hread := hanswer.1
    rw [hcontent] at hread
    exact (Node.file.inj (Option.some.inj hread)).symm
  | error x => exact ⟨s₁.files, hanswer, fun q _ => rfl, nofun⟩

theorem safe_link {content : Bytes}
    (h : Working destination i l (fun files => files l = some (.file content)) s)
    (hverified : Isolated destination i → verified i)
    (hcomplete : complete i = fun rest => if rest = [] then some (.file content) else none) :
    Safe (answers encode destination i) (contract destination complete verified i)
      (call (.link l (destination i))) (fun s _ => s.temp i = some l) (fun s _ => s.temp i = some l) s := by
  apply safe_call
  intro s₁ hrely hsound r s₂ hanswer
  have htemp : s₁.temp i = some l := hrely.temp.trans h.temp
  cases r with
  | ok u =>
    obtain ⟨found, hfound, habsent, rfl⟩ := hanswer
    refine ⟨.publish l _ htemp habsent ?_ ?_ ?_, fun _ _ => htemp, fun _ _ => htemp⟩
    · intro q _ hq
      have hne : q ≠ destination i := fun he => hq (he ▸ List.prefix_rfl)
      exact Function.update_of_ne hne _ _
    · rw [Function.update_self]
      exact Option.some_ne_none _
    · intro hi
      have hcontent : s₁.files l = some (.file content) := (hrely.root hi h.temp).trans (h.known hi)
      rw [hcontent] at hfound
      refine ⟨hverified hi, fun rest => ?_⟩
      rw [hcomplete]
      by_cases hrest : rest = []
      · rw [hrest, List.append_nil, Function.update_self]
        exact hfound.symm
      · have hne : destination i ++ rest ≠ destination i := by simpa using hrest
        rw [Function.update_of_ne hne]
        exact (habsent rest).trans (if_neg hrest).symm
  | error x =>
    obtain rfl : s₂ = s₁ := hanswer
    exact ⟨.idle, fun _ _ => htemp, fun _ _ => htemp⟩

theorem safe_unlink (htemp : s.temp i = some l) :
    Safe (answers encode destination i) (contract destination complete verified i) (call (.unlink l))
      (fun _ _ => True) (fun _ _ => True) s := by
  have hwork : Safe (answers encode destination i) (contract destination complete verified i)
      (call (.unlink l)) (fun s _ => Working destination i l (fun _ => True) s)
      (fun s _ => s.temp i = some l) s := by
    apply safe_work htemp
    intro s₁ hrely r s₂ hanswer
    cases r with
    | ok u => exact ⟨_, hanswer, write_inside List.prefix_rfl s₁ _, fun _ _ _ => trivial⟩
    | error x => exact ⟨s₁.files, hanswer, fun q _ => rfl, fun _ _ _ => trivial⟩
  exact safe_mono hwork (fun _ _ _ => trivial) fun _ _ _ => trivial

/-! ### At the staging directory -/

theorem safe_mkdir {name : String}
    (h : Working destination i l (fun files => ∀ name rest, files (l ++ name :: rest) = none) s) :
    Safe (answers encode destination i) (contract destination complete verified i)
      (call (.mkdir (l ++ [name])))
      (fun s _ => Staged destination i l (l ++ [name])
        (fun files => ∀ rest, files (l ++ [name] ++ rest) = tree [] rest) s)
      (fun s _ => s.temp i = some l) s := by
  apply safe_stage h.temp
  intro s₁ hrely r s₂ hanswer
  cases r with
  | ok u =>
    refine ⟨_, hanswer, write_inside (List.prefix_append l _) s₁ _, fun _ _ => ⟨?_, fun hi rest => ?_⟩⟩
    · rw [Function.update_self]
      exact Option.some_ne_none _
    by_cases hrest : rest = []
    · rw [hrest, List.append_nil]
      exact Function.update_self _ _ _
    · have hne : l ++ [name] ++ rest ≠ l ++ [name] := by simpa using hrest
      show Function.update s₁.files (l ++ [name]) _ _ = ite _ _ _
      rw [Function.update_of_ne hne, if_neg hrest, List.append_assoc, hrely.files hi l h.temp]
      exact h.known hi name rest
  | error x => exact ⟨s₁.files, hanswer, fun q _ => rfl, nofun⟩

theorem safe_put {staging relative : Location} {node : Node} {built : Location → Option Node}
    (hinside : l <+: staging)
    (h : Staged destination i l staging (fun files => ∀ rest, files (staging ++ rest) = built rest) s) :
    Safe (answers encode destination i) (contract destination complete verified i)
      (call (.put (staging ++ relative) node))
      (fun s _ => Staged destination i l staging
        (fun files => ∀ rest, files (staging ++ rest) = place built (.ok (relative, node)) rest) s)
      (fun s _ => s.temp i = some l) s := by
  have hwithin : l <+: staging ++ relative := hinside.trans (List.prefix_append _ _)
  apply safe_stage h.temp
  intro s₁ hrely r s₂ hanswer
  cases r with
  | ok u =>
    refine ⟨_, hanswer, write_inside hwithin s₁ _, fun _ _ => ⟨?_, fun hi rest => ?_⟩⟩
    · have hthere : s₁.files staging ≠ none := (hrely.kept l h.temp staging hinside h.there).trans_ne h.there
      by_cases hroot : staging = staging ++ relative
      · rw [← hroot, Function.update_self]
        exact Option.some_ne_none _
      · rw [Function.update_of_ne hroot]
        exact hthere
    show Function.update s₁.files (staging ++ relative) _ _ = Function.update built relative _ _
    by_cases hrest : rest = relative
    · rw [hrest, Function.update_self, Function.update_self]
    · have hne : staging ++ rest ≠ staging ++ relative := fun he => hrest (List.append_cancel_left he)
      rw [Function.update_of_ne hne, Function.update_of_ne hrest, ← h.known hi rest]
      obtain ⟨below, rfl⟩ := hinside
      rw [List.append_assoc]
      exact hrely.files hi l h.temp _
  | error x =>
    obtain ⟨files, hs₂, hfiles⟩ := Spoils.inside hanswer hwithin
    exact ⟨files, hs₂, hfiles, nofun⟩

theorem safe_build {staging : Location} (hinside : l <+: staging) (body : Body)
    {built : Location → Option Node}
    (h : Staged destination i l staging (fun files => ∀ rest, files (staging ++ rest) = built rest) s) :
    Safe (answers encode destination i) (contract destination complete verified i) (build staging body)
      (fun s _ => (∀ step ∈ body, ∃ entry, step = .ok entry) ∧ Staged destination i l staging
        (fun files => ∀ rest, files (staging ++ rest) = body.foldl place built rest) s)
      (fun s _ => s.temp i = some l) s := by
  induction body generalizing s built with
  | nil => exact ⟨nofun, h⟩
  | cons step body ih =>
    cases step with
    | error x => exact h.temp
    | ok entry =>
      obtain ⟨relative, node⟩ := entry
      refine safe_seq (safe_put hinside h) (fun _ _ hx => hx) fun s _ hput => ?_
      refine safe_mono (ih hput) ?_ fun _ _ hx => hx
      rintro s - ⟨hbody, hbuilt⟩
      refine ⟨fun step hstep => ?_, hbuilt⟩
      rcases List.mem_cons.mp hstep with rfl | hrest
      · exact ⟨_, rfl⟩
      · exact hbody step hrest

theorem safe_renameNew {staging : Location} (hinside : l <+: staging)
    (hverified : verified i)
    (h : Staged destination i l staging (fun files => ∀ rest, files (staging ++ rest) = complete i rest) s) :
    Safe (answers encode destination i) (contract destination complete verified i)
      (call (.renameNew staging (destination i))) (fun s _ => s.temp i = some l)
      (fun s _ => s.temp i = some l) s := by
  apply safe_call
  intro s₁ hrely hsound r s₂ hanswer
  have htemp : s₁.temp i = some l := hrely.temp.trans h.temp
  cases r with
  | ok u =>
    obtain ⟨habsent, rfl⟩ := hanswer
    refine ⟨.publish l _ htemp habsent ?_ ?_ ?_, fun _ _ => htemp, fun _ _ => htemp⟩
    · intro q hl hq
      have hstaging : ¬staging <+: q := fun hp => hl (hinside.trans hp)
      rw [renamed, if_neg hq, if_neg hstaging]
    · rw [renamed, if_pos List.prefix_rfl, List.drop_length, List.append_nil]
      exact (hrely.kept l h.temp staging hinside h.there).trans_ne h.there
    · intro hi
      refine ⟨hverified, fun rest => ?_⟩
      rw [renamed, if_pos (List.prefix_append _ _), List.drop_left, ← h.known hi rest]
      obtain ⟨below, rfl⟩ := hinside
      rw [List.append_assoc]
      exact hrely.files hi l h.temp _
  | error x =>
    obtain rfl : s₂ = s₁ := hanswer
    exact ⟨.idle, fun _ _ => htemp, fun _ _ => htemp⟩

theorem safe_removeTree (htemp : s.temp i = some l) :
    Safe (answers encode destination i) (contract destination complete verified i) (call (.removeTree l))
      (fun _ _ => True) (fun _ _ => True) s := by
  have hwork : Safe (answers encode destination i) (contract destination complete verified i)
      (call (.removeTree l)) (fun s _ => Working destination i l (fun _ => True) s)
      (fun s _ => s.temp i = some l) s := by
    apply safe_work htemp
    intro s₁ hrely r s₂ hanswer
    obtain ⟨files, rfl, hfiles⟩ := hanswer
    refine ⟨files, rfl, fun q hq => ?_, fun _ _ _ => trivial⟩
    exact (hfiles q).resolve_right fun hremoved => hq hremoved.1
  exact safe_mono hwork (fun _ _ _ => trivial) fun _ _ _ => trivial

end Operations

/-! ## Calls -/

section Calls

variable {ι : Type} [DecidableEq ι] {zipfile : ZipFile} {destination : ι → Location}
  {complete : ι → Location → Option Node} {verified : ι → Prop} {i : ι} {s : Disk ι} {l : Location}

theorem safe_publishArchive {json : JsonCodec} {b : Backup} (htemp : s.temp i = some l)
    (hdestination : destination i = b.location)
    (hverified : verifyArchive zipfile (zipfile.encode (b.members json)) = .ok () → verified i)
    (hcomplete : complete i = (Publication.backup b).complete json zipfile) :
    Safe (answers zipfile.encode destination i) (contract destination complete verified i)
      (publishArchive json zipfile b l) (fun s _ => s.temp i = some l) (fun s _ => s.temp i = some l) s := by
  refine safe_seq (safe_writestr htemp) (fun _ _ h => h) fun s _ h => ?_
  refine safe_seq (safe_writestr h) (fun _ _ h => h) fun s _ h => ?_
  refine safe_seq (safe_closeZip h) (fun _ _ h => h) fun s _ h => ?_
  refine safe_seq (safe_fsync h) (fun _ _ h => h) fun s _ h => ?_
  refine safe_seq (safe_readZip h) (fun _ _ h => h) fun s archive h => ?_
  refine safe_bind.mpr (safe_ofExcept (fun _ hcheck => ?_) fun _ _ => h.temp)
  have hheld : Working destination i l
      (fun files => files l = some (.file (zipfile.encode (b.members json)))) s :=
    ⟨h.temp, fun hi => (h.known hi).1⟩
  have hread : Isolated destination i → verified i := fun hi => hverified ((h.known hi).2 ▸ hcheck)
  rw [← hdestination]
  refine safe_handle.mpr (safe_mono (safe_link hheld hread hcomplete) (fun _ _ h => h) fun s x h => ?_)
  by_cases hx : x = .fileExistsError
  · rw [if_pos hx]
    exact h
  · rw [if_neg hx]
    exact h

theorem safe_saveBackup {pyText : PyText} {json : JsonCodec} {b : Backup}
    (hdestination : destination i = b.location)
    (hverified : verifyArchive zipfile (zipfile.encode (b.members json)) = .ok () → verified i)
    (hcomplete : complete i = (Publication.backup b).complete json zipfile) :
    SafeOn (answers zipfile.encode destination i) (contract destination complete verified i)
      (saveBackup pyText json zipfile b) s := by
  refine safe_bind.mpr (safe_ofExcept (fun _ _ => ?_) fun _ _ => trivial)
  refine safe_bind.mpr (safe_ofExcept (fun _ _ => ?_) fun _ _ => trivial)
  rw [← hdestination]
  refine safe_seq safe_pathExists (fun _ _ _ => trivial) fun s present hpresent => ?_
  refine safe_bind.mpr (safe_ofExcept (fun _ hcheck => ?_) fun _ _ => trivial)
  have hnamed : destination i ≠ [] := hpresent (by simpa using raiseIf_eq_ok.mp hcheck)
  refine safe_seq safe_mkdirParents (fun _ _ _ => trivial) fun s _ _ => ?_
  refine safe_seq (safe_createTemp hnamed) (fun _ _ _ => trivial) fun s l h => ?_
  refine safe_bind.mpr (safe_handle.mpr (safe_mono
    (safe_publishArchive h hdestination hverified hcomplete) (fun s _ h => ?_) fun s x h => ?_))
  · refine safe_bind.mpr (safe_handle.mpr (safe_mono (safe_unlink h) (fun _ _ _ => trivial) fun s x _ => ?_))
    by_cases hx : x.isOsError = true
    · rw [if_pos hx]
      trivial
    · rw [if_neg hx]
      trivial
  · by_cases hx : isException x = true
    · rw [if_pos hx]
      exact safe_seq (safe_unlink h) (fun _ _ _ => trivial) fun _ _ _ => trivial
    · rw [if_neg hx]
      trivial

theorem safe_stagedDirectory {encode : List (Text × Bytes) → Bytes} {b : Bundle}
    (hdestination : destination i = b.destination)
    (hverified : (∀ step ∈ b.body, ∃ entry, step = .ok entry) → verified i)
    (hcomplete : complete i = tree b.body) :
    SafeOn (answers encode destination i) (contract destination complete verified i) (stagedDirectory b) s := by
  unfold stagedDirectory
  rw [← hdestination]
  refine safe_seq safe_lexists (fun _ _ _ => trivial) fun s present hpresent => ?_
  refine safe_bind.mpr (safe_ofExcept (fun _ hcheck => ?_) fun _ _ => trivial)
  have hnamed : destination i ≠ [] := hpresent (by simpa using raiseIf_eq_ok.mp hcheck)
  refine safe_seq safe_mkdirParents (fun _ _ _ => trivial) fun s _ _ => ?_
  refine safe_seq (safe_makeTempDir hnamed) (fun _ _ _ => trivial) fun s l h => ?_
  have hinside : l <+: l ++ ["bundle"] := List.prefix_append _ _
  have hmain : Safe (answers encode destination i) (contract destination complete verified i)
      (do
        call (.mkdir (l ++ ["bundle"]))
        build (l ++ ["bundle"]) b.body
        call (.renameNew (l ++ ["bundle"]) (destination i)))
      (fun s _ => s.temp i = some l) (fun s _ => s.temp i = some l) s := by
    refine safe_seq (safe_mkdir h) (fun _ _ h => h) fun s _ h => ?_
    refine safe_seq (safe_build hinside b.body h) (fun _ _ h => h) fun s _ h => ?_
    refine safe_renameNew hinside (hverified h.1) ?_
    rw [hcomplete]
    exact h.2
  refine safe_bind.mpr (safe_ensuring.mpr (safe_mono hmain (fun s _ h => ?_) fun s _ h => ?_))
  · exact safe_mono (safe_removeTree h) (fun _ _ _ => trivial) fun _ _ _ => trivial
  · exact safe_removeTree h

end Calls

end Cc2Camera.Publish
