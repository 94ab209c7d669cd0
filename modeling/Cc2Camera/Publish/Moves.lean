import Cc2Camera.Publish.Calls

/-!
# Moves — what one operation of a publishing call does to the shared files

Every operation of a call is one of five moves.  What a move keeps of the destinations and of the
temporaries of others is a fact of the places they lie in.
-/

namespace Cc2Camera.Publish

/-! ## Places -/

/-- Neither location lies inside the other. -/
def Apart (l m : Location) : Prop := ¬l <+: m ∧ ¬m <+: l

theorem Apart.ne {l m : Location} (h : Apart l m) : l ≠ m := fun he => h.1 (he ▸ List.prefix_rfl)

theorem Apart.symm {l m : Location} (h : Apart l m) : Apart m l := ⟨h.2, h.1⟩

/-- What lies inside a location lies outside those apart from it. -/
theorem Apart.outside {l m q : Location} (h : Apart l m) (hq : l <+: q) : ¬m <+: q := by
  intro hm
  rcases List.prefix_or_prefix_of_prefix hq hm with hlm | hml
  · exact h.1 hlm
  · exact h.2 hml

theorem parentOf_isPrefix (l : Location) : parentOf l <+: l := List.dropLast_prefix l

theorem not_prefix_parentOf {l : Location} (h : l ≠ []) : ¬l <+: parentOf l := by
  intro hwithin
  have hlength := hwithin.length_le
  rw [parentOf, List.length_dropLast] at hlength
  have := List.length_pos_of_ne_nil h
  omega

section Moves

variable {ι : Type} (destination : ι → Location)

/-- No other destination lies inside the one of `i`, and that one lies inside no other. -/
def Isolated (i : ι) : Prop :=
  ∀ j, destination j = destination i ∨ Apart (destination j) (destination i)

/-- Where a temporary of call `i` is: beside its destination, and above no destination. -/
structure Placed (i : ι) (l : Location) : Prop where
  named : destination i ≠ []
  beside : ∃ name, l = parentOf (destination i) ++ [name]
  apart : ∀ j, ¬l <+: destination j

variable {destination} {i j : ι} {l m : Location}

theorem Isolated.of_eq (h : Isolated destination i) (he : destination j = destination i) :
    Isolated destination j := by
  unfold Isolated
  rw [he]
  exact h

theorem Placed.prefix_or_eq (h : Placed destination i l) (hm : m <+: l) :
    m = l ∨ m <+: parentOf (destination i) := by
  obtain ⟨name, rfl⟩ := h.beside
  exact List.prefix_concat_iff.mp hm

theorem Placed.ne_nil (h : Placed destination i l) : l ≠ [] := by
  obtain ⟨name, rfl⟩ := h.beside
  exact List.concat_ne_nil name _

theorem Placed.apart_destination (h : Placed destination i l)
    (hj : destination j = destination i ∨ Apart (destination j) (destination i)) :
    Apart l (destination j) := by
  refine ⟨h.apart j, fun hwithin => ?_⟩
  rcases h.prefix_or_eq hwithin with heq | hparent
  · exact h.apart j (heq ▸ List.prefix_rfl)
  · rcases hj with heq | hapart
    · exact not_prefix_parentOf h.named (heq ▸ hparent)
    · exact hapart.1 (hparent.trans (parentOf_isPrefix _))

theorem Placed.apart_of_ne (hi : Placed destination i l) (hj : Placed destination j m) (h : l ≠ m) :
    Apart l m := by
  constructor
  · intro hwithin
    rcases hj.prefix_or_eq hwithin with heq | hparent
    · exact h heq
    · exact hi.apart j (hparent.trans (parentOf_isPrefix _))
  · intro hwithin
    rcases hi.prefix_or_eq hwithin with heq | hparent
    · exact h heq.symm
    · exact hj.apart i (hparent.trans (parentOf_isPrefix _))

end Moves

/-! ## Moves -/

section Move

variable {ι : Type} [DecidableEq ι] (destination : ι → Location) (complete : ι → Location → Option Node)
  (verified : ι → Prop)

/-- What one operation of call `i` can do. -/
inductive Move (i : ι) (s : Disk ι) : Disk ι → Prop where
  | idle : Move i s s
  | parents (files : Files) (hfiles : ∀ q, files q = s.files q ∨
      s.files q = none ∧ q <+: parentOf (destination i) ∧ files q = some .directory) :
      Move i s { s with files }
  | take (l : Location) (node : Node) (hplaced : Placed destination i l) (hfresh : Fresh destination s l) :
      Move i s (s.take i l node)
  | work (l : Location) (files : Files) (htemp : s.temp i = some l)
      (hfiles : ∀ q, ¬l <+: q → files q = s.files q) : Move i s { s with files }
  | publish (l : Location) (files : Files) (htemp : s.temp i = some l)
      (habsent : Absent s.files (destination i))
      (hfiles : ∀ q, ¬l <+: q → ¬destination i <+: q → files q = s.files q)
      (hthere : files (destination i) ≠ none)
      (hcomplete : Isolated destination i → verified i ∧ ∀ rest, files (destination i ++ rest) = complete i rest) :
      Move i s (s.publish i files)

/-- The invariant of the shared files. -/
structure Sound (s : Disk ι) : Prop where
  root : s.files [] = some .directory
  placed : ∀ i l, s.temp i = some l → Placed destination i l
  distinct : ∀ i j l, s.temp i = some l → s.temp j = some l → i = j
  shown : ∀ i, Isolated destination i → s.published i = true →
    verified i ∧ ∀ rest, s.files (destination i ++ rest) = complete i rest
  occupied : ∀ i, s.published i = true → s.files (destination i) ≠ none
  single : ∀ i j, destination j = destination i → s.published i = true → s.published j = true → i = j

/-- What a call relies on: nobody else touches what is in its temporary, and where its destination is isolated nobody
puts anything there. -/
structure Relies (i : ι) (s s' : Disk ι) : Prop where
  temp : s'.temp i = s.temp i
  kept : ∀ l, s.temp i = some l → ∀ q, l <+: q → s.files q ≠ none → s'.files q = s.files q
  files : Isolated destination i → ∀ l, s.temp i = some l → ∀ rest,
    s'.files (l ++ rest) = s.files (l ++ rest)

variable {destination complete verified} {i j : ι} {s s' : Disk ι}

theorem Absent.eq_none {files : Files} {l q : Location} (h : Absent files l) (hq : l <+: q) :
    files q = none := by
  obtain ⟨rest, rfl⟩ := hq
  exact h rest

omit [DecidableEq ι] in
theorem Sound.named (hs : Sound destination complete verified s)
    (h : s.files (destination i) = none ∨ s.files (destination i) = some .other) : destination i ≠ [] := by
  intro hnil
  rw [hnil, hs.root] at h
  simp at h

omit [DecidableEq ι] in
theorem Sound.apart_temp {l : Location} (hs : Sound destination complete verified s)
    (hj : Isolated destination j) (htemp : s.temp i = some l) : Apart l (destination j) :=
  (hs.placed i l htemp).apart_destination ((hj i).imp Eq.symm Apart.symm)

/-- A move keeps an isolated destination, or publishes it where nothing was. -/
theorem Move.destination_cases (hs : Sound destination complete verified s)
    (h : Move destination complete verified i s s') (hj : Isolated destination j) :
    (∀ rest, s'.files (destination j ++ rest) = s.files (destination j ++ rest)) ∧
        s'.published j = s.published j ∨
      destination j = destination i ∧ Absent s.files (destination i) ∧ s'.published i = true ∧
        verified i ∧ ∀ rest, s'.files (destination i ++ rest) = complete i rest := by
  cases h with
  | idle => exact .inl ⟨fun rest => rfl, rfl⟩
  | parents files hfiles =>
    refine .inl ⟨fun rest => ?_, rfl⟩
    rcases hfiles (destination j ++ rest) with hsame | ⟨hnone, hparent, -⟩
    · exact hsame
    · exfalso
      have hwithin := (List.prefix_append _ rest).trans hparent
      rcases hj i with heq | hapart
      · rw [heq] at hparent hwithin
        by_cases hnil : destination j = []
        · rw [hnil] at hparent hnone
          have hrest : rest = [] := List.prefix_nil.mp hparent
          rw [hrest, List.append_nil, hs.root] at hnone
          exact Option.some_ne_none _ hnone
        · exact not_prefix_parentOf hnil hwithin
      · exact hapart.2 (hwithin.trans (parentOf_isPrefix _))
  | take l node hplaced hfresh =>
    refine .inl ⟨fun rest => ?_, rfl⟩
    have hapart := hplaced.apart_destination ((hj i).imp Eq.symm Apart.symm)
    have hne : destination j ++ rest ≠ l := fun he => hapart.2 (he ▸ List.prefix_append _ rest)
    exact Function.update_of_ne hne _ _
  | work l files htemp hfiles =>
    refine .inl ⟨fun rest => hfiles _ ?_, rfl⟩
    exact (hs.apart_temp hj htemp).symm.outside (List.prefix_append _ rest)
  | publish l files htemp habsent hfiles _ hcomplete =>
    rcases hj i with heq | hapart
    · have hi : Isolated destination i := hj.of_eq heq
      exact .inr ⟨heq.symm, habsent, Function.update_self _ _ _, hcomplete hi⟩
    · have hij : j ≠ i := fun he => hapart.ne (by rw [he])
      refine .inl ⟨fun rest => hfiles _ ?_ ?_, Function.update_of_ne hij _ _⟩
      · exact (hs.apart_temp hj htemp).symm.outside (List.prefix_append _ rest)
      · exact hapart.symm.outside (List.prefix_append _ rest)

theorem Move.temp_of_ne (h : Move destination complete verified i s s') (hij : j ≠ i) :
    s'.temp j = s.temp j := by
  cases h with
  | take l => exact Function.update_of_ne hij _ _
  | _ => rfl

theorem Move.published_of_ne (h : Move destination complete verified i s s') (hij : j ≠ i) :
    s'.published j = s.published j := by
  cases h with
  | publish => exact Function.update_of_ne hij _ _
  | _ => rfl

/-- A move that removes something removes it from the temporary of its call. -/
theorem Move.removes_temp (h : Move destination complete verified i s s') {q : Location}
    (hbefore : s.files q ≠ none) (hafter : s'.files q = none) : ∃ l, s.temp i = some l ∧ l <+: q := by
  cases h with
  | idle => exact absurd hafter hbefore
  | parents files hfiles =>
    rcases hfiles q with hsame | ⟨hnone, -⟩
    · exact absurd (hsame ▸ hafter) hbefore
    · exact absurd hnone hbefore
  | take l node hplaced hfresh =>
    by_cases hq : q = l
    · subst hq
      exact absurd (hfresh.absent.eq_none List.prefix_rfl) hbefore
    · have hsame : (s.take i l node).files q = s.files q := Function.update_of_ne hq _ _
      exact absurd (hsame ▸ hafter) hbefore
  | work l files htemp hfiles =>
    by_cases hq : l <+: q
    · exact ⟨l, htemp, hq⟩
    · exact absurd (hfiles q hq ▸ hafter) hbefore
  | publish l files htemp habsent hfiles =>
    by_cases hq : l <+: q
    · exact ⟨l, htemp, hq⟩
    · by_cases hd : destination i <+: q
      · exact absurd (habsent.eq_none hd) hbefore
      · exact absurd (hfiles q hq hd ▸ hafter) hbefore

/-- What is at a destination stays there, whether or not other destinations lie around it. -/
theorem Move.keeps_occupied (hs : Sound destination complete verified s)
    (h : Move destination complete verified i s s') (hj : s.files (destination j) ≠ none) :
    s'.files (destination j) ≠ none := by
  cases h with
  | idle => exact hj
  | parents files hfiles =>
    rcases hfiles (destination j) with hsame | ⟨hnone, -⟩
    · exact hsame.trans_ne hj
    · exact absurd hnone hj
  | take l node hplaced hfresh =>
    have hne : destination j ≠ l := fun he => hplaced.apart j (he ▸ List.prefix_rfl)
    have hsame : (s.take i l node).files (destination j) = s.files (destination j) := Function.update_of_ne hne _ _
    exact hsame.trans_ne hj
  | work l files htemp hfiles => exact (hfiles _ ((hs.placed i l htemp).apart j)).trans_ne hj
  | publish l files htemp habsent hfiles =>
    have hnot : ¬destination i <+: destination j := fun hwithin => hj (habsent.eq_none hwithin)
    exact (hfiles _ ((hs.placed i l htemp).apart j) hnot).trans_ne hj

theorem Move.relies (hs : Sound destination complete verified s)
    (h : Move destination complete verified i s s') (hij : j ≠ i) :
    Relies destination j s s' := by
  have hfresh {m l : Location} (hplaced : Placed destination j m) (hl : Placed destination i l) (hml : m ≠ l)
      {q : Location} (hq : m <+: q) : q ≠ l := fun he => (hplaced.apart_of_ne hl hml).1 (he ▸ hq)
  refine ⟨h.temp_of_ne hij, fun m hm q hq hne => ?_, fun hj m hm rest => ?_⟩
  · have hplaced := hs.placed j m hm
    cases h with
    | idle => rfl
    | parents files hfiles => exact (hfiles q).resolve_right fun hnew => hne hnew.1
    | take l node hl hunused =>
      exact Function.update_of_ne (hfresh hplaced hl (fun he => hunused.unused j (he ▸ hm)) hq) _ _
    | work l files htemp hfiles =>
      have hml : m ≠ l := fun he => hij (hs.distinct j i m hm (he ▸ htemp))
      exact hfiles q ((hplaced.apart_of_ne (hs.placed i l htemp) hml).outside hq)
    | publish l files htemp habsent hfiles =>
      have hml : m ≠ l := fun he => hij (hs.distinct j i m hm (he ▸ htemp))
      -- nothing is published over what is there
      exact hfiles q ((hplaced.apart_of_ne (hs.placed i l htemp) hml).outside hq) fun hover => hne (habsent.eq_none hover)
  · have hplaced := hs.placed j m hm
    have hinside : m <+: m ++ rest := List.prefix_append m rest
    cases h with
    | idle => rfl
    | parents files hfiles =>
      rcases hfiles (m ++ rest) with hsame | ⟨-, hparent, -⟩
      · exact hsame
      · exact absurd (hinside.trans (hparent.trans (parentOf_isPrefix _))) (hplaced.apart i)
    | take l node hl hunused =>
      exact Function.update_of_ne (hfresh hplaced hl (fun he => hunused.unused j (he ▸ hm)) hinside) _ _
    | work l files htemp hfiles =>
      have hml : m ≠ l := fun he => hij (hs.distinct j i m hm (he ▸ htemp))
      exact hfiles _ ((hplaced.apart_of_ne (hs.placed i l htemp) hml).outside hinside)
    | publish l files htemp habsent hfiles =>
      have hml : m ≠ l := fun he => hij (hs.distinct j i m hm (he ▸ htemp))
      refine hfiles _ ?_ ?_
      · exact (hplaced.apart_of_ne (hs.placed i l htemp) hml).outside hinside
      · exact (hplaced.apart_destination (hj i)).outside hinside

theorem Move.root (hs : Sound destination complete verified s)
    (h : Move destination complete verified i s s') : s'.files [] = some .directory := by
  rw [← hs.root]
  cases h with
  | idle => rfl
  | parents files hfiles =>
    rcases hfiles [] with hsame | ⟨hnone, -⟩
    · exact hsame
    · rw [hs.root] at hnone
      exact absurd hnone (Option.some_ne_none _)
  | take l node hplaced => exact Function.update_of_ne hplaced.ne_nil.symm _ _
  | work l files htemp hfiles =>
    exact hfiles [] fun h => (hs.placed i l htemp).ne_nil (List.prefix_nil.mp h)
  | publish l files htemp habsent hfiles =>
    refine hfiles [] (fun h => (hs.placed i l htemp).ne_nil (List.prefix_nil.mp h)) fun h => ?_
    have hnone := habsent.eq_none h
    rw [hs.root] at hnone
    exact Option.some_ne_none _ hnone

/-- The temporaries after a move are those before, or one of them is new. -/
theorem Move.temp_cases (h : Move destination complete verified i s s') {l : Location}
    (hl : s'.temp j = some l) :
    s.temp j = some l ∨ j = i ∧ Placed destination i l ∧ (∀ k, s.temp k ≠ some l) ∧
      ∀ k, k ≠ i → s'.temp k = s.temp k := by
  by_cases hj : j = i
  · subst hj
    cases h with
    | take m node hplaced hfresh =>
      have hself : (s.take j m node).temp j = some m := Function.update_self _ _ _
      have hm : m = l := Option.some.inj (hself.symm.trans hl)
      subst hm
      exact .inr ⟨rfl, hplaced, hfresh.unused, fun k hk => Function.update_of_ne hk _ _⟩
    | _ => exact .inl hl
  · exact .inl (h.temp_of_ne hj ▸ hl)

theorem Move.published_mono (h : Move destination complete verified i s s')
    (hj : s.published j = true) : s'.published j = true := by
  by_cases hji : j = i
  · subst hji
    cases h with
    | publish => exact Function.update_self _ _ _
    | _ => exact hj
  · exact h.published_of_ne hji ▸ hj

theorem Move.published_cases (h : Move destination complete verified i s s')
    (hj : s'.published j = true) :
    s.published j = true ∨ j = i ∧ Absent s.files (destination i) ∧ s'.files (destination i) ≠ none := by
  by_cases hji : j = i
  · cases h with
    | publish l files htemp habsent hfiles hthere => exact .inr ⟨hji, habsent, hthere⟩
    | _ => exact .inl hj
  · exact .inl (h.published_of_ne hji ▸ hj)

theorem Move.sound (hs : Sound destination complete verified s)
    (h : Move destination complete verified i s s') : Sound destination complete verified s' := by
  -- a published destination is occupied, so no call publishes there again
  have hoccupied (j : ι) (hpublished : s.published j = true) : ¬Absent s.files (destination j) :=
    fun habsent => hs.occupied j hpublished (habsent.eq_none List.prefix_rfl)
  constructor
  · exact h.root hs
  · intro j l hl
    rcases h.temp_cases hl with hold | ⟨rfl, hplaced, -⟩
    · exact hs.placed j l hold
    · exact hplaced
  · intro j k l hj hk
    rcases h.temp_cases hj with hj₀ | ⟨rfl, -, hunused, hothers⟩
    · rcases h.temp_cases hk with hk₀ | ⟨rfl, -, hunused, -⟩
      · exact hs.distinct j k l hj₀ hk₀
      · exact absurd hj₀ (hunused j)
    · by_cases hkj : k = j
      · exact hkj.symm
      · exact absurd (hothers k hkj ▸ hk) (hunused k)
  · intro j hj hpublished
    rcases h.destination_cases hs hj with ⟨hsame, hflag⟩ | ⟨heq, habsent, -, hverified, hshown⟩
    · have hold := hs.shown j hj (hflag ▸ hpublished)
      exact ⟨hold.1, fun rest => (hsame rest).trans (hold.2 rest)⟩
    · rcases h.published_cases hpublished with hold | ⟨rfl, -⟩
      · exact absurd (heq ▸ habsent) (hoccupied j hold)
      · exact ⟨hverified, hshown⟩
  · intro j hpublished
    rcases h.published_cases hpublished with hold | ⟨rfl, -, hthere⟩
    · exact h.keeps_occupied hs (hs.occupied j hold)
    · exact hthere
  · intro j k heq hpj hpk
    rcases h.published_cases hpj with hj₀ | ⟨rfl, habsent, -⟩
    · rcases h.published_cases hpk with hk₀ | ⟨rfl, habsent, -⟩
      · exact hs.single j k heq hj₀ hk₀
      · exact absurd (heq ▸ habsent) (hoccupied j hj₀)
    · rcases h.published_cases hpk with hk₀ | ⟨rfl, -⟩
      · exact absurd (heq ▸ habsent) (hoccupied k hk₀)
      · rfl

end Move

end Cc2Camera.Publish
