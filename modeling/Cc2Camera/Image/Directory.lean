import Cc2Camera.Image.LiveFiles
import Cc2Camera.Image.Scan
import Cc2Camera.Lib.Newest

/-!
# Directory — how the scan's directory entries are resolved

`currentDirents` makes one pass and compares an entry only with the best of its name so far.  What it
accepts maps every name to its newest entry; but a version repeated below the newest is refused or passed
over according to where it lies in flash (`directoryLaw_iff`).
-/

open Bytes Exceptions Newest

namespace Cc2Camera.Image

/-! ## 1. The dict -/

theorem DirentMap.lookup_set (map : DirentMap) (key key' : Nat × Bytes) (entry : Dirent) :
    (map.set key entry).lookup key' = if key' = key then some entry else map.lookup key' := by
  induction map with
  | nil =>
    rw [DirentMap.set, List.lookup_cons]
    by_cases h : key' = key
    · rw [beq_iff_eq.mpr h, if_pos h]
    · rw [beq_eq_false_iff_ne.mpr h, if_neg h]
  | cons e map ih =>
    obtain ⟨k, e⟩ := e
    by_cases hk : k = key
    · rw [DirentMap.set, if_pos hk, List.lookup_cons, List.lookup_cons, hk]
      by_cases h : key' = key
      · rw [beq_iff_eq.mpr h, if_pos h]
      · rw [beq_eq_false_iff_ne.mpr h, if_neg h]
    · rw [DirentMap.set, if_neg hk, List.lookup_cons, List.lookup_cons, ih]
      by_cases h : key' = k
      · have hother : ¬key' = key := fun hkey => hk (h.symm.trans hkey)
        simp only [beq_iff_eq.mpr h, if_neg hother]
      · rw [beq_eq_false_iff_ne.mpr h]

theorem DirentMap.mem_of_lookup {map : DirentMap} {key : Nat × Bytes} {entry : Dirent}
    (h : map.lookup key = some entry) : (key, entry) ∈ map := by
  obtain ⟨front, back, rfl, -⟩ := List.lookup_eq_some_iff.mp h
  exact List.mem_append_right front List.mem_cons_self

theorem DirentMap.lookup_of_mem {map : DirentMap} (hmap : map.keys.Nodup) {key : Nat × Bytes}
    {entry : Dirent} (h : (key, entry) ∈ map) : map.lookup key = some entry := by
  cases hlookup : map.lookup key with
  | none =>
    have hnone := List.lookup_eq_none_iff.mp hlookup (key, entry) h
    simp at hnone
  | some other =>
    have hother := DirentMap.mem_of_lookup hlookup
    have hsame := List.inj_on_of_nodup_map hmap hother h rfl
    rw [(Prod.mk.inj hsame).2]

/-! ## 2. One pass -/

def Dirent.key (d : Dirent) : Nat × Bytes := (d.parentInode, d.name)

/-- The entries of one name, in flash order. -/
def entriesOf (key : Nat × Bytes) (dirents : List Dirent) : List Dirent :=
  dirents.filter fun d => d.key = key

def ambiguousEntries (name : Bytes) : Exc :=
  .validationError ("Config has ambiguous current directory entries for " ++ bytesRepr name)

/-- The dict holds the newest entry of every name seen. -/
def Resolved (done : List Dirent) (map : DirentMap) : Prop :=
  ∀ key, (map.lookup key = none ∧ entriesOf key done = []) ∨
    ∃ entry, map.lookup key = some entry ∧ IsNewest Dirent.version (entriesOf key done) entry

theorem resolved_nil : Resolved [] [] := fun _ => .inl ⟨rfl, rfl⟩

theorem entriesOf_snoc_self (done : List Dirent) (node : Dirent) :
    entriesOf node.key (done ++ [node]) = entriesOf node.key done ++ [node] := by
  rw [entriesOf, List.filter_append, List.filter_singleton, decide_eq_true rfl]
  rfl

theorem entriesOf_snoc_other {done : List Dirent} {node : Dirent} {key : Nat × Bytes}
    (h : key ≠ node.key) : entriesOf key (done ++ [node]) = entriesOf key done := by
  rw [entriesOf, List.filter_append, List.filter_singleton, decide_eq_false h.symm]
  exact List.append_nil _

theorem Resolved.set {done : List Dirent} {map : DirentMap} {node : Dirent} (h : Resolved done map)
    (hnewest : IsNewest Dirent.version (entriesOf node.key (done ++ [node])) node) :
    Resolved (done ++ [node]) (map.set node.key node) := by
  intro key
  rw [DirentMap.lookup_set]
  by_cases hkey : key = node.key
  · rw [if_pos hkey, hkey]
    exact .inr ⟨node, rfl, hnewest⟩
  · rw [if_neg hkey, entriesOf_snoc_other hkey]
    exact h key

/-- One turn of the pass: it refuses a version equal to the best so far, or goes on with the newest. -/
theorem resolveDirents_cons {done nodes : List Dirent} {map : DirentMap} {node : Dirent}
    (h : Resolved done map) :
    ((∃ entry ∈ entriesOf node.key done, entry.version = node.version) ∧
        resolveDirents (node :: nodes) map = .error (ambiguousEntries node.name)) ∨
      ∃ map', Resolved (done ++ [node]) map' ∧
        resolveDirents (node :: nodes) map = resolveDirents nodes map' := by
  have hself := entriesOf_snoc_self done node
  rcases h node.key with ⟨hnone, hnil⟩ | ⟨previous, hsome, hprevious⟩
  · refine .inr ⟨map.set node.key node, h.set ?_, ?_⟩
    · rw [hself, hnil]
      exact isNewest_singleton node
    · rw [resolveDirents]
      simp only [show map.lookup (node.parentInode, node.name) = none from hnone]
      rfl
  · rw [resolveDirents]
    simp only [show map.lookup (node.parentInode, node.name) = some previous from hsome]
    rcases Nat.lt_trichotomy node.version previous.version with hlt | heq | hgt
    · refine .inr ⟨map, ?_, ?_⟩
      · intro key
        by_cases hkey : key = node.key
        · rw [hkey, hself]
          exact .inr ⟨previous, hsome, hprevious.append_of_gt hlt⟩
        · rw [entriesOf_snoc_other hkey]
          exact h key
      · rw [raiseIf_of_not (by omega), ok_bind, if_neg (by omega)]
    · refine .inl ⟨⟨previous, hprevious.mem, heq.symm⟩, ?_⟩
      rw [raiseIf_of heq]
      rfl
    · refine .inr ⟨map.set node.key node, h.set ?_, ?_⟩
      · rw [hself]
        exact hprevious.append_of_lt hgt
      · rw [raiseIf_of_not (by omega), ok_bind, if_pos hgt]
        rfl

theorem resolveDirents_resolved {done nodes : List Dirent} {map map' : DirentMap}
    (h : Resolved done map) (hok : resolveDirents nodes map = .ok map') :
    Resolved (done ++ nodes) map' := by
  induction nodes generalizing done map with
  | nil =>
    rw [List.append_nil, ← Except.ok.inj hok]
    exact h
  | cons node nodes ih =>
    rcases @resolveDirents_cons done nodes map node h with ⟨-, hrefused⟩ | ⟨next, hnext, hrest⟩
    · rw [hrefused] at hok
      exact absurd hok (by simp)
    · rw [hrest] at hok
      rw [List.append_cons]
      exact ih hnext hok

/-- A refusal names an entry whose version its name holds twice. -/
theorem resolveDirents_refused {done nodes : List Dirent} {map : DirentMap} {exc : Exc}
    (h : Resolved done map) (herror : resolveDirents nodes map = .error exc) :
    ∃ node ∈ nodes, exc = ambiguousEntries node.name ∧
      ¬((entriesOf node.key (done ++ nodes)).map Dirent.version).Nodup := by
  induction nodes generalizing done map with
  | nil => exact absurd herror (by simp [resolveDirents])
  | cons node nodes ih =>
    rcases @resolveDirents_cons done nodes map node h with ⟨⟨entry, hentry, hversion⟩, hrefused⟩ |
      ⟨next, hnext, hrest⟩
    · rw [hrefused] at herror
      refine ⟨node, List.mem_cons_self, (Except.error.inj herror).symm, ?_⟩
      -- the two entries, one in each part of the list
      rw [List.append_cons, entriesOf, List.filter_append, ← entriesOf, entriesOf_snoc_self,
        List.map_append, List.map_append]
      intro hnodup
      have hparts := (List.nodup_append.mp (List.nodup_append.mp hnodup).1).2.2
      exact hparts _ (List.mem_map_of_mem hentry) _ (List.mem_singleton_self _) hversion
    · rw [hrest] at herror
      rw [List.append_cons]
      obtain ⟨other, hother, hexc⟩ := ih hnext herror
      exact ⟨other, List.mem_cons_of_mem _ hother, hexc⟩

/-! ## 3. The directory of a scan -/

/-- The current entries of one name. -/
def currentEntries (nodes : List Node) (key : Nat × Bytes) : List Dirent :=
  entriesOf key ((nodes.filter fun n => n.current).filterMap Node.dirent?)

theorem currentEntries_perm {nodes nodes' : List Node} (h : nodes.Perm nodes') (key : Nat × Bytes) :
    (currentEntries nodes key).Perm (currentEntries nodes' key) :=
  ((h.filter _).filterMap _).filter _

/-- The directory as it is read afterwards: the entry of each name, or a refusal. -/
def directory (nodes : List Node) : Option (Nat × Bytes → Option Dirent) :=
  (currentDirents nodes).toOption.map fun map key => map.lookup key

def Refuses (nodes : List Node) : Prop :=
  ∃ name, currentDirents nodes = .error (ambiguousEntries name)

/-- Resolution by content: where the nodes lie does not matter, a name is refused when its newest version
is held twice, and its newest entry is the one that counts. -/
structure DirectoryLaw (nodes : List Node) : Prop where
  order : ∀ nodes', nodes.Perm nodes' → directory nodes' = directory nodes
  refuses : Refuses nodes ↔ ∃ key, Ambiguous Dirent.version (currentEntries nodes key)
  newest : ∀ map, currentDirents nodes = .ok map → ∀ key entry,
    map.lookup key = some entry ↔ IsNewest Dirent.version (currentEntries nodes key) entry
  tombstone : ∀ map, currentDirents nodes = .ok map → ∀ name entry,
    IsNewest Dirent.version (currentEntries nodes (1, name)) entry → entry.inode = 0 →
      (liveEntries map).lookup name = none

theorem currentDirents_resolved {nodes : List Node} {map : DirentMap}
    (h : currentDirents nodes = .ok map) (key : Nat × Bytes) :
    (map.lookup key = none ∧ currentEntries nodes key = []) ∨
      ∃ entry, map.lookup key = some entry ∧
        IsNewest Dirent.version (currentEntries nodes key) entry :=
  resolveDirents_resolved resolved_nil h key

theorem currentDirents_lookup {nodes : List Node} {map : DirentMap}
    (h : currentDirents nodes = .ok map) (key : Nat × Bytes) (entry : Dirent) :
    map.lookup key = some entry ↔ IsNewest Dirent.version (currentEntries nodes key) entry := by
  rcases currentDirents_resolved h key with ⟨hnone, hnil⟩ | ⟨found, hsome, hnewest⟩
  · rw [hnone, hnil]
    exact ⟨nofun, fun hnewest => absurd hnewest.mem List.not_mem_nil⟩
  · rw [hsome, Option.some.injEq]
    exact ⟨fun heq => heq ▸ hnewest, fun hentry => hnewest.unique hentry⟩

theorem not_ambiguous_of_ok {nodes : List Node} {map : DirentMap}
    (h : currentDirents nodes = .ok map) (key : Nat × Bytes) :
    ¬Ambiguous Dirent.version (currentEntries nodes key) := by
  rcases currentDirents_resolved h key with ⟨-, hnil⟩ | ⟨entry, -, hnewest⟩
  · rw [hnil]
    exact not_ambiguous_nil
  · exact hnewest.not_ambiguous

theorem currentDirents_error {nodes : List Node} {exc : Exc} (h : currentDirents nodes = .error exc) :
    Refuses nodes ∧ ∃ key, ¬((currentEntries nodes key).map Dirent.version).Nodup := by
  obtain ⟨node, -, rfl, hrepeated⟩ := resolveDirents_refused resolved_nil h
  exact ⟨⟨node.name, h⟩, node.key, hrepeated⟩

/-- A live entry is the dict's entry of its name. -/
theorem lookup_of_live {nodes : List Node} {map : DirentMap} (h : currentDirents nodes = .ok map)
    {name : Bytes} {entry : Dirent} (hlive : (liveEntries map).lookup name = some entry) :
    map.lookup (1, name) = some entry ∧ entry.inode ≠ 0 := by
  obtain ⟨front, back, hsplit, -⟩ := List.lookup_eq_some_iff.mp hlive
  have hmem : (name, entry) ∈ liveEntries map := by
    rw [hsplit]
    exact List.mem_append_right front List.mem_cons_self
  obtain ⟨⟨⟨parent, name'⟩, entry'⟩, hfound, hpair⟩ := List.mem_map.mp hmem
  obtain ⟨hin, hroot⟩ := List.mem_filter.mp hfound
  obtain ⟨rfl, rfl⟩ := Prod.mk.inj hpair
  rw [decide_eq_true_eq] at hroot
  obtain ⟨hparent, hinode⟩ := hroot
  obtain rfl : parent = 1 := hparent
  exact ⟨DirentMap.lookup_of_mem (currentDirents_nodup h) hin, hinode⟩

/-! ## 4. When resolution is by content -/

theorem directory_of_error {nodes : List Node} {exc : Exc} (h : currentDirents nodes = .error exc) :
    directory nodes = none := by
  rw [directory, h]
  rfl

/-- Two dicts read off permuted scans agree. -/
theorem directory_of_ok {nodes nodes' : List Node} {map map' : DirentMap} (hperm : nodes.Perm nodes')
    (h : currentDirents nodes = .ok map) (h' : currentDirents nodes' = .ok map') :
    directory nodes' = directory nodes := by
  rw [directory, directory, h, h']
  have hsame : (fun key => map'.lookup key) = fun key => map.lookup key := by
    funext key
    apply Option.ext
    intro entry
    rw [currentDirents_lookup h, currentDirents_lookup h']
    exact ⟨fun hn => hn.of_perm (currentEntries_perm hperm key).symm,
      fun hn => hn.of_perm (currentEntries_perm hperm key)⟩
  exact congrArg some hsame

-- the version a node contributes to a name
def entryVersion (key : Nat × Bytes) (n : Node) : Option Nat :=
  if n.current then (n.dirent?.filter fun d => d.key = key).map Dirent.version else none

theorem versions_eq (nodes : List Node) (key : Nat × Bytes) :
    (currentEntries nodes key).map Dirent.version = nodes.filterMap (entryVersion key) := by
  induction nodes with
  | nil => rfl
  | cons n nodes ih =>
    rw [List.filterMap_cons, ← ih, entryVersion, currentEntries, entriesOf, List.filter_cons]
    cases hcurrent : n.current with
    | false => rfl
    | true =>
      rw [if_pos rfl, if_pos rfl, List.filterMap_cons]
      cases n.dirent? with
      | none => rfl
      | some d =>
        simp only [List.filter_cons, Option.filter_some]
        by_cases hkey : d.key = key
        · simp only [hkey, decide_true, if_true]
          rfl
        · simp only [hkey, decide_false, Bool.false_eq_true, if_false]
          rfl

theorem entryVersion_eq_some {key : Nat × Bytes} {n : Node} {v : Nat}
    (h : entryVersion key n = some v) :
    n.current = true ∧ ∃ d, n.dirent? = some d ∧ d.key = key ∧ d.version = v := by
  unfold entryVersion at h
  split at h
  · rename_i hcurrent
    obtain ⟨d, hd, rfl⟩ := Option.map_eq_some_iff.mp h
    obtain ⟨hdirent, hkey⟩ := Option.filter_eq_some_iff.mp hd
    exact ⟨hcurrent, d, hdirent, by simpa using hkey, rfl⟩
  · exact absurd h (by simp)

/-- A version its name holds twice is refused when the two entries come first. -/
theorem refused_of_front {a b : Node} {rest : List Node} {key : Nat × Bytes} {v : Nat}
    (ha : entryVersion key a = some v) (hb : entryVersion key b = some v) :
    ∃ exc, currentDirents (a :: b :: rest) = .error exc := by
  obtain ⟨hcurrent, d, hd, hkey, hversion⟩ := entryVersion_eq_some ha
  obtain ⟨hcurrent', d', hd', hkey', hversion'⟩ := entryVersion_eq_some hb
  have hdirents : ((a :: b :: rest).filter fun n => n.current).filterMap Node.dirent? =
      d :: d' :: (rest.filter fun n => n.current).filterMap Node.dirent? := by
    rw [List.filter_cons_of_pos hcurrent, List.filter_cons_of_pos hcurrent',
      List.filterMap_cons_some hd, List.filterMap_cons_some hd']
  have hsame : d'.key = d.key := hkey'.trans hkey.symm
  refine ⟨ambiguousEntries d'.name, ?_⟩
  rw [currentDirents, hdirents, resolveDirents]
  show resolveDirents (d' :: _) [(d.key, d)] = _
  rw [resolveDirents]
  have hlookup : List.lookup (d'.parentInode, d'.name) [(d.key, d)] = some d := by
    show List.lookup d'.key _ = _
    rw [hsame, List.lookup_cons, beq_self_eq_true]
  simp only [hlookup]
  rw [raiseIf_of (hversion'.trans hversion.symm)]
  rfl

/-- Resolution is by content exactly when a newest version is held twice, which is always refused, or no
name holds any version twice. -/
theorem directoryLaw_iff (nodes : List Node) :
    DirectoryLaw nodes ↔
      (∃ key, Ambiguous Dirent.version (currentEntries nodes key)) ∨
        ∀ key, ((currentEntries nodes key).map Dirent.version).Nodup := by
  constructor
  · intro law
    by_contra hneither
    rw [not_or] at hneither
    obtain ⟨hclear, hrepeated⟩ := hneither
    rw [not_forall] at hrepeated
    obtain ⟨key, hkey⟩ := hrepeated
    rw [versions_eq] at hkey
    obtain ⟨a, b, rest, v, hperm, ha, hb⟩ := exists_perm_of_not_nodup hkey
    obtain ⟨exc, herror⟩ := @refused_of_front a b rest key v ha hb
    -- these nodes are refused in that order, so the law refuses them in any
    have hnone : directory nodes = none := by
      rw [← law.order _ hperm, directory_of_error herror]
    cases hok : currentDirents nodes with
    | ok map => simp [directory, hok, Except.toOption] at hnone
    | error exc' => exact hclear (law.refuses.mp (currentDirents_error hok).1)
  · intro hcontent
    have refused {nodes' : List Node} {exc : Exc} (hperm : nodes.Perm nodes')
        (h : currentDirents nodes' = .error exc) :
        ∃ key, Ambiguous Dirent.version (currentEntries nodes key) := by
      rcases hcontent with hambiguous | hdistinct
      · exact hambiguous
      · obtain ⟨-, key, hkey⟩ := currentDirents_error h
        exact absurd (((currentEntries_perm hperm key).map _).nodup_iff.mp (hdistinct key)) hkey
    have accepted {nodes' : List Node} {map : DirentMap} (hperm : nodes.Perm nodes')
        (h : currentDirents nodes' = .ok map) (key : Nat × Bytes) :
        ¬Ambiguous Dirent.version (currentEntries nodes key) := fun hambiguous =>
      not_ambiguous_of_ok h key (hambiguous.of_perm (currentEntries_perm hperm key))
    refine ⟨?_, ?_, fun map h => currentDirents_lookup h, ?_⟩
    · intro nodes' hperm
      cases h : currentDirents nodes with
      | ok map =>
        cases h' : currentDirents nodes' with
        | ok map' => exact directory_of_ok hperm h h'
        | error exc =>
          obtain ⟨key, hkey⟩ := refused hperm h'
          exact absurd hkey (accepted (List.Perm.refl nodes) h key)
      | error exc =>
        obtain ⟨key, hkey⟩ := refused (List.Perm.refl nodes) h
        cases h' : currentDirents nodes' with
        | ok map' => exact absurd hkey (accepted hperm h' key)
        | error exc' => rw [directory_of_error h, directory_of_error h']
    · constructor
      · rintro ⟨name, h⟩
        exact refused (List.Perm.refl nodes) h
      · rintro ⟨key, hkey⟩
        cases h : currentDirents nodes with
        | ok map => exact absurd hkey (accepted (List.Perm.refl nodes) h key)
        | error exc =>
          obtain ⟨name, hname⟩ := (currentDirents_error h).1
          exact ⟨name, by rw [← hname, h]⟩
    · intro map h name entry hentry hzero
      cases hlive : (liveEntries map).lookup name with
      | none => rfl
      | some live =>
        obtain ⟨hlookup, hinode⟩ := lookup_of_live h hlive
        have hsame := hentry.unique ((currentDirents_lookup h _ _).mp hlookup)
        exact absurd (hsame ▸ hzero) hinode

/-! ## 5. A version repeated below the newest -/

-- two copies of an old entry of serial.cfg and its newer one, at three places in flash
def repeatedNodes : List Node :=
  [direntNode 0 (rootDirent 1 2 1 8 SERIAL_CFG), direntNode 64 (rootDirent 1 2 1 8 SERIAL_CFG),
    direntNode 128 (rootDirent 2 3 1 8 SERIAL_CFG)]

-- the same nodes with the newer entry between the copies
def reorderedNodes : List Node :=
  [direntNode 0 (rootDirent 1 2 1 8 SERIAL_CFG), direntNode 128 (rootDirent 2 3 1 8 SERIAL_CFG),
    direntNode 64 (rootDirent 1 2 1 8 SERIAL_CFG)]

/-- The copies are refused when they lie next to each other and passed over when they do not. -/
theorem repeatedNodes_order :
    repeatedNodes.Perm reorderedNodes ∧ (currentDirents repeatedNodes).toOption = none ∧
      (currentDirents reorderedNodes).toOption.isSome = true ∧ ¬DirectoryLaw repeatedNodes := by
  have hperm : repeatedNodes.Perm reorderedNodes := by decide
  have hrefused : (currentDirents repeatedNodes).toOption = none := rfl
  have haccepted : (currentDirents reorderedNodes).toOption.isSome = true := rfl
  refine ⟨hperm, hrefused, haccepted, fun law => ?_⟩
  have hsame := law.order _ hperm
  rw [directory, directory, hrefused] at hsame
  rw [Option.map_eq_none_iff.mp hsame] at haccepted
  exact absurd haccepted (by decide)

end Cc2Camera.Image
