import Cc2Camera.Image.Config

/-!
# LiveFiles — what an accepted config partition holds

The directory is a dict, so its live entries and the files rebuilt from them have distinct names; in
preserve mode exactly one of the files is `serial.cfg`, and it holds the selected serial.
-/

open Bytes Exceptions Sorting

namespace Cc2Camera.Image

variable (codecs : Codecs)

/-! ## 1. The directory -/

def DirentMap.keys (map : DirentMap) : List (Nat × Bytes) := map.map Prod.fst

theorem DirentMap.mem_keys_set {map : DirentMap} {key key' : Nat × Bytes} {entry : Dirent}
    (h : key' ∈ (map.set key entry).keys) : key' = key ∨ key' ∈ map.keys := by
  induction map with
  | nil => exact .inl (by simpa [DirentMap.set, DirentMap.keys] using h)
  | cons e map ih =>
    obtain ⟨k, e⟩ := e
    by_cases hk : k = key
    · rw [DirentMap.set, if_pos hk] at h
      exact .inr h
    · rw [DirentMap.set, if_neg hk] at h
      rcases List.mem_cons.mp h with h | h
      · exact .inr (List.mem_cons.mpr (.inl h))
      · rcases ih h with h | h
        · exact .inl h
        · exact .inr (List.mem_cons.mpr (.inr h))

theorem DirentMap.keys_set_nodup {map : DirentMap} (h : map.keys.Nodup) (key : Nat × Bytes)
    (entry : Dirent) : (map.set key entry).keys.Nodup := by
  induction map with
  | nil => exact List.nodup_singleton key
  | cons e map ih =>
    obtain ⟨k, e⟩ := e
    by_cases hk : k = key
    · rw [DirentMap.set, if_pos hk]
      exact h
    · rw [DirentMap.set, if_neg hk]
      have hcons := List.nodup_cons.mp h
      refine List.nodup_cons.mpr ⟨fun hmem => ?_, ih hcons.2⟩
      rcases DirentMap.mem_keys_set hmem with hmem | hmem
      · exact hk hmem
      · exact hcons.1 hmem

theorem resolveDirents_nodup {nodes : List Dirent} {map map' : DirentMap} (hmap : map.keys.Nodup)
    (h : resolveDirents nodes map = .ok map') : map'.keys.Nodup := by
  induction nodes generalizing map with
  | nil =>
    rw [← Except.ok.inj h]
    exact hmap
  | cons node nodes ih =>
    unfold resolveDirents at h
    simp only at h
    split at h
    · exact ih (DirentMap.keys_set_nodup hmap _ _) h
    · obtain ⟨_, -, h⟩ := bind_eq_ok.mp h
      split at h
      · exact ih (DirentMap.keys_set_nodup hmap _ _) h
      · exact ih hmap h

theorem currentDirents_nodup {nodes : List Node} {map : DirentMap}
    (h : currentDirents nodes = .ok map) : map.keys.Nodup :=
  @resolveDirents_nodup _ [] _ List.nodup_nil h

/-- The live names of the root directory are distinct. -/
theorem liveEntries_nodup {map : DirentMap} (h : map.keys.Nodup) :
    ((liveEntries map).map Prod.fst).Nodup := by
  -- the live keys are among the keys of the dict and all have the root as parent
  have hkeys : ((map.filter fun e => e.1.1 = 1 ∧ e.2.inode ≠ 0).map Prod.fst).Nodup :=
    h.sublist (List.filter_sublist.map _)
  have hroot : ∀ k ∈ (map.filter fun e => e.1.1 = 1 ∧ e.2.inode ≠ 0).map Prod.fst, k.1 = 1 := by
    intro k hk
    obtain ⟨e, he, rfl⟩ := List.mem_map.mp hk
    have hlive := (List.mem_filter.mp he).2
    rw [decide_eq_true_eq] at hlive
    exact hlive.1
  have hnames : ((map.filter fun e => e.1.1 = 1 ∧ e.2.inode ≠ 0).map Prod.fst).map Prod.snd =
      (liveEntries map).map Prod.fst := by
    rw [liveEntries, List.map_map, List.map_map]
    rfl
  rw [← hnames]
  exact hkeys.map_on fun x hx y hy hxy => Prod.ext ((hroot x hx).trans (hroot y hy).symm) hxy

/-! ## 2. The files -/

theorem reconstructFile_name {nodes : List Node} {name : Bytes} {dirent : Dirent} {seen : List Nat}
    {file : ConfigFile} (h : reconstructFile codecs nodes name dirent seen = .ok file) :
    file.name = name := by
  unfold reconstructFile at h
  obtain ⟨_, -, h⟩ := bind_eq_ok.mp h
  obtain ⟨_, -, h⟩ := bind_eq_ok.mp h
  obtain ⟨_, -, h⟩ := bind_eq_ok.mp h
  obtain ⟨_, -, h⟩ := bind_eq_ok.mp h
  obtain ⟨_, -, h⟩ := bind_eq_ok.mp h
  obtain ⟨_, -, h⟩ := bind_eq_ok.mp h
  obtain ⟨_, -, h⟩ := bind_eq_ok.mp h
  obtain ⟨_, -, h⟩ := bind_eq_ok.mp h
  obtain ⟨_, -, h⟩ := bind_eq_ok.mp h
  rw [← Except.ok.inj h]

theorem reconstructFiles_names {nodes : List Node} {entries : List (Bytes × Dirent)}
    {seen : List Nat} {files : List ConfigFile}
    (h : reconstructFiles codecs nodes entries seen = .ok files) :
    files.map ConfigFile.name = entries.map Prod.fst := by
  induction entries generalizing seen files with
  | nil =>
    rw [← Except.ok.inj h]
    rfl
  | cons entry entries ih =>
    obtain ⟨name, dirent⟩ := entry
    rw [reconstructFiles, bind_eq_ok] at h
    obtain ⟨file, hfile, h⟩ := h
    obtain ⟨rest, hrest, h⟩ := bind_eq_ok.mp h
    rw [← Except.ok.inj h, List.map_cons, List.map_cons, reconstructFile_name codecs hfile, ih hrest]

theorem reconstructLiveConfigFiles_nodup {nodes : List Node} {map : DirentMap}
    {files : List ConfigFile} (hmap : map.keys.Nodup)
    (h : reconstructLiveConfigFiles codecs nodes map = .ok files) :
    (files.map ConfigFile.name).Nodup := by
  rw [reconstructLiveConfigFiles, bind_eq_ok] at h
  obtain ⟨_, -, h⟩ := h
  rw [reconstructFiles_names codecs h]
  exact ((perm_sortByKey _ _).map _).nodup_iff.mpr (liveEntries_nodup hmap)

/-- How the live files of preserve mode come from the files read back. -/
theorem liveConfigFiles_eq_ok {nodes : List Node} {map : DirentMap} {payload : Bytes}
    {files : List ConfigFile} (h : liveConfigFiles codecs nodes map payload = .ok files) :
    ∃ live, reconstructLiveConfigFiles codecs nodes map = .ok live ∧
      ((∃ serial ∈ live, serial.name = SERIAL_CFG ∧ serial.data = payload ∧ files = live) ∨
        ((∀ file ∈ live, file.name ≠ SERIAL_CFG) ∧
          ∃ serial : ConfigFile, serial.name = SERIAL_CFG ∧ serial.data = payload ∧
            files = sortByName (live ++ [serial]))) := by
  rw [liveConfigFiles, bind_eq_ok] at h
  obtain ⟨live, hlive, h⟩ := h
  refine ⟨live, hlive, ?_⟩
  split at h
  · rename_i hnone
    obtain ⟨inode, -, h⟩ := bind_eq_ok.mp h
    refine .inr ⟨?_, _, rfl, rfl, (Except.ok.inj h).symm⟩
    simpa using List.find?_eq_none.mp hnone
  · rename_i serial hsome
    obtain ⟨_, hdata, h⟩ := bind_eq_ok.mp h
    rw [raiseIf_eq_ok, not_not] at hdata
    exact .inl ⟨serial, List.mem_of_find?_eq_some hsome, by simpa using List.find?_some hsome, hdata,
      (Except.ok.inj h).symm⟩

/-- The names of the live files are distinct, and one of them is `serial.cfg` with the selected serial. -/
theorem liveConfigFiles_serial {nodes : List Node} {map : DirentMap} {payload : Bytes}
    {files : List ConfigFile} (hmap : map.keys.Nodup)
    (h : liveConfigFiles codecs nodes map payload = .ok files) :
    (files.map ConfigFile.name).Nodup ∧
      ∃ serial ∈ files, serial.name = SERIAL_CFG ∧ serial.data = payload := by
  obtain ⟨live, hlive, hcases⟩ := liveConfigFiles_eq_ok codecs h
  have hnodup := reconstructLiveConfigFiles_nodup codecs hmap hlive
  rcases hcases with ⟨serial, hmem, hname, hdata, rfl⟩ | ⟨hother, serial, hname, hdata, rfl⟩
  · exact ⟨hnodup, serial, hmem, hname, hdata⟩
  · have hperm : (sortByName (live ++ [serial])).Perm (live ++ [serial]) :=
      perm_sortByKey _ _
    refine ⟨(hperm.map _).nodup_iff.mpr ?_, serial, hperm.mem_iff.mpr (by simp), hname, hdata⟩
    rw [List.map_append, List.map_cons, List.map_nil]
    refine List.nodup_append.mpr ⟨hnodup, List.nodup_singleton _, ?_⟩
    intro name hmem name' hserial
    obtain ⟨file, hfile, rfl⟩ := List.mem_map.mp hmem
    rw [List.mem_singleton.mp hserial, hname]
    exact hother file hfile

/-! ## 3. The partition -/

/-- What a partition passed when `extractSerialAndConfigInfo` accepts it. -/
theorem extractSerialAndConfigInfo_eq_ok {config : Bytes} {allow preserve : Bool} {info : ConfigInfo} :
    extractSerialAndConfigInfo codecs config allow preserve = .ok info ↔
      ∃ nodes map payload source value files, parseJffs2 config = .ok nodes ∧ nodes ≠ [] ∧
        (unexpectedNames nodes = [] ∨ allow = true) ∧ currentDirents nodes = .ok map ∧
        selectSerial nodes map = .ok (payload, source) ∧ serialMatch payload = some value ∧
        preservedFiles codecs nodes map payload preserve = .ok files ∧
        info = configInfo nodes payload value source files := by
  simp only [extractSerialAndConfigInfo, bind_eq_ok, raiseIf_eq_ok, orRaise_eq_ok]
  constructor
  · rintro ⟨nodes, hnodes, _, hne, _, hnames, map, hmap, ⟨payload, source⟩, hserial, value, hvalue,
      files, hfiles, h⟩
    refine ⟨nodes, map, payload, source, value, files, hnodes, hne, ?_, hmap, hserial, hvalue, hfiles,
      (Except.ok.inj h).symm⟩
    rw [or_iff_not_imp_left]
    simpa using hnames
  · rintro ⟨nodes, map, payload, source, value, files, hnodes, hne, hnames, hmap, hserial, hvalue,
      hfiles, rfl⟩
    refine ⟨nodes, hnodes, (), hne, (), ?_, map, hmap, (payload, source), hserial, value, hvalue, files,
      hfiles, rfl⟩
    rintro ⟨hne, hallow⟩
    rcases hnames with hnames | hnames
    · exact hne hnames
    · simp [hnames] at hallow

/-- Allowing unknown names never changes what an accepted partition is read as. -/
theorem extractSerialAndConfigInfo_allow {config : Bytes} {preserve : Bool} {info : ConfigInfo}
    (h : extractSerialAndConfigInfo codecs config false preserve = .ok info) (allow : Bool) :
    extractSerialAndConfigInfo codecs config allow preserve = .ok info := by
  rw [extractSerialAndConfigInfo_eq_ok] at h ⊢
  obtain ⟨nodes, map, payload, source, value, files, hnodes, hne, hnames, hrest⟩ := h
  exact ⟨nodes, map, payload, source, value, files, hnodes, hne, .inl (by simpa using hnames), hrest⟩

/-- Two readings of one partition differ at most in the names they allow. -/
theorem extractSerialAndConfigInfo_unique {config : Bytes} {allow allow' preserve : Bool}
    {info info' : ConfigInfo}
    (h : extractSerialAndConfigInfo codecs config allow preserve = .ok info)
    (h' : extractSerialAndConfigInfo codecs config allow' preserve = .ok info') : info = info' := by
  have allowed {a : Bool} {i : ConfigInfo}
      (hi : extractSerialAndConfigInfo codecs config a preserve = .ok i) :
      extractSerialAndConfigInfo codecs config true preserve = .ok i := by
    cases a with
    | true => exact hi
    | false => exact extractSerialAndConfigInfo_allow codecs hi true
  exact Except.ok.inj ((allowed h).symm.trans (allowed h'))

/-- The serial an accepted partition is read as is valid. -/
theorem extractSerialAndConfigInfo_serial {config : Bytes} {allow preserve : Bool} {info : ConfigInfo}
    (h : extractSerialAndConfigInfo codecs config allow preserve = .ok info) :
    serialPayloadIsValid info.serialPayload = true := by
  obtain ⟨nodes, map, payload, source, value, files, -, -, -, -, -, hvalue, -, rfl⟩ :=
    (extractSerialAndConfigInfo_eq_ok codecs).mp h
  exact Option.isSome_iff_exists.mpr ⟨value, hvalue⟩

theorem extractSerialAndConfigInfo_nodes {config : Bytes} {allow preserve : Bool} {info : ConfigInfo}
    (h : extractSerialAndConfigInfo codecs config allow preserve = .ok info) :
    parseJffs2 config = .ok info.nodes := by
  obtain ⟨nodes, _, _, _, _, _, hnodes, -, -, -, -, -, -, rfl⟩ :=
    (extractSerialAndConfigInfo_eq_ok codecs).mp h
  exact hnodes

/-- Reading a partition with its files: their names are distinct and one is the selected serial. -/
theorem extractSerialAndConfigInfo_files {config : Bytes} {allow : Bool} {info : ConfigInfo}
    (h : extractSerialAndConfigInfo codecs config allow true = .ok info) :
    ∃ map files, currentDirents info.nodes = .ok map ∧
      liveConfigFiles codecs info.nodes map info.serialPayload = .ok files ∧
      info.liveConfigFiles = some files ∧ (files.map ConfigFile.name).Nodup ∧
      ∃ serial ∈ files, serial.name = SERIAL_CFG ∧ serial.data = info.serialPayload := by
  obtain ⟨nodes, map, payload, source, value, files, -, -, -, hmap, -, -, hfiles, rfl⟩ :=
    (extractSerialAndConfigInfo_eq_ok codecs).mp h
  rw [preservedFiles, if_pos rfl] at hfiles
  cases hlive : liveConfigFiles codecs nodes map payload with
  | error e => simp [hlive, Except.map] at hfiles
  | ok live =>
    rw [hlive] at hfiles
    obtain ⟨hnodup, hserial⟩ := liveConfigFiles_serial codecs (currentDirents_nodup hmap) hlive
    exact ⟨map, live, hmap, hlive, (Except.ok.inj hfiles).symm, hnodup, hserial⟩

end Cc2Camera.Image
