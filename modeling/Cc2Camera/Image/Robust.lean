import Cc2Camera.Image.Analyze
import Cc2Camera.Image.Extents
import Cc2Camera.Image.LiveSerial
import Cc2Camera.Image.Minimal

/-!
# Robust — the validator on arbitrary flash

Whatever the bytes are, the validator returns or raises its own exception.  The reads at fixed offsets
are covered by the two length checks of the scan, the lookups in a node by its kind, the assertion by
the filter that chose the serial, and the search for a free inode number by the size of the partition.
-/

open Bytes Exceptions Overlay Sorting

namespace Cc2Camera.Image

variable (hashlib : Hashlib) (codecs : Codecs)

/-- The validator's own exception. -/
def Invalid (e : Exc) : Prop := ∃ msg, e = .validationError msg

/-! ## 1. Node dictionaries -/

-- node["kind"]
def Node.kindName (n : Node) : String :=
  match n.kind with
  | .dirent _ => "dirent"
  | .inode _ => "inode"
  | .cleanmarker => "cleanmarker"
  | .other baseType => "other_0x" ++ paddedDigits 16 3 baseType

-- the keys of the dict `parse_jffs2` builds, and those it adds to it for two kinds
def NODE_KEYS : List String :=
  ["offset", "node_type", "total_length", "current", "obsolete", "kind"]

def DIRENT_KEYS : List String := ["parent_inode", "version", "inode", "mctime", "dtype", "name"]

def INODE_KEYS : List String :=
  ["inode", "version", "mode", "uid", "gid", "file_size", "atime", "mtime", "ctime", "file_offset",
    "compressed_size", "decompressed_size", "compression", "user_compression", "flags", "payload"]

def Node.keys (n : Node) : List String :=
  NODE_KEYS ++
    match n.kind with
    | .dirent _ => DIRENT_KEYS
    | .inode _ => INODE_KEYS
    | _ => []

-- the keys that are looked up in every node, and behind a test of its kind
def NODE_LOOKUPS : List String := ["kind", "current", "obsolete"]

def DIRENT_LOOKUPS : List String :=
  ["current", "parent_inode", "name", "version", "inode", "dtype", "mctime"]

def INODE_LOOKUPS : List String :=
  ["current", "inode", "version", "mode", "file_size", "file_offset", "compression", "compressed_size",
    "decompressed_size", "payload", "uid", "gid", "atime", "mtime", "ctime", "flags"]

/-- Every lookup in a node finds its key, and the test of the kind selects the typed record. -/
structure Node.Keyed (n : Node) : Prop where
  common : ∀ key ∈ NODE_LOOKUPS, key ∈ n.keys
  dirent : n.kindName = "dirent" → n.dirent?.isSome ∧ ∀ key ∈ DIRENT_LOOKUPS, key ∈ n.keys
  inode : n.kindName = "inode" → n.inode?.isSome ∧ ∀ key ∈ INODE_LOOKUPS, key ∈ n.keys

theorem other_name_ne (suffix : String) {name : String} (h : name.toList.head? ≠ some 'o') :
    "other_0x" ++ suffix ≠ name := by
  intro heq
  rw [← heq, String.toList_append] at h
  exact h rfl

theorem Node.keyed (n : Node) : n.Keyed where
  common := by
    intro key hkey
    have hnode : ∀ key ∈ NODE_LOOKUPS, key ∈ NODE_KEYS := by decide
    exact List.mem_append_left _ (hnode key hkey)
  dirent := by
    have hlookups : ∀ key ∈ DIRENT_LOOKUPS, key ∈ NODE_KEYS ++ DIRENT_KEYS := by decide
    have hother : "inode" ≠ "dirent" := by decide
    intro h
    unfold Node.kindName at h
    unfold Node.dirent? Node.keys
    cases hkind : n.kind with
    | dirent entry => exact ⟨rfl, hlookups⟩
    | inode data =>
      rw [hkind] at h
      exact absurd h hother
    | cleanmarker =>
      rw [hkind] at h
      exact absurd h (by decide)
    | other baseType =>
      rw [hkind] at h
      exact absurd h (other_name_ne _ (by decide))
  inode := by
    have hlookups : ∀ key ∈ INODE_LOOKUPS, key ∈ NODE_KEYS ++ INODE_KEYS := by decide
    have hother : "dirent" ≠ "inode" := by decide
    intro h
    unfold Node.kindName at h
    unfold Node.inode? Node.keys
    cases hkind : n.kind with
    | inode data => exact ⟨rfl, hlookups⟩
    | dirent entry =>
      rw [hkind] at h
      exact absurd h hother
    | cleanmarker =>
      rw [hkind] at h
      exact absurd h (by decide)
    | other baseType =>
      rw [hkind] at h
      exact absurd h (other_name_ne _ (by decide))

/-! ## 2. Fragments and files -/

theorem raisesOnly_fragmentData (node : Inode) (name : Bytes) :
    RaisesOnly Invalid (fragmentData codecs node name) := by
  unfold fragmentData
  apply raisesOnly_ite fun _ => raisesOnly_ok _
  intro _
  apply raisesOnly_ite
  · intro _
    apply raisesOnly_guard fun _ => ⟨_, rfl⟩
    intro _
    exact raisesOnly_ok _
  · intro _
    apply raisesOnly_ite
    · intro _
      apply raisesOnly_bind (raisesOnly_orRaise fun _ => ⟨_, rfl⟩)
      intro result _
      apply raisesOnly_guard fun _ => ⟨_, rfl⟩
      intro _
      apply raisesOnly_guard fun _ => ⟨_, rfl⟩
      intro _
      exact raisesOnly_ok _
    · intro _
      exact raisesOnly_error ⟨_, rfl⟩

theorem raisesOnly_decodeJffs2Fragment (node : Inode) (name : Bytes) :
    RaisesOnly Invalid (decodeJffs2Fragment codecs node name) := by
  unfold decodeJffs2Fragment
  apply raisesOnly_guard fun _ => ⟨_, rfl⟩
  intro _
  apply raisesOnly_bind (raisesOnly_fragmentData codecs node name)
  intro data _
  apply raisesOnly_guard fun _ => ⟨_, rfl⟩
  intro _
  exact raisesOnly_ok _

theorem length_decodeJffs2Fragment {node : Inode} {name data : Bytes}
    (h : decodeJffs2Fragment codecs node name = .ok data) : data.length ≤ CONFIG_SIZE := by
  unfold decodeJffs2Fragment at h
  rcases bind_eq_ok.mp h with ⟨_, hsize, h⟩
  rcases bind_eq_ok.mp h with ⟨found, -, h⟩
  rcases bind_eq_ok.mp h with ⟨_, hlength, h⟩
  rw [raiseIf_eq_ok] at hsize hlength
  rw [← Except.ok.inj h]
  omega

theorem raisesOnly_overlayFragments (name : Bytes) (fileSize : Nat) (fragments : List Inode)
    (data : Bytes) : RaisesOnly Invalid (overlayFragments codecs name fileSize fragments data) := by
  induction fragments generalizing data with
  | nil => exact raisesOnly_ok data
  | cons fragment fragments ih =>
    rw [overlayFragments]
    apply raisesOnly_bind (raisesOnly_decodeJffs2Fragment codecs fragment name)
    intro decoded _
    exact raisesOnly_ite (fun _ => ih data) fun _ => ih _

theorem raisesOnly_reconstructFile (nodes : List Node) (name : Bytes) (dirent : Dirent)
    (seenInodes : List Nat) :
    RaisesOnly Invalid (reconstructFile codecs nodes name dirent seenInodes) := by
  unfold reconstructFile
  apply raisesOnly_guard fun _ => ⟨_, rfl⟩
  intro _
  apply raisesOnly_guard fun _ => ⟨_, rfl⟩
  intro _
  apply raisesOnly_guard fun _ => ⟨_, rfl⟩
  intro _
  apply raisesOnly_bind (raisesOnly_orRaise fun _ => ⟨_, rfl⟩)
  intro last _
  apply raisesOnly_guard fun _ => ⟨_, rfl⟩
  intro hone
  apply raisesOnly_bind
  · -- one node carries the newest version, so the index 0 is in range
    apply raisesOnly_orRaise
    intro hnone
    rw [List.head?_eq_none_iff] at hnone
    rw [hnone] at hone
    exact absurd (by decide) hone
  · intro metadata _
    apply raisesOnly_guard fun _ => ⟨_, rfl⟩
    intro _
    apply raisesOnly_guard fun _ => ⟨_, rfl⟩
    intro _
    apply raisesOnly_bind (raisesOnly_overlayFragments codecs _ _ _ _)
    intro data _
    exact raisesOnly_ok _

theorem length_reconstructFile {nodes : List Node} {name : Bytes} {dirent : Dirent}
    {seenInodes : List Nat} {file : ConfigFile}
    (h : reconstructFile codecs nodes name dirent seenInodes = .ok file) :
    file.data.length ≤ CONFIG_SIZE := by
  unfold reconstructFile at h
  rcases bind_eq_ok.mp h with ⟨_, -, h⟩
  rcases bind_eq_ok.mp h with ⟨_, -, h⟩
  rcases bind_eq_ok.mp h with ⟨_, -, h⟩
  rcases bind_eq_ok.mp h with ⟨_, -, h⟩
  rcases bind_eq_ok.mp h with ⟨_, -, h⟩
  rcases bind_eq_ok.mp h with ⟨metadata, -, h⟩
  rcases bind_eq_ok.mp h with ⟨_, -, h⟩
  rcases bind_eq_ok.mp h with ⟨_, hsize, h⟩
  rcases bind_eq_ok.mp h with ⟨data, hdata, h⟩
  rw [raiseIf_eq_ok, not_lt] at hsize
  rw [← Except.ok.inj h]
  show data.length ≤ CONFIG_SIZE
  rw [overlayFragments_eq_putAll codecs List.length_replicate hdata, length_putAll, List.length_replicate]
  exact hsize

theorem raisesOnly_reconstructFiles (nodes : List Node) (entries : List (Bytes × Dirent))
    (seenInodes : List Nat) :
    RaisesOnly Invalid (reconstructFiles codecs nodes entries seenInodes) := by
  induction entries generalizing seenInodes with
  | nil => exact raisesOnly_ok []
  | cons entry entries ih =>
    rcases entry with ⟨name, dirent⟩
    rw [reconstructFiles]
    apply raisesOnly_bind (raisesOnly_reconstructFile codecs nodes name dirent seenInodes)
    intro file _
    apply raisesOnly_bind (ih _)
    intro files _
    exact raisesOnly_ok _

theorem length_reconstructFiles {nodes : List Node} {entries : List (Bytes × Dirent)}
    {seenInodes : List Nat} {files : List ConfigFile}
    (h : reconstructFiles codecs nodes entries seenInodes = .ok files) :
    ∀ file ∈ files, file.data.length ≤ CONFIG_SIZE := by
  induction entries generalizing seenInodes files with
  | nil =>
    rw [← Except.ok.inj h]
    exact nofun
  | cons entry entries ih =>
    rcases entry with ⟨name, dirent⟩
    rw [reconstructFiles, bind_eq_ok] at h
    rcases h with ⟨file, hfile, h⟩
    rcases bind_eq_ok.mp h with ⟨rest, hrest, h⟩
    rw [← Except.ok.inj h]
    exact List.forall_mem_cons.mpr ⟨length_reconstructFile codecs hfile, ih hrest⟩

theorem raisesOnly_reconstructLiveConfigFiles (nodes : List Node) (map : DirentMap) :
    RaisesOnly Invalid (reconstructLiveConfigFiles codecs nodes map) := by
  unfold reconstructLiveConfigFiles
  apply raisesOnly_guard fun _ => ⟨_, rfl⟩
  intro _
  exact raisesOnly_reconstructFiles codecs nodes _ []

theorem length_reconstructLiveConfigFiles {nodes : List Node} {map : DirentMap}
    {files : List ConfigFile} (h : reconstructLiveConfigFiles codecs nodes map = .ok files) :
    files.length ≤ map.length ∧ ∀ file ∈ files, file.data.length ≤ CONFIG_SIZE := by
  rw [reconstructLiveConfigFiles, bind_eq_ok] at h
  rcases h with ⟨_, -, h⟩
  constructor
  · calc
      files.length = (files.map ConfigFile.name).length := List.length_map .. |>.symm
      _ = (sortByKey Prod.fst (liveEntries map)).length := by
        rw [reconstructFiles_names codecs h, List.length_map]
      _ = (liveEntries map).length := (perm_sortByKey _ _).length_eq
      _ ≤ map.length := by
        rw [liveEntries, List.length_map]
        exact List.length_filter_le _ _
  · exact length_reconstructFiles codecs h

/-! ## 3. The serial and the free inode number -/

theorem raisesOnly_resolveDirents (nodes : List Dirent) (map : DirentMap) :
    RaisesOnly Invalid (resolveDirents nodes map) := by
  induction nodes generalizing map with
  | nil => exact raisesOnly_ok map
  | cons node nodes ih =>
    unfold resolveDirents
    dsimp only
    split
    · exact ih _
    · apply raisesOnly_guard fun _ => ⟨_, rfl⟩
      intro _
      exact raisesOnly_ite (fun _ => ih _) fun _ => ih _

theorem DirentMap.length_set (map : DirentMap) (key : Nat × Bytes) (entry : Dirent) :
    (map.set key entry).length ≤ map.length + 1 := by
  induction map with
  | nil => exact Nat.le_refl 1
  | cons e map ih =>
    rcases e with ⟨k, e⟩
    rw [DirentMap.set]
    split
    · exact Nat.le_succ _
    · exact Nat.succ_le_succ ih

theorem length_resolveDirents {nodes : List Dirent} {map map' : DirentMap}
    (h : resolveDirents nodes map = .ok map') : map'.length ≤ map.length + nodes.length := by
  induction nodes generalizing map with
  | nil =>
    rw [← Except.ok.inj h]
    exact Nat.le_refl _
  | cons node nodes ih =>
    have hset := map.length_set (node.parentInode, node.name) node
    rw [List.length_cons]
    unfold resolveDirents at h
    dsimp only at h
    split at h
    · have hrest := ih h
      omega
    · rcases bind_eq_ok.mp h with ⟨_, -, h⟩
      split at h
      · have hrest := ih h
        omega
      · have hrest := ih h
        omega

theorem length_collectNodes {data : Bytes} {offsets : List Nat} {nodes : List Node}
    (h : collectNodes data offsets = .ok nodes) : nodes.length ≤ offsets.length := by
  induction offsets generalizing nodes with
  | nil =>
    rw [← Except.ok.inj h]
    exact Nat.le_refl 0
  | cons offset offsets ih =>
    rw [collectNodes, bind_eq_ok] at h
    rcases h with ⟨node, -, h⟩
    rcases bind_eq_ok.mp h with ⟨rest, hrest, h⟩
    have htail := ih hrest
    have hhead : node.toList.length ≤ 1 := by cases node <;> simp
    rw [← Except.ok.inj h, List.length_append, List.length_cons]
    omega

/-- A partition holds fewer directory entries than it has bytes. -/
theorem length_currentDirents {config : Bytes} {nodes : List Node} {map : DirentMap}
    (hnodes : parseJffs2 config = .ok nodes) (hmap : currentDirents nodes = .ok map) :
    map.length ≤ config.length := by
  have hscan := length_collectNodes hnodes
  have hoffsets : (scanOffsets config.length).length ≤ config.length := by
    rw [scanOffsets, List.length_map, List.length_range]
    omega
  have hresolved := length_resolveDirents hmap
  have hdirents := List.length_filterMap_le Node.dirent? (nodes.filter fun n => n.current)
  have hcurrent := List.length_filter_le (fun n : Node => n.current) nodes
  rw [List.length_nil] at hresolved
  omega

/-- Among more candidates than numbers in use, one is free. -/
theorem firstUnused_total {used : List Nat} {fuel start : Nat}
    (h : (used.filter fun n => start ≤ n).length < fuel) :
    ∃ inode, firstUnused used fuel start = .ok inode := by
  induction fuel generalizing start with
  | zero => exact absurd h (Nat.not_lt_zero _)
  | succ fuel ih =>
    rw [firstUnused]
    by_cases hused : start ∈ used
    · rw [if_pos hused]
      apply ih
      -- the numbers from `start + 1` on are those from `start` on without `start` itself
      have hfewer : (used.filter fun n => start + 1 ≤ n).length <
          (used.filter fun n => start ≤ n).length := by
        have hsplit : (used.filter fun n => start + 1 ≤ n) =
            (used.filter fun n => start ≤ n).filter fun n => n ≠ start := by
          rw [List.filter_filter]
          apply List.filter_congr
          intro n _
          rw [Bool.eq_iff_iff, Bool.and_eq_true, decide_eq_true_eq, decide_eq_true_eq, decide_eq_true_eq]
          omega
        rw [hsplit]
        apply List.length_filter_lt_length_iff_exists.mpr
        exact ⟨start, List.mem_filter.mpr ⟨hused, by simp⟩, by simp⟩
      omega
    · rw [if_neg hused]
      exact ⟨start, rfl⟩

theorem raisesOnly_liveConfigFiles {nodes : List Node} {map : DirentMap} {payload : Bytes}
    (hmap : map.length < SERIAL_INODES) :
    RaisesOnly Invalid (liveConfigFiles codecs nodes map payload) := by
  unfold liveConfigFiles
  apply raisesOnly_bind (raisesOnly_reconstructLiveConfigFiles codecs nodes map)
  intro files hfiles
  have hcount := (length_reconstructLiveConfigFiles codecs hfiles).1
  split
  · have hfilter := List.length_filter_le (fun n => decide (2 ≤ n)) (files.map fun file => file.inode)
    rw [List.length_map] at hfilter
    rcases @firstUnused_total (files.map fun file => file.inode) SERIAL_INODES 2 (by omega) with
      ⟨inode, hinode⟩
    rw [hinode, ok_bind]
    exact raisesOnly_ok _
  · apply raisesOnly_guard fun _ => ⟨_, rfl⟩
    intro _
    exact raisesOnly_ok _

theorem raisesOnly_selectSerial (nodes : List Node) (map : DirentMap) :
    RaisesOnly Invalid (selectSerial nodes map) := by
  have hlive : RaisesOnly Invalid (liveSerialPayload nodes map) := by
    unfold liveSerialPayload
    split
    · exact raisesOnly_ok none
    · dsimp only
      split
      · exact raisesOnly_ok none
      · apply raisesOnly_guard fun _ => ⟨_, rfl⟩
        intro _
        exact raisesOnly_ok _
  unfold selectSerial
  apply raisesOnly_bind hlive
  intro found _
  split
  · exact raisesOnly_ok _
  · split
    · exact raisesOnly_ok _
    · exact raisesOnly_error ⟨_, rfl⟩

theorem selectSerial_valid {nodes : List Node} {map : DirentMap} {payload : Bytes}
    {source : SerialSource} (h : selectSerial nodes map = .ok (payload, source)) :
    serialPayloadIsValid payload = true := by
  have hserial {n : Inode} (hn : isSerialNode n = true) : serialPayloadIsValid n.payload = true := by
    rw [isSerialNode, decide_eq_true_eq] at hn
    exact hn.2.2.2.2
  unfold selectSerial at h
  rcases bind_eq_ok.mp h with ⟨found, hfound, h⟩
  cases found with
  | some live =>
    have hpayload : live = payload := congrArg Prod.fst (Except.ok.inj h)
    rw [← hpayload]
    -- the payload of the first candidate, all of which pass the filter
    unfold liveSerialPayload at hfound
    split at hfound
    · cases Except.ok.inj hfound
    · dsimp only at hfound
      split at hfound
      · cases Except.ok.inj hfound
      · rename_i first rest hcandidates
        rcases bind_eq_ok.mp hfound with ⟨_, -, hfound⟩
        have hlive : first.payload = live := Option.some.inj (Except.ok.inj hfound)
        have hmem : first ∈ first :: rest := List.mem_cons_self ..
        rw [← hcandidates, (perm_sortByKeyReverse _ _).mem_iff] at hmem
        rw [← hlive]
        exact hserial (List.mem_filter.mp hmem).2
  | none =>
    dsimp only at h
    split at h
    · rename_i only honly
      have hpayload : only = payload := congrArg Prod.fst (Except.ok.inj h)
      have hmem : only ∈ historicalSerials nodes := by
        rw [honly]
        exact List.mem_singleton_self only
      rw [historicalSerials, List.mem_dedup] at hmem
      rcases List.mem_map.mp hmem with ⟨n, hn, hn'⟩
      rw [← hpayload, ← hn']
      exact hserial (List.mem_filter.mp hn).2
    · cases h

/-! ## 4. The partition and the image -/

theorem raisesOnly_extractSerialAndConfigInfo {config : Bytes} (hlen : config.length ≤ CONFIG_SIZE)
    (allow preserve : Bool) :
    RaisesOnly Invalid (extractSerialAndConfigInfo codecs config allow preserve) := by
  rcases parseJffs2_total config with ⟨nodes, hnodes⟩
  unfold extractSerialAndConfigInfo
  rw [hnodes, ok_bind]
  apply raisesOnly_guard fun _ => ⟨_, rfl⟩
  intro _
  apply raisesOnly_guard fun _ => ⟨_, rfl⟩
  intro _
  apply raisesOnly_bind (raisesOnly_resolveDirents _ _)
  intro map hmap
  apply raisesOnly_bind (raisesOnly_selectSerial nodes map)
  rintro ⟨payload, source⟩ hserial
  apply raisesOnly_bind
  · -- the assertion: only valid payloads are selected
    apply raisesOnly_orRaise
    intro hnone
    have hvalid := selectSerial_valid hserial
    rw [serialPayloadIsValid, hnone] at hvalid
    cases hvalid
  · intro value _
    have hentries := length_currentDirents hnodes hmap
    have hsize : CONFIG_SIZE < SERIAL_INODES := by decide
    apply raisesOnly_bind
    · unfold preservedFiles
      apply raisesOnly_ite
      · intro _
        have hfiles := @raisesOnly_liveConfigFiles codecs nodes map payload (by omega)
        cases hlive : liveConfigFiles codecs nodes map payload with
        | ok files => exact raisesOnly_ok _
        | error e => exact raisesOnly_error (hfiles.kind e hlive)
      · intro _
        exact raisesOnly_ok none
    · intro files _
      exact raisesOnly_ok _

theorem raisesOnly_identifyHwconfigVariant (image : Bytes) :
    RaisesOnly Invalid (identifyHwconfigVariant hashlib image) := by
  unfold identifyHwconfigVariant
  apply raisesOnly_guard fun _ => ⟨_, rfl⟩
  intro _
  apply raisesOnly_guard fun _ => ⟨_, rfl⟩
  intro _
  apply raisesOnly_guard fun _ => ⟨_, rfl⟩
  intro _
  apply raisesOnly_guard fun _ => ⟨_, rfl⟩
  intro _
  exact raisesOnly_ok _

theorem raisesOnly_decodeHwconfigDate {image : Bytes} (hlen : image.length = FLASH_SIZE) :
    RaisesOnly Invalid (decodeHwconfigDate image) := by
  have hdate : HW_DATE_START + 3 < FLASH_SIZE := by decide
  unfold decodeHwconfigDate
  dsimp only
  rw [byteAt_of_lt (by omega), ok_bind, byteAt_of_lt (by omega), ok_bind]
  apply raisesOnly_guard fun _ => ⟨_, rfl⟩
  intro _
  apply raisesOnly_guard fun _ => ⟨_, rfl⟩
  intro _
  exact raisesOnly_ok _

theorem catchValidation_total {α : Type} {x : Except Exc α} (h : RaisesOnly Invalid x) :
    ∃ y, catchValidation x = .ok y := by
  cases x with
  | ok a => exact ⟨.ok a, rfl⟩
  | error e =>
    rcases h.kind e rfl with ⟨msg, rfl⟩
    exact ⟨.error msg, rfl⟩

theorem length_config (image : Bytes) : (slice image CONFIG_START CONFIG_END).length ≤ CONFIG_SIZE := by
  have hsize : CONFIG_END - CONFIG_START = CONFIG_SIZE := by decide
  rw [length_slice]
  omega

theorem raisesOnly_analyzeImage (image : Bytes) (sourceName : String) (allow preserve : Bool) :
    RaisesOnly Invalid (analyzeImage hashlib codecs image sourceName allow preserve) := by
  unfold analyzeImage
  apply raisesOnly_guard fun _ => ⟨_, rfl⟩
  intro hlen
  rw [ne_eq, not_not] at hlen
  have hinfoOnly := raisesOnly_extractSerialAndConfigInfo codecs (length_config image) allow preserve
  rcases catchValidation_total (raisesOnly_identifyHwconfigVariant hashlib image) with ⟨variant, hvariant⟩
  rcases catchValidation_total (raisesOnly_decodeHwconfigDate hlen) with ⟨date, hdate⟩
  rcases catchValidation_total hinfoOnly with ⟨configInfo, hinfo⟩
  rw [hvariant, ok_bind, hdate, ok_bind, hinfo, ok_bind]
  dsimp only
  apply raisesOnly_guard fun _ => ⟨_, rfl⟩
  intro herrors
  rw [ne_eq, not_not] at herrors
  -- without a complaint all three results are there, and the serial builds a partition
  rcases (imageErrors_eq_nil hashlib).mp herrors with ⟨name, record, date, info, rfl, rfl, rfl, -⟩
  have hextract : extractSerialAndConfigInfo codecs (slice image CONFIG_START CONFIG_END) allow preserve =
      .ok info := by
    simpa using catchValidation_eq_ok.mp hinfo
  have hvalid := extractSerialAndConfigInfo_serial codecs hextract
  show RaisesOnly Invalid (buildMinimalConfig codecs info.serialPayload >>= _)
  rw [buildMinimalConfig_of_valid codecs hvalid, ok_bind]
  exact raisesOnly_ok _

/-- Every function the validator calls on an image stays in range or raises the validator's exception, and
what it decodes fits the config partition. -/
structure StepsInRange (image : Bytes) (allow preserve : Bool) : Prop where
  variant : RaisesOnly Invalid (identifyHwconfigVariant hashlib image)
  date : RaisesOnly Invalid (decodeHwconfigDate image)
  scan : ∃ nodes, parseJffs2 (slice image CONFIG_START CONFIG_END) = .ok nodes ∧ ∀ n ∈ nodes, n.Keyed
  config : RaisesOnly Invalid
    (extractSerialAndConfigInfo codecs (slice image CONFIG_START CONFIG_END) allow preserve)
  files : ∀ nodes map, RaisesOnly Invalid (reconstructLiveConfigFiles codecs nodes map) ∧
    ∀ files, reconstructLiveConfigFiles codecs nodes map = .ok files →
      ∀ file ∈ files, file.data.length ≤ 0x20000
  fragments : ∀ node name, RaisesOnly Invalid (decodeJffs2Fragment codecs node name) ∧
    ∀ data, decodeJffs2Fragment codecs node name = .ok data → data.length ≤ 0x20000

/-- Corrupt flash never crashes the validator. -/
theorem analyzeImage_returns_or_raises (image : Bytes) (sourceName : String) (allow preserve : Bool) :
    ((∃ analysis, analyzeImage hashlib codecs image sourceName allow preserve = .ok analysis) ∨
        ∃ msg, analyzeImage hashlib codecs image sourceName allow preserve =
          .error (.validationError msg)) ∧
      (image.length = FLASH_SIZE → StepsInRange hashlib codecs image allow preserve) := by
  constructor
  · cases hresult : analyzeImage hashlib codecs image sourceName allow preserve with
    | ok analysis => exact .inl ⟨analysis, rfl⟩
    | error e =>
      rcases (raisesOnly_analyzeImage hashlib codecs image sourceName allow preserve).kind e hresult with
        ⟨msg, rfl⟩
      exact .inr ⟨msg, rfl⟩
  · intro hlen
    rcases parseJffs2_total (slice image CONFIG_START CONFIG_END) with ⟨nodes, hnodes⟩
    exact
      { variant := raisesOnly_identifyHwconfigVariant hashlib image
        date := raisesOnly_decodeHwconfigDate hlen
        scan := ⟨nodes, hnodes, fun n _ => n.keyed⟩
        config := raisesOnly_extractSerialAndConfigInfo codecs (length_config image) allow preserve
        files := by
          intro nodes map
          constructor
          · exact raisesOnly_reconstructLiveConfigFiles codecs nodes map
          · intro files hfiles
            exact (length_reconstructLiveConfigFiles codecs hfiles).2
        fragments := by
          intro node name
          constructor
          · exact raisesOnly_decodeJffs2Fragment codecs node name
          · intro data hdata
            exact length_decodeJffs2Fragment codecs hdata }

end Cc2Camera.Image
