import Cc2Camera.Image.LiveFiles
import Cc2Camera.Image.Minimal
import Mathlib.Data.List.Dedup

/-!
# Rebuilt — what the two builders guarantee about the partition they return

Both keep to the first eraseblock, so everything behind it is erased; and the preserving builder returns
a partition only after reading the same files back from it.
-/

open Bytes Exceptions Sorting

namespace Cc2Camera.Image

variable (codecs : Codecs)

/-- A partition whose every byte behind the first eraseblock is erased. -/
structure ErasedTail (config : Bytes) : Prop where
  length : config.length = CONFIG_SIZE
  tail : slice config FIRST_ERASEBLOCK CONFIG_SIZE =
    List.replicate (CONFIG_SIZE - FIRST_ERASEBLOCK) 0xFF

theorem erasedTail_laidOut {body : Bytes} (h : body.length ≤ FIRST_ERASEBLOCK) :
    ErasedTail (laidOut body) where
  length := length_laidOut (Nat.le_trans h (by decide))
  tail := by
    have hfirst : FIRST_ERASEBLOCK ≤ CONFIG_SIZE := by decide
    rw [laidOut, slice_append_right _ _ h, slice_replicate _ _ (by omega)]
    congr 1
    omega

theorem ErasedTail.place {output node : Bytes} {cursor : Nat} (h : ErasedTail output)
    (hfit : cursor + node.length ≤ FIRST_ERASEBLOCK) : ErasedTail (place output cursor node) := by
  have hfirst : FIRST_ERASEBLOCK ≤ CONFIG_SIZE := by decide
  have hlen := h.length
  refine ⟨?_, ?_⟩
  · rw [Image.place, length_splice_of_fit _ _ (Nat.le_add_right _ _) (by omega) (by omega), hlen]
  · rw [Image.place, slice_splice_after _ _ (Nat.le_add_right _ _) (by omega) (by omega) hfit, h.tail]

theorem layoutFiles_erasedTail {files : List ConfigFile} {output built : Bytes} {cursor last : Nat}
    (h : ErasedTail output) (hbuilt : layoutFiles files output cursor = .ok (built, last)) :
    ErasedTail built := by
  induction files generalizing output cursor with
  | nil =>
    rw [← (Prod.mk.inj (Except.ok.inj hbuilt)).1]
    exact h
  | cons item items ih =>
    rw [layoutFiles, bind_eq_ok] at hbuilt
    obtain ⟨dirent, -, hbuilt⟩ := hbuilt
    obtain ⟨_, hdirent, hbuilt⟩ := bind_eq_ok.mp hbuilt
    obtain ⟨inode, -, hbuilt⟩ := bind_eq_ok.mp hbuilt
    obtain ⟨_, hinode, hbuilt⟩ := bind_eq_ok.mp hbuilt
    rw [raiseIf_eq_ok, not_lt] at hdirent hinode
    exact ih ((h.place hdirent).place hinode) hbuilt

theorem buildMinimalConfig_eq_ok {payload config : Bytes} :
    buildMinimalConfig codecs payload = .ok config ↔
      serialPayloadIsValid payload = true ∧ config = minimalConfig payload := by
  constructor
  · intro h
    have hvalid : serialPayloadIsValid payload = true := by
      rw [buildMinimalConfig, bind_eq_ok] at h
      obtain ⟨_, hvalid, -⟩ := h
      simpa using hvalid
    rw [buildMinimalConfig_of_valid codecs hvalid] at h
    exact ⟨hvalid, (Except.ok.inj h).symm⟩
  · rintro ⟨hvalid, rfl⟩
    exact buildMinimalConfig_of_valid codecs hvalid

theorem minimalConfig_erasedTail {payload : Bytes} (hvalid : serialPayloadIsValid payload = true) :
    ErasedTail (minimalConfig payload) :=
  erasedTail_laidOut (by rw [length_minimalBody hvalid]; decide)

/-- What the preserving builder has checked when it returns a partition. -/
structure PreservedConfig (files : List ConfigFile) (built : Bytes) (parsed : ConfigInfo)
    (rebuiltFiles : List ConfigFile) : Prop where
  distinct : (files.map ConfigFile.name).Nodup
  erased : ErasedTail built
  reading : extractSerialAndConfigInfo codecs built true true = .ok parsed
  live : parsed.liveConfigFiles = some rebuiltFiles
  same : sameFiles rebuiltFiles (sortByName files) = true
  obsolete : parsed.obsoleteNodeCount = 0

theorem sortByName_perm (files : List ConfigFile) : (sortByName files).Perm files :=
  perm_sortByKey _ _

theorem nodup_of_length_dedup {names : List Bytes} (h : names.dedup.length = names.length) :
    names.Nodup := by
  have hsame : names.dedup = names := (List.dedup_sublist names).eq_of_length h
  have hnodup := List.nodup_dedup names
  rwa [hsame] at hnodup

theorem buildPreservedConfig_eq_ok {files : List ConfigFile} {built : Bytes}
    (h : buildPreservedConfig codecs files = .ok built) :
    ∃ parsed rebuiltFiles, PreservedConfig codecs files built parsed rebuiltFiles := by
  rw [buildPreservedConfig] at h
  simp only at h
  obtain ⟨_, -, h⟩ := bind_eq_ok.mp h
  obtain ⟨_, hdistinct, h⟩ := bind_eq_ok.mp h
  obtain ⟨_, -, h⟩ := bind_eq_ok.mp h
  rw [encodeCleanmarker_eq, ok_bind, splice_cleanmarker] at h
  obtain ⟨⟨laid, last⟩, hlaid, h⟩ := bind_eq_ok.mp h
  obtain ⟨parsed, hparsed, h⟩ := bind_eq_ok.mp h
  obtain ⟨rebuiltFiles, hrebuilt, h⟩ := bind_eq_ok.mp h
  obtain ⟨_, hsame, h⟩ := bind_eq_ok.mp h
  obtain ⟨_, hobsolete, h⟩ := bind_eq_ok.mp h
  obtain rfl : laid = built := Except.ok.inj h
  rw [raiseIf_eq_ok, not_not] at hdistinct hobsolete
  have hnames : ((sortByName files).map ConfigFile.name).Nodup :=
    nodup_of_length_dedup (by rw [List.length_map]; exact hdistinct)
  exact ⟨parsed, rebuiltFiles,
    { distinct := ((sortByName_perm files).map _).nodup_iff.mp hnames
      erased := layoutFiles_erasedTail
        (erasedTail_laidOut (by rw [length_encodedCleanmarker]; decide)) hlaid
      reading := hparsed
      live := orRaise_eq_ok.mp hrebuilt
      same := by simpa using hsame
      obsolete := hobsolete }⟩

/-! ## The files as a set -/

theorem eq_of_name_eq {files : List ConfigFile} (h : (files.map ConfigFile.name).Nodup)
    {a b : ConfigFile} (ha : a ∈ files) (hb : b ∈ files) (hname : a.name = b.name) : a = b :=
  List.inj_on_of_nodup_map h ha hb hname

theorem fileNamed_eq_some {files : List ConfigFile} {name : Bytes} {file : ConfigFile}
    (h : fileNamed files name = some file) : file ∈ files ∧ file.name = name :=
  ⟨List.mem_reverse.mp (List.mem_of_find?_eq_some h), by simpa using List.find?_some h⟩

theorem fileNamed_of_mem {files : List ConfigFile} (h : (files.map ConfigFile.name).Nodup)
    {file : ConfigFile} (hmem : file ∈ files) : fileNamed files file.name = some file := by
  cases hfind : fileNamed files file.name with
  | none =>
    have hnone := List.find?_eq_none.mp hfind file (List.mem_reverse.mpr hmem)
    simp at hnone
  | some other =>
    obtain ⟨hother, hname⟩ := fileNamed_eq_some hfind
    rw [eq_of_name_eq h hother hmem hname]

/-- Lists of files with distinct names that give equal dicts hold the same files. -/
theorem sameFiles_perm {a b : List ConfigFile} (ha : (a.map ConfigFile.name).Nodup)
    (hb : (b.map ConfigFile.name).Nodup) (h : sameFiles a b = true) : a.Perm b := by
  have hfind : ∀ file ∈ a ++ b, fileNamed a file.name = fileNamed b file.name := by
    intro file hmem
    have hsame := List.all_eq_true.mp h file hmem
    simpa using hsame
  rw [List.perm_ext_iff_of_nodup ha.of_map hb.of_map]
  intro file
  constructor
  · intro hmem
    have hnamed := hfind file (List.mem_append_left b hmem)
    rw [fileNamed_of_mem ha hmem] at hnamed
    exact (fileNamed_eq_some hnamed.symm).1
  · intro hmem
    have hnamed := hfind file (List.mem_append_right a hmem)
    rw [fileNamed_of_mem hb hmem] at hnamed
    exact (fileNamed_eq_some hnamed).1

variable {codecs} in
/-- What is read back from a preserved partition is the files it was built from, in some order. -/
theorem PreservedConfig.perm {files rebuiltFiles : List ConfigFile} {built : Bytes}
    {parsed : ConfigInfo} (h : PreservedConfig codecs files built parsed rebuiltFiles) :
    rebuiltFiles.Perm files := by
  obtain ⟨_, live, _, _, hlive, hnodup, _⟩ := extractSerialAndConfigInfo_files codecs h.reading
  obtain rfl : live = rebuiltFiles := Option.some.inj (hlive.symm.trans h.live)
  have hsorted := sortByName_perm files
  exact (sameFiles_perm hnodup ((hsorted.map _).nodup_iff.mpr h.distinct) h.same).trans hsorted

variable {codecs} in
/-- The preserved partition is read as the serial its `serial.cfg` holds. -/
theorem PreservedConfig.serial {files rebuiltFiles : List ConfigFile} {built : Bytes}
    {parsed : ConfigInfo} (h : PreservedConfig codecs files built parsed rebuiltFiles)
    {serial : ConfigFile} (hmem : serial ∈ files) (hname : serial.name = SERIAL_CFG) :
    parsed.serialPayload = serial.data := by
  obtain ⟨_, live, _, _, hlive, _, read, hread, hreadName, hdata⟩ :=
    extractSerialAndConfigInfo_files codecs h.reading
  obtain rfl : live = rebuiltFiles := Option.some.inj (hlive.symm.trans h.live)
  have hsame := eq_of_name_eq h.distinct (h.perm.mem_iff.mp hread) hmem (hreadName.trans hname.symm)
  rw [← hdata, hsame]

/-- The builder sorts the files first, so their order does not matter to it. -/
theorem buildPreservedConfig_of_perm {files files' : List ConfigFile}
    (hnames : (files.map ConfigFile.name).Nodup) (h : files.Perm files') :
    buildPreservedConfig codecs files = buildPreservedConfig codecs files' := by
  have hsorted : sortByName files = sortByName files' := sortByKey_eq_of_perm hnames h
  rw [buildPreservedConfig, buildPreservedConfig, hsorted]

variable {codecs} in
/-- Rebuilding what a preserved partition holds gives that partition again. -/
theorem PreservedConfig.rebuild {files rebuiltFiles : List ConfigFile} {built : Bytes}
    {parsed : ConfigInfo} (h : PreservedConfig codecs files built parsed rebuiltFiles)
    (hbuilt : buildPreservedConfig codecs files = .ok built) :
    buildPreservedConfig codecs rebuiltFiles = .ok built := by
  rw [← hbuilt]
  exact (buildPreservedConfig_of_perm codecs h.distinct h.perm.symm).symm

end Cc2Camera.Image
