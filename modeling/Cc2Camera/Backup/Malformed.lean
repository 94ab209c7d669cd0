import Cc2Camera.Backup.Agreement

/-!
# Malformed — which manifests end the reader of a preserved backup in a Python exception

Only the construction of the dataclasses stands in a `try`.  `validate_partition_map` then formats
sizes with `:x` and folds the case of names without asking what they are.
-/

open Bytes Exceptions

namespace Cc2Camera.AdbBackup

variable (hashlib : Hashlib) (pyText : PyText) (json : JsonCodec)

/-- What `load_preserved_backup` returns: the image, and the hashes it was checked against. -/
def loadPreservedBackupHashed (path : Path) (file : FileView) :
    Except Exc (Bytes × List (String × Expected)) := do
  let data ← loadPreservedBackup hashlib pyText json path file
  .ok (data, hashes hashlib data)

/-- The reader returns the image and its hashes, or it raises the exception of the tool. -/
def Answered (path : Path) (file : FileView) (image : Bytes) : Prop :=
  loadPreservedBackupHashed hashlib pyText json path file = .ok (image, hashes hashlib image) ∨
    ∃ msg, loadPreservedBackupHashed hashlib pyText json path file = .error (.protocolError msg)

/-! ## 1. Two kinds of partition map -/

/-- `item[key]`. -/
def entryField (key : String) (item : Json) : Json :=
  match item.dict? with
  | some fields => dictGet fields key
  | none => .null

/-- A value that `f"{value:x}"` prints. -/
def Printable : Json → Prop
  | .int _ => True
  | .bool _ => True
  | _ => False

/-- A name that passes its check. -/
def NameMatches (p : Json × String) : Prop :=
  ∃ name, p.1 = .str name ∧ pyText.casefold name = text p.2

/-- The first name that is not the expected one is not a string either. -/
def FirstWrongNameNotText (names : List (Json × String)) : Prop :=
  ∃ before p after, names = before ++ p :: after ∧ (∀ q ∈ before, NameMatches pyText q) ∧
    p.1.str? = none

/-- A map of well-keyed entries, numbered from 0, with a size that cannot be printed although the sizes
have to be, or with a name that cannot be case-folded although it has to be. -/
structure UnanswerableMap (partitions : List Json) : Prop where
  entries : ∀ item ∈ partitions, ExactEntry item
  indices : sequenceEqs (partitions.map (entryField "index")) (List.range partitions.length) = true
  wrong :
    if sequenceEqs (partitions.map (entryField "size")) (EXPECTED_PARTITIONS.map Prod.snd) then
      FirstWrongNameNotText pyText
        ((partitions.map (entryField "name")).zip (EXPECTED_PARTITIONS.map Prod.fst))
    else ∃ size ∈ partitions.map (entryField "size"), ¬Printable size

/-- A manifest that is refused for its partition map alone, and that by a Python exception. -/
def Unanswerable (manifest : Json) (image : Bytes) : Prop :=
  ∃ fields bootloader partitions, manifest = .obj fields ∧
    dictGet fields "bootloader" = .obj bootloader ∧ dictGet fields "partitions" = .arr partitions ∧
    OtherFieldsMatch hashlib fields bootloader image ∧ UnanswerableMap pyText partitions

/-! ## 2. The partition map -/

theorem formatHex_of_printable {value : Json} (h : Printable value) :
    ∃ s, value.formatHex = .ok s := by
  cases value with
  | int n => exact ⟨_, rfl⟩
  | bool b => exact ⟨_, rfl⟩
  | null | finite _ | nonfinite | str _ | arr _ | obj _ => exact h.elim

theorem formatHex_of_not_printable {value : Json} (h : ¬Printable value) :
    ∃ e, value.formatHex = .error e ∧ ¬Refusal e := by
  cases value with
  | int n => exact absurd trivial h
  | bool b => exact absurd trivial h
  | finite _ | nonfinite | str _ => exact ⟨.valueError, rfl, nofun⟩
  | null | arr _ | obj _ => exact ⟨.typeError, rfl, nofun⟩

theorem formatSizes_of_printable {sizes : List Json} (h : ∀ size ∈ sizes, Printable size) :
    ∃ texts, formatSizes sizes = .ok texts := by
  induction sizes with
  | nil => exact ⟨[], rfl⟩
  | cons size sizes ih =>
    rw [List.forall_mem_cons] at h
    rcases formatHex_of_printable h.1 with ⟨head, hhead⟩
    rcases ih h.2 with ⟨tail, htail⟩
    rw [formatSizes, hhead, ok_bind, htail, ok_bind]
    exact ⟨_, rfl⟩

theorem formatSizes_of_not_printable {sizes : List Json} (h : ∃ size ∈ sizes, ¬Printable size) :
    ∃ e, formatSizes sizes = .error e ∧ ¬Refusal e := by
  induction sizes with
  | nil =>
    rcases h with ⟨_, hmem, _⟩
    cases hmem
  | cons size sizes ih =>
    rw [formatSizes]
    by_cases hsize : Printable size
    · rcases formatHex_of_printable hsize with ⟨head, hhead⟩
      have hrest : ∃ size ∈ sizes, ¬Printable size := by
        rcases h with ⟨other, hmem, hother⟩
        rcases List.mem_cons.mp hmem with rfl | hmem
        · exact absurd hsize hother
        · exact ⟨other, hmem, hother⟩
      rcases ih hrest with ⟨e, htail, he⟩
      rw [hhead, ok_bind, htail, error_bind]
      exact ⟨e, rfl, he⟩
    · rcases formatHex_of_not_printable hsize with ⟨e, hhead, he⟩
      rw [hhead, error_bind]
      exact ⟨e, rfl, he⟩

/-- What the loop over the names does with the first wrong one. -/
theorem checkNames_append {before rest : List (RecordedPartition × (String × Nat))}
    (h : ∀ p ∈ before, NameMatches pyText (p.1.name, p.2.1)) :
    checkNames pyText (before ++ rest) = checkNames pyText rest := by
  induction before with
  | nil => rfl
  | cons p before ih =>
    rw [List.forall_mem_cons] at h
    rcases h.1 with ⟨name, hname, hfold⟩
    dsimp only at hname hfold
    rw [List.cons_append, checkNames, hname, Json.str?, orRaise_some, ok_bind,
      raiseIf_of_not (not_not.mpr hfold), ok_bind, ih h.2]

theorem raisesOnly_checkNames (pairs : List (RecordedPartition × (String × Nat))) :
    RaisesOnly Refusal (checkNames pyText pairs) ↔
      ¬FirstWrongNameNotText pyText (pairs.map fun p => (p.1.name, p.2.1)) := by
  constructor
  · rintro h ⟨before, p, after, heq, hbefore, hnone⟩
    rcases List.map_eq_append_iff.mp heq with ⟨front, back, rfl, rfl, hback⟩
    rcases List.map_eq_cons_iff.mp hback with ⟨pair, rest, rfl, rfl, -⟩
    rw [checkNames_append pyText fun p hp => hbefore _ (List.mem_map_of_mem hp), checkNames, hnone,
      orRaise_none, error_bind] at h
    rcases h.kind _ rfl with ⟨msg, hmsg⟩
    cases hmsg
  · intro h
    induction pairs with
    | nil => exact raisesOnly_ok ()
    | cons p pairs ih =>
      rw [checkNames]
      apply raisesOnly_bind
      · apply raisesOnly_orRaise
        intro hnone
        exact absurd ⟨[], _, _, rfl, List.forall_mem_nil _, hnone⟩ h
      · intro name hname
        apply raisesOnly_guard fun _ => ⟨_, rfl⟩
        intro hfold
        apply ih
        rintro ⟨before, q, after, heq, hbefore, hnone⟩
        -- the name just read is the expected one, so the first wrong name is still ahead
        apply h
        have hmatch : NameMatches pyText (p.1.name, p.2.1) :=
          ⟨name, Json.str?_eq_some.mp (orRaise_eq_ok.mp hname), not_not.mp hfold⟩
        exact ⟨(p.1.name, p.2.1) :: before, q, after, by rw [List.map_cons, heq]; rfl,
          List.forall_mem_cons.mpr ⟨hmatch, hbefore⟩, hnone⟩

/-- The dataclass built from a dict with its four fields. -/
def recordOfEntry (item : Json) : RecordedPartition where
  index := entryField "index" item
  size := entryField "size" item
  eraseSize := entryField "erase_size" item
  name := entryField "name" item

theorem partitionOfItem_of_exact {item : Json} (h : ExactEntry item) :
    partitionOfItem item = .ok (recordOfEntry item) := by
  rcases partitionOfItem_iff.mpr h with ⟨part, hpart⟩
  rw [hpart]
  unfold partitionOfItem at hpart
  simp only [bind_eq_ok, orRaise_eq_ok, Json.dict?_eq_some] at hpart
  rcases hpart with ⟨fields, rfl, _, _, index, hindex, size, hsize, eraseSize, herase, name, hname, hpart⟩
  rw [← Except.ok.inj hpart]
  unfold recordOfEntry
  simp only [entryField, Json.dict?, dictGet, hindex, hsize, herase, hname, Option.getD_some]

theorem partitionsOfItems_of_exact {items : List Json} (h : ∀ item ∈ items, ExactEntry item) :
    partitionsOfItems items = .ok (items.map recordOfEntry) := by
  induction items with
  | nil => rfl
  | cons item items ih =>
    rw [List.forall_mem_cons] at h
    rw [partitionsOfItems, partitionOfItem_of_exact h.1, ok_bind, ih h.2, ok_bind, List.map_cons]

theorem raisesOnly_partitionsOfItems (items : List Json) :
    RaisesOnly (Eq .typeError) (partitionsOfItems items) := by
  induction items with
  | nil => exact raisesOnly_ok []
  | cons item items ih =>
    rw [partitionsOfItems]
    apply raisesOnly_bind
    · rw [partitionOfItem]
      apply raisesOnly_bind (raisesOnly_orRaise fun _ => rfl)
      intro fields _
      apply raisesOnly_guard fun _ => rfl
      intro _
      apply raisesOnly_bind (raisesOnly_orRaise fun _ => rfl)
      intro index _
      apply raisesOnly_bind (raisesOnly_orRaise fun _ => rfl)
      intro size _
      apply raisesOnly_bind (raisesOnly_orRaise fun _ => rfl)
      intro eraseSize _
      apply raisesOnly_bind (raisesOnly_orRaise fun _ => rfl)
      intro name _
      exact raisesOnly_ok _
    · intro part _
      apply raisesOnly_bind ih
      intro parts _
      exact raisesOnly_ok _

theorem raisesOnly_recordedPartitions (items : List Json) :
    RaisesOnly Refusal (recordedPartitions items) := by
  unfold recordedPartitions
  cases hparts : partitionsOfItems items with
  | ok parts => exact raisesOnly_ok parts
  | error e =>
    have he := (raisesOnly_partitionsOfItems items).kind e hparts
    rw [← he]
    exact raisesOnly_error ⟨_, rfl⟩

theorem raisesOnly_validatePartitionMap (parts : List RecordedPartition) :
    RaisesOnly Refusal (validatePartitionMap pyText parts) ↔
      ¬(sequenceEqs (parts.map fun part => part.index) (List.range parts.length) = true ∧
        if sequenceEqs (parts.map fun part => part.size) (EXPECTED_PARTITIONS.map Prod.snd) then
          FirstWrongNameNotText pyText
            ((parts.map fun part => part.name).zip (EXPECTED_PARTITIONS.map Prod.fst))
        else ∃ size ∈ parts.map fun part => part.size, ¬Printable size) := by
  have hnames : (parts.map fun part => part.name).zip (EXPECTED_PARTITIONS.map Prod.fst) =
      (parts.zip EXPECTED_PARTITIONS).map fun p => (p.1.name, p.2.1) := by
    rw [List.zip_map]
    rfl
  rw [validatePartitionMap]
  by_cases hindices : sequenceEqs (parts.map fun part => part.index) (List.range parts.length) = true
  swap
  · rw [raiseIf_of (by simpa using hindices), error_bind]
    apply iff_of_true (raisesOnly_error ⟨_, rfl⟩)
    exact fun h => hindices h.1
  rw [raiseIf_of_not (by simpa using hindices), ok_bind, and_iff_right hindices]
  dsimp only
  by_cases hsizes : sequenceEqs (parts.map fun part => part.size)
      (EXPECTED_PARTITIONS.map Prod.snd) = true
  · rw [if_neg (by simpa using hsizes), if_pos hsizes, hnames, ← raisesOnly_checkNames]
    constructor
    · intro h
      constructor
      intro e he
      rw [he, error_bind] at h
      exact h.kind e rfl
    · intro h
      apply raisesOnly_bind h
      intro _ _
      rw [sum_of_sequenceEqs hsizes, ok_bind]
      exact raisesOnly_raiseIf fun _ => ⟨_, rfl⟩
  · rw [if_pos (by simpa using hsizes), if_neg hsizes]
    by_cases hprint : ∃ size ∈ parts.map fun part => part.size, ¬Printable size
    · rcases formatSizes_of_not_printable hprint with ⟨e, he, hnot⟩
      rw [he, error_bind]
      apply iff_of_false
      · exact fun h => hnot (h.kind e rfl)
      · exact not_not.mpr hprint
    · have hall : ∀ size ∈ parts.map fun part => part.size, Printable size := by
        intro size hsize
        by_contra hnot
        exact hprint ⟨size, hsize, hnot⟩
      rcases formatSizes_of_printable hall with ⟨got, hgot⟩
      have hwanted : ∀ size ∈ (EXPECTED_PARTITIONS.map Prod.snd).map fun (size : Nat) => Json.int size,
          Printable size := by
        intro size hsize
        rcases List.mem_map.mp hsize with ⟨n, -, rfl⟩
        exact trivial
      rcases formatSizes_of_printable hwanted with ⟨want, hwant⟩
      rw [hgot, ok_bind, hwant, ok_bind]
      exact iff_of_true (raisesOnly_error ⟨_, rfl⟩) hprint

/-- The map as the manifest has it is refused by name exactly when it is not one of the two kinds. -/
theorem raisesOnly_partitionMap (items : List Json) :
    RaisesOnly Refusal (recordedPartitions items >>= validatePartitionMap pyText) ↔
      ¬UnanswerableMap pyText items := by
  by_cases hexact : ∀ item ∈ items, ExactEntry item
  · have hrecorded : recordedPartitions items = .ok (items.map recordOfEntry) := by
      rw [recordedPartitions_eq_ok, partitionsOfItems_of_exact hexact]
    rw [hrecorded, ok_bind, raisesOnly_validatePartitionMap]
    simp only [List.map_map, List.length_map]
    apply not_congr
    exact ⟨fun h => ⟨hexact, h.1, h.2⟩, fun h => ⟨h.indices, h.wrong⟩⟩
  · apply iff_of_true
    · apply raisesOnly_bind (raisesOnly_recordedPartitions items)
      intro parts hparts
      rw [recordedPartitions_eq_ok] at hparts
      exact absurd (partitionsOfItems_iff.mp ⟨parts, hparts⟩) hexact
    · intro h
      exact hexact h.entries

/-! ## 3. The reader -/

/-- The fields before the partition map only ever lead to the tool's own exceptions. -/
theorem raisesOnly_validateManifest {manifest : Json} {image : Bytes} (hlen : image.length = FLASH_SIZE) :
    RaisesOnly Refusal (validateManifest hashlib pyText manifest image) ↔
      ¬Unanswerable hashlib pyText manifest image := by
  constructor
  · rintro h ⟨fields, bootloader, partitions, rfl, hbootloader, hpartitions, hfields, hmap⟩
    rw [validateManifest_of_fields hashlib pyText hlen hbootloader hpartitions hfields] at h
    exact (raisesOnly_partitionMap pyText partitions).mp h hmap
  · intro h
    rcases validateManifest_refused_or hashlib pyText manifest hlen with
      ⟨e, he, hraised⟩ | ⟨fields, bootloader, partitions, rfl, hbootloader, hpartitions, hfields⟩
    · rw [hraised]
      exact raisesOnly_error he
    · rw [validateManifest_of_fields hashlib pyText hlen hbootloader hpartitions hfields,
        raisesOnly_partitionMap]
      intro hmap
      exact h ⟨fields, bootloader, partitions, rfl, hbootloader, hpartitions, hfields, hmap⟩

section Readable

variable {path : Path} {file : FileView} {archive : Archive} {image manifestBytes : Bytes}
  {manifest : Json} (hopen : file.openZip = .ok archive)
  (hwf : archive.WellFormed archivePolicy image manifestBytes) (hlen : image.length = FLASH_SIZE)
  (hjson : json.loads manifestBytes = .ok manifest)

include hopen hwf hlen hjson

/-- On a readable archive everything depends on the manifest. -/
theorem loadPreservedBackupHashed_readable (hfile : file.isFile = true)
    (hzip : pyText.casefold path.suffix = ZIP_SUFFIX) :
    loadPreservedBackupHashed hashlib pyText json path file =
      validateManifest hashlib pyText manifest image >>= fun _ => .ok (image, hashes hashlib image) := by
  rw [loadPreservedBackupHashed, loadPreservedBackup, validateBackupArchivePath,
    raiseIf_of_not (by simpa using hfile), ok_bind, raiseIf_of_not (not_not.mpr hzip), ok_bind, hopen,
    readArchive_of_wellFormed hwf, ok_bind]
  dsimp only
  rw [raiseIf_of_not (not_not.mpr hlen), ok_bind, readManifest_eq_ok.mpr hjson, ok_bind]
  cases validateManifest hashlib pyText manifest image with
  | ok u => rfl
  | error e => rfl

/-- The reader ends in one of its two ways exactly when the manifest is not one of those it cannot
answer. -/
theorem loadPreservedBackup_answers_iff :
    Answered hashlib pyText json path file image ↔
      (file.isFile = true → pyText.casefold path.suffix = ZIP_SUFFIX →
        ¬Unanswerable hashlib pyText manifest image) := by
  unfold Answered
  by_cases hfile : file.isFile = true
  swap
  · unfold loadPreservedBackupHashed loadPreservedBackup
    rw [raiseIf_of (by simpa using hfile)]
    exact iff_of_true (.inr ⟨_, rfl⟩) fun h => absurd h hfile
  by_cases hzip : pyText.casefold path.suffix = ZIP_SUFFIX
  swap
  · unfold loadPreservedBackupHashed loadPreservedBackup validateBackupArchivePath
    rw [raiseIf_of_not (by simpa using hfile), ok_bind, raiseIf_of hzip]
    exact iff_of_true (.inr ⟨_, rfl⟩) fun _ h => absurd h hzip
  rw [forall_prop_of_true hfile, forall_prop_of_true hzip,
    loadPreservedBackupHashed_readable hashlib pyText json hopen hwf hlen hjson hfile hzip,
    ← raisesOnly_validateManifest hashlib pyText hlen]
  cases hvalid : validateManifest hashlib pyText manifest image with
  | ok u => exact iff_of_true (.inl rfl) (raisesOnly_ok u)
  | error e =>
    constructor
    · rintro (h | ⟨msg, h⟩)
      · cases h
      · exact raisesOnly_error ⟨msg, Except.error.inj h⟩
    · intro h
      rcases h.kind e rfl with ⟨msg, rfl⟩
      exact .inr ⟨msg, rfl⟩

end Readable

/-! ## 4. Two manifests that are not answered -/

-- a stock manifest with another first entry
def editedFields (first : Json) : List (Text × Json) :=
  bareFields.dropLast ++
    [(text "partitions", .arr (first :: (Image.EXPECTED_USB_PARTITIONS.map stockEntry).tail))]

def editedJson (first : Json) : JsonCodec where
  dumps _ := []
  loads _ := .ok (.obj (editedFields first))

-- the first entry of a stock manifest with the given size and name
def firstEntry (size name : Json) : Json :=
  .obj [(text "index", .int 0), (text "size", size), (text "erase_size", .int 0x4000),
    (text "name", name)]

theorem editedFields_match (first : Json) :
    OtherFieldsMatch stockHashlib (editedFields first) bareBootloader erasedImage := by
  rcases stockFields_match with ⟨fields, bootloader, partitions, hfields, hbootloader, -, h⟩
  cases hfields
  cases hbootloader
  have hhashes : ∀ e ∈ hashes stockHashlib erasedImage,
      (dictGet (editedFields first) e.1).eqs e.2 = true := by
    intro e he
    have hstock := h.hashes e he
    rw [hashes, List.mem_cons, List.mem_cons, List.mem_singleton] at he
    rcases he with rfl | rfl | rfl <;> exact hstock
  exact
    { format := h.format
      hashes := hhashes
      fingerprint := h.fingerprint
      acceptance := h.acceptance
      required := h.required
      consecutive := rfl
      passes := ⟨3, rfl, by decide, by decide⟩
      maximum := h.maximum }

/-- A size that is `null` and a name that is a number end in a `TypeError` and an `AttributeError`. -/
theorem loadPreservedBackup_not_answered :
    ¬Answered stockHashlib plainText (editedJson (firstEntry .null (.str (text "boot")))) barePath
        bareFile erasedImage ∧
      ¬Answered stockHashlib plainText (editedJson (firstEntry (.int 0x040000) (.int 0))) barePath
        bareFile erasedImage := by
  have hraised (first : Json) (e : Exc)
      (hmap : (recordedPartitions (first :: (Image.EXPECTED_USB_PARTITIONS.map stockEntry).tail) >>=
        validatePartitionMap plainText) = .error e) :
      loadPreservedBackupHashed stockHashlib plainText (editedJson first) barePath bareFile = .error e := by
    rw [loadPreservedBackupHashed_readable stockHashlib plainText (editedJson first) rfl
      bareArchive_wellFormed length_erasedImage rfl rfl rfl,
      validateManifest_of_fields stockHashlib plainText length_erasedImage rfl rfl
        (editedFields_match first), hmap, error_bind]
  unfold Answered
  constructor
  · rw [hraised _ .typeError rfl]
    rintro (h | ⟨msg, h⟩) <;> cases h
  · rw [hraised _ .attributeError rfl]
    rintro (h | ⟨msg, h⟩) <;> cases h

theorem loadPreservedBackup_answers_iff_stock :
    Answered stockHashlib plainText stockJson barePath bareFile erasedImage ↔
      (bareFile.isFile = true → plainText.casefold barePath.suffix = ZIP_SUFFIX →
        ¬Unanswerable stockHashlib plainText (.obj stockFields) erasedImage) :=
  loadPreservedBackup_answers_iff stockHashlib plainText stockJson rfl bareArchive_wellFormed
    length_erasedImage rfl

end Cc2Camera.AdbBackup
