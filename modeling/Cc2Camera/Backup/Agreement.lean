import Cc2Camera.Backup.Preserved
import Cc2Camera.Image.Blank
import Cc2Camera.Image.Source
import Cc2Camera.Restore.Prepare

/-!
# Agreement — when the two backup readers accept the same backups

Both readers make the same checks on a manifest (`SharedChecks`), except that `adb_backup` builds a
dataclass from each entry of the partition map and so insists on its exact keys.
-/

open Bytes Exceptions

namespace Cc2Camera

variable (hashlib : Hashlib) (pyText : PyText) (json : JsonCodec)

/-! ## 1. The checks the readers share -/

structure SharedChecks (fields bootloader : List (Text × Json)) (partitions : List Json)
    (image : Bytes) : Prop where
  format : (dictGet fields "format").eqs (.str (text "cc2flash-backup-v2")) = true
  hashes : ∀ e ∈ Image.imageHashes hashlib image, (dictGet fields e.1).eqs e.2 = true
  fingerprint : ∀ e ∈ Image.expectedBootloader hashlib image,
    (dictGet bootloader e.1).eqs e.2 = true
  acceptance : (dictGet bootloader "acceptance").eqs (.str (Image.expectedAcceptance hashlib image)) =
    true
  required : (dictGet fields "required_identical_reads").eqs (.int 3) = true
  consecutive : dictGet fields "consecutive_identical_reads" = .int 3
  passes : ∃ n : Int, dictGet fields "read_passes" = .int n ∧ 3 ≤ n ∧ n ≤ 5
  maximum : (dictGet fields "maximum_read_attempts").eqs (.int 5) = true
  length : partitions.length = 6
  entries : ∀ p ∈ partitions.zip Image.EXPECTED_USB_PARTITIONS,
    Image.partitionItemMatches pyText p.1 p.2 = true

/-- A manifest every field of which, the keys of the partition entries apart, is as required. -/
def FieldsMatch (manifest : Json) (image : Bytes) : Prop :=
  ∃ fields bootloader partitions, manifest = .obj fields ∧
    dictGet fields "bootloader" = .obj bootloader ∧ dictGet fields "partitions" = .arr partitions ∧
    SharedChecks hashlib pyText fields bootloader partitions image

/-- A dict with exactly the fields of `MtdPartition` as keys. -/
def ExactEntry (item : Json) : Prop :=
  ∃ fields, item = .obj fields ∧ (∀ f ∈ fields, f.1 ∈ AdbBackup.PARTITION_FIELDS) ∧
    ∀ key ∈ AdbBackup.PARTITION_FIELDS, (fields.lookup key).isSome

/-- Every entry of the manifest's partition map has exactly the four keys. -/
def ExactEntries (manifest : Json) : Prop :=
  ∀ fields partitions, manifest = .obj fields → dictGet fields "partitions" = .arr partitions →
    ∀ item ∈ partitions, ExactEntry item

theorem validateUsbBackupManifest_iff {manifest : Json} {image : Bytes} :
    (∃ source, Image.validateUsbBackupManifest hashlib pyText manifest image = .ok source) ↔
      FieldsMatch hashlib pyText manifest image := by
  constructor
  · rintro ⟨source, h⟩
    rw [Image.validateUsbBackupManifest, bind_eq_ok] at h
    obtain ⟨fields, hfields, h⟩ := h
    obtain ⟨_, hformat, h⟩ := bind_eq_ok.mp h
    obtain ⟨_, hhashes, h⟩ := bind_eq_ok.mp h
    obtain ⟨bootloader, hbootloader, h⟩ := bind_eq_ok.mp h
    obtain ⟨_, hboot, h⟩ := bind_eq_ok.mp h
    obtain ⟨_, hacceptance, h⟩ := bind_eq_ok.mp h
    obtain ⟨_, hrequired, h⟩ := bind_eq_ok.mp h
    obtain ⟨_, hconsecutive, h⟩ := bind_eq_ok.mp h
    obtain ⟨passes, hpasses, h⟩ := bind_eq_ok.mp h
    obtain ⟨_, hrange, h⟩ := bind_eq_ok.mp h
    obtain ⟨_, hmaximum, h⟩ := bind_eq_ok.mp h
    obtain ⟨partitions, hpartitions, h⟩ := bind_eq_ok.mp h
    obtain ⟨_, hlength, h⟩ := bind_eq_ok.mp h
    obtain ⟨_, hmatch, -⟩ := bind_eq_ok.mp h
    simp only [raiseIf_eq_ok, orRaise_eq_ok, Json.dict?_eq_some, Json.list?_eq_some, Json.int?_eq_some,
      checkFields_eq_ok, Bool.not_eq_true', Bool.not_eq_false, not_not, List.all_eq_true] at *
    exact ⟨fields, bootloader, partitions, hfields, hbootloader, hpartitions,
      { format := hformat, hashes := hhashes, fingerprint := hboot, acceptance := hacceptance
        required := hrequired, consecutive := hconsecutive, passes := ⟨passes, hpasses, hrange⟩
        maximum := hmaximum, length := hlength, entries := hmatch }⟩
  · rintro ⟨fields, bootloader, partitions, rfl, hbootloader, hpartitions, h⟩
    obtain ⟨passes, hpasses, hrange⟩ := h.passes
    have hmatch : ((partitions.zip Image.EXPECTED_USB_PARTITIONS).all fun p =>
        Image.partitionItemMatches pyText p.1 p.2) = true := List.all_eq_true.mpr h.entries
    have hhashes (complain : String → Exc) :
        checkFields fields complain (Image.imageHashes hashlib image) = .ok () :=
      checkFields_eq_ok.mpr h.hashes
    have hboot (complain : String → Exc) :
        checkFields bootloader complain (Image.expectedBootloader hashlib image) = .ok () :=
      checkFields_eq_ok.mpr h.fingerprint
    have hlength : partitions.length = Image.EXPECTED_USB_PARTITIONS.length := h.length
    refine ⟨Image.usbEvidence hashlib image passes, ?_⟩
    simp only [Image.validateUsbBackupManifest, Json.dict?, orRaise_some, ok_bind,
      Image.USB_BACKUP_FORMAT, Image.MIN_IDENTICAL_READS, Image.MAX_USB_READ_ATTEMPTS, Nat.cast_ofNat,
      h.format, h.acceptance, h.required, h.maximum, h.consecutive, hpasses, hrange, hbootloader,
      hpartitions, hlength, hmatch, hhashes, hboot, Json.list?, Json.int?, Bool.not_true,
      Bool.false_eq_true, ne_eq, not_true_eq_false, and_self, raiseIf_false]

/-! ## 2. The partition map as a dataclass -/

/-- What an entry of the partition map is compared with, on the dataclass. -/
def recordMatches (part : AdbBackup.RecordedPartition) (expected : Nat × Nat × String) : Bool :=
  part.index.eqs (.int expected.1) && part.size.eqs (.int expected.2.1) &&
    match part.name.str? with
    | none => false
    | some name => pyText.casefold name = text expected.2.2

theorem recordMatches_iff {part : AdbBackup.RecordedPartition} {expected : Nat × Nat × String} :
    recordMatches pyText part expected = true ↔
      part.index.eqs (.int expected.1) = true ∧ part.size.eqs (.int expected.2.1) = true ∧
        ∃ observed, part.name = .str observed ∧ pyText.casefold observed = text expected.2.2 := by
  unfold recordMatches
  cases part.name <;> simp [Json.str?, and_assoc]

theorem partitionOfItem_eq_ok {item : Json} {part : AdbBackup.RecordedPartition}
    (h : AdbBackup.partitionOfItem item = .ok part) (expected : Nat × Nat × String) :
    Image.partitionItemMatches pyText item expected = recordMatches pyText part expected := by
  rw [AdbBackup.partitionOfItem, bind_eq_ok] at h
  obtain ⟨fields, hfields, h⟩ := h
  obtain ⟨_, -, h⟩ := bind_eq_ok.mp h
  obtain ⟨index, hindex, h⟩ := bind_eq_ok.mp h
  obtain ⟨size, hsize, h⟩ := bind_eq_ok.mp h
  obtain ⟨eraseSize, -, h⟩ := bind_eq_ok.mp h
  obtain ⟨name, hname, h⟩ := bind_eq_ok.mp h
  rw [orRaise_eq_ok] at hfields hindex hsize hname
  rw [← Except.ok.inj h, Image.partitionItemMatches, hfields]
  cases hstr : name.str? <;>
    simp only [dictGet, hindex, hsize, hname, hstr, Option.getD_some, recordMatches]

/-- The dataclass can be built exactly from a dict with its four fields. -/
theorem partitionOfItem_iff {item : Json} :
    (∃ part, AdbBackup.partitionOfItem item = .ok part) ↔ ExactEntry item := by
  simp only [AdbBackup.partitionOfItem, bind_eq_ok, orRaise_eq_ok, Json.dict?_eq_some, raiseIf_eq_ok]
  constructor
  · rintro ⟨part, fields, rfl, _, hkeys, index, hindex, size, hsize, eraseSize, herase, name, hname, -⟩
    refine ⟨fields, rfl, by simpa using hkeys, ?_⟩
    simp only [AdbBackup.PARTITION_FIELDS, List.forall_mem_cons, hindex, hsize, herase, hname,
      Option.isSome_some, List.not_mem_nil, false_implies, implies_true, and_self]
  · rintro ⟨fields, rfl, hkeys, hpresent⟩
    simp only [AdbBackup.PARTITION_FIELDS, List.forall_mem_cons, Option.isSome_iff_exists] at hpresent
    obtain ⟨⟨index, hindex⟩, ⟨size, hsize⟩, ⟨eraseSize, herase⟩, ⟨name, hname⟩, -⟩ := hpresent
    exact ⟨_, fields, rfl, (), by simpa using hkeys, index, hindex, size, hsize, eraseSize, herase, name,
      hname, rfl⟩

theorem partitionsOfItems_iff {items : List Json} :
    (∃ parts, AdbBackup.partitionsOfItems items = .ok parts) ↔ ∀ item ∈ items, ExactEntry item := by
  induction items with
  | nil => simp [AdbBackup.partitionsOfItems]
  | cons item items ih =>
    rw [List.forall_mem_cons, ← partitionOfItem_iff, ← ih]
    simp only [AdbBackup.partitionsOfItems, bind_eq_ok]
    constructor
    · rintro ⟨_, part, hpart, parts, hparts, -⟩
      exact ⟨⟨part, hpart⟩, parts, hparts⟩
    · rintro ⟨⟨part, hpart⟩, parts, hparts⟩
      exact ⟨_, part, hpart, parts, hparts, rfl⟩

/-- The entries and the dataclasses built from them pass the same comparisons. -/
theorem partitionsOfItems_matches {items : List Json} {parts : List AdbBackup.RecordedPartition}
    (h : AdbBackup.partitionsOfItems items = .ok parts) (expected : List (Nat × Nat × String)) :
    parts.length = items.length ∧
      ((∀ p ∈ items.zip expected, Image.partitionItemMatches pyText p.1 p.2 = true) ↔
        ∀ p ∈ parts.zip expected, recordMatches pyText p.1 p.2 = true) := by
  induction items generalizing parts expected with
  | nil =>
    have hparts : parts = [] := by simpa [AdbBackup.partitionsOfItems] using h.symm
    simp [hparts]
  | cons item items ih =>
    rw [AdbBackup.partitionsOfItems, bind_eq_ok] at h
    obtain ⟨part, hpart, h⟩ := h
    obtain ⟨rest, hrest, h⟩ := bind_eq_ok.mp h
    rw [← Except.ok.inj h]
    cases expected with
    | nil => simp [(ih hrest []).1]
    | cons e expected =>
      obtain ⟨hlength, hmatch⟩ := ih hrest expected
      rw [List.zip_cons_cons, List.zip_cons_cons, List.forall_mem_cons, List.forall_mem_cons, hmatch,
        partitionOfItem_eq_ok pyText hpart e]
      simp [hlength]

theorem sequenceEqs_iff {values : List Json} {expected : List Nat} :
    AdbBackup.sequenceEqs values expected = true ↔
      values.length = expected.length ∧ ∀ p ∈ values.zip expected, p.1.eqs (.int p.2) = true := by
  rw [AdbBackup.sequenceEqs, decide_eq_true_eq, List.all_eq_true]

/-- Sizes equal to the expected ones have the expected sum. -/
theorem sum_of_sequenceEqs {values : List Json} {expected : List Nat}
    (h : AdbBackup.sequenceEqs values expected = true) : Json.sum values = .ok (expected.sum : ℚ) := by
  rw [sequenceEqs_iff] at h
  obtain ⟨hlength, heqs⟩ := h
  induction values generalizing expected with
  | nil =>
    rw [List.length_nil, eq_comm, List.length_eq_zero_iff] at hlength
    simp [hlength, Json.sum]
  | cons value values ih =>
    cases expected with
    | nil => simp at hlength
    | cons e expected =>
      rw [List.zip_cons_cons, List.forall_mem_cons] at heqs
      have hvalue : value.num? = some (((e : Int) : ℚ)) := Json.eqs_int_iff.mp heqs.1
      rw [Json.sum, hvalue, orRaise_some, ok_bind, ih (by simpa using hlength) heqs.2, ok_bind]
      simp

theorem checkNames_iff {pairs : List (AdbBackup.RecordedPartition × (String × Nat))} {u : Unit} :
    AdbBackup.checkNames pyText pairs = .ok u ↔
      ∀ p ∈ pairs, ∃ name, p.1.name = .str name ∧ pyText.casefold name = text p.2.1 := by
  induction pairs with
  | nil => simp [AdbBackup.checkNames]
  | cons p pairs ih =>
    obtain ⟨part, name, size⟩ := p
    simp only [AdbBackup.checkNames, bind_eq_ok, orRaise_eq_ok, Json.str?_eq_some, raiseIf_eq_ok, not_not,
      ih, List.forall_mem_cons]
    constructor
    · rintro ⟨observed, hname, _, hfold, hrest⟩
      exact ⟨⟨observed, hname, hfold⟩, hrest⟩
    · rintro ⟨⟨observed, hname, hfold⟩, hrest⟩
      exact ⟨observed, hname, (), hfold, hrest⟩

theorem validatePartitionMap_iff {parts : List AdbBackup.RecordedPartition} {u : Unit} :
    AdbBackup.validatePartitionMap pyText parts = .ok u ↔
      AdbBackup.sequenceEqs (parts.map fun part => part.index) (List.range parts.length) = true ∧
        AdbBackup.sequenceEqs (parts.map fun part => part.size)
          (AdbBackup.EXPECTED_PARTITIONS.map Prod.snd) = true ∧
        ∀ p ∈ parts.zip AdbBackup.EXPECTED_PARTITIONS,
          ∃ name, p.1.name = .str name ∧ pyText.casefold name = text p.2.1 := by
  rw [AdbBackup.validatePartitionMap, bind_eq_ok]
  simp only [raiseIf_eq_ok, Bool.not_eq_true', Bool.not_eq_false, exists_and_left, exists_const]
  apply and_congr_right
  intro _
  by_cases hsizes : AdbBackup.sequenceEqs (parts.map fun part => part.size)
      (AdbBackup.EXPECTED_PARTITIONS.map Prod.snd) = true
  · have htotal : ¬(((AdbBackup.EXPECTED_PARTITIONS.map Prod.snd).sum : ℕ) : ℚ) ≠
        (AdbBackup.FLASH_SIZE : ℚ) := not_not.mpr (by norm_cast)
    simp only [hsizes, true_and, Bool.true_eq_false, if_false, bind_eq_ok, checkNames_iff,
      sum_of_sequenceEqs hsizes, Except.ok.injEq, exists_eq_left', raiseIf_eq_ok, htotal, not_false_eq_true,
      and_true, exists_const]
  · simp [hsizes, bind_eq_ok]

/-- The checks on a map of dataclasses are the comparisons entry by entry. -/
theorem validatePartitionMap_matches {parts : List AdbBackup.RecordedPartition} {u : Unit} :
    AdbBackup.validatePartitionMap pyText parts = .ok u ↔
      parts.length = 6 ∧
        ∀ p ∈ parts.zip Image.EXPECTED_USB_PARTITIONS, recordMatches pyText p.1 p.2 = true := by
  simp only [validatePartitionMap_iff, sequenceEqs_iff, recordMatches_iff]
  by_cases hlength : parts.length = 6
  · rcases parts with _ | ⟨a, _ | ⟨b, _ | ⟨c, _ | ⟨d, _ | ⟨e, _ | ⟨f, _ | ⟨g, rest⟩⟩⟩⟩⟩⟩⟩ <;> cases hlength
    simp only [AdbBackup.EXPECTED_PARTITIONS, Image.EXPECTED_USB_PARTITIONS, List.range, List.range.loop,
      List.map_cons, List.map_nil, List.length_cons, List.length_nil, List.zip_cons_cons, List.zip_nil_left,
      List.forall_mem_cons, List.not_mem_nil, false_implies, implies_true, and_true, true_and]
    tauto
  · refine iff_of_false (fun h => hlength ?_) fun h => hlength h.1
    have hsizes := h.2.1.1
    rwa [List.length_map] at hsizes

/-! ## 3. The two readers -/

theorem recordedPartitions_eq_ok {items : List Json} {parts : List AdbBackup.RecordedPartition} :
    AdbBackup.recordedPartitions items = .ok parts ↔ AdbBackup.partitionsOfItems items = .ok parts := by
  apply recover_eq_ok
  intro e r h
  split at h
  · exact ⟨_, (Option.some.inj h).symm⟩
  · exact absurd h (by simp)

/-- The dataclass construction and the map checks, on the entries themselves. -/
theorem recordedPartitions_validate_iff {items : List Json} :
    (∃ parts, AdbBackup.recordedPartitions items = .ok parts ∧
        AdbBackup.validatePartitionMap pyText parts = .ok ()) ↔
      (∀ item ∈ items, ExactEntry item) ∧ items.length = 6 ∧
        ∀ p ∈ items.zip Image.EXPECTED_USB_PARTITIONS,
          Image.partitionItemMatches pyText p.1 p.2 = true := by
  simp only [recordedPartitions_eq_ok, validatePartitionMap_matches]
  constructor
  · rintro ⟨parts, hparts, hlength, hmatch⟩
    obtain ⟨hsame, hiff⟩ := partitionsOfItems_matches pyText hparts Image.EXPECTED_USB_PARTITIONS
    exact ⟨partitionsOfItems_iff.mp ⟨parts, hparts⟩, hsame ▸ hlength, hiff.mpr hmatch⟩
  · rintro ⟨hexact, hlength, hmatch⟩
    obtain ⟨parts, hparts⟩ := partitionsOfItems_iff.mpr hexact
    obtain ⟨hsame, hiff⟩ := partitionsOfItems_matches pyText hparts Image.EXPECTED_USB_PARTITIONS
    exact ⟨parts, hparts, hsame.trans hlength, hiff.mp hmatch⟩

/-- The acceptance check, written as one comparison. -/
theorem acceptance_iff {image : Bytes} {acceptance : Json} :
    (¬(decide (Image.bootHash hashlib image = AdbBackup.KNOWN_BOOTLOADER_SHA256) &&
        !acceptance.eqs (.str (text "known-reference"))) = true ∧
      ¬(!decide (Image.bootHash hashlib image = AdbBackup.KNOWN_BOOTLOADER_SHA256) &&
        !acceptance.eqs (.str (text "explicit-hash"))) = true) ↔
      acceptance.eqs (.str (Image.expectedAcceptance hashlib image)) = true := by
  have hknown : Image.KNOWN_BOOTLOADER_SHA256 = AdbBackup.KNOWN_BOOTLOADER_SHA256 := rfl
  rw [Image.expectedAcceptance, hknown]
  by_cases h : Image.bootHash hashlib image = AdbBackup.KNOWN_BOOTLOADER_SHA256 <;> simp [h]

/-- The checks on the fields around the partition map. -/
structure OtherFieldsMatch (fields bootloader : List (Text × Json)) (image : Bytes) : Prop where
  format : (dictGet fields "format").eqs (.str (text "cc2flash-backup-v2")) = true
  hashes : ∀ e ∈ AdbBackup.hashes hashlib image, (dictGet fields e.1).eqs e.2 = true
  fingerprint : ∀ e ∈ Image.expectedBootloader hashlib image,
    (dictGet bootloader e.1).eqs e.2 = true
  acceptance : (dictGet bootloader "acceptance").eqs (.str (Image.expectedAcceptance hashlib image)) =
    true
  required : (dictGet fields "required_identical_reads").eqs (.int 3) = true
  consecutive : dictGet fields "consecutive_identical_reads" = .int 3
  passes : ∃ n : Int, dictGet fields "read_passes" = .int n ∧ 3 ≤ n ∧ n ≤ 5
  maximum : (dictGet fields "maximum_read_attempts").eqs (.int 5) = true

theorem SharedChecks.others {fields bootloader : List (Text × Json)} {partitions : List Json}
    {image : Bytes} (h : SharedChecks hashlib pyText fields bootloader partitions image) :
    OtherFieldsMatch hashlib fields bootloader image where
  format := h.format
  hashes := h.hashes
  fingerprint := h.fingerprint
  acceptance := h.acceptance
  required := h.required
  consecutive := h.consecutive
  passes := h.passes
  maximum := h.maximum

/-- The exceptions `main` prints for a backup: those of the tool. -/
def Refusal (e : Exc) : Prop := ∃ msg, e = .protocolError msg

theorem bootloaderReference_of_length {image : Bytes} (hlen : image.length = AdbBackup.FLASH_SIZE) :
    AdbBackup.bootloaderReference hashlib image =
      .ok { sha256 := Image.bootHash hashlib image
            knownReference := Image.bootHash hashlib image = AdbBackup.KNOWN_BOOTLOADER_SHA256 } := by
  rw [AdbBackup.bootloaderReference, raiseIf_of_not (not_not.mpr hlen), ok_bind]
  rfl

theorem raisesOnly_checkFields {fields : List (Text × Json)} {complain : String → Exc}
    (hcomplain : ∀ key, Refusal (complain key)) (expected : List (String × Expected)) :
    RaisesOnly Refusal (checkFields fields complain expected) := by
  induction expected with
  | nil => exact raisesOnly_ok ()
  | cons e rest ih =>
    rcases e with ⟨key, value⟩
    rw [checkFields]
    exact raisesOnly_guard (fun _ => hcomplain key) fun _ => ih

/-- With its other fields as required, a manifest is as good as its partition map. -/
theorem validateManifest_of_fields {fields bootloader : List (Text × Json)} {partitions : List Json}
    {image : Bytes} (hlen : image.length = AdbBackup.FLASH_SIZE)
    (hbootloader : dictGet fields "bootloader" = .obj bootloader)
    (hpartitions : dictGet fields "partitions" = .arr partitions)
    (h : OtherFieldsMatch hashlib fields bootloader image) :
    AdbBackup.validateManifest hashlib pyText (.obj fields) image =
      AdbBackup.recordedPartitions partitions >>= AdbBackup.validatePartitionMap pyText := by
  rcases h.passes with ⟨passes, hpasses, hrange⟩
  have hhashes (complain : String → Exc) :
      checkFields fields complain (AdbBackup.hashes hashlib image) = .ok () :=
    checkFields_eq_ok.mpr h.hashes
  have hboot (complain : String → Exc) : checkFields bootloader complain
      (AdbBackup.BootloaderReference.items
        { sha256 := Image.bootHash hashlib image
          knownReference := Image.bootHash hashlib image = AdbBackup.KNOWN_BOOTLOADER_SHA256 }) =
        .ok () :=
    checkFields_eq_ok.mpr h.fingerprint
  have hacceptance := (acceptance_iff hashlib).mpr h.acceptance
  simp only [AdbBackup.validateManifest, bootloaderReference_of_length hashlib hlen, Json.dict?, orRaise_some,
    ok_bind, AdbBackup.REQUIRED_IDENTICAL_READS, AdbBackup.MAX_READ_ATTEMPTS, Nat.cast_ofNat, h.format,
    h.required, h.maximum, h.consecutive, hpasses, hrange, hbootloader, hpartitions, hhashes, hboot,
    raiseIf_of_not hacceptance.1, raiseIf_of_not hacceptance.2, Json.list?, Json.int?, Bool.not_true,
    Bool.false_eq_true, ne_eq, not_true_eq_false, and_self, raiseIf_false]

/-- A manifest is refused for one of its other fields, or they are all as required. -/
theorem validateManifest_refused_or (manifest : Json) {image : Bytes}
    (hlen : image.length = AdbBackup.FLASH_SIZE) :
    (∃ e, Refusal e ∧ AdbBackup.validateManifest hashlib pyText manifest image = .error e) ∨
      ∃ fields bootloader partitions, manifest = .obj fields ∧
        dictGet fields "bootloader" = .obj bootloader ∧ dictGet fields "partitions" = .arr partitions ∧
        OtherFieldsMatch hashlib fields bootloader image := by
  rw [AdbBackup.validateManifest, bootloaderReference_of_length hashlib hlen]
  apply raises_or_bind (raisesOnly_orRaise fun _ => ⟨_, rfl⟩)
  intro fields hfields
  apply raises_or_guard fun _ => ⟨_, rfl⟩
  intro hformat
  apply raises_or_bind (raisesOnly_checkFields (fun _ => ⟨_, rfl⟩) _)
  intro _ hhashes
  rw [ok_bind]
  apply raises_or_bind (raisesOnly_orRaise fun _ => ⟨_, rfl⟩)
  intro bootloader hbootloader
  apply raises_or_bind (raisesOnly_checkFields (fun _ => ⟨_, rfl⟩) _)
  intro _ hfingerprint
  apply raises_or_guard fun _ => ⟨_, rfl⟩
  intro hknown
  apply raises_or_guard fun _ => ⟨_, rfl⟩
  intro hunknown
  apply raises_or_guard fun _ => ⟨_, rfl⟩
  intro hrequired
  apply raises_or_guard fun _ => ⟨_, rfl⟩
  intro hconsecutive
  apply raises_or_bind (raisesOnly_orRaise fun _ => ⟨_, rfl⟩)
  intro passes hpasses
  apply raises_or_guard fun _ => ⟨_, rfl⟩
  intro hrange
  apply raises_or_guard fun _ => ⟨_, rfl⟩
  intro hmaximum
  apply raises_or_bind (raisesOnly_orRaise fun _ => ⟨_, rfl⟩)
  intro partitions hpartitions
  right
  have hacceptance := (acceptance_iff hashlib).mp ⟨hknown, hunknown⟩
  simp only [orRaise_eq_ok, Json.dict?_eq_some, Json.list?_eq_some, Json.int?_eq_some,
    checkFields_eq_ok, Bool.not_eq_true', Bool.not_eq_false, not_not] at *
  exact ⟨fields, bootloader, partitions, hfields, hbootloader, hpartitions,
    { format := hformat, hashes := hhashes, fingerprint := hfingerprint, acceptance := hacceptance
      required := hrequired, consecutive := hconsecutive, passes := ⟨passes, hpasses, hrange⟩
      maximum := hmaximum }⟩

theorem validateManifest_iff {manifest : Json} {image : Bytes}
    (hlen : image.length = AdbBackup.FLASH_SIZE) :
    AdbBackup.validateManifest hashlib pyText manifest image = .ok () ↔
      FieldsMatch hashlib pyText manifest image ∧ ExactEntries manifest := by
  constructor
  · intro h
    rcases validateManifest_refused_or hashlib pyText manifest hlen with
      ⟨e, -, he⟩ | ⟨fields, bootloader, partitions, rfl, hbootloader, hpartitions, hothers⟩
    · rw [he] at h
      cases h
    rw [validateManifest_of_fields hashlib pyText hlen hbootloader hpartitions hothers] at h
    rcases (recordedPartitions_validate_iff pyText).mp (bind_eq_ok.mp h) with ⟨hexact, hlength, hmatch⟩
    constructor
    · exact ⟨fields, bootloader, partitions, rfl, hbootloader, hpartitions,
        { format := hothers.format, hashes := hothers.hashes, fingerprint := hothers.fingerprint
          acceptance := hothers.acceptance, required := hothers.required
          consecutive := hothers.consecutive, passes := hothers.passes, maximum := hothers.maximum
          length := hlength, entries := hmatch }⟩
    · intro fields' partitions' hfields' hpartitions'
      cases hfields'
      rw [hpartitions] at hpartitions'
      cases hpartitions'
      exact hexact
  · rintro ⟨⟨fields, bootloader, partitions, rfl, hbootloader, hpartitions, h⟩, hexact⟩
    rw [validateManifest_of_fields hashlib pyText hlen hbootloader hpartitions h.others, bind_eq_ok]
    exact (recordedPartitions_validate_iff pyText).mpr
      ⟨hexact fields partitions rfl hpartitions, h.length, h.entries⟩

section Readers

variable {path : Path} {file : FileView} {archive : Archive} {image manifestBytes : Bytes}
  {manifest : Json}
  (hzip : pyText.casefold path.suffix = text ".zip") (hopen : file.openZip = .ok archive)
  (hwf : archive.WellFormed AdbBackup.archivePolicy image manifestBytes)
  (hlen : image.length = AdbBackup.FLASH_SIZE) (hjson : json.loads manifestBytes = .ok manifest)

include hzip hopen hwf hlen hjson

theorem readImageSource_iff {image' : Bytes} :
    (∃ source, Image.readImageSource hashlib pyText json path file = .ok (image', source)) ↔
      image' = image ∧ FieldsMatch hashlib pyText manifest image := by
  have hread : readArchive Image.archivePolicy file.openZip = .ok (image, manifestBytes) := by
    rw [hopen]
    exact readArchive_of_wellFormed ⟨hwf.names, hwf.plain, hwf.imageSize, hwf.manifestSize, hwf.image,
      hwf.manifest⟩
  have hsize : image.length = Image.FLASH_SIZE := hlen
  rw [← validateUsbBackupManifest_iff, Image.readImageSource, Image.ZIP_SUFFIX,
    if_neg (not_not.mpr hzip), hread, ok_bind]
  simp only [raiseIf_of_not (not_not.mpr hsize), ok_bind, readManifest_eq_ok.mpr hjson, bind_eq_ok,
    Except.ok.injEq, Prod.mk.injEq]
  constructor
  · rintro ⟨source, _, hsource, rfl, rfl⟩
    exact ⟨rfl, _, hsource⟩
  · rintro ⟨rfl, source, hsource⟩
    exact ⟨source, source, hsource, rfl, rfl⟩

theorem loadPreservedBackup_iff (hfile : file.isFile = true) {image' : Bytes} :
    AdbBackup.loadPreservedBackup hashlib pyText json path file = .ok image' ↔
      image' = image ∧ FieldsMatch hashlib pyText manifest image ∧ ExactEntries manifest := by
  have hread : readArchive AdbBackup.archivePolicy file.openZip = .ok (image, manifestBytes) := by
    rw [hopen]
    exact readArchive_of_wellFormed hwf
  rw [← validateManifest_iff hashlib pyText hlen, AdbBackup.loadPreservedBackup,
    raiseIf_of_not (by simp [hfile]), ok_bind, AdbBackup.validateBackupArchivePath,
    AdbBackup.ZIP_SUFFIX, raiseIf_of_not (not_not.mpr hzip), ok_bind, hread, ok_bind]
  simp only [raiseIf_of_not (not_not.mpr hlen), ok_bind, readManifest_eq_ok.mpr hjson, bind_eq_ok,
    Except.ok.injEq]
  constructor
  · rintro ⟨_, hvalid, rfl⟩
    exact ⟨rfl, hvalid⟩
  · rintro ⟨rfl, hvalid⟩
    exact ⟨(), hvalid, rfl⟩

end Readers

/-- The readers agree on a well-formed archive exactly when every entry of its partition map has the
keys of the dataclass, or the manifest fails a check that both make. -/
theorem backup_readers_agree_iff {path : Path} {file : FileView} {archive : Archive}
    {image manifestBytes : Bytes} {manifest : Json}
    (hfile : file.isFile = true) (hzip : pyText.casefold path.suffix = text ".zip")
    (hopen : file.openZip = .ok archive)
    (hwf : archive.WellFormed AdbBackup.archivePolicy image manifestBytes)
    (hlen : image.length = AdbBackup.FLASH_SIZE) (hjson : json.loads manifestBytes = .ok manifest) :
    (((∃ a source, Image.readImageSource hashlib pyText json path file = .ok (a, source)) ↔
        ∃ b, AdbBackup.loadPreservedBackup hashlib pyText json path file = .ok b) ∧
      ∀ a source b, Image.readImageSource hashlib pyText json path file = .ok (a, source) →
        AdbBackup.loadPreservedBackup hashlib pyText json path file = .ok b → a = b) ↔
      (ExactEntries manifest ∨ ¬FieldsMatch hashlib pyText manifest image) := by
  have hsource {a : Bytes} :
      (∃ source, Image.readImageSource hashlib pyText json path file = .ok (a, source)) ↔
        a = image ∧ FieldsMatch hashlib pyText manifest image :=
    readImageSource_iff hashlib pyText json hzip hopen hwf hlen hjson
  have hload {b : Bytes} : AdbBackup.loadPreservedBackup hashlib pyText json path file = .ok b ↔
      b = image ∧ FieldsMatch hashlib pyText manifest image ∧ ExactEntries manifest :=
    loadPreservedBackup_iff hashlib pyText json hzip hopen hwf hlen hjson hfile
  have hsame : ∀ a source b, Image.readImageSource hashlib pyText json path file = .ok (a, source) →
      AdbBackup.loadPreservedBackup hashlib pyText json path file = .ok b → a = b := by
    intro a source b ha hb
    rw [(hsource.mp ⟨source, ha⟩).1, (hload.mp hb).1]
  rw [and_iff_left hsame]
  simp only [hsource, hload, exists_eq_left]
  tauto

/-! ## 4. A backup the two readers disagree on -/

def knownHashlib : Hashlib where
  sha256 _ := Image.KNOWN_BOOTLOADER_SHA256
  md5 _ := Image.zeroMd5

-- an entry as an editor that drops unused fields would leave it
def bareEntry (e : Nat × Nat × String) : Json :=
  .obj [(text "index", .int e.1), (text "size", .int e.2.1), (text "name", .str (text e.2.2))]

def bareBootloader : List (Text × Json) :=
  [(text "partition", .str (text "boot")), (text "size", .int 0x040000),
    (text "sha256", .str (text Image.KNOWN_BOOTLOADER_SHA256)),
    (text "known_sha256", .str (text Image.KNOWN_BOOTLOADER_SHA256)),
    (text "known_reference", .bool true), (text "acceptance", .str (text "known-reference"))]

def bareFields : List (Text × Json) :=
  [(text "format", .str (text "cc2flash-backup-v2")), (text "size", .int 0x800000),
    (text "sha256", .str (text Image.KNOWN_BOOTLOADER_SHA256)),
    (text "md5", .str (text (hex (List.replicate 16 0)))), (text "bootloader", .obj bareBootloader),
    (text "required_identical_reads", .int 3), (text "consecutive_identical_reads", .int 3),
    (text "read_passes", .int 3), (text "maximum_read_attempts", .int 5),
    (text "partitions", .arr (Image.EXPECTED_USB_PARTITIONS.map bareEntry))]

def erasedImage : Bytes := List.replicate 0x800000 0xFF

def bareJson : JsonCodec where
  dumps _ := []
  loads _ := .ok (.obj bareFields)

def bareArchive : Archive where
  infolist := [⟨text "flash.bin", 0, 0x800000⟩, ⟨text "manifest.json", 0, 2048⟩]
  read name := if name = text "flash.bin" then .ok erasedImage else .ok []

def barePath : Path := ⟨"backup.zip", text ".zip"⟩

def bareFile : FileView := { isFile := true, readBytes := .ok [], openZip := .ok bareArchive }

theorem length_erasedImage : erasedImage.length = AdbBackup.FLASH_SIZE := List.length_replicate

theorem bareArchive_wellFormed : bareArchive.WellFormed AdbBackup.archivePolicy erasedImage [] where
  names := by decide
  plain := by decide
  imageSize := by decide
  manifestSize := by decide
  image := rfl
  manifest := rfl

theorem bareFields_match : FieldsMatch knownHashlib plainText (.obj bareFields) erasedImage := by
  have hhashes : Image.imageHashes knownHashlib erasedImage =
      [("size", .int 0x800000), ("sha256", .str (text Image.KNOWN_BOOTLOADER_SHA256)),
        ("md5", .str (text (hex (List.replicate 16 0))))] := by
    have hlen := length_erasedImage
    rw [Image.imageHashes, hlen]
    rfl
  have hfingerprint : Image.expectedBootloader knownHashlib erasedImage =
      [("partition", .str (text "boot")), ("size", .int 0x040000),
        ("sha256", .str (text Image.KNOWN_BOOTLOADER_SHA256)),
        ("known_sha256", .str (text Image.KNOWN_BOOTLOADER_SHA256)), ("known_reference", .bool true)] :=
    rfl
  refine ⟨bareFields, bareBootloader, _, rfl, rfl, rfl, ?_⟩
  exact
    { format := by decide
      hashes := by rw [hhashes]; decide +kernel
      fingerprint := by rw [hfingerprint]; decide +kernel
      acceptance := by decide +kernel
      required := by decide +kernel
      consecutive := rfl
      passes := ⟨3, rfl, by decide, by decide⟩
      maximum := by decide +kernel
      length := rfl
      entries := by decide +kernel }

theorem bareFields_not_exact : ¬ExactEntries (.obj bareFields) := by
  intro h
  obtain ⟨fields, hfields, -, hpresent⟩ := h bareFields _ rfl rfl (bareEntry (0, 0x040000, "boot"))
    (List.mem_map_of_mem (by decide))
  obtain rfl := Json.obj.inj hfields
  have herase := hpresent (text "erase_size") (by decide)
  exact absurd herase (by decide)

/-- `build-image` takes this backup, restore refuses it. -/
theorem backup_readers_disagree :
    (∃ source, Image.readImageSource knownHashlib plainText bareJson barePath bareFile =
        .ok (erasedImage, source)) ∧
      ¬∃ b, AdbBackup.loadPreservedBackup knownHashlib plainText bareJson barePath bareFile = .ok b := by
  constructor
  · exact (readImageSource_iff knownHashlib plainText bareJson rfl rfl bareArchive_wellFormed
      length_erasedImage rfl).mpr ⟨rfl, bareFields_match⟩
  · rintro ⟨b, hb⟩
    have h := (loadPreservedBackup_iff knownHashlib plainText bareJson rfl rfl bareArchive_wellFormed
      length_erasedImage rfl rfl).mp hb
    exact bareFields_not_exact h.2.2

theorem backup_readers_agree_iff_bare :
    (((∃ a source, Image.readImageSource knownHashlib plainText bareJson barePath bareFile =
          .ok (a, source)) ↔
        ∃ b, AdbBackup.loadPreservedBackup knownHashlib plainText bareJson barePath bareFile = .ok b) ∧
      ∀ a source b, Image.readImageSource knownHashlib plainText bareJson barePath bareFile =
          .ok (a, source) →
        AdbBackup.loadPreservedBackup knownHashlib plainText bareJson barePath bareFile = .ok b →
        a = b) ↔
      (ExactEntries (.obj bareFields) ∨
        ¬FieldsMatch knownHashlib plainText (.obj bareFields) erasedImage) :=
  backup_readers_agree_iff knownHashlib plainText bareJson rfl rfl rfl bareArchive_wellFormed
    length_erasedImage rfl

/-! ## 5. A backup both readers accept -/

-- hashes as a stock camera has them, told apart by the length of what is hashed
def stockHashlib : Hashlib where
  sha256 data := if data.length = 0x150000 then RestorePrepare.KERNEL_SHA256 else Image.KNOWN_BOOTLOADER_SHA256
  md5 _ := Image.zeroMd5

theorem stockHashlib_sha256 (data : Bytes) :
    stockHashlib.sha256 data = if data.length = 0x150000 then RestorePrepare.KERNEL_SHA256 else Image.KNOWN_BOOTLOADER_SHA256 := rfl

def stockEntry (e : Nat × Nat × String) : Json :=
  .obj [(text "index", .int e.1), (text "size", .int e.2.1), (text "erase_size", .int 0x4000),
    (text "name", .str (text e.2.2))]

def stockFields : List (Text × Json) :=
  bareFields.dropLast ++ [(text "partitions", .arr (Image.EXPECTED_USB_PARTITIONS.map stockEntry))]

def stockJson : JsonCodec where
  dumps _ := []
  loads _ := .ok (.obj stockFields)

theorem stockFields_match : FieldsMatch stockHashlib plainText (.obj stockFields) erasedImage := by
  have hlen := length_erasedImage
  have himage : stockHashlib.sha256 erasedImage = Image.KNOWN_BOOTLOADER_SHA256 := by
    rw [stockHashlib_sha256, hlen]
    rfl
  have hboot : Image.bootHash stockHashlib erasedImage = Image.KNOWN_BOOTLOADER_SHA256 := by
    rw [Image.bootHash, stockHashlib_sha256, length_slice, hlen]
    rfl
  have hhashes : Image.imageHashes stockHashlib erasedImage =
      [("size", .int 0x800000), ("sha256", .str (text Image.KNOWN_BOOTLOADER_SHA256)),
        ("md5", .str (text (hex (List.replicate 16 0))))] := by
    rw [Image.imageHashes, himage, hlen]
    rfl
  have hfingerprint : Image.expectedBootloader stockHashlib erasedImage =
      [("partition", .str (text "boot")), ("size", .int 0x040000),
        ("sha256", .str (text Image.KNOWN_BOOTLOADER_SHA256)),
        ("known_sha256", .str (text Image.KNOWN_BOOTLOADER_SHA256)), ("known_reference", .bool true)] := by
    simp [Image.expectedBootloader, hboot]
  refine ⟨stockFields, bareBootloader, _, rfl, rfl, rfl, ?_⟩
  exact
    { format := by decide
      hashes := by rw [hhashes]; decide +kernel
      fingerprint := by rw [hfingerprint]; decide +kernel
      acceptance := by rw [Image.expectedAcceptance, hboot]; decide +kernel
      required := by decide +kernel
      consecutive := rfl
      passes := ⟨3, rfl, by decide, by decide⟩
      maximum := by decide +kernel
      length := rfl
      entries := by decide +kernel }

theorem stockFields_exact : ExactEntries (.obj stockFields) := by
  intro fields partitions hfields hfound item hitem
  obtain rfl := Json.obj.inj hfields
  obtain rfl : Image.EXPECTED_USB_PARTITIONS.map stockEntry = partitions := Json.arr.inj hfound
  obtain ⟨e, -, rfl⟩ := List.mem_map.mp hitem
  exact ⟨_, rfl, by simp [AdbBackup.PARTITION_FIELDS], by simp [AdbBackup.PARTITION_FIELDS]⟩

theorem loadPreservedBackup_stock :
    AdbBackup.loadPreservedBackup stockHashlib plainText stockJson barePath bareFile = .ok erasedImage :=
  (loadPreservedBackup_iff stockHashlib plainText stockJson rfl rfl bareArchive_wellFormed length_erasedImage rfl
    rfl).mpr ⟨rfl, stockFields_match, stockFields_exact⟩

end Cc2Camera
