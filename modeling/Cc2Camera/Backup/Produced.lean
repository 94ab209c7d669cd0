import Cc2Camera.Backup.Agreement
import Cc2Camera.Backup.Command

/-!
# Produced — the manifest of `command_backup` passes the checks of both readers

It is written with its keys in order, so what a reader loads is the recorded manifest up to the order of
keys (`Json.sorted`).  The readers look at a dict key by key and do not see the difference.
-/

open Bytes Exceptions Program

namespace Cc2Camera

open Host AdbBackup

/-! ## Fields -/

theorem text_injective : Function.Injective text := by
  intro s s' h
  have hchars := List.map_injective_iff.mpr (fun c d hcd => Char.ext (UInt32.toNat_inj.mp hcd)) h
  exact String.toList_injective hchars

theorem dictGet_cons (key' : String) (value : Json) (fields : List (Text × Json)) (key : String) :
    dictGet ((text key', value) :: fields) key = if key = key' then value else dictGet fields key := by
  unfold dictGet
  by_cases h : key = key'
  · rw [h, if_pos rfl, List.lookup_cons_self]
    rfl
  · have hne : ¬text key = text key' := fun he => h (text_injective he)
    rw [if_neg h, List.lookup_cons, beq_eq_false_iff_ne.mpr hne]

@[simp] theorem dictGet_nil (key : String) : dictGet [] key = .null := rfl

theorem Expected.json_eqs (expected : Expected) : expected.json.eqs expected = true := by
  cases expected <;> simp [Expected.json, Json.eqs, Json.num?]

/-! ## Key order -/

theorem partitionItemMatches_sorted (pyText : PyText) (item : Json) (expected : Nat × Nat × String) :
    Image.partitionItemMatches pyText item.sorted expected = Image.partitionItemMatches pyText item expected := by
  cases item with
  | obj fields =>
    show Image.partitionItemMatches pyText (.obj (sortedDict fields)) expected = _
    simp only [Image.partitionItemMatches, Json.dict?, dictGet_sortedDict, Json.eqs_sorted, Json.str?_sorted]
  | null => rfl
  | bool b => rfl
  | int n => rfl
  | finite q => rfl
  | nonfinite => rfl
  | str s => rfl
  | arr items => rfl

/-- A manifest that passes the checks passes them with its keys in order. -/
theorem FieldsMatch.sorted {hashlib : Hashlib} {pyText : PyText} {manifest : Json} {image : Bytes}
    (h : FieldsMatch hashlib pyText manifest image) : FieldsMatch hashlib pyText manifest.sorted image := by
  obtain ⟨fields, bootloader, partitions, rfl, hbootloader, hpartitions, h⟩ := h
  refine ⟨sortedDict fields, sortedDict bootloader, sortedItems partitions, rfl, ?_, ?_, ?_⟩
  · rw [dictGet_sortedDict, hbootloader]
    rfl
  · rw [dictGet_sortedDict, hpartitions]
    rfl
  · obtain ⟨n, hpasses, hrange⟩ := h.passes
    exact
      { format := by rw [dictGet_sortedDict, Json.eqs_sorted, h.format]
        hashes := fun e he => by rw [dictGet_sortedDict, Json.eqs_sorted, h.hashes e he]
        fingerprint := fun e he => by rw [dictGet_sortedDict, Json.eqs_sorted, h.fingerprint e he]
        acceptance := by rw [dictGet_sortedDict, Json.eqs_sorted, h.acceptance]
        required := by rw [dictGet_sortedDict, Json.eqs_sorted, h.required]
        consecutive := by rw [dictGet_sortedDict, h.consecutive]; rfl
        passes := ⟨n, by rw [dictGet_sortedDict, hpasses]; rfl, hrange⟩
        maximum := by rw [dictGet_sortedDict, Json.eqs_sorted, h.maximum]
        length := by rw [sortedItems_eq_map, List.length_map, h.length]
        entries := by
          intro p hp
          rw [sortedItems_eq_map, List.zip_map_left] at hp
          obtain ⟨q, hq, rfl⟩ := List.mem_map.mp hp
          exact (partitionItemMatches_sorted pyText q.1 q.2).trans (h.entries q hq) }

theorem ExactEntry.sorted {item : Json} (h : ExactEntry item) : ExactEntry item.sorted := by
  obtain ⟨fields, rfl, hkeys, hpresent⟩ := h
  refine ⟨sortedDict fields, rfl, fun f hf => ?_, fun key hkey => ?_⟩
  · have hmem := (Sorting.perm_sortByKey Prod.fst (sortedFields fields)).mem_iff.mp hf
    rw [sortedFields_eq_map] at hmem
    obtain ⟨field, hfield, rfl⟩ := List.mem_map.mp hmem
    exact hkeys field hfield
  · rw [lookup_sortedDict, Option.isSome_map]
    exact hpresent key hkey

theorem ExactEntries.sorted {manifest : Json} {fields : List (Text × Json)} {partitions : List Json}
    (hmanifest : manifest = .obj fields) (hpartitions : dictGet fields "partitions" = .arr partitions)
    (h : ExactEntries manifest) : ExactEntries manifest.sorted := by
  intro fields' partitions' hfields' hpartitions' item hitem
  rw [hmanifest] at hfields'
  obtain rfl : sortedDict fields = fields' := Json.obj.inj hfields'
  rw [dictGet_sortedDict, hpartitions] at hpartitions'
  obtain rfl : sortedItems partitions = partitions' := Json.arr.inj hpartitions'
  rw [sortedItems_eq_map] at hitem
  obtain ⟨entry, hentry, rfl⟩ := List.mem_map.mp hitem
  exact (h fields partitions hmanifest hpartitions entry hentry).sorted

section Manifest

variable {hashlib : Hashlib} {unicode : Unicode} {pyText : PyText} {args : BackupArgs}
  {manifest : Manifest} {image : Bytes} {acceptance : String}

theorem identityAndPartitions_returned {adb : AdbClient} {identity : Text} {parts : List MtdPartition}
    {t : Trace} (h : Runs (adb.identityAndPartitions unicode pyText) t (.returned (identity, parts))) :
    validatePartitionMap pyText (parts.map MtdPartition.record) = .ok () := by
  obtain ⟨_, _, _, -, h₁, -⟩ := runs_bind.mp h
  obtain ⟨_, _, _, -, h₂, -⟩ := runs_bind.mp h₁
  obtain ⟨_, _, _, -, h₃, -⟩ := runs_bind.mp h₂
  obtain ⟨_, _, _, -, h₄, -⟩ := runs_bind.mp h₃
  obtain ⟨_, _, _, -, h₅, -⟩ := runs_bind.mp h₄
  obtain ⟨_, parsed, _, -, h₆, -⟩ := runs_bind.mp h₅
  obtain ⟨_, u, _, hvalid, hret, -⟩ := runs_bind.mp h₆
  obtain ⟨hresult, -⟩ := runs_ret.mp hret
  obtain ⟨-, rfl⟩ := Prod.mk.inj hresult
  exact (runs_lift.mp hvalid).1

theorem partitionOfItem_asdict (part : MtdPartition) : partitionOfItem part.asdict = .ok part.record := by
  have hlookup (key : String) (value : Json) (fields : List (Text × Json)) :
      ((text key, value) :: fields).lookup (text key) = some value := List.lookup_cons_self
  have hskip (key key' : String) (value : Json) (fields : List (Text × Json)) (h : key ≠ key') :
      ((text key', value) :: fields).lookup (text key) = fields.lookup (text key) := by
    have hne : ¬text key = text key' := fun he => h (text_injective he)
    rw [List.lookup_cons, beq_eq_false_iff_ne.mpr hne]
  have hkeys : ¬([(text "index", Json.int part.index), (text "size", .int part.size),
      (text "erase_size", .int part.eraseSize), (text "name", .str part.name)].any
        fun f => f.1 ∉ PARTITION_FIELDS) = true := by
    simp [PARTITION_FIELDS]
  rw [partitionOfItem, MtdPartition.asdict, Json.dict?, orRaise_some, ok_bind, raiseIf_of_not hkeys]
  simp only [hlookup, hskip _ _ _ _ (show "size" ≠ "index" by decide),
    hskip _ _ _ _ (show "erase_size" ≠ "index" by decide), hskip _ _ _ _ (show "erase_size" ≠ "size" by decide),
    hskip _ _ _ _ (show "name" ≠ "index" by decide), hskip _ _ _ _ (show "name" ≠ "size" by decide),
    hskip _ _ _ _ (show "name" ≠ "erase_size" by decide), orRaise_some, ok_bind]
  rfl

theorem partitionsOfItems_asdict (parts : List MtdPartition) :
    partitionsOfItems (parts.map MtdPartition.asdict) = .ok (parts.map MtdPartition.record) := by
  induction parts with
  | nil => rfl
  | cons part parts ih =>
    rw [List.map_cons, List.map_cons, partitionsOfItems, partitionOfItem_asdict, ok_bind, ih]
    rfl

theorem bootloaderReference_eq {bootloader : BootloaderReference}
    (h : bootloaderReference hashlib image = .ok bootloader) :
    bootloader = { sha256 := Image.bootHash hashlib image
                   knownReference := Image.bootHash hashlib image = KNOWN_BOOTLOADER_SHA256 } := by
  obtain ⟨_, -, hresult⟩ := bind_eq_ok.mp h
  exact (Except.ok.inj hresult).symm

theorem acceptance_expected (hboot : bootloaderReference hashlib image = .ok manifest.bootloader)
    (h : args.acceptance manifest.bootloader = .ok acceptance) :
    text acceptance = Image.expectedAcceptance hashlib image := by
  obtain ⟨_, -, hresult⟩ := bind_eq_ok.mp h
  rw [bootloaderReference_eq hboot] at hresult
  have hknown : Image.KNOWN_BOOTLOADER_SHA256 = KNOWN_BOOTLOADER_SHA256 := rfl
  rw [Image.expectedAcceptance, hknown]
  by_cases hreference : Image.bootHash hashlib image = KNOWN_BOOTLOADER_SHA256
  · rw [if_pos (by simpa using hreference)] at hresult
    rw [if_pos hreference, ← Except.ok.inj hresult]
  · rw [if_neg (by simpa using hreference)] at hresult
    rw [if_neg hreference]
    by_cases haccepted : args.acceptBootloaderSha256 = some (Image.bootHash hashlib image)
    · rw [if_pos haccepted] at hresult
      rw [← Except.ok.inj hresult]
    · rw [if_neg haccepted] at hresult
      cases hresult

theorem runLength_le (images : List Bytes) : runLength images ≤ images.length := by
  induction images with
  | nil => exact Nat.le_refl 0
  | cons image earlier ih =>
    rw [runLength, List.length_cons]
    split
    · omega
    · omega

/-- Both readers' checks hold of what was read and accepted. -/
theorem manifest_matches {identification clock : Trace} {reads : List FlashRead}
    (h : Acquired hashlib unicode pyText args.client image manifest identification reads clock)
    (hacceptance : args.acceptance manifest.bootloader = .ok acceptance) :
    FieldsMatch hashlib pyText (.obj (manifest.fields acceptance)) image ∧
      ExactEntries (.obj (manifest.fields acceptance)) := by
  obtain ⟨hexact, hlength, hentries⟩ := (recordedPartitions_validate_iff pyText).mp
    ⟨_, recordedPartitions_eq_ok.mpr (partitionsOfItems_asdict manifest.partitions),
      identityAndPartitions_returned h.identified⟩
  have hpasses : 3 ≤ reads.length := by
    have := runLength_le (reads.map FlashRead.image).reverse
    rw [h.settled.run, List.length_reverse, List.length_map] at this
    exact this
  have hpartitions : dictGet (manifest.fields acceptance) "partitions" =
      .arr (manifest.partitions.map MtdPartition.asdict) := by
    simp [Manifest.fields, jsonItems, h.digest, hashes, dictGet_cons]
  constructor
  · refine ⟨_, bootloaderFields manifest.bootloader acceptance, _, rfl, ?_, hpartitions, ?_⟩
    · simp [Manifest.fields, dictGet_cons]
    · exact
        { format := by simp [Manifest.fields, dictGet_cons, Json.eqs]
          hashes := by
            simp [Manifest.fields, jsonItems, h.digest, hashes, Image.imageHashes, dictGet_cons,
              Expected.json_eqs]
          fingerprint := by
            rw [bootloaderReference_eq h.bootloader]
            simp [bootloaderFields, jsonItems, BootloaderReference.items, Image.expectedBootloader,
              dictGet_cons, Expected.json_eqs]
            exact ⟨Expected.json_eqs _, Expected.json_eqs _⟩
          acceptance := by
            rw [← acceptance_expected h.bootloader hacceptance]
            simp [bootloaderFields, jsonItems, BootloaderReference.items, dictGet_cons, Json.eqs]
          required := by simp [Manifest.fields, dictGet_cons, Json.eqs, Json.num?, REQUIRED_IDENTICAL_READS]
          consecutive := by
            simp [Manifest.fields, dictGet_cons, h.consecutive, REQUIRED_IDENTICAL_READS]
          passes := by
            refine ⟨manifest.readPasses, by simp [Manifest.fields, dictGet_cons], ?_, ?_⟩
            · rw [h.passes]
              exact_mod_cast hpasses
            · rw [h.passes]
              exact_mod_cast h.count
          maximum := by simp [Manifest.fields, dictGet_cons, Json.eqs, Json.num?, MAX_READ_ATTEMPTS]
          length := hlength
          entries := hentries }
  · intro fields partitions hfields hfound
    obtain rfl := Json.obj.inj hfields
    rw [hpartitions] at hfound
    rw [← Json.arr.inj hfound]
    exact hexact

/-- And of what a reader loads. -/
theorem manifest_matches_sorted {identification clock : Trace} {reads : List FlashRead}
    (h : Acquired hashlib unicode pyText args.client image manifest identification reads clock)
    (hacceptance : args.acceptance manifest.bootloader = .ok acceptance) :
    FieldsMatch hashlib pyText (Json.obj (manifest.fields acceptance)).sorted image ∧
      ExactEntries (Json.obj (manifest.fields acceptance)).sorted := by
  obtain ⟨hfields, hentries⟩ := manifest_matches h hacceptance
  have hpartitions : dictGet (manifest.fields acceptance) "partitions" =
      .arr (manifest.partitions.map MtdPartition.asdict) := by
    simp [Manifest.fields, jsonItems, h.digest, hashes, dictGet_cons]
  exact ⟨hfields.sorted, hentries.sorted rfl hpartitions⟩

end Manifest

end Cc2Camera
