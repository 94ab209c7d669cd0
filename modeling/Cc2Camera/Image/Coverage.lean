import Cc2Camera.Image.Blank

/-!
# Coverage — which bytes of an accepted image the fingerprints determine

Two accepted images hash to the same references, so without a collision the hashed strings agree.  The
only string with a hole of variable length is the one after the unit fields; `afterUnitFields_getElem?`
reads it at an absolute offset, which removes the length shift from everything that follows.
-/

open Bytes Exceptions

namespace Cc2Camera.Image

variable (hashlib : Hashlib) (codecs : Codecs)

/-- The strings whose digests `analyzeImage` compares with a reference. -/
def comparedStrings (image : Bytes) : List Bytes :=
  REFERENCE_SEGMENTS.map (fun segment => slice image segment.start segment.stop) ++
    [slice image PATCH_START PATCH_END] ++
    match identifyHwconfigVariant hashlib image with
    | .ok (_, record) =>
      [normalizedHwconfigBeforeIdentity image, normalizedHwconfigAfterUnitFields image record,
        invariantBytes image record]
    | .error _ => []

def NoCollision (hash : Bytes → String) (strings : List Bytes) : Prop :=
  ∀ x ∈ strings, ∀ y ∈ strings, hash x = hash y → x = y

-- the record length as the image states it
def hwRecordLength (image : Bytes) : Nat :=
  leNat (slice image (HW_RECORD_START + 2) HW_RECORD_PAYLOAD_START)

def DeclaresExtension (image : Bytes) : Prop := hwRecordLength image = 261

/-- The offsets at which two accepted images may differ whatever they declare. -/
def UnitOrPatchByte (i : Nat) : Prop :=
  (0x463000 ≤ i ∧ i ≤ 0x46AFFF) ∨ (0x7D2002 ≤ i ∧ i ≤ 0x7D2003) ∨
    (0x7D200A ≤ i ∧ i ≤ 0x7D200C) ∨ (0x7D2011 ≤ i ∧ i ≤ 0x7D206E) ∨
    (0x7D206F ≤ i ∧ i ≤ 0x7D2072) ∨ (0x7E0000 ≤ i ∧ i ≤ 0x7FFFFF)

def ExtensionByte (i : Nat) : Prop := 0x7D2104 ≤ i ∧ i ≤ 0x7D2108

def KnownPatchWindow (image : Bytes) : Prop :=
  hashlib.sha256 (slice image PATCH_START PATCH_END) ∈ [ORIGINAL_PATCH_SHA256, PATCHED_PATCH_SHA256]

/-! ## Reading one accepted image -/

theorem identifyHwconfigVariant_record {image : Bytes} {name : String} {record : HwRecord}
    (h : identifyHwconfigVariant hashlib image = .ok (name, record)) :
    (hwRecordLength image = 256 ∨ hwRecordLength image = 261) ∧
      record.recordEnd = HW_RECORD_PAYLOAD_START + hwRecordLength image ∧
      record.extensionLength = hwRecordLength image - 256 := by
  unfold identifyHwconfigVariant at h
  obtain ⟨_, _, h⟩ := bind_eq_ok.mp h
  obtain ⟨_, _, h⟩ := bind_eq_ok.mp h
  obtain ⟨_, hsupported, h⟩ := bind_eq_ok.mp h
  obtain ⟨_, _, h⟩ := bind_eq_ok.mp h
  have hrecord := (Prod.mk.inj (Except.ok.inj h)).2
  rw [raiseIf_eq_ok, not_not] at hsupported
  have hlength : hwRecordLength image = 256 ∨ hwRecordLength image = 261 := by
    simpa [HW_SUPPORTED_PAYLOAD_LENGTHS, hwRecordLength] using hsupported
  exact ⟨hlength, hrecord ▸ rfl, hrecord ▸ rfl⟩

theorem mem_segments_hash {image : Bytes} (h : segmentErrors hashlib image = []) {segment : Segment}
    (hmem : segment ∈ REFERENCE_SEGMENTS) :
    hashlib.sha256 (slice image segment.start segment.stop) = segment.expectedHash := by
  have hsegment := List.flatMap_eq_nil_iff.mp h segment hmem
  by_contra hne
  rw [if_neg hne] at hsegment
  exact absurd hsegment (by simp)

theorem normalizedErrors_eq_nil {image : Bytes} {record : HwRecord}
    (h : normalizedErrors hashlib image record = []) :
    hashlib.sha256 (normalizedHwconfigBeforeIdentity image) = HWCONFIG_BEFORE_IDENTITY_SHA256 ∧
      hashlib.sha256 (normalizedHwconfigAfterUnitFields image record) =
        HWCONFIG_AFTER_UNIT_FIELDS_SHA256 ∧
      hashlib.sha256 (invariantBytes image record) = NORMALIZED_INVARIANT_SHA256 := by
  simp only [normalizedErrors, List.append_eq_nil_iff] at h
  obtain ⟨⟨hbefore, hafter⟩, hinvariant⟩ := h
  refine ⟨?_, ?_, ?_⟩
  · by_contra hne
    rw [if_neg hne] at hbefore
    exact absurd hbefore (by simp)
  · by_contra hne
    rw [if_neg hne] at hafter
    exact absurd hafter (by simp)
  · by_contra hne
    rw [if_neg hne] at hinvariant
    exact absurd hinvariant (by simp)

theorem knownPatchWindow_of_state {image : Bytes} (h : systemState hashlib image ≠ .unknown) :
    KnownPatchWindow hashlib image := by
  unfold systemState at h
  unfold KnownPatchWindow
  split at h
  · simp_all
  · split at h
    · simp_all
    · exact absurd rfl h

/-- The normalized tail at an absolute offset: zero inside the declared extension, else the image. -/
theorem afterUnitFields_getElem? {image : Bytes} {record : HwRecord} {i : Nat}
    (hlen : image.length = FLASH_SIZE) (hext : record.extensionLength ≤ 5)
    (hend : record.recordEnd = HW_KNOWN_PAYLOAD_END + record.extensionLength)
    (hlo : HW_DATE_END ≤ i) (hhi : i < CONFIG_START) :
    (normalizedHwconfigAfterUnitFields image record)[i - HW_DATE_END]? =
      if HW_KNOWN_PAYLOAD_END ≤ i ∧ i < record.recordEnd then some 0 else image[i]? := by
  have hdate : HW_DATE_END = 0x7D2073 := rfl
  have hknown : HW_KNOWN_PAYLOAD_END = 0x7D2104 := rfl
  have hconfig : CONFIG_START = 0x7E0000 := rfl
  have hflash : FLASH_SIZE = 0x800000 := rfl
  have hhead : (slice image HW_DATE_END HW_KNOWN_PAYLOAD_END).length =
      HW_KNOWN_PAYLOAD_END - HW_DATE_END := by
    rw [length_slice, hlen]
    omega
  unfold normalizedHwconfigAfterUnitFields
  by_cases h1 : i < HW_KNOWN_PAYLOAD_END
  · rw [if_neg (by omega), List.append_assoc, List.getElem?_append_left (by rw [hhead]; omega),
      getElem?_slice, if_pos (by omega), Nat.add_sub_cancel' hlo]
  · by_cases h2 : i < record.recordEnd
    · rw [if_pos ⟨by omega, h2⟩, List.append_assoc, List.getElem?_append_right (by rw [hhead]; omega),
        List.getElem?_append_left (by rw [List.length_replicate, hhead]; omega),
        List.getElem?_replicate, if_pos (by rw [hhead]; omega)]
    · rw [if_neg (by omega), List.getElem?_append_right (by
          rw [List.length_append, List.length_replicate, hhead]; omega),
        List.length_append, List.length_replicate, hhead, getElem?_slice, if_pos (by omega)]
      congr 1
      omega

/-! ## Two accepted images -/

/-- The strings of an image that carries an `ImageChecks`. -/
theorem comparedStrings_of_checks {image : Bytes} {allow preserve : Bool} {name : String}
    {record : HwRecord} {date : String} {info : ConfigInfo} {canonical : Bytes}
    (h : ImageChecks hashlib codecs image allow preserve name record date info canonical) :
    comparedStrings hashlib image =
      REFERENCE_SEGMENTS.map (fun segment => slice image segment.start segment.stop) ++
        [slice image PATCH_START PATCH_END] ++
        [normalizedHwconfigBeforeIdentity image, normalizedHwconfigAfterUnitFields image record,
          invariantBytes image record] := by
  rw [comparedStrings, h.variant]

section TwoImages

variable {a b : Bytes} {allowA preserveA allowB preserveB : Bool} {nameA nameB dateA dateB : String}
  {recordA recordB : HwRecord} {infoA infoB : ConfigInfo} {canonicalA canonicalB : Bytes}
  (ha : ImageChecks hashlib codecs a allowA preserveA nameA recordA dateA infoA canonicalA)
  (hb : ImageChecks hashlib codecs b allowB preserveB nameB recordB dateB infoB canonicalB)
  (hcoll : NoCollision hashlib.sha256 (comparedStrings hashlib a ++ comparedStrings hashlib b))

include ha hb hcoll

theorem segment_agrees {segment : Segment} (hmem : segment ∈ REFERENCE_SEGMENTS) :
    slice a segment.start segment.stop = slice b segment.start segment.stop := by
  apply hcoll
  · rw [comparedStrings_of_checks hashlib codecs ha]
    simp only [List.mem_append, List.mem_map]
    exact .inl (.inl (.inl ⟨segment, hmem, rfl⟩))
  · rw [comparedStrings_of_checks hashlib codecs hb]
    simp only [List.mem_append, List.mem_map]
    exact .inr (.inl (.inl ⟨segment, hmem, rfl⟩))
  · rw [mem_segments_hash hashlib ha.segments hmem, mem_segments_hash hashlib hb.segments hmem]

theorem beforeIdentity_agrees :
    normalizedHwconfigBeforeIdentity a = normalizedHwconfigBeforeIdentity b := by
  apply hcoll
  · rw [comparedStrings_of_checks hashlib codecs ha]
    simp
  · rw [comparedStrings_of_checks hashlib codecs hb]
    simp
  · rw [(normalizedErrors_eq_nil hashlib ha.normalized).1,
      (normalizedErrors_eq_nil hashlib hb.normalized).1]

theorem afterUnitFields_agrees :
    normalizedHwconfigAfterUnitFields a recordA = normalizedHwconfigAfterUnitFields b recordB := by
  apply hcoll
  · rw [comparedStrings_of_checks hashlib codecs ha]
    simp
  · rw [comparedStrings_of_checks hashlib codecs hb]
    simp
  · rw [(normalizedErrors_eq_nil hashlib ha.normalized).2.1,
      (normalizedErrors_eq_nil hashlib hb.normalized).2.1]

theorem patchWindow_agrees (h : hashlib.sha256 (slice a PATCH_START PATCH_END) =
    hashlib.sha256 (slice b PATCH_START PATCH_END)) :
    slice a PATCH_START PATCH_END = slice b PATCH_START PATCH_END := by
  apply hcoll _ _ _ _ h
  · rw [comparedStrings_of_checks hashlib codecs ha]
    simp
  · rw [comparedStrings_of_checks hashlib codecs hb]
    simp

theorem segment_byte_agrees {segment : Segment} (hmem : segment ∈ REFERENCE_SEGMENTS) {i : Nat}
    (hlo : segment.start ≤ i) (hhi : i < segment.stop) : a[i]? = b[i]? :=
  (slice_eq_slice_iff a b _ _).mp (segment_agrees hashlib codecs ha hb hcoll hmem) i hlo hhi

theorem beforeIdentity_byte_agrees {i : Nat}
    (hi : (0x7D0000 ≤ i ∧ i < 0x7D2002) ∨ (0x7D2004 ≤ i ∧ i < 0x7D200A)) : a[i]? = b[i]? := by
  have heq := beforeIdentity_agrees hashlib codecs ha hb hcoll
  unfold normalizedHwconfigBeforeIdentity at heq
  have hla : (slice a 0x7D0000 (HW_RECORD_START + 2)).length =
      (slice b 0x7D0000 (HW_RECORD_START + 2)).length := by
    rw [length_slice, length_slice, ha.length, hb.length]
  obtain ⟨hhead, htail⟩ := List.append_inj heq (by
    rw [List.length_append, List.length_append, hla])
  rcases hi with ⟨hlo, hhi⟩ | ⟨hlo, hhi⟩
  · exact (slice_eq_slice_iff a b _ _).mp (List.append_inj_left hhead hla) i hlo hhi
  · exact (slice_eq_slice_iff a b _ _).mp htail i hlo hhi

/-- After the unit fields two accepted images agree once both declared extensions read as zeros. -/
theorem afterUnitFields_byte_agrees {i : Nat} (hlo : HW_DATE_END ≤ i) (hhi : i < CONFIG_START) :
    (if HW_KNOWN_PAYLOAD_END ≤ i ∧ i < recordA.recordEnd then some 0 else a[i]?) =
      (if HW_KNOWN_PAYLOAD_END ≤ i ∧ i < recordB.recordEnd then some 0 else b[i]?) := by
  obtain ⟨hlenA, hendA, hextA⟩ := identifyHwconfigVariant_record hashlib ha.variant
  obtain ⟨hlenB, hendB, hextB⟩ := identifyHwconfigVariant_record hashlib hb.variant
  have hknown : HW_KNOWN_PAYLOAD_END = HW_RECORD_PAYLOAD_START + 256 := rfl
  rw [← afterUnitFields_getElem? ha.length (by omega) (by omega) hlo hhi,
    ← afterUnitFields_getElem? hb.length (by omega) (by omega) hlo hhi,
    afterUnitFields_agrees hashlib codecs ha hb hcoll]

end TwoImages

/-- **Coverage.**  Two accepted images differ only inside the documented set; each patch window is one
of the two known ones, and an image without the extension holds zeros where its partner declares it. -/
theorem accepted_images_agree {a b : Bytes} {sourceA sourceB : String}
    {allowA preserveA allowB preserveB : Bool} {analysisA analysisB : Analysis}
    (ha : analyzeImage hashlib codecs a sourceA allowA preserveA = .ok analysisA)
    (hb : analyzeImage hashlib codecs b sourceB allowB preserveB = .ok analysisB)
    (hcoll : NoCollision hashlib.sha256 (comparedStrings hashlib a ++ comparedStrings hashlib b)) :
    (∀ i, a[i]? ≠ b[i]? →
      UnitOrPatchByte i ∨ (ExtensionByte i ∧ (DeclaresExtension a ∨ DeclaresExtension b))) ∧
    (KnownPatchWindow hashlib a ∧ KnownPatchWindow hashlib b ∧
      (hashlib.sha256 (slice a PATCH_START PATCH_END) =
          hashlib.sha256 (slice b PATCH_START PATCH_END) →
        slice a PATCH_START PATCH_END = slice b PATCH_START PATCH_END)) ∧
    (hwRecordLength a ∈ [256, 261] ∧ hwRecordLength b ∈ [256, 261]) ∧
    (¬DeclaresExtension a → DeclaresExtension b →
      ∀ i, ExtensionByte i → a[i]? = some 0) ∧
    (¬DeclaresExtension b → DeclaresExtension a →
      ∀ i, ExtensionByte i → b[i]? = some 0) := by
  obtain ⟨nameA, recordA, dateA, infoA, canonicalA, ha, -⟩ :=
    (analyzeImage_eq_ok hashlib codecs).mp ha
  obtain ⟨nameB, recordB, dateB, infoB, canonicalB, hb, -⟩ :=
    (analyzeImage_eq_ok hashlib codecs).mp hb
  obtain ⟨hlenA, hendA, -⟩ := identifyHwconfigVariant_record hashlib ha.variant
  obtain ⟨hlenB, hendB, -⟩ := identifyHwconfigVariant_record hashlib hb.variant
  have hstart : HW_RECORD_PAYLOAD_START = 0x7D2004 := rfl
  have hknown : HW_KNOWN_PAYLOAD_END = 0x7D2104 := rfl
  have hdate : HW_DATE_END = 0x7D2073 := rfl
  have hconfig : CONFIG_START = 0x7E0000 := rfl
  have hsegment {i : Nat} (segment : Segment) (hmem : segment ∈ REFERENCE_SEGMENTS)
      (hlo : segment.start ≤ i) (hhi : i < segment.stop) : a[i]? = b[i]? :=
    segment_byte_agrees hashlib codecs ha hb hcoll hmem hlo hhi
  have hafter {i : Nat} (hlo : 0x7D2073 ≤ i) (hhi : i < 0x7E0000) :=
    afterUnitFields_byte_agrees hashlib codecs ha hb hcoll (i := i) hlo hhi
  refine ⟨fun i hne => ?_, ⟨knownPatchWindow_of_state hashlib ha.system,
    knownPatchWindow_of_state hashlib hb.system, patchWindow_agrees hashlib codecs ha hb hcoll⟩,
    ⟨by simpa using hlenA, by simpa using hlenB⟩, ?_, ?_⟩
  · by_contra hout
    rw [not_or, not_and_or] at hout
    obtain ⟨hunit, hext⟩ := hout
    unfold UnitOrPatchByte at hunit
    unfold ExtensionByte DeclaresExtension at hext
    apply hne
    -- one case per covered range, in flash order
    by_cases h1 : i < 0x040000
    · exact hsegment _ (List.getElem_mem (n := 0) (by decide)) (Nat.zero_le i) h1
    by_cases h2 : i < 0x190000
    · exact hsegment _ (List.getElem_mem (n := 1) (by decide)) (by omega : 0x040000 ≤ i) h2
    by_cases h3 : i < 0x2E8000
    · exact hsegment _ (List.getElem_mem (n := 2) (by decide)) (by omega : 0x190000 ≤ i) h3
    by_cases h4 : i < 0x463000
    · exact hsegment _ (List.getElem_mem (n := 3) (by decide)) (by omega : 0x2E8000 ≤ i) h4
    by_cases h5 : i < 0x7D0000
    · exact hsegment _ (List.getElem_mem (n := 4) (by decide)) (by omega : 0x46B000 ≤ i) h5
    by_cases h6 : i < 0x7D200A
    · exact beforeIdentity_byte_agrees hashlib codecs ha hb hcoll (by omega)
    by_cases h7 : i < 0x7D2011
    · exact hsegment _ (List.getElem_mem (n := 5) (by decide)) (by omega : 0x7D200D ≤ i) h7
    by_cases h8 : i < 0x7E0000
    · have h := hafter (i := i) (by omega) h8
      rwa [if_neg (by omega), if_neg (by omega)] at h
    · rw [List.getElem?_eq_none (by rw [ha.length, FLASH_SIZE]; omega),
        List.getElem?_eq_none (by rw [hb.length, FLASH_SIZE]; omega)]
  · intro hna hdb i hi
    unfold ExtensionByte at hi
    unfold DeclaresExtension at hna hdb
    have h := hafter (i := i) (by omega) (by omega)
    rwa [if_neg (by omega), if_pos (by omega)] at h
  · intro hnb hda i hi
    unfold ExtensionByte at hi
    unfold DeclaresExtension at hnb hda
    have h := hafter (i := i) (by omega) (by omega)
    rw [if_pos (by omega), if_neg (by omega)] at h
    exact h.symm

/-! ## The unit fields are free -/

-- the unit fields proper: the record and the windows of firmware apart
def UnitByte (i : Nat) : Prop :=
  (0x7D200A ≤ i ∧ i < 0x7D200D) ∨ (0x7D2011 ≤ i ∧ i < 0x7D2073) ∨ 0x7E0000 ≤ i

/-- Images that agree off the unit fields, record included, hash the same strings. -/
theorem comparedStrings_congr {a b : Bytes} {name : String} {record : HwRecord}
    (ha : identifyHwconfigVariant hashlib a = .ok (name, record))
    (hb : identifyHwconfigVariant hashlib b = .ok (name, record))
    (h : ∀ i, ¬UnitByte i → a[i]? = b[i]?) : comparedStrings hashlib a = comparedStrings hashlib b := by
  unfold UnitByte at h
  have hslice {i j : Nat} (hij : ∀ k, i ≤ k → k < j → ¬((0x7D200A ≤ k ∧ k < 0x7D200D) ∨
      (0x7D2011 ≤ k ∧ k < 0x7D2073) ∨ 0x7E0000 ≤ k)) : slice a i j = slice b i j :=
    (slice_eq_slice_iff a b i j).mpr fun k hik hkj => h k (hij k hik hkj)
  have hstart : HW_RECORD_START = 0x7D2000 := rfl
  have hpayload : HW_RECORD_PAYLOAD_START = 0x7D2004 := rfl
  have hknown : HW_KNOWN_PAYLOAD_END = 0x7D2104 := rfl
  have hcheck : HW_CHECK_START = 0x7D200A := rfl
  have hcheckEnd : HW_CHECK_END = 0x7D200D := rfl
  have huoid : HW_UOID_START = 0x7D2011 := rfl
  have hdate : HW_DATE_END = 0x7D2073 := rfl
  have hpatch : PATCH_START = 0x463000 := rfl
  have hpatchEnd : PATCH_END = 0x46B000 := rfl
  have hconfig : CONFIG_START = 0x7E0000 := rfl
  obtain ⟨hlength, hend, -⟩ := identifyHwconfigVariant_record hashlib ha
  have hsegments : REFERENCE_SEGMENTS.map (fun segment => slice a segment.start segment.stop) =
      REFERENCE_SEGMENTS.map fun segment => slice b segment.start segment.stop := by
    apply List.map_congr_left
    intro segment hsegment
    have hranges : ∀ segment ∈ REFERENCE_SEGMENTS, segment.stop ≤ 0x7D200A ∨
        (0x7D200D ≤ segment.start ∧ segment.stop ≤ 0x7D2011) := by decide
    have hrange := hranges segment hsegment
    exact hslice (by omega)
  have hafter : normalizedHwconfigAfterUnitFields a record =
      normalizedHwconfigAfterUnitFields b record := by
    rw [normalizedHwconfigAfterUnitFields, hslice (i := HW_DATE_END) (by omega),
      hslice (i := record.recordEnd) (by omega), ← normalizedHwconfigAfterUnitFields]
  have hpatched : slice a PATCH_START PATCH_END = slice b PATCH_START PATCH_END := hslice (by omega)
  have hbefore : normalizedHwconfigBeforeIdentity a = normalizedHwconfigBeforeIdentity b := by
    rw [normalizedHwconfigBeforeIdentity, hslice (i := 0x7D0000) (by omega),
      hslice (i := HW_RECORD_PAYLOAD_START) (by omega), ← normalizedHwconfigBeforeIdentity]
  have hinvariant : invariantBytes a record = invariantBytes b record := by
    rw [invariantBytes, hslice (i := 0) (by omega), hslice (i := PATCH_END) (by omega),
      hslice (i := HW_RECORD_PAYLOAD_START) (by omega), hslice (i := HW_CHECK_END) (by omega), hafter,
      ← invariantBytes]
  simp only [comparedStrings, ha, hb, hsegments, hpatched, hbefore, hafter, hinvariant]

/-- Blank images differ in their unit fields only. -/
theorem blankImage_agrees (date date' : Date) (serial serial' : Bytes) :
    ∀ i, ¬UnitByte i → (blankImage date serial)[i]? = (blankImage date' serial')[i]? := by
  intro i hi
  unfold UnitByte at hi
  -- the image around its date field and its config
  have hsplit (date : Date) (serial : Bytes) : blankImage date serial =
      (List.replicate HW_RECORD_START 0 ++
          (leBytes 2 12 ++ leBytes 2 0x100 ++ List.replicate 13 0 ++ blankUoid)) ++
        ((leBytes 2 date.year ++ leBytes 1 date.month ++ leBytes 1 date.day) ++
          (List.replicate (CONFIG_START - HW_DATE_END) 0 ++ minimalConfig serial)) := by
    simp only [blankImage, unitImage, blankRecord, List.append_assoc]
  have hhead : (List.replicate HW_RECORD_START (0 : UInt8) ++
      (leBytes 2 12 ++ leBytes 2 0x100 ++ List.replicate 13 0 ++ blankUoid)).length = 0x7D206F := by
    simp only [List.length_append, length_leBytes, List.length_replicate, blankUoid, ascii,
      List.length_map]
    rfl
  have hdate (date : Date) :
      (leBytes 2 date.year ++ leBytes 1 date.month ++ leBytes 1 date.day).length = 4 := by
    simp only [List.length_append, length_leBytes]
  have hrest : (List.replicate (CONFIG_START - HW_DATE_END) (0 : UInt8)).length = 0xDF8D :=
    List.length_replicate
  rw [hsplit, hsplit]
  apply getElem?_append_hole
  · rw [hdate, hdate]
  · rw [hhead, hdate, hrest]
    omega

theorem systemState_patched {image : Bytes} (h : systemState hashlib image = .knownBashrcPatched) :
    hashlib.sha256 (slice image PATCH_START PATCH_END) = PATCHED_PATCH_SHA256 := by
  unfold systemState at h
  split at h
  · simp at h
  · split at h
    · assumption
    · simp at h

/-- The references are distinct, so the strings of one accepted image never collide. -/
theorem noCollision_of_checks {image : Bytes} {allow preserve : Bool} {name : String}
    {record : HwRecord} {date : String} {info : ConfigInfo} {canonical : Bytes}
    (h : ImageChecks hashlib codecs image allow preserve name record date info canonical)
    (hpatched : systemState hashlib image = .knownBashrcPatched) :
    NoCollision hashlib.sha256 (comparedStrings hashlib image) := by
  have hsegments : REFERENCE_SEGMENTS.map
      (fun segment => hashlib.sha256 (slice image segment.start segment.stop)) =
        REFERENCE_SEGMENTS.map Segment.expectedHash :=
    List.map_congr_left fun segment hmem => mem_segments_hash hashlib h.segments hmem
  have hnormalized := normalizedErrors_eq_nil hashlib h.normalized
  have hdigests : (comparedStrings hashlib image).map hashlib.sha256 =
      REFERENCE_SEGMENTS.map Segment.expectedHash ++ [PATCHED_PATCH_SHA256] ++
        [HWCONFIG_BEFORE_IDENTITY_SHA256, HWCONFIG_AFTER_UNIT_FIELDS_SHA256,
          NORMALIZED_INVARIANT_SHA256] := by
    rw [comparedStrings_of_checks hashlib codecs h, List.map_append, List.map_append, List.map_map,
      Function.comp_def, hsegments]
    simp only [List.map_cons, List.map_nil, systemState_patched hashlib hpatched, hnormalized.1,
      hnormalized.2.1, hnormalized.2.2]
  have hnodup : ((comparedStrings hashlib image).map hashlib.sha256).Nodup := by
    rw [hdigests]
    decide
  exact fun x hx y hy => List.inj_on_of_nodup_map hnodup hx hy

/-! ## Two blank units -/

def serialA : Bytes := ascii "serial=12PSSSS3AAAAAAAAAAAAAAAAAAAAAAAAAAAA\n"
def serialB : Bytes := ascii "serial=12PSSSS4BBBBBBBBBBBBBBBBBBBBBBBBBBBB\n"

theorem serialA_isValid : serialPayloadIsValid serialA = true := rfl
theorem serialB_isValid : serialPayloadIsValid serialB = true := rfl

-- they differ in date and serial
def blankUnitA : Bytes := blankImage ⟨2026, 3, 2⟩ serialA
def blankUnitB : Bytes := blankImage ⟨2026, 4, 17⟩ serialB

theorem accepted_images_agree_blank :
    (∃ analysis, analyzeImage lengthHashlib plainCodecs blankUnitA "a" false false = .ok analysis) ∧
      (∃ analysis, analyzeImage lengthHashlib plainCodecs blankUnitB "b" false false = .ok analysis) ∧
      ∀ i, blankUnitA[i]? ≠ blankUnitB[i]? → UnitOrPatchByte i ∨
        (ExtensionByte i ∧ (DeclaresExtension blankUnitA ∨ DeclaresExtension blankUnitB)) := by
  obtain ⟨valueA, -, hchecksA⟩ :=
    @blankImage_checks plainCodecs ⟨2026, 3, 2⟩ _ serialA_isValid (by decide) false
  obtain ⟨valueB, -, hchecksB⟩ :=
    @blankImage_checks plainCodecs ⟨2026, 4, 17⟩ _ serialB_isValid (by decide) false
  have hacceptA := (@analyzeImage_eq_ok lengthHashlib plainCodecs _ "a" _ _ _).mpr
    ⟨_, _, _, _, _, hchecksA, rfl⟩
  have hacceptB := (@analyzeImage_eq_ok lengthHashlib plainCodecs _ "b" _ _ _).mpr
    ⟨_, _, _, _, _, hchecksB, rfl⟩
  have hsame : comparedStrings lengthHashlib blankUnitA = comparedStrings lengthHashlib blankUnitB :=
    comparedStrings_congr lengthHashlib hchecksA.variant hchecksB.variant (blankImage_agrees _ _ _ _)
  have hcoll : NoCollision lengthHashlib.sha256
      (comparedStrings lengthHashlib blankUnitA ++ comparedStrings lengthHashlib blankUnitB) := by
    intro x hx y hy
    rw [hsame, List.mem_append, or_self] at hx hy
    exact noCollision_of_checks lengthHashlib plainCodecs hchecksB
      (systemState_blankImage serialB_isValid) x hx y hy
  exact ⟨⟨_, hacceptA⟩, ⟨_, hacceptB⟩,
    (accepted_images_agree lengthHashlib plainCodecs hacceptA hacceptB hcoll).1⟩

end Cc2Camera.Image
