import Cc2Camera.Image.Extents

/-!
# Records — the byte strings that are read as a node

What a writer lays down is a header, the fields of its kind, two CRCs and a content.  The scan finds a node
exactly where such a string begins (`nodeAt_iff`), with its type word as written or with the ACCURATE bit
cleared since.  Where a record's string holds a second one, or its content CRC covers bytes behind it, the
scan reads those too.
-/

open Bytes Exceptions

namespace Cc2Camera.Image

/-! ## 1. Records as written -/

-- magic word, type and total length
def headerBytes (type total : Nat) : Bytes :=
  leBytes 2 JFFS2_MAGIC ++ (leBytes 2 type ++ leBytes 4 total)

-- the bytes the node CRC is computed over
def prefixBytes (type total : Nat) (fields : Bytes) : Bytes :=
  headerBytes type total ++ (leBytes 4 (jffs2Crc (headerBytes type total)) ++ fields)

/-- The type word of a record: as it was written, or with the ACCURATE bit cleared in place, which its
header CRC then no longer matches. -/
structure Stamp (type written total : Nat) : Prop where
  typeFits : type < 256 ^ 2
  totalFits : total < 256 ^ 4
  cleared : written ≠ type → type &&& JFFS2_NODE_ACCURATE = 0 ∧ written = type ||| JFFS2_NODE_ACCURATE ∧
    jffs2Crc (headerBytes type total) ≠ jffs2Crc (headerBytes written total)

/-- `rest` begins with a header whose CRC is that of the written one; `body` is what follows it. -/
structure Headed (rest : Bytes) (type written total : Nat) (body : Bytes) : Prop where
  stamp : Stamp type written total
  bytes : rest = headerBytes type total ++ (leBytes 4 (jffs2Crc (headerBytes written total)) ++ body)
  least : 12 ≤ total
  fits : total ≤ rest.length

/-- The shape of a record with content: how long its fields are, where they store the size of the content,
and which of the two CRCs behind them comes first. -/
structure RecordForm where
  baseType : Nat
  fieldsLength : Nat
  sizeAt : Nat
  sizeWidth : Nat
  contentCrcFirst : Bool
  deriving DecidableEq

def DIRENT_FORM : RecordForm :=
  { baseType := JFFS2_DIRENT, fieldsLength := 20, sizeAt := 16, sizeWidth := 1, contentCrcFirst := false }

def INODE_FORM : RecordForm :=
  { baseType := JFFS2_INODE, fieldsLength := 48, sizeAt := 36, sizeWidth := 4, contentCrcFirst := true }

namespace RecordForm

variable (form : RecordForm)

-- the record without its content
def least : Nat := 12 + form.fieldsLength + 8

def size (fields : Bytes) : Nat := leNat (slice fields form.sizeAt (form.sizeAt + form.sizeWidth))

def seals (nodeCrc contentCrc : Nat) : Bytes :=
  if form.contentCrcFirst then leBytes 4 contentCrc ++ leBytes 4 nodeCrc
  else leBytes 4 nodeCrc ++ leBytes 4 contentCrc

/-- The type word and the total length announce this form. -/
def Announced (type total : Nat) : Prop := type &&& 0x0FFF = form.baseType ∧ form.least ≤ total

/-- `rest` begins with a record of the form.  Its content has the size the fields store, unless the bytes
end before: then it is all of them. -/
def Spelled (rest : Bytes) (total : Nat) (fields content after : Bytes) : Prop :=
  ∃ type written, form.Announced type total ∧ fields.length = form.fieldsLength ∧
    Headed rest type written total (fields ++
      (form.seals (jffs2Crc (prefixBytes written total fields)) (jffs2Crc content) ++ (content ++ after))) ∧
    (content.length = form.size fields ∨ content.length < form.size fields ∧ after = [])

end RecordForm

/-- A record without content that is looked at: a cleanmarker, any other type, or a directory entry or
inode too short for its fields. -/
def PlainSpelled (rest : Bytes) (total : Nat) : Prop :=
  ∃ type written body, Headed rest type written total body ∧
    ¬DIRENT_FORM.Announced type total ∧ ¬INODE_FORM.Announced type total

/-- `rest` begins with a record of `total` bytes. -/
def IsRecord (rest : Bytes) (total : Nat) : Prop :=
  (∃ fields content after, DIRENT_FORM.Spelled rest total fields content after) ∨
    (∃ fields content after, INODE_FORM.Spelled rest total fields content after) ∨ PlainSpelled rest total

/-! ## 2. The header -/

theorem drop_eq_append_iff {data x rest : Bytes} {offset : Nat} :
    data.drop offset = x ++ rest ↔
      slice data offset (offset + x.length) = x ∧ data.drop (offset + x.length) = rest := by
  rw [slice, List.drop_take, Nat.add_sub_cancel_left]
  constructor
  · intro h
    refine ⟨by rw [h, List.take_left'] ; rfl, ?_⟩
    rw [← List.drop_drop, h, List.drop_left' rfl]
  · rintro ⟨hx, hrest⟩
    rw [← List.take_append_drop x.length (data.drop offset), hx, List.drop_drop, hrest]

theorem slice_eq_leBytes_iff (data : Bytes) (i : Nat) {w n : Nat} (hfit : i + w ≤ data.length)
    (hn : n < 256 ^ w) : slice data i (i + w) = leBytes w n ↔ leNat (slice data i (i + w)) = n := by
  constructor
  · intro h
    rw [h, leNat_leBytes hn]
  · intro h
    have hback := leBytes_leNat (slice data i (i + w))
    rw [length_slice, Nat.min_eq_left hfit, Nat.add_sub_cancel_left, h] at hback
    exact hback.symm

theorem length_headerBytes (type total : Nat) : (headerBytes type total).length = 8 := by
  simp [headerBytes]

theorem slice_eq_headerBytes_iff {data : Bytes} {offset type total : Nat}
    (hfit : offset + 8 ≤ data.length) (htype : type < 256 ^ 2) (htotal : total < 256 ^ 4) :
    slice data offset (offset + 8) = headerBytes type total ↔
      u16 data offset = JFFS2_MAGIC ∧ nodeTypeAt data offset = type ∧ totalAt data offset = total := by
  have hmagic := slice_eq_leBytes_iff data offset (w := 2) (n := JFFS2_MAGIC) (by omega) (by decide)
  have htypeIff := slice_eq_leBytes_iff data (offset + 2) (w := 2) (by omega) htype
  have htotalIff := slice_eq_leBytes_iff data (offset + 4) (w := 4) (by omega) htotal
  rw [nodeTypeAt, totalAt, u16, u16, u32, ← hmagic, ← htypeIff, ← htotalIff]
  have hsplit : slice data offset (offset + 8) = slice data offset (offset + 2) ++
      (slice data (offset + 2) (offset + 2 + 2) ++ slice data (offset + 4) (offset + 4 + 4)) := by
    rw [slice_append_slice data (by omega) (by omega), slice_append_slice data (by omega) (by omega)]
  rw [hsplit, headerBytes]
  constructor
  · intro h
    obtain ⟨hfirst, h⟩ := List.append_inj h (by rw [length_slice, length_leBytes]; omega)
    obtain ⟨hsecond, hthird⟩ := List.append_inj h (by rw [length_slice, length_leBytes]; omega)
    exact ⟨hfirst, hsecond, hthird⟩
  · rintro ⟨hfirst, hsecond, hthird⟩
    rw [hfirst, hsecond, hthird]

/-- The type word the CRCs of a node are computed with. -/
def writtenTypeAt (data : Bytes) (offset : Nat) : Nat :=
  if headerRestored data offset then nodeTypeAt data offset ||| JFFS2_NODE_ACCURATE
  else nodeTypeAt data offset

theorem accurateBytes_header (data : Bytes) (offset total : Nat) (body : Bytes) :
    accurateBytes (headerBytes (nodeTypeAt data offset) total ++ body) (nodeTypeAt data offset)
        (headerRestored data offset) = headerBytes (writtenTypeAt data offset) total ++ body := by
  unfold accurateBytes writtenTypeAt
  cases headerRestored data offset with
  | false => rfl
  | true => simp [splice, headerBytes, List.drop_append]

theorem headerCurrent_iff {data : Bytes} {offset total : Nat}
    (hheader : slice data offset (offset + 8) = headerBytes (nodeTypeAt data offset) total) :
    headerCurrent data offset = true ↔
      jffs2Crc (headerBytes (nodeTypeAt data offset) total) = u32 data (offset + 8) := by
  rw [headerCurrent, hheader, decide_eq_true_eq]

theorem headerRestored_iff {data : Bytes} {offset total : Nat}
    (hheader : slice data offset (offset + 8) = headerBytes (nodeTypeAt data offset) total) :
    headerRestored data offset = true ↔
      jffs2Crc (headerBytes (nodeTypeAt data offset) total) ≠ u32 data (offset + 8) ∧
        nodeTypeAt data offset &&& JFFS2_NODE_ACCURATE = 0 ∧
        jffs2Crc (headerBytes (nodeTypeAt data offset ||| JFFS2_NODE_ACCURATE) total) =
          u32 data (offset + 8) := by
  have hset : accurateBytes (headerBytes (nodeTypeAt data offset) total) (nodeTypeAt data offset) true =
      headerBytes (nodeTypeAt data offset ||| JFFS2_NODE_ACCURATE) total := by
    simp [accurateBytes, splice, headerBytes, List.drop_append]
  rw [headerRestored, hheader, hset, Bool.and_eq_true, Bool.and_eq_true, Bool.not_eq_true',
    ← Bool.not_eq_true, headerCurrent_iff hheader, decide_eq_true_eq, decide_eq_true_eq, and_assoc]

/-- What passes the header checks begins with a header. -/
theorem headed_of_headerAt {data : Bytes} {offset : Nat} (h : HeaderAt data offset) :
    Headed (data.drop offset) (nodeTypeAt data offset) (writtenTypeAt data offset) (totalAt data offset)
      (data.drop (offset + 12)) := by
  have hleast := h.least
  have hfits := h.fits
  have hheader := (@slice_eq_headerBytes_iff data offset _ _ (by omega) (u16_lt data _)
    (u32_lt data _)).mpr ⟨h.magic, rfl, rfl⟩
  -- the stored CRC is that of the header with the written type word
  have hcrc : u32 data (offset + 8) =
      jffs2Crc (headerBytes (writtenTypeAt data offset) (totalAt data offset)) := by
    rcases (Bool.or_eq_true _ _).mp h.crc with hcurrent | hrestored
    · have hnot : headerRestored data offset = false := by
        rw [headerRestored, hcurrent]
        rfl
      rw [writtenTypeAt, hnot]
      exact ((headerCurrent_iff hheader).mp hcurrent).symm
    · rw [writtenTypeAt, if_pos hrestored]
      exact ((headerRestored_iff hheader).mp hrestored).2.2.symm
  refine { stamp := ⟨u16_lt data _, u32_lt data _, fun hne => ?_⟩, bytes := ?_, least := hleast, fits := ?_ }
  · have hrestored : headerRestored data offset = true := by
      by_contra hnot
      exact hne (if_neg hnot)
    have hwhy := (headerRestored_iff hheader).mp hrestored
    refine ⟨hwhy.2.1, if_pos hrestored, ?_⟩
    rw [← hcrc]
    exact hwhy.1
  · rw [drop_eq_append_iff, length_headerBytes, drop_eq_append_iff, length_leBytes, ← hcrc]
    exact ⟨hheader, (slice_eq_leBytes_iff data _ (by omega) (u32_lt data _)).mpr rfl, by rw [Nat.add_assoc]⟩
  · rw [List.length_drop]
    omega

/-- And a header passes the checks, with the values it was written with. -/
theorem Headed.headerAt {data body : Bytes} {offset type written total : Nat}
    (h : Headed (data.drop offset) type written total body) :
    HeaderAt data offset ∧ nodeTypeAt data offset = type ∧ totalAt data offset = total ∧
      writtenTypeAt data offset = written ∧ data.drop (offset + 12) = body := by
  have hleast := h.least
  have hfits := h.fits
  rw [List.length_drop] at hfits
  obtain ⟨hheader, hrest⟩ := drop_eq_append_iff.mp h.bytes
  rw [length_headerBytes] at hheader hrest
  obtain ⟨hstored, hbody⟩ := drop_eq_append_iff.mp hrest
  rw [length_leBytes] at hstored hbody
  obtain ⟨hmagic, htype, htotal⟩ := (slice_eq_headerBytes_iff (by omega) h.stamp.typeFits
    h.stamp.totalFits).mp hheader
  have hcrc : u32 data (offset + 8) = jffs2Crc (headerBytes written total) :=
    (slice_eq_leBytes_iff data _ (by omega) (jffs2Crc_lt _)).mp hstored
  rw [← htype] at hheader
  have hcases : (written = type ∧ headerRestored data offset = false ∧ headerCurrent data offset = true) ∨
      (written = type ||| JFFS2_NODE_ACCURATE ∧ headerRestored data offset = true) := by
    by_cases hsame : written = type
    · have hcurrent : headerCurrent data offset = true :=
        (headerCurrent_iff hheader).mpr (by rw [htype, hcrc, hsame])
      exact .inl ⟨hsame, by rw [headerRestored, hcurrent]; rfl, hcurrent⟩
    · obtain ⟨hclear, hset, hcrcs⟩ := h.stamp.cleared hsame
      refine .inr ⟨hset, (headerRestored_iff hheader).mpr ?_⟩
      rw [htype, hcrc]
      exact ⟨hcrcs, hclear, by rw [hset]⟩
  refine ⟨⟨hmagic, by omega, by omega, ?_⟩, htype, htotal, ?_, ?_⟩
  · rcases hcases with ⟨-, -, hcurrent⟩ | ⟨-, hrestored⟩
    · rw [hcurrent, Bool.true_or]
    · rw [hrestored, Bool.or_true]
  · rcases hcases with ⟨hsame, hnot, -⟩ | ⟨hset, hrestored⟩
    · rw [writtenTypeAt, hnot, if_neg (by decide), htype, hsame]
    · rw [writtenTypeAt, if_pos hrestored, htype, hset]
  · rw [← hbody, Nat.add_assoc]

/-! ## 3. Fields and content -/

namespace RecordForm

variable (form : RecordForm)

def fieldsAt (data : Bytes) (offset : Nat) : Bytes :=
  slice data (offset + 12) (offset + 12 + form.fieldsLength)

def contentAt (data : Bytes) (offset : Nat) : Bytes :=
  slice data (offset + form.least) (offset + form.least + form.size (form.fieldsAt data offset))

def nodeCrcAt : Nat := 12 + form.fieldsLength + if form.contentCrcFirst then 4 else 0
def contentCrcAt : Nat := 12 + form.fieldsLength + if form.contentCrcFirst then 0 else 4

/-- The two CRC checks of the scan. -/
def Crcs (data : Bytes) (offset : Nat) : Prop :=
  jffs2Crc (accurateBytes (slice data offset (offset + (12 + form.fieldsLength))) (nodeTypeAt data offset)
      (headerRestored data offset)) = u32 data (offset + form.nodeCrcAt) ∧
    jffs2Crc (form.contentAt data offset) = u32 data (offset + form.contentCrcAt)

variable {form}

theorem length_seals (n c : Nat) : (form.seals n c).length = 8 := by
  rw [seals]
  split <;> simp

theorem slice_eq_seals_iff (form : RecordForm) {data : Bytes} {offset n c : Nat} (hfit : offset + form.least ≤ data.length)
    (hn : n < 256 ^ 4) (hc : c < 256 ^ 4) :
    slice data (offset + 12 + form.fieldsLength) (offset + 12 + form.fieldsLength + 8) = form.seals n c ↔
      n = u32 data (offset + form.nodeCrcAt) ∧ c = u32 data (offset + form.contentCrcAt) := by
  have hleast : form.least = 12 + form.fieldsLength + 8 := rfl
  have hsplit := slice_append_slice data (i := offset + 12 + form.fieldsLength)
    (j := offset + 12 + form.fieldsLength + 4) (k := offset + 12 + form.fieldsLength + 4 + 4)
    (by omega) (by omega)
  have hfirst {v : Nat} (hv : v < 256 ^ 4) := slice_eq_leBytes_iff data
    (offset + 12 + form.fieldsLength) (w := 4) (n := v) (by omega) hv
  have hsecond {v : Nat} (hv : v < 256 ^ 4) := slice_eq_leBytes_iff data
    (offset + 12 + form.fieldsLength + 4) (w := 4) (n := v) (by omega) hv
  have hinj {x y : Nat} : slice data (offset + 12 + form.fieldsLength)
        (offset + 12 + form.fieldsLength + 8) = leBytes 4 x ++ leBytes 4 y ↔
      slice data (offset + 12 + form.fieldsLength) (offset + 12 + form.fieldsLength + 4) = leBytes 4 x ∧
        slice data (offset + 12 + form.fieldsLength + 4) (offset + 12 + form.fieldsLength + 4 + 4) =
          leBytes 4 y := by
    rw [show offset + 12 + form.fieldsLength + 8 = offset + 12 + form.fieldsLength + 4 + 4 from rfl, ← hsplit]
    constructor
    · intro h
      exact List.append_inj h (by rw [length_slice, length_leBytes]; omega)
    · rintro ⟨hx, hy⟩
      rw [hx, hy]
  rw [seals, nodeCrcAt, contentCrcAt, u32, u32]
  split
  · rw [hinj, hfirst hc, hsecond hn, and_comm, eq_comm (a := n), eq_comm (a := c)]
    simp only [Nat.add_assoc, Nat.add_zero]
  · rw [hinj, hfirst hn, hsecond hc, eq_comm (a := n), eq_comm (a := c)]
    simp only [Nat.add_assoc, Nat.add_zero]

-- the bytes under the node CRC, with the type word as written
theorem accurateBytes_start {data : Bytes} {offset : Nat} (h : HeaderAt data offset) :
    accurateBytes (slice data offset (offset + (12 + form.fieldsLength))) (nodeTypeAt data offset)
        (headerRestored data offset) =
      prefixBytes (writtenTypeAt data offset) (totalAt data offset) (form.fieldsAt data offset) := by
  have hheaded := headed_of_headerAt h
  obtain ⟨hheader, hrest⟩ := drop_eq_append_iff.mp hheaded.bytes
  rw [length_headerBytes] at hheader hrest
  obtain ⟨hcrc, -⟩ := drop_eq_append_iff.mp hrest
  rw [length_leBytes] at hcrc
  have hsplit : slice data offset (offset + (12 + form.fieldsLength)) =
      slice data offset (offset + 8) ++
        (slice data (offset + 8) (offset + 8 + 4) ++ form.fieldsAt data offset) := by
    rw [fieldsAt, slice_append_slice data (by omega) (by omega), slice_append_slice data (by omega) (by omega),
      Nat.add_assoc offset]
  rw [hsplit, hheader, hcrc, accurateBytes_header]
  rfl

/-- What passes the checks of the form begins with such a record. -/
theorem spelled_of_crcs (form : RecordForm) {data : Bytes} {offset : Nat} (h : HeaderAt data offset)
    (hkind : form.Announced (nodeTypeAt data offset) (totalAt data offset)) (hcrcs : form.Crcs data offset) :
    form.Spelled (data.drop offset) (totalAt data offset) (form.fieldsAt data offset)
      (form.contentAt data offset)
      (data.drop (offset + form.least + form.size (form.fieldsAt data offset))) := by
  have hheaded := headed_of_headerAt h
  have hleast : form.least = 12 + form.fieldsLength + 8 := rfl
  have hroom := hkind.2
  have hfits := h.fits
  have hlen : (form.fieldsAt data offset).length = form.fieldsLength := by
    rw [fieldsAt, length_slice]
    omega
  have hseals := (form.slice_eq_seals_iff (by omega) (jffs2Crc_lt _) (jffs2Crc_lt _)).mpr hcrcs
  rw [accurateBytes_start h] at hseals
  have hbody : data.drop (offset + 12) = form.fieldsAt data offset ++
      (form.seals (jffs2Crc (prefixBytes (writtenTypeAt data offset) (totalAt data offset)
          (form.fieldsAt data offset))) (jffs2Crc (form.contentAt data offset)) ++
        (form.contentAt data offset ++
          data.drop (offset + form.least + form.size (form.fieldsAt data offset)))) := by
    have hrest : data.drop (offset + form.least) = form.contentAt data offset ++
        data.drop (offset + form.least + form.size (form.fieldsAt data offset)) := by
      have hsplit := (List.take_append_drop (form.size (form.fieldsAt data offset))
        (data.drop (offset + form.least))).symm
      rw [List.drop_drop] at hsplit
      rw [contentAt, slice, List.drop_take, Nat.add_sub_cancel_left]
      exact hsplit
    rw [drop_eq_append_iff, hlen, drop_eq_append_iff, length_seals, ← hrest]
    exact ⟨rfl, hseals, by rw [hleast]; simp only [Nat.add_assoc]⟩
  refine ⟨_, _, hkind, hlen, hbody ▸ hheaded, ?_⟩
  -- a content that was cut off is the whole rest
  have hcontent : (form.contentAt data offset).length =
      min (form.size (form.fieldsAt data offset)) (data.length - (offset + form.least)) := by
    rw [contentAt, length_slice]
    omega
  by_cases hcut : data.length - (offset + form.least) < form.size (form.fieldsAt data offset)
  · refine .inr ⟨by omega, List.drop_eq_nil_of_le (by omega)⟩
  · exact .inl (by omega)

/-- And such a record passes the checks, with the values it was spelled with. -/
theorem Spelled.reads {data fields content after : Bytes} {offset total : Nat}
    (h : form.Spelled (data.drop offset) total fields content after) :
    HeaderAt data offset ∧ totalAt data offset = total ∧
      form.Announced (nodeTypeAt data offset) (totalAt data offset) ∧ form.Crcs data offset ∧
      form.fieldsAt data offset = fields ∧ form.contentAt data offset = content := by
  obtain ⟨type, written, hkind, hlen, hheaded, hcontent⟩ := h
  obtain ⟨hheader, htype, htotal, hwritten, hbody⟩ := hheaded.headerAt
  have hleast : form.least = 12 + form.fieldsLength + 8 := rfl
  have hroom := hkind.2
  have hfits := hheader.fits
  obtain ⟨hfields, hrest⟩ := drop_eq_append_iff.mp hbody
  rw [hlen] at hfields hrest
  obtain ⟨hseals, hrest⟩ := drop_eq_append_iff.mp hrest
  rw [length_seals] at hseals hrest
  have hfieldsAt : form.fieldsAt data offset = fields := hfields
  have hcontentAt : form.contentAt data offset = content := by
    have hdrop : data.drop (offset + form.least) = content ++ after := by
      rw [← hrest, hleast]
      simp only [Nat.add_assoc]
    rw [contentAt, hfieldsAt, slice, List.drop_take, Nat.add_sub_cancel_left, hdrop]
    rcases hcontent with hsize | ⟨hshort, rfl⟩
    · rw [← hsize, List.take_left' rfl]
    · rw [List.append_nil, List.take_of_length_le (by omega)]
  refine ⟨hheader, htotal, ?_, ?_, hfieldsAt, hcontentAt⟩
  · rw [htype, htotal]
    exact hkind
  · have hsealed := (form.slice_eq_seals_iff (by omega) (jffs2Crc_lt _) (jffs2Crc_lt _)).mp hseals
    rw [Crcs, accurateBytes_start hheader, hwritten, htotal, hfieldsAt, hcontentAt]
    exact hsealed

end RecordForm

/-! ## 4. Nodes are records -/

theorem RecordForm.size_fieldsAt {form : RecordForm} (data : Bytes) (offset : Nat)
    (hsize : form.sizeAt + form.sizeWidth ≤ form.fieldsLength) :
    form.size (form.fieldsAt data offset) =
      leNat (slice data (offset + 12 + form.sizeAt) (offset + 12 + form.sizeAt + form.sizeWidth)) := by
  rw [size, fieldsAt, slice_slice data (by omega), Nat.add_assoc (offset + 12)]

theorem direntForm_size (data : Bytes) (offset : Nat) :
    DIRENT_FORM.size (DIRENT_FORM.fieldsAt data offset) = nameSizeAt data offset :=
  RecordForm.size_fieldsAt data offset (by decide)

theorem inodeForm_size (data : Bytes) (offset : Nat) :
    INODE_FORM.size (INODE_FORM.fieldsAt data offset) = compressedSizeAt data offset :=
  RecordForm.size_fieldsAt data offset (by decide)

theorem direntForm_content (data : Bytes) (offset : Nat) :
    DIRENT_FORM.contentAt data offset = nameAt data offset := by
  rw [RecordForm.contentAt, direntForm_size]
  rfl

theorem inodeForm_content (data : Bytes) (offset : Nat) :
    INODE_FORM.contentAt data offset = payloadAt data offset := by
  rw [RecordForm.contentAt, inodeForm_size]
  rfl

theorem direntForm_crcs (data : Bytes) (offset : Nat) :
    DIRENT_FORM.Crcs data offset ↔ DirentCrcs data offset := by
  rw [RecordForm.Crcs, direntForm_content]
  exact Iff.rfl

theorem inodeForm_crcs (data : Bytes) (offset : Nat) :
    INODE_FORM.Crcs data offset ↔ InodeCrcs data offset := by
  rw [RecordForm.Crcs, inodeForm_content]
  exact Iff.rfl

theorem record_of_nodeAt {data : Bytes} {offset : Nat} (h : NodeAt data offset) :
    IsRecord (data.drop offset) (totalAt data offset) := by
  by_cases hdirent : IsDirentAt data offset
  · have hcrcs := (direntForm_crcs data offset).mpr (h.dirent hdirent)
    exact .inl ⟨_, _, _, DIRENT_FORM.spelled_of_crcs h.header hdirent hcrcs⟩
  · by_cases hinode : IsInodeAt data offset
    · have hcrcs := (inodeForm_crcs data offset).mpr (h.inode hinode)
      exact .inr (.inl ⟨_, _, _, INODE_FORM.spelled_of_crcs h.header hinode hcrcs⟩)
    · exact .inr (.inr ⟨_, _, _, headed_of_headerAt h.header, hdirent, hinode⟩)

theorem nodeAt_of_record {data : Bytes} {offset total : Nat} (haligned : offset % 4 = 0)
    (h : IsRecord (data.drop offset) total) : NodeAt data offset ∧ totalAt data offset = total := by
  rcases h with ⟨fields, content, after, hspelled⟩ | ⟨fields, content, after, hspelled⟩ |
    ⟨type, written, body, hheaded, hdirent, hinode⟩
  · obtain ⟨hheader, htotal, hkind, hcrcs, -⟩ := hspelled.reads
    refine ⟨⟨haligned, hheader, fun _ => (direntForm_crcs data offset).mp hcrcs, fun hinode => ?_⟩, htotal⟩
    exact absurd hinode (not_isInodeAt hkind)
  · obtain ⟨hheader, htotal, hkind, hcrcs, -⟩ := hspelled.reads
    refine ⟨⟨haligned, hheader, fun hdirent => ?_, fun _ => (inodeForm_crcs data offset).mp hcrcs⟩, htotal⟩
    exact absurd hkind (not_isInodeAt hdirent)
  · obtain ⟨hheader, htype, htotal, -⟩ := hheaded.headerAt
    rw [← htype, ← htotal] at hdirent hinode
    exact ⟨⟨haligned, hheader, fun h => absurd h hdirent, fun h => absurd h hinode⟩, htotal⟩

/-- The scan finds a node exactly where a record begins at a multiple of four. -/
theorem nodeAt_iff {data : Bytes} {offset : Nat} :
    NodeAt data offset ↔ offset % 4 = 0 ∧ ∃ total, IsRecord (data.drop offset) total := by
  constructor
  · intro h
    exact ⟨h.aligned, _, record_of_nodeAt h⟩
  · rintro ⟨haligned, total, h⟩
    exact (nodeAt_of_record haligned h).1

/-! ## 5. Records inside records -/

/-- No byte belongs to two nodes of a scan. -/
def NodesDisjoint (data : Bytes) : Prop :=
  ∀ nodes, parseJffs2 data = .ok nodes → ∀ a ∈ nodes, ∀ b ∈ nodes, a ≠ b →
    a.offset + a.totalLength ≤ b.offset ∨ b.offset + b.totalLength ≤ a.offset

/-- The bytes of a record, some multiple of four into them, spell the beginning of a second one. -/
def NestsRecord (data : Bytes) : Prop :=
  ∃ start total k inner, start % 4 = 0 ∧ IsRecord (data.drop start) total ∧
    k % 4 = 0 ∧ 0 < k ∧ k < total ∧ IsRecord ((data.drop start).drop k) inner

/-- The nodes of a scan are disjoint exactly when no record of the partition nests another. -/
theorem nodesDisjoint_iff (data : Bytes) : NodesDisjoint data ↔ ¬NestsRecord data := by
  obtain ⟨nodes, hnodes⟩ := parseJffs2_total data
  constructor
  · rintro hdisjoint ⟨start, total, k, inner, hstart, houter, hk, hpos, hinside, hinner⟩
    rw [List.drop_drop] at hinner
    obtain ⟨houterNode, rfl⟩ := nodeAt_of_record hstart houter
    obtain ⟨hinnerNode, rfl⟩ := nodeAt_of_record (by omega) hinner
    obtain ⟨a, ha, hda⟩ := scan_of_nodeAt hnodes houterNode
    obtain ⟨b, hb, hdb⟩ := scan_of_nodeAt hnodes hinnerNode
    have hoffsets := hda.start
    have hoffsets' := hdb.start
    have htotal := hda.total
    have hne : a ≠ b := fun h => by
      rw [h] at hoffsets
      omega
    have hleast := hinnerNode.header.least
    have htotal' := hdb.total
    rcases hdisjoint nodes hnodes a ha b hb hne with h | h <;> omega
  · intro hnone nodes' hnodes' a ha b hb hne
    obtain rfl : nodes = nodes' := Except.ok.inj (hnodes.symm.trans hnodes')
    have apart {m n : Node} (hm : m ∈ nodes) (hn : n ∈ nodes) (hlt : m.offset < n.offset) :
        m.offset + m.totalLength ≤ n.offset := by
      obtain ⟨hnodeM, hdescribesM⟩ := describes_of_scan hnodes hm
      obtain ⟨hnodeN, -⟩ := describes_of_scan hnodes hn
      have halignedM := hnodeM.aligned
      have halignedN := hnodeN.aligned
      rw [hdescribesM.total]
      by_contra hoverlap
      have hinner := record_of_nodeAt hnodeN
      rw [show n.offset = m.offset + (n.offset - m.offset) by omega, ← List.drop_drop] at hinner
      exact hnone ⟨m.offset, _, n.offset - m.offset, _, halignedM, record_of_nodeAt hnodeM, by omega,
        by omega, by omega, hinner⟩
    rcases Nat.lt_trichotomy a.offset b.offset with hlt | heq | hgt
    · exact .inl (apart ha hb hlt)
    · exact absurd (node_eq_of_offset hnodes ha hb heq) hne
    · exact .inr (apart hb ha hgt)

-- a file whose content is a directory entry that deletes serial.cfg
def deletion : Dirent := rootDirent 2 0 1 8 SERIAL_CFG
def carrier : Inode := wholeInode 2 1 0x81A4 0 0 18 18 18 0 (encodedDirent deletion)
def nestedConfig : Bytes := laidOut (encodedInode carrier)

/-- The scan returns the file and, as a node of its own, the directory entry inside its content. -/
theorem nestedConfig_nodes :
    nestedConfig.length = CONFIG_SIZE ∧
      (∃ nodes, parseJffs2 nestedConfig = .ok nodes ∧ inodeNode 0 carrier ∈ nodes ∧
        direntNode 68 deletion ∈ nodes) ∧ ¬NodesDisjoint nestedConfig := by
  have hlen : (encodedInode carrier).length = 118 := by decide +kernel
  have hsize : CONFIG_SIZE = 0x20000 := rfl
  have hconfig : nestedConfig.length = CONFIG_SIZE := length_laidOut (by omega)
  obtain ⟨nodes, hnodes⟩ := parseJffs2_total nestedConfig
  have houter : parseNodeAt nestedConfig 0 = .ok (some (inodeNode 0 carrier)) := by
    apply parseNodeAt_encodedInode (by decide +kernel)
    rw [nestedConfig, slice_laidOut_body (by omega), Nat.zero_add, slice_self]
  have hinner : parseNodeAt nestedConfig 68 = .ok (some (direntNode 68 deletion)) := by
    have hentry : (encodedDirent deletion).length = 50 := by decide +kernel
    apply parseNodeAt_encodedDirent (by decide +kernel)
    rw [nestedConfig, slice_laidOut_body (by omega)]
    decide +kernel
  have houterMem : inodeNode 0 carrier ∈ nodes :=
    (mem_parseJffs2 hnodes).mpr ⟨0, rfl, by omega, houter⟩
  have hinnerMem : direntNode 68 deletion ∈ nodes :=
    (mem_parseJffs2 hnodes).mpr ⟨68, rfl, by omega, hinner⟩
  refine ⟨hconfig, ⟨nodes, hnodes, houterMem, hinnerMem⟩, fun hdisjoint => ?_⟩
  have hcase := hdisjoint nodes hnodes _ houterMem _ hinnerMem (by decide +kernel)
  exact absurd hcase (by decide +kernel)

/-! ## 6. The bytes a node is read from -/

/-- The name or data a node was read with lies inside its extent, in the size that is stored for it. -/
structure SelfContained (data : Bytes) (n : Node) : Prop where
  dirent : ∀ entry, n.kind = .dirent entry →
    40 + entry.name.length ≤ n.totalLength ∧ entry.name.length = nameSizeAt data n.offset
  inode : ∀ node, n.kind = .inode node →
    68 + node.compressedSize ≤ n.totalLength ∧ node.payload.length = node.compressedSize

def NodesSelfContained (data : Bytes) : Prop :=
  ∀ nodes, parseJffs2 data = .ok nodes → ∀ n ∈ nodes, SelfContained data n

/-- A record whose content is not its own, of either form: its content runs past its total length, or the
partition ends inside the content and the CRC is that of the part before the end. -/
inductive BorrowsBytes (data : Bytes) : Prop where
  | behind {start total : Nat} {form : RecordForm} {fields content after : Bytes}
      (aligned : start % 4 = 0) (hform : form = DIRENT_FORM ∨ form = INODE_FORM)
      (spelled : form.Spelled (data.drop start) total fields content after)
      (overrun : total < form.least + content.length) : BorrowsBytes data
  | cutOff {start total : Nat} {form : RecordForm} {fields content : Bytes}
      (aligned : start % 4 = 0) (hform : form = DIRENT_FORM ∨ form = INODE_FORM)
      (spelled : form.Spelled (data.drop start) total fields content [])
      (short : content.length < form.size fields) : BorrowsBytes data

/-- A record of a form that borrows nothing holds its content whole. -/
theorem RecordForm.Spelled.whole {data fields content after : Bytes} {start total : Nat}
    {form : RecordForm} (hnone : ¬BorrowsBytes data) (haligned : start % 4 = 0)
    (hform : form = DIRENT_FORM ∨ form = INODE_FORM)
    (h : form.Spelled (data.drop start) total fields content after) :
    form.least + content.length ≤ total ∧ content.length = form.size fields := by
  obtain ⟨type, written, hkind, hlen, hheaded, hcontent⟩ := id h
  rcases hcontent with hsize | ⟨hshort, rfl⟩
  · refine ⟨?_, hsize⟩
    by_contra hover
    exact hnone (.behind haligned hform h (by omega))
  · exact absurd (.cutOff haligned hform h hshort) hnone

/-- Every node is self-contained exactly when no record of the partition borrows bytes. -/
theorem nodesSelfContained_iff (data : Bytes) : NodesSelfContained data ↔ ¬BorrowsBytes data := by
  obtain ⟨nodes, hnodes⟩ := parseJffs2_total data
  constructor
  · intro hcontained hborrows
    -- a record of a form is a node, and its content is what the node was read with
    have hroom {start total : Nat} {form : RecordForm} {fields content after : Bytes}
        (haligned : start % 4 = 0) (hform : form = DIRENT_FORM ∨ form = INODE_FORM)
        (h : form.Spelled (data.drop start) total fields content after) :
        form.least + content.length ≤ total ∧ content.length = form.size fields := by
      obtain ⟨hheader, htotal, hkind, hcrcs, hfields, hcontent⟩ := h.reads
      rcases hform with rfl | rfl
      · obtain ⟨n, hn, hdescribes⟩ := scan_of_nodeAt hnodes
          (nodeAt_of_record haligned (.inl ⟨fields, content, after, h⟩)).1
        have hself := hcontained nodes hnodes n hn
        have hdescribed := hdescribes.kind
        cases hk : n.kind with
        | dirent entry =>
          rw [hk] at hdescribed
          obtain ⟨hfit, hsize⟩ := hself.dirent entry hk
          rw [hdescribed.2, ← direntForm_content, hcontent] at hfit hsize
          rw [hdescribes.total, htotal] at hfit
          rw [hdescribes.start, ← direntForm_size, hfields] at hsize
          exact ⟨hfit, hsize⟩
        | inode node => rw [hk] at hdescribed; exact absurd hdescribed.1 (not_isInodeAt hkind)
        | cleanmarker => rw [hk] at hdescribed; exact absurd hkind hdescribed.1
        | other => rw [hk] at hdescribed; exact absurd hkind hdescribed.1
      · obtain ⟨n, hn, hdescribes⟩ := scan_of_nodeAt hnodes
          (nodeAt_of_record haligned (.inr (.inl ⟨fields, content, after, h⟩))).1
        have hself := hcontained nodes hnodes n hn
        have hdescribed := hdescribes.kind
        cases hk : n.kind with
        | dirent entry => rw [hk] at hdescribed; exact absurd hkind (not_isInodeAt hdescribed.1)
        | inode node =>
          rw [hk] at hdescribed
          obtain ⟨hfit, hsize⟩ := hself.inode node hk
          rw [hdescribed.2.1, ← inodeForm_content, hcontent] at hsize
          rw [← hsize, hdescribes.total, htotal] at hfit
          rw [hdescribed.2.2, ← inodeForm_size, hfields] at hsize
          exact ⟨hfit, hsize⟩
        | cleanmarker => rw [hk] at hdescribed; exact absurd hkind hdescribed.2
        | other => rw [hk] at hdescribed; exact absurd hkind hdescribed.2
    cases hborrows with
    | behind haligned hform h hover =>
      have hfit := (hroom haligned hform h).1
      omega
    | cutOff haligned hform h hshort =>
      have hsize := (hroom haligned hform h).2
      omega
  · intro hnone nodes' hnodes' n hn
    obtain ⟨hnode, hdescribes⟩ := describes_of_scan hnodes' hn
    have hkind := hdescribes.kind
    refine ⟨fun entry hk => ?_, fun node hk => ?_⟩
    · rw [hk] at hkind
      obtain ⟨his, hname⟩ := hkind
      have hspelled := DIRENT_FORM.spelled_of_crcs hnode.header his
        ((direntForm_crcs data n.offset).mpr (hnode.dirent his))
      obtain ⟨hfit, hsize⟩ := hspelled.whole hnone hnode.aligned (.inl rfl)
      rw [direntForm_size, direntForm_content, ← hname] at hsize
      rw [direntForm_content, ← hname, ← hdescribes.total] at hfit
      exact ⟨hfit, hsize⟩
    · rw [hk] at hkind
      obtain ⟨his, hpayload, hcompressed⟩ := hkind
      have hspelled := INODE_FORM.spelled_of_crcs hnode.header his
        ((inodeForm_crcs data n.offset).mpr (hnode.inode his))
      obtain ⟨hfit, hsize⟩ := hspelled.whole hnone hnode.aligned (.inr rfl)
      rw [inodeForm_size, inodeForm_content, ← hpayload, ← hcompressed] at hsize
      rw [inodeForm_content, ← hpayload, hsize, ← hdescribes.total] at hfit
      exact ⟨hfit, hsize⟩

-- a directory entry of total length 40, whose name lies behind it
def borrowingHeader : List (Nat × Nat) := [(2, JFFS2_MAGIC), (2, 0xE001), (4, 40)]

def borrowingPrefix : Bytes :=
  leFields borrowingHeader ++ leBytes 4 (jffs2Crc (leFields borrowingHeader)) ++
    leFields (direntBody (rootDirent 1 2 1 8 (ascii "uvc.attr")))

def borrowingEntry : Bytes :=
  borrowingPrefix ++ leBytes 4 (jffs2Crc borrowingPrefix) ++ leBytes 4 (jffs2Crc (ascii "uvc.attr")) ++
    ascii "uvc.attr"

def borrowingNode : Node :=
  { offset := 0, nodeType := 0xE001, totalLength := 40, current := true, obsolete := false
    kind := .dirent (rootDirent 1 2 1 8 (ascii "uvc.attr")) }

/-- The entry is read with a name of which no byte lies inside its extent. -/
theorem borrowingEntry_nodes :
    parseJffs2 borrowingEntry = .ok [borrowingNode] ∧ ¬NodesSelfContained borrowingEntry := by
  have hnodes : parseJffs2 borrowingEntry = .ok [borrowingNode] := by decide +kernel
  refine ⟨hnodes, fun hcontained => ?_⟩
  have hself := hcontained _ hnodes borrowingNode (List.mem_singleton_self _)
  exact absurd (hself.dirent _ rfl).1 (by decide +kernel)

end Cc2Camera.Image
