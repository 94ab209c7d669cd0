import Cc2Camera.Image.Scan

/-!
# Minimal — the canonical partition of every valid serial

`minimalConfig` is the layout `buildMinimalConfig` arrives at: a cleanmarker, one directory entry and one
inode.  For every valid payload the scanner finds exactly these three, so the builder's own read-back
succeeds and the builder is total on valid serials.
-/

open Bytes Exceptions

namespace Cc2Camera.Image

variable (codecs : Codecs)

/-! ## 1. Valid serials -/

theorem serialPayloadIsValid_iff {payload : Bytes} :
    serialPayloadIsValid payload = true ↔
      payload.length = 44 ∧ slice payload 0 14 = ascii "serial=12PSSSS" ∧
        slice payload 14 15 ∈ [ascii "3", ascii "4", ascii "5"] ∧
        (slice payload 15 43).all isUpperAlnum = true ∧ slice payload 43 44 = [10] := by
  unfold serialPayloadIsValid serialMatch
  split <;> simp_all

/-- Every byte of a valid serial is one of its fixed characters or from the class [A-Z0-9]. -/
theorem serial_forall {payload : Bytes} {P : UInt8 → Prop} (h : serialPayloadIsValid payload = true)
    (hfixed : ∀ b ∈ ascii "serial=12PSSSS345\n", P b) (hupper : ∀ b, isUpperAlnum b = true → P b) :
    ∀ b ∈ payload, P b := by
  obtain ⟨hlen, hhead, hkind, htail, hnewline⟩ := serialPayloadIsValid_iff.mp h
  have hsplit : slice payload 0 14 ++ slice payload 14 15 ++ slice payload 15 43 ++
      slice payload 43 44 = payload := by
    rw [slice_append_slice _ (by omega) (by omega), slice_append_slice _ (by omega) (by omega),
      slice_append_slice _ (by omega) (by omega), ← hlen, slice_self]
  have fixed : ∀ part ∈ [ascii "serial=12PSSSS", ascii "3", ascii "4", ascii "5", [10]],
      ∀ b ∈ part, P b := by
    have hparts : ascii "serial=12PSSSS345\n" =
        ascii "serial=12PSSSS" ++ (ascii "3" ++ (ascii "4" ++ (ascii "5" ++ [10]))) := rfl
    simp only [hparts, List.forall_mem_append] at hfixed
    obtain ⟨h1, h2, h3, h4, h5⟩ := hfixed
    simp only [List.forall_mem_cons]
    exact ⟨h1, h2, h3, h4, List.forall_mem_cons.mp h5, List.forall_mem_nil _⟩
  intro b hb
  rw [← hsplit, hhead, hnewline] at hb
  simp only [List.mem_append] at hb
  rcases hb with ((hb | hb) | hb) | hb
  · exact fixed _ (by simp) b hb
  · exact fixed _ (List.mem_cons_of_mem _ (List.mem_append_left [[10]] hkind)) b hb
  · exact hupper b (List.all_eq_true.mp htail b hb)
  · exact fixed _ (by simp) b hb

theorem isUpperAlnum_range {b : UInt8} (h : isUpperAlnum b = true) :
    48 ≤ b.toNat ∧ b.toNat ≤ 90 := by
  unfold isUpperAlnum at h
  simp only [Bool.or_eq_true, Bool.and_eq_true, decide_eq_true_eq, UInt8.le_iff_toNat_le] at h
  have hbounds : (65 : UInt8).toNat = 65 ∧ (90 : UInt8).toNat = 90 ∧ (48 : UInt8).toNat = 48 ∧
      (57 : UInt8).toNat = 57 := by decide
  omega

/-- A valid serial is text: no byte of it ends it or can begin the magic word. -/
theorem serial_byte_text {payload : Bytes} (h : serialPayloadIsValid payload = true) :
    ∀ b ∈ payload, b ≠ 0 ∧ b < 0x80 := by
  have hfixed : (ascii "serial=12PSSSS345\n").all (fun b => b ≠ 0 ∧ b < 0x80) = true := by decide
  apply serial_forall (P := fun b => b ≠ 0 ∧ b < 0x80) h fun b hb =>
    of_decide_eq_true (List.all_eq_true.mp hfixed b hb)
  intro b hb
  have hrange := isUpperAlnum_range hb
  have hbound : (0x80 : UInt8).toNat = 128 := rfl
  have hzero : (0 : UInt8).toNat = 0 := rfl
  rw [← UInt8.toNat_inj.ne, UInt8.lt_iff_toNat_lt]
  omega

theorem serial_byte_lt {payload : Bytes} (h : serialPayloadIsValid payload = true) :
    ∀ b ∈ payload, b < 0x80 := fun b hb => (serial_byte_text h b hb).2

theorem serial_byte_ne_zero {payload : Bytes} (h : serialPayloadIsValid payload = true) :
    ∀ b ∈ payload, b ≠ 0 := fun b hb => (serial_byte_text h b hb).1

/-! ## 2. The layout -/

def minimalDirent : Dirent := rootDirent 123 7 1 8 SERIAL_CFG

def minimalInode (payload : Bytes) : Inode := wholeInode 7 2 0x81A4 0 0 18 18 18 0 payload

def minimalHead : Bytes := encodedCleanmarker ++ encodedDirent minimalDirent ++ [0xFF, 0xFF]

def minimalConfig (payload : Bytes) : Bytes :=
  laidOut (minimalHead ++ encodedInode (minimalInode payload))

theorem length_minimalHead : minimalHead.length = 64 := by
  rw [minimalHead, List.length_append, List.length_append, length_encodedCleanmarker,
    length_encodedDirent]
  rfl

theorem minimalDirent_fits : minimalDirent.Fits := (Dirent.fits_iff _).mpr (by decide)

-- the metadata of the inode node depends on the serial only through its length
def minimalPrefix : Bytes := leFields (inodePrefix (minimalInode (List.replicate 44 0)))

-- the CRC of that metadata
def MINIMAL_NODE_CRC : Nat := 0x4B6890A3

theorem length_minimalPrefix : minimalPrefix.length = 60 := by
  rw [minimalPrefix, length_leFields]
  rfl

-- that CRC, and no magic word in the fixed bytes but those of the nodes
theorem minimal_computed : jffs2Crc minimalPrefix = MINIMAL_NODE_CRC ∧
    (∀ k < 16, k ≠ 0 → k ≠ 3 → leNat (slice minimalHead (4 * k) (4 * k + 2)) ≠ JFFS2_MAGIC) ∧
    ∀ k < 15, k ≠ 0 → leNat (slice minimalPrefix (4 * k) (4 * k + 2)) ≠ JFFS2_MAGIC := by decide +kernel

section Valid

variable {payload : Bytes} (hvalid : serialPayloadIsValid payload = true)
include hvalid

theorem length_serial : payload.length = 44 := (serialPayloadIsValid_iff.mp hvalid).1

theorem minimalInode_fits : (minimalInode payload).Fits := by
  rw [Inode.fits_iff, minimalInode, inodeHeader, inodeBody, wholeInode]
  simp only [length_serial hvalid]
  decide

theorem length_minimalBody : (minimalHead ++ encodedInode (minimalInode payload)).length = 176 := by
  rw [List.length_append, length_minimalHead, length_encodedInode]
  simp only [minimalInode, wholeInode, length_serial hvalid]

theorem length_minimalConfig : (minimalConfig payload).length = CONFIG_SIZE := by
  have hlen := length_minimalBody hvalid
  apply length_laidOut
  rw [hlen]
  decide

/-! ## 3. Its scan -/

theorem minimalInode_prefix : leFields (inodePrefix (minimalInode payload)) = minimalPrefix := by
  simp only [minimalPrefix, inodePrefix, inodeHeader, inodeBody, minimalInode, wholeInode,
    length_serial hvalid, List.length_replicate]

theorem slice_minimalConfig {i j : Nat} (h : j ≤ 176) :
    slice (minimalConfig payload) i j =
      slice (minimalHead ++ encodedInode (minimalInode payload)) i j :=
  slice_laidOut_body (by rw [length_minimalBody hvalid]; exact h)

theorem slice_minimalConfig_head {i j : Nat} (h : j ≤ 64) :
    slice (minimalConfig payload) i j = slice minimalHead i j := by
  rw [slice_minimalConfig hvalid (by omega), slice_append_left _ _ (by rw [length_minimalHead]; exact h)]

theorem slice_minimalConfig_inode {i j : Nat} (h : j ≤ 112) :
    slice (minimalConfig payload) (64 + i) (64 + j) = slice (encodedInode (minimalInode payload)) i j := by
  rw [slice_minimalConfig hvalid (by omega), slice_append_right _ _ (by rw [length_minimalHead]; omega),
    length_minimalHead, Nat.add_sub_cancel_left, Nat.add_sub_cancel_left]

theorem parseNodeAt_minimalConfig_head {k : Nat} (hk : k < 16) (h0 : k ≠ 0) (h3 : k ≠ 3) :
    parseNodeAt (minimalConfig payload) (4 * k) = .ok none := by
  have hlen := length_minimalConfig hvalid
  have hsize : CONFIG_SIZE = 0x20000 := rfl
  apply parseNodeAt_of_magic_ne (by omega)
  rw [u16, slice_minimalConfig_head hvalid (by omega)]
  exact minimal_computed.2.1 k hk h0 h3

theorem minimalInode_split :
    encodedInode (minimalInode payload) =
      minimalPrefix ++ leBytes 4 (jffs2Crc payload) ++ leBytes 4 MINIMAL_NODE_CRC ++ payload := by
  rw [encodedInode, inodeFields, minimalInode_prefix hvalid, minimal_computed.1, leFields_append,
    minimalInode_prefix hvalid, leFields_cons, leFields_cons, leFields_nil, List.append_nil,
    ← List.append_assoc]
  rfl

theorem serial_word_ne {j : Nat} (hj : j < 44) :
    leNat (slice payload j (j + 2)) ≠ JFFS2_MAGIC := by
  have hlen := length_serial hvalid
  have hsplit := slice_append_slice payload (i := j) (j := j + 1) (k := j + 2) (by omega) (by omega)
  rw [slice_singleton (by omega : j < payload.length)] at hsplit
  have hbyte := serial_byte_lt hvalid payload[j] (List.getElem_mem _)
  rw [UInt8.lt_iff_toNat_lt] at hbyte
  rw [← hsplit, List.singleton_append, leNat]
  have hmagic : JFFS2_MAGIC = 0x85 + 256 * 0x19 := rfl
  have hbound : (0x80 : UInt8).toNat = 0x80 := rfl
  omega

theorem parseNodeAt_minimalConfig_inode {k : Nat} (hk : k < 28) (h0 : k ≠ 0) :
    parseNodeAt (minimalConfig payload) (64 + 4 * k) = .ok none := by
  have hlen := length_minimalConfig hvalid
  have hsize : CONFIG_SIZE = 0x20000 := rfl
  have hread {i j : Nat} (hj : j ≤ 112) := slice_minimalConfig_inode hvalid (i := i) hj
  rw [minimalInode_split hvalid] at hread
  have hprefix := length_minimalPrefix
  have hdata : (minimalPrefix ++ leBytes 4 (jffs2Crc payload)).length = 64 := by
    rw [List.length_append, hprefix, length_leBytes]
  have hnode : (minimalPrefix ++ leBytes 4 (jffs2Crc payload) ++
      leBytes 4 MINIMAL_NODE_CRC).length = 68 := by
    rw [List.length_append, hdata, length_leBytes]
  rcases Nat.lt_trichotomy k 15 with hk15 | rfl | hk15
  · -- the metadata, the same for every serial
    apply parseNodeAt_of_magic_ne (by omega)
    rw [u16, Nat.add_assoc, hread (by omega), List.append_assoc, List.append_assoc,
      slice_append_left _ _ (by omega)]
    exact minimal_computed.2.2 k hk15 h0
  · -- the data CRC: the node CRC behind it, read as a total length, runs past the end
    apply parseNodeAt_of_total_gt (by omega)
    rw [u32, hread (i := 64) (j := 68) (by omega), slice_append_left _ _ (by omega),
      slice_append_right _ _ (by omega), hdata, hlen]
    decide
  · apply parseNodeAt_of_magic_ne (by omega)
    rw [u16, Nat.add_assoc, hread (by omega)]
    by_cases hk16 : k = 16
    · rw [hk16, slice_append_left _ _ (by omega), slice_append_right _ _ (by omega), hdata]
      decide
    · rw [slice_append_right _ _ (by omega), hnode, show 4 * k + 2 - 68 = 4 * k - 68 + 2 by omega]
      exact serial_word_ne hvalid (by omega)

def minimalNodes (payload : Bytes) : List Node :=
  [cleanmarkerNode 0, direntNode 12 minimalDirent, inodeNode 64 (minimalInode payload)]

/-- The scanner finds the three nodes the builder wrote, and nothing inside them. -/
theorem parseJffs2_minimalConfig : parseJffs2 (minimalConfig payload) = .ok (minimalNodes payload) := by
  have hbody := length_minimalBody hvalid
  have hscan := @parseJffs2_laidOut (minimalHead ++ encodedInode (minimalInode payload))
    (fun offset =>
      if offset = 0 then some (cleanmarkerNode 0)
      else if offset = 12 then some (direntNode 12 minimalDirent)
      else if offset = 64 then some (inodeNode 64 (minimalInode payload))
      else none)
    44 (by rw [hbody]) (by rw [hbody]; decide) ?_
  · rw [minimalConfig, hscan]
    rfl
  · intro k hk
    change parseNodeAt (minimalConfig payload) (4 * k) = _
    have hclean : slice minimalHead 0 (0 + encodedCleanmarker.length) = encodedCleanmarker := by
      rw [minimalHead, List.append_assoc, slice_append_left _ _ (Nat.le_of_eq (Nat.zero_add _)),
        Nat.zero_add, slice_self]
    have hdirent : slice minimalHead 12 (12 + (encodedDirent minimalDirent).length) =
        encodedDirent minimalDirent := by
      rw [minimalHead, List.append_assoc, ← length_encodedCleanmarker, slice_append_right _ _ (Nat.le_refl _),
        Nat.sub_self, Nat.add_sub_cancel_left, slice_append_left _ _ (Nat.le_refl _), slice_self]
    have hinode := slice_minimalConfig_inode hvalid (i := 0) (Nat.le_refl 112)
    rcases Nat.lt_or_ge k 16 with hk16 | hk16
    · by_cases h0 : k = 0
      · rw [h0]
        apply parseNodeAt_encodedCleanmarker
        rw [Nat.mul_zero, slice_minimalConfig_head hvalid (by decide), hclean]
      · by_cases h3 : k = 3
        · rw [h3]
          apply parseNodeAt_encodedDirent minimalDirent_fits
          rw [slice_minimalConfig_head hvalid (by decide), hdirent]
        · rw [parseNodeAt_minimalConfig_head hvalid hk16 h0 h3, if_neg (by omega), if_neg (by omega),
            if_neg (by omega)]
    · by_cases h16 : k = 16
      · rw [h16]
        apply parseNodeAt_encodedInode (minimalInode_fits hvalid)
        have hlen : (encodedInode (minimalInode payload)).length = 112 := by
          rw [length_encodedInode, minimalInode, wholeInode, length_serial hvalid]
        rw [hlen]
        rw [← hlen, slice_self] at hinode
        rw [hlen] at hinode
        exact hinode
      · have hnode := parseNodeAt_minimalConfig_inode hvalid (k := k - 16) (by omega) (by omega)
        rw [show 64 + 4 * (k - 16) = 4 * k by omega] at hnode
        rw [hnode, if_neg (by omega), if_neg (by omega), if_neg (by omega)]

/-! ## 4. Its reading -/

def minimalMap : DirentMap := [((1, SERIAL_CFG), minimalDirent)]

omit hvalid in
theorem currentDirents_minimalNodes : currentDirents (minimalNodes payload) = .ok minimalMap := rfl

omit hvalid in
theorem unexpectedNames_minimalNodes : unexpectedNames (minimalNodes payload) = [] := by
  have hdirents : (minimalNodes payload).filterMap Node.dirent? = [minimalDirent] := rfl
  rw [unexpectedNames, hdirents]
  decide

theorem selectSerial_minimalNodes :
    selectSerial (minimalNodes payload) minimalMap = .ok (payload, .liveCurrent) := by
  have hlive : (liveEntries minimalMap).lookup SERIAL_CFG = some minimalDirent := rfl
  have hcurrent : currentInodes (minimalNodes payload) minimalDirent.inode = [minimalInode payload] :=
    rfl
  have hserial : isSerialNode (minimalInode payload) = true := by
    simp [isSerialNode, minimalInode, wholeInode, hvalid]
  have hpayload : liveSerialPayload (minimalNodes payload) minimalMap = .ok (some payload) := by
    rw [liveSerialPayload, hlive]
    simp only [hcurrent, List.filter_cons, hserial, if_true, List.filter_nil,
      Sorting.sortByKeyReverse, List.insertionSort_cons, List.insertionSort_nil, List.orderedInsert_nil, decide_true]
    rfl
  rw [selectSerial, hpayload, ok_bind]

def minimalInfo (payload value : Bytes) : ConfigInfo :=
  configInfo (minimalNodes payload) payload value .liveCurrent none

/-- Reading the canonical partition gives the serial back as the live one. -/
theorem extract_minimalConfig (allow : Bool) :
    ∃ value, serialMatch payload = some value ∧
      extractSerialAndConfigInfo codecs (minimalConfig payload) allow false =
        .ok (minimalInfo payload value) := by
  obtain ⟨value, hvalue⟩ := Option.isSome_iff_exists.mp hvalid
  refine ⟨value, hvalue, ?_⟩
  rw [extractSerialAndConfigInfo, parseJffs2_minimalConfig hvalid, ok_bind,
    raiseIf_of_not (by simp [minimalNodes]), ok_bind, unexpectedNames_minimalNodes,
    raiseIf_of_not (by simp), ok_bind, currentDirents_minimalNodes, ok_bind,
    selectSerial_minimalNodes hvalid, ok_bind]
  simp only [hvalue, orRaise_some, ok_bind, preservedFiles, Bool.false_eq_true, if_false]
  rfl

/-- `build_minimal_config` never refuses a valid serial. -/
theorem buildMinimalConfig_of_valid :
    buildMinimalConfig codecs payload = .ok (minimalConfig payload) := by
  obtain ⟨value, -, hextract⟩ := extract_minimalConfig codecs hvalid false
  have hdirent : encodeDirent 123 7 1 8 SERIAL_CFG = .ok (encodedDirent minimalDirent) :=
    encodeDirent_eq_ok.mpr ⟨minimalDirent_fits, rfl⟩
  have hinode : encodeInode 7 2 0x81A4 0 0 18 18 18 0 payload =
      .ok (encodedInode (minimalInode payload)) :=
    encodeInode_eq_ok.mpr ⟨minimalInode_fits hvalid, rfl⟩
  have hlen : (encodedInode (minimalInode payload)).length = 112 := by
    rw [length_encodedInode, minimalInode, wholeInode, length_serial hvalid]
  have hclean := length_encodedCleanmarker
  have hentry : (encodedDirent minimalDirent).length = 50 := by
    rw [length_encodedDirent]
    rfl
  -- the two nodes, each placed behind what is laid out already
  have hplaced : place (laidOut encodedCleanmarker) 12 (encodedDirent minimalDirent) =
      laidOut (encodedCleanmarker ++ encodedDirent minimalDirent) := by
    rw [place_laidOut (by omega) (by rw [hentry]; decide), hclean, Nat.sub_self, List.replicate_zero,
      List.append_nil]
  have hbuilt : place (laidOut (encodedCleanmarker ++ encodedDirent minimalDirent)) 64
      (encodedInode (minimalInode payload)) = minimalConfig payload := by
    have hhead : (encodedCleanmarker ++ encodedDirent minimalDirent).length = 62 := by
      rw [List.length_append, hclean, hentry]
    rw [place_laidOut (by omega) (by rw [hlen]; decide), hhead]
    rfl
  have hoffset : align4 (12 + (40 + SERIAL_CFG.length)) = 64 := by decide
  rw [buildMinimalConfig, raiseIf_of_not (by simp [hvalid]), ok_bind, encodeCleanmarker_eq, ok_bind,
    splice_cleanmarker, hdirent, ok_bind, hinode, ok_bind, hoffset, hlen, raiseIf_of_not (by decide),
    ok_bind, hplaced, hbuilt]
  have hcount : (minimalInfo payload value).currentNodeCount = 3 := rfl
  have hserial : (minimalInfo payload value).serialPayload = payload := rfl
  simp [hextract, hcount, hserial]

/-- The partition built for a valid serial: three current nodes, from which the serial is read as live. -/
theorem buildMinimalConfig_reads :
    ∃ config nodes info, buildMinimalConfig codecs payload = .ok config ∧ config.length = 0x20000 ∧
      parseJffs2 config = .ok nodes ∧
      nodes.map (fun n => (n.offset, n.current, n.kind)) =
        [(0, true, .cleanmarker), (12, true, .dirent minimalDirent),
          (64, true, .inode (minimalInode payload))] ∧
      extractSerialAndConfigInfo codecs config false false = .ok info ∧
      info.serialPayload = payload ∧ info.serialSource = .liveCurrent := by
  have hextract := extract_minimalConfig codecs hvalid false
  rcases hextract with ⟨value, -, hextract⟩
  have hbuilt := buildMinimalConfig_of_valid codecs hvalid
  have hlength := length_minimalConfig hvalid
  have hscan := parseJffs2_minimalConfig hvalid
  exact ⟨_, _, _, hbuilt, hlength, hscan, rfl, hextract, rfl, rfl⟩

end Valid

theorem buildMinimalConfig_reads_serial :
    let codecs : Codecs := ⟨fun _ _ => none, fun _ => none, id⟩
    let payload := ascii "serial=12PSSSS3AAAAAAAAAAAAAAAAAAAAAAAAAAAA\n"
    ∃ config nodes info, buildMinimalConfig codecs payload = .ok config ∧ config.length = 0x20000 ∧
      parseJffs2 config = .ok nodes ∧
      nodes.map (fun n => (n.offset, n.current, n.kind)) =
        [(0, true, .cleanmarker), (12, true, .dirent minimalDirent),
          (64, true, .inode (minimalInode payload))] ∧
      extractSerialAndConfigInfo codecs config false false = .ok info ∧
      info.serialPayload = payload ∧ info.serialSource = .liveCurrent :=
  buildMinimalConfig_reads _ (by decide +kernel)

end Cc2Camera.Image
