import Cc2Camera.Stream.Segments
import Mathlib.Algebra.BigOperators.Group.List.Basic
import Mathlib.Data.List.Induction

/-!
# Fingerprint — `fingerprint_jpeg` reads back what a frame was made of
-/

open Bytes Exceptions

namespace Cc2Camera.StreamIdentify

/-- The payloads of the segments with a marker, in order. -/
def payloadsOf (marker : UInt8) (segments : List Segment) : List Bytes :=
  (segments.filter (·.marker = marker)).map Segment.payload

/-- Everything before the scan of a frame the tool accepts. -/
structure Jpeg where
  segments : List Segment
  sos : Segment
  scanning : sos.marker = 0xDA
  before : ∀ s ∈ segments, s.marker ≠ 0xDA ∧ s.WellFormed
  quantization : payloadsOf 0xDB segments ≠ []
  frameHeader : Bytes
  last : (payloadsOf 0xC0 segments).getLast? = some frameHeader
  width_ne : fromBytesBig (slice frameHeader 3 5) ≠ 0
  height_ne : fromBytesBig (slice frameHeader 1 3) ≠ 0

namespace Jpeg

def head (j : Jpeg) : Bytes := [0xFF, 0xD8] ++ (j.segments.flatMap Segment.bytes ++ j.sos.bytes)

def frame (j : Jpeg) (scan : Bytes) : Bytes := j.head ++ (scan ++ [0xFF, 0xD9])

end Jpeg

/-- The pairs `FF D0` to `FF D7` in a scan. -/
def restartPairs (scan : Bytes) : Nat :=
  (scan.zip scan.tail).countP fun pair => pair.1 = 0xFF ∧ 0xD0 ≤ pair.2 ∧ pair.2 ≤ 0xD7

/-- What the frame was made of. -/
def Jpeg.fingerprint (j : Jpeg) (hashlib : Hashlib) (scan : Bytes) : JpegFingerprint where
  width := fromBytesBig (slice j.frameHeader 3 5)
  height := fromBytesBig (slice j.frameHeader 1 3)
  sampling := components (j.frameHeader.drop 6)
  markerSequence := j.segments.map (fun s => markerName s.marker.toNat) ++ ["SOS"]
  dqtSha256 := hashlib.sha256 (payloadsOf 0xDB j.segments).flatten
  jfif := ((payloadsOf 0xE0 j.segments).filter isJfif).getLast?.map jfifOf
  restartInterval := (payloadsOf 0xDD j.segments).getLast?.map fromBytesBig
  restartMarkers := restartPairs scan

/-- The announced end of the frame lies inside its SOS segment. -/
def Jpeg.Overruns (j : Jpeg) (frame : Bytes) : Prop :=
  [0xFF, 0xD9] <:+ frame ∧ ∃ rest, rest.length < 2 ∧ frame = j.head ++ rest

/-! ## The metadata of a list of segments -/

@[simp] theorem payloadsOf_nil (marker : UInt8) : payloadsOf marker [] = [] := rfl

theorem payloadsOf_append (marker : UInt8) (front back : List Segment) :
    payloadsOf marker (front ++ back) = payloadsOf marker front ++ payloadsOf marker back := by
  rw [payloadsOf, List.filter_append, List.map_append]
  rfl

theorem payloadsOf_singleton (marker : UInt8) (s : Segment) :
    payloadsOf marker [s] = if s.marker = marker then [s.payload] else [] := by
  unfold payloadsOf
  by_cases h : s.marker = marker
  · simp [h]
  · simp [h]

/-- The last frame header, as the loop keeps it: zeros before the first. -/
def metadataOf (segments : List Segment) : Metadata where
  markerSequence := segments.map fun s => markerName s.marker.toNat
  dqtPayloads := payloadsOf 0xDB segments
  width := ((payloadsOf 0xC0 segments).getLast?.map fun p => fromBytesBig (slice p 3 5)).getD 0
  height := ((payloadsOf 0xC0 segments).getLast?.map fun p => fromBytesBig (slice p 1 3)).getD 0
  sampling := ((payloadsOf 0xC0 segments).getLast?.map fun p => components (p.drop 6)).getD []
  jfif := ((payloadsOf 0xE0 segments).filter isJfif).getLast?.map jfifOf
  restartInterval := (payloadsOf 0xDD segments).getLast?.map fromBytesBig

theorem metadataOf_concat (segments : List Segment) (s : Segment) :
    metadataOf (segments ++ [s]) = (metadataOf segments).read s := by
  unfold Metadata.read
  by_cases h₁ : s.marker = 0xDB
  · simp [metadataOf, payloadsOf_append, payloadsOf_singleton, h₁]
  by_cases h₂ : s.marker = 0xC0
  · simp [metadataOf, payloadsOf_append, payloadsOf_singleton, h₂]
  by_cases h₃ : s.marker = 0xE0
  · by_cases hjfif : isJfif s.payload
    · simp [metadataOf, payloadsOf_append, payloadsOf_singleton, h₃, hjfif, List.filter_append]
    · simp [metadataOf, payloadsOf_append, payloadsOf_singleton, h₃, hjfif, List.filter_append]
  by_cases h₄ : s.marker = 0xDD
  · simp [metadataOf, payloadsOf_append, payloadsOf_singleton, h₄]
  · simp [metadataOf, payloadsOf_append, payloadsOf_singleton, h₁, h₂, h₃, h₄]

theorem foldl_read (segments : List Segment) : segments.foldl Metadata.read .initial = metadataOf segments := by
  induction segments using List.reverseRecOn with
  | nil => rfl
  | append_singleton segments s ih =>
    rw [List.foldl_append, ih, metadataOf_concat]
    rfl

/-! ## The loop -/

section Loop

variable {frame rest : Bytes} {pos : Nat} {m : Metadata} {segments : List Segment} {sos : Segment}

theorem two_le_length_bytes (s : Segment) : 2 ≤ s.bytes.length := by
  rw [Segment.bytes, List.length_append, List.length_replicate, List.length_cons]
  omega

theorem four_le_length_bytes {s : Segment} (h : ¬isStandalone s.marker.toNat) : 4 ≤ s.bytes.length := by
  rw [Segment.bytes, Segment.body, if_neg h]
  simp only [List.length_append, List.length_replicate, List.length_cons, length_bigEndian]
  omega

theorem not_isStandalone_sos (h : sos.marker = 0xDA) : ¬isStandalone sos.marker.toNat := by
  rw [h]
  decide

theorem wellFormed_sos (h : sos.marker = 0xDA) : sos.WellFormed := by
  constructor
  · rw [h]
    nofun
  · rw [h]
    nofun

/-- Unread bytes that begin with segments and an SOS segment. -/
structure Scannable (unread : Bytes) (segments : List Segment) (sos : Segment) (rest : Bytes) : Prop where
  unread_eq : unread = segments.flatMap Segment.bytes ++ (sos.bytes ++ rest)
  scanning : sos.marker = 0xDA
  before : ∀ s ∈ segments, s.marker ≠ 0xDA ∧ s.WellFormed

theorem readMarkers_of_error {e : StreamExc} (hpos : pos < frame.length - 2) (h : readMarker frame pos m = .error e) :
    readMarkers frame pos m = .error e := by
  rw [readMarkers, if_pos hpos]
  split
  · next e' he => exact congrArg _ (Except.error.inj (he.symm.trans h))
  · next p hp => cases hp.symm.trans h

theorem readMarkers_of_ok {p : Position} (hpos : pos < frame.length - 2) (h : readMarker frame pos m = .ok p) :
    readMarkers frame pos m =
      if p.scanning then .ok (some p.pos, p.metadata) else readMarkers frame p.pos p.metadata := by
  rw [readMarkers, if_pos hpos]
  split
  · next e he => cases he.symm.trans h
  · next p' hp => rw [Except.ok.inj (hp.symm.trans h)]

theorem readMarkers_complete (h : Scannable (frame.drop pos) segments sos rest) :
    readMarkers frame pos m = .ok (some (frame.length - rest.length), (segments.foldl Metadata.read m).read sos) := by
  have hfour := four_le_length_bytes (not_isStandalone_sos h.scanning)
  have hlength := congrArg List.length h.unread_eq
  simp only [List.length_drop, List.length_append] at hlength
  induction segments generalizing pos m with
  | nil =>
    have hdrop : frame.drop pos = sos.bytes ++ rest := h.unread_eq
    have hend := length_of_drop hdrop sos.bytes_ne_nil
    have hread := readMarker_complete (m := m) hdrop (wellFormed_sos h.scanning)
    have hstart : pos + sos.bytes.length = frame.length - rest.length := by omega
    rw [readMarkers_of_ok (by omega) hread, hstart, h.scanning]
    rfl
  | cons s segments ih =>
    obtain ⟨⟨hmarker, hwell⟩, hbefore⟩ := List.forall_mem_cons.mp h.before
    have hdrop : frame.drop pos = s.bytes ++ (segments.flatMap Segment.bytes ++ (sos.bytes ++ rest)) := by
      rw [h.unread_eq, List.flatMap_cons, List.append_assoc]
    have hread := readMarker_complete (m := m) hdrop hwell
    have hnext : Scannable (frame.drop (pos + s.bytes.length)) segments sos rest :=
      ⟨drop_of_drop hdrop rfl, h.scanning, hbefore⟩
    have hnextLength := congrArg List.length hnext.unread_eq
    simp only [List.length_drop, List.length_append] at hnextLength
    rw [readMarkers_of_ok (by omega) hread, decide_eq_false hmarker, if_neg Bool.false_ne_true]
    exact ih hnext hnextLength

/-- The loop raises the tool's error, ends without a scan, or has read segments up to an SOS segment. -/
theorem readMarkers_sound (frame : Bytes) (pos : Nat) (m : Metadata) :
    (∃ msg, readMarkers frame pos m = .error (.streamIdentificationError msg)) ∨
      (∃ m', readMarkers frame pos m = .ok (none, m')) ∨
      ∃ segments sos rest, Scannable (frame.drop pos) segments sos rest := by
  -- on the unread bytes
  induction hunread : frame.length - pos using Nat.strong_induction_on generalizing pos m with
  | _ n ih =>
  by_cases hpos : pos < frame.length - 2
  swap
  · rw [readMarkers, if_neg hpos]
    exact .inr (.inl ⟨m, rfl⟩)
  have hlt : pos < frame.length := by omega
  rcases segment_of_readMarker (m := m) hlt with ⟨msg, hraised⟩ | ⟨s, rest, hdrop⟩
  · exact .inl ⟨msg, readMarkers_of_error hpos hraised⟩
  rcases readMarker_segment_cases (m := m) hdrop with ⟨hwell, hread⟩ | ⟨-, msg, hraised⟩
  swap
  · exact .inl ⟨msg, readMarkers_of_error hpos hraised⟩
  have hend := length_of_drop hdrop s.bytes_ne_nil
  have htwo := two_le_length_bytes s
  have hrest : frame.drop (pos + s.bytes.length) = rest := drop_of_drop hdrop rfl
  by_cases hsos : s.marker = 0xDA
  · exact .inr (.inr ⟨[], s, rest, hdrop, hsos, nofun⟩)
  rw [readMarkers_of_ok hpos hread, decide_eq_false hsos, if_neg Bool.false_ne_true]
  rcases ih _ (by omega) (pos + s.bytes.length) (m.read s) rfl with hraised | hnone | ⟨segments, sos, rest', hscan⟩
  · exact .inl hraised
  · exact .inr (.inl hnone)
  · refine .inr (.inr ⟨s :: segments, sos, rest', ?_, hscan.scanning, ?_⟩)
    · rw [hdrop, List.flatMap_cons, List.append_assoc, ← hscan.unread_eq, hrest]
    · exact List.forall_mem_cons.mpr ⟨⟨hsos, hwell⟩, hscan.before⟩

end Loop

/-! ## The scan -/

/-- The places where `FF` and the marker stand side by side. -/
def markerPairs (marker : UInt8) (scan : Bytes) : Nat :=
  (scan.zip scan.tail).countP fun pair => pair.1 = 0xFF ∧ pair.2 = marker

theorem markerPairs_cons_of_ne {marker b : UInt8} (hb : b ≠ 0xFF) (rest : Bytes) :
    markerPairs marker (b :: rest) = markerPairs marker rest := by
  cases rest with
  | nil => rfl
  | cons c rest => simp [markerPairs, hb]

theorem markerPairs_cons_cons (marker b c : UInt8) (rest : Bytes) :
    markerPairs marker (b :: c :: rest) =
      (if b = 0xFF ∧ c = marker then 1 else 0) + markerPairs marker (c :: rest) := by
  simp [markerPairs, List.countP_cons, Nat.add_comm]

-- the byte after `FF` is no `FF`, so no occurrence begins in one that was counted
theorem countBytes_pair {marker : UInt8} (hmarker : marker ≠ 0xFF) {scan : Bytes} {n : Nat} (hn : scan.length ≤ n) :
    countBytes [0xFF, marker] n scan = markerPairs marker scan := by
  induction n using Nat.strong_induction_on generalizing scan with
  | _ n ih =>
  match n, scan, hn with
  | 0, scan, hn =>
    rw [List.length_eq_zero_iff.mp (Nat.le_zero.mp hn)]
    rfl
  | n + 1, [], _ => rfl
  | n + 1, [b], hn =>
    rw [countBytes, if_neg (by simp), ih n (Nat.lt_succ_self n) (show ([] : Bytes).length ≤ n from Nat.zero_le n)]
    rfl
  | n + 1, b :: c :: rest, hn =>
    simp only [List.length_cons] at hn
    have htail : (c :: rest).length ≤ n := Nat.le_of_succ_le_succ hn
    rw [countBytes, markerPairs_cons_cons]
    by_cases hpair : b = 0xFF ∧ c = marker
    · have hc : c ≠ 0xFF := hpair.2 ▸ hmarker
      rw [if_pos hpair, if_pos (by simp [hpair]), markerPairs_cons_of_ne hc,
        ← ih n (Nat.lt_succ_self n) (by omega : rest.length ≤ n)]
      rfl
    · have hprefix : ¬[0xFF, marker].isPrefixOf (b :: c :: rest) = true := by
        simp only [List.isPrefixOf, Bool.and_true, Bool.and_eq_true, beq_iff_eq]
        exact fun h => hpair ⟨h.1.symm, h.2.symm⟩
      rw [if_neg hpair, if_neg hprefix, Nat.zero_add, ih n (Nat.lt_succ_self n) htail]

theorem restartPairs_cons_cons (b c : UInt8) (rest : Bytes) :
    restartPairs (b :: c :: rest) =
      (if b = 0xFF ∧ 0xD0 ≤ c ∧ c ≤ 0xD7 then 1 else 0) + restartPairs (c :: rest) := by
  simp [restartPairs, List.countP_cons, Nat.add_comm]

theorem sum_ite_marker (b c : UInt8) :
    ((List.range' 0xD0 8).map fun marker => if b = 0xFF ∧ c = UInt8.ofNat marker then 1 else 0).sum =
      if b = 0xFF ∧ 0xD0 ≤ c ∧ c ≤ 0xD7 then 1 else 0 := by
  have hall : ∀ n < 256, ((List.range' 0xD0 8).map fun marker =>
      if UInt8.ofNat n = UInt8.ofNat marker then 1 else 0).sum =
        if 0xD0 ≤ UInt8.ofNat n ∧ UInt8.ofNat n ≤ 0xD7 then 1 else 0 := by decide +kernel
  by_cases hb : b = 0xFF
  · have hc := hall c.toNat c.toNat_lt
    rw [UInt8.ofNat_toNat] at hc
    simpa only [hb, true_and] using hc
  · simp only [hb, false_and, if_false]
    rfl

theorem sum_markerPairs (scan : Bytes) :
    ((List.range' 0xD0 8).map fun marker => markerPairs (UInt8.ofNat marker) scan).sum = restartPairs scan := by
  induction scan with
  | nil => rfl
  | cons b rest ih =>
    cases rest with
    | nil => rfl
    | cons c rest =>
      simp only [markerPairs_cons_cons]
      rw [List.sum_map_add, ih, sum_ite_marker, restartPairs_cons_cons]

theorem sum_countBytes (scan : Bytes) :
    ((List.range' 0xD0 8).map fun marker => countBytes [0xFF, UInt8.ofNat marker] scan.length scan).sum =
      restartPairs scan := by
  rw [← sum_markerPairs]
  congr 1
  apply List.map_congr_left
  intro marker hmem
  apply countBytes_pair _ le_rfl
  revert marker
  decide

/-! ## Frames -/

section Frames

variable (hashlib : Hashlib)

theorem Jpeg.getLast?_read (j : Jpeg) :
    ((j.segments.foldl Metadata.read .initial).read j.sos) =
      { metadataOf j.segments with
        markerSequence := j.segments.map (fun s => markerName s.marker.toNat) ++ ["SOS"] } := by
  rw [foldl_read]
  unfold Metadata.read
  rw [j.scanning]
  rfl

/-- What follows the SOS segment: the scan, but for the last two bytes of the frame. -/
theorem fingerprintJpeg_of_head {j : Jpeg} {rest : Bytes} (hend : [0xFF, 0xD9] <:+ j.head ++ rest) :
    fingerprintJpeg hashlib (j.head ++ rest) = .ok (j.fingerprint hashlib (rest.take (rest.length - 2))) := by
  have hscan : Scannable ((j.head ++ rest).drop 2) j.segments j.sos rest := by
    refine ⟨?_, j.scanning, j.before⟩
    rw [Jpeg.head, List.append_assoc, List.drop_append_of_le_length (by simp), List.append_assoc]
    rfl
  have hfour := four_le_length_bytes (not_isStandalone_sos j.scanning)
  have hlength : (j.head ++ rest).length = 2 + (j.segments.flatMap Segment.bytes).length + j.sos.bytes.length +
      rest.length := by
    simp only [Jpeg.head, List.length_append, List.length_cons, List.length_nil]
    omega
  have hstart : [0xFF, 0xD8] <+: j.head ++ rest := by
    rw [Jpeg.head, List.append_assoc]
    exact List.prefix_append _ _
  have hcomplete : ¬((j.head ++ rest).length < 4 ∨ ¬[0xFF, 0xD8] <+: j.head ++ rest ∨ ¬[0xFF, 0xD9] <:+ j.head ++ rest) := by
    rintro (hshort | hno | hno)
    · omega
    · exact hno hstart
    · exact hno hend
  have hmetadata : ¬((metadataOf j.segments).width = 0 ∨ (metadataOf j.segments).height = 0 ∨
      (metadataOf j.segments).dqtPayloads = []) := by
    rintro (hwidth | hheight | hdqt)
    · simp only [metadataOf, j.last] at hwidth
      exact j.width_ne hwidth
    · simp only [metadataOf, j.last] at hheight
      exact j.height_ne hheight
    · exact j.quantization hdqt
  have htake : slice (j.head ++ rest) ((j.head ++ rest).length - rest.length) ((j.head ++ rest).length - 2) =
      rest.take (rest.length - 2) := by
    have hhead : (j.head ++ rest).length - rest.length = j.head.length := by
      rw [List.length_append, Nat.add_sub_cancel]
    rw [slice, hhead, List.drop_take, List.drop_left, List.length_append]
    congr 1
    rw [List.length_append] at hlength
    omega
  unfold fingerprintJpeg
  rw [raiseIf_of_not hcomplete, ok_bind, readMarkers_complete hscan, ok_bind]
  dsimp only
  rw [orRaise_some, ok_bind, j.getLast?_read]
  dsimp only
  rw [raiseIf_of_not hmetadata, ok_bind, htake, sum_countBytes]
  simp only [Jpeg.fingerprint, metadataOf, j.last]
  rfl

/-- A frame that is not made of segments, a scan and its end is refused, unless its SOS segment covers the end. -/
theorem fingerprintJpeg_sound (frame : Bytes) :
    (∃ msg, fingerprintJpeg hashlib frame = .error (.streamIdentificationError msg)) ∨
      ∃ (j : Jpeg) (rest : Bytes), [0xFF, 0xD9] <:+ frame ∧ frame = j.head ++ rest := by
  unfold fingerprintJpeg
  by_cases hcomplete : frame.length < 4 ∨ ¬[0xFF, 0xD8] <+: frame ∨ ¬[0xFF, 0xD9] <:+ frame
  · exact .inl ⟨_, by rw [raiseIf_of hcomplete, error_bind]⟩
  rw [raiseIf_of_not hcomplete, ok_bind]
  obtain ⟨-, hstart, hend⟩ : ¬frame.length < 4 ∧ [0xFF, 0xD8] <+: frame ∧ [0xFF, 0xD9] <:+ frame := by
    simpa only [not_or, not_not] using hcomplete
  obtain ⟨unread, rfl⟩ := hstart
  rcases readMarkers_sound ([0xFF, 0xD8] ++ unread) 2 .initial with ⟨msg, hraised⟩ | ⟨m, hnone⟩ | ⟨segments, sos, rest, hscan⟩
  · exact .inl ⟨msg, by rw [hraised, error_bind]⟩
  · exact .inl ⟨_, by rw [hnone, ok_bind]; rfl⟩
  have hframe : [0xFF, 0xD8] ++ unread = [0xFF, 0xD8] ++ (segments.flatMap Segment.bytes ++ sos.bytes) ++ rest := by
    have hunread : unread = segments.flatMap Segment.bytes ++ (sos.bytes ++ rest) := hscan.unread_eq
    rw [hunread, List.append_assoc, List.append_assoc]
  rw [readMarkers_complete hscan, ok_bind]
  dsimp only
  rw [orRaise_some, ok_bind, foldl_read]
  have hsos : (metadataOf segments).read sos =
      { metadataOf segments with
        markerSequence := (metadataOf segments).markerSequence ++ [markerName sos.marker.toNat] } := by
    unfold Metadata.read
    rw [hscan.scanning]
    rfl
  rw [hsos]
  dsimp only
  by_cases hlacking : (metadataOf segments).width = 0 ∨ (metadataOf segments).height = 0 ∨
      (metadataOf segments).dqtPayloads = []
  · exact .inl ⟨_, by rw [raiseIf_of hlacking, error_bind]⟩
  obtain ⟨hwidth, hheight, hdqt⟩ : (metadataOf segments).width ≠ 0 ∧ (metadataOf segments).height ≠ 0 ∧
      (metadataOf segments).dqtPayloads ≠ [] := by
    simpa only [not_or] using hlacking
  cases hlast : (payloadsOf 0xC0 segments).getLast? with
  | none =>
    simp only [metadataOf, hlast] at hwidth
    exact absurd rfl hwidth
  | some frameHeader =>
    simp only [metadataOf, hlast] at hwidth hheight
    have hquantization : payloadsOf 0xDB segments ≠ [] := hdqt
    exact .inr ⟨⟨segments, sos, hscan.scanning, hscan.before, hquantization, frameHeader, hlast, hwidth, hheight⟩, rest,
      hend, hframe⟩

/-- Frames made of segments, a scan and an end are read back; every other byte string is refused by the tool's
error, except that the SOS segment may cover the end. -/
theorem fingerprintJpeg_law :
    (∀ (j : Jpeg) (scan : Bytes), fingerprintJpeg hashlib (j.frame scan) = .ok (j.fingerprint hashlib scan)) ∧
      ∀ frame : Bytes, (∃ (j : Jpeg) (scan : Bytes), frame = j.frame scan) ∨
        (∃ j : Jpeg, j.Overruns frame ∧ fingerprintJpeg hashlib frame = .ok (j.fingerprint hashlib [])) ∨
        ∃ msg, fingerprintJpeg hashlib frame = .error (.streamIdentificationError msg) := by
  constructor
  · intro j scan
    have hend : [0xFF, 0xD9] <:+ j.frame scan := by
      rw [Jpeg.frame, ← List.append_assoc]
      exact List.suffix_append _ _
    have hread := fingerprintJpeg_of_head hashlib hend
    rw [List.length_append, List.length_cons, List.length_cons, List.length_nil, Nat.zero_add, Nat.add_sub_cancel,
      List.take_left] at hread
    exact hread
  · intro frame
    rcases fingerprintJpeg_sound hashlib frame with hraised | ⟨j, rest, hend, rfl⟩
    · exact .inr (.inr hraised)
    by_cases hshort : rest.length < 2
    · refine .inr (.inl ⟨j, ⟨hend, rest, hshort, rfl⟩, ?_⟩)
      have hread := fingerprintJpeg_of_head hashlib hend
      rw [Nat.sub_eq_zero_of_le (Nat.le_of_lt hshort), List.take_zero] at hread
      exact hread
    · have hsuffix : [0xFF, 0xD9] <:+ rest := by
        apply List.suffix_of_suffix_length_le hend (List.suffix_append _ _)
        exact Nat.le_of_not_lt hshort
      obtain ⟨scan, rfl⟩ := hsuffix
      exact .inl ⟨j, scan, rfl⟩

-- a sixteen by sixteen frame of one component
example : Nonempty Jpeg :=
  ⟨{ segments := [⟨0, 0xDB, [0], by decide, by decide, by decide⟩,
        ⟨1, 0xC0, [8, 0, 16, 0, 16, 1, 1, 0x11, 0], by decide, by decide, by decide⟩]
     sos := ⟨0, 0xDA, [1, 1, 0, 0, 63, 0], by decide, by decide, by decide⟩
     scanning := rfl
     before := by
       simp only [List.forall_mem_cons, List.not_mem_nil, false_implies, implies_true, and_true]
       exact ⟨⟨by decide, nofun, nofun⟩, by decide, fun _ => ⟨1, rfl, rfl⟩, nofun⟩
     quantization := by decide
     frameHeader := [8, 0, 16, 0, 16, 1, 1, 0x11, 0]
     last := by decide
     width_ne := by decide
     height_ne := by decide }⟩

end Frames

end Cc2Camera.StreamIdentify
