import Cc2Camera.Stream.Jpeg

/-!
# Segments — the marker segments of a JPEG frame, and what one iteration reads

`readMarker_sound`: an iteration that goes on has read a segment.  `readMarker_complete`: where the unread
bytes begin with a segment, an iteration reads it.
-/

open Bytes Exceptions

namespace Cc2Camera.StreamIdentify

/-- `0xFF` fill bytes, a marker and, unless it stands alone, a length and a payload. -/
structure Segment where
  fill : Nat
  marker : UInt8
  payload : Bytes
  marker_ne : marker ≠ 0xD9 ∧ marker ≠ 0xFF
  standalone : isStandalone marker.toNat → payload = []
  length_le : payload.length ≤ 65533

/-- Two bytes, the high one first. -/
def bigEndian (n : Nat) : Bytes := (leBytes 2 n).reverse

@[simp] theorem length_bigEndian (n : Nat) : (bigEndian n).length = 2 := by
  rw [bigEndian, List.length_reverse, length_leBytes]

theorem fromBytesBig_bigEndian {n : Nat} (h : n < 2 ^ 16) : fromBytesBig (bigEndian n) = n := by
  rw [fromBytesBig, bigEndian, List.reverse_reverse]
  exact leNat_leBytes h

theorem bigEndian_fromBytesBig {b : Bytes} (h : b.length = 2) : bigEndian (fromBytesBig b) = b := by
  have hlength : b.reverse.length = 2 := by rw [List.length_reverse, h]
  rw [bigEndian, fromBytesBig, ← hlength, leBytes_leNat, List.reverse_reverse]

theorem fromBytesBig_lt {b : Bytes} (h : b.length = 2) : fromBytesBig b < 2 ^ 16 := by
  have hlt := leNat_lt b.reverse
  rw [List.length_reverse, h] at hlt
  exact hlt

namespace Segment

def body (s : Segment) : Bytes :=
  if isStandalone s.marker.toNat then [] else bigEndian (s.payload.length + 2) ++ s.payload

def bytes (s : Segment) : Bytes := List.replicate (s.fill + 1) 0xFF ++ s.marker :: s.body

/-- The payload of a frame header: a component table of the announced size. -/
def HasTable (payload : Bytes) : Prop := ∃ components, payload[5]? = some components ∧
  payload.length = 6 + 3 * components.toNat

/-- What the tool asks of the payloads it looks into. -/
structure WellFormed (s : Segment) : Prop where
  table : s.marker = 0xC0 → HasTable s.payload
  interval : s.marker = 0xDD → s.payload.length = 2

end Segment

/-- The entries of a component table: identifier and sampling factors. -/
def components : Bytes → List (Nat × Nat × Nat)
  | identifier :: factors :: _ :: rest =>
    (identifier.toNat, factors.toNat >>> 4, factors.toNat &&& 0x0F) :: components rest
  | _ => []

/-- Version, units and densities of a JFIF header. -/
def jfifOf (payload : Bytes) : Nat × Nat × Nat × Nat × Nat :=
  ((payload.getD 5 0).toNat, (payload.getD 6 0).toNat, (payload.getD 7 0).toNat,
    fromBytesBig (slice payload 8 10), fromBytesBig (slice payload 10 12))

/-- What a segment changes. -/
def Metadata.read (m : Metadata) (s : Segment) : Metadata :=
  let named := { m with markerSequence := m.markerSequence ++ [markerName s.marker.toNat] }
  if s.marker = 0xDB then { named with dqtPayloads := m.dqtPayloads ++ [s.payload] }
  else if s.marker = 0xC0 then
    { named with
      height := fromBytesBig (slice s.payload 1 3)
      width := fromBytesBig (slice s.payload 3 5)
      sampling := components (s.payload.drop 6) }
  else if s.marker = 0xE0 ∧ isJfif s.payload then { named with jfif := some (jfifOf s.payload) }
  else if s.marker = 0xDD then { named with restartInterval := some (fromBytesBig s.payload) }
  else named

/-! ## Fill bytes -/

theorem skipFill_of_drop {frame rest : Bytes} {pos n : Nat} {b : UInt8} (hb : b ≠ 0xFF)
    (h : frame.drop pos = List.replicate n 0xFF ++ b :: rest) : skipFill frame pos = pos + n := by
  induction n generalizing pos with
  | zero =>
    have hlt : pos < frame.length := by
      by_contra hge
      simp [List.drop_eq_nil_of_le (Nat.le_of_not_lt hge)] at h
    rw [List.drop_eq_getElem_cons hlt] at h
    rw [skipFill, dif_pos hlt, if_neg ((List.cons.inj h).1 ▸ hb)]
    rfl
  | succ n ih =>
    have hlt : pos < frame.length := by
      by_contra hge
      simp [List.drop_eq_nil_of_le (Nat.le_of_not_lt hge), List.replicate_succ] at h
    rw [List.drop_eq_getElem_cons hlt, List.replicate_succ, List.cons_append] at h
    obtain ⟨hfill, hrest⟩ := List.cons.inj h
    rw [skipFill, dif_pos hlt, if_pos hfill, ih hrest]
    omega

/-- The fill bytes passed over, and the byte they end at. -/
theorem drop_eq_fill {frame : Bytes} {pos : Nat} (h : skipFill frame pos < frame.length) :
    ∃ n b, skipFill frame pos = pos + n ∧ b ≠ 0xFF ∧
      frame.drop pos = List.replicate n 0xFF ++ b :: frame.drop (pos + n + 1) := by
  induction pos using skipFill.induct frame with
  | case1 pos hlt hfill ih =>
    rw [skipFill, dif_pos hlt, if_pos hfill] at h ⊢
    obtain ⟨n, b, hskip, hb, hdrop⟩ := ih h
    refine ⟨n + 1, b, by omega, hb, ?_⟩
    rw [List.drop_eq_getElem_cons hlt, hfill, hdrop, List.replicate_succ, List.cons_append]
    congr 4
    omega
  | case2 pos hlt hfill =>
    rw [skipFill, dif_pos hlt, if_neg hfill]
    exact ⟨0, frame[pos], rfl, hfill, List.drop_eq_getElem_cons hlt⟩
  | case3 pos hlt =>
    rw [skipFill, dif_neg hlt] at h
    exact absurd h hlt

/-! ## Payloads -/

theorem indexed_of_lt {data : Bytes} {i : Nat} (h : i < data.length) : indexed data i = .ok data[i].toNat := by
  rw [indexed, List.getElem?_eq_getElem h]
  rfl

theorem indexed_eq_getD {data : Bytes} {i : Nat} (h : i < data.length) :
    indexed data i = .ok (data.getD i 0).toNat := by
  rw [indexed_of_lt h]
  simp [h]

-- three bytes an entry
theorem components_eq (table : Bytes) (n : Nat) (h : table.length = 3 * n) :
    components table = (List.range n).map fun i =>
      ((table.getD (i * 3) 0).toNat, (table.getD (1 + i * 3) 0).toNat >>> 4,
        (table.getD (1 + i * 3) 0).toNat &&& 0x0F) := by
  induction n generalizing table with
  | zero =>
    rw [List.length_eq_zero_iff.mp h]
    rfl
  | succ n ih =>
    match table, h with
    | identifier :: factors :: quantization :: rest, h =>
      have hrest : rest.length = 3 * n := by
        simp only [List.length_cons] at h
        omega
      rw [components, ih rest hrest, List.range_succ_eq_map, List.map_cons, List.map_map]
      congr 1
      apply List.map_congr_left
      intro i _
      have hindex : (i + 1) * 3 = i * 3 + 3 := by omega
      have hindex' : 1 + (i + 1) * 3 = 1 + i * 3 + 3 := by omega
      rw [Function.comp_apply, Nat.succ_eq_add_one, hindex', hindex]
      rfl

/-- Reading a frame header succeeds on a table of the announced size, and raises the tool's error elsewhere. -/
theorem startOfFrame_cases (payload : Bytes) (m : Metadata) :
    (Segment.HasTable payload ∧ startOfFrame payload m = .ok { m with
      height := fromBytesBig (slice payload 1 3)
      width := fromBytesBig (slice payload 3 5)
      sampling := components (payload.drop 6) }) ∨
    (¬Segment.HasTable payload ∧ ∃ msg, startOfFrame payload m = .error (.streamIdentificationError msg)) := by
  unfold startOfFrame
  by_cases hshort : payload.length < 6
  · refine .inr ⟨?_, _, by rw [raiseIf_of hshort, error_bind]⟩
    rintro ⟨n, -, hlength⟩
    omega
  · have hfive : payload[5]? = some payload[5] := List.getElem?_eq_getElem (by omega)
    rw [raiseIf_of_not hshort, ok_bind, indexed_of_lt (by omega), ok_bind]
    by_cases hsize : payload.length = 6 + payload[5].toNat * 3
    · refine .inl ⟨⟨payload[5], hfive, by omega⟩, ?_⟩
      have htable : (payload.drop 6).length = 3 * payload[5].toNat := by
        rw [List.length_drop]
        omega
      rw [raiseIf_of_not (not_not.mpr hsize), ok_bind, components_eq _ _ htable]
      have hread : ∀ i ∈ List.range payload[5].toNat, (do
          let identifier ← indexed payload (6 + i * 3)
          let factors ← indexed payload (7 + i * 3)
          Except.ok (identifier, factors >>> 4, factors &&& 0x0F)) =
          .ok (((payload.drop 6).getD (i * 3) 0).toNat, ((payload.drop 6).getD (1 + i * 3) 0).toNat >>> 4,
            ((payload.drop 6).getD (1 + i * 3) 0).toNat &&& 0x0F) := by
        intro i hi
        rw [List.mem_range] at hi
        have hdrop (k : Nat) : (payload.drop 6).getD k 0 = payload.getD (6 + k) 0 := by
          rw [List.getD_eq_getElem?_getD, List.getElem?_drop, List.getD_eq_getElem?_getD]
        rw [indexed_eq_getD (by omega), ok_bind, indexed_eq_getD (by omega), ok_bind, hdrop, hdrop, ← Nat.add_assoc]
      rw [mapM_of_ok hread, ok_bind]
    · refine .inr ⟨?_, _, by rw [raiseIf_of hsize, error_bind]⟩
      rintro ⟨n, hn, hlength⟩
      rw [hfive] at hn
      obtain rfl := Option.some.inj hn
      omega

theorem jfifFields_of_isJfif {payload : Bytes} (h : isJfif payload) (m : Metadata) :
    jfifFields payload m = .ok { m with jfif := some (jfifOf payload) } := by
  have hlength := h.2
  rw [jfifFields, indexed_eq_getD (by omega), ok_bind, indexed_eq_getD (by omega), ok_bind,
    indexed_eq_getD (by omega), ok_bind]
  rfl

theorem restartInterval_cases (payload : Bytes) (m : Metadata) :
    (payload.length = 2 ∧
      restartInterval payload m = .ok { m with restartInterval := some (fromBytesBig payload) }) ∨
    (payload.length ≠ 2 ∧ ∃ msg, restartInterval payload m = .error (.streamIdentificationError msg)) := by
  unfold restartInterval
  by_cases hlength : payload.length = 2
  · exact .inl ⟨hlength, by rw [raiseIf_of_not (not_not.mpr hlength), ok_bind]⟩
  · exact .inr ⟨hlength, _, by rw [raiseIf_of hlength, error_bind]⟩

theorem marker_eq {b c : UInt8} : b.toNat = c.toNat ↔ b = c := UInt8.toNat_inj

/-- What follows the length of a segment: the segment is well formed and changes the metadata, or the tool's error. -/
theorem readSegment_cases (s : Segment) (pos : Nat) (m : Metadata) :
    (s.WellFormed ∧ readSegment s.marker.toNat s.payload pos
        { m with markerSequence := m.markerSequence ++ [markerName s.marker.toNat] } =
      .ok ⟨pos, s.marker = 0xDA, m.read s⟩) ∨
    (¬s.WellFormed ∧ ∃ msg, readSegment s.marker.toNat s.payload pos
        { m with markerSequence := m.markerSequence ++ [markerName s.marker.toNat] } =
      .error (.streamIdentificationError msg)) := by
  have hdqt : s.marker.toNat = 0xDB ↔ s.marker = 0xDB := marker_eq (c := 0xDB)
  have hsof : s.marker.toNat = 0xC0 ↔ s.marker = 0xC0 := marker_eq (c := 0xC0)
  have hjfif : s.marker.toNat = 0xE0 ↔ s.marker = 0xE0 := marker_eq (c := 0xE0)
  have hdri : s.marker.toNat = 0xDD ↔ s.marker = 0xDD := marker_eq (c := 0xDD)
  have hsos : s.marker.toNat = 0xDA ↔ s.marker = 0xDA := marker_eq (c := 0xDA)
  unfold readSegment Metadata.read
  simp only [hdqt, hsof, hjfif, hdri, hsos]
  by_cases h₁ : s.marker = 0xDB
  · refine .inl ⟨⟨?_, ?_⟩, ?_⟩
    · rw [h₁]
      nofun
    · rw [h₁]
      nofun
    · simp [h₁]
  rw [if_neg h₁, if_neg h₁]
  by_cases h₂ : s.marker = 0xC0
  · rw [if_pos h₂, if_pos h₂]
    rcases startOfFrame_cases s.payload
      { m with markerSequence := m.markerSequence ++ [markerName s.marker.toNat] } with ⟨htable, heq⟩ | ⟨hno, msg, heq⟩
    · refine .inl ⟨⟨fun _ => htable, ?_⟩, ?_⟩
      · rw [h₂]
        nofun
      · rw [heq, h₂]
        rfl
    · exact .inr ⟨fun h => hno (h.table h₂), msg, by rw [heq, error_bind]⟩
  rw [if_neg h₂, if_neg h₂]
  by_cases h₃ : s.marker = 0xE0 ∧ isJfif s.payload
  · refine .inl ⟨⟨?_, ?_⟩, ?_⟩
    · exact fun h => absurd h h₂
    · rw [h₃.1]
      nofun
    · rw [if_pos h₃, if_pos h₃, jfifFields_of_isJfif h₃.2, h₃.1]
      rfl
  rw [if_neg h₃, if_neg h₃]
  by_cases h₄ : s.marker = 0xDD
  · rw [if_pos h₄, if_pos h₄]
    rcases restartInterval_cases s.payload
      { m with markerSequence := m.markerSequence ++ [markerName s.marker.toNat] } with ⟨htwo, heq⟩ | ⟨hno, msg, heq⟩
    · refine .inl ⟨⟨fun h => absurd h h₂, fun _ => htwo⟩, ?_⟩
      rw [heq, h₄]
      rfl
    · exact .inr ⟨fun h => hno (h.interval h₄), msg, by rw [heq, error_bind]⟩
  · rw [if_neg h₄, if_neg h₄]
    exact .inl ⟨⟨fun h => absurd h h₂, fun h => absurd h h₄⟩, rfl⟩

/-! ## One iteration -/

section Iteration

variable {frame rest : Bytes} {pos : Nat} {m : Metadata}

theorem length_of_drop {bytes : Bytes} (h : frame.drop pos = bytes ++ rest) (hne : bytes ≠ []) :
    pos + bytes.length + rest.length = frame.length := by
  have hlength := congrArg List.length h
  have hpos := List.length_pos_iff.mpr hne
  rw [List.length_drop, List.length_append] at hlength
  omega

theorem slice_of_drop {a b : Bytes} {i j : Nat} (h : frame.drop i = a ++ b) (hj : j = i + a.length) :
    slice frame i j = a := by
  rw [slice, hj, List.drop_take, h, Nat.add_sub_cancel_left, List.take_left]

theorem drop_of_drop {a b : Bytes} {i j : Nat} (h : frame.drop i = a ++ b) (hj : j = i + a.length) :
    frame.drop j = b := by
  rw [hj, ← List.drop_drop, h, List.drop_left]

theorem Segment.bytes_ne_nil (s : Segment) : s.bytes ≠ [] := by simp [bytes]

theorem indexed_of_drop {b : UInt8} (h : frame.drop pos = b :: rest) : indexed frame pos = .ok b.toNat := by
  have hget : frame[pos]? = some b := by
    rw [← Nat.add_zero pos, ← List.getElem?_drop, h]
    rfl
  rw [indexed, hget]
  rfl

/-- An iteration that begins at a segment, up to the payload. -/
theorem readMarker_of_segment {s : Segment} (h : frame.drop pos = s.bytes ++ rest) :
    readMarker frame pos m =
      if isStandalone s.marker.toNat then
        .ok ⟨pos + s.bytes.length, false,
          { m with markerSequence := m.markerSequence ++ [markerName s.marker.toNat] }⟩
      else readSegment s.marker.toNat s.payload (pos + s.bytes.length)
        { m with markerSequence := m.markerSequence ++ [markerName s.marker.toNat] } := by
  have hend := length_of_drop h s.bytes_ne_nil
  have hfill : frame.drop pos = List.replicate (s.fill + 1) 0xFF ++ s.marker :: (s.body ++ rest) := by
    rw [h, Segment.bytes, List.append_assoc, List.cons_append]
  have hlength : s.bytes.length = s.fill + 1 + (s.body.length + 1) := by
    rw [Segment.bytes, List.length_append, List.length_replicate, List.length_cons]
  have hmarker : frame.drop (pos + (s.fill + 1)) = s.marker :: (s.body ++ rest) :=
    drop_of_drop hfill (by rw [List.length_replicate])
  have hbody : frame.drop (pos + (s.fill + 1) + 1) = s.body ++ rest := drop_of_drop (a := [s.marker]) hmarker rfl
  have hfirst : indexed frame pos = .ok 0xFF := indexed_of_drop (b := 0xFF) hfill
  unfold readMarker
  rw [hfirst, ok_bind, raiseIf_of_not (not_not.mpr rfl), ok_bind, skipFill_of_drop s.marker_ne.2 hfill]
  dsimp only
  rw [raiseIf_of_not (by omega), ok_bind, indexed_of_drop hmarker, ok_bind]
  by_cases hstandalone : isStandalone s.marker.toNat
  · rw [if_pos hstandalone, if_pos hstandalone]
    have hnone : s.body.length = 0 := by rw [Segment.body, if_pos hstandalone, List.length_nil]
    congr 2
    omega
  · rw [if_neg hstandalone, if_neg hstandalone]
    have hsized : s.body = bigEndian (s.payload.length + 2) ++ s.payload := if_neg hstandalone
    have hsize : s.body.length = s.payload.length + 2 := by
      rw [hsized, List.length_append, length_bigEndian, Nat.add_comm]
    have hdrop : frame.drop (pos + (s.fill + 1) + 1) = bigEndian (s.payload.length + 2) ++ (s.payload ++ rest) := by
      rw [hbody, hsized, List.append_assoc]
    have hannounced : fromBytesBig (slice frame (pos + (s.fill + 1) + 1) (pos + (s.fill + 1) + 1 + 2)) =
        s.payload.length + 2 := by
      have hle := s.length_le
      rw [slice_of_drop hdrop (by rw [length_bigEndian]), fromBytesBig_bigEndian (by omega)]
    have hpayload : frame.drop (pos + (s.fill + 1) + 1 + 2) = s.payload ++ rest :=
      drop_of_drop hdrop (by rw [length_bigEndian])
    have heoi : s.marker.toNat ≠ 0xD9 := fun heq => s.marker_ne.1 (UInt8.toNat_inj.mp heq)
    rw [raiseIf_of_not heoi, ok_bind, raiseIf_of_not (by omega), ok_bind, hannounced, raiseIf_of_not (by omega), ok_bind,
      slice_of_drop hpayload (by omega)]
    congr 1
    omega

theorem ne_of_isStandalone {b c : UInt8} (h : isStandalone b.toNat) (hc : ¬isStandalone c.toNat) : b ≠ c := by
  rintro rfl
  exact hc h

theorem Metadata.read_of_standalone {s : Segment} (h : isStandalone s.marker.toNat) :
    m.read s = { m with markerSequence := m.markerSequence ++ [markerName s.marker.toNat] } := by
  unfold Metadata.read
  rw [if_neg (ne_of_isStandalone h (by decide)), if_neg (ne_of_isStandalone h (by decide)),
    if_neg fun hjfif => ne_of_isStandalone h (by decide) hjfif.1, if_neg (ne_of_isStandalone h (by decide))]

/-- An iteration that begins at a segment: it reads the segment, or the tool's error where that is malformed. -/
theorem readMarker_segment_cases {s : Segment} (h : frame.drop pos = s.bytes ++ rest) :
    (s.WellFormed ∧ readMarker frame pos m = .ok ⟨pos + s.bytes.length, s.marker = 0xDA, m.read s⟩) ∨
    (¬s.WellFormed ∧ ∃ msg, readMarker frame pos m = .error (.streamIdentificationError msg)) := by
  rw [readMarker_of_segment h]
  by_cases hstandalone : isStandalone s.marker.toNat
  · rw [if_pos hstandalone, Metadata.read_of_standalone hstandalone]
    have hsos : s.marker ≠ 0xDA := ne_of_isStandalone hstandalone (by decide)
    have hsof : s.marker ≠ 0xC0 := ne_of_isStandalone hstandalone (by decide)
    have hdri : s.marker ≠ 0xDD := ne_of_isStandalone hstandalone (by decide)
    exact .inl ⟨⟨fun h => absurd h hsof, fun h => absurd h hdri⟩, by rw [decide_eq_false hsos]⟩
  · rw [if_neg hstandalone]
    exact readSegment_cases s _ m

theorem readMarker_complete {s : Segment} (h : frame.drop pos = s.bytes ++ rest) (hs : s.WellFormed) :
    readMarker frame pos m = .ok ⟨pos + s.bytes.length, s.marker = 0xDA, m.read s⟩ := by
  rcases readMarker_segment_cases (m := m) h with ⟨-, heq⟩ | ⟨hno, -⟩
  · exact heq
  · exact absurd hs hno

/-- Where an iteration does not raise the tool's error, the unread bytes begin with a segment. -/
theorem segment_of_readMarker (hpos : pos < frame.length) :
    (∃ msg, readMarker frame pos m = .error (.streamIdentificationError msg)) ∨
      ∃ s rest, frame.drop pos = Segment.bytes s ++ rest := by
  have hfirst : indexed frame pos = .ok frame[pos].toNat := indexed_of_lt hpos
  unfold readMarker
  rw [hfirst, ok_bind]
  by_cases hff : frame[pos] = 0xFF
  swap
  · have hne : frame[pos].toNat ≠ 0xFF := fun heq => hff (UInt8.toNat_inj.mp heq)
    exact .inl ⟨_, by rw [raiseIf_of hne, error_bind]⟩
  have hsame : frame[pos].toNat = 0xFF := congrArg UInt8.toNat hff
  rw [raiseIf_of_not (not_not.mpr hsame), ok_bind]
  dsimp only
  by_cases hend : frame.length ≤ skipFill frame pos
  · exact .inl ⟨_, by rw [raiseIf_of hend, error_bind]⟩
  obtain ⟨n, b, hskip, hb, hdrop⟩ := drop_eq_fill (Nat.lt_of_not_le hend)
  have hmarker : frame.drop (pos + n) = b :: frame.drop (pos + n + 1) :=
    drop_of_drop hdrop (by rw [List.length_replicate])
  rw [raiseIf_of_not hend, ok_bind, hskip, indexed_of_drop hmarker, ok_bind]
  -- the first byte is a fill byte
  obtain ⟨fill, rfl⟩ : ∃ fill, n = fill + 1 := by
    refine Nat.exists_eq_succ_of_ne_zero ?_
    rintro rfl
    rw [List.drop_eq_getElem_cons hpos] at hdrop
    exact hb ((List.cons.inj hdrop).1.symm.trans hff)
  by_cases hstandalone : isStandalone b.toNat
  · have hne : b ≠ 0xD9 := ne_of_isStandalone hstandalone (by decide)
    refine .inr ⟨⟨fill, b, [], ⟨hne, hb⟩, fun _ => rfl, Nat.zero_le _⟩, frame.drop (pos + (fill + 1) + 1), ?_⟩
    rw [hdrop, Segment.bytes, Segment.body, if_pos hstandalone, List.append_assoc]
    rfl
  rw [if_neg hstandalone]
  by_cases heoi : b.toNat = 0xD9
  · exact .inl ⟨_, by rw [raiseIf_of heoi, error_bind]⟩
  rw [raiseIf_of_not heoi, ok_bind]
  by_cases hshort : frame.length < pos + (fill + 1) + 1 + 2
  · exact .inl ⟨_, by rw [raiseIf_of hshort, error_bind]⟩
  rw [raiseIf_of_not hshort, ok_bind]
  generalize hstart : pos + (fill + 1) + 1 = start at *
  have hprefix : (slice frame start (start + 2)).length = 2 := by
    rw [length_slice]
    omega
  have hannounced := fromBytesBig_lt hprefix
  have hencoded := bigEndian_fromBytesBig hprefix
  generalize fromBytesBig (slice frame start (start + 2)) = length at *
  by_cases hlength : length < 2 ∨ frame.length < start + length
  · exact .inl ⟨_, by rw [raiseIf_of hlength, error_bind]⟩
  obtain ⟨htwo, hfits⟩ := not_or.mp hlength
  have hpayload : (slice frame (start + 2) (start + length)).length = length - 2 := by
    rw [length_slice]
    omega
  have hne : b ≠ 0xD9 := fun heq => heoi (congrArg UInt8.toNat heq)
  refine .inr ⟨⟨fill, b, slice frame (start + 2) (start + length), ⟨hne, hb⟩, fun h => absurd h hstandalone, by omega⟩,
    frame.drop (start + length), ?_⟩
  have hsplit : frame.drop start = slice frame start (start + 2) ++
      (slice frame (start + 2) (start + length) ++ frame.drop (start + length)) := by
    rw [← List.append_assoc, slice_append_slice _ (by omega) (by omega), slice, List.drop_take,
      ← List.drop_drop, Nat.add_sub_cancel_left, List.take_append_drop]
  have hsize : bigEndian ((slice frame (start + 2) (start + length)).length + 2) = slice frame start (start + 2) := by
    rw [hpayload, Nat.sub_add_cancel (by omega), hencoded]
  rw [hdrop, Segment.bytes, Segment.body, if_neg hstandalone]
  dsimp only
  rw [hsize, hsplit]
  simp only [List.append_assoc, List.cons_append]

end Iteration

end Cc2Camera.StreamIdentify
