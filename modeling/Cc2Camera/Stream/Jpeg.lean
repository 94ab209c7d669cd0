import Cc2Camera.Python

/-!
# Jpeg — `stream_identify.fingerprint_jpeg`

The frame comes from the network.  An index outside it is the `indexError` Python raises.
-/

open Bytes Exceptions

namespace Cc2Camera.StreamIdentify

inductive StreamExc where
  | streamIdentificationError (msg : String)
  | indexError
  | valueError
  deriving DecidableEq, Repr

def StreamExc.isIdentification : StreamExc → Bool
  | streamIdentificationError _ => true
  | _ => false

structure JpegFingerprint where
  width : Nat
  height : Nat
  sampling : List (Nat × Nat × Nat)
  markerSequence : List String
  dqtSha256 : String
  jfif : Option (Nat × Nat × Nat × Nat × Nat)
  restartInterval : Option Nat
  restartMarkers : Nat
  deriving DecidableEq, Repr

/-- `_marker_name`. -/
def markerName (marker : Nat) : String :=
  if 0xE1 ≤ marker ∧ marker ≤ 0xEF then "APP" ++ toString (marker - 0xE0)
  else match marker with
    | 0xC0 => "SOF0"
    | 0xC2 => "SOF2"
    | 0xC4 => "DHT"
    | 0xD8 => "SOI"
    | 0xD9 => "EOI"
    | 0xDA => "SOS"
    | 0xDB => "DQT"
    | 0xDD => "DRI"
    | 0xE0 => "APP0"
    | _ => "0xFF" ++ (paddedDigits 16 2 marker).toUpper

/-- `data[index]`. -/
def indexed (data : Bytes) (index : Nat) : Except StreamExc Nat :=
  orRaise (data[index]?.map UInt8.toNat) .indexError

/-- `int.from_bytes(data, "big")`. -/
def fromBytesBig (data : Bytes) : Nat := leNat data.reverse

/-- The variables the loop over the markers writes. -/
structure Metadata where
  markerSequence : List String
  dqtPayloads : List Bytes
  width : Nat
  height : Nat
  sampling : List (Nat × Nat × Nat)
  jfif : Option (Nat × Nat × Nat × Nat × Nat)
  restartInterval : Option Nat

def Metadata.initial : Metadata where
  markerSequence := []
  dqtPayloads := []
  width := 0
  height := 0
  sampling := []
  jfif := none
  restartInterval := none

/-- The fields of a baseline frame header. -/
def startOfFrame (payload : Bytes) (m : Metadata) : Except StreamExc Metadata := do
  raiseIf (payload.length < 6) (.streamIdentificationError "truncated baseline JPEG frame header")
  let components ← indexed payload 5
  raiseIf (payload.length ≠ 6 + components * 3)
    (.streamIdentificationError "invalid baseline JPEG component table")
  let sampling ← (List.range components).mapM fun i => do
    let identifier ← indexed payload (6 + i * 3)
    let factors ← indexed payload (7 + i * 3)
    .ok (identifier, factors >>> 4, factors &&& 0x0F)
  .ok { m with
    height := fromBytesBig (slice payload 1 3)
    width := fromBytesBig (slice payload 3 5)
    sampling := sampling }

/-- The fields of a JFIF header of at least twelve bytes. -/
def jfifFields (payload : Bytes) (m : Metadata) : Except StreamExc Metadata := do
  let major ← indexed payload 5
  let minor ← indexed payload 6
  let units ← indexed payload 7
  .ok { m with
    jfif := some (major, minor, units, fromBytesBig (slice payload 8 10), fromBytesBig (slice payload 10 12)) }

def restartInterval (payload : Bytes) (m : Metadata) : Except StreamExc Metadata := do
  raiseIf (payload.length ≠ 2) (.streamIdentificationError "invalid JPEG restart interval")
  .ok { m with restartInterval := some (fromBytesBig payload) }

def isJfif (payload : Bytes) : Prop := (ascii "JFIF\x00").isPrefixOf payload = true ∧ 12 ≤ payload.length

instance (payload : Bytes) : Decidable (isJfif payload) := inferInstanceAs (Decidable (_ ∧ _))

def isStandalone (marker : Nat) : Prop := (0xD0 ≤ marker ∧ marker < 0xD8) ∨ marker = 0x01

instance (marker : Nat) : Decidable (isStandalone marker) := inferInstanceAs (Decidable (_ ∨ _))

/-- Where an iteration of the loop leaves the cursor, and whether it broke out of the loop. -/
structure Position where
  pos : Nat
  scanning : Bool
  metadata : Metadata

-- the chain of `elif`s after a segment
def readSegment (marker : Nat) (payload : Bytes) (pos : Nat) (m : Metadata) : Except StreamExc Position :=
  if marker = 0xDB then .ok ⟨pos, false, { m with dqtPayloads := m.dqtPayloads ++ [payload] }⟩
  else if marker = 0xC0 then do
    let m ← startOfFrame payload m
    .ok ⟨pos, false, m⟩
  else if marker = 0xE0 ∧ isJfif payload then do
    let m ← jfifFields payload m
    .ok ⟨pos, false, m⟩
  else if marker = 0xDD then do
    let m ← restartInterval payload m
    .ok ⟨pos, false, m⟩
  else .ok ⟨pos, marker = 0xDA, m⟩

/-- `while pos < len(frame) and frame[pos] == 0xFF: pos += 1`. -/
def skipFill (frame : Bytes) (pos : Nat) : Nat :=
  if h : pos < frame.length then
    if frame[pos] = 0xFF then skipFill frame (pos + 1) else pos
  else pos
termination_by frame.length - pos

/-- An iteration of the loop over the markers. -/
def readMarker (frame : Bytes) (pos : Nat) (m : Metadata) : Except StreamExc Position := do
  let first ← indexed frame pos
  raiseIf (first ≠ 0xFF) (.streamIdentificationError "invalid JPEG marker structure before scan data")
  let pos := skipFill frame pos
  raiseIf (frame.length ≤ pos) (.streamIdentificationError "truncated JPEG marker")
  let marker ← indexed frame pos
  let pos := pos + 1
  if isStandalone marker then
    .ok ⟨pos, false, { m with markerSequence := m.markerSequence ++ [markerName marker] }⟩
  else do
    raiseIf (marker = 0xD9) (.streamIdentificationError "JPEG ended before a scan")
    raiseIf (frame.length < pos + 2) (.streamIdentificationError "truncated JPEG segment length")
    let length := fromBytesBig (slice frame pos (pos + 2))
    raiseIf (length < 2 ∨ frame.length < pos + length)
      (.streamIdentificationError "invalid JPEG segment length")
    let payload := slice frame (pos + 2) (pos + length)
    readSegment marker payload (pos + length)
      { m with markerSequence := m.markerSequence ++ [markerName marker] }

theorem le_skipFill (frame : Bytes) (pos : Nat) : pos ≤ skipFill frame pos := by
  induction pos using skipFill.induct frame with
  | case1 pos h hfill ih =>
    rw [skipFill, dif_pos h, if_pos hfill]
    exact Nat.le_of_succ_le ih
  | case2 pos h hfill => rw [skipFill, dif_pos h, if_neg hfill]
  | case3 pos h => rw [skipFill, dif_neg h]

theorem readSegment_pos {marker pos : Nat} {payload : Bytes} {m : Metadata} {p : Position}
    (h : readSegment marker payload pos m = .ok p) : p.pos = pos := by
  unfold readSegment at h
  split at h
  · cases h
    rfl
  split at h
  · obtain ⟨_, _, h⟩ := bind_eq_ok.mp h
    cases h
    rfl
  split at h
  · obtain ⟨_, _, h⟩ := bind_eq_ok.mp h
    cases h
    rfl
  split at h
  · obtain ⟨_, _, h⟩ := bind_eq_ok.mp h
    cases h
    rfl
  · cases h
    rfl

/-- The cursor advances, whatever the frame holds. -/
theorem lt_of_readMarker {frame : Bytes} {pos : Nat} {m : Metadata} {p : Position}
    (h : readMarker frame pos m = .ok p) : pos < p.pos := by
  have hfill := le_skipFill frame pos
  obtain ⟨_, _, h⟩ := bind_eq_ok.mp h
  obtain ⟨_, _, h⟩ := bind_eq_ok.mp h
  obtain ⟨_, _, h⟩ := bind_eq_ok.mp h
  obtain ⟨marker, _, h⟩ := bind_eq_ok.mp h
  dsimp only at h
  split at h
  · cases h
    exact Nat.lt_succ_of_le hfill
  · obtain ⟨_, _, h⟩ := bind_eq_ok.mp h
    obtain ⟨_, _, h⟩ := bind_eq_ok.mp h
    obtain ⟨_, _, h⟩ := bind_eq_ok.mp h
    rw [readSegment_pos h]
    omega

/-- The loop over the markers: where the scan starts, if the loop has found it. -/
def readMarkers (frame : Bytes) (pos : Nat) (m : Metadata) : Except StreamExc (Option Nat × Metadata) :=
  if pos < frame.length - 2 then
    match _ : readMarker frame pos m with
    | .error e => .error e
    | .ok p =>
      if p.scanning then .ok (some p.pos, p.metadata) else readMarkers frame p.pos p.metadata
  else .ok (none, m)
termination_by frame.length - pos
decreasing_by
  have hadvances := lt_of_readMarker ‹readMarker frame pos m = .ok _›
  omega

def fingerprintJpeg (hashlib : Hashlib) (frame : Bytes) : Except StreamExc JpegFingerprint := do
  raiseIf (frame.length < 4 ∨ ¬[0xFF, 0xD8] <+: frame ∨ ¬[0xFF, 0xD9] <:+ frame)
    (.streamIdentificationError "stream frame is not a complete JPEG")
  let (scanStart, m) ← readMarkers frame 2 .initial
  let lacking := .streamIdentificationError "JPEG lacks required baseline encoder metadata"
  let start ← orRaise scanStart lacking
  raiseIf (m.width = 0 ∨ m.height = 0 ∨ m.dqtPayloads = []) lacking
  let scan := slice frame start (frame.length - 2)
  let restartMarkers :=
    ((List.range' 0xD0 8).map fun marker => countBytes [0xFF, UInt8.ofNat marker] scan.length scan).sum
  .ok {
    width := m.width
    height := m.height
    sampling := m.sampling
    markerSequence := m.markerSequence
    dqtSha256 := hashlib.sha256 m.dqtPayloads.flatten
    jfif := m.jfif
    restartInterval := m.restartInterval
    restartMarkers := restartMarkers }

end Cc2Camera.StreamIdentify
