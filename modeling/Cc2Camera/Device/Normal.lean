import Cc2Camera.Device.Protocol
import Cc2Camera.Lib.Crc

/-!
# Normal — the Linux-mode HID reports of `protocol.py`

A report is a header of twelve bytes, a CRC over that header and the payload, the payload, and
padding.  Every accepted report is the report rebuilt from its frame up to the padding
(`normalReport_roundTrip`), and no single flipped bit outside the type, the length and the padding
passes the CRC (`parseNormalReport_flipped`).
-/

open Bytes Exceptions

namespace Cc2Camera.Protocol

def NORMAL_MAGIC : Bytes := [0x5A, 0x5A]

/-- `hid_update`'s CRC: right shifts with the polynomial not reflected. -/
def crc16Normal (data : Bytes) : Nat := (Crc.run 0x1021#16 0xFFFF#16 data).toNat

structure NormalFrame where
  command : Nat
  frameType : Nat
  status : Nat
  payload : Bytes
  deriving DecidableEq, Repr

-- report ID, magic, command, frame type, payload length and status
def normalFields (command : Nat) (payload : Bytes) (frameType status : Nat) : List (Nat × Nat) :=
  [(1, 1), (2, 0x5A5A), (2, command), (1, frameType), (2, payload.length), (4, status)]

def buildNormalReport (command : Nat) (payload : Bytes) (frameType status : Nat) :
    Except Exc Bytes := do
  raiseIf (¬command ≤ 0xFFFF) (.protocolError "normal-mode command must fit in 16 bits")
  raiseIf (¬(frameType = 1 ∨ frameType = 2))
    (.protocolError "payload-bearing normal frame type must be 1 or 2")
  raiseIf (NORMAL_REPORT_SIZE - 14 < payload.length)
    (.protocolError "normal-mode payload is too large")
  let head ← packAll (normalFields command payload frameType status)
  .ok (head ++ leBytes 2 (crc16Normal (head ++ payload)) ++ payload ++
    List.replicate (NORMAL_REPORT_SIZE - 14 - payload.length) 0)

-- some backends strip the report ID
def withReportId (report : Bytes) : Bytes :=
  if report.length = NORMAL_REPORT_SIZE - 1 ∧ slice report 0 2 = NORMAL_MAGIC then 1 :: report
  else report

-- what the CRC of a whole report is computed over
def crcInput (report : Bytes) (frameType : Nat) (payload : Bytes) : Bytes :=
  slice report 0 12 ++ if frameType = 1 ∨ frameType = 2 then payload else []

def parseNormalReport (report : Bytes) : Except Exc NormalFrame := do
  let report := withReportId report
  raiseIf (report.length < 14) (.protocolError "short normal-mode report")
  raiseIf (u8 report 0 ≠ 1) (.protocolError "unexpected normal-mode report ID")
  raiseIf (slice report 1 3 ≠ NORMAL_MAGIC) (.protocolError "bad normal-mode magic")
  let frameType := u8 report 5
  let length := u16 report 6
  raiseIf (report.length < 14 + length) (.protocolError "normal-mode payload length exceeds report")
  let payload := slice report 14 (14 + length)
  raiseIf (crc16Normal (crcInput report frameType payload) ≠ u16 report 12)
    (.protocolError "normal-mode CRC mismatch")
  .ok { command := u16 report 3, frameType := frameType, status := u32 report 8, payload := payload }

/-! ## What is accepted -/

/-- What stands where in a report that is accepted. -/
structure NormalAccepted (report : Bytes) (frame : NormalFrame) : Prop where
  id : u8 report 0 = 1
  magic : slice report 1 3 = NORMAL_MAGIC
  command : u16 report 3 = frame.command
  type : u8 report 5 = frame.frameType
  size : u16 report 6 = frame.payload.length
  status : u32 report 8 = frame.status
  payload : slice report 14 (14 + frame.payload.length) = frame.payload
  crc : crc16Normal (crcInput report frame.frameType frame.payload) = u16 report 12
  fits : 14 + frame.payload.length ≤ report.length

theorem parseNormalReport_eq_ok {report : Bytes} {frame : NormalFrame} :
    parseNormalReport report = .ok frame ↔ NormalAccepted (withReportId report) frame := by
  simp only [parseNormalReport, bind_eq_ok, raiseIf_eq_ok, not_not, exists_const, not_lt,
    Except.ok.injEq]
  constructor
  · rintro ⟨-, hid, hmagic, hfits, hcrc, rfl⟩
    have hlength : (slice (withReportId report) 14 (14 + u16 (withReportId report) 6)).length =
        u16 (withReportId report) 6 := by
      rw [length_slice]
      omega
    exact ⟨hid, hmagic, rfl, rfl, hlength.symm, rfl, by rw [hlength], hcrc, by rw [hlength]; exact hfits⟩
  · intro h
    have hfits := h.fits
    refine ⟨by omega, h.id, h.magic, by rw [h.size]; exact hfits, ?_, ?_⟩
    · rw [h.size, h.payload, h.type]
      exact h.crc
    · rw [h.command, h.type, h.status, h.size, h.payload]

theorem parseNormalReport_raisesOnly (report : Bytes) :
    RaisesOnly (fun e => ∃ msg, e = .protocolError msg) (parseNormalReport report) := by
  unfold parseNormalReport
  apply raisesOnly_guard fun _ => ⟨_, rfl⟩
  intro _
  apply raisesOnly_guard fun _ => ⟨_, rfl⟩
  intro _
  apply raisesOnly_guard fun _ => ⟨_, rfl⟩
  intro _
  apply raisesOnly_guard fun _ => ⟨_, rfl⟩
  intro _
  apply raisesOnly_guard fun _ => ⟨_, rfl⟩
  intro _
  exact raisesOnly_ok _

theorem withReportId_of_length {report : Bytes} (h : report.length ≠ NORMAL_REPORT_SIZE - 1) :
    withReportId report = report := by
  unfold withReportId
  rw [if_neg fun hshort => h hshort.1]

/-! ## Round trips -/

theorem getElem?_of_id {report : Bytes} (h : u8 report 0 = 1) : report[0]? = some 1 := by
  cases report with
  | nil => exact absurd h (by decide)
  | cons b rest =>
    have hb : b.toNat + 256 * 0 = 1 := h
    have hone : b = 1 := UInt8.toNat_inj.mp hb
    rw [hone]
    rfl

theorem length_normalHead (command : Nat) (payload : Bytes) (frameType status : Nat) :
    (leFields (normalFields command payload frameType status)).length = 12 := by
  rw [length_leFields]
  rfl

section Built

variable {command frameType status : Nat} {payload : Bytes}

/-- The report that is built, with anything behind its payload. -/
theorem normalAccepted_built (padding : Bytes) (hcommand : command < 2 ^ 16)
    (htype : frameType = 1 ∨ frameType = 2) (hstatus : status < 2 ^ 32)
    (hpayload : payload.length < 2 ^ 16) :
    NormalAccepted
      (leFields (normalFields command payload frameType status) ++
        leBytes 2 (crc16Normal (leFields (normalFields command payload frameType status) ++ payload)) ++
          payload ++ padding)
      { command := command, frameType := frameType, status := status, payload := payload } := by
  have hhead := length_normalHead command payload frameType status
  generalize hfields : leFields (normalFields command payload frameType status) = head at hhead ⊢
  have htypeFits : frameType < 256 ^ 1 := by omega
  have hcrcFits : crc16Normal (head ++ payload) < 256 ^ 2 := (Crc.run _ _ _).isLt
  generalize hcrc : crc16Normal (head ++ payload) = crc at hcrcFits ⊢
  generalize hreport : head ++ leBytes 2 crc ++ payload ++ padding = report
  have hwhole : report = head ++ (leBytes 2 crc ++ (payload ++ padding)) := by
    rw [← hreport, List.append_assoc, List.append_assoc]
  have hfront : slice report 0 12 = head := by
    rw [← hhead]
    exact slice_of_append (a := []) hwhole rfl (Nat.zero_add _)
  have hslice : slice report 0 (0 + (leFields (normalFields command payload frameType status) ++
      []).length) = leFields (normalFields command payload frameType status) ++ [] := by
    rw [List.append_nil, hfields, hhead, hfront]
  have hread {k w v : Nat} (hk : (normalFields command payload frameType status)[k]? = some (w, v))
      (hv : v < 256 ^ w) :=
    leNat_field_at hslice hk hv
  have hbody : slice report 14 (14 + payload.length) = payload := by
    apply slice_of_append (a := head ++ leBytes 2 crc) (c := padding) _ _ rfl
    · rw [← hreport, List.append_assoc, List.append_assoc]
    · rw [List.length_append, hhead, length_leBytes]
  have hstored : u16 report 12 = crc := by
    unfold u16
    rw [slice_of_append hwhole hhead (by rw [length_leBytes]), leNat_leBytes hcrcFits]
  refine
    { id := hread (k := 0) rfl (by decide)
      magic := ?_
      command := hread (k := 2) rfl hcommand
      type := hread (k := 3) rfl htypeFits
      size := hread (k := 4) rfl hpayload
      status := hread (k := 5) rfl hstatus
      payload := hbody
      crc := ?_
      fits := ?_ }
  · apply leNat_inj
    · rw [length_slice, ← hreport]
      simp only [List.length_append, hhead, length_leBytes]
      show min 3 _ - 1 = 2
      omega
    · exact hread (k := 1) rfl (by decide)
  · show crc16Normal (crcInput report frameType payload) = _
    rw [crcInput, hfront, if_pos htype, hcrc, hstored]
  · show 14 + payload.length ≤ _
    rw [← hreport]
    simp only [List.length_append, hhead, length_leBytes]
    omega

theorem buildNormalReport_eq (hcommand : command < 2 ^ 16) (htype : frameType = 1 ∨ frameType = 2)
    (hstatus : status < 2 ^ 32) (hpayload : payload.length ≤ 1010) :
    buildNormalReport command payload frameType status =
      .ok (leFields (normalFields command payload frameType status) ++
        leBytes 2 (crc16Normal (leFields (normalFields command payload frameType status) ++ payload)) ++
          payload ++ List.replicate (1010 - payload.length) 0) := by
  have hfits : packAll (normalFields command payload frameType status) =
      .ok (leFields (normalFields command payload frameType status)) := by
    rw [packAll_eq_ok]
    simp only [normalFields, List.forall_mem_cons, List.not_mem_nil, false_implies, implies_true,
      and_true]
    omega
  have hsize : NORMAL_REPORT_SIZE = 1024 := rfl
  have hpad : NORMAL_REPORT_SIZE - 14 - payload.length = 1010 - payload.length := by omega
  rw [buildNormalReport, raiseIf_of_not (by omega), ok_bind, raiseIf_of_not (by omega), ok_bind,
    raiseIf_of_not (by omega), ok_bind, hfits, ok_bind, hpad]

end Built

/-- The head of an accepted report is the head rebuilt from its frame. -/
theorem head_of_accepted {report : Bytes} {frame : NormalFrame} (h : NormalAccepted report frame) :
    slice report 0 12 =
      leFields (normalFields frame.command frame.payload frame.frameType frame.status) := by
  have hfits := h.fits
  have hword (i w : Nat) (hw : i + w ≤ 12) :
      leBytes w (leNat (slice report i (i + w))) = slice report i (i + w) := by
    have hlength : (slice report i (i + w)).length = w := by
      rw [length_slice]
      omega
    have hbytes := leBytes_leNat (slice report i (i + w))
    rw [hlength] at hbytes
    exact hbytes
  have hid : slice report 0 1 = leBytes 1 1 := by
    rw [← hword 0 1 (by decide)]
    exact congrArg (leBytes 1) h.id
  have hcommand : slice report 3 5 = leBytes 2 frame.command := by
    rw [← h.command]
    exact (hword 3 2 (by decide)).symm
  have htype : slice report 5 6 = leBytes 1 frame.frameType := by
    rw [← h.type]
    exact (hword 5 1 (by decide)).symm
  have hsize : slice report 6 8 = leBytes 2 frame.payload.length := by
    rw [← h.size]
    exact (hword 6 2 (by decide)).symm
  have hstatus : slice report 8 12 = leBytes 4 frame.status := by
    rw [← h.status]
    exact (hword 8 4 (by decide)).symm
  have hmagic : slice report 1 3 = leBytes 2 0x5A5A := h.magic
  rw [← slice_append_slice report (j := 8) (by decide) (by decide),
    ← slice_append_slice report (i := 0) (j := 6) (by decide) (by decide),
    ← slice_append_slice report (i := 0) (j := 5) (by decide) (by decide),
    ← slice_append_slice report (i := 0) (j := 3) (by decide) (by decide),
    ← slice_append_slice report (i := 0) (j := 1) (by decide) (by decide),
    hid, hmagic, hcommand, htype, hsize, hstatus]
  simp only [normalFields, leFields_cons, leFields_nil, List.append_assoc, List.append_nil]

/-- Rebuilding an accepted report gives it back with its padding zeroed. -/
theorem buildNormalReport_accepted {report : Bytes} {frame : NormalFrame}
    (hlength : report.length = NORMAL_REPORT_SIZE) (h : NormalAccepted report frame)
    (htype : frame.frameType = 1 ∨ frame.frameType = 2) :
    buildNormalReport frame.command frame.payload frame.frameType frame.status =
      .ok (report.take (14 + frame.payload.length) ++
        List.replicate (1010 - frame.payload.length) 0) := by
  have hsize : NORMAL_REPORT_SIZE = 1024 := rfl
  have hfits := h.fits
  have hcommand : frame.command < 2 ^ 16 := by
    rw [← h.command]
    exact u16_lt report 3
  have hstatus : frame.status < 2 ^ 32 := by
    rw [← h.status]
    exact u32_lt report 8
  have hstored : (slice report 12 14).length = 2 := by
    rw [length_slice]
    omega
  have hcrc : leBytes 2 (crc16Normal (slice report 0 12 ++ frame.payload)) = slice report 12 14 := by
    have hcheck := h.crc
    have hbytes := leBytes_leNat (slice report 12 14)
    rw [crcInput, if_pos htype] at hcheck
    rw [hstored] at hbytes
    rw [hcheck]
    exact hbytes
  rw [buildNormalReport_eq hcommand htype hstatus (by omega), ← head_of_accepted h, hcrc,
    slice_append_slice report (by decide) (by decide)]
  conv_lhs => rw [← h.payload]
  rw [slice_append_slice report (by decide) (by omega), slice_zero, h.payload]

theorem normalReport_roundTrip :
    (∀ (command status frameType : Nat) (payload : Bytes), command < 2 ^ 16 → status < 2 ^ 32 →
      frameType = 1 ∨ frameType = 2 → payload.length ≤ 1010 →
        ∃ report, buildNormalReport command payload frameType status = .ok report ∧
          report.length = NORMAL_REPORT_SIZE ∧
          parseNormalReport report = .ok ⟨command, frameType, status, payload⟩ ∧
          parseNormalReport (report.drop 1) = .ok ⟨command, frameType, status, payload⟩) ∧
    ∀ (report : Bytes) (frame : NormalFrame), report.length = NORMAL_REPORT_SIZE →
      parseNormalReport report = .ok frame → frame.frameType = 1 ∨ frame.frameType = 2 →
        buildNormalReport frame.command frame.payload frame.frameType frame.status =
          .ok (report.take (14 + frame.payload.length) ++
            List.replicate (1010 - frame.payload.length) 0) := by
  have hsize : NORMAL_REPORT_SIZE = 1024 := rfl
  constructor
  · intro command status frameType payload hcommand hstatus htype hpayload
    have haccepted := normalAccepted_built (List.replicate (1010 - payload.length) 0) hcommand htype
      hstatus (show payload.length < 2 ^ 16 by omega)
    have hbuilt := buildNormalReport_eq hcommand htype hstatus hpayload
    have hhead := length_normalHead command payload frameType status
    generalize hreport : leFields (normalFields command payload frameType status) ++
      leBytes 2 (crc16Normal (leFields (normalFields command payload frameType status) ++ payload)) ++
        payload ++ List.replicate (1010 - payload.length) 0 = report at haccepted hbuilt
    have hlength : report.length = NORMAL_REPORT_SIZE := by
      rw [← hreport]
      simp only [List.length_append, hhead, length_leBytes, List.length_replicate]
      omega
    refine ⟨report, hbuilt, hlength, ?_, ?_⟩
    · rw [parseNormalReport_eq_ok, withReportId_of_length (by omega)]
      exact haccepted
    · -- the stripped report is recognised by its length and its magic, and gets its ID back
      have hid : report = 1 :: report.drop 1 := by
        have hfirst := getElem?_of_id haccepted.id
        rw [← List.singleton_append, ← Option.toList_some, ← hfirst, ← List.head?_eq_getElem?,
          ← List.take_one, List.take_append_drop]
      have hmagic : slice (report.drop 1) 0 2 = NORMAL_MAGIC := by
        rw [← haccepted.magic, slice, slice, List.drop_zero, List.take_drop]
      rw [parseNormalReport_eq_ok, withReportId,
        if_pos ⟨by rw [List.length_drop, hlength], hmagic⟩, ← hid]
      exact haccepted
  · intro report frame hlength hparse htype
    rw [parseNormalReport_eq_ok, withReportId_of_length (by omega)] at hparse
    exact buildNormalReport_accepted hlength hparse htype

/-! ## Flipped bits -/

/-- The register differences that shifts run into zero: the polynomial is divisible by `x ^ 3`. -/
def vanishing : List Nat := [0, 0x2043, 0x4086, 0x60C5, 0x810C, 0xA14F, 0xC18A, 0xE1C9]

/-- A register is known from its half and its low bit. -/
theorem vanishing_closed : ∀ n ∈ vanishing, (2 * n < 0x10000 → 2 * n ∈ vanishing) ∧
    (2 * (n ^^^ 0x1021) + 1 < 0x10000 → 2 * (n ^^^ 0x1021) + 1 ∈ vanishing) := by
  decide

theorem mem_vanishing_of_shift {d : BitVec 16} (h : (Crc.shift 0x1021#16 d).toNat ∈ vanishing) :
    d.toNat ∈ vanishing := by
  have hhalf : (d >>> 1).toNat = d.toNat / 2 := BitVec.toNat_ushiftRight d 1
  have hlow := Crc.toNat_mod_two d
  have hlt : d.toNat < 0x10000 := d.isLt
  unfold Crc.shift at h
  cases hbit : d.getLsbD 0 with
  | false =>
    rw [hbit, if_neg Bool.false_ne_true, hhalf] at h
    rw [hbit, Bool.toNat_false] at hlow
    have hdouble : 2 * (d.toNat / 2) = d.toNat := by omega
    have hmem := (vanishing_closed _ h).1
    rw [hdouble] at hmem
    exact hmem hlt
  | true =>
    rw [hbit, if_pos rfl, BitVec.toNat_xor, hhalf] at h
    rw [hbit, Bool.toNat_true] at hlow
    have hback : d.toNat / 2 ^^^ (0x1021#16).toNat ^^^ 0x1021 = d.toNat / 2 := by
      show d.toNat / 2 ^^^ 0x1021 ^^^ 0x1021 = _
      rw [Nat.xor_assoc, Nat.xor_self, Nat.xor_zero]
    have hdouble : 2 * (d.toNat / 2) + 1 = d.toNat := by omega
    have hmem := (vanishing_closed _ h).2
    rw [hback, hdouble] at hmem
    exact hmem hlt

theorem kept_not_vanishing : Crc.Kept 0x1021#16 (fun d => d.toNat ∉ vanishing) where
  shift _ hd h := hd (mem_vanishing_of_shift h)
  ne_zero h := h List.mem_cons_self

theorem crc16Normal_set_ne {data : Bytes} {k : Nat} {x : UInt8} (hk : k < data.length)
    (hx : (data[k] ^^^ x).toNat ∉ vanishing) :
    crc16Normal (data.set k x) ≠ crc16Normal data := by
  intro h
  apply Crc.run_set_ne kept_not_vanishing 0xFFFF#16 hk _ (BitVec.eq_of_toNat_eq h)
  show ((data[k] ^^^ x).toBitVec.setWidth 16).toNat ∉ vanishing
  rw [BitVec.toNat_setWidth, Nat.mod_eq_of_lt]
  · exact hx
  · have hbyte := (data[k] ^^^ x).toNat_lt
    show (data[k] ^^^ x).toNat < 2 ^ 16
    omega

section Changed

variable {report : Bytes} {frame : NormalFrame} {k : Nat} {x : UInt8}

/-- What the CRC reads of a report with one of its bytes changed. -/
theorem crcInput_set (h : NormalAccepted report frame) (htype : frame.frameType = 1 ∨ frame.frameType = 2)
    (hk : k < 12 ∨ 14 ≤ k) :
    crcInput (report.set k x) frame.frameType
        (slice (report.set k x) 14 (14 + frame.payload.length)) =
      (crcInput report frame.frameType frame.payload).set (if k < 12 then k else k - 2) x := by
  have hfits := h.fits
  have hlength : (slice report 0 12).length = 12 := by
    rw [length_slice]
    omega
  unfold crcInput
  rw [if_pos htype, if_pos htype]
  by_cases hhead : k < 12
  · rw [if_pos hhead, slice_set_inside _ _ (Nat.zero_le k) hhead, slice_set_outside _ _ (by omega),
      h.payload, List.set_append_left _ _ (by omega), Nat.sub_zero]
  · rw [if_neg hhead, slice_set_outside _ _ (by omega), List.set_append_right _ _ (by omega), hlength]
    by_cases hbody : k < 14 + frame.payload.length
    · have hindex : k - 2 - 12 = k - 14 := by omega
      rw [slice_set_inside _ _ (by omega) hbody, h.payload, hindex]
    · rw [slice_set_outside _ _ (by omega), h.payload, List.set_eq_of_length_le (by omega)]

theorem getElem_crcInput (h : NormalAccepted report frame)
    (htype : frame.frameType = 1 ∨ frame.frameType = 2) (hk : k < 12 ∨ 14 ≤ k)
    (hbody : k < 14 + frame.payload.length) :
    (crcInput report frame.frameType frame.payload)[if k < 12 then k else k - 2]? = report[k]? := by
  have hfits := h.fits
  have hlength : (slice report 0 12).length = 12 := by
    rw [length_slice]
    omega
  unfold crcInput
  rw [if_pos htype]
  by_cases hhead : k < 12
  · rw [if_pos hhead, List.getElem?_append_left (by omega), getElem?_slice, if_pos (by omega),
      Nat.zero_add]
  · have hindex : 14 + (k - 2 - 12) = k := by omega
    rw [if_neg hhead, List.getElem?_append_right (by omega), hlength, ← h.payload, getElem?_slice,
      if_pos (by omega), hindex]

/-- A byte the checks read, changed by a difference the CRC keeps, is noticed. -/
theorem not_accepted_set {frame' : NormalFrame} (h : NormalAccepted report frame)
    (htype : frame.frameType = 1 ∨ frame.frameType = 2) (hk : k < report.length)
    (hbody : k < 14 + frame.payload.length) (hlayout : k ≠ 5 ∧ k ≠ 6 ∧ k ≠ 7)
    (hx : (report[k] ^^^ x).toNat ∉ vanishing) :
    ¬NormalAccepted (report.set k x) frame' := by
  intro h'
  have hfits := h.fits
  have hne : x ≠ report[k] := by
    intro heq
    apply hx
    rw [heq, UInt8.xor_self]
    exact List.mem_cons_self
  have htype' : frame'.frameType = frame.frameType := by
    rw [← h.type, ← h'.type, u8_set_outside _ _ hlayout.1]
  have hsize : frame'.payload.length = frame.payload.length := by
    rw [← h.size, ← h'.size, u16_set_outside _ _ (by omega)]
  have hpayload := h'.payload
  have hcrc := h'.crc
  rw [htype', ← hpayload, hsize] at hcrc
  by_cases hid : k = 0
  · apply slice_set_ne (i := 0) (j := 1) hk (by omega) (by omega) hne
    apply leNat_inj
    · rw [length_slice, length_slice, List.length_set]
    · exact h'.id.trans h.id.symm
  by_cases hmagic : k < 3
  · exact slice_set_ne hk (by omega) hmagic hne (h'.magic.trans h.magic.symm)
  by_cases hcovered : k < 12 ∨ 14 ≤ k
  · rw [crcInput_set h htype hcovered, u16_set_outside _ _ (by omega), ← h.crc] at hcrc
    have hget := getElem_crcInput h htype hcovered hbody
    rw [List.getElem?_eq_getElem hk] at hget
    have hread := List.getElem?_eq_some_iff.mp hget
    apply crc16Normal_set_ne hread.1 _ hcrc
    rw [hread.2]
    exact hx
  · have hfront : slice (report.set k x) 0 12 = slice report 0 12 := slice_set_outside _ _ (by omega)
    have hback : slice (report.set k x) 14 (14 + frame.payload.length) = frame.payload := by
      rw [slice_set_outside _ _ (by omega), h.payload]
    rw [crcInput, hfront, hback, ← crcInput, h.crc] at hcrc
    apply slice_set_ne (i := 12) (j := 14) hk (by omega) (by omega) hne
    apply leNat_inj
    · rw [length_slice, length_slice, List.length_set]
    · exact hcrc.symm

end Changed

/-- The report with bit `bit` of byte `k` inverted. -/
def flipBit (report : Bytes) (k bit : Nat) : Bytes := report.modify k (· ^^^ UInt8.ofNat (2 ^ bit))

/-- Where byte `k` of what was received stands in the report with its ID. -/
def wholeIndex (report : Bytes) (k : Nat) : Nat := k + ((withReportId report).length - report.length)

theorem flipBit_eq_set {report : Bytes} {k : Nat} (bit : Nat) (hk : k < report.length) :
    flipBit report k bit = report.set k (report[k] ^^^ UInt8.ofNat (2 ^ bit)) := by
  apply List.ext_getElem?
  intro m
  rw [flipBit, List.getElem?_modify, List.getElem?_set]
  by_cases hm : k = m
  · rw [← hm, if_pos rfl, if_pos hk, List.getElem?_eq_getElem hk]
    simp only [if_true, Option.map_eq_map, Option.map_some]
  · rw [if_neg hm]
    simp only [if_neg hm, Option.map_eq_map, Option.map_id_fun', id_eq]

theorem bit_not_vanishing : ∀ bit < 8, (UInt8.ofNat (2 ^ bit)).toNat ∉ vanishing := by
  decide

theorem flipped_magic_ne : ∀ bit < 8, 0x5A ^^^ UInt8.ofNat (2 ^ bit) ≠ (1 : UInt8) ∧
    1 ^^^ UInt8.ofNat (2 ^ bit) ≠ (0x5A : UInt8) := by
  decide

/-- A changed byte that leaves the report stripped of its ID, or whole, as it was. -/
theorem withReportId_set {report : Bytes} {k : Nat} {x : UInt8}
    (h : report.length = NORMAL_REPORT_SIZE - 1 →
      (slice (report.set k x) 0 2 = NORMAL_MAGIC ↔ slice report 0 2 = NORMAL_MAGIC)) :
    withReportId (report.set k x) = (withReportId report).set (wholeIndex report k) x := by
  unfold wholeIndex
  by_cases hshort : report.length = NORMAL_REPORT_SIZE - 1
  · unfold withReportId
    simp only [List.length_set, h hshort]
    split
    · rw [List.length_cons, Nat.add_sub_cancel_left, List.set_cons_succ]
    · rw [Nat.sub_self, Nat.add_zero]
  · rw [withReportId_of_length hshort, withReportId_of_length (by rw [List.length_set]; exact hshort),
      Nat.sub_self, Nat.add_zero]

theorem getElem?_withReportId (report : Bytes) (k : Nat) :
    (withReportId report)[wholeIndex report k]? = report[k]? := by
  unfold wholeIndex withReportId
  split
  · rw [List.length_cons, Nat.add_sub_cancel_left, List.getElem?_cons_succ]
  · rw [Nat.sub_self, Nat.add_zero]

theorem getElem?_of_magic {report : Bytes} (h : slice report 0 2 = NORMAL_MAGIC) :
    report[0]? = some 0x5A := by
  have hget := congrArg (fun l => l[0]?) h
  simp only [getElem?_slice] at hget
  exact hget

/-- A flipped bit cannot make a report look stripped, and a stripped report that no longer does is
refused for its ID. -/
theorem flipped_first {report : Bytes} {frame frame' : NormalFrame} {k bit : Nat}
    (h : NormalAccepted (withReportId report) frame) (hbit : bit < 8) (hk : k < report.length)
    (h' : NormalAccepted (withReportId (flipBit report k bit)) frame') :
    slice (flipBit report k bit) 0 2 = NORMAL_MAGIC ↔ slice report 0 2 = NORMAL_MAGIC := by
  have hflip := flipBit_eq_set bit hk
  have hlength : (flipBit report k bit).length = report.length := by
    rw [hflip, List.length_set]
  have hmagicNe := flipped_magic_ne bit hbit
  have hfirst : 0 < k → (flipBit report k bit)[0]? = report[0]? := by
    intro hpos
    rw [hflip, List.getElem?_set_ne (by omega)]
  have hchanged (hzero : k = 0) {b : UInt8} (hb : report[0]? = some b) :
      (flipBit report k bit)[0]? = some (b ^^^ UInt8.ofNat (2 ^ bit)) := by
    rw [flipBit, hzero, List.getElem?_modify, hb]
    rfl
  by_cases hstripped : slice report 0 2 = NORMAL_MAGIC
  · apply iff_of_true _ hstripped
    by_contra hwhole
    -- the ID is then read where the magic was
    have hsame : withReportId (flipBit report k bit) = flipBit report k bit :=
      if_neg fun hboth => hwhole hboth.2
    have hid := getElem?_of_id h'.id
    rw [hsame] at hid
    by_cases hzero : k = 0
    · rw [hchanged hzero (getElem?_of_magic hstripped)] at hid
      exact hmagicNe.1 (Option.some.inj hid)
    · rw [hfirst (by omega), getElem?_of_magic hstripped] at hid
      exact absurd hid (by decide)
  · apply iff_of_false _ hstripped
    intro hmagic
    have hsame : withReportId report = report := if_neg fun hboth => hstripped hboth.2
    have hid := h.id
    rw [hsame] at hid
    have hget := getElem?_of_magic hmagic
    by_cases hzero : k = 0
    · rw [hchanged hzero (getElem?_of_id hid)] at hget
      exact hmagicNe.2 (Option.some.inj hget)
    · rw [hfirst (by omega), getElem?_of_id hid] at hget
      exact absurd hget (by decide)

/-- Any flipped bit outside the type, the length and the padding is noticed. -/
theorem parseNormalReport_flipped {report : Bytes} {frame : NormalFrame} {k bit : Nat}
    (h : parseNormalReport report = .ok frame) (htype : frame.frameType = 1 ∨ frame.frameType = 2)
    (hk : k < report.length) (hbit : bit < 8)
    (hbody : wholeIndex report k < 14 + frame.payload.length)
    (hlayout : wholeIndex report k ≠ 5 ∧ wholeIndex report k ≠ 6 ∧ wholeIndex report k ≠ 7) :
    ∃ msg, parseNormalReport (flipBit report k bit) = .error (.protocolError msg) := by
  rw [parseNormalReport_eq_ok] at h
  have hrefused : ∀ frame', parseNormalReport (flipBit report k bit) ≠ .ok frame' := by
    intro frame' hparse
    rw [parseNormalReport_eq_ok] at hparse
    have hget := getElem?_withReportId report k
    rw [List.getElem?_eq_getElem hk] at hget
    have hread := List.getElem?_eq_some_iff.mp hget
    have hfirst := flipped_first h hbit hk hparse
    rw [flipBit_eq_set bit hk] at hfirst hparse
    rw [withReportId_set fun _ => hfirst] at hparse
    apply not_accepted_set h htype hread.1 hbody hlayout _ hparse
    rw [hread.2, ← UInt8.xor_assoc, UInt8.xor_self, UInt8.zero_xor]
    exact bit_not_vanishing bit hbit
  have hraises := (parseNormalReport_raisesOnly (flipBit report k bit)).raises hrefused
  rcases hraises with ⟨e, ⟨msg, he⟩, herror⟩
  rw [he] at herror
  exact ⟨msg, herror⟩

/-- Bit 0 of the command in a report of fifteen bytes. -/
theorem parseNormalReport_flipped_command :
    ∃ msg, parseNormalReport (flipBit [0x01, 0x5A, 0x5A, 0x44, 0x00, 0x01, 0x01, 0x00, 0x00, 0x00,
      0x00, 0x00, 0x7D, 0x17, 0x07] 3 0) = .error (.protocolError msg) := by
  have hparse : parseNormalReport [0x01, 0x5A, 0x5A, 0x44, 0x00, 0x01, 0x01, 0x00, 0x00, 0x00, 0x00,
      0x00, 0x7D, 0x17, 0x07] = .ok ⟨0x44, 1, 0, [0x07]⟩ := by decide +kernel
  exact parseNormalReport_flipped hparse (.inl rfl) (by decide) (by decide) (by decide) (by decide)

end Cc2Camera.Protocol
