import Cc2Camera.Device.Protocol

/-!
# Frames — what the bootloader frame parser accepts

An accepted frame is the frame built from what was read (`sealedFrame_accepted`), and the additive
checksum notices any single changed byte; a changed length byte moves the frame's end instead.
-/

open Bytes Exceptions

namespace Cc2Camera.Protocol

/-- What stands where in a byte string that is accepted as a frame. -/
structure FrameAccepted (data magic : Bytes) (frame : BootFrame) : Prop where
  magic : slice data 0 3 = magic
  type : u8 data 3 = frame.frameType
  total : u16 data 4 = frame.totalLength
  shortest : 7 ≤ frame.totalLength
  fits : frame.totalLength ≤ data.length
  payload : slice data 6 (frame.totalLength - 1) = frame.payload
  check : additiveChecksum (slice data 0 (frame.totalLength - 1)) = u8 data (frame.totalLength - 1)

theorem parseBootFrame_eq_ok {data : Bytes} {frame : BootFrame} :
    parseBootFrame data false = .ok frame ↔ FrameAccepted data HOST_MAGIC frame := by
  simp only [parseBootFrame, bind_eq_ok, raiseIf_eq_ok, not_not, exists_const, not_lt,
    Except.ok.injEq, Bool.false_eq_true, if_false]
  constructor
  · intro h
    rcases h with ⟨-, hmagic, htotal, hcheck, hframe⟩
    rw [← hframe]
    exact ⟨hmagic, rfl, rfl, htotal.1, htotal.2, rfl, hcheck⟩
  · intro h
    have hshortest := h.shortest
    have hfits := h.fits
    rw [h.total, h.type, h.payload]
    exact ⟨by omega, h.magic, ⟨hshortest, hfits⟩, h.check, rfl⟩

theorem parseBootFrame_raisesOnly (data : Bytes) (deviceResponse : Bool) :
    RaisesOnly (fun e => ∃ msg, e = .protocolError msg) (parseBootFrame data deviceResponse) := by
  unfold parseBootFrame
  apply raisesOnly_guard fun _ => ⟨_, rfl⟩
  intro _
  apply raisesOnly_guard fun _ => ⟨_, rfl⟩
  intro _
  apply raisesOnly_guard fun _ => ⟨_, rfl⟩
  intro _
  apply raisesOnly_guard fun _ => ⟨_, rfl⟩
  intro _
  exact raisesOnly_ok _

section Accepted

variable {data magic : Bytes} {frame : BootFrame}

theorem FrameAccepted.length_payload (h : FrameAccepted data magic frame) :
    frame.payload.length + 7 = frame.totalLength := by
  have hshortest := h.shortest
  have hfits := h.fits
  rw [← h.payload, length_slice]
  omega

/-- An accepted frame is the frame built from its type and payload. -/
theorem sealedFrame_accepted (h : FrameAccepted data magic frame) :
    sealedFrame magic frame.frameType frame.payload = data.take frame.totalLength := by
  have hshortest := h.shortest
  have hfits := h.fits
  have hread {i w : Nat} (hi : i + w ≤ data.length) :
      leBytes w (leNat (slice data i (i + w))) = slice data i (i + w) := by
    have hlength : (slice data i (i + w)).length = w := by
      rw [length_slice]
      omega
    have hbytes := leBytes_leNat (slice data i (i + w))
    rw [hlength] at hbytes
    exact hbytes
  have htype : leBytes 1 frame.frameType = slice data 3 4 := by
    rw [← h.type]
    exact hread (by omega)
  have htotal : leBytes 2 (frame.payload.length + 7) = slice data 4 6 := by
    rw [h.length_payload, ← h.total]
    exact hread (by omega)
  have hbody : frameBody magic frame.frameType frame.payload =
      slice data 0 (frame.totalLength - 1) := by
    unfold frameBody
    rw [← h.magic, htype, htotal, ← h.payload, slice_append_slice _ (by omega) (by omega),
      slice_append_slice _ (by omega) (by omega), slice_append_slice _ (by omega) (by omega)]
  have hend : frame.totalLength - 1 + 1 = frame.totalLength := by omega
  have hcheck : leBytes 1 (additiveChecksum (slice data 0 (frame.totalLength - 1))) =
      slice data (frame.totalLength - 1) frame.totalLength := by
    rw [h.check, u8, hread (by omega), hend]
  rw [sealedFrame, hbody, hcheck, slice_append_slice _ (by omega) (by omega), slice_zero]

theorem additiveChecksum_set_ne {data : Bytes} {k : Nat} {x : UInt8} (hk : k < data.length)
    (hx : x ≠ data[k]) : additiveChecksum (data.set k x) ≠ additiveChecksum data := by
  intro h
  apply hx
  have hsplit : data.take k ++ data[k] :: data.drop (k + 1) = data := by
    rw [List.getElem_cons_drop, List.take_append_drop]
  have hold : (data.map UInt8.toNat).sum =
      ((data.take k).map UInt8.toNat).sum + (data[k].toNat + ((data.drop (k + 1)).map UInt8.toNat).sum) := by
    conv_lhs => rw [← hsplit]
    rw [List.map_append, List.sum_append, List.map_cons, List.sum_cons]
  unfold additiveChecksum at h
  rw [List.set_eq_take_append_cons_drop, if_pos hk, List.map_append, List.sum_append, List.map_cons,
    List.sum_cons, hold] at h
  have hnew := x.toNat_lt
  have hlt := data[k].toNat_lt
  apply UInt8.toNat_inj.mp
  omega

/-- Any changed byte of a frame other than its length is noticed. -/
theorem not_frameAccepted_set {frame' : BootFrame} {k : Nat} {x : UInt8}
    (h : FrameAccepted data magic frame) (hk : k < frame.totalLength) (hlength : k ≠ 4 ∧ k ≠ 5)
    (hbound : k < data.length) (hx : x ≠ data[k]) : ¬FrameAccepted (data.set k x) magic frame' := by
  intro h'
  have hshortest := h.shortest
  have hfits := h.fits
  have htotal : frame'.totalLength = frame.totalLength := by
    rw [← h.total, ← h'.total, u16_set_outside _ _ (by omega)]
  by_cases hmagic : k < 3
  · exact slice_set_ne hbound (Nat.zero_le k) hmagic hx (h'.magic.trans h.magic.symm)
  have hcheck := h'.check
  rw [htotal] at hcheck
  by_cases hbody : k < frame.totalLength - 1
  · have hinside : k < (slice data 0 (frame.totalLength - 1)).length := by
      rw [length_slice]
      omega
    have hget : (slice data 0 (frame.totalLength - 1))[k] = data[k] := by
      apply Option.some.inj
      rw [← List.getElem?_eq_getElem hinside, getElem?_slice, if_pos (by omega), Nat.zero_add,
        List.getElem?_eq_getElem hbound]
    rw [u8_set_outside _ _ (by omega), slice_set_inside _ _ (Nat.zero_le k) hbody,
      Nat.sub_zero, ← h.check] at hcheck
    apply additiveChecksum_set_ne hinside _ hcheck
    rw [hget]
    exact hx
  · rw [slice_set_outside _ _ (by omega), h.check] at hcheck
    apply slice_set_ne (i := frame.totalLength - 1) (j := frame.totalLength - 1 + 1) hbound (by omega)
      (by omega) hx
    apply leNat_inj
    · rw [length_slice, length_slice, List.length_set]
    · exact hcheck.symm

end Accepted

/-- The three laws of the frame format: what is built is read back, in a report too; what is read is
rebuilt; and a changed byte is noticed. -/
structure BootFrameLaws : Prop where
  built : ∀ (frameType : Nat) (payload padding : Bytes), frameType ≤ 255 → payload.length ≤ 3064 →
    ∃ frame report, buildBootFrame frameType payload = .ok frame ∧
      parseBootFrame (frame ++ padding) false = .ok ⟨frameType, payload, payload.length + 7⟩ ∧
      toBootHidReport frame = .ok report ∧ report.length = BOOT_REPORT_SIZE ∧
      parseBootFrame (report.drop 1) false = .ok ⟨frameType, payload, payload.length + 7⟩
  rebuilt : ∀ (data : Bytes) (frame : BootFrame), parseBootFrame data false = .ok frame →
    frame.totalLength ≤ 3071 →
      buildBootFrame frame.frameType frame.payload = .ok (data.take frame.totalLength)
  changed : ∀ (data : Bytes) (frame : BootFrame) (k : Nat) (x : UInt8),
    parseBootFrame data false = .ok frame → k < frame.totalLength → k ≠ 4 → k ≠ 5 →
      data[k]? ≠ some x → ∃ msg, parseBootFrame (data.set k x) false = .error (.protocolError msg)

theorem bootFrameLaws : BootFrameLaws where
  built frameType payload padding htype hpayload := by
    have hcapacity : BOOT_FRAME_CAPACITY = 3071 := rfl
    have hbuilt := buildBootFrame_eq (show frameType < 256 by omega)
      (show payload.length + 7 ≤ BOOT_FRAME_CAPACITY by omega)
    have hreport := @toBootHidReport_sealed frameType payload (by omega)
    refine ⟨_, _, hbuilt, ?_, hreport, ?_, ?_⟩
    · exact parseBootFrame_sealed padding false (by omega) (by omega)
    · have hlength := @length_sealedFrame HOST_MAGIC frameType payload rfl
      have hsize : BOOT_REPORT_SIZE = 3072 := rfl
      rw [sealedReport, List.length_cons, List.length_append, hlength, List.length_replicate]
      omega
    · rw [sealedReport, List.drop_one, List.tail_cons]
      exact parseBootFrame_sealed _ false (by omega) (by omega)
  rebuilt data frame hparse htotal := by
    rw [parseBootFrame_eq_ok] at hparse
    have hcapacity : BOOT_FRAME_CAPACITY = 3071 := rfl
    have hlength := hparse.length_payload
    have htype : frame.frameType < 256 := by
      rw [← hparse.type]
      have hlt := leNat_lt (slice data 3 4)
      have hone : (slice data 3 4).length ≤ 1 := by
        rw [length_slice]
        omega
      exact Nat.lt_of_lt_of_le hlt (Nat.pow_le_pow_right (by decide) hone)
    rw [buildBootFrame_eq htype (by omega), sealedFrame_accepted hparse]
  changed data frame k x hparse hk hfour hfive hx := by
    rw [parseBootFrame_eq_ok] at hparse
    have hbound := Nat.lt_of_lt_of_le hk hparse.fits
    rw [List.getElem?_eq_getElem hbound] at hx
    have hrefused : ∀ frame', parseBootFrame (data.set k x) false ≠ .ok frame' := by
      intro frame' hparse'
      rw [parseBootFrame_eq_ok] at hparse'
      exact not_frameAccepted_set hparse hk ⟨hfour, hfive⟩ hbound
        (fun heq => hx (congrArg some heq.symm)) hparse'
    have hraises := (parseBootFrame_raisesOnly (data.set k x) false).raises hrefused
    rcases hraises with ⟨e, ⟨msg, he⟩, herror⟩
    rw [he] at herror
    exact ⟨msg, herror⟩

end Cc2Camera.Protocol
