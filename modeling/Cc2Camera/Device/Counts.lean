import Cc2Camera.Device.Commands
import Cc2Camera.Device.Updater
import Mathlib.Algebra.Order.Floor.Div

/-!
# Counts — the packet counts of the two sides

The host computes an exact ceiling, the updater `(n + d - 1) / d` in 32 bits.  They agree exactly when
the sum does not wrap around (`ceilDivU32_eq_iff`), which the request builder does not check.
-/

open Bytes Exceptions

namespace Cc2Camera.Updater

open Protocol Commands

/-! ## Frames as the updater reads them -/

theorem payload_slice {data magic payload : Bytes} {frameType i j : Nat}
    (h : FrameFields data magic frameType payload) (hj : j ≤ payload.length) :
    slice data (6 + i) (6 + j) = slice payload i j := by
  have hslice := slice_slice data (i := 6) (j := payload.length + 6) (k := i) (l := j) (by omega)
  rw [← hslice, h.payloadAt]

theorem validateHostFrame_fields {frame payload : Bytes} {frameType : Nat}
    (h : FrameFields frame HOST_MAGIC frameType payload) :
    validateHostFrame frame (payload.length + 7) = .ok true := by
  have hlength := h.length
  have hmagic : slice frame 0 3 = hostMagic := h.magicAt
  have hcheck : checksum (slice frame 0 (payload.length + 6)) = u8 frame (payload.length + 6) := by
    rw [h.bodyAt, h.checkAt]
    rfl
  rw [validateHostFrame, if_neg (not_not.mpr hmagic), raiseIf_of_not (by omega), ok_bind,
    show payload.length + 7 - 1 = payload.length + 6 from rfl, hcheck]
  simp

theorem decodeMetadata_fields {plan : UpdatePlan} {version : Nat} {frame : Bytes}
    (hfits : PlanFits plan) (hversion : version ≤ 0xFFFF)
    (h : FrameFields frame HOST_MAGIC HOST_METADATA (metadataFields plan version)) :
    decodeMetadataUnchecked frame =
      { subpackSize := plan.packetPayloadSize, transferSize := plan.transferSize
        packetsPerAck := plan.packetsPerAck, version := version } := by
  have hpayload := hfits.payloadLe
  have htransfer := hfits.transferLe
  have hack := hfits.ackLe
  have hsize : BOOT_DATA_SIZE = 3060 := rfl
  have hrecord : slice frame 6 (6 + (leFields [(2, plan.packetPayloadSize), (4, plan.transferSize),
      (2, plan.packetsPerAck), (2, version)] ++ []).length) =
        leFields [(2, plan.packetPayloadSize), (4, plan.transferSize), (2, plan.packetsPerAck),
          (2, version)] ++ [] := by
    rw [List.append_nil]
    change slice _ 6 (6 + (metadataFields plan version).length) = metadataFields plan version
    rw [Nat.add_comm]
    exact h.payloadAt
  have hsubpack := leNat_field_at hrecord (k := 0) rfl (by omega)
  have htotal := leNat_field_at hrecord (k := 1) rfl (by omega)
  have hperAck := leNat_field_at hrecord (k := 2) rfl (by omega)
  have hfirmware := leNat_field_at hrecord (k := 3) rfl (by omega)
  simp only [decodeMetadataUnchecked, TransferMetadata.mk.injEq]
  exact ⟨hsubpack, htotal, hperAck, hfirmware⟩

/-! ## Ceilings in 32 bits -/

theorem ceilDivU32_of_pos {n d : Nat} (hd : 1 ≤ d) :
    ceilDivU32 n d = .ok ((n + d - 1) % 2 ^ 32 / d) := by
  rw [ceilDivU32, raiseIf_of_not (by omega), ok_bind]

/-- A wrapped sum is smaller than the divisor. -/
theorem ceilDivU32_eq_iff {n d : Nat} (hn : 1 ≤ n) (hnlt : n < 2 ^ 32) (hd : 1 ≤ d) (hdlt : d < 2 ^ 32) :
    (n + d - 1) % 2 ^ 32 / d = n ⌈/⌉ d ↔ n + d - 1 < 2 ^ 32 := by
  rw [Nat.ceilDiv_eq_add_pred_div]
  constructor
  · intro h
    by_contra hwrap
    have hrest : (n + d - 1) % 2 ^ 32 = n + d - 1 - 2 ^ 32 := by
      rw [Nat.mod_eq_sub_mod (by omega), Nat.mod_eq_of_lt (by omega)]
    have hzero : (n + d - 1) % 2 ^ 32 / d = 0 := by
      rw [hrest]
      exact Nat.div_eq_of_lt (by omega)
    have hpos : 0 < (n + d - 1) / d := Nat.div_pos (by omega) (by omega)
    omega
  · intro h
    rw [Nat.mod_eq_of_lt h]

/-- What the updater has computed once it has accepted the metadata of `plan`. -/
structure CountsAgree (plan : UpdatePlan) (version : Nat) (u : UpdaterState) : Prop where
  metadata : u.metadata =
    { subpackSize := plan.packetPayloadSize, transferSize := plan.transferSize
      packetsPerAck := plan.packetsPerAck, version := version }
  packetCount : u.packetCount = plan.packetCount
  batchCount : u.batchCount = plan.packetCount ⌈/⌉ plan.packetsPerAck

/-- What the updater counts once it has taken in the metadata of an accepted plan. -/
theorem updaterReceive_metadata {plan : UpdatePlan} {version : Nat} {frame : Bytes}
    (h : buildBootMetadataRequest plan version = .ok frame) (board : Board) (u : UpdaterState)
    (padding : Bytes) :
    ∃ u' effects, updaterReceive board u (frame ++ padding) = .ok (u', effects) ∧
      u'.metadata = { subpackSize := plan.packetPayloadSize, transferSize := plan.transferSize
                      packetsPerAck := plan.packetsPerAck, version := version } ∧
      u'.packetCount = (plan.transferSize + plan.packetPayloadSize - 1) % 2 ^ 32 / plan.packetPayloadSize ∧
      u'.batchCount = ((plan.transferSize + plan.packetPayloadSize - 1) % 2 ^ 32 /
        plan.packetPayloadSize + plan.packetsPerAck - 1) % 2 ^ 32 / plan.packetsPerAck := by
  rw [buildBootMetadataRequest_eq_ok] at h
  rcases h with ⟨⟨hfits, hversion⟩, rfl⟩
  have hlength := length_metadataFields plan version
  have hfields := @frameFields_sealed HOST_MAGIC 1 (metadataFields plan version) padding rfl
    (by decide) (by omega)
  have hdecoded := decodeMetadata_fields hfits hversion hfields
  generalize sealedFrame HOST_MAGIC 1 (metadataFields plan version) ++ padding = data at hfields hdecoded ⊢
  have hmagic : slice data 0 3 = hostMagic := hfields.magicAt
  have htype : u8 data 3 = HOST_METADATA := hfields.typeAt
  simp only [updaterReceive, hmagic, ne_eq, not_true, if_false, htype, hfields.totalAt, if_true,
    acceptMetadata, validateHostFrame_fields hfields, ok_bind, hdecoded,
    ceilDivU32_of_pos hfits.payloadPos, ceilDivU32_of_pos hfits.ackPos]
  rw [hdecoded]
  -- without memory for the stream the counts are set all the same
  cases board.malloc plan.transferSize with
  | none => exact ⟨_, _, rfl, rfl, rfl, rfl⟩
  | some stream => exact ⟨_, _, rfl, rfl, rfl, rfl⟩

/-- The updater counts the packets of an accepted plan as the host does exactly when neither of its
two ceilings wraps around. -/
theorem packetCounts_agree_iff {plan : UpdatePlan} {version : Nat} {frame : Bytes}
    (h : buildBootMetadataRequest plan version = .ok frame) (board : Board) (u : UpdaterState)
    (padding : Bytes) :
    (∃ u' effects, updaterReceive board u (frame ++ padding) = .ok (u', effects) ∧
        CountsAgree plan version u') ↔
      plan.transferSize + plan.packetPayloadSize - 1 < 2 ^ 32 ∧
        plan.packetCount + plan.packetsPerAck - 1 < 2 ^ 32 := by
  obtain ⟨u₁, effects₁, hreceived, hmetadata, hpackets₁, hbatches₁⟩ := updaterReceive_metadata h board u padding
  rw [hreceived]
  have hfits := (buildBootMetadataRequest_eq_ok.mp h).1.1
  have hpayloadPos := hfits.payloadPos
  have hpayloadLe := hfits.payloadLe
  have htransferPos := hfits.transferPos
  have htransferLe := hfits.transferLe
  have hackPos := hfits.ackPos
  have hackLe := hfits.ackLe
  have hsize : BOOT_DATA_SIZE = 3060 := rfl
  have hcount : plan.packetCount = plan.transferSize ⌈/⌉ plan.packetPayloadSize := by
    rw [hfits.count, Nat.ceilDiv_eq_add_pred_div]
  have hcountPos : 1 ≤ plan.packetCount := by
    rw [hfits.count]
    exact Nat.div_pos (by omega) (by omega)
  have hcountLe : plan.packetCount ≤ plan.transferSize := by
    rw [hfits.count]
    apply Nat.div_le_of_le_mul
    rcases Nat.exists_eq_add_of_le htransferPos with ⟨t, ht⟩
    rcases Nat.exists_eq_add_of_le hpayloadPos with ⟨p, hp⟩
    have hmul : (1 + p) * (1 + t) = 1 + p + t + p * t := by ring
    rw [ht, hp, hmul]
    omega
  have hpackets := ceilDivU32_eq_iff (n := plan.transferSize) (d := plan.packetPayloadSize) (by omega)
    (by omega) (by omega) (by omega)
  have hbatches := ceilDivU32_eq_iff (n := plan.packetCount) (d := plan.packetsPerAck) (by omega)
    (by omega) (by omega) (by omega)
  constructor
  · intro hagree
    rcases hagree with ⟨u', effects, hok, hagree⟩
    have hpacketCount := hagree.packetCount
    have hbatchCount := hagree.batchCount
    rw [← (Prod.mk.inj (Except.ok.inj hok)).1] at hpacketCount hbatchCount
    rw [hpackets₁] at hpacketCount
    rw [hbatches₁, hpacketCount] at hbatchCount
    rw [hcount] at hpacketCount
    exact ⟨hpackets.mp hpacketCount, hbatches.mp hbatchCount⟩
  · intro hbounds
    have hpacketCount := hpackets.mpr hbounds.1
    rw [← hcount] at hpacketCount
    refine ⟨u₁, effects₁, rfl, hmetadata, hpackets₁.trans hpacketCount, ?_⟩
    rw [hbatches₁, hpacketCount]
    exact hbatches.mpr hbounds.2

theorem buildBootMetadataRequest_fits {plan : UpdatePlan} {version : Nat} (hfits : PlanFits plan)
    (hversion : version ≤ 0xFFFF) :
    buildBootMetadataRequest plan version =
      .ok (sealedFrame HOST_MAGIC 1 (metadataFields plan version)) :=
  buildBootMetadataRequest_eq_ok.mpr ⟨⟨hfits, hversion⟩, rfl⟩

/-- A plan of the given size in full packets, acknowledged one by one. -/
def planOf (transferSize packetCount : Nat) : UpdatePlan :=
  { flashOffset := 0, imageSize := 1, transferSize := transferSize, imageMd5 := ""
    packetCount := packetCount, packetPayloadSize := BOOT_DATA_SIZE, packetsPerAck := 1 }

theorem packetCounts_agree_iff_oneByteImage :
    (∃ u' effects, updaterReceive ⟨fun n => some ⟨List.replicate n 0, List.length_replicate⟩,
        fun _ => ⟨List.replicate 16 0, rfl⟩⟩ .fresh
          (sealedFrame HOST_MAGIC 1 (metadataFields (planOf 129 1) 0) ++ []) = .ok (u', effects) ∧
        CountsAgree (planOf 129 1) 0 u') ↔
      129 + BOOT_DATA_SIZE - 1 < 2 ^ 32 ∧ 1 + 1 - 1 < 2 ^ 32 :=
  packetCounts_agree_iff (buildBootMetadataRequest_fits
    ⟨by decide, by decide, by decide, by decide, by decide, by decide, by decide⟩ (by decide)) _ _ _

/-- The largest transfer the builder admits wraps to no packet at all. -/
theorem packetCounts_disagree :
    ¬∀ (plan : UpdatePlan) (version : Nat) (frame : Bytes) (board : Board) (u : UpdaterState),
      buildBootMetadataRequest plan version = .ok frame →
        ∃ u' effects, updaterReceive board u frame = .ok (u', effects) ∧ CountsAgree plan version u' := by
  intro hall
  have hfits : PlanFits (planOf 0xFFFFFFFF 1403585) :=
    ⟨by decide, by decide, by decide, by decide, by decide, by decide, by decide⟩
  have hbuilt := @buildBootMetadataRequest_fits _ 0 hfits (by decide)
  rcases hall _ _ _ ⟨fun n => some ⟨List.replicate n 0, List.length_replicate⟩,
    fun _ => ⟨List.replicate 16 0, rfl⟩⟩ .fresh hbuilt with ⟨u', effects, hok, hagree⟩
  rw [← List.append_nil (sealedFrame _ _ _)] at hok
  obtain ⟨u₁, effects₁, hreceived, -, hpackets, -⟩ := updaterReceive_metadata hbuilt _ .fresh []
  have hcount := hagree.packetCount
  rw [← (Prod.mk.inj (Except.ok.inj (hreceived.symm.trans hok))).1, hpackets] at hcount
  exact absurd hcount (by decide)

end Cc2Camera.Updater
