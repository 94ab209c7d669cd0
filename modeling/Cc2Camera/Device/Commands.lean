import Cc2Camera.Device.Protocol

/-!
# Commands — `commands.py`, the checked requests of the two updater stages

The public producers refuse what the devices fail to check, and the decoders accept one reply type each.
-/

open Bytes Exceptions

namespace Cc2Camera.Commands

open Protocol

/-! ## Bootloader requests -/

def buildBootMetadataRequest (plan : UpdatePlan) (firmwareVersion : Nat) : Except Exc Bytes := do
  raiseIf (¬(1 ≤ plan.packetPayloadSize ∧ plan.packetPayloadSize ≤ BOOT_DATA_SIZE))
    (.protocolError ("metadata packet payload must be 1.." ++ toString BOOT_DATA_SIZE ++
      " bytes for HID"))
  raiseIf (¬(1 ≤ plan.transferSize ∧ plan.transferSize ≤ 0xFFFFFFFF))
    (.protocolError "metadata transfer size must fit in a nonzero u32")
  raiseIf (¬(1 ≤ plan.packetsPerAck ∧ plan.packetsPerAck ≤ 0xFFFF))
    (.protocolError "metadata packets-per-ACK must fit in a nonzero u16")
  raiseIf (¬firmwareVersion ≤ 0xFFFF)
    (.protocolError "metadata firmware version must fit in a u16")
  let expectedPackets := (plan.transferSize + plan.packetPayloadSize - 1) / plan.packetPayloadSize
  raiseIf (plan.packetCount ≠ expectedPackets)
    (.protocolError ("metadata packet count " ++ toString plan.packetCount ++ " does not match " ++
      toString expectedPackets))
  buildMetadataFrame plan firmwareVersion

def decodeBootAck (frame : BootFrame) : Except Exc Nat := do
  raiseIf (frame.frameType ≠ 2)
    (.protocolError ("expected bootloader type 2 ACK, got type " ++ toString frame.frameType))
  raiseIf (frame.payload.length ≠ 4)
    (.protocolError "bootloader type 2 ACK payload must be exactly four bytes")
  .ok (u32 frame.payload 0)

def decodeBootTerminalStatus (frame : BootFrame) : Except Exc Bool := do
  raiseIf (frame.frameType ≠ 5)
    (.protocolError ("expected bootloader type 5 status, got type " ++ toString frame.frameType))
  raiseIf (¬(frame.payload = [0] ∨ frame.payload = [1]))
    (.protocolError "bootloader type 5 payload must be one byte 00 or 01")
  .ok (frame.payload = [1])

theorem decodeBootAck_eq_ok {frame : BootFrame} {n : Nat} :
    decodeBootAck frame = .ok n ↔
      frame.frameType = 2 ∧ frame.payload.length = 4 ∧ u32 frame.payload 0 = n := by
  simp only [decodeBootAck, bind_eq_ok, raiseIf_eq_ok, not_not, exists_const, Except.ok.injEq]

theorem decodeBootTerminalStatus_eq_true {frame : BootFrame} :
    decodeBootTerminalStatus frame = .ok true ↔ frame.frameType = 5 ∧ frame.payload = [1] := by
  simp only [decodeBootTerminalStatus, bind_eq_ok, raiseIf_eq_ok, not_not, exists_const,
    Except.ok.injEq, decide_eq_true_eq]
  constructor
  · rintro ⟨htype, -, hpayload⟩
    exact ⟨htype, hpayload⟩
  · rintro ⟨htype, hpayload⟩
    exact ⟨htype, Or.inr hpayload, hpayload⟩

/-- A plan that the public producer serializes. -/
structure PlanFits (plan : UpdatePlan) : Prop where
  payloadPos : 1 ≤ plan.packetPayloadSize
  payloadLe : plan.packetPayloadSize ≤ BOOT_DATA_SIZE
  transferPos : 1 ≤ plan.transferSize
  transferLe : plan.transferSize ≤ 0xFFFFFFFF
  ackPos : 1 ≤ plan.packetsPerAck
  ackLe : plan.packetsPerAck ≤ 0xFFFF
  count : plan.packetCount = (plan.transferSize + plan.packetPayloadSize - 1) / plan.packetPayloadSize

def metadataFields (plan : UpdatePlan) (firmwareVersion : Nat) : Bytes :=
  leFields [(2, plan.packetPayloadSize), (4, plan.transferSize), (2, plan.packetsPerAck),
    (2, firmwareVersion)]

theorem length_metadataFields (plan : UpdatePlan) (firmwareVersion : Nat) :
    (metadataFields plan firmwareVersion).length = 10 := by
  simp only [metadataFields, leFields_cons, leFields_nil, List.length_append, length_leBytes,
    List.length_nil]

theorem buildMetadataFrame_eq {plan : UpdatePlan} (h : PlanFits plan) {firmwareVersion : Nat}
    (hversion : firmwareVersion ≤ 0xFFFF) :
    buildMetadataFrame plan firmwareVersion =
      .ok (sealedFrame HOST_MAGIC 1 (metadataFields plan firmwareVersion)) := by
  have hpayload := h.payloadLe
  have htransfer := h.transferLe
  have hack := h.ackLe
  have hsize : BOOT_DATA_SIZE = 3060 := rfl
  have hfields : packAll [(2, plan.packetPayloadSize), (4, plan.transferSize),
      (2, plan.packetsPerAck), (2, firmwareVersion)] = .ok (metadataFields plan firmwareVersion) := by
    refine packAll_eq_ok.mpr ⟨?_, rfl⟩
    simp only [List.forall_mem_cons, List.not_mem_nil, false_implies, implies_true, and_true]
    omega
  have hlength := length_metadataFields plan firmwareVersion
  have hcapacity : BOOT_FRAME_CAPACITY = 3071 := rfl
  rw [buildMetadataFrame, hfields, ok_bind, raiseIf_of_not (by omega), ok_bind, buildBootFrame,
    raiseIf_of_not (by omega), ok_bind]

theorem buildBootMetadataRequest_eq_ok {plan : UpdatePlan} {firmwareVersion : Nat} {frame : Bytes} :
    buildBootMetadataRequest plan firmwareVersion = .ok frame ↔
      (PlanFits plan ∧ firmwareVersion ≤ 0xFFFF) ∧
        frame = sealedFrame HOST_MAGIC 1 (metadataFields plan firmwareVersion) := by
  simp only [buildBootMetadataRequest, bind_eq_ok, raiseIf_eq_ok, not_not, exists_const]
  constructor
  · rintro ⟨⟨h₁, h₂⟩, ⟨h₃, h₄⟩, ⟨h₅, h₆⟩, hversion, hcount, hframe⟩
    have hfits : PlanFits plan := ⟨h₁, h₂, h₃, h₄, h₅, h₆, hcount⟩
    rw [buildMetadataFrame_eq hfits hversion, Except.ok.injEq] at hframe
    exact ⟨⟨hfits, hversion⟩, hframe.symm⟩
  · rintro ⟨⟨h, hversion⟩, rfl⟩
    exact ⟨⟨h.payloadPos, h.payloadLe⟩, ⟨h.transferPos, h.transferLe⟩, ⟨h.ackPos, h.ackLe⟩, hversion,
      h.count, buildMetadataFrame_eq h hversion⟩

end Cc2Camera.Commands
