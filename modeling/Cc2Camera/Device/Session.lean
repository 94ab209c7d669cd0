import Cc2Camera.Device.Lockstep

/-!
# Session — `restore_blob` against an updater in any state

The metadata request resets every field of the updater, so what an earlier session left there plays no part.
-/

open Bytes Exceptions Program

namespace Cc2Camera.Updater

open Protocol Commands Host HidTransport

/-- A new session with an updater: nothing done in it yet, and nothing on its way to the host. -/
def Link.resumed (u : UpdaterState) : Link := { updater := .ok u, effects := [], queue := [] }

section Session

variable {board : Board} {info : HidDevice} {plan : UpdatePlan} {blob : Bytes}

theorem interact_writeExact (link : Link) (handle : HidHandle) (report : Bytes) :
    (writeExact handle report).interact (Link.answer board info) link = (link.deliver board report, .returned ()) := by
  rw [writeExact, interact_bind_of_returned (@interact_call board info (.hidWrite handle report) link _
    (report.length : Int) rfl), raiseIf_of_not (by simp)]
  rfl

/-- The metadata exchange goes the same way whatever state the updater is in. -/
theorem sendMetadata_resumed (u : UpdaterState) (handle : HidHandle) (hfits : PlanFits plan)
    (hplan : plan.packetPayloadSize = BOOT_DATA_SIZE) (hack : plan.packetsPerAck = 1)
    (htransfer : plan.transferSize = blob.length) (hblob : blob.length + BOOT_DATA_SIZE < 2 ^ 32)
    {buffer : {buffer : Bytes // buffer.length = plan.transferSize}} (hmalloc : board.malloc plan.transferSize = some buffer) :
    (sendMetadata plan handle).interact (Link.answer board info) (Link.resumed u) =
      (sendMetadata plan handle).interact (Link.answer board info) Link.fresh := by
  have hreceive (u : UpdaterState) := hidReceiveReport_metadata u hfits hplan hack htransfer hblob hmalloc
  have hsame : (Link.resumed u).deliver board (sealedReport HOST_MAGIC HOST_METADATA (metadataFields plan 0)) =
      Link.fresh.deliver board (sealedReport HOST_MAGIC HOST_METADATA (metadataFields plan 0)) := by
    simp only [Link.deliver, Link.resumed, Link.fresh, hreceive]
  rw [sendMetadata, bootExchange, metadataReport_eq_ok.mpr ⟨hfits, rfl⟩]
  have hafter (link : Link) (f : Unit → Host Unit) (report : Bytes) :
      (lift (.ok report) >>= fun report => writeExact handle report >>= f).interact (Link.answer board info) link =
        (f ()).interact (Link.answer board info) (link.deliver board report) :=
    interact_bind_of_returned (interact_writeExact link handle report)
  rw [hafter, hafter]
  exact congrArg _ hsame

/-- A session with an updater in any state transfers, verifies and programs every accepted image. -/
theorem interact_restoreBlob (u : UpdaterState) (hashlib : Hashlib)
    (malloc : (size : Nat) → {buffer : Bytes // buffer.length = size}) (progress : Progress) {image : Bytes} {offset : Int}
    (hrange : validateFlashRange offset image.length = .ok ()) :
    ∃ blob plan link, buildUpdateBlob hashlib image offset = .ok (blob, plan) ∧
      (restoreBlob blob plan progress).interact (Link.answer (.allocating malloc hashlib.md5) info) (Link.resumed u) =
        (link, .returned ()) ∧
      Programmed blob image offset.toNat link := by
  obtain ⟨plan, hbuild, hfits, hplan, hack, htransfer, hoffset, hlength⟩ :=
    @buildUpdateBlob_plan hashlib image offset hrange
  let handle : HidHandle := { vid := BOOT_VID, pid := BOOT_HID_PID, info := info }
  let board : Board := .allocating malloc hashlib.md5
  have hmalloc : board.malloc plan.transferSize = some (malloc plan.transferSize) := rfl
  have hcount := hfits.count
  rw [htransfer, hplan] at hcount
  obtain ⟨link₁, hmetadata, hstep⟩ :=
    @sendMetadata_lockstep board info plan handle _ hfits hplan hack htransfer hlength _ hmalloc
  have hpos : 0 < plan.packetCount := by
    rw [hcount, lt_count_iff, Nat.zero_mul, ← htransfer]
    exact hfits.transferPos
  obtain ⟨link, hpackets, hprogrammed⟩ := @sendPackets_programs board info plan handle _ hashlib image offset.toNat
    progress rfl hoffset rfl hcount (by omega) (plan.packetCount - 1) 0 (by omega) progress.start link₁ hstep
  refine ⟨_, plan, link, hbuild, ?_, hprogrammed⟩
  have hopen : (openHandle BOOT_VID BOOT_HID_PID).interact (Link.answer board info) (Link.resumed u) =
      (Link.resumed u, .returned handle) := rfl
  rw [restoreBlob, withHandle, interact_bind_of_returned hopen]
  refine interact_ensuring_of_returned (?_ : _ = (link, _)) rfl
  rw [interact_bind_of_returned ((sendMetadata_resumed u handle hfits hplan hack htransfer hlength hmalloc).trans hmetadata)]
  exact hpackets

end Session

end Cc2Camera.Updater
