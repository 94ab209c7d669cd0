import Cc2Camera.Device.ConfigStore
import Cc2Camera.Device.Lifecycle
import Cc2Camera.Device.UploadLaw
import Cc2Camera.Restore.Law

/-!
# Recovery — a transfer that was cut off can be made up for

Until an image has been verified the camera keeps coming back to its updater, and a whole session with that updater
leaves the image in the flash and the camera on the way to a normal boot.
-/

open Bytes Exceptions Program World NorFlash

namespace Cc2Camera.Lifecycle

open HidUpdate (UPGRADE_MAGIC UPGRADE_WORD_OFFSET DaemonOp DaemonContext DaemonTrace dispatchNormalReport isReboot
  replies responseReport ST_OK)
open Updater (UpdaterState Effect hidReceiveReport interact_restoreBlob)
open Protocol Commands Host HidTransport

section Recovery

variable {hw : Hardware} {d d₁ : Device} {ls : List Label} {flash flash' : Bytes}

/-! ## Behind the upgrade request -/

theorem sampleHardware_stores : sampleHardware.Stores where
  setFlash flash data flash' hlength hstored := by
    by_cases hfits : UPGRADE_WORD_OFFSET + data.length ≤ flash.length
    · obtain ⟨rfl, -⟩ := (if_pos hfits).mp hstored
      rw [upgradeWords, ← hlength]
      exact slice_splice_inside flash data (by omega)
    · obtain ⟨-, hrc⟩ := (if_neg hfits).mp hstored
      cases hrc
  reboot _ _ h := upgradeWords_drop h.2.2

/-- A transfer that is cut off behind its first packet, with a chip that has not been touched. -/
theorem exists_cutOff (harmed : Armed .hid ⟨flash, .off⟩) : ∃ metadata packet,
    Run sampleHardware ⟨flash, .off⟩
      [.reset true true, .report metadata [Updater.sendAck 0], .report packet [Updater.sendAck 1]] ⟨flash, .off⟩ := by
  have hrange : validateFlashRange 0x10000 (List.replicate 4000 (0xAB : UInt8)).length = .ok () := by
    rw [List.length_replicate]
    rfl
  obtain ⟨plan, -, hfits, hplan, hack, htransfer, -, hlength⟩ :=
    @Updater.buildUpdateBlob_plan Updater.constantHashlib _ _ hrange
  generalize hblob : updateHeader Updater.constantHashlib (List.replicate 4000 0xAB) (0x10000 : Int).toNat ++
    List.replicate 4000 0xAB = blob at htransfer hlength
  have hsize : blob.length = 4128 := by
    rw [← hblob]
    simp only [updateHeader, List.length_append, List.length_replicate, length_leBytes,
      (Updater.constantHashlib.md5 _).property]
  have hcount : plan.packetCount = 2 := by
    rw [hfits.count, hplan, htransfer, hsize]
    decide
  let board : Updater.Board := .allocating Updater.erasedMalloc sampleHardware.md5
  have hmalloc : board.malloc plan.transferSize = some (Updater.erasedMalloc plan.transferSize) := rfl
  have hmetadata := Updater.hidReceiveReport_metadata .fresh hfits hplan hack htransfer hlength hmalloc
  have hstep : Updater.InStep blob plan.packetCount 0
      { UpdaterState.fresh with
        metadata := { subpackSize := plan.packetPayloadSize, transferSize := plan.transferSize
                      packetsPerAck := plan.packetsPerAck, version := 0 }
        packetCount := plan.packetCount
        batchCount := plan.packetCount
        stream := some (Updater.erasedMalloc plan.transferSize).val } :=
    { perAck := hack, packetCount := rfl, nextPacket := rfl
      used := by rw [Nat.zero_mul]; rfl
      stream := ⟨(Updater.erasedMalloc plan.transferSize).val, by rw [Nat.zero_mul]; rfl,
        by rw [Nat.zero_mul, Nat.zero_add, (Updater.erasedMalloc _).property, htransfer]⟩ }
  obtain ⟨u, _, hpiece, -⟩ := Updater.receive_piece board hstep (by omega) (by omega) (by omega) (by omega)
  rw [if_neg (by omega)] at hpiece
  have hboots : Boots sampleHardware flash true true ⟨flash, .updater .hid .fresh⟩ := by
    have hset : splChooseBootPath (wordsRead true flash) = .mainUbootUpdater := harmed.path
    have hstarted : Boots sampleHardware flash true true _ := .updater hset
    have htransport : selectUpdateTransport (wordsRead true flash) = .hid := harmed.transport
    rwa [htransport] at hstarted
  exact ⟨_, _, .cons (.reset hboots) (.cons (.received hmetadata) (.cons (.interrupted hpiece fun _ => rfl) (.nil _)))⟩

theorem cutOff_labels (metadata packet : Bytes) :
    ∀ l ∈ [Label.reset true true, .report metadata [Updater.sendAck 0], .report packet [Updater.sendAck 1]],
      ¬l.Programs ∧ l.SplReads := by
  have hack (report : Bytes) (n : Nat) :
      ¬(Label.report report [Updater.sendAck n]).Programs ∧ (Label.report report [Updater.sendAck n]).SplReads := by
    refine ⟨?_, trivial⟩
    rintro ⟨e, hmem, hflash⟩
    obtain rfl := List.mem_singleton.mp hmem
    cases hflash
  exact List.forall_mem_cons.mpr ⟨⟨id, rfl⟩, List.forall_mem_cons.mpr ⟨hack _ _, List.forall_mem_singleton.mpr (hack _ _)⟩⟩

theorem stored_blank {data : Bytes} (hlength : data.length = 8) :
    sampleHardware.setFlash blankFlash UPGRADE_WORD_OFFSET data
      (splice blankFlash UPGRADE_WORD_OFFSET (UPGRADE_WORD_OFFSET + data.length) data) 0 := by
  have hfits : UPGRADE_WORD_OFFSET + data.length ≤ blankFlash.length := by
    rw [hlength, blankFlash, List.length_replicate]
    decide
  exact (if_pos hfits).mpr ⟨rfl, rfl⟩

section Entry

variable {c : HidUpdate.Camera Bytes} {l l' : HidUpdate.Link Bytes} {r : Bytes} {ctx : DaemonContext}

end Entry

/-! ## The host's session as a run -/

def Label.effects : Label → List Effect
  | .report _ effects => effects
  | _ => []

/-- What the updater did over a run. -/
def performed (ls : List Label) : List Effect := ls.flatMap Label.effects

/-- Whatever the host does over the link is a run of the device behind it, unless the updater breaks. -/
theorem run_interact {α : Type} (malloc : (size : Nat) → Option {buffer : Bytes // buffer.length = size})
    (info : HidDevice) (p : Host α) (flash : Bytes) (link : Updater.Link) {u u' : UpdaterState}
    (hu : link.updater = .ok u)
    (hu' : (p.interact (Updater.Link.answer ⟨malloc, hw.md5⟩ info) link).1.updater = .ok u') :
    ∃ ls, (p.interact (Updater.Link.answer ⟨malloc, hw.md5⟩ info) link).1.effects = link.effects ++ performed ls ∧
      Run hw ⟨flash, .updater .hid u⟩ ls ⟨programAll hw.chip flash (performed ls), .updater .hid u'⟩ := by
  have hidle {link : Updater.Link} {u : UpdaterState} (flash : Bytes) (hu : link.updater = .ok u)
      (hsame : link.updater = .ok u') : ∃ ls : List Label, link.effects = link.effects ++ performed ls ∧
        Run hw ⟨flash, .updater .hid u⟩ ls ⟨programAll hw.chip flash (performed ls), .updater .hid u'⟩ := by
    obtain rfl : u = u' := Except.ok.inj (hu.symm.trans hsame)
    exact ⟨[], (List.append_nil _).symm, .nil _⟩
  induction p generalizing flash link u with
  | ret a => exact hidle flash hu hu'
  | raise x => exact hidle flash hu hu'
  | pending => exact hidle flash hu hu'
  | act op k ih =>
    cases op with
    | hidWrite handle report =>
      let board : Updater.Board := ⟨malloc, hw.md5⟩
      cases hreceive : hidReceiveReport board u report with
      | error fault =>
        -- a broken updater stays broken
        have hbroken : (link.answer board info (.hidWrite handle report)).1.updater = .error fault := by
          change (link.deliver board report).updater = _
          simp only [Updater.Link.deliver, hu, hreceive]
        have hstays := (Updater.Link.interact_keeps board info (k (.ok (report.length : Int))) _).1 fault hbroken
        cases hstays.symm.trans hu'
      | ok result =>
        obtain ⟨u₁, effects⟩ := result
        have hdeliver : link.deliver board report =
            { updater := .ok u₁, effects := link.effects ++ effects
              queue := link.queue ++ effects.filterMap Effect.report? } := by
          simp only [Updater.Link.deliver, hu, hreceive]
        obtain ⟨ls, heffects, hrun⟩ := ih (.ok (report.length : Int)) (programAll hw.chip flash effects)
          (link.deliver board report) (by rw [hdeliver]) hu'
        refine ⟨.report report effects :: ls, ?_, ?_⟩
        · refine heffects.trans ?_
          rw [hdeliver]
          exact List.append_assoc _ _ _
        · have hfirst : Step hw ⟨flash, .updater .hid u⟩ (.report report effects)
              ⟨programAll hw.chip flash effects, .updater .hid u₁⟩ := .received hreceive
          have hall : programAll hw.chip flash (performed (.report report effects :: ls)) =
              programAll hw.chip (programAll hw.chip flash effects) (performed ls) := programAll_append _ _ _ _
          rw [hall]
          exact .cons hfirst hrun
    | hidRead handle size timeoutMs => exact ih _ flash { link with queue := link.queue.tail } hu hu'
    | _ => exact ih _ flash link hu hu'

/-- A session with an updater in any state that the chip works under leaves the image in the flash. -/
theorem run_restoreBlob {sector : Nat} (hchip : hw.chip.Works sector) (hashlib : Hashlib)
    (hmd5 : hw.md5 = hashlib.md5) (malloc : (size : Nat) → {buffer : Bytes // buffer.length = size}) (info : HidDevice)
    (progress : Progress) {image : Bytes} (hfull : validateFullRestoreImage image = .ok ())
    (hflash : flash.length = FLASH_SIZE) (hsector : sector ∣ FLASH_SIZE) (u : UpdaterState) :
    ∃ blob plan link ls u', buildUpdateBlob hashlib image 0 = .ok (blob, plan) ∧
      (restoreBlob blob plan progress).interact (Updater.Link.answer (.allocating malloc hashlib.md5) info)
        (Updater.Link.resumed u) = (link, .returned ()) ∧
      link.effects = performed ls ∧ Run hw ⟨flash, .updater .hid u⟩ ls ⟨image, .updater .hid u'⟩ := by
  obtain ⟨hlength, -⟩ := validateFullRestoreImage_eq_ok.mp hfull
  have hrange : validateFlashRange 0 image.length = .ok () := by
    rw [hlength]
    rfl
  obtain ⟨blob, plan, link, hbuild, hsession, hprogrammed⟩ :=
    @interact_restoreBlob info u hashlib malloc progress image 0 hrange
  obtain ⟨u', hu', -⟩ := hprogrammed.stream
  -- the board of the session is the one in this hardware
  have hboard : Updater.Board.allocating malloc hashlib.md5 = ⟨fun size => some (malloc size), hw.md5⟩ := by
    rw [hmd5]
    rfl
  have hlink : ((restoreBlob blob plan progress).interact
      (Updater.Link.answer ⟨fun size => some (malloc size), hw.md5⟩ info) (Updater.Link.resumed u)).1.updater =
        .ok u' := by
    rw [← hboard, hsession]
    exact hu'
  obtain ⟨ls, heffects, hrun⟩ := run_interact _ info _ flash (Updater.Link.resumed u) rfl hlink
  rw [← hboard, hsession] at heffects
  replace heffects : link.effects = performed ls := heffects.trans (List.nil_append _)
  -- the image is as long as the chip, so nothing of what was there is left
  have hdone : programAll hw.chip flash (performed ls) = image := by
    rw [← programAll_filter, ← heffects, hprogrammed.flash]
    exact hchip.programs_whole (by rw [hlength]; exact hsector) (hlength.trans hflash.symm)
  rw [hdone] at hrun
  exact ⟨blob, plan, link, ls, u', hbuild, hsession, heffects, hrun⟩

/-- An image the host's checks let through is booted. -/
theorem normalBoot_of_full {image : Bytes} (hfull : validateFullRestoreImage image = .ok ()) :
    splChooseBootPath (upgradeWords image) = .normalBoot := by
  obtain ⟨-, hunset⟩ := validateFullRestoreImage_eq_ok.mp hfull
  have hword : slice (upgradeWords image) 0 4 = slice image UPGRADE_FLAG_OFFSET (UPGRADE_FLAG_OFFSET + 4) :=
    slice_slice image (by decide)
  have hne : u32 (upgradeWords image) 0 ≠ UPGRADE_MAGIC := by
    rw [u32, Nat.zero_add, hword]
    exact hunset
  exact if_neg hne

/-- A boot that reads no magic does not start the updater. -/
theorem boots_ne_updater (h : splChooseBootPath (upgradeWords flash) = .normalBoot) {splRead ubootRead : Bool}
    (hboots : Boots hw flash splRead ubootRead d) (transport : UpdateTransport) (u : UpdaterState) :
    d.mode ≠ .updater transport u := by
  cases hboots with
  | updater hset =>
    rw [wordsRead_unset h] at hset
    cases hset
  | normal _ _ _ => exact modeAfter_ne_updater transport u

/-- With the upgrade words set, whatever is sent, whatever breaks and however often the power goes: as long as no image
was verified and SPL could read the words, a reset and one whole session with an updater that has memory leave the image
in the flash, and no boot from there is into the updater. -/
theorem restore_recovers {sector : Nat} (hchip : hw.chip.Works sector) (hsector : sector ∣ FLASH_SIZE)
    (hashlib : Hashlib) (hmd5 : hw.md5 = hashlib.md5)
    (malloc : (size : Nat) → {buffer : Bytes // buffer.length = size}) (info : HidDevice) (progress : Progress)
    {image : Bytes} (hfull : validateFullRestoreImage image = .ok ()) (hd : Armed .hid d)
    (hflash : d.flash.length = FLASH_SIZE) (hbefore : Run hw d ls d₁) (hls : ∀ l ∈ ls, ¬l.Programs ∧ l.SplReads)
    (ubootRead : Bool) :
    ∃ blob plan link ls' d₂, buildUpdateBlob hashlib image 0 = .ok (blob, plan) ∧
      (restoreBlob blob plan progress).interact (Updater.Link.answer (.allocating malloc hashlib.md5) info)
        Updater.Link.fresh = (link, .returned ()) ∧
      link.effects = performed ls' ∧ Run hw d₁ (.reset true ubootRead :: ls') d₂ ∧ d₂.flash = image ∧
      ∀ splRead ubootRead d₃, Boots hw image splRead ubootRead d₃ → ∀ transport u, d₃.mode ≠ .updater transport u := by
  obtain ⟨hkept, hd₁⟩ := run_staysArmed hbefore hls hd
  have hreset : Step hw d₁ (.reset true ubootRead) ⟨d₁.flash, .updater .hid .fresh⟩ := by
    have hboots : Boots hw d₁.flash true ubootRead _ := .updater hd₁.path
    -- U-Boot falls through to HID, whether or not it can read the words
    have htransport : selectUpdateTransport (wordsRead ubootRead d₁.flash) = .hid := by
      cases ubootRead with
      | true => exact hd₁.transport
      | false => rfl
    rw [htransport] at hboots
    exact .reset hboots
  obtain ⟨blob, plan, link, ls', u', hbuild, hsession, heffects, hrun⟩ :=
    run_restoreBlob hchip hashlib hmd5 malloc info progress hfull (hkept ▸ hflash) hsector .fresh
  exact ⟨blob, plan, link, ls', _, hbuild, hsession, heffects, .cons hreset hrun, rfl,
    fun _ _ _ => boots_ne_updater (normalBoot_of_full hfull)⟩

theorem validateFull_zeros : validateFullRestoreImage (List.replicate 0x800000 0) = .ok () := by
  refine validateFullRestoreImage_eq_ok.mpr ⟨List.length_replicate, ?_⟩
  rw [u32, slice_replicate _ _ (by decide)]
  decide

-- a transfer that was cut off, made up for with another image
theorem restore_recovers_cutOff : ∃ flash metadata packet ls d,
    Run sampleHardware ⟨flash, .off⟩
      [.reset true true, .report metadata [Updater.sendAck 0], .report packet [Updater.sendAck 1]] ⟨flash, .off⟩ ∧
    Run sampleHardware ⟨flash, .off⟩ (.reset true false :: ls) d ∧ d.flash = List.replicate 0x800000 0 ∧
    ∀ splRead ubootRead d', Boots sampleHardware d.flash splRead ubootRead d' →
      ∀ transport u, d'.mode ≠ .updater transport u := by
  obtain ⟨payload, hpayload⟩ : ∃ payload, upgradeFlagPayload UPGRADE_MODE_HID = .ok payload := ⟨_, rfl⟩
  have hlength := HidUpdate.length_upgradeFlagPayload hpayload
  obtain ⟨hpath, htransport⟩ := armed_of_payload hpayload
  have hwords := sampleHardware_stores.setFlash _ _ _ hlength (stored_blank hlength)
  have hblank : blankFlash.length = FLASH_SIZE := List.length_replicate
  have hend : UPGRADE_WORD_OFFSET + payload.length ≤ blankFlash.length := by
    rw [hblank, hlength]
    decide
  have hsize : (splice blankFlash UPGRADE_WORD_OFFSET (UPGRADE_WORD_OFFSET + payload.length) payload).length =
      FLASH_SIZE := by
    rw [length_splice_of_fit _ _ (Nat.le_add_right _ _) hend (by omega), hblank]
  generalize splice blankFlash UPGRADE_WORD_OFFSET (UPGRADE_WORD_OFFSET + payload.length) payload = flash at hwords hsize
  have harmed : Armed .hid ⟨flash, .off⟩ :=
    { path := by rw [hwords]; exact hpath
      transport := by rw [hwords]; exact htransport
      mode := fun _ => Mode.noConfusion }
  obtain ⟨metadata, packet, hcut⟩ := exists_cutOff harmed
  have hchip : sampleHardware.chip.Works 0x1000 := sectored_works 0x1000
  have hsector : 0x1000 ∣ FLASH_SIZE := by decide
  have hmd5 : sampleHardware.md5 = Updater.constantHashlib.md5 := rfl
  obtain ⟨_, _, _, ls, d, -, -, -, hrun, hflash, hnext⟩ := restore_recovers hchip hsector Updater.constantHashlib hmd5
    Updater.erasedMalloc ⟨BOOT_VID, BOOT_HID_PID, none, "hidraw0"⟩ .silent validateFull_zeros harmed hsize hcut
    (cutOff_labels _ _) false
  exact ⟨flash, metadata, packet, ls, d, hcut, hrun, hflash, hflash ▸ hnext⟩

end Recovery

end Cc2Camera.Lifecycle
