import Cc2Camera.Adb.Waiting
import Cc2Camera.Restore.Law

/-!
# Contract — what `command_restore` promises its user

The promises one by one, of every run, as the license of each report says them.
-/

open Bytes Exceptions Program Shell

namespace Cc2Camera

open Protocol Commands Host HidTransport AdbBackup RestorePrepare

section Contract

variable (hashlib : Hashlib) (unicode : Unicode) (pyText : PyText) (json : JsonCodec) (args : RestoreArgs)
  (file : FileView)

/-- Three reads in a row returned one image, the backup's outside the windows in which a unit may differ from it. -/
def ReadAsBackup (preserved : Bytes) (t : Trace) : Prop :=
  ∃ (before reads after : Trace) (parts : List MtdPartition) (live : Bytes), t = before ++ reads ++ after ∧
    ThreeEqualReads unicode args.client parts live reads ∧
    ∀ range ∈ immutableRanges, slice live range.1 range.2 = slice preserved range.1 range.2

/-- What is promised of a run with trace `t` that ended as `o`. -/
structure RestoreContract (t : Trace) (o : Outcome Exc Nat) : Prop where
  /-- A dry run reads the image and prints. -/
  dryRun : args.dryRun = true → ∀ e ∈ t, Offline args e.op
  /-- Every check has passed and `RESTORE-CC2` was given at a terminal before anything is changed. -/
  approved : ∀ before event after, t = before ++ event :: after → Mutates args.client event.op →
    ∃ c approval since, Approved hashlib pyText json args file c approval ∧ before = approval ++ since
  upgradeOnce : ∀ before first middle second after, t = before ++ first :: (middle ++ second :: after) →
    ¬(IsUpgradeRequest first.op ∧ IsUpgradeRequest second.op)
  /-- `prepare_restore` has returned before the upgrade is requested, on three reads that agree with the backup. -/
  upgradePrepared : ∀ before event after, t = before ++ event :: after → IsUpgradeRequest event.op →
    ∃ c prepared since, Prepared hashlib unicode pyText json args file c prepared ∧ before = prepared ++ since ∧
      ReadAsBackup unicode args c.preserved prepared
  /-- The upgrade request was acknowledged before any report to the bootloader. -/
  transferEntered : ∀ before event after, t = before ++ event :: after → IsReportTo BOOT_VID BOOT_HID_PID event.op →
    ∃ c entered since, Entered hashlib unicode pyText json args file c entered ∧ before = entered ++ since
  /-- The user was asked once more, behind the transfer, before the upload that starts `adbd`. -/
  startConsented : ∀ before event after, t = before ++ event :: after → IsUploadReport event.op →
    ∃ c consented since, Consented hashlib unicode pyText json args file c consented ∧ before = consented ++ since
  /-- Without `--dry-run`, a return of 0 says what the flash was read back as. -/
  success : args.dryRun = false → o = .returned 0 → ∃ c, PostVerified hashlib unicode pyText json args file c t

variable {hashlib unicode pyText json args file} {pretty : Json → String} {rounds : Rounds} {c : Checked}
  {before t : Trace} {op : Op}

theorem IsReportTo.mutates {adb : AdbClient} {vid pid : Nat} (h : IsReportTo vid pid op) : Mutates adb op := by
  obtain ⟨handle, report, hop, -⟩ := h
  exact .inl ⟨handle, report, hop⟩

theorem IsUploadReport.mutates {adb : AdbClient} (h : IsUploadReport op) : Mutates adb op := by
  obtain ⟨handle, report, hop, -⟩ := h
  exact .inl ⟨handle, report, hop⟩

/-! ## What a license says -/

theorem Prepared.approved (h : Prepared hashlib unicode pyText json args file c t) :
    ∃ approval since, Approved hashlib pyText json args file c approval ∧ t = approval ++ since := by
  obtain ⟨approval, announced, p, happroved, -, -, rfl⟩ := h
  exact ⟨approval, announced ++ p, happroved, List.append_assoc ..⟩

theorem Entered.approved (h : Entered hashlib unicode pyText json args file c t) :
    ∃ approval since, Approved hashlib pyText json args file c approval ∧ t = approval ++ since := by
  obtain ⟨prepared, announced, u, hprepared, -, rfl⟩ := h
  obtain ⟨approval, since, happroved, rfl⟩ := hprepared.approved
  exact ⟨approval, since ++ announced ++ u, happroved, by simp only [List.append_assoc]⟩

theorem Consented.approved (h : Consented hashlib unicode pyText json args file c t) :
    ∃ approval since, Approved hashlib pyText json args file c approval ∧ t = approval ++ since := by
  obtain ⟨transferred, between, answer, ⟨entered, waited, x, hentered, -, rfl⟩, -, -, rfl⟩ := h
  obtain ⟨approval, since, happroved, rfl⟩ := hentered.approved
  exact ⟨approval, since ++ waited ++ x ++ between ++ [⟨.input ADB_QUESTION, .ok answer⟩], happroved,
    by simp only [List.append_assoc]⟩

theorem Licensed.approved (h : Licensed hashlib unicode pyText json args file c before op) :
    ∃ approval since, Approved hashlib pyText json args file c approval ∧ before = approval ++ since := by
  have hbehind {stage since : Trace} (hstage : ∃ approval rest, Approved hashlib pyText json args file c approval ∧
      stage = approval ++ rest) (hbefore : before = stage ++ since) :
      ∃ approval since, Approved hashlib pyText json args file c approval ∧ before = approval ++ since := by
    obtain ⟨approval, rest, happroved, rfl⟩ := hstage
    exact ⟨approval, rest ++ since, happroved, by rw [hbefore, List.append_assoc]⟩
  cases h with
  | ram announced e happroved he hbefore => exact ⟨_, announced ++ e.trace, happroved, by rw [hbefore, List.append_assoc]⟩
  | upgrade opening hprepared hbefore => exact hbehind hprepared.approved hbefore
  | transfer since hentered hbefore => exact hbehind hentered.approved hbefore
  | startAdb since hconsented hbefore => exact hbehind hconsented.approved hbefore

theorem Prepared.readAsBackup (h : Prepared hashlib unicode pyText json args file c t) :
    ReadAsBackup unicode args c.preserved t := by
  obtain ⟨approval, announced, p, -, -, ⟨e, command, pointerNow, value, -, he, rfl, -⟩, rfl⟩ := h
  obtain ⟨identification, reads, clock, hacquisition, -, hequal⟩ := he.checks.stable
  refine ⟨approval ++ announced ++ (e.checks.online ++ e.checks.camera ++ identification), _,
    clock ++ e.checks.partitions ++ e.kallsyms ++ e.instructions ++ e.pointerRead ++ e.valueRead ++ e.flush ++
      e.cameraAgain ++ command ++ pointerNow ++ value, _, _, ?_, hequal, he.checks.unchanged⟩
  simp only [Evidence.trace, CameraChecks.trace, hacquisition, List.append_assoc]

-- which license a report has is decided by its handle and its command
theorem Licensed.prepared (h : Licensed hashlib unicode pyText json args file c before op) (hop : IsUpgradeRequest op) :
    ∃ prepared since, Prepared hashlib unicode pyText json args file c prepared ∧ before = prepared ++ since := by
  obtain ⟨handle, report, rfl, -, hpid, hgroup⟩ := hop
  cases h with
  | upgrade opening hprepared hbefore => exact ⟨_, opening, hprepared, hbefore⟩
  | transfer _ _ _ hboot =>
    obtain ⟨_, _, hsame, -, hother⟩ := hboot
    obtain ⟨rfl, -⟩ := Op.hidWrite.inj hsame
    exact absurd (hother.symm.trans hpid) (by decide)
  | startAdb _ _ _ _ _ hupload => exact absurd (hgroup.symm.trans hupload) (by decide)

theorem Licensed.entered (h : Licensed hashlib unicode pyText json args file c before op)
    (hop : IsReportTo BOOT_VID BOOT_HID_PID op) :
    ∃ entered since, Entered hashlib unicode pyText json args file c entered ∧ before = entered ++ since := by
  obtain ⟨handle, report, rfl, -, hpid⟩ := hop
  cases h with
  | upgrade _ _ _ _ _ _ hother => exact absurd (hpid.symm.trans hother) (by decide)
  | transfer since hentered hbefore => exact ⟨_, since, hentered, hbefore⟩
  | startAdb _ _ _ _ hother => exact absurd (hpid.symm.trans hother) (by decide)

theorem Licensed.consented (h : Licensed hashlib unicode pyText json args file c before op) (hop : IsUploadReport op) :
    ∃ consented since, Consented hashlib unicode pyText json args file c consented ∧ before = consented ++ since := by
  obtain ⟨handle, report, rfl, -, hpid, hgroup⟩ := hop
  cases h with
  | upgrade _ _ _ _ hrequest =>
    obtain ⟨-, -, payload, -, haccepted⟩ := HidUpdate.accepted_of_upgrade hrequest
    rw [haccepted.command] at hgroup
    exact absurd hgroup (show ¬0x4000 / 0x1000 = 3 by decide)
  | transfer _ _ _ hboot =>
    obtain ⟨_, _, hsame, -, hother⟩ := hboot
    obtain ⟨rfl, -⟩ := Op.hidWrite.inj hsame
    exact absurd (hother.symm.trans hpid) (by decide)
  | startAdb since hconsented hbefore => exact ⟨_, since, hconsented, hbefore⟩

/-! ## The contract -/

/-- Every run of `command_restore`, with every answer of the user, the camera and the computer, cut off anywhere. -/
theorem commandRestore_contract {o : Outcome Exc Nat}
    (h : Runs (commandRestore hashlib unicode pyText json pretty args file rounds) t o) :
    RestoreContract hashlib unicode pyText json args file t o := by
  have hdry : args.dryRun = true → ∀ e ∈ t, Offline args e.op := by
    intro hdry
    rw [commandRestore_dry hdry] at h
    exact (World.runsIn_history h []).uses only_commandPlan
  have hlicensed : ∀ before event after, t = before ++ event :: after → Mutates args.client event.op →
      ∃ c, Licensed hashlib unicode pyText json args file c before event.op := by
    cases hrun : args.dryRun with
    | true => exact licensed_of_offline (hdry hrun)
    | false =>
      intro before event after ht
      exact licensed_of_mayIssue ((wp_sound (wp_commandRestore hrun) h).1 before event after ht)
  refine
    { dryRun := hdry, approved := ?_, upgradeOnce := ?_, upgradePrepared := ?_, transferEntered := ?_
      startConsented := ?_, success := ?_ }
  · intro before event after ht hmutates
    obtain ⟨c, hc⟩ := hlicensed before event after ht hmutates
    exact ⟨c, hc.approved⟩
  · exact fun before first middle second after ht => (once_of_licensed hlicensed before first middle second after ht).2
  · intro before event after ht hupgrade
    obtain ⟨c, hc⟩ := hlicensed before event after ht hupgrade.mutates
    obtain ⟨prepared, since, hprepared, hbefore⟩ := hc.prepared hupgrade
    exact ⟨c, prepared, since, hprepared, hbefore, hprepared.readAsBackup⟩
  · intro before event after ht hboot
    obtain ⟨c, hc⟩ := hlicensed before event after ht hboot.mutates
    exact ⟨c, hc.entered hboot⟩
  · intro before event after ht hupload
    obtain ⟨c, hc⟩ := hlicensed before event after ht hupload.mutates
    exact ⟨c, hc.consented hupload⟩
  · intro hrun ho
    exact (wp_sound (wp_commandRestore hrun) h).2.1 0 ho

end Contract

/-! ## A restore whose camera comes back without `adbd` -/

section Consented

theorem canReturn_startAdb : CanReturn startAdbThroughUploadCommand () := by
  obtain ⟨start, hstart⟩ := HidUpdate.exists_built_bare (show 0x3000 < 2 ^ 16 by decide)
  obtain ⟨commit, hcommit⟩ := HidUpdate.exists_built_bare (show 0x3300 < 2 ^ 16 by decide)
  obtain ⟨target, htarget⟩ := HidUpdate.exists_built_adbTarget
  obtain ⟨packet, hpacket⟩ : ∃ packet, buildUploadDataRequest 0 ADB_UPLOAD_COMMAND_CONTENT true = .ok packet :=
    HidUpdate.exists_built_data true (by decide) (by decide)
  have hsent {request : HidUpdate.UploadRequest} {report : Bytes} (hbuilt : HidUpdate.Built request report)
      (hcommand : request.frame.command < 2 ^ 16) (handle : HidHandle) : CanReturn (exchange handle report) () := by
    obtain ⟨hlength, haccepted⟩ := HidUpdate.accepted_of_built_request hbuilt
    exact canReturn_acknowledged handle (HidUpdate.parse_of_accepted hlength haccepted).1 hcommand
  refine canReturn_bind (canReturn_lift hstart) (canReturn_bind (canReturn_lift htarget) ?_)
  refine canReturn_bind (canReturn_lift hpacket) (canReturn_bind (canReturn_lift hcommit) ?_)
  refine canReturn_bind (canReturn_openHandle _ _) (canReturn_ensuring ?_ (canReturn_call (.hidClose _) ()))
  refine canReturn_bind (hsent (.start hstart) (by decide) _) (canReturn_bind (hsent (.adbTarget htarget) (by decide) _) ?_)
  exact canReturn_bind (hsent (.data hpacket) (by decide) _) (canReturn_handle (hsent (.commit hcommit) (by decide) _))

theorem runs_reading (now : ℚ) : Runs (call .monotonic) [reading now] (.returned now) := runs_call.mpr rfl

theorem runs_unexpired {remaining : ℚ} (msg : String) (h : 0 < remaining) :
    Runs (raiseWhenExpired remaining msg) [] (.returned ()) := runs_lift.mpr ⟨raiseIf_of_not (not_le_of_gt h), rfl⟩

theorem runs_firstOffline : Runs (firstAvailability utf8 plainText erasedArgs 120)
    [reading 0, ⟨getState plainAdb 10, .ok offlineState⟩] (.raised offlineFailure) := by
  refine runs_bind_of_returned (runs_reading 0) (runs_bind_of_returned (runs_unexpired _ (by norm_num)) ?_)
  rw [show min 10 (120 - 0 : ℚ) = 10 by norm_num]
  exact check_offline

theorem canReturn_waitOnline : CanReturn (plainAdb.waitForDevice utf8 plainText 120 1) () := by
  have hround : Runs (plainAdb.waitLoop utf8 plainText (0 + 120) (0 + 1) "ADB has not been checked")
      [reading 0, ⟨getState plainAdb 10, .ok onlineState⟩] (.returned ()) := by
    refine runs_onlineRound (by norm_num) ?_
    rw [show min 10 (0 + 120 - 0 : ℚ) = 10 by norm_num]
    exact check_online
  refine canReturn_bind (canReturn_lift (raiseIf_of_not (by norm_num))) ?_
  exact canReturn_bind (canReturn_call .monotonic (0 : ℚ)) ⟨_, hround⟩

/-- The user is asked, answers `y`, and `adbd` is started. -/
theorem runs_startTemporary : ∃ t, Runs (startTemporaryAdb utf8 plainText erasedArgs ⟨1, 1, 1⟩ 120) t (.returned ()) ∧
    ⟨.input ADB_QUESTION, .ok "y"⟩ ∈ t := by
  obtain ⟨started, hstarted⟩ := canReturn_startAdb
  obtain ⟨waited, hwaited⟩ := canReturn_waitOnline
  have hasked : Runs (confirmTemporaryAdbForReadback utf8 plainText)
      [⟨.isatty, .ok true⟩, ⟨.input ADB_QUESTION, .ok "y"⟩] (.returned ()) := by
    refine runs_bind_of_returned (runs_call.mpr rfl) (runs_bind_of_returned (runs_lift.mpr ⟨rfl, rfl⟩) ?_)
    exact runs_bind_of_returned (runs_call.mpr rfl) (runs_lift.mpr ⟨raiseIf_of_not (by decide), rfl⟩)
  have hhanded {g : Exc → Exc} {p : Host Unit} {t : Trace} (h : Runs p t (.returned ())) :
      Runs (p.handle fun x => .raise (g x)) t (.returned ()) := (runs_handle_raises fun x => ⟨_, rfl⟩).mpr h
  refine ⟨[⟨.isatty, .ok true⟩, ⟨.input ADB_QUESTION, .ok "y"⟩] ++ ([reading 0] ++ ([] ++ (started ++ ([reading 0] ++
    ([] ++ waited))))), ?_, by simp⟩
  refine runs_bind_of_returned hasked (runs_bind_of_returned (runs_reading 0) ?_)
  refine runs_bind_of_returned (runs_unexpired _ (by norm_num)) (runs_bind_of_returned (hhanded hstarted) ?_)
  refine runs_bind_of_returned (runs_reading 0) (runs_bind_of_returned (runs_unexpired _ (by norm_num)) ?_)
  rw [sub_zero]
  exact hhanded hwaited

theorem commandRestore_contract_consented : ∃ t,
    Runs (commandRestore stockHashlib utf8 plainText stockJson (fun _ => "") erasedArgs bareFile ⟨1, 1, 1⟩) t
      (.returned 0) ∧ ⟨.input ADB_QUESTION, .ok "y"⟩ ∈ t ∧
        RestoreContract stockHashlib utf8 plainText stockJson erasedArgs bareFile t (.returned 0) := by
  obtain ⟨started, hstarted, hmem⟩ := runs_startTemporary
  have hdeadline : (0 : ℚ) + erasedArgs.adbTimeout = 120 := zero_add 120
  have hawait : Runs (awaitAdb utf8 plainText erasedArgs ⟨1, 1, 1⟩)
      ([reading 0] ++ ([reading 0, ⟨getState plainAdb 10, .ok offlineState⟩] ++ started)) (.returned ()) := by
    refine runs_bind_of_returned (runs_reading 0) ?_
    rw [hdeadline]
    exact runs_handle_of_raised runs_firstOffline hstarted
  obtain ⟨before, after, hrun⟩ := runs_commandErased hawait
  refine ⟨_, hrun, ?_, commandRestore_contract hrun⟩
  simp [hmem]

end Consented

/-! ## A dry run -/

section DryRun

def dryArgs : RestoreArgs := { erasedArgs with dryRun := true }

theorem canReturn_commandPlan :
    CanReturn (commandRestore stockHashlib utf8 plainText stockJson (fun _ => "") dryArgs bareFile ⟨1, 1, 1⟩) 0 := by
  obtain ⟨blob, plan, hbuild, -⟩ := canReturn_restoreErased
  have hbackup : planBackup stockHashlib plainText stockJson dryArgs bareFile erasedImage = .ok (some erasedImage) := by
    show (loadPreservedBackup stockHashlib plainText stockJson barePath bareFile >>= _) = _
    rw [loadPreservedBackup_stock, ok_bind, validateReplacement_erased, ok_bind, Installer.validatePreparationImage_stock]
    rfl
  rw [commandRestore_dry rfl]
  refine canReturn_bind (canReturn_call (.readBytes _) erasedImage) (canReturn_bind (canReturn_lift validateFull_erased) ?_)
  refine canReturn_bind (canReturn_lift hbackup) (canReturn_bind (canReturn_lift hbuild) ?_)
  exact canReturn_bind (canReturn_call (.print _) ()) (canReturn_ret 0)

/-- Behind a transfer there is a report in the history. -/
theorem PostVerified.report {hashlib : Hashlib} {unicode : Unicode} {pyText : PyText} {json : JsonCodec} {args : RestoreArgs}
    {file : FileView} {c : Checked} {t : Trace} (h : PostVerified hashlib unicode pyText json args file c t) :
    ∃ e ∈ t, ∃ handle report, e.op = .hidWrite handle report := by
  obtain ⟨_, _, _, _, _, _, _, _, ⟨_, _, _, ⟨_, _, _, -, ⟨handle, request, _, count, _, -, -, -, -, rfl⟩, rfl⟩, -, rfl⟩,
    rfl, -⟩ := h
  exact ⟨⟨.hidWrite handle request, .ok count⟩, by simp, handle, request, rfl⟩

/-- A dry run returns 0, and nothing was transferred or read back. -/
theorem commandRestore_unverified : ¬∀ t,
    Runs (commandRestore stockHashlib utf8 plainText stockJson (fun _ => "") dryArgs bareFile ⟨1, 1, 1⟩) t (.returned 0) →
      ∃ c, PostVerified stockHashlib utf8 plainText stockJson dryArgs bareFile c t := by
  intro hall
  obtain ⟨t, ht⟩ := canReturn_commandPlan
  obtain ⟨c, hverified⟩ := hall t ht
  obtain ⟨e, hmem, handle, report, hop⟩ := hverified.report
  rw [commandRestore_dry rfl] at ht
  have hquiet : Quiet dryArgs.client e.op := ((World.runsIn_history ht []).uses only_commandPlan e hmem).quiet
  exact not_mutates_of_quiet hquiet (.inl ⟨handle, report, hop⟩)

end DryRun

end Cc2Camera
