import Cc2Camera.Device.Link
import Cc2Camera.Device.Session
import Cc2Camera.Restore.Stages

/-!
# Law — every run of `command_restore`

Stage by stage: what a part of the command issues is quiet or licensed, and how it returned makes the next stage.
-/

open Bytes Exceptions Program Shell

namespace Cc2Camera

open Protocol Commands Host HidTransport AdbBackup RestorePrepare

section Parts

variable {hashlib : Hashlib} {unicode : Unicode} {pyText : PyText} {json : JsonCodec} {pretty : Json → String}
  {args : RestoreArgs} {file : FileView} {c : Checked} {rounds : Rounds} {adb : AdbClient} {t : Trace}

/-! ## Quiet parts -/

theorem quiet_printAll (texts : List String) : Only (Quiet adb) (printAll texts) := only_printAll quiet_print texts

theorem quiet_of_reads {α : Type} {p : Host α} (h : Only (Reads adb) p) : Only (Quiet adb) p :=
  only_mono h fun _ => quiet_reads

theorem quiet_confirmWrite (image : Bytes) : Only (Quiet adb) (confirmWrite hashlib args image) := by
  refine only_bind (only_call .isatty) fun terminal => only_bind (only_lift _) fun _ => ?_
  refine only_bind (quiet_printAll _) fun _ => only_bind (only_call (.input _)) fun phrase => ?_
  exact only_lift _

theorem quiet_checkRestore : Only (Quiet adb) (checkRestore hashlib pyText json args file) := by
  refine only_bind (only_lift _) fun preserved => only_bind (only_call (quiet_reads (.readBytes _))) fun image => ?_
  refine only_bind (only_lift _) fun _ => only_bind (only_lift _) fun _ => only_bind (quiet_printAll _) fun _ => ?_
  refine only_bind (only_lift _) fun built => only_bind (only_lift _) fun _ => ?_
  exact only_bind (quiet_confirmWrite image) fun _ => only_pure _

theorem quiet_waitForHidUntil (vid pid : Nat) (deadline : ℚ) (fuel : Nat) :
    Only (Quiet adb) (waitForHidUntil vid pid deadline fuel) := by
  induction fuel with
  | zero => trivial
  | succ fuel ih =>
    refine only_bind (only_call .monotonic) fun now => only_ite ?_ trivial
    refine only_bind (only_call (.enumerate vid pid)) fun found => only_ite (only_pure _) ?_
    exact only_bind (only_call (.sleep _)) fun _ => ih

theorem quiet_waitForHid (vid pid : Nat) (timeout : ℚ) (fuel : Nat) :
    Only (Quiet adb) (waitForHid vid pid timeout fuel) :=
  only_bind (only_call .monotonic) fun _ => quiet_waitForHidUntil vid pid _ fuel

theorem quiet_waitLoop (deadline : ℚ) (budget : Nat) (lastState : String) :
    Only (Quiet adb) (adb.waitLoop unicode pyText deadline budget lastState) := by
  induction budget generalizing lastState with
  | zero => trivial
  | succ budget ih =>
    refine only_bind (only_call .monotonic) fun now => only_bind (only_lift _) fun _ => ?_
    refine only_bind (uses_attempt (quiet_of_reads (reads_ensureAvailable _))) fun outcome => ?_
    cases outcome with
    | ok _ => exact only_pure _
    | error x =>
      refine only_bind (only_lift _) fun _ => only_bind (only_call .monotonic) fun later => ?_
      exact only_bind (only_lift _) fun _ => only_bind (only_call (.sleep _)) fun _ => ih _

theorem quiet_waitForDevice (timeout : ℚ) (budget : Nat) :
    Only (Quiet adb) (adb.waitForDevice unicode pyText timeout budget) :=
  only_bind (only_lift _) fun _ => only_bind (only_call .monotonic) fun _ => quiet_waitLoop _ budget _

theorem quiet_confirmTemporaryAdb : Only (Quiet adb) (confirmTemporaryAdbForReadback unicode pyText) := by
  refine only_bind (only_call .isatty) fun terminal => only_bind (only_lift _) fun _ => ?_
  exact only_bind (only_call (.input _)) fun answer => only_lift _

/-! ## Runs that return -/

theorem confirmWrite_returned {image : Bytes} (h : Runs (confirmWrite hashlib args image) t (.returned ())) :
    ⟨.isatty, .ok true⟩ ∈ t ∧
      ∃ earlier, t = earlier ++ [⟨.input "Type RESTORE-CC2 to continue: ", .ok "RESTORE-CC2"⟩] := by
  obtain ⟨t₁, terminal, t₂, hterminal, h₁, rfl⟩ := runs_bind.mp h
  obtain rfl := runs_call.mp hterminal
  obtain ⟨t₃, _, t₄, hchecked, h₂, rfl⟩ := runs_bind.mp h₁
  obtain ⟨hyes, rfl⟩ := runs_lift.mp hchecked
  obtain ⟨t₅, _, t₆, hprinted, h₃, rfl⟩ := runs_bind.mp h₂
  obtain ⟨t₇, phrase, t₈, hphrase, h₄, rfl⟩ := runs_bind.mp h₃
  obtain rfl := runs_call.mp hphrase
  obtain ⟨hsame, rfl⟩ := runs_lift.mp h₄
  have hterminal : terminal = true := Bool.of_not_eq_false (raiseIf_eq_ok.mp hyes)
  have hphrase : phrase = "RESTORE-CC2" := not_not.mp (raiseIf_eq_ok.mp hsame)
  rw [hterminal, hphrase]
  exact ⟨List.mem_append_left _ List.mem_cons_self, [⟨.isatty, .ok true⟩] ++ t₅, by simp⟩

theorem approved_of_checkRestore (h : Runs (checkRestore hashlib pyText json args file) t (.returned c))
    (hquiet : ∀ e ∈ t, Quiet args.client e.op) : Approved hashlib pyText json args file c t := by
  obtain ⟨t₁, preserved, t₂, hload, h₁, rfl⟩ := runs_bind.mp h
  obtain ⟨hloaded, rfl⟩ := runs_lift.mp hload
  obtain ⟨t₃, image, t₄, hread, h₂, rfl⟩ := runs_bind.mp h₁
  obtain rfl := runs_call.mp hread
  obtain ⟨t₅, _, t₆, hlength, h₃, rfl⟩ := runs_bind.mp h₂
  obtain ⟨hfull, rfl⟩ := runs_lift.mp hlength
  obtain ⟨t₇, _, t₈, hranges, h₄, rfl⟩ := runs_bind.mp h₃
  obtain ⟨hcompatible, rfl⟩ := runs_lift.mp hranges
  obtain ⟨note, _, t₉, hnote, h₅, rfl⟩ := runs_bind.mp h₄
  obtain ⟨t₁₀, ⟨blob, plan⟩, t₁₁, hbuild, h₆, rfl⟩ := runs_bind.mp h₅
  obtain ⟨hbuilt, rfl⟩ := runs_lift.mp hbuild
  obtain ⟨t₁₂, _, t₁₃, hstock, h₇, rfl⟩ := runs_bind.mp h₆
  obtain ⟨hkernel, rfl⟩ := runs_lift.mp hstock
  obtain ⟨t₁₄, _, t₁₅, hconfirm, hret, rfl⟩ := runs_bind.mp h₇
  obtain ⟨hc, rfl⟩ := runs_ret.mp hret
  obtain ⟨hterminal, earlier, rfl⟩ := confirmWrite_returned hconfirm
  subst hc
  refine
    { loaded := hloaded, read := ?_, full := hfull, compatible := hcompatible, built := hbuilt, kernel := hkernel
      terminal := ?_, phrase := ⟨⟨.readBytes args.image.str, .ok image⟩ :: (note ++ earlier), ?_⟩, quiet := hquiet }
  · exact List.mem_append_right _ (List.mem_append_left _ List.mem_cons_self)
  · simp only [List.mem_append] at hterminal ⊢
    tauto
  · simp

theorem confirmTemporaryAdb_returned (h : Runs (confirmTemporaryAdbForReadback unicode pyText) t (.returned ())) :
    ∃ answer, isAffirmative unicode pyText answer = true ∧
      t = [⟨.isatty, .ok true⟩, ⟨.input ADB_QUESTION, .ok answer⟩] := by
  obtain ⟨t₁, terminal, t₂, hterminal, h₁, rfl⟩ := runs_bind.mp h
  obtain rfl := runs_call.mp hterminal
  obtain ⟨t₃, _, t₄, hchecked, h₂, rfl⟩ := runs_bind.mp h₁
  obtain ⟨hyes, rfl⟩ := runs_lift.mp hchecked
  obtain ⟨t₅, answer, t₆, hanswer, h₃, rfl⟩ := runs_bind.mp h₂
  obtain rfl := runs_call.mp hanswer
  obtain ⟨haffirmative, rfl⟩ := runs_lift.mp h₃
  have hterminal : terminal = true := Bool.of_not_eq_false (raiseIf_eq_ok.mp hyes)
  rw [hterminal]
  exact ⟨answer, Bool.of_not_eq_false (raiseIf_eq_ok.mp haffirmative), rfl⟩

/-! ## Reports -/

theorem only_lift_bind {α β : Type} {ok : Op → Prop} {e : Except Exc α} {f : α → Host β}
    (hf : ∀ a, e = .ok a → Only ok (f a)) : Only ok (lift e >>= f) := by
  cases e with
  | ok a => exact hf a rfl
  | error x => trivial

/-- A body on a handle, opened before it and closed behind it. -/
theorem only_withHandle {ok : Op → Prop} (hok : ∀ op, Quiet adb op → ok op) {vid pid : Nat} {body : HidHandle → Host Unit}
    (hbody : ∀ handle : HidHandle, handle.vid = vid → handle.pid = pid → Only ok (body handle)) :
    Only ok (withHandle vid pid body) := by
  unfold withHandle openHandle
  refine ⟨hok _ (.enumerate vid pid), fun r => ?_⟩
  cases r with
  | error x => trivial
  | ok found =>
    cases found with
    | nil => trivial
    | cons info rest =>
      cases rest with
      | cons _ _ => trivial
      | nil =>
        refine ⟨hok _ (.openPath _), fun r => ?_⟩
        cases r with
        | error x => trivial
        | ok u => exact uses_ensuring (hbody _ rfl rfl) (only_call (hok _ (.close _)))

theorem only_writeExact {ok : Op → Prop} {handle : HidHandle} {report : Bytes} (h : ok (.hidWrite handle report)) :
    Only ok (writeExact handle report) := only_bind (only_call h) fun _ => only_lift _

theorem only_readReport {ok : Op → Prop} (hok : ∀ op, Quiet adb op → ok op) (handle : HidHandle) (size timeoutMs : Nat) :
    Only ok (readReport handle size timeoutMs) :=
  only_bind (only_call (hok _ (.read handle size timeoutMs))) fun _ => only_bind (only_lift _) fun _ => only_pure _

theorem only_exchange {ok : Op → Prop} (hok : ∀ op, Quiet adb op → ok op) {handle : HidHandle} {request : Bytes}
    (h : ok (.hidWrite handle request)) : Only ok (exchange handle request) := by
  refine only_bind (only_bind (only_lift _) fun sent => only_bind (only_writeExact h) fun _ => ?_) fun _ => only_pure _
  exact only_bind (only_readReport hok handle _ _) fun data => only_lift _

theorem reports_bootExchange {handle : HidHandle} (hvid : handle.vid = BOOT_VID) (hpid : handle.pid = BOOT_HID_PID)
    (request : Except Exc Bytes) (timeoutMs : Nat) (check : Bytes → Except Exc Unit) :
    Only (fun op => Quiet adb op ∨ IsReportTo BOOT_VID BOOT_HID_PID op) (bootExchange handle request timeoutMs check) := by
  refine only_bind (only_lift _) fun report => ?_
  refine only_bind (only_writeExact (.inr ⟨handle, report, rfl, hvid, hpid⟩)) fun _ => ?_
  exact only_bind (only_readReport (fun _ => .inl) handle _ _) fun data => only_lift _

theorem reports_sendPackets {handle : HidHandle} (hvid : handle.vid = BOOT_VID) (hpid : handle.pid = BOOT_HID_PID)
    (plan : UpdatePlan) (progress : Progress) (state : progress.State) (sequence : Nat) (pieces : List Bytes) :
    Only (fun op => Quiet adb op ∨ IsReportTo BOOT_VID BOOT_HID_PID op)
      (sendPackets plan progress handle state sequence pieces) := by
  induction pieces generalizing state sequence with
  | nil => exact only_pure _
  | cons piece rest ih =>
    refine only_bind (reports_bootExchange hvid hpid _ _ _) fun _ => ?_
    exact only_bind (only_mono (quiet_printAll _) fun _ => .inl) fun _ => ih _ _

theorem reports_restoreBlob (blob : Bytes) (plan : UpdatePlan) (progress : Progress) :
    Only (fun op => Quiet adb op ∨ IsReportTo BOOT_VID BOOT_HID_PID op) (restoreBlob blob plan progress) := by
  refine only_withHandle (fun _ => .inl) fun handle hvid hpid => ?_
  exact only_bind (reports_bootExchange hvid hpid _ _ _) fun _ => reports_sendPackets hvid hpid plan progress _ _ _

/-- The reports of an upload, on a handle to the normal-mode device. -/
def IsUploadReport (op : Op) : Prop :=
  ∃ handle report, op = .hidWrite handle report ∧ handle.vid = NORMAL_VID ∧ handle.pid = NORMAL_PID ∧
    u16 report 3 / 0x1000 = 3

theorem group_of_built {request : HidUpdate.UploadRequest} {report : Bytes} (h : HidUpdate.Built request report)
    (hgroup : request.command / 0x1000 = 3) : u16 report 3 / 0x1000 = 3 := by
  obtain ⟨-, haccepted⟩ := HidUpdate.accepted_of_built_request h
  have hcommand : u16 report 3 = request.command := by
    rw [haccepted.command]
    cases request <;> rfl
  rw [hcommand, hgroup]

theorem reports_startAdb :
    Only (fun op => Quiet adb op ∨ IsUploadReport op) startAdbThroughUploadCommand := by
  refine only_lift_bind fun start hstart => only_lift_bind fun target htarget => ?_
  refine only_lift_bind fun packet hpacket => only_lift_bind fun commit hcommit => ?_
  refine only_withHandle (fun _ => .inl) fun handle hvid hpid => ?_
  have hreport {request : HidUpdate.UploadRequest} {report : Bytes} (h : HidUpdate.Built request report)
      (hgroup : request.command / 0x1000 = 3) :
      Only (fun op => Quiet adb op ∨ IsUploadReport op) (exchange handle report) :=
    only_exchange (fun _ => .inl) (.inr ⟨handle, report, rfl, hvid, hpid, group_of_built h hgroup⟩)
  refine only_bind (hreport (.start hstart) rfl) fun _ => only_bind (hreport (.adbTarget htarget) rfl) fun _ => ?_
  refine only_bind (hreport (.data hpacket) rfl) fun _ => uses_handle (hreport (.commit hcommit) rfl) fun x _ => ?_
  exact only_ite (only_pure _) trivial

/-! ## The entry -/

section Entry

variable {allowed : Trace → Op → Prop}

/-- What a body does between the opening and the closing of its handle. -/
theorem wp_withHandle (hquiet : ∀ h op, Quiet adb op → allowed h op) {vid pid : Nat} {body : HidHandle → Host Unit}
    {h : Trace} (returns : Trace → Prop)
    (hbody : ∀ handle : HidHandle, handle.vid = vid → handle.pid = pid →
      (body handle).wp allowed (fun h' _ => returns (h' ++ [⟨.hidClose handle, .ok ()⟩])) (fun _ _ => True)
        (h ++ [⟨.hidEnumerate vid pid, .ok [handle.info]⟩, ⟨.hidOpenPath handle, .ok ()⟩])) :
    (withHandle vid pid body).wp allowed (fun h' _ => returns h') (fun _ _ => True) h := by
  unfold withHandle openHandle
  refine ⟨hquiet _ _ (.enumerate vid pid), fun r => ?_⟩
  cases r with
  | error x => trivial
  | ok found =>
    cases found with
    | nil => trivial
    | cons info rest =>
      cases rest with
      | cons _ _ => trivial
      | nil =>
        refine ⟨hquiet _ _ (.openPath _), fun r => ?_⟩
        cases r with
        | error x => trivial
        | ok u =>
          let handle : HidHandle := { vid := vid, pid := pid, info := info }
          show ((body handle).ensuring (call (.hidClose handle))).wp allowed _ _ _
          have hrun := hbody handle rfl rfl
          rw [List.append_assoc]
          apply wp_ensuring.mpr
          -- the handle is closed behind a body that returned and behind one that raised
          refine wp_mono hrun (fun h' _ hreturns => ⟨hquiet _ _ (.close _), fun r => ?_⟩) ?_
          · cases r with
            | error x => trivial
            | ok u => exact hreturns
          · intro h' x _
            refine ⟨hquiet _ _ (.close _), fun r => ?_⟩
            cases r with
            | error x => trivial
            | ok u => trivial

/-- A request is written where it is allowed; what it returned is the reply behind it. -/
theorem wp_exchange (hquiet : ∀ h op, Quiet adb op → allowed h op) {handle : HidHandle} {request : Bytes} {h : Trace}
    (hwrite : allowed h (.hidWrite handle request)) :
    (exchange handle request).wp allowed
      (fun h' _ => ∃ sent reply frame, ∃ count : Int, parseNormalReport request = .ok sent ∧
        checkReply sent.command reply = .ok frame ∧
        h' = h ++ [⟨.hidWrite handle request, .ok count⟩, ⟨.hidRead handle Protocol.NORMAL_REPORT_SIZE 5000, .ok reply⟩])
      (fun _ _ => True) h := by
  unfold exchange exchangeNormal writeExact readReport
  simp only [wp_bind]
  refine wp_ofExcept_end fun sent hparse => ⟨hwrite, fun r => wp_ofExcept_end fun count hcount => ?_⟩
  refine wp_ofExcept_end fun _ _ => ⟨hquiet _ _ (.read _ _ _), fun r' => wp_ofExcept_end fun reply hreply => ?_⟩
  refine wp_ofExcept_end fun _ _ => wp_ofExcept_end fun frame hframe => ?_
  subst hcount hreply
  exact ⟨sent, reply, frame, count, hparse, hframe, by simp⟩

theorem wp_enterBootloader (hquiet : ∀ h op, Quiet adb op → allowed h op) {h : Trace}
    (hwrite : ∀ handle : HidHandle, ∀ request, handle.vid = NORMAL_VID → handle.pid = NORMAL_PID →
      buildUpgradeRequest UPGRADE_MODE_HID 0x4000 = .ok request →
        allowed (h ++ [⟨.hidEnumerate NORMAL_VID NORMAL_PID, .ok [handle.info]⟩, ⟨.hidOpenPath handle, .ok ()⟩])
          (.hidWrite handle request)) :
    enterBootloader.wp allowed (fun h' _ => ∃ u, Acknowledged u ∧ h' = h ++ u) (fun _ _ => True) h := by
  unfold enterBootloader
  refine wp_ofExcept fun request hrequest => ?_
  refine wp_withHandle hquiet (fun h' => ∃ u, Acknowledged u ∧ h' = h ++ u) fun handle hvid hpid => ?_
  refine wp_mono (wp_exchange hquiet (hwrite handle request hvid hpid hrequest)) ?_ fun _ _ _ => trivial
  rintro h' _ ⟨sent, reply, frame, count, hparse, hframe, rfl⟩
  obtain ⟨hlength, -, payload, -, haccepted⟩ := HidUpdate.accepted_of_upgrade hrequest
  have hsent : sent = ⟨0x4000, 1, 0, payload⟩ := Except.ok.inj (hparse.symm.trans (HidUpdate.parse_of_accepted hlength haccepted).1)
  rw [hsent] at hframe
  exact ⟨_, ⟨handle, request, reply, count, frame, hrequest, hvid, hpid, hframe, rfl⟩, by simp⟩

end Entry

/-! ## The write -/

section Write

/-- Permission, for the restore at hand. -/
abbrev mayIssue (hashlib : Hashlib) (unicode : Unicode) (pyText : PyText) (json : JsonCodec) (args : RestoreArgs)
    (file : FileView) : Trace → Op → Prop := MayIssue hashlib unicode pyText json args file

theorem mayIssue_quiet {h : Trace} (t : Trace) (op : Op) (hop : Quiet args.client op) :
    mayIssue hashlib unicode pyText json args file (h ++ t) op := .inl hop

theorem silent_prepareRestore {preserved : Bytes} {progress : ReadProgress} {o : Outcome Exc Unit}
    (h : Runs (prepareRestore hashlib unicode pyText adb preserved progress) t o) :
    ∀ event ∈ t, ∀ handle report, event.op ≠ .hidWrite handle report := by
  intro event hevent handle report hop
  obtain ⟨before, after, rfl⟩ := List.append_of_mem hevent
  have hthis := (wp_sound wp_prepareRestore h).1 before event after rfl
  rw [hop] at hthis
  cases hthis with
  | look h => exact not_hidWrite_of_looks h

theorem silent_of_quiet (h : ∀ e ∈ t, Quiet adb e.op) : ∀ e ∈ t, ∀ handle report, e.op ≠ .hidWrite handle report :=
  fun e he handle report hop => not_mutates_of_quiet (h e he) (.inl ⟨handle, report, hop⟩)

/-- The preparation behind the approval: the RAM write has all its evidence, and no report is sent. -/
theorem wp_prepared {approval announced : Trace} (h : Approved hashlib pyText json args file c approval)
    (hannounced : ∀ e ∈ announced, Quiet args.client e.op) :
    (prepareRestore hashlib unicode pyText args.client c.preserved readProgress).wp
      (mayIssue hashlib unicode pyText json args file)
      (fun h' _ => Prepared hashlib unicode pyText json args file c h' ∧
        ∀ e ∈ h', ∀ handle report, e.op ≠ .hidWrite handle report) (fun _ _ => True) (approval ++ announced) := by
  have hallowed : ∀ before op, permitted hashlib unicode pyText args.client c.preserved before op →
      mayIssue hashlib unicode pyText json args file (approval ++ announced ++ before) op := by
    intro before op hpermitted
    cases hpermitted with
    | look hlooks => exact .inl (.looks hlooks)
    | guarded e he hbefore hlooks =>
      refine .inr ⟨c, .ram announced e h he (by rw [hbefore]) ?_⟩
      rw [List.forall_mem_append, ← hbefore]
      exact ⟨hannounced, fun event hevent => .looks (hlooks event hevent)⟩
  -- the law of the preparation on its own, moved behind the approval
  have hprepare : (prepareRestore hashlib unicode pyText args.client c.preserved readProgress).wp
      (permitted hashlib unicode pyText args.client c.preserved)
      (fun h _ => Confirmed hashlib unicode pyText args.client c.preserved h) (fun _ _ => True) [] := wp_prepareRestore
  have hshifted := wp_shift (approval ++ announced) (wp_runs hprepare) hallowed
  rw [List.append_nil] at hshifted
  refine wp_mono hshifted ?_ fun _ _ _ => trivial
  rintro h' _ ⟨p, rfl, hconfirmed, t, rfl, hrun⟩
  refine ⟨⟨approval, announced, _, h, hrun, hconfirmed, rfl⟩, ?_⟩
  simp only [List.forall_mem_append]
  exact ⟨⟨silent_of_quiet h.quiet, silent_of_quiet hannounced⟩, silent_prepareRestore hrun⟩

theorem wp_writeImage {approval : Trace} (h : Approved hashlib pyText json args file c approval) :
    (writeImage hashlib unicode pyText args rounds c).wp (mayIssue hashlib unicode pyText json args file)
      (fun h' _ => ∃ transferred between, Transferred hashlib unicode pyText json args file c transferred ∧
        h' = transferred ++ between) (fun _ _ => True) approval := by
  unfold writeImage
  refine wp_step (only_call (quiet_print _)) mayIssue_quiet fun announced _ _ hannounced => ?_
  refine wp_bind.mpr (wp_mono (wp_prepared h hannounced) ?_ fun _ _ _ => trivial)
  rintro prepared _ ⟨hprepared, hfirst⟩
  refine wp_step (only_call (quiet_print _)) mayIssue_quiet fun entering _ _ hentering => ?_
  have hupgrade : ∀ handle : HidHandle, ∀ request, handle.vid = NORMAL_VID → handle.pid = NORMAL_PID →
      buildUpgradeRequest UPGRADE_MODE_HID 0x4000 = .ok request →
        mayIssue hashlib unicode pyText json args file
          (prepared ++ entering ++
            [⟨.hidEnumerate NORMAL_VID NORMAL_PID, .ok [handle.info]⟩, ⟨.hidOpenPath handle, .ok ()⟩])
          (.hidWrite handle request) := by
    intro handle request hvid hpid hrequest
    -- neither the approval nor the preparation has sent a report
    refine .inr ⟨c, .upgrade _ hprepared (List.append_assoc _ _ _) ?_ hrequest hvid hpid⟩
    simp only [List.forall_mem_append, List.forall_mem_cons]
    exact ⟨⟨hfirst, silent_of_quiet hentering⟩, by simp⟩
  have hquiet : ∀ before op, Quiet args.client op → mayIssue hashlib unicode pyText json args file before op :=
    fun _ _ => .inl
  refine wp_bind.mpr (wp_mono (wp_enterBootloader hquiet hupgrade) ?_ fun _ _ _ => trivial)
  rintro entered _ ⟨u, hacknowledged, rfl⟩
  have hentered : Entered hashlib unicode pyText json args file c (prepared ++ entering ++ u) :=
    ⟨prepared, entering, u, hprepared, hacknowledged, rfl⟩
  refine wp_step (quiet_waitForHid _ _ _ _) mayIssue_quiet fun waited _ _ _ => ?_
  have htransfer : ∀ t op, Quiet args.client op ∨ IsReportTo BOOT_VID BOOT_HID_PID op →
      mayIssue hashlib unicode pyText json args file (prepared ++ entering ++ u ++ waited ++ t) op := by
    intro t op hop
    refine hop.imp id fun hreport => ⟨c, .transfer (waited ++ t) hentered ?_ hreport⟩
    rw [List.append_assoc]
  refine wp_step (reports_restoreBlob _ _ _) htransfer fun x _ hrun _ => ?_
  refine wp_step (quiet_printAll _) mayIssue_quiet fun t₁ _ _ _ => ?_
  refine wp_mono (wp_of_uses (quiet_waitForHid _ _ _ _) mayIssue_quiet) ?_ fun _ _ _ => trivial
  rintro h' _ ⟨t₂, rfl, -, -⟩
  exact ⟨_, t₁ ++ t₂, ⟨_, waited, x, hentered, hrun, rfl⟩, by simp⟩

end Write

/-! ## The verification -/

section Verification

theorem only_handleRaise {ok : Op → Prop} {α : Type} {p : Host α} (hp : Only ok p) (g : Exc → Exc) :
    Only ok (p.handle fun x => .raise (g x)) := uses_handle hp fun _ _ => trivial

theorem quiet_raiseWhenExpired (remaining : ℚ) (msg : String) : Only (Quiet adb) (raiseWhenExpired remaining msg) :=
  only_lift _

/-- Behind a transfer: whatever was done since, the start of `adbd` may be asked for, and sent when it was agreed to. -/
theorem wp_startTemporaryAdb {transferred : Trace} (since : Trace) (deadline : ℚ)
    (h : Transferred hashlib unicode pyText json args file c transferred) :
    (startTemporaryAdb unicode pyText args rounds deadline).wp (mayIssue hashlib unicode pyText json args file)
      (fun _ _ => True) (fun _ _ => True) (transferred ++ since) := by
  unfold startTemporaryAdb
  refine wp_step quiet_confirmTemporaryAdb mayIssue_quiet fun t₁ _ hrun _ => ?_
  obtain ⟨answer, hanswer, rfl⟩ := confirmTemporaryAdb_returned hrun
  have hconsented : Consented hashlib unicode pyText json args file c
      (transferred ++ since ++ [⟨.isatty, .ok true⟩, ⟨.input ADB_QUESTION, .ok answer⟩]) :=
    ⟨transferred, since ++ [⟨.isatty, .ok true⟩], answer, h, by simp, hanswer, by simp⟩
  refine wp_step (only_call .monotonic) mayIssue_quiet fun t₂ _ _ _ => ?_
  refine wp_step (quiet_raiseWhenExpired _ _) mayIssue_quiet fun t₃ _ _ _ => ?_
  have hreports : ∀ t op, Quiet args.client op ∨ IsUploadReport op → mayIssue hashlib unicode pyText json args file
      (transferred ++ since ++ [⟨.isatty, .ok true⟩, ⟨.input ADB_QUESTION, .ok answer⟩] ++ t₂ ++ t₃ ++ t) op := by
    intro t op hop
    refine hop.imp id ?_
    rintro ⟨handle, report, rfl, hvid, hpid, hgroup⟩
    exact ⟨c, .startAdb (t₂ ++ t₃ ++ t) hconsented (by simp only [List.append_assoc]) hvid hpid hgroup⟩
  refine wp_step (only_handleRaise reports_startAdb _) hreports fun t₄ _ _ _ => ?_
  refine wp_step (only_call .monotonic) mayIssue_quiet fun t₅ _ _ _ => ?_
  refine wp_step (quiet_raiseWhenExpired _ _) mayIssue_quiet fun t₆ _ _ _ => ?_
  refine wp_mono (wp_of_uses (only_handleRaise (quiet_waitForDevice _ _) _) mayIssue_quiet) ?_ ?_
  · exact fun _ _ _ => trivial
  · exact fun _ _ _ => trivial

theorem wp_awaitAdb {transferred : Trace} (between : Trace)
    (h : Transferred hashlib unicode pyText json args file c transferred) :
    (awaitAdb unicode pyText args rounds).wp (mayIssue hashlib unicode pyText json args file)
      (fun _ _ => True) (fun _ _ => True) (transferred ++ between) := by
  unfold awaitAdb
  refine wp_step (only_call .monotonic) mayIssue_quiet fun t₁ start _ _ => wp_handle.mpr ?_
  have hfirst : Only (Quiet args.client) (firstAvailability unicode pyText args (start + args.adbTimeout)) := by
    refine only_bind (only_call .monotonic) fun now => only_bind (quiet_raiseWhenExpired _ _) fun _ => ?_
    exact quiet_of_reads (reads_ensureAvailable _)
  refine wp_mono (wp_of_uses hfirst mayIssue_quiet) (fun _ _ _ => trivial) ?_
  rintro h' x ⟨t₂, rfl, -, -⟩
  split
  · rw [List.append_assoc, List.append_assoc]
    exact wp_startTemporaryAdb _ _ h
  · trivial

theorem quiet_verifyRestore (image : Bytes) :
    Only (Quiet args.client) (verifyRestore hashlib unicode pyText args image) := by
  refine only_bind (only_handleRaise (quiet_of_reads (reads_acquireStable _ _)) _) fun found => ?_
  exact only_bind (only_lift _) fun exact => quiet_printAll _

theorem verifyRestore_returned {image : Bytes} (h : Runs (verifyRestore hashlib unicode pyText args image) t (.returned ())) :
    ∃ identification reads clock ending verified manifest,
      t = identification ++ (reads.flatMap FlashRead.trace ++ clock) ++ ending ∧
        Acquired hashlib unicode pyText args.client verified manifest identification reads clock ∧
        verified.length = AdbBackup.FLASH_SIZE ∧
        slice verified 0 HARDWARE_RECOVERY_CONFIG_START = slice image 0 HARDWARE_RECOVERY_CONFIG_START := by
  obtain ⟨t₁, ⟨verified, manifest⟩, t₂, hread, h₁, rfl⟩ := runs_bind.mp h
  obtain ⟨t₃, exact, t₄, hvalid, hprint, rfl⟩ := runs_bind.mp h₁
  obtain ⟨hsame, rfl⟩ := runs_lift.mp hvalid
  obtain ⟨identification, reads, clock, rfl, hacquired⟩ :=
    acquireStable_returned ((runs_handle_raises fun x => ⟨_, rfl⟩).mp hread)
  obtain ⟨_, hlength, hrest⟩ := bind_eq_ok.mp hsame
  have hlengths := raiseIf_eq_ok.mp hlength
  by_cases hdiffer : slice image 0 HARDWARE_RECOVERY_CONFIG_START ≠ slice verified 0 HARDWARE_RECOVERY_CONFIG_START
  · rw [if_pos hdiffer] at hrest
    obtain ⟨_, _, hfalse⟩ := bind_eq_ok.mp hrest
    exact absurd hfalse (by simp)
  · refine ⟨identification, reads, clock, t₄, verified, manifest, by simp, hacquired, by tauto, ?_⟩
    exact (not_not.mp hdiffer).symm

end Verification

end Parts

/-! ## The law -/

/-- A request that makes the camera reboot into its bootloader. -/
def IsUpgradeRequest (op : Op) : Prop :=
  ∃ handle report, op = .hidWrite handle report ∧ handle.vid = NORMAL_VID ∧ handle.pid = NORMAL_PID ∧
    u16 report 3 / 0x1000 = 4

theorem IsUpgradeRequest.mutates {adb : AdbClient} {op : Op} (h : IsUpgradeRequest op) : Mutates adb op := by
  obtain ⟨handle, report, hop, -⟩ := h
  exact .inl ⟨handle, report, hop⟩

section Law

variable (hashlib : Hashlib) (unicode : Unicode) (pyText : PyText) (json : JsonCodec) (args : RestoreArgs)
  (file : FileView)

/-- What is proved of a run with trace `t` that ended as `o`. -/
structure RestoreLaw (t : Trace) (o : Outcome Exc Nat) : Prop where
  /-- A dry run reads the image and prints. -/
  dryRun : args.dryRun = true → ∀ e ∈ t, e.op = .readBytes args.image.str ∨ ∃ text, e.op = .print text
  /-- Whatever changes the camera is licensed by all that was done before it. -/
  licensed : ∀ before event after, t = before ++ event :: after → Mutates args.client event.op →
    ∃ c, Licensed hashlib unicode pyText json args file c before event.op
  /-- RAM is written at most once, and one upgrade request is sent at most. -/
  once : ∀ before first middle second after, t = before ++ first :: (middle ++ second :: after) →
    ¬(ramWrites args.client first.op ≠ [] ∧ ramWrites args.client second.op ≠ []) ∧
      ¬(IsUpgradeRequest first.op ∧ IsUpgradeRequest second.op)
  /-- Exit code 0 says that the flash was read back, three times, as what the image says. -/
  success : args.dryRun = false → o = .returned 0 → ∃ c, PostVerified hashlib unicode pyText json args file c t

variable {hashlib unicode pyText json args file} {pretty : Json → String} {rounds : Rounds} {c : Checked} {t : Trace}
  {op : Op} {adb : AdbClient}

theorem wp_commandRestore (hdry : args.dryRun = false) :
    (commandRestore hashlib unicode pyText json pretty args file rounds).wp (mayIssue hashlib unicode pyText json args file)
      (fun h _ => ∃ c, PostVerified hashlib unicode pyText json args file c h) (fun _ _ => True) [] := by
  unfold commandRestore
  rw [if_neg (by rw [hdry]; decide)]
  refine wp_step quiet_checkRestore mayIssue_quiet fun approval c hchecked hquiet => ?_
  rw [List.nil_append]
  have happroved := approved_of_checkRestore hchecked hquiet
  refine wp_bind.mpr (wp_mono (wp_writeImage happroved) ?_ fun _ _ _ => trivial)
  rintro h _ ⟨transferred, between, htransferred, rfl⟩
  refine wp_step (quiet_printAll _) mayIssue_quiet fun t₁ _ _ _ => ?_
  rw [List.append_assoc]
  refine wp_bind.mpr (wp_mono (wp_runs (wp_awaitAdb _ htransferred)) ?_ fun _ _ _ => trivial)
  rintro h _ ⟨-, t₂, rfl, -⟩
  refine wp_step (quiet_verifyRestore _) mayIssue_quiet fun t₃ _ hverified _ => ?_
  obtain ⟨identification, reads, clock, ending, verified, manifest, rfl, hacquired, hlength, hsame⟩ :=
    verifyRestore_returned hverified
  exact ⟨c, transferred, between ++ t₁ ++ t₂, identification, clock, ending, reads, verified, manifest, htransferred,
    by simp only [List.append_assoc], hacquired, threeEqualReads_of_settled hacquired.valid hacquired.settled, hlength,
    hsame⟩

/-- With what `main` makes of an exception: an error is printed, and the exit code is 2. -/
theorem wp_exitRestore (hdry : args.dryRun = false) :
    (exitCode (commandRestore hashlib unicode pyText json pretty args file rounds)).wp
      (mayIssue hashlib unicode pyText json args file)
      (fun h code => code = 0 → ∃ c, PostVerified hashlib unicode pyText json args file c h) (fun _ _ => True) [] := by
  refine wp_handle.mpr (wp_mono (wp_commandRestore hdry) (fun _ _ h _ => h) ?_)
  intro h x _
  split
  · refine wp_mono (wp_of_uses (only_bind (only_call (quiet_print _)) fun _ => only_pure 2) mayIssue_quiet) ?_
      fun _ _ _ => trivial
    rintro h' code ⟨t', -, hrun, -⟩ rfl
    obtain ⟨_, _, _, _, hret, -⟩ := runs_bind.mp hrun
    exact absurd (runs_ret.mp hret).1 (by decide)
  · trivial

/-- The operations of a dry run: it reads the image and prints. -/
def Offline (args : RestoreArgs) (op : Op) : Prop := op = .readBytes args.image.str ∨ ∃ text, op = .print text

theorem Offline.quiet (h : Offline args op) : Quiet adb op := by
  rcases h with rfl | ⟨text, rfl⟩
  · exact quiet_reads (.readBytes _)
  · exact quiet_print text

theorem only_commandPlan : Only (Offline args) (commandPlan hashlib pyText json pretty args file) := by
  refine only_bind (only_call (.inl rfl)) fun image => only_bind (only_lift _) fun _ => ?_
  refine only_bind (only_lift _) fun backup => only_bind (only_lift _) fun built => ?_
  exact only_bind (only_call (.inr ⟨_, rfl⟩)) fun _ => only_pure _

theorem only_exitPlan : Only (Offline args) (exitCode (commandPlan hashlib pyText json pretty args file)) :=
  uses_handle only_commandPlan fun _ _ => only_ite (only_bind (only_call (.inr ⟨_, rfl⟩)) fun _ => only_pure _) trivial

theorem commandRestore_dry (hdry : args.dryRun = true) : commandRestore hashlib unicode pyText json pretty args file rounds =
    commandPlan hashlib pyText json pretty args file := if_pos hdry

theorem Licensed.quiet_of_ram {before : Trace} {op : Op}
    (h : Licensed hashlib unicode pyText json args file c before op) (hwrites : ramWrites args.client op ≠ []) :
    ∀ e ∈ before, Quiet args.client e.op := by
  cases h with
  | ram announced e happroved he hbefore hlooks =>
    rw [hbefore, List.append_assoc, List.forall_mem_append]
    exact ⟨happroved.quiet, hlooks⟩
  | upgrade => exact absurd rfl hwrites
  | transfer _ _ _ hop =>
    obtain ⟨handle, report, rfl, -⟩ := hop
    exact absurd rfl hwrites
  | startAdb => exact absurd rfl hwrites

theorem Licensed.first_of_upgrade {before : Trace} {op : Op}
    (h : Licensed hashlib unicode pyText json args file c before op) (hupgrade : IsUpgradeRequest op) :
    ∀ e ∈ before, ∀ handle report, e.op ≠ .hidWrite handle report := by
  obtain ⟨handle, report, rfl, hvid, hpid, hgroup⟩ := hupgrade
  cases h with
  | upgrade _ _ _ hfirst => exact hfirst
  | transfer _ _ _ hop =>
    obtain ⟨handle', report', hsame, -, hboot⟩ := hop
    obtain ⟨rfl, -⟩ := Op.hidWrite.inj hsame
    exact absurd (hboot.symm.trans hpid) (by decide)
  | startAdb _ _ _ _ _ hgroup' => exact absurd (hgroup.symm.trans hgroup') (by decide)

/-- Where every operation that changes the camera is licensed, RAM is written and the upgrade requested once. -/
theorem once_of_licensed (hlicensed : ∀ before event after, t = before ++ event :: after → Mutates args.client event.op →
      ∃ c, Licensed hashlib unicode pyText json args file c before event.op)
    (before : Trace) (first : Event Op Reply) (middle : Trace) (second : Event Op Reply) (after : Trace)
    (ht : t = before ++ first :: (middle ++ second :: after)) :
    ¬(ramWrites args.client first.op ≠ [] ∧ ramWrites args.client second.op ≠ []) ∧
      ¬(IsUpgradeRequest first.op ∧ IsUpgradeRequest second.op) := by
  -- of two mutations the license of the second speaks about a history with the first in it
  have hsecond := hlicensed (before ++ first :: middle) second after (by rw [ht]; simp)
  have hmem : first ∈ before ++ first :: middle := List.mem_append_right _ List.mem_cons_self
  constructor
  · rintro ⟨hfirst, hwrites⟩
    obtain ⟨c, hc⟩ := hsecond (.inr hwrites)
    exact not_mutates_of_quiet (hc.quiet_of_ram hwrites first hmem) (.inr hfirst)
  · rintro ⟨⟨handle, report, hfirst, -⟩, hupgrade⟩
    obtain ⟨c, hc⟩ := hsecond hupgrade.mutates
    exact hc.first_of_upgrade hupgrade first hmem handle report hfirst

theorem licensed_of_mayIssue {before : Trace} (h : MayIssue hashlib unicode pyText json args file before op)
    (hmutates : Mutates args.client op) : ∃ c, Licensed hashlib unicode pyText json args file c before op :=
  h.resolve_left fun hquiet => not_mutates_of_quiet hquiet hmutates

-- what is all offline changes nothing
theorem licensed_of_offline (h : ∀ e ∈ t, Offline args e.op) (before : Trace) (event : Event Op Reply) (after : Trace)
    (ht : t = before ++ event :: after) (hmutates : Mutates args.client event.op) :
    ∃ c, Licensed hashlib unicode pyText json args file c before event.op := by
  have hmem : event ∈ t := by
    rw [ht]
    exact List.mem_append_right _ List.mem_cons_self
  exact absurd hmutates (not_mutates_of_quiet (h event hmem).quiet)

/-- Every run of `restore`, with every answer of the user, the camera and the computer, cut off anywhere. -/
theorem commandRestore_law {o : Outcome Exc Nat}
    (h : Runs (exitCode (commandRestore hashlib unicode pyText json pretty args file rounds)) t o) :
    RestoreLaw hashlib unicode pyText json args file t o := by
  have hdry : args.dryRun = true → ∀ e ∈ t, Offline args e.op := by
    intro hdry
    rw [commandRestore_dry hdry] at h
    exact (World.runsIn_history h []).uses only_exitPlan
  have hlicensed : ∀ before event after, t = before ++ event :: after → Mutates args.client event.op →
      ∃ c, Licensed hashlib unicode pyText json args file c before event.op := by
    cases hrun : args.dryRun with
    | true => exact licensed_of_offline (hdry hrun)
    | false =>
      intro before event after ht
      exact licensed_of_mayIssue ((wp_sound (wp_exitRestore hrun) h).1 before event after ht)
  exact ⟨hdry, hlicensed, once_of_licensed hlicensed, fun hrun ho => (wp_sound (wp_exitRestore hrun) h).2.1 0 ho rfl⟩

end Law

/-! ## A restore that succeeds -/

section Stock

open Updater (Link UpdaterState erasedMalloc interact_restoreBlob)

def erasedArgs : RestoreArgs :=
  { image := ⟨"fixed.bin", text ".bin"⟩, backup := barePath, backupGiven := true, adb := "adb", serial := none
    dryRun := false, bootloaderTimeout := 120, rebootTimeout := 300, adbTimeout := 120 }

theorem canReturn_acquireErased : ∃ manifest,
    CanReturn (acquireStable stockHashlib utf8 plainText plainAdb readProgress) (erasedImage, manifest) := by
  have hsizes : ∀ piece ∈ stockPieces, piece.2.length = piece.1.size :=
    List.forall_mem_map.mpr fun _ _ => List.length_replicate
  obtain ⟨bootloader, hboot⟩ : ∃ bootloader, bootloaderReference stockHashlib erasedImage = .ok bootloader := by
    rw [bootloaderReference, raiseIf_of_not (not_not.mpr length_erasedImage), ok_bind]
    exact ⟨_, rfl⟩
  exact ⟨_, canReturn_acquireStable "now" stock_identifies hsizes stockPieces_image length_erasedImage hboot⟩

theorem validateReplacement_erased : validateReplacementAgainstBackup erasedImage erasedImage = .ok () :=
  validateReplacementAgainstBackup_eq_ok.mpr ⟨length_erasedImage, length_erasedImage, fun _ _ => rfl⟩

theorem canReturn_prepareErased :
    CanReturn (prepareRestore stockHashlib utf8 plainText plainAdb erasedImage readProgress) () := by
  have hgeometry : ¬∃ part ∈ stockPieces.map Prod.fst, part.eraseSize ≠ 0x4000 := by decide +kernel
  obtain ⟨manifest, hacquire⟩ := canReturn_acquireErased
  refine canReturn_bind (canReturn_lift Installer.validatePreparationImage_stock) ?_
  refine canReturn_bind (canReturn_handle (canReturn_ensureAvailable rfl stock_identifies)) ?_
  refine canReturn_bind canReturn_singleCamera (canReturn_bind hacquire ?_)
  refine canReturn_bind (canReturn_lift Installer.validatePreparationImage_stock) ?_
  refine canReturn_bind (canReturn_lift validateReplacement_erased) ?_
  refine canReturn_bind (canReturn_identityAndPartitions stock_identifies) ?_
  exact canReturn_bind (canReturn_lift (raiseIf_of_not hgeometry)) canReturn_patchEraseSize

def singleHid (vid pid : Nat) : HidDevice := { vendorId := vid, productId := pid, serialNumber := some "CAM", path := "" }

theorem canReturn_openHandle (vid pid : Nat) :
    CanReturn (openHandle vid pid) { vid := vid, pid := pid, info := singleHid vid pid } := by
  refine canReturn_bind (canReturn_call (.hidEnumerate vid pid) [singleHid vid pid]) ?_
  exact canReturn_bind (canReturn_call (.hidOpenPath _) ()) (canReturn_ret _)

theorem canReturn_exchange {handle : HidHandle} {request reply : Bytes} {sent frame : NormalFrame} (hnonempty : reply ≠ [])
    (hsent : parseNormalReport request = .ok sent) (hreply : checkReply sent.command reply = .ok frame) :
    CanReturn (exchange handle request) () := by
  have hwrite : CanReturn (writeExact handle request) () :=
    canReturn_bind (canReturn_call (.hidWrite handle request) (request.length : Int))
      (canReturn_lift (raiseIf_of_not (by simp)))
  have hread : CanReturn (readReport handle Protocol.NORMAL_REPORT_SIZE 5000) reply :=
    canReturn_bind (canReturn_call (.hidRead _ _ _) reply)
      (canReturn_bind (canReturn_lift (raiseIf_of_not hnonempty)) (canReturn_ret _))
  have hframe : CanReturn (exchangeNormal handle request 5000) frame :=
    canReturn_bind (canReturn_lift hsent) (canReturn_bind hwrite (canReturn_bind hread (canReturn_lift hreply)))
  exact canReturn_bind hframe (canReturn_ret ())

/-- Any request that parses can be answered with success. -/
theorem canReturn_acknowledged {request : Bytes} {sent : NormalFrame} (handle : HidHandle)
    (hsent : parseNormalReport request = .ok sent) (hcommand : sent.command < 2 ^ 16) :
    CanReturn (exchange handle request) () := by
  have hempty : ([] : Bytes).length ≤ 1010 := Nat.zero_le _
  obtain ⟨hreply, -⟩ := HidUpdate.parseNormalReport_response hcommand (show 0 < 2 ^ 32 by decide) hempty
  obtain ⟨frame, hframe⟩ := (HidUpdate.Camera.checkReply_of_parse hreply rfl).mpr rfl
  have hsize : (HidUpdate.responseReport sent.command 0 1 []).length = 1024 := HidUpdate.length_responseReport hempty
  exact canReturn_exchange (List.ne_nil_of_length_pos (by omega)) hsent hframe

theorem canReturn_enterBootloader : CanReturn enterBootloader () := by
  obtain ⟨request, hrequest⟩ : ∃ request, buildUpgradeRequest UPGRADE_MODE_HID 0x4000 = .ok request := by
    obtain ⟨request, hbuilt, -⟩ := HidUpdate.exists_normalReport 0x4000 0 1
      (leBytes 4 UPGRADE_FLAG_0 ++ leBytes 4 UPGRADE_MODE_HID) (by decide) (by decide) (.inl rfl) (by decide)
    exact ⟨request, hbuilt⟩
  obtain ⟨hlength, -, payload, -, haccepted⟩ := HidUpdate.accepted_of_upgrade hrequest
  have hsent := (HidUpdate.parse_of_accepted hlength haccepted).1
  refine canReturn_bind (canReturn_lift hrequest) (canReturn_bind (canReturn_openHandle _ _) ?_)
  exact canReturn_ensuring (canReturn_acknowledged _ hsent (show 0x4000 < 2 ^ 16 by decide)) (canReturn_call (.hidClose _) ())

theorem canReturn_waitForHid (vid pid : Nat) {timeout : ℚ} (htimeout : 0 < timeout) :
    CanReturn (waitForHid vid pid timeout 1) () := by
  have hdeadline : (0 : ℚ) < 0 + timeout := by rwa [zero_add]
  refine canReturn_bind (canReturn_call .monotonic (0 : ℚ)) (canReturn_bind (canReturn_call .monotonic (0 : ℚ)) ?_)
  rw [if_pos hdeadline]
  exact canReturn_bind (canReturn_call (.hidEnumerate vid pid) [singleHid vid pid]) (canReturn_ret ())

theorem canReturn_restoreErased : ∃ blob plan, buildUpdateBlob stockHashlib erasedImage 0 = .ok (blob, plan) ∧
    CanReturn (restoreBlob blob plan transferProgress) () := by
  have hrange : validateFlashRange 0 erasedImage.length = .ok () := by
    rw [length_erasedImage]
    rfl
  obtain ⟨blob, plan, link, hbuild, hrun, -⟩ := @interact_restoreBlob
    (singleHid BOOT_VID BOOT_HID_PID) UpdaterState.fresh stockHashlib erasedMalloc transferProgress erasedImage 0 hrange
  obtain ⟨t, ht⟩ := exists_runs_interact
    (Link.answer (.allocating erasedMalloc stockHashlib.md5) (singleHid BOOT_VID BOOT_HID_PID))
    (restoreBlob blob plan transferProgress) (Link.resumed UpdaterState.fresh)
  rw [hrun] at ht
  exact ⟨blob, plan, hbuild, t, ht⟩

theorem validateFull_erased : validateFullRestoreImage erasedImage = .ok () := by
  refine validateFullRestoreImage_eq_ok.mpr ⟨length_erasedImage, ?_⟩
  have hbound : UPGRADE_FLAG_OFFSET + 4 ≤ 0x800000 := by decide
  rw [u32, erasedImage, slice_replicate _ _ hbound]
  decide

theorem canReturn_confirmErased : CanReturn (confirmWrite stockHashlib erasedArgs erasedImage) () := by
  refine canReturn_bind (canReturn_call .isatty true) ?_
  refine canReturn_bind (canReturn_lift (raiseIf_of_not (by decide))) (canReturn_bind (canReturn_printAll _) ?_)
  refine canReturn_bind (canReturn_call (.input _) "RESTORE-CC2") (canReturn_lift ?_)
  exact raiseIf_of_not (not_not.mpr rfl)

theorem canReturn_checkErased {blob : Bytes} {plan : UpdatePlan}
    (hbuild : buildUpdateBlob stockHashlib erasedImage 0 = .ok (blob, plan)) :
    CanReturn (checkRestore stockHashlib plainText stockJson erasedArgs bareFile)
      { image := erasedImage, preserved := erasedImage, blob := blob, plan := plan } := by
  refine canReturn_bind (canReturn_lift loadPreservedBackup_stock) ?_
  refine canReturn_bind (canReturn_call (.readBytes _) erasedImage) ?_
  refine canReturn_bind (canReturn_lift validateFull_erased) (canReturn_bind (canReturn_lift validateReplacement_erased) ?_)
  refine canReturn_bind (canReturn_printAll _) (canReturn_bind (canReturn_lift hbuild) ?_)
  refine canReturn_bind (canReturn_lift Installer.validatePreparationImage_stock) ?_
  exact canReturn_bind canReturn_confirmErased (canReturn_ret _)

theorem canReturn_writeErased {c : Checked} (hpreserved : c.preserved = erasedImage)
    (hrestore : CanReturn (restoreBlob c.blob c.plan transferProgress) ()) :
    CanReturn (writeImage stockHashlib utf8 plainText erasedArgs ⟨1, 1, 1⟩ c) () := by
  unfold writeImage
  rw [hpreserved]
  refine canReturn_bind (canReturn_call (.print _) ()) (canReturn_bind canReturn_prepareErased ?_)
  refine canReturn_bind (canReturn_call (.print _) ()) (canReturn_bind canReturn_enterBootloader ?_)
  refine canReturn_bind (canReturn_waitForHid _ _ (by decide)) (canReturn_bind hrestore ?_)
  exact canReturn_bind (canReturn_printAll _) (canReturn_waitForHid _ _ (by decide))

theorem canReturn_awaitErased : CanReturn (awaitAdb utf8 plainText erasedArgs ⟨1, 1, 1⟩) () := by
  refine canReturn_bind (canReturn_call .monotonic (0 : ℚ)) (canReturn_handle ?_)
  have hremaining : (0 : ℚ) + erasedArgs.adbTimeout - 0 = 120 := by
    show (0 : ℚ) + 120 - 0 = 120
    rw [zero_add, sub_zero]
  refine canReturn_bind (canReturn_call .monotonic (0 : ℚ)) (canReturn_bind (canReturn_lift (raiseIf_of_not ?_)) ?_)
  · rw [hremaining]
    decide
  · rw [hremaining]
    exact canReturn_ensureAvailable (lt_min (by decide) (by decide)) stock_identifies

theorem canReturn_verifyErased : CanReturn (verifyRestore stockHashlib utf8 plainText erasedArgs erasedImage) () := by
  obtain ⟨manifest, hacquire⟩ := canReturn_acquireErased
  have hsame : validatePostRestoreReadback erasedImage erasedImage = .ok true := by
    rw [validatePostRestoreReadback, raiseIf_of_not (by simp [length_erasedImage]), ok_bind]
    simp
  exact canReturn_bind (canReturn_handle hacquire) (canReturn_bind (canReturn_lift hsame) (canReturn_printAll _))

/-- However `adbd` came to be online. -/
theorem runs_commandErased {t₁ : Trace} (hawait : Runs (awaitAdb utf8 plainText erasedArgs ⟨1, 1, 1⟩) t₁ (.returned ())) :
    ∃ before after, Runs (commandRestore stockHashlib utf8 plainText stockJson (fun _ => "") erasedArgs bareFile ⟨1, 1, 1⟩)
      (before ++ (t₁ ++ after)) (.returned 0) := by
  obtain ⟨blob, plan, hbuild, hrestore⟩ := canReturn_restoreErased
  obtain ⟨t₂, hchecked⟩ := canReturn_checkErased hbuild
  obtain ⟨t₃, hwritten⟩ :=
    canReturn_writeErased (c := { image := erasedImage, preserved := erasedImage, blob := blob, plan := plan }) rfl hrestore
  obtain ⟨t₄, hprinted⟩ := canReturn_printAll
    ["Normal mode returned; requiring three consecutive identical flash reads for post-write verification."]
  obtain ⟨t₅, hverified⟩ := canReturn_verifyErased
  refine ⟨t₂ ++ (t₃ ++ t₄), t₅ ++ [], ?_⟩
  rw [List.append_assoc, List.append_assoc]
  refine runs_bind_of_returned hchecked (runs_bind_of_returned hwritten (runs_bind_of_returned hprinted ?_))
  exact runs_bind_of_returned hawait (runs_bind_of_returned hverified (.ret 0))

theorem commandRestore_law_erased :
    ∃ t, Runs (exitCode (commandRestore stockHashlib utf8 plainText stockJson (fun _ => "") erasedArgs bareFile ⟨1, 1, 1⟩)) t
        (.returned 0) ∧
      RestoreLaw stockHashlib utf8 plainText stockJson erasedArgs bareFile t (.returned 0) := by
  obtain ⟨t₁, hawait⟩ := canReturn_awaitErased
  obtain ⟨_, _, hrun⟩ := runs_commandErased hawait
  obtain ⟨t, ht⟩ := canReturn_handle ⟨_, hrun⟩
  exact ⟨t, ht, commandRestore_law ht⟩

end Stock

end Cc2Camera
