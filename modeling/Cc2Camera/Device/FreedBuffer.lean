import Cc2Camera.Device.Granted

/-!
# FreedBuffer — what a failed commit leaves behind

A commit that fails frees the receive buffer and leaves the uploader in a state that uses it.  Over whole runs of
reports: only behind such a commit is the buffer missed, and then the host's own requests can miss it.
-/

open Bytes Exceptions Program World

namespace Cc2Camera.HidUpdate

open Protocol Commands HidTransport

/-- One report the daemon has handled: the context it met, and what was asked of the camera. -/
structure Handling where
  before : DaemonContext
  report : Bytes
  events : DaemonTrace

/-- The reports handled since the daemon was started, the last one first, and the context they leave. -/
inductive Handled : List Handling → DaemonContext → Prop where
  | start : Handled [] .start
  | report {past : List Handling} {ctx ctx' : DaemonContext} {r : Bytes} {t : DaemonTrace} (h : Handled past ctx)
      (hrun : Runs (dispatchNormalReport r ctx) t (.returned ctx')) : Handled (⟨ctx, r, t⟩ :: past) ctx'

/-- `upload_commit` was run for the report and failed, which is what the daemon answered. -/
def Handling.CommitFailed (h : Handling) : Prop :=
  u16 h.report 3 = 0x3300 ∧ ∃ (t : DaemonTrace) (rc : Int), Runs (uploadCommit h.before) t (.returned false) ∧
    h.events = t ++ [⟨.writeReport (responseReport 0x3300 ST_FAIL 0 []), rc⟩]

/-- A commit has failed, and every report since then has met an uploader without its buffer. -/
def BufferFreed (past : List Handling) : Prop :=
  ∃ later failed earlier, past = later ++ failed :: earlier ∧ failed.CommitFailed ∧ ∀ h ∈ later, Wedged h.before

section FreedBuffer

variable {past : List Handling} {ctx ctx' : DaemonContext} {r : Bytes} {t : DaemonTrace}

theorem reachable_of_handled (h : Handled past ctx) : Reachable ctx := by
  induction h with
  | start => exact .start
  | report _ hrun ih => exact .report ih hrun

theorem not_wedged (state : UploadState) (hstate : ctx.uploadState = state) (h : state ≠ .ready ∧ state ≠ .error) :
    ¬Wedged ctx := by
  rintro ⟨-, hready | herror⟩
  · exact h.1 (hstate.symm.trans hready)
  · exact h.2 (hstate.symm.trans herror)

/-! ## One report -/

theorem runs_apart {α : Type} {p : Daemon α} (h : Runs (p >>= fun _ => pure ctx) t (.returned ctx')) : ctx = ctx' := by
  obtain ⟨_, _, _, -, hpure, -⟩ := runs_bind.mp h
  exact (runs_ret.mp hpure).1

theorem runs_checked {α β : Type} {e : Except Fault α} {f : α → Daemon β} {b : β}
    (h : Runs (lift e >>= f) t (.returned b)) : ∃ a, e = .ok a ∧ Runs (f a) t (.returned b) := by
  obtain ⟨_, a, t₂, hcheck, hrest, rfl⟩ := runs_bind.mp h
  obtain ⟨ha, rfl⟩ := runs_ofExcept.mp hcheck
  exact ⟨a, ha, hrest⟩

/-- Only the uploader's reports change the context. -/
theorem runs_dispatchNormalReport (h : Runs (dispatchNormalReport r ctx) t (.returned ctx')) :
    ctx = ctx' ∨ Runs (dispatchUpload r ctx) t (.returned ctx') := by
  unfold dispatchNormalReport at h
  dsimp only at h
  split at h
  · exact .inl (runs_apart h)
  split at h
  · exact .inl (runs_apart h)
  obtain ⟨crc, -, h⟩ := runs_checked h
  split at h
  · exact .inl (runs_apart h)
  unfold dispatchCommand at h
  dsimp only at h
  split at h
  · split at h
    · exact .inl (runs_apart h)
    · exact .inl (runs_ret.mp h).1
  · exact .inl (runs_ret.mp h).1
  · exact .inl (runs_apart h)
  · exact .inr h
  · exact .inl (runs_apart h)
  · exact .inl (runs_apart h)

/-- A packet does not bring the buffer back. -/
theorem wedged_of_append (hctx : Sound ctx) (hstate : ctx.uploadState = .receiving ∨ ctx.uploadState = .error)
    (hdata : ctx.uploadData = none) : Wedged ctx := by
  refine ⟨hdata, .inr ?_⟩
  rcases hstate with hreceiving | herror
  · exact absurd hdata (hctx.buffered (.inr hreceiving))
  · exact herror

/-- An uploader without its buffer has missed it before the report, or a commit has failed in it. -/
theorem wedged_dispatchUpload (hctx : Sound ctx) (h : Runs (dispatchUpload r ctx) t (.returned ctx'))
    (hwedged : Wedged ctx') : Wedged ctx ∨ Handling.CommitFailed ⟨ctx, r, t⟩ := by
  unfold dispatchUpload at h
  dsimp only at h
  split at h
  · split at h
    · exact .inl (runs_apart h ▸ hwedged)
    · obtain ⟨_, ready, _, -, hanswer, -⟩ := runs_bind.mp h
      cases ready with
      | none => exact .inl (runs_apart hanswer ▸ hwedged)
      | some ready =>
        obtain rfl := runs_apart hanswer
        exact absurd hwedged (not_wedged .needTarget rfl (by decide))
  split at h
  · split at h
    · exact .inl (runs_apart h ▸ hwedged)
    · obtain ⟨payload, -, h⟩ := runs_checked h
      obtain ⟨path, -, h⟩ := runs_checked h
      obtain rfl := runs_apart h
      exact absurd hwedged (not_wedged .receiving rfl (by decide))
  split at h
  · split at h
    · exact .inl (runs_apart h ▸ hwedged)
    · obtain ⟨_, path, _, -, hanswer, -⟩ := runs_bind.mp h
      cases path with
      | none => exact .inl (runs_apart hanswer ▸ hwedged)
      | some text =>
        obtain rfl := runs_apart hanswer
        exact absurd hwedged (not_wedged .receiving rfl (by decide))
  split at h
  · split at h
    · exact .inl (runs_apart h ▸ hwedged)
    · next hstate =>
      have hstate := not_not.mp hstate
      obtain ⟨appended, happended, h⟩ := runs_checked h
      cases appended with
      | none =>
        obtain rfl := runs_apart h
        exact .inl (wedged_of_append hctx hstate hwedged.1)
      | some ctx₁ =>
        obtain rfl := runs_apart h
        obtain ⟨-, -, payload, data, -, hcopy, rfl⟩ := uploadAppend_eq_some.mp happended
        exact .inl (wedged_of_append hctx hstate ((length_copyIn hcopy).1.mp hwedged.1))
  split at h
  · next hcommit =>
    split at h
    · exact .inl (runs_apart h ▸ hwedged)
    · obtain ⟨t₁, committed, t₂, hrun, hanswer, rfl⟩ := runs_bind.mp h
      cases committed with
      | true =>
        obtain rfl := runs_apart hanswer
        exact absurd hwedged (not_wedged .idle rfl (by decide))
      | false =>
        rw [hcommit] at hanswer
        obtain ⟨-, rc, rfl⟩ := runs_answer.mp hanswer
        exact .inr ⟨hcommit, t₁, rc, hrun, rfl⟩
  · exact .inl ((runs_ret.mp h).1 ▸ hwedged)

/-! ## Whole runs -/

theorem bufferFreed_of_wedged (h : Handled past ctx) (hwedged : Wedged ctx) : BufferFreed past := by
  induction h with
  | start => exact absurd hwedged (not_wedged .idle rfl (by decide))
  | @report past ctx ctx' r t h hrun ih =>
    have hbefore : Wedged ctx ∨ Handling.CommitFailed ⟨ctx, r, t⟩ := by
      rcases runs_dispatchNormalReport hrun with rfl | hupload
      · exact .inl hwedged
      · exact wedged_dispatchUpload (sound_of_reachable (reachable_of_handled h)) hupload hwedged
    rcases hbefore with hbefore | hfailed
    · obtain ⟨later, failed, earlier, rfl, hfailed, hlater⟩ := ih hbefore
      exact ⟨_ :: later, failed, earlier, rfl, hfailed, List.forall_mem_cons.mpr ⟨hbefore, hlater⟩⟩
    · exact ⟨[], _, past, rfl, hfailed, fun _ hnone => absurd hnone List.not_mem_nil⟩

/-- The host's requests are handled as requests. -/
theorem handled_built {request : UploadRequest} (h : Handled past ctx) (hbuilt : Built request r)
    (hrun : Runs (request.handle ctx) t (.returned ctx')) : Handled (⟨ctx, r, t⟩ :: past) ctx' :=
  h.report (by rw [dispatch_built hbuilt (sound_of_reachable (reachable_of_handled h))]; exact hrun)

theorem wedged_of_crashes {request : UploadRequest} (h : request.Crashes ctx) : Wedged ctx := by
  cases request with
  | start => exact h.elim
  | target command path => exact h.elim
  | sensorTarget command => exact h.elim
  | data sequence payload final => exact ⟨h.1, .inr h.2.1⟩
  | commit => exact ⟨h.2.2.1, h.1⟩

/-- Every upload that is ready can fail: its file need only not open. -/
theorem handled_failedCommit (h : Handled past ctx) (hready : ctx.uploadState = .ready) :
    ∃ past, Handled past { ctx with uploadData := none, uploadState := .error } := by
  have hsound := sound_of_reachable (reachable_of_handled h)
  obtain ⟨commit, hcommit⟩ := exists_built_bare (show 0x3300 < 2 ^ 16 by decide)
  have haimed : ctx.destination = true := hsound.destination (by rw [hready]; rfl)
  have hfailed : Runs (uploadCommit ctx)
      [⟨.system (ascii "rm " ++ cString ctx.uploadPath), ()⟩, ⟨.system (ascii "sync"), ()⟩,
        ⟨.createFile (cString ctx.uploadPath), false⟩] (.returned false) := by
    unfold uploadCommit
    rw [raiseIf_of_not (by rw [haimed]; decide)]
    change Runs (if ctx.sawFinal ≠ 1 then _ else _) _ _
    rw [if_neg (not_not.mpr (hsound.final hready))]
    exact .act (.act (.act (.ret false)))
  have hanswered : Runs (answer 0x3300 ST_FAIL { ctx with uploadData := none, uploadState := .error })
      [⟨.writeReport (responseReport 0x3300 ST_FAIL 0 []), (0 : Int)⟩] (.returned _) := .act (.ret _)
  obtain ⟨t, hhandled⟩ : ∃ t, Runs (UploadRequest.commit.handle ctx) t
      (.returned { ctx with uploadData := none, uploadState := .error }) := by
    rw [UploadRequest.handle, if_neg (not_not.mpr (.inl hready))]
    exact ⟨_, runs_bind.mpr ⟨_, false, _, hfailed, hanswered, rfl⟩⟩
  exact ⟨_, handled_built h (.commit hcommit) hhandled⟩

end FreedBuffer

/-- The first request of an upload. -/
theorem handled_started {data : Bytes} (hlength : data.length = UPLOAD_CAPACITY) :
    ∃ past, Handled past (DaemonContext.start.begun data) ∧ ∀ h ∈ past, u16 h.report 3 / 0x1000 = 3 := by
  obtain ⟨start, hstart⟩ := exists_built_bare (show 0x3000 < 2 ^ 16 by decide)
  have hbuilt : Built .start start := .start hstart
  have hrun : Runs (UploadRequest.start.handle .start)
      [⟨.malloc UPLOAD_CAPACITY, some ⟨data, hlength⟩⟩, ⟨.writeReport (responseReport 0x3000 ST_OK 0 []), (0 : Int)⟩]
      (.returned (DaemonContext.start.begun data)) := .act (.act (.ret _))
  refine ⟨_, handled_built .start hbuilt hrun, List.forall_mem_singleton.mpr ?_⟩
  rw [(accepted_of_built_request hbuilt).2.command]
  decide

/-- The requests of an upload of one line feed, before its commit. -/
theorem handled_ready {path target : Bytes} (hbuilt : Built (.target UPLOAD_TARGET_3110 path) target) :
    ∃ past ctx, Handled past ctx ∧ ctx.uploadState = .ready ∧ ctx.uploadUsed = 1 ∧ ctx.uploadData ≠ none ∧
      cString ctx.uploadPath = path ∧ ctx.received = ADB_UPLOAD_COMMAND_CONTENT ∧ ∀ h ∈ past, u16 h.report 3 / 0x1000 = 3 := by
  obtain ⟨packet, hpacket⟩ : ∃ packet, buildUploadDataRequest 0 ADB_UPLOAD_COMMAND_CONTENT true = .ok packet :=
    exists_built_data true (by decide) (by decide)
  obtain ⟨data, hlength⟩ : ∃ data : Bytes, data.length = UPLOAD_CAPACITY :=
    ⟨List.replicate UPLOAD_CAPACITY 0, List.length_replicate⟩
  obtain ⟨past, hstarted, hrequests⟩ := handled_started hlength
  let aimed : DaemonContext := (DaemonContext.start.begun data).aimedAt path
  have haimed : Runs ((UploadRequest.target UPLOAD_TARGET_3110 path).handle (DaemonContext.start.begun data))
      [⟨.writeReport (responseReport UPLOAD_TARGET_3110 ST_OK 0 []), (0 : Int)⟩] (.returned aimed) := .act (.ret _)
  let ready : DaemonContext :=
    { aimed with
      uploadData := some (splice data 0 1 ADB_UPLOAD_COMMAND_CONTENT), sawFinal := 1, uploadState := .ready, uploadUsed := 1 }
  have happended : appendPayload aimed 0 ADB_UPLOAD_COMMAND_CONTENT true = .ok (some ready) := by
    have hroom : ¬aimed.uploadCapacity < aimed.uploadUsed + ADB_UPLOAD_COMMAND_CONTENT.length :=
      show ¬UPLOAD_CAPACITY < 0 + 1 by decide
    have hcopy : copyIn aimed.uploadData aimed.uploadUsed ADB_UPLOAD_COMMAND_CONTENT = .ok ready.uploadData := by
      change copyIn (some data) 0 ADB_UPLOAD_COMMAND_CONTENT = _
      rw [copyIn, raiseIf_of_not (by rw [hlength]; decide)]
      rfl
    rw [appendPayload, if_neg fun h => absurd h.1 (by decide), if_neg hroom, hcopy]
    rfl
  have hreceived : Runs ((UploadRequest.data 0 ADB_UPLOAD_COMMAND_CONTENT true).handle aimed)
      [⟨.writeReport (responseReport 0x3200 ST_OK 0 []), (0 : Int)⟩] (.returned ready) := by
    rw [UploadRequest.handle, if_neg (not_not.mpr (.inl rfl)), happended]
    exact .act (.ret _)
  obtain ⟨-, -, hshort, hzero, hblank⟩ := checked_of_built hbuilt
  have hsent : u16 target 3 / 0x1000 = 3 := by
    rw [(accepted_of_built_request hbuilt).2.command]
    show UPLOAD_TARGET_3110 / 0x1000 = 3
    decide
  have hlast : u16 packet 3 / 0x1000 = 3 := by
    rw [(accepted_of_built_request (.data hpacket)).2.command]
    decide
  exact ⟨_, ready, handled_built (handled_built hstarted hbuilt haimed) (.data hpacket) hreceived, rfl, rfl,
    Option.some_ne_none _, (literalPath_of_safe hshort hzero hblank).2, rfl,
    List.forall_mem_cons.mpr ⟨hlast, List.forall_mem_cons.mpr ⟨hsent, hrequests⟩⟩⟩

/-- `start_adb_through_upload_command`, stopped before its commit. -/
theorem exists_readyUpload : ∃ past ctx, Handled past ctx ∧ ctx.uploadState = .ready ∧ ctx.uploadUsed = 1 ∧
    ctx.uploadData ≠ none ∧ cString ctx.uploadPath = ADB_UPLOAD_COMMAND_TARGET := by
  obtain ⟨target, htarget⟩ := exists_built_adbTarget
  obtain ⟨past, ctx, hpast, hready, hused, hdata, hpath, -⟩ := handled_ready (.adbTarget htarget)
  exact ⟨past, ctx, hpast, hready, hused, hdata, hpath⟩

/-- Whatever reports came before, no report overruns the receive buffer or commits without a destination, and a buffer
that is not there is reached for only after a failed commit that nothing has made up for, or by an upgrade request. -/
theorem reachable_faults {past : List Handling} {ctx : DaemonContext} (h : Handled past ctx) {r : Bytes}
    {t : DaemonTrace} {x : Fault} (hrun : Runs (dispatchNormalReport r ctx) t (.raised x)) :
    x ≠ .bufferOverrun ∧ x ≠ .nullDestination ∧
      (x = .nullBuffer → Wedged ctx ∧ BufferFreed past ∨ u16 r 3 / 0x1000 = 4) := by
  have hsound := sound_of_reachable (reachable_of_handled h)
  have hsurvived := ((sound_dispatchNormalReport hsound r).sound (runsIn_history hrun [])).2 x rfl
  rcases hsurvived with ⟨hoverrun, hdestination, hbuffer⟩ | ⟨rfl, hgroup⟩
  · exact ⟨hoverrun, hdestination, fun hnull => .inl ⟨hbuffer hnull, bufferFreed_of_wedged h (hbuffer hnull)⟩⟩
  · exact ⟨by decide, by decide, fun _ => .inr hgroup⟩

-- one packet more than `start_adb_through_upload_command` sends
theorem reachable_faults_failedCommit : ∃ past ctx r t, Handled past ctx ∧
    Runs (dispatchNormalReport r ctx) t (.raised .nullBuffer) ∧ Wedged ctx ∧ BufferFreed past := by
  obtain ⟨_, ctx, hbefore, hready, hused, -⟩ := exists_readyUpload
  obtain ⟨past, hpast⟩ := handled_failedCommit hbefore hready
  have hsound := sound_of_reachable (reachable_of_handled hpast)
  have hcapacity : ctx.uploadCapacity = UPLOAD_CAPACITY := hsound.capacity (show UploadState.error ≠ .idle by decide)
  obtain ⟨r, hr⟩ : ∃ r, buildUploadDataRequest 1 ADB_UPLOAD_COMMAND_CONTENT true = .ok r :=
    exists_built_data true (by decide) (by decide)
  have hcrashes : (UploadRequest.data 1 ADB_UPLOAD_COMMAND_CONTENT true).Crashes
      { ctx with uploadData := none, uploadState := .error } :=
    ⟨rfl, rfl, by decide, fun h => absurd h.1 (by decide), by rw [hused, hcapacity]; decide⟩
  have hrun : Runs (dispatchNormalReport r { ctx with uploadData := none, uploadState := .error }) []
      (.raised .nullBuffer) := by
    rw [dispatch_built (.data hr) hsound, UploadRequest.handle, if_neg (not_not.mpr (.inr rfl))]
    exact runs_lift_error ((appendPayload_eq_error hsound (.inr rfl)).mpr ⟨hcrashes, rfl⟩)
  have hcommand : u16 r 3 = 0x3200 := (accepted_of_built_request (.data hr)).2.command
  have hfreed := ((reachable_faults hpast hrun).2.2 rfl).resolve_right (by rw [hcommand]; decide)
  exact ⟨past, _, r, [], hpast, hrun, hfreed⟩

/-- Of the requests the host can build, after whatever reports, those crash the daemon that use a buffer which is not
there, and then a commit before them has failed and freed it. -/
theorem builtRequest_crashes_iff (request : UploadRequest) (r : Bytes) (past : List Handling) (ctx : DaemonContext)
    (hbuilt : Built request r) (h : Handled past ctx) :
    ((∃ t x, Runs (dispatchNormalReport r ctx) t (.raised x)) ↔ request.Crashes ctx) ∧
      (request.Crashes ctx → BufferFreed past) := by
  have hsound := sound_of_reachable (reachable_of_handled h)
  refine ⟨?_, fun hcrashes => bufferFreed_of_wedged h (wedged_of_crashes hcrashes)⟩
  rw [dispatch_built hbuilt hsound]
  constructor
  · rintro ⟨t, x, hrun⟩
    exact ((ensures_handle hsound request).sound (runsIn_history hrun [])).2 x rfl
  · exact exists_crash hsound

-- a second commit behind the one that failed
theorem builtRequest_crashes_secondCommit : ∃ r past ctx, Built .commit r ∧ Handled past ctx ∧
    (∃ t x, Runs (dispatchNormalReport r ctx) t (.raised x)) ∧ BufferFreed past := by
  obtain ⟨_, ctx, hbefore, hready, hused, -⟩ := exists_readyUpload
  have hfinal : ctx.sawFinal = 1 := (sound_of_reachable (reachable_of_handled hbefore)).final hready
  obtain ⟨past, hpast⟩ := handled_failedCommit hbefore hready
  obtain ⟨r, hr⟩ := exists_built_bare (show 0x3300 < 2 ^ 16 by decide)
  obtain ⟨hcrash, hfreed⟩ := builtRequest_crashes_iff .commit r past _ (.commit hr) hpast
  have hcrashes : UploadRequest.commit.Crashes { ctx with uploadData := none, uploadState := .error } :=
    ⟨.inr rfl, hfinal, rfl, show ctx.uploadUsed ≠ 0 by rw [hused]; decide⟩
  exact ⟨r, past, _, .commit hr, hpast, hcrash.mpr hcrashes, hfreed hcrashes⟩

end Cc2Camera.HidUpdate
