import Cc2Camera.Device.Uploader
import Cc2Camera.Device.Uploads

/-!
# UploadRequests — the uploader on requests instead of bytes

Every upload request of `commands.py` is dispatched as one of five requests.  None of them can crash the daemon,
save one that uses a buffer which is not there.
-/

open Bytes Exceptions Program World

namespace Cc2Camera.HidUpdate

open Protocol Commands

inductive UploadRequest where
  | start
  | target (command : Nat) (path : Bytes)
  | sensorTarget (command : Nat)
  | data (sequence : Nat) (payload : Bytes) (final : Bool)
  | commit
  deriving DecidableEq, Repr

def UploadRequest.command : UploadRequest → Nat
  | .start => 0x3000
  | .target command _ => command
  | .sensorTarget command => command
  | .data _ _ _ => 0x3200
  | .commit => 0x3300

/-- The report is one that a builder of `commands.py` returns for the request. -/
inductive Built : UploadRequest → Bytes → Prop where
  | start {r : Bytes} (h : buildUploadInitializeRequest = .ok r) : Built .start r
  | target {command : Nat} {text : Text} {path r : Bytes} (htext : encodeAscii text = some path)
      (hliteral : command ∈ LITERAL_UPLOAD_TARGET_COMMANDS)
      (h : buildUploadTargetRequest command (some text) = .ok r) : Built (.target command path) r
  | adbTarget {r : Bytes} (h : buildAdbUploadCommandTargetRequest = .ok r) :
      Built (.target UPLOAD_TARGET_3110 ADB_UPLOAD_COMMAND_TARGET) r
  | sensorTarget {command : Nat} {r : Bytes} (hderived : command ∈ DERIVED_UPLOAD_TARGET_COMMANDS)
      (h : buildUploadTargetRequest command none = .ok r) : Built (.sensorTarget command) r
  | data {sequence : Nat} {payload r : Bytes} {final : Bool} (h : buildUploadDataRequest sequence payload final = .ok r) :
      Built (.data sequence payload final) r
  | commit {r : Bytes} (h : buildUploadCommitRequest = .ok r) : Built .commit r

/-! ## Handlers -/

/-- `upload_append` on the fields of a frame. -/
def appendPayload (ctx : DaemonContext) (sequence : Nat) (payload : Bytes) (final : Bool) :
    Except Fault (Option DaemonContext) :=
  if 2 ≤ sequence ∧ sequence ≠ (ctx.lastSequence + 1) % 2 ^ 32 then .ok none
  else if ctx.uploadCapacity < ctx.uploadUsed + payload.length then .ok none
  else do
    let data ← copyIn ctx.uploadData ctx.uploadUsed payload
    .ok (some { ctx with
      uploadData := data
      sawFinal := if final then 1 else ctx.sawFinal
      uploadState := if final then .ready else ctx.uploadState
      uploadUsed := ctx.uploadUsed + payload.length
      lastSequence := sequence })

def answer (command status : Nat) (ctx : DaemonContext) : Daemon DaemonContext := do
  sendNormalResponse command status 0 []
  pure ctx

def UploadRequest.handle (ctx : DaemonContext) : UploadRequest → Daemon DaemonContext
  | .start =>
    if ctx.uploadState ≠ .idle then answer 0x3000 ST_OK ctx
    else do
      let ready ← uploadInit ctx
      match ready with
      | none => answer 0x3000 ST_FAIL ctx
      | some ctx => answer 0x3000 ST_OK { ctx with uploadState := .needTarget }
  | .target command path =>
    if ctx.uploadState ≠ .needTarget then answer command ST_OK ctx
    else answer command ST_OK { ctx with
      uploadPath := path ++ List.replicate (128 - path.length) 0, destination := true, uploadState := .receiving }
  | .sensorTarget command =>
    if ctx.uploadState ≠ .needTarget then answer command ST_OK ctx
    else do
      let path ← buildSensorPath (command = 0x3114)
      match path with
      | none => answer command ST_FAIL ctx
      | some text => answer command ST_OK { ctx with
          uploadPath := printedPath ctx.uploadPath text, destination := true, uploadState := .receiving }
  | .data sequence payload final =>
    if ¬(ctx.uploadState = .receiving ∨ ctx.uploadState = .error) then answer 0x3200 ST_OK ctx
    else do
      let appended ← lift (appendPayload ctx sequence payload final)
      match appended with
      | none => answer 0x3200 ST_FAIL { ctx with uploadState := .error }
      | some ctx => answer 0x3200 ST_OK ctx
  | .commit =>
    if ¬(ctx.uploadState = .ready ∨ ctx.uploadState = .error) then answer 0x3300 ST_OK ctx
    else do
      let committed ← uploadCommit ctx
      if committed then answer 0x3300 ST_OK { ctx with uploadData := none, uploadState := .idle }
      else answer 0x3300 ST_FAIL { ctx with uploadData := none, uploadState := .error }

/-! ## Built requests -/

/-- The frame of a request. -/
def UploadRequest.frame : UploadRequest → NormalFrame
  | .start => ⟨0x3000, 1, 0, []⟩
  | .target command path => ⟨command, 1, 0, path⟩
  | .sensorTarget command => ⟨command, 1, 0, []⟩
  | .data sequence payload final => ⟨0x3200, if final then 2 else 1, sequence, payload⟩
  | .commit => ⟨0x3300, 1, 0, []⟩

/-- What the builders check of a request. -/
def UploadRequest.Checked : UploadRequest → Prop
  | .target command path => command ∈ LITERAL_UPLOAD_TARGET_COMMANDS ∧ path ≠ [] ∧ path.length ≤ 127 ∧ 0 ∉ path ∧ 32 ∉ path
  | .sensorTarget command => command ∈ DERIVED_UPLOAD_TARGET_COMMANDS
  | .data sequence payload _ => sequence < 2 ^ 32 ∧ payload.length ≤ 1010
  | _ => True

section Built

variable {request : UploadRequest} {r : Bytes}

theorem length_of_built_report {command frameType status : Nat} {payload : Bytes}
    (h : buildNormalReport command payload frameType status = .ok r) : payload.length ≤ 1010 := by
  simp only [buildNormalReport, bind_eq_ok, raiseIf_eq_ok, exists_const, not_lt] at h
  have hsize : Protocol.NORMAL_REPORT_SIZE = 1024 := rfl
  omega

theorem safe_path_bytes {path : Bytes} (h : path.all isSafePathByte = true) : 0 ∉ path ∧ 32 ∉ path := by
  rw [List.all_eq_true] at h
  exact ⟨fun hzero => absurd (h 0 hzero) (by decide), fun hblank => absurd (h 32 hblank) (by decide)⟩

theorem built_target {command : Nat} {text : Text} {path : Bytes} (htext : encodeAscii text = some path)
    (hliteral : command ∈ LITERAL_UPLOAD_TARGET_COMMANDS) (h : buildUploadTargetRequest command (some text) = .ok r) :
    (path ≠ [] ∧ path.length ≤ 127 ∧ path.all isSafePathByte = true) ∧ buildNormalReport command path 1 0 = .ok r := by
  have hderived : command ∉ DERIVED_UPLOAD_TARGET_COMMANDS := by
    have hall : LITERAL_UPLOAD_TARGET_COMMANDS.all (· ∉ DERIVED_UPLOAD_TARGET_COMMANDS) = true := by decide
    exact of_decide_eq_true (List.all_eq_true.mp hall command hliteral)
  simp only [buildUploadTargetRequest, bind_eq_ok, raiseIf_eq_ok, exists_const, if_neg hderived, orRaise_eq_ok,
    Option.some.injEq, exists_eq_left', htext] at h
  obtain ⟨-, -, hsafe, hbuilt⟩ := h
  simp only [not_or, not_lt, Bool.not_eq_false] at hsafe
  exact ⟨hsafe, hbuilt⟩

theorem built_sensorTarget {command : Nat} (hderived : command ∈ DERIVED_UPLOAD_TARGET_COMMANDS)
    (h : buildUploadTargetRequest command none = .ok r) : buildNormalReport command [] 1 0 = .ok r := by
  simp only [buildUploadTargetRequest, bind_eq_ok, raiseIf_eq_ok, exists_const, if_pos hderived] at h
  exact h.2.2

theorem built_data {sequence : Nat} {payload : Bytes} {final : Bool}
    (h : buildUploadDataRequest sequence payload final = .ok r) :
    sequence < 2 ^ 32 ∧ buildNormalReport 0x3200 payload (if final then 2 else 1) sequence = .ok r := by
  simp only [buildUploadDataRequest, bind_eq_ok, raiseIf_eq_ok, exists_const, not_not] at h
  exact ⟨by omega, h.2⟩

theorem built_adbTarget (h : buildAdbUploadCommandTargetRequest = .ok r) :
    buildNormalReport UPLOAD_TARGET_3110 ADB_UPLOAD_COMMAND_TARGET 1 0 = .ok r := by
  simp only [buildAdbUploadCommandTargetRequest, bind_eq_ok, raiseIf_eq_ok, exists_const] at h
  exact h.2.2

theorem checked_of_built (h : Built request r) : request.Checked := by
  cases h with
  | start h => trivial
  | target htext hliteral h =>
    obtain ⟨⟨hnonempty, hlength, hsafe⟩, -⟩ := built_target htext hliteral h
    exact ⟨hliteral, hnonempty, hlength, safe_path_bytes hsafe⟩
  | adbTarget h => exact ⟨by decide, by decide, by decide, by decide, by decide⟩
  | sensorTarget hderived h => exact hderived
  | data h =>
    obtain ⟨hsequence, hbuilt⟩ := built_data h
    exact ⟨hsequence, length_of_built_report hbuilt⟩
  | commit h => trivial

theorem accepted_of_built_request (h : Built request r) :
    r.length = Protocol.NORMAL_REPORT_SIZE ∧ NormalAccepted r request.frame := by
  cases h with
  | start h => exact accepted_of_built (by decide) h
  | target htext hliteral h => exact accepted_of_built (by decide) (built_target htext hliteral h).2
  | adbTarget h => exact accepted_of_built (by decide) (built_adbTarget h)
  | sensorTarget hderived h => exact accepted_of_built (by decide) (built_sensorTarget hderived h)
  | data h => exact accepted_of_built (built_data h).1 (built_data h).2
  | commit h => exact accepted_of_built (by decide) h

theorem exists_built_adbTarget : ∃ target, buildAdbUploadCommandTargetRequest = .ok target := by
  obtain ⟨target, htarget, -⟩ := exists_normalReport UPLOAD_TARGET_3110 0 1 ADB_UPLOAD_COMMAND_TARGET (by decide)
    (by decide) (.inl rfl) (by decide)
  refine ⟨target, ?_⟩
  rw [buildAdbUploadCommandTargetRequest, raiseIf_of_not (by decide), ok_bind, raiseIf_of_not (by decide), ok_bind, htarget]

theorem exists_built_bare {command : Nat} (hcommand : command < 2 ^ 16) :
    ∃ r, buildNormalReport command [] 1 0 = .ok r := by
  obtain ⟨r, hr, -⟩ := exists_normalReport command 0 1 [] hcommand (by decide) (.inl rfl) (by simp)
  exact ⟨r, hr⟩

theorem exists_built_data {sequence : Nat} {payload : Bytes} (final : Bool) (hsequence : sequence < 2 ^ 32)
    (hpayload : payload.length ≤ 1010) : ∃ r, buildUploadDataRequest sequence payload final = .ok r := by
  have htype : (if final = true then 2 else 1) = 1 ∨ (if final = true then 2 else 1) = 2 := by
    cases final
    · exact .inl rfl
    · exact .inr rfl
  obtain ⟨r, hr, -⟩ := exists_normalReport 0x3200 sequence (if final = true then 2 else 1) payload (by decide)
    hsequence htype hpayload
  refine ⟨r, ?_⟩
  rw [buildUploadDataRequest, raiseIf_of_not (by omega)]
  exact hr

/-- A path that fits is copied whole. -/
theorem literalPath_of_safe {path : Bytes} (hlength : path.length ≤ 127) (hzero : 0 ∉ path) (hblank : 32 ∉ path) :
    literalPath path = .ok (path ++ List.replicate (128 - path.length) 0) ∧
      cString (path ++ List.replicate (128 - path.length) 0) = path := by
  have hpad : List.replicate (128 - path.length) (0 : UInt8) = 0 :: List.replicate (127 - path.length) 0 := by
    rw [← List.replicate_succ]
    congr 1
    omega
  have htext : cString (path ++ List.replicate (128 - path.length) 0) = path := by
    rw [cString, hpad, List.takeWhile_append_of_pos]
    · simp
    · exact fun b hb => decide_eq_true fun hb0 => hzero (hb0 ▸ hb)
  have hleft : path.takeWhile (· ≠ 32) = path := by
    rw [List.takeWhile_eq_self_iff]
    exact fun b hb => decide_eq_true fun hb32 => hblank (hb32 ▸ hb)
  refine ⟨?_, htext⟩
  rw [literalPath, raiseIf_of_not (by omega), ok_bind]
  simp only [htext, hleft, if_true]
  rw [raiseIf_of_not (by omega), ok_bind]

theorem uploadAppend_of_accepted {ctx : DaemonContext} (hctx : Sound ctx) {sequence : Nat} {payload : Bytes}
    {final : Bool} (hchecked : (UploadRequest.data sequence payload final).Checked)
    (h : NormalAccepted r (UploadRequest.data sequence payload final).frame) :
    uploadAppend r ctx = appendPayload ctx sequence payload final := by
  have hsequence : u32 r 8 = sequence := h.status
  have hlength : u16 r 6 = payload.length := h.size
  have hpayload := payloadOf_accepted h
  have htype : u8 r 5 = if final then 2 else 1 := h.type
  have hfinal : u8 r 5 = 2 ↔ final = true := by
    rw [htype]
    cases final <;> simp
  have hused := hctx.used
  have hbound : UPLOAD_CAPACITY = 0x01000200 := rfl
  have hsmall : (ctx.uploadUsed + payload.length) % 2 ^ 32 = ctx.uploadUsed + payload.length :=
    Nat.mod_eq_of_lt (by have := hchecked.2; omega)
  rw [hlength] at hpayload
  unfold uploadAppend appendPayload
  simp only [hsequence, hlength, hsmall, hfinal, hpayload]
  rfl

/-- The daemon on the bytes of a request is the daemon on the request. -/
theorem dispatch_built (h : Built request r) {ctx : DaemonContext} (hctx : Sound ctx) :
    dispatchNormalReport r ctx = request.handle ctx := by
  have hchecked := checked_of_built h
  obtain ⟨-, haccepted⟩ := accepted_of_built_request h
  have hcommand : u16 r 3 = request.frame.command := haccepted.command
  have hgroup : request.frame.command / 0x1000 = 3 := by
    cases request with
    | start => rfl
    | target command path =>
      have hall : LITERAL_UPLOAD_TARGET_COMMANDS.all (· / 0x1000 = 3) = true := by decide
      exact of_decide_eq_true (List.all_eq_true.mp hall command hchecked.1)
    | sensorTarget command =>
      have hall : DERIVED_UPLOAD_TARGET_COMMANDS.all (· / 0x1000 = 3) = true := by decide
      exact of_decide_eq_true (List.all_eq_true.mp hall command hchecked)
    | data sequence payload final => show 0x3200 / 0x1000 = 3; decide
    | commit => rfl
  -- the commands are compared in turn; those before the request's own differ from it
  rw [dispatchNormalReport_accepted haccepted]
  unfold dispatchCommand
  simp only [hcommand, hgroup]
  cases request with
  | start =>
    unfold dispatchUpload UploadRequest.handle
    simp only [hcommand, UploadRequest.frame, if_true]
    rfl
  | target command path =>
    obtain ⟨hliteral, -, hlength, hzero, hblank⟩ := hchecked
    have hpayload := payloadOf_accepted haccepted
    have hstart : command ≠ 0x3000 := by
      have hall : LITERAL_UPLOAD_TARGET_COMMANDS.all (· ≠ 0x3000) = true := by decide
      exact of_decide_eq_true (List.all_eq_true.mp hall command hliteral)
    have huses : commandUsesLiteralPath command = true := decide_eq_true hliteral
    unfold dispatchUpload UploadRequest.handle
    simp only [hcommand, UploadRequest.frame, if_neg hstart, huses, if_true]
    split
    · rfl
    · rw [hpayload]
      change (lift (literalPath path) >>= _) = _
      rw [(literalPath_of_safe hlength hzero hblank).1]
      rfl
  | sensorTarget command =>
    have hstart : command ≠ 0x3000 := by
      have hall : DERIVED_UPLOAD_TARGET_COMMANDS.all (· ≠ 0x3000) = true := by decide
      exact of_decide_eq_true (List.all_eq_true.mp hall command hchecked)
    have huses : ¬commandUsesLiteralPath command = true := by
      have hall : DERIVED_UPLOAD_TARGET_COMMANDS.all (¬commandUsesLiteralPath · = true) = true := by decide
      exact of_decide_eq_true (List.all_eq_true.mp hall command hchecked)
    have hsensor : command = 0x3114 ∨ command = 0x3115 := by
      have hmem : command ∈ [0x3114, 0x3115] := hchecked
      simpa using hmem
    unfold dispatchUpload UploadRequest.handle
    simp only [hcommand, UploadRequest.frame, if_neg hstart, if_neg huses, if_pos hsensor]
    rfl
  | data sequence payload final =>
    unfold dispatchUpload UploadRequest.handle
    rw [uploadAppend_of_accepted hctx hchecked haccepted]
    simp only [hcommand, UploadRequest.frame]
    rfl
  | commit =>
    unfold dispatchUpload UploadRequest.handle
    simp only [hcommand, UploadRequest.frame]
    rfl

end Built

/-! ## What can crash the daemon -/

section Crashes

variable {request : UploadRequest} {r : Bytes} {ctx : DaemonContext} {t : DaemonTrace}

/-- `upload_append` would reach its `memcpy`. -/
def Appends (ctx : DaemonContext) (sequence : Nat) (payload : Bytes) : Prop :=
  ¬(2 ≤ sequence ∧ sequence ≠ (ctx.lastSequence + 1) % 2 ^ 32) ∧
    ctx.uploadUsed + payload.length ≤ ctx.uploadCapacity

/-- There is no buffer, and the request would use it. -/
def UploadRequest.Crashes (ctx : DaemonContext) : UploadRequest → Prop
  | .data sequence payload _ =>
    ctx.uploadData = none ∧ ctx.uploadState = .error ∧ payload ≠ [] ∧ Appends ctx sequence payload
  | .commit => (ctx.uploadState = .ready ∨ ctx.uploadState = .error) ∧ Unbacked ctx
  | _ => False

theorem appendPayload_eq_error (hctx : Sound ctx) {sequence : Nat} {payload : Bytes} {final : Bool} {x : Fault}
    (hstate : ctx.uploadState = .receiving ∨ ctx.uploadState = .error) :
    appendPayload ctx sequence payload final = .error x ↔
      (UploadRequest.data sequence payload final).Crashes ctx ∧ x = .nullBuffer := by
  unfold appendPayload
  split
  · next hsequence => exact iff_of_false (by simp) fun h => h.1.2.2.2.1 hsequence
  · next hsequence =>
    split
    · next hroom => exact iff_of_false (by simp) fun h => by have := h.1.2.2.2.2; omega
    · next hroom =>
      have hcapacity : ctx.uploadCapacity = UPLOAD_CAPACITY :=
        hctx.capacity (by rcases hstate with h | h <;> rw [h] <;> decide)
      cases hdata : ctx.uploadData with
      | none =>
        have herror : ctx.uploadState = .error :=
          hstate.resolve_left fun hreceiving => hctx.buffered (.inr hreceiving) hdata
        unfold copyIn
        by_cases hempty : payload = []
        · simp [hempty, UploadRequest.Crashes]
        · simp only [if_neg hempty, error_bind, Except.error.injEq, UploadRequest.Crashes, Appends]
          constructor
          · rintro rfl
            exact ⟨⟨hdata, herror, hempty, hsequence, by omega⟩, rfl⟩
          · exact fun h => h.2.symm
      | some data =>
        have hlength := hctx.buffer data hdata
        simp only [copyIn]
        rw [raiseIf_of_not (by omega)]
        simp [UploadRequest.Crashes, hdata]

theorem ensures_answer {command status : Nat} {ctx' : DaemonContext} {raises : DaemonTrace → Fault → Prop} :
    history.Ensures (answer command status ctx') (fun _ _ => True) raises t :=
  ensures_send.then fun _ _ _ => trivial

theorem ensures_handle (hctx : Sound ctx) (request : UploadRequest) :
    history.Ensures (request.handle ctx) (fun _ _ => True) (fun _ _ => request.Crashes ctx) t := by
  cases request with
  | start =>
    rw [UploadRequest.handle]
    split
    · exact ensures_answer
    · apply (ensures_uploadInit hctx).then
      intro t ready _
      cases ready with
      | none => exact ensures_answer
      | some ctx' => exact ensures_answer
  | target command path =>
    rw [UploadRequest.handle]
    split
    · exact ensures_answer
    · exact ensures_answer
  | sensorTarget command =>
    rw [UploadRequest.handle]
    split
    · exact ensures_answer
    · apply (ensures_buildSensorPath _ t).then
      intro t path _
      cases path with
      | none => exact ensures_answer
      | some text => exact ensures_answer
  | data sequence payload final =>
    rw [UploadRequest.handle]
    split
    · exact ensures_answer
    · next hstate =>
      apply ensures_lift fun x hx => ((appendPayload_eq_error hctx (not_not.mp hstate)).mp hx).1
      intro appended _
      cases appended with
      | none => exact ensures_answer
      | some ctx' => exact ensures_answer
  | commit =>
    rw [UploadRequest.handle]
    split
    · exact ensures_answer
    · next hstate =>
      have hstate := not_not.mp hstate
      have hcommit : history.Ensures (uploadCommit ctx) (fun _ _ => True)
          (fun _ _ => UploadRequest.commit.Crashes ctx) t :=
        ensures_mono (ensures_uploadCommit hctx hstate) (fun _ _ h => h) fun _ _ h => ⟨hstate, h.1⟩
      apply hcommit.then
      intro t committed _
      split
      · exact ensures_answer
      · exact ensures_answer

theorem runs_lift_error {α β : Type} {e : Except Fault α} {f : α → Daemon β} {x : Fault} (h : e = .error x) :
    Runs (lift e >>= f) [] (.raised x) := by
  rw [h]
  exact .raise x

theorem exists_crash (hctx : Sound ctx) (h : request.Crashes ctx) : ∃ t x, Runs (request.handle ctx) t (.raised x) := by
  cases request with
  | start => exact h.elim
  | target command path => exact h.elim
  | sensorTarget command => exact h.elim
  | data sequence payload final =>
    have hstate : ctx.uploadState = .receiving ∨ ctx.uploadState = .error := .inr h.2.1
    refine ⟨[], .nullBuffer, ?_⟩
    rw [UploadRequest.handle]
    rw [if_neg (not_not.mpr hstate)]
    exact runs_lift_error ((appendPayload_eq_error hctx hstate).mpr ⟨h, rfl⟩)
  | commit =>
    obtain ⟨hstate, hfinal, hdata, hused⟩ := h
    have haimed : ctx.destination = true := hctx.destination (by rcases hstate with h | h <;> rw [h] <;> rfl)
    have huploaded : uploaded ctx = .error .nullBuffer := (uploaded_eq_error hctx).mpr ⟨hdata, hused, rfl⟩
    have hcommit : Runs (uploadCommit ctx)
        [⟨.system (ascii "rm " ++ cString ctx.uploadPath), ()⟩, ⟨.system (ascii "sync"), ()⟩,
          ⟨.createFile (cString ctx.uploadPath), true⟩] (.raised .nullBuffer) := by
      unfold uploadCommit
      rw [raiseIf_of_not (by rw [haimed]; decide)]
      change Runs (if ctx.sawFinal ≠ 1 then _ else _) _ _
      rw [if_neg (not_not.mpr hfinal)]
      exact .act (.act (.act (runs_lift_error huploaded)))
    rw [UploadRequest.handle, if_neg (not_not.mpr hstate)]
    exact ⟨_, _, runs_bind_of_raised hcommit⟩

end Crashes

end Cc2Camera.HidUpdate
