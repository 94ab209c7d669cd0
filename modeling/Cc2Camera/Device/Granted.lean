import Cc2Camera.Device.Link

/-!
# Granted — what a request answered with success has done

One lemma a request: the context after it and what it changed outside of the daemon.  In a state that a request is
not meant for, success means that nothing happened.
-/

open Bytes Exceptions Program World

namespace Cc2Camera.HidUpdate

open Protocol Commands

def isMutation : DaemonOp → Bool
  | .system _ => true
  | .rewriteFile _ _ => true
  | .createFile _ => true
  | .fwrite _ _ => true
  | .setFlash _ _ => true
  | _ => false

/-- The events that change anything outside of the daemon. -/
def mutations (t : DaemonTrace) : DaemonTrace := t.filter (isMutation ·.op)

@[simp] theorem mutations_nil : mutations [] = [] := rfl

@[simp] theorem mutations_append (t t' : DaemonTrace) : mutations (t ++ t') = mutations t ++ mutations t' :=
  List.filter_append ..

/-- Removing, creating, filling and opening up one file; after its own binary the daemon runs two more commands. -/
def commitEvents (path content : Bytes) : DaemonTrace :=
  [⟨.system (ascii "rm " ++ path), ()⟩, ⟨.system (ascii "sync"), ()⟩, ⟨.createFile path, true⟩,
    ⟨.fwrite path content, content.length⟩, ⟨.system (ascii "chmod 0777 " ++ path), ()⟩] ++
    if path = ascii "/system/bin/hid_update" then [⟨.system (ascii "command"), ()⟩, ⟨.system (ascii "sync"), ()⟩] else []

/-- A request that was answered with success. -/
structure Succeeds (request : UploadRequest) (ctx : DaemonContext) (t : DaemonTrace) (ctx' : DaemonContext) : Prop where
  run : Runs (request.handle ctx) t (.returned ctx')
  reply : ∃ payload, payload.length ≤ 63 ∧ replies t = [responseReport request.command ST_OK 1 payload]

section Succeeds

variable {ctx ctx' : DaemonContext} {t : DaemonTrace}

theorem runs_answer {command status : Nat} :
    Runs (answer command status ctx) t (.returned ctx') ↔
      ctx = ctx' ∧ ∃ rc : Int, t = [⟨.writeReport (responseReport command status 0 []), rc⟩] := by
  change Runs (.act (.writeReport (responseReport command status 0 [])) fun _ => .ret ctx) t _ ↔ _
  rw [runs_act]
  simp only [runs_ret]
  constructor
  · rintro ⟨rc, _, rfl, hctx, rfl⟩
    exact ⟨hctx, rc, rfl⟩
  · rintro ⟨hctx, rc, rfl⟩
    exact ⟨rc, [], rfl, hctx, rfl⟩

theorem responseReport_status_inj {command status status' : Nat} {payload payload' : Bytes} (hcommand : command < 2 ^ 16)
    (hstatus : status ≤ ST_UNKNOWN_GROUP) (hstatus' : status' ≤ ST_UNKNOWN_GROUP) (hpayload : payload.length ≤ 63)
    (hpayload' : payload'.length ≤ 63)
    (h : responseReport command status 1 payload = responseReport command status' 1 payload') : status = status' := by
  have hbound : ST_UNKNOWN_GROUP = 5 := rfl
  have hparse := (parseNormalReport_response hcommand (show status < 2 ^ 32 by omega)
    (show payload.length ≤ 1010 by omega)).1
  have hparse' := (parseNormalReport_response hcommand (show status' < 2 ^ 32 by omega)
    (show payload'.length ≤ 1010 by omega)).1
  rw [h, hparse'] at hparse
  exact ((NormalFrame.mk.inj (Except.ok.inj hparse)).2.2.1).symm

/-- Behind events that sent nothing, an answer is a success where its status is. -/
theorem status_of_ok {command status : Nat} {before after : DaemonTrace} {payload : Bytes} (hcommand : command < 2 ^ 16)
    (hstatus : status ≤ ST_UNKNOWN_GROUP) (hpayload : payload.length ≤ 63) {rc : Int} (hbefore : replies before = [])
    (h : replies (before ++ ⟨.writeReport (responseReport command status 0 []), rc⟩ :: after) =
      [responseReport command ST_OK 1 payload]) : status = ST_OK := by
  have hcons : replies (⟨.writeReport (responseReport command status 0 []), rc⟩ :: after) =
      responseReport command status 1 [] :: replies after := by
    rw [← responseReport_nil command status 1]
    rfl
  rw [replies_append, hbefore, hcons] at h
  exact responseReport_status_inj hcommand hstatus (by decide) (by simp) hpayload (List.cons.inj h).1

/-- The context a new upload starts from. -/
def DaemonContext.begun (ctx : DaemonContext) (data : Bytes) : DaemonContext :=
  { ctx with
    uploadState := .needTarget
    uploadData := some data
    uploadCapacity := UPLOAD_CAPACITY
    uploadUsed := 0
    lastSequence := 0
    destination := false
    sawFinal := 0 }

theorem runs_uploadInit (hctx : Sound ctx) {ready : Option DaemonContext}
    (h : Runs (uploadInit ctx) t (.returned ready)) :
    mutations t = [] ∧ replies t = [] ∧ ∀ ctx', ready = some ctx' →
      ∃ data, data.length = UPLOAD_CAPACITY ∧ { ctx' with uploadState := .needTarget } = ctx.begun data := by
  unfold uploadInit at h
  cases hdata : ctx.uploadData with
  | some data =>
    rw [hdata] at h
    obtain ⟨rfl, rfl⟩ := runs_ret.mp h
    refine ⟨rfl, rfl, fun ctx' hctx' => ⟨data, hctx.buffer data hdata, ?_⟩⟩
    rw [← Option.some.inj hctx']
    rfl
  | none =>
    rw [hdata] at h
    change Runs (.act (.malloc UPLOAD_CAPACITY) _) t _ at h
    obtain ⟨buffer, t', rfl, hrest⟩ := runs_act.mp h
    cases buffer with
    | none =>
      obtain ⟨rfl, rfl⟩ := runs_ret.mp hrest
      exact ⟨rfl, rfl, nofun⟩
    | some buffer =>
      obtain ⟨rfl, rfl⟩ := runs_ret.mp hrest
      refine ⟨rfl, rfl, fun ctx' hctx' => ⟨buffer.val, buffer.property, ?_⟩⟩
      rw [← Option.some.inj hctx']
      rfl

theorem not_ok_of_fail {command : Nat} {before after : DaemonTrace} {rc : Int} {payload : Bytes}
    (hcommand : command < 2 ^ 16) (hpayload : payload.length ≤ 63) (hbefore : replies before = [])
    (h : replies (before ++ ⟨.writeReport (responseReport command ST_FAIL 0 []), rc⟩ :: after) =
      [responseReport command ST_OK 1 payload]) : False := by
  have hstatus := status_of_ok hcommand (by decide) hpayload hbefore h
  cases hstatus

theorem succeeds_start (hctx : Sound ctx) (h : Succeeds .start ctx t ctx') :
    mutations t = [] ∧ (ctx.uploadState ≠ .idle ∧ ctx' = ctx ∨
      ctx.uploadState = .idle ∧ ∃ data, data.length = UPLOAD_CAPACITY ∧ ctx' = ctx.begun data) := by
  obtain ⟨hrun, payload, hpayload, hreply⟩ := h
  rw [UploadRequest.handle] at hrun
  split at hrun
  · next hstate =>
    obtain ⟨rfl, rc, rfl⟩ := runs_answer.mp hrun
    exact ⟨rfl, .inl ⟨hstate, rfl⟩⟩
  · next hstate =>
    obtain ⟨t₁, ready, t₂, hinit, hanswer, rfl⟩ := runs_bind.mp hrun
    obtain ⟨hquiet, hsilent, hbegun⟩ := runs_uploadInit hctx hinit
    cases ready with
    | none =>
      obtain ⟨-, rc, rfl⟩ := runs_answer.mp hanswer
      exact (not_ok_of_fail (by decide) hpayload hsilent hreply).elim
    | some ready =>
      obtain ⟨rfl, rc, rfl⟩ := runs_answer.mp hanswer
      rw [mutations_append, hquiet]
      exact ⟨rfl, .inr ⟨not_not.mp hstate, hbegun ready rfl⟩⟩

/-- The context whose next packets go to the path. -/
def DaemonContext.aimedAt (ctx : DaemonContext) (path : Bytes) : DaemonContext :=
  { ctx with uploadPath := path ++ List.replicate (128 - path.length) 0, destination := true, uploadState := .receiving }

theorem succeeds_target {command : Nat} {path : Bytes} (h : Succeeds (.target command path) ctx t ctx') :
    mutations t = [] ∧ (ctx.uploadState ≠ .needTarget ∧ ctx' = ctx ∨
      ctx.uploadState = .needTarget ∧ ctx' = ctx.aimedAt path) := by
  obtain ⟨hrun, -⟩ := h
  rw [UploadRequest.handle] at hrun
  split at hrun
  · next hstate =>
    obtain ⟨rfl, rc, rfl⟩ := runs_answer.mp hrun
    exact ⟨rfl, .inl ⟨hstate, rfl⟩⟩
  · next hstate =>
    obtain ⟨rfl, rc, rfl⟩ := runs_answer.mp hrun
    exact ⟨rfl, .inr ⟨not_not.mp hstate, rfl⟩⟩

/-- The bytes received so far. -/
def DaemonContext.received (ctx : DaemonContext) : Bytes := (ctx.uploadData.getD []).take ctx.uploadUsed

theorem take_splice_append {data payload : Bytes} {used : Nat} (hfits : used + payload.length ≤ data.length) :
    (splice data used (used + payload.length) payload).take (used + payload.length) = data.take used ++ payload := by
  rw [splice, List.append_assoc, ← List.append_assoc, List.take_append_of_le_length]
  · rw [List.take_of_length_le]
    rw [List.length_append, List.length_take]
    omega
  · rw [List.length_append, List.length_take]
    omega

/-- A packet that was taken follows what was received before. -/
structure Appended (sequence : Nat) (payload : Bytes) (final : Bool) (ctx ctx' : DaemonContext) : Prop where
  room : Appends ctx sequence payload
  data : ctx.uploadData ≠ none
  received : ctx'.received = ctx.received ++ payload
  used : ctx'.uploadUsed = ctx.uploadUsed + payload.length
  state : ctx'.uploadState = if final then .ready else ctx.uploadState
  path : ctx'.uploadPath = ctx.uploadPath

theorem appended_of_eq {sequence : Nat} {payload : Bytes} {final : Bool} (hpayload : payload ≠ [])
    (h : appendPayload ctx sequence payload final = .ok (some ctx')) :
    Appended sequence payload final ctx ctx' ∧ ctx'.uploadData ≠ none := by
  unfold appendPayload at h
  split at h
  · cases h
  · next hsequence =>
    split at h
    · cases h
    · next hroom =>
      simp only [bind_eq_ok, Except.ok.injEq, Option.some.injEq] at h
      obtain ⟨data', hcopy, rfl⟩ := h
      unfold copyIn at hcopy
      cases hdata : ctx.uploadData with
      | none =>
        rw [hdata] at hcopy
        simp only [if_neg hpayload, reduceCtorEq] at hcopy
      | some data =>
        rw [hdata] at hcopy
        simp only [bind_eq_ok, raiseIf_eq_ok, exists_const, Except.ok.injEq, not_lt] at hcopy
        obtain ⟨hfits, rfl⟩ := hcopy
        refine ⟨⟨⟨hsequence, by omega⟩, by rw [hdata]; simp, ?_, rfl, rfl, rfl⟩, by simp⟩
        show (splice data ctx.uploadUsed _ payload).take _ = (ctx.uploadData.getD []).take ctx.uploadUsed ++ payload
        rw [hdata]
        exact take_splice_append hfits

theorem succeeds_data {sequence : Nat} {payload : Bytes} {final : Bool} (hnonempty : payload ≠ [])
    (h : Succeeds (.data sequence payload final) ctx t ctx') :
    mutations t = [] ∧ (¬(ctx.uploadState = .receiving ∨ ctx.uploadState = .error) ∧ ctx' = ctx ∨
      (ctx.uploadState = .receiving ∨ ctx.uploadState = .error) ∧ Appended sequence payload final ctx ctx') := by
  obtain ⟨hrun, reply, hlength, hreply⟩ := h
  rw [UploadRequest.handle] at hrun
  split at hrun
  · next hstate =>
    obtain ⟨rfl, rc, rfl⟩ := runs_answer.mp hrun
    exact ⟨rfl, .inl ⟨hstate, rfl⟩⟩
  · next hstate =>
    obtain ⟨t₁, appended, t₂, happend, hanswer, rfl⟩ := runs_bind.mp hrun
    obtain ⟨happended, rfl⟩ := runs_ofExcept.mp happend
    cases appended with
    | none =>
      obtain ⟨-, rc, rfl⟩ := runs_answer.mp hanswer
      exact (not_ok_of_fail (by decide) hlength rfl hreply).elim
    | some ready =>
      obtain ⟨rfl, rc, rfl⟩ := runs_answer.mp hanswer
      exact ⟨rfl, .inr ⟨not_not.mp hstate, (appended_of_eq hnonempty happended).1⟩⟩

theorem uploaded_eq_ok {content : Bytes} (h : uploaded ctx = .ok content) :
    content = ctx.received ∧ (ctx.uploadData = none → ctx.uploadUsed = 0) := by
  unfold uploaded at h
  unfold DaemonContext.received
  cases hdata : ctx.uploadData with
  | none =>
    rw [hdata] at h
    dsimp only at h
    split at h
    · next hused =>
      rw [← Except.ok.inj h, hused]
      exact ⟨rfl, fun _ => rfl⟩
    · cases h
  | some data =>
    rw [hdata] at h
    simp only [bind_eq_ok, raiseIf_eq_ok, exists_const, Except.ok.injEq] at h
    exact ⟨h.2.symm, nofun⟩

theorem length_received (hctx : Sound ctx) (hbacked : ctx.uploadData = none → ctx.uploadUsed = 0) :
    ctx.received.length = ctx.uploadUsed := by
  have hused := hctx.used
  unfold DaemonContext.received
  cases hdata : ctx.uploadData with
  | none =>
    rw [hbacked hdata]
    rfl
  | some data =>
    have hbuffer := hctx.buffer data hdata
    rw [List.length_take, Option.getD_some]
    omega

/-- A commit that succeeds ran to its end. -/
theorem runs_uploadCommit (hctx : Sound ctx) (h : Runs (uploadCommit ctx) t (.returned true)) :
    ctx.sawFinal = 1 ∧ (ctx.uploadData = none → ctx.uploadUsed = 0) ∧ replies t = [] ∧
      mutations t = commitEvents (cString ctx.uploadPath) ctx.received := by
  unfold uploadCommit at h
  obtain ⟨t₀, _, t₁, hcheck, hbody, rfl⟩ := runs_bind.mp h
  obtain ⟨-, rfl⟩ := runs_ofExcept.mp hcheck
  dsimp only at hbody
  split at hbody
  · cases (runs_ret.mp hbody).1
  · next hfinal =>
    obtain ⟨_, t₂, rfl, hsync⟩ := runs_act.mp hbody
    obtain ⟨_, t₃, rfl, hcreate⟩ := runs_act.mp hsync
    obtain ⟨opened, t₄, rfl, hopen⟩ := runs_act.mp hcreate
    change Runs (if opened = false then _ else _) t₄ _ at hopen
    split at hopen
    · cases (runs_ret.mp hopen).1
    · next hopened =>
      obtain ⟨t₅, content, t₆, hcontent, hwrite, rfl⟩ := runs_bind.mp hopen
      obtain ⟨huploaded, rfl⟩ := runs_ofExcept.mp hcontent
      obtain ⟨rfl, hbacked⟩ := uploaded_eq_ok huploaded
      obtain ⟨count, t₇, rfl, hcount⟩ := runs_act.mp hwrite
      change Runs (if count ≠ ctx.uploadUsed then _ else _) t₇ _ at hcount
      split at hcount
      · cases (runs_ret.mp hcount).1
      · next hwhole =>
        obtain ⟨_, t₈, rfl, hmode⟩ := runs_act.mp hcount
        -- a short write fails the commit, so everything was written
        have hlength : ctx.received.length = ctx.uploadUsed := length_received hctx hbacked
        obtain rfl : count = ctx.received.length := by rw [hlength]; exact not_not.mp hwhole
        obtain rfl : opened = true := Bool.eq_true_of_not_eq_false hopened
        refine ⟨not_not.mp hfinal, hbacked, ?_⟩
        split at hmode
        · next hself =>
          obtain ⟨_, t₉, rfl, hsecond⟩ := runs_act.mp hmode
          obtain ⟨_, t₁₀, rfl, hend⟩ := runs_act.mp hsecond
          obtain ⟨-, rfl⟩ := runs_ret.mp hend
          rw [commitEvents, if_pos hself]
          exact ⟨rfl, rfl⟩
        · next hself =>
          obtain ⟨-, rfl⟩ := runs_ret.mp hmode
          rw [commitEvents, if_neg hself]
          exact ⟨rfl, rfl⟩

theorem uploaded_of_backed (hctx : Sound ctx) (hbacked : ctx.uploadData = none → ctx.uploadUsed = 0) :
    uploaded ctx = .ok ctx.received := by
  have hused := hctx.used
  unfold uploaded DaemonContext.received
  cases hdata : ctx.uploadData with
  | none =>
    rw [if_pos (hbacked hdata), hbacked hdata]
    rfl
  | some data =>
    have hlength := hctx.buffer data hdata
    simp only
    rw [raiseIf_of_not (by omega)]
    rfl

theorem runs_commitEvents (hctx : Sound ctx) (hready : ctx.uploadState = .ready)
    (hbacked : ctx.uploadData = none → ctx.uploadUsed = 0) :
    Runs (uploadCommit ctx) (commitEvents (cString ctx.uploadPath) ctx.received) (.returned true) := by
  have haimed : ctx.destination = true := hctx.destination (by rw [hready]; rfl)
  unfold uploadCommit
  rw [raiseIf_of_not (by rw [haimed]; decide)]
  change Runs (if ctx.sawFinal ≠ 1 then _ else _) _ _
  rw [if_neg (not_not.mpr (hctx.final hready)), commitEvents]
  refine .act (.act (.act ?_))
  change Runs (lift (uploaded ctx) >>= _) _ _
  rw [uploaded_of_backed hctx hbacked]
  refine .act ?_
  change Runs (if ctx.received.length ≠ ctx.uploadUsed then _ else _) _ _
  rw [if_neg (not_not.mpr (length_received hctx hbacked))]
  refine .act ?_
  change Runs (if cString ctx.uploadPath = ascii "/system/bin/hid_update" then _ else _) _ _
  split
  · exact .act (.act (.ret true))
  · exact .ret true

theorem replies_uploadCommit {committed : Bool} (h : Runs (uploadCommit ctx) t (.returned committed)) :
    replies t = [] := by
  have hsilent := ((silent_uploadCommit ctx [] rfl).sound (runsIn_history h [])).1 committed rfl
  rwa [afterAll_history, List.nil_append] at hsilent

theorem succeeds_commit (hctx : Sound ctx) (h : Succeeds .commit ctx t ctx') :
    ¬(ctx.uploadState = .ready ∨ ctx.uploadState = .error) ∧ ctx' = ctx ∧ mutations t = [] ∨
      (ctx.uploadState = .ready ∨ ctx.uploadState = .error) ∧ (ctx.uploadData = none → ctx.uploadUsed = 0) ∧
        ctx' = { ctx with uploadData := none, uploadState := .idle } ∧
          mutations t = commitEvents (cString ctx.uploadPath) ctx.received := by
  obtain ⟨hrun, reply, hlength, hreply⟩ := h
  rw [UploadRequest.handle] at hrun
  split at hrun
  · next hstate =>
    obtain ⟨rfl, rc, rfl⟩ := runs_answer.mp hrun
    exact .inl ⟨hstate, rfl, rfl⟩
  · next hstate =>
    obtain ⟨t₁, committed, t₂, hcommit, hanswer, rfl⟩ := runs_bind.mp hrun
    have hsilent := replies_uploadCommit hcommit
    cases committed with
    | false =>
      obtain ⟨-, rc, rfl⟩ := runs_answer.mp hanswer
      exact (not_ok_of_fail (by decide) hlength hsilent hreply).elim
    | true =>
      obtain ⟨rfl, rc, rfl⟩ := runs_answer.mp hanswer
      obtain ⟨-, hbacked, -, hevents⟩ := runs_uploadCommit hctx hcommit
      rw [mutations_append, hevents]
      exact .inr ⟨not_not.mp hstate, hbacked, rfl, List.append_nil _⟩

end Succeeds

end Cc2Camera.HidUpdate
