import Cc2Camera.Device.FreedBuffer

/-!
# Touches — what a report can change

A report of any kind, valid or not, in any context: the operations the daemon issues for it are bounded by its command.
-/

open Bytes Exceptions Program World

namespace Cc2Camera.HidUpdate

open Protocol Commands

/-- Only a commit runs its commands in the shell and reaches the file aimed at, only a SET rewrites the configuration,
and only an upgrade request writes the eight upgrade bytes and reboots, by the one command it has for the shell. -/
def Touches (r : Bytes) (ctx : DaemonContext) : DaemonOp → Prop
  | .system command =>
    u16 r 3 = 0x3300 ∧ command ∈ [ascii "rm " ++ cString ctx.uploadPath, ascii "sync",
      ascii "chmod 0777 " ++ cString ctx.uploadPath, ascii "command"] ∨ u16 r 3 / 0x1000 = 4 ∧ command = REBOOT
  | .createFile path => u16 r 3 = 0x3300 ∧ path = cString ctx.uploadPath
  | .fwrite path content => u16 r 3 = 0x3300 ∧ path = cString ctx.uploadPath ∧ content = ctx.received
  | .rewriteFile path _ => path = UVC_CONFIG ∧ ∃ key, configKeyFor (u16 r 3) = some (key, true)
  | .setFlash offset data => u16 r 3 / 0x1000 = 4 ∧ offset = UPGRADE_WORD_OFFSET ∧ data.length = 8
  | _ => True

section Touches

variable {r : Bytes} {ctx : DaemonContext} {α β : Type}

/-- Every operation of the handler is one the report may cause. -/
abbrev Confined (r : Bytes) (ctx : DaemonContext) (p : Daemon α) : Prop := p.Uses (Touches r ctx) fun _ => True

theorem confined_step {op : DaemonOp} {f : DaemonReply op → Daemon β} (h : Touches r ctx op)
    (hf : ∀ reply, Confined r ctx (f reply)) : Confined r ctx (perform op >>= f) := ⟨h, hf⟩

theorem confined_checked {e : Except Fault α} {f : α → Daemon β} (hf : ∀ a, e = .ok a → Confined r ctx (f a)) :
    Confined r ctx (lift e >>= f) := by
  cases e with
  | ok a => exact hf a rfl
  | error x => trivial

theorem confined_send (command status responseType : Nat) (payload : Bytes) :
    Confined r ctx (sendNormalResponse command status responseType payload) := by
  rw [sendNormalResponse]
  exact confined_step trivial fun _ => trivial

theorem confined_send_then (command status : Nat) (a : α) :
    Confined r ctx (sendNormalResponse command status 0 [] >>= fun _ => pure a) :=
  uses_bind (confined_send ..) fun _ => trivial

theorem confined_configGet (command : Nat) (key : Bytes) : Confined r ctx (configGet command key) := by
  unfold configGet
  refine confined_step trivial ?_
  intro file
  cases file with
  | none => exact confined_send ..
  | some content =>
    dsimp only
    split
    · exact confined_send ..
    · exact confined_send ..

theorem confined_configSet {key : Bytes} (h : configKeyFor (u16 r 3) = some (key, true)) (command : Nat) :
    Confined r ctx (configSet command key r) := by
  unfold configSet
  refine confined_step trivial ?_
  intro file
  cases file with
  | none => exact confined_send ..
  | some original =>
    apply confined_checked
    intro _ _
    split
    · exact confined_send ..
    · apply confined_checked
      intro newValue _
      apply confined_checked
      intro _ _
      refine confined_step ⟨rfl, key, h⟩ ?_
      exact fun _ => confined_send ..

theorem confined_dispatchConfig : Confined r ctx (dispatchConfig r) := by
  unfold dispatchConfig
  dsimp only
  cases hkey : configKeyFor (u16 r 3) with
  | none => trivial
  | some found =>
    obtain ⟨key, isSet⟩ := found
    cases isSet with
    | false => exact confined_configGet _ _
    | true => exact confined_configSet hkey _

theorem confined_uploadCommit (h : u16 r 3 = 0x3300) : Confined r ctx (uploadCommit ctx) := by
  unfold uploadCommit
  apply confined_checked
  intro _ _
  dsimp only
  split
  · trivial
  · refine confined_step (.inl ⟨h, by simp⟩) ?_
    intro _
    refine confined_step (.inl ⟨h, by simp⟩) ?_
    intro _
    refine confined_step ⟨h, rfl⟩ ?_
    intro opened
    split
    · trivial
    · apply confined_checked
      intro content hcontent
      obtain ⟨rfl, -⟩ := uploaded_eq_ok hcontent
      refine confined_step ⟨h, rfl, rfl⟩ ?_
      intro count
      split
      · trivial
      · refine confined_step (.inl ⟨h, by simp⟩) ?_
        intro _
        split
        · refine confined_step (.inl ⟨h, by simp⟩) ?_
          exact fun _ => confined_step (.inl ⟨h, by simp⟩) fun _ => trivial
        · trivial

theorem confined_uploadInit : Confined r ctx (uploadInit ctx) := by
  have hbuffer (data : Option Bytes) : Confined r ctx (uploadBuffer data) := by
    cases data with
    | none => exact confined_step trivial fun _ => trivial
    | some data => trivial
  apply uses_bind (hbuffer _)
  intro data
  cases data with
  | none => trivial
  | some data => trivial

theorem confined_buildSensorPath (first : Bool) : Confined r ctx (buildSensorPath first) := by
  unfold buildSensorPath
  refine confined_step trivial ?_
  intro file
  cases file with
  | none => trivial
  | some content =>
    dsimp only
    split
    · trivial
    · split
      · trivial
      · trivial

theorem confined_dispatchUpload : Confined r ctx (dispatchUpload r ctx) := by
  unfold dispatchUpload
  dsimp only
  split
  · split
    · exact confined_send_then ..
    · apply uses_bind confined_uploadInit
      intro ready
      cases ready with
      | none => exact confined_send_then ..
      | some ctx' => exact confined_send_then ..
  · split
    · split
      · exact confined_send_then ..
      · exact confined_checked fun _ _ => confined_checked fun _ _ => confined_send_then ..
    · split
      · split
        · exact confined_send_then ..
        · apply uses_bind (confined_buildSensorPath _)
          intro path
          cases path with
          | none => exact confined_send_then ..
          | some text => exact confined_send_then ..
      · split
        · split
          · exact confined_send_then ..
          · apply confined_checked
            intro appended _
            cases appended with
            | none => exact confined_send_then ..
            | some ctx' => exact confined_send_then ..
        · split
          · next hcommit =>
            split
            · exact confined_send_then ..
            · apply uses_bind (confined_uploadCommit hcommit)
              intro committed
              split
              · exact confined_send_then ..
              · exact confined_send_then ..
          · trivial

theorem confined_setUpgradeWordsAndReboot (h : u16 r 3 / 0x1000 = 4) :
    Confined r ctx (setUpgradeWordsAndReboot r) := by
  unfold setUpgradeWordsAndReboot
  refine confined_step trivial ?_
  intro heapCopy
  apply confined_checked
  intro payload hpayload
  apply confined_checked
  intro _ _
  apply confined_checked
  intro _ hlong
  have hlength : (payload.take 8).length = 8 := by
    rw [raiseIf_eq_ok] at hlong
    rw [List.length_take, length_payloadOf hpayload]
    omega
  refine confined_step ⟨h, rfl, hlength⟩ ?_
  intro rc
  have hanswer : Confined r ctx (answerUpgrade (u16 r 3) rc) := by
    unfold answerUpgrade
    split
    · exact confined_send ..
    · exact confined_step trivial fun _ => confined_send ..
  exact uses_bind hanswer fun _ => ⟨.inr ⟨h, rfl⟩, fun _ => trivial⟩

theorem confined_dispatchNormalReport : Confined r ctx (dispatchNormalReport r ctx) := by
  unfold dispatchNormalReport
  dsimp only
  split
  · exact confined_send_then ..
  · split
    · exact confined_send_then ..
    · apply confined_checked
      intro computed _
      split
      · exact confined_send_then ..
      · unfold dispatchCommand
        dsimp only
        split
        · split
          · unfold versionQuery
            apply uses_bind
            · refine confined_step trivial ?_
              intro file
              split
              · exact confined_send ..
              · exact confined_send ..
            · exact fun _ => trivial
          · trivial
        · trivial
        · exact uses_bind confined_dispatchConfig fun _ => trivial
        · exact confined_dispatchUpload
        · next hgroup => exact uses_bind (confined_setUpgradeWordsAndReboot hgroup) fun _ => trivial
        · exact confined_send_then ..

end Touches

/-- Whatever report arrives in whatever context, and however far it is handled: every operation is one that its command
allows. -/
theorem report_touches (r : Bytes) (ctx : DaemonContext) (t : DaemonTrace) (o : Outcome Fault DaemonContext)
    (hrun : Runs (dispatchNormalReport r ctx) t o) : ∀ e ∈ t, Touches r ctx e.op :=
  (runsIn_history hrun []).uses confined_dispatchNormalReport

/-- A SET that everything works for. -/
theorem runs_configSet {key r content value : Bytes} {parts : Bytes × Bytes} (hsize : content.length ≤ 2048)
    (hfound : findLine key content.length [] content = some parts) (hread : payloadOf r (u16 r 6) = .ok value)
    (hroom : (rewritten content.length parts value).length ≤ 4096) (command : Nat) :
    Runs (configSet command key r)
      [⟨.readFile UVC_CONFIG, some content⟩, ⟨.rewriteFile UVC_CONFIG (rewritten content.length parts value), ()⟩,
        ⟨.writeReport (responseReport command ST_OK 0 []), (0 : Int)⟩] (.returned ()) := by
  have hwrite : Runs (perform (.rewriteFile UVC_CONFIG (rewritten content.length parts value)) >>= fun _ =>
      sendNormalResponse command ST_OK 0 [])
      [⟨.rewriteFile UVC_CONFIG (rewritten content.length parts value), ()⟩,
        ⟨.writeReport (responseReport command ST_OK 0 []), (0 : Int)⟩] (.returned ()) := .act (.act (.ret ()))
  have hopen : Runs (perform (.readFile UVC_CONFIG)) [⟨.readFile UVC_CONFIG, some content⟩] (.returned (some content)) :=
    .act (.ret _)
  refine runs_bind.mpr ⟨_, _, _, hopen, ?_, rfl⟩
  refine runs_bind.mpr ⟨[], (), _, runs_ofExcept.mpr ⟨raiseIf_of_not (not_lt.mpr hsize), rfl⟩, ?_, rfl⟩
  rw [hfound]
  refine runs_bind.mpr ⟨[], value, _, runs_ofExcept.mpr ⟨hread, rfl⟩, ?_, rfl⟩
  exact runs_bind.mpr ⟨[], (), _, runs_ofExcept.mpr ⟨raiseIf_of_not (not_lt.mpr hroom), rfl⟩, hwrite, rfl⟩

/-- An upgrade request that everything works for. -/
theorem runs_acknowledged {mode command : Nat} {r payload : Bytes} (hbuilt : buildUpgradeRequest mode command = .ok r)
    (hpayload : upgradeFlagPayload mode = .ok payload) (ctx : DaemonContext) :
    Runs (dispatchNormalReport r ctx)
      [⟨.malloc 8, some ⟨List.replicate 8 0, rfl⟩⟩, ⟨.setFlash UPGRADE_WORD_OFFSET payload, (0 : Int)⟩,
        ⟨.getFlash UPGRADE_WORD_OFFSET 8, none⟩, ⟨.writeReport (responseReport command ST_OK 0 []), (0 : Int)⟩,
        ⟨.system REBOOT, ()⟩] (.returned ctx) := by
  obtain ⟨-, hgroup, payload', hpayload', haccepted⟩ := accepted_of_upgrade hbuilt
  obtain rfl : payload = payload' := Except.ok.inj (hpayload.symm.trans hpayload')
  have hlength := length_upgradeFlagPayload hpayload
  have hsize : u16 r 6 = 8 := haccepted.size.trans hlength
  have hcommand : u16 r 3 = command := haccepted.command
  have hread : payloadOf r 8 = .ok payload := hsize ▸ payloadOf_accepted haccepted
  have htake : payload.take 8 = payload := List.take_of_length_le (by omega)
  rw [dispatch_upgrade haccepted hgroup, setUpgradeWordsAndReboot, hsize, hcommand]
  refine .act ?_
  dsimp only
  rw [hread]
  change Runs ((perform (.setFlash UPGRADE_WORD_OFFSET (payload.take 8)) >>= _) >>= _) _ _
  rw [htake]
  exact .act (.act (.act (.act (.ret ctx))))

-- a commit that writes its file, and an upgrade request
theorem report_touches_stock :
    (∃ past ctx r ctx', Handled past ctx ∧
      Runs (dispatchNormalReport r ctx) (commitEvents (cString ctx.uploadPath) ctx.received ++
        [⟨.writeReport (responseReport 0x3300 ST_OK 0 []), (0 : Int)⟩]) (.returned ctx') ∧
      ∀ e ∈ commitEvents (cString ctx.uploadPath) ctx.received, Touches r ctx e.op) ∧
    ∃ r t, Runs (dispatchNormalReport r .start) t (.returned .start) ∧ ⟨.system REBOOT, ()⟩ ∈ t ∧
      ∀ e ∈ t, Touches r .start e.op := by
  constructor
  · obtain ⟨past, ctx, hpast, hready, -, hdata, -⟩ := exists_readyUpload
    have hsound := sound_of_reachable (reachable_of_handled hpast)
    obtain ⟨r, hr⟩ := exists_built_bare (show 0x3300 < 2 ^ 16 by decide)
    have hcommitted := runs_commitEvents hsound hready fun hnone => absurd hnone hdata
    let ctx' : DaemonContext := { ctx with uploadData := none, uploadState := .idle }
    have hanswered : Runs (answer 0x3300 ST_OK ctx') [⟨.writeReport (responseReport 0x3300 ST_OK 0 []), (0 : Int)⟩]
        (.returned ctx') := .act (.ret _)
    have hrun : Runs (dispatchNormalReport r ctx) (commitEvents (cString ctx.uploadPath) ctx.received ++
        [⟨.writeReport (responseReport 0x3300 ST_OK 0 []), (0 : Int)⟩]) (.returned ctx') := by
      rw [dispatch_built (.commit hr) hsound, UploadRequest.handle, if_neg (not_not.mpr (.inl hready))]
      exact runs_bind.mpr ⟨_, true, _, hcommitted, hanswered, rfl⟩
    exact ⟨past, ctx, r, ctx', hpast, hrun, fun e he => report_touches r ctx _ _ hrun e (List.mem_append_left _ he)⟩
  · obtain ⟨payload, hpayload⟩ : ∃ payload, upgradeFlagPayload UPGRADE_MODE_HID = .ok payload := ⟨_, rfl⟩
    obtain ⟨r, hr, -⟩ := exists_normalReport 0x4000 0 1 payload (by decide) (by decide) (.inl rfl)
      (by rw [length_upgradeFlagPayload hpayload]; decide)
    have hbuilt : buildUpgradeRequest UPGRADE_MODE_HID 0x4000 = .ok r := by
      rw [buildUpgradeRequest, raiseIf_of_not (by decide), ok_bind, hpayload, ok_bind, hr]
    have hrun := runs_acknowledged hbuilt hpayload .start
    exact ⟨r, _, hrun, by simp, report_touches r .start _ _ hrun⟩

end Cc2Camera.HidUpdate
