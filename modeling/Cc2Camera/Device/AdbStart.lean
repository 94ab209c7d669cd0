import Cc2Camera.Device.UploadLaw

/-!
# AdbStart — the upload that starts `adbd`

A commit whose `rm` runs a second command and whose `fopen` fails.  The host cannot tell how it went, and the daemon
takes no upload any more afterwards.
-/

open Bytes Exceptions Program World

namespace Cc2Camera.HidUpdate

open Protocol Commands Host HidTransport

namespace Camera

variable {σ : Type} {c : Camera σ} {l l' : Link σ} {r : Bytes}

/-- The link differs at most in what waits to be read. -/
structure SameDevice (l l' : Link σ) : Prop where
  daemon : l'.daemon = l.daemon
  performed : l'.performed = l.performed

theorem sameDevice_refl (l : Link σ) : SameDevice l l := ⟨rfl, rfl⟩

theorem sameDevice_trans {l₁ l₂ l₃ : Link σ} (h : SameDevice l₁ l₂) (h' : SameDevice l₂ l₃) : SameDevice l₁ l₃ :=
  ⟨h'.daemon.trans h.daemon, h'.performed.trans h.performed⟩

variable (c) in
/-- An attempt at an exchange: the report was handled, or it was not. -/
def Attempted (l : Link σ) (r : Bytes) (l' : Link σ) : Prop := SameDevice l l' ∨ SameDevice (c.deliver l r) l'

theorem ensures_call {op : Op} {returns : Link σ → Answer op → Prop} {raises : Link σ → Exc → Prop}
    (hok : ∀ a, c.link.answers l ⟨op, .ok a⟩ → returns (c.link.after l ⟨op, .ok a⟩) a)
    (herror : ∀ x, raises (c.link.after l ⟨op, .error x⟩) x) : c.link.Ensures (call op) returns raises l := by
  intro reply hanswers
  cases reply with
  | ok a => exact hok a hanswers
  | error x => exact herror x

theorem attempted_write (handle : HidHandle) (reply : Reply (.hidWrite handle r)) :
    c.Attempted l r (c.link.after l ⟨.hidWrite handle r, reply⟩) := by
  cases reply with
  | ok count =>
    change c.Attempted l r (if _ then c.deliver l r else l)
    split
    · exact .inr (sameDevice_refl _)
    · exact .inl (sameDevice_refl l)
  | error x =>
    change c.Attempted l r (if _ then c.deliver l r else l)
    split
    · exact .inr (sameDevice_refl _)
    · exact .inl (sameDevice_refl l)

theorem sameDevice_read (handle : HidHandle) (size timeoutMs : Nat) (reply : Reply (.hidRead handle size timeoutMs)) :
    SameDevice l (c.link.after l ⟨.hidRead handle size timeoutMs, reply⟩) := by
  cases reply with
  | ok data =>
    change SameDevice l (if data = [] then l else { l with waiting := l.waiting.tail })
    split
    · exact sameDevice_refl l
    · exact ⟨rfl, rfl⟩
  | error x => exact sameDevice_refl l

theorem ensures_exchange {handle : HidHandle} (l : Link σ) (r : Bytes) :
    c.link.Ensures (exchange handle r) (fun l' _ => c.Attempted l r l') (fun l' _ => c.Attempted l r l') l := by
  have hread {l₁ : Link σ} (h : c.Attempted l r l₁) : c.link.Ensures (readReport handle Protocol.NORMAL_REPORT_SIZE 5000)
      (fun l' _ => c.Attempted l r l') (fun l' _ => c.Attempted l r l') l₁ := by
    have hafter (reply : Reply (.hidRead handle Protocol.NORMAL_REPORT_SIZE 5000)) :
        c.Attempted l r (c.link.after l₁ ⟨.hidRead handle Protocol.NORMAL_REPORT_SIZE 5000, reply⟩) :=
      h.imp (fun h => sameDevice_trans h (sameDevice_read ..)) fun h => sameDevice_trans h (sameDevice_read ..)
    apply ensures_bind.mpr
    refine ensures_call (fun data _ => ?_) fun x => hafter (.error x)
    apply ensures_bind.mpr
    exact ensures_ofExcept.mpr ⟨fun _ _ => hafter (.ok data), fun _ _ => hafter (.ok data)⟩
  have hwrite : c.link.Ensures (writeExact handle r) (fun l' _ => c.Attempted l r l') (fun l' _ => c.Attempted l r l') l := by
    apply ensures_bind.mpr
    refine ensures_call (fun count _ => ?_) fun x => attempted_write handle (.error x)
    exact ensures_ofExcept.mpr ⟨fun _ _ => attempted_write handle (.ok count), fun _ _ => attempted_write handle (.ok count)⟩
  have hnothing : c.Attempted l r l := .inl (sameDevice_refl l)
  unfold exchange exchangeNormal
  apply ensures_bind.mpr
  apply ensures_bind.mpr
  refine ensures_ofExcept.mpr ⟨fun sent _ => ?_, fun _ _ => hnothing⟩
  apply hwrite.then
  intro l₁ _ h₁
  apply (hread h₁).then
  intro l₂ data h₂
  exact ensures_ofExcept.mpr ⟨fun _ _ => h₂, fun _ _ => h₂⟩

/-- An exchange whose failure is swallowed is an attempt. -/
theorem attempted_of_swallowed {handle : HidHandle}
    (h : c.link.Reaches l ((exchange handle r).handle swallowTransport) l' ()) : c.Attempted l r l' := by
  obtain ⟨t, hrun, rfl⟩ := h
  rcases runsIn_handle_returned hrun with hreturned | ⟨t₁, x, t₂, rfl, hraised, hanswered⟩
  · exact ((ensures_exchange l r).sound hreturned).1 () rfl
  · have hattempted := ((ensures_exchange l r).sound hraised).2 x rfl
    unfold swallowTransport at hanswered
    split at hanswered
    · obtain ⟨-, rfl⟩ := runs_ret.mp hanswered.runs
      rw [List.append_nil]
      exact hattempted
    · exact absurd hanswered.runs runs_raise

end Camera

/-- What the commit does where its file cannot be opened: the command behind `rm`, and nothing with the content. -/
def failedCommitEvents (path : Bytes) : DaemonTrace :=
  [⟨.system (ascii "rm " ++ path), ()⟩, ⟨.system (ascii "sync"), ()⟩, ⟨.createFile path, false⟩]

section Missing

variable {σ : Type} {c : Camera σ} {ctx : DaemonContext}

theorem play_failedCommit (hctx : Sound ctx) (hready : ctx.uploadState = .ready)
    (hmissing : ∀ s, (c.answer s (.createFile (cString ctx.uploadPath))).2 = false) (s : σ) :
    ∃ s', (uploadCommit ctx).play c.answer s = ⟨s', failedCommitEvents (cString ctx.uploadPath), .returned false⟩ := by
  have haimed : ctx.destination = true := hctx.destination (by rw [hready]; rfl)
  unfold uploadCommit
  rw [raiseIf_of_not (by rw [haimed]; decide)]
  change ∃ s', (if ctx.sawFinal ≠ 1 then _ else _ : Daemon Bool).play c.answer s = _
  rw [if_neg (not_not.mpr (hctx.final hready))]
  change ∃ s', (Program.act (.system _) fun _ => Program.act (.system _) fun _ => Program.act (.createFile _) fun opened =>
    if opened = false then _ else _ : Daemon Bool).play c.answer s = _
  simp only [play, hmissing]
  exact ⟨_, rfl⟩

theorem play_commit_missing (hctx : Sound ctx) (hready : ctx.uploadState = .ready)
    (hmissing : ∀ s, (c.answer s (.createFile (cString ctx.uploadPath))).2 = false) (s : σ) :
    ((UploadRequest.commit.handle ctx).play c.answer s).outcome =
        .returned { ctx with uploadData := none, uploadState := .error } ∧
      mutations ((UploadRequest.commit.handle ctx).play c.answer s).events =
        failedCommitEvents (cString ctx.uploadPath) := by
  obtain ⟨s', hplay⟩ := play_failedCommit hctx hready hmissing s
  rw [UploadRequest.handle, if_neg (not_not.mpr (.inl hready)), play_bind_of_returned hplay]
  exact ⟨rfl, rfl⟩

end Missing

namespace Camera

variable {σ : Type} {c : Camera σ} {l l' : Link σ} {ctx : DaemonContext} {changed : DaemonTrace}

/-- The daemon before the commit that starts `adbd`. -/
theorem running_startAdb (h : Running l ctx changed) (hidle : ctx.uploadState.aimed = false)
    (hreach : c.link.Reaches l startAdbThroughUploadCommand l' ()) :
    ∃ l₁ ctx₁ commit, Running l₁ ctx₁ changed ∧ ctx₁.uploadState = .ready ∧
      cString ctx₁.uploadPath = ADB_UPLOAD_COMMAND_TARGET ∧ Built .commit commit ∧ c.Attempted l₁ commit l' := by
  simp only [startAdbThroughUploadCommand, reaches_bind, Host.lift, reaches_ofExcept, reaches_withHandle] at hreach
  obtain ⟨_, start, ⟨hstart, rfl⟩, _, target, ⟨htarget, rfl⟩, _, packet, ⟨hpacket, rfl⟩, _, commit, ⟨hcommit, rfl⟩, handle,
    -, -, l₁, _, hfirst, l₂, _, hsecond, l₃, _, hthird, hlast⟩ := hreach
  have hbuilt : Built (.target UPLOAD_TARGET_3110 ADB_UPLOAD_COMMAND_TARGET) target := .adbTarget htarget
  obtain ⟨-, -, hsafe⟩ := checked_of_built hbuilt
  obtain ⟨ctx₂, hrunning₂, hprepared⟩ := running_prepared hsafe (.start hstart) hbuilt h hfirst hsecond
  obtain ⟨t, ctx₃, hsucceeds, hnext⟩ := running_exchange (.data hpacket) hrunning₂ hthird
  obtain ⟨hquiet, hcases⟩ := succeeds_data (by decide) hsucceeds
  rcases hprepared with ⟨haimed, -⟩ | ⟨-, hstate, hpath, -⟩
  · rw [hidle] at haimed
    cases haimed
  · rcases hcases with ⟨hother, -⟩ | ⟨-, happended⟩
    · exact absurd (.inl hstate) hother
    · exact ⟨l₃, ctx₃, commit, running_quiet hquiet hnext, happended.state, by rw [happended.path, hpath], .commit hcommit,
        attempted_of_swallowed hlast⟩

/-- A commit that got through, of a file that cannot be opened. -/
theorem running_delivered_commit {commit : Bytes} (hbuilt : Built .commit commit) (h : Running l ctx changed)
    (hready : ctx.uploadState = .ready) (hmissing : ∀ s, (c.answer s (.createFile (cString ctx.uploadPath))).2 = false) :
    mutations (c.deliver l commit).performed = changed ++ failedCommitEvents (cString ctx.uploadPath) ∧
      (c.deliver l commit).daemon = some { ctx with uploadData := none, uploadState := .error } := by
  obtain ⟨houtcome, hevents⟩ := play_commit_missing h.sound hready hmissing l.camera
  have hreboot : ((UploadRequest.commit.handle ctx).play c.answer l.camera).events.any isReboot = false := by
    rw [any_isReboot, hevents]
    rfl
  have hdeliver : (c.deliver l commit).performed =
        l.performed ++ ((UploadRequest.commit.handle ctx).play c.answer l.camera).events ∧
      (c.deliver l commit).daemon = survivor ((UploadRequest.commit.handle ctx).play c.answer l.camera) := by
    rw [deliver]
    simp only [h.daemon, dispatch_built hbuilt h.sound, and_self]
  rw [hdeliver.1, hdeliver.2, mutations_append, hevents, h.changed, survivor, houtcome]
  simp only [hreboot, Bool.false_eq_true, if_false, and_self]

theorem running_attempted_commit {commit : Bytes} (hbuilt : Built .commit commit) (h : Running l ctx changed)
    (hready : ctx.uploadState = .ready) (hmissing : ∀ s, (c.answer s (.createFile (cString ctx.uploadPath))).2 = false)
    (hattempted : c.Attempted l commit l') :
    mutations l'.performed = changed ∨
      mutations l'.performed = changed ++ failedCommitEvents (cString ctx.uploadPath) ∧
        l'.daemon = some { ctx with uploadData := none, uploadState := .error } := by
  rcases hattempted with hsame | hsame
  · exact .inl (by rw [hsame.performed, h.changed])
  · obtain ⟨hperformed, hdaemon⟩ := running_delivered_commit hbuilt h hready hmissing
    exact .inr ⟨by rw [hsame.performed, hperformed], by rw [hsame.daemon, hdaemon]⟩

end Camera

/-- Neither an upload nor another start of `adbd` can return any more. -/
def TakesNothing (ctx : DaemonContext) : Prop :=
  ∀ (σ : Type) (c : Camera σ) (camera : σ) (l' : Link σ),
    (∀ path content, ¬c.link.Reaches (.opened ctx camera) (uploadNormalFile path content) l' ()) ∧
      ¬c.link.Reaches (.opened ctx camera) startAdbThroughUploadCommand l' ()

theorem takesNothing_of_wedged {ctx : DaemonContext} (hctx : Sound ctx) (herror : ctx.uploadState = .error)
    (hdata : ctx.uploadData = none) : TakesNothing ctx := by
  intro σ c camera l'
  constructor
  · intro path content hreach
    obtain ⟨encoded, hencoded⟩ := encodable_of_upload hreach
    obtain ⟨hroom, -⟩ := Camera.running_upload hencoded (running_opened hctx camera) hreach
    rw [Accommodates, herror] at hroom
    exact hroom.1 hdata
  · intro hreach
    simp only [startAdbThroughUploadCommand, reaches_bind, Host.lift, reaches_ofExcept, Camera.reaches_withHandle] at hreach
    obtain ⟨_, start, ⟨hstart, rfl⟩, _, target, ⟨htarget, rfl⟩, _, packet, ⟨hpacket, rfl⟩, _, commit, ⟨-, rfl⟩, handle, -, -, l₁, _,
      hfirst, l₂, _, hsecond, l₃, _, hthird, -⟩ := hreach
    have hbuilt : Built (.target UPLOAD_TARGET_3110 ADB_UPLOAD_COMMAND_TARGET) target := .adbTarget htarget
    obtain ⟨-, -, hsafe⟩ := checked_of_built hbuilt
    obtain ⟨ctx₂, hrunning₂, hprepared⟩ :=
      Camera.running_prepared hsafe (.start hstart) hbuilt (running_opened hctx camera) hfirst hsecond
    rcases hprepared with ⟨-, rfl⟩ | ⟨haimed, -⟩
    · obtain ⟨t, ctx₃, hsucceeds, -⟩ := Camera.running_exchange (.data hpacket) hrunning₂ hthird
      obtain ⟨-, ⟨hother, -⟩ | ⟨-, happended⟩⟩ := succeeds_data (by decide) hsucceeds
      · exact hother (.inr herror)
      · exact happended.data hdata
    · rw [herror] at haimed
      cases haimed

/-- Where the file of the target cannot be opened and no upload is open, a start of `adbd` that returned has run the
command behind `rm` once and nothing else, or its commit got lost.  Once run, the daemon takes no upload any more. -/
theorem startAdb_runsOnce {σ : Type} (c : Camera σ) (camera : σ) (ctx : DaemonContext) (l' : Link σ) (hctx : Reachable ctx)
    (hidle : ctx.uploadState.aimed = false)
    (hmissing : ∀ s, (c.answer s (.createFile ADB_UPLOAD_COMMAND_TARGET)).2 = false)
    (hreach : c.link.Reaches (.opened ctx camera) startAdbThroughUploadCommand l' ()) :
    mutations l'.performed = [] ∨
      mutations l'.performed = failedCommitEvents ADB_UPLOAD_COMMAND_TARGET ∧
        ∃ ctx', l'.daemon = some ctx' ∧ TakesNothing ctx' := by
  obtain ⟨l₁, ctx₁, commit, hrunning, hready, hpath, hbuilt, hattempted⟩ :=
    Camera.running_startAdb (running_opened (sound_of_reachable hctx) camera) hidle hreach
  rw [← hpath] at hmissing ⊢
  rcases Camera.running_attempted_commit hbuilt hrunning hready hmissing hattempted with hlost | ⟨hrun, hdaemon⟩
  · exact .inl hlost
  · have hfailed : Sound { ctx₁ with uploadData := none, uploadState := .error } :=
      sound_failed hrunning.sound (by rw [hready]; rfl) (.inr rfl)
    exact .inr ⟨hrun, _, hdaemon, takesNothing_of_wedged hfailed rfl rfl⟩

/-- A write that fails is swallowed, whether or not the report got through. -/
theorem reaches_swallowed {σ : Type} {c : Camera σ} {l : Link σ} {r : Bytes} {frame : NormalFrame} (handle : HidHandle)
    (hparse : parseNormalReport r = .ok frame) :
    c.link.Reaches l ((exchange handle r).handle swallowTransport) (if c.takes l.camera r then c.deliver l r else l) () := by
  rw [exchange, exchangeNormal, hparse]
  exact reaches_act.mpr ⟨.error .osError, trivial, reaches_ret.mpr ⟨rfl, rfl⟩⟩

/-- A start of `adbd` whose commit gets through although the write reports an error. -/
theorem exists_startAdb (opens : Bytes → Bool) :
    ∃ l ctx changed commit, Camera.Running l ctx changed ∧ ctx.uploadState = .ready ∧ Built .commit commit ∧
      (obliging opens).link.Reaches (.opened .start ()) startAdbThroughUploadCommand ((obliging opens).deliver l commit)
        () := by
  let info : HidDevice := ⟨NORMAL_VID, NORMAL_PID, none, ""⟩
  let handle : HidHandle := ⟨NORMAL_VID, NORMAL_PID, info⟩
  obtain ⟨start, hstart⟩ := exists_built_bare (show 0x3000 < 2 ^ 16 by decide)
  obtain ⟨commit, hcommit⟩ := exists_built_bare (show 0x3300 < 2 ^ 16 by decide)
  obtain ⟨packet, hpacket⟩ : ∃ packet, buildUploadDataRequest 0 ADB_UPLOAD_COMMAND_CONTENT true = .ok packet :=
    exists_built_data true (by decide) (by decide)
  obtain ⟨target, htarget⟩ := exists_built_adbTarget
  have hopened : Camera.Running (.opened .start ()) .start [] := running_opened sound_start ()
  obtain ⟨ctx₁, hworks₁⟩ := works_start opens .start
  obtain ⟨l₁, _, hfirst, hrunning₁⟩ := exists_exchange handle (.start hstart) hopened hworks₁
  obtain ⟨_, hworks₂⟩ := works_target opens ctx₁ ADB_UPLOAD_COMMAND_TARGET
  obtain ⟨l₂, _, hsecond, -⟩ := exists_exchange handle (.adbTarget htarget) hrunning₁ hworks₂
  obtain ⟨-, -, hsafe⟩ := checked_of_built (.adbTarget htarget)
  obtain ⟨ctx₂, hrunning₂, ⟨haimed, -⟩ | ⟨-, hstate, -, hused⟩⟩ :=
    Camera.running_prepared hsafe (.start hstart) (.adbTarget htarget) hopened hfirst hsecond
  · cases haimed
  · have hcapacity := hrunning₂.sound.capacity (by rw [hstate]; decide)
    have happends : Appends ctx₂ 0 ADB_UPLOAD_COMMAND_CONTENT :=
      ⟨fun h => absurd h.1 (by decide), by rw [hused, hcapacity]; decide⟩
    obtain ⟨ctx₃, hworks₃, -, -, -, hready, -⟩ :=
      exists_works_data hrunning₂.sound true (.inl hstate) (hrunning₂.sound.buffered (.inr hstate)) happends
    obtain ⟨l₃, changed₃, hthird, hrunning₃⟩ := exists_exchange handle (.data hpacket) hrunning₂ hworks₃
    obtain ⟨hlength, haccepted⟩ := accepted_of_built (by decide) hcommit
    have hparse := (parse_of_accepted hlength haccepted).1
    refine ⟨l₃, ctx₃, changed₃, commit, hrunning₃, hready, .commit hcommit, ?_⟩
    simp only [startAdbThroughUploadCommand, reaches_bind, Host.lift, reaches_ofExcept, Camera.reaches_withHandle]
    exact ⟨_, start, ⟨hstart, rfl⟩, _, target, ⟨htarget, rfl⟩, _, packet, ⟨hpacket, rfl⟩, _, commit, ⟨hcommit, rfl⟩, handle, rfl, rfl,
      l₁, (), hfirst, l₂, (), hsecond, l₃, (), hthird, reaches_swallowed handle hparse⟩

-- on a camera on which no file can be opened, the command runs
theorem startAdb_runsOnce_start : ∃ l',
    (obliging fun _ => false).link.Reaches (.opened .start ()) startAdbThroughUploadCommand l' () ∧
      mutations l'.performed = failedCommitEvents ADB_UPLOAD_COMMAND_TARGET ∧
      ∃ ctx', l'.daemon = some ctx' ∧ TakesNothing ctx' := by
  obtain ⟨l, ctx, changed, commit, hrunning, hready, hbuilt, hreach⟩ := exists_startAdb fun _ => false
  have hmissing (path : Bytes) (s : Unit) : ((obliging fun _ => false).answer s (.createFile path)).2 = false := rfl
  obtain ⟨hperformed, -⟩ := Camera.running_delivered_commit hbuilt hrunning hready (hmissing _)
  have hran : mutations ((obliging fun _ => false).deliver l commit).performed ≠ [] := by
    rw [hperformed]
    exact List.append_ne_nil_of_right_ne_nil _ (List.cons_ne_nil _ _)
  exact ⟨_, hreach, (startAdb_runsOnce _ () .start _ .start rfl (hmissing _) hreach).resolve_left hran⟩

end Cc2Camera.HidUpdate
