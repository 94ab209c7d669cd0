import Cc2Camera.Device.Granted

/-!
# Landing — where an upload that returned has gone

The law of `upload_normal_file` against the daemon, from every context earlier requests can have left behind.  The
daemon answers what does not fit its state with success, so an upload that returned need not have written its file.
-/

open Bytes Exceptions Program World

namespace Cc2Camera.HidUpdate

open Protocol Commands Host HidTransport

namespace Camera

variable {σ : Type} {c : Camera σ} {l l' : Link σ}

/-- What a granted request did to a daemon that was running. -/
theorem granted_built {request : UploadRequest} {r : Bytes} (hbuilt : Built request r) {ctx : DaemonContext}
    (hctx : Sound ctx) (hdaemon : l.daemon = some ctx) (hwaiting : l.waiting = []) (h : c.Granted l r l') :
    ∃ t ctx', Succeeds request ctx t ctx' ∧ Sound ctx' ∧ l'.performed = l.performed ++ t ∧ l'.waiting = [] ∧
      l'.daemon = if t.any isReboot then none else some ctx' := by
  obtain ⟨payload, hpayload, hreplies, rfl⟩ := h
  have hcommand : u16 r 3 = request.command := by
    rw [(accepted_of_built_request hbuilt).2.command]
    cases request <;> rfl
  have hdeliver : c.deliver l r =
      { daemon := survivor ((dispatchNormalReport r ctx).play c.answer l.camera)
        camera := ((dispatchNormalReport r ctx).play c.answer l.camera).state
        performed := l.performed ++ ((dispatchNormalReport r ctx).play c.answer l.camera).events
        waiting := replies ((dispatchNormalReport r ctx).play c.answer l.camera).events } := by
    rw [deliver]
    simp only [hdaemon, hwaiting, List.nil_append]
  rw [hdeliver] at hreplies ⊢
  have hruns := runs_play c.answer (dispatchNormalReport r ctx) l.camera
  rcases ensures_play c.answer (handles_dispatchNormalReport r ctx) l.camera with
    ⟨ctx', houtcome, -⟩ | ⟨fault, -, hsilent⟩
  · rw [houtcome] at hruns
    have hsound := ((sound_dispatchNormalReport hctx r).sound (runsIn_history hruns [])).1 ctx' rfl
    rw [hcommand] at hreplies
    refine ⟨_, ctx', ⟨?_, payload, hpayload, hreplies⟩, hsound, rfl, rfl, ?_⟩
    · rw [← dispatch_built hbuilt hctx]
      exact hruns
    · show survivor _ = _
      rw [survivor, houtcome]
  · change replies _ = _ at hsilent
    rw [List.nil_append] at hsilent
    rw [hsilent] at hreplies
    cases hreplies

/-- A daemon that is running and has nothing left to say, with what has been changed so far. -/
structure Running (l : Link σ) (ctx : DaemonContext) (changed : DaemonTrace) : Prop where
  daemon : l.daemon = some ctx
  sound : Sound ctx
  waiting : l.waiting = []
  changed : mutations l.performed = changed

theorem any_isReboot (t : DaemonTrace) : t.any isReboot = (mutations t).any isReboot := by
  induction t with
  | nil => rfl
  | cons e t ih =>
    obtain ⟨op, reply⟩ := e
    cases op with
    | system command => exact congrArg (isReboot ⟨.system command, reply⟩ || ·) ih
    | _ => exact ih

variable {ctx : DaemonContext} {changed : DaemonTrace} {handle : HidHandle}

theorem running_exchange {request : UploadRequest} {r : Bytes} (hbuilt : Built request r) (h : Running l ctx changed)
    (hreach : c.link.Reaches l (exchange handle r) l' ()) :
    ∃ t ctx', Succeeds request ctx t ctx' ∧
      ((mutations t).any isReboot = false → Running l' ctx' (changed ++ mutations t)) := by
  obtain ⟨hlength, haccepted⟩ := accepted_of_built_request hbuilt
  have hgranted := (reaches_exchange handle h.waiting hlength haccepted).mp hreach
  obtain ⟨t, ctx', hsucceeds, hsound, hperformed, hwaiting, hdaemon⟩ :=
    granted_built hbuilt h.sound h.daemon h.waiting hgranted
  refine ⟨t, ctx', hsucceeds, fun hreboot => ⟨?_, hsound, hwaiting, ?_⟩⟩
  · rw [hdaemon, any_isReboot, hreboot]
    rfl
  · rw [hperformed, mutations_append, h.changed]

/-- A request that changed nothing. -/
theorem running_quiet {t : DaemonTrace} {ctx' : DaemonContext} (hquiet : mutations t = [])
    (h : (mutations t).any isReboot = false → Running l' ctx' (changed ++ mutations t)) : Running l' ctx' changed := by
  rw [hquiet, List.append_nil] at h
  exact h rfl

/-- In the states a packet is meant for, a sequence of packets is received whole; in the others nothing happens. -/
theorem running_sendChunks {packets : List Bytes} (hnonempty : ∀ packet ∈ packets, packet ≠ []) (hany : packets ≠ [])
    {k : Nat} (h : Running l ctx changed) (hreach : c.link.Reaches l (sendChunks handle k packets) l' ()) :
    ∃ ctx', Running l' ctx' changed ∧
      (¬(ctx.uploadState = .receiving ∨ ctx.uploadState = .error) ∧ ctx' = ctx ∨
        (ctx.uploadState = .receiving ∨ ctx.uploadState = .error) ∧ ctx.uploadData ≠ none ∧
          ctx'.uploadState = .ready ∧ ctx'.received = ctx.received ++ packets.flatten ∧
            ctx'.uploadUsed = ctx.uploadUsed + packets.flatten.length ∧ ctx'.uploadPath = ctx.uploadPath) := by
  induction packets generalizing l ctx k with
  | nil => exact absurd rfl hany
  | cons packet rest ih =>
    obtain ⟨hpacket, hrest⟩ := List.forall_mem_cons.mp hnonempty
    simp only [sendChunks, reaches_bind, Host.lift, reaches_ofExcept] at hreach
    obtain ⟨_, r, ⟨hr, rfl⟩, l₁, _, hexchange, hloop⟩ := hreach
    obtain ⟨t, ctx₁, hsucceeds, hnext⟩ := running_exchange (.data hr) h hexchange
    obtain ⟨hquiet, hcases⟩ := succeeds_data hpacket hsucceeds
    have hrunning := running_quiet hquiet hnext
    -- a packet changes the state only when it is the final one, so all of them meet the state of the first
    rcases hcases with ⟨hstate, rfl⟩ | ⟨hstate, happended⟩
    · by_cases hlast : rest = []
      · subst hlast
        obtain ⟨-, rfl⟩ := reaches_ret.mp hloop
        exact ⟨ctx₁, hrunning, .inl ⟨hstate, rfl⟩⟩
      · obtain ⟨ctx', hrunning', hcases'⟩ := ih hrest hlast hrunning hloop
        refine ⟨ctx', hrunning', ?_⟩
        rcases hcases' with hsame | ⟨hstate', -⟩
        · exact .inl hsame
        · exact absurd hstate' hstate
    · by_cases hlast : rest = []
      · subst hlast
        obtain ⟨-, rfl⟩ := reaches_ret.mp hloop
        refine ⟨ctx₁, hrunning, .inr ⟨hstate, happended.data, happended.state, ?_, ?_, happended.path⟩⟩
        · rw [happended.received, List.flatten_cons, List.flatten_nil, List.append_nil]
        · rw [happended.used, List.flatten_cons, List.flatten_nil, List.append_nil]
      · have hsame : ctx₁.uploadState = ctx.uploadState := by
          rw [happended.state, if_neg (by simpa using hlast)]
        obtain ⟨ctx', hrunning', hcases'⟩ := ih hrest hlast hrunning hloop
        refine ⟨ctx', hrunning', ?_⟩
        rcases hcases' with ⟨hstate', -⟩ | ⟨-, -, hready, hreceived, hused, hpath⟩
        · rw [hsame] at hstate'
          exact absurd hstate hstate'
        · refine .inr ⟨hstate, happended.data, hready, ?_, ?_, hpath.trans happended.path⟩
          · rw [hreceived, happended.received, List.flatten_cons, List.append_assoc]
          · rw [hused, happended.used, List.flatten_cons, List.length_append, Nat.add_assoc]

theorem reaches_withHandle {vid pid : Nat} {body : HidHandle → Host Unit} :
    c.link.Reaches l (withHandle vid pid body) l' () ↔
      ∃ handle : HidHandle, handle.vid = vid ∧ handle.pid = pid ∧ c.link.Reaches l (body handle) l' () := by
  have hopen {l₁ : Link σ} {handle : HidHandle} : c.link.Reaches l (openHandle vid pid) l₁ handle ↔
      handle.vid = vid ∧ handle.pid = pid ∧ l₁ = l := by
    have hfound {l₁ : Link σ} {found : List HidDevice} : c.link.Reaches l (call (.hidEnumerate vid pid)) l₁ found ↔
        True ∧ l₁ = l := reaches_call
    simp only [openHandle, reaches_bind, hfound, true_and]
    constructor
    · rintro ⟨_, found, rfl, hrest⟩
      cases found with
      | nil => exact absurd hrest reaches_raise
      | cons info others =>
        cases others with
        | cons _ _ => exact absurd hrest reaches_raise
        | nil =>
          obtain ⟨l₂, u, hpath, hret⟩ := reaches_bind.mp hrest
          obtain ⟨-, rfl⟩ := reaches_call.mp hpath
          obtain ⟨rfl, rfl⟩ := reaches_ret.mp hret
          exact ⟨rfl, rfl, rfl⟩
    · rintro ⟨rfl, rfl, rfl⟩
      refine ⟨l₁, [handle.info], rfl, reaches_bind.mpr ⟨l₁, (), ?_, reaches_ret.mpr ⟨rfl, rfl⟩⟩⟩
      exact reaches_call.mpr ⟨trivial, rfl⟩
  have hclose {l₁ l₂ : Link σ} {handle : HidHandle} : c.link.Reaches l₁ (call (.hidClose handle)) l₂ () ↔
      True ∧ l₂ = l₁ := reaches_call
  simp only [withHandle, reaches_bind, hopen, reaches_ensuring, hclose]
  constructor
  · rintro ⟨_, handle, ⟨hvid, hpid, rfl⟩, _, hbody, -, rfl⟩
    exact ⟨handle, hvid, hpid, hbody⟩
  · rintro ⟨handle, hvid, hpid, hbody⟩
    exact ⟨_, handle, ⟨hvid, hpid, rfl⟩, _, hbody, trivial, rfl⟩

/-- Where the first two requests of an upload leave the daemon. -/
theorem running_prepared {path start target : Bytes} (hpath : path.length ≤ 127 ∧ 0 ∉ path ∧ 32 ∉ path)
    (hstart : Built .start start) (htarget : Built (.target UPLOAD_TARGET_3110 path) target)
    (h : Running l ctx changed) {l₁ l₂ : Link σ} (hfirst : c.link.Reaches l (exchange handle start) l₁ ())
    (hsecond : c.link.Reaches l₁ (exchange handle target) l₂ ()) :
    ∃ ctx₂, Running l₂ ctx₂ changed ∧
      (ctx.uploadState.aimed = true ∧ ctx₂ = ctx ∨
        ctx.uploadState.aimed = false ∧ ctx₂.uploadState = .receiving ∧ cString ctx₂.uploadPath = path ∧
          ctx₂.uploadUsed = 0) := by
  obtain ⟨t₁, ctx₁, hsucceeds₁, hnext₁⟩ := running_exchange hstart h hfirst
  obtain ⟨hquiet₁, hcases₁⟩ := succeeds_start h.sound hsucceeds₁
  have hrunning₁ := running_quiet hquiet₁ hnext₁
  obtain ⟨t₂, ctx₂, hsucceeds₂, hnext₂⟩ := running_exchange htarget hrunning₁ hsecond
  obtain ⟨hquiet₂, hcases₂⟩ := succeeds_target hsucceeds₂
  refine ⟨ctx₂, running_quiet hquiet₂ hnext₂, ?_⟩
  have haimedAt : cString (path ++ List.replicate (128 - path.length) 0) = path :=
    (literalPath_of_safe hpath.1 hpath.2.1 hpath.2.2).2
  rcases hcases₁ with ⟨hbusy, rfl⟩ | ⟨hidle, data, hdata, rfl⟩
  · rcases hcases₂ with ⟨hstate, rfl⟩ | ⟨hstate, rfl⟩
    · refine .inl ⟨?_, rfl⟩
      cases hcase : ctx₂.uploadState <;> simp_all [UploadState.aimed]
    · exact .inr ⟨by rw [hstate]; rfl, rfl, haimedAt, h.sound.fresh hstate⟩
  · rcases hcases₂ with ⟨hstate, -⟩ | ⟨-, rfl⟩
    · exact absurd rfl hstate
    · exact .inr ⟨by rw [hidle]; rfl, rfl, haimedAt, rfl⟩

end Camera

/-- Where a commit goes at the end of an upload that began in the context. -/
def destinationFor (ctx : DaemonContext) (path : Bytes) : Bytes :=
  if ctx.uploadState.aimed then cString ctx.uploadPath else path

/-- What a commit writes at the end of an upload that began in the context. -/
def contentFor (ctx : DaemonContext) (content : Bytes) : Bytes :=
  match ctx.uploadState with
  | .receiving => ctx.received ++ content
  | .error => ctx.received ++ content
  | .ready => ctx.received
  | _ => content

/-- There is room for an upload that began in the context, and a buffer. -/
def Accommodates (ctx : DaemonContext) (content : Bytes) : Prop :=
  match ctx.uploadState with
  | .receiving => ctx.uploadUsed + content.length ≤ UPLOAD_CAPACITY
  | .error => ctx.uploadData ≠ none ∧ ctx.uploadUsed + content.length ≤ UPLOAD_CAPACITY
  | .ready => ctx.uploadData = none → ctx.uploadUsed = 0
  | _ => True

namespace Camera

variable {σ : Type} {c : Camera σ} {l l' : Link σ} {ctx : DaemonContext} {changed : DaemonTrace}

/-- An upload that returned made one commit, of what and to where the context it began in decides. -/
theorem running_upload {path : Text} {encoded content : Bytes} (hpath : encodeAscii path = some encoded)
    (h : Running l ctx changed) (hreach : c.link.Reaches l (uploadNormalFile path content) l' ()) :
    Accommodates ctx content ∧ ∃ ctx', ctx'.uploadState = .idle ∧
      Running l' ctx' (changed ++ commitEvents (destinationFor ctx encoded) (contentFor ctx content)) := by
  simp only [uploadNormalFile, reaches_bind, Host.lift, reaches_ofExcept, raiseIf_eq_ok, reaches_withHandle] at hreach
  obtain ⟨_, _, ⟨hnonempty, rfl⟩, _, _, ⟨-, rfl⟩, _, start, ⟨hstart, rfl⟩, _, target, ⟨htarget, rfl⟩, handle, -, -,
    l₁, _, hfirst, l₂, _, hsecond, l₃, _, hpackets, _, commit, ⟨hcommit, rfl⟩, hlast⟩ := hreach
  have hbuilt : Built (.target UPLOAD_TARGET_3110 encoded) target := .target hpath (by decide) htarget
  obtain ⟨-, -, hsafe⟩ := checked_of_built hbuilt
  obtain ⟨ctx₂, hrunning₂, hprepared⟩ := running_prepared hsafe (.start hstart) hbuilt h hfirst hsecond
  have hsize : 0 < NORMAL_UPLOAD_CHUNK_SIZE := by decide
  have hflatten : (chunks NORMAL_UPLOAD_CHUNK_SIZE content).flatten = content := flatten_chunks hsize content
  have hany : chunks NORMAL_UPLOAD_CHUNK_SIZE content ≠ [] := by
    intro hnone
    rw [hnone] at hflatten
    exact hnonempty hflatten.symm
  obtain ⟨ctx₃, hrunning₃, hreceived⟩ :=
    running_sendChunks (fun packet => ne_nil_of_mem_chunks hsize) hany hrunning₂ hpackets
  rw [hflatten] at hreceived
  obtain ⟨t, ctx', hsucceeds, hnext⟩ := running_exchange (.commit hcommit) hrunning₃ hlast
  have hused := hrunning₃.sound.used
  have hcommitted (hready : ctx₃.uploadState = .ready) : (ctx₃.uploadData = none → ctx₃.uploadUsed = 0) ∧
      ctx'.uploadState = .idle ∧
        Running l' ctx' (changed ++ commitEvents (cString ctx₃.uploadPath) ctx₃.received) := by
    rcases succeeds_commit hrunning₃.sound hsucceeds with ⟨hstate, -⟩ | ⟨-, hbacked, rfl, hevents⟩
    · exact absurd (.inl hready) hstate
    · refine ⟨hbacked, rfl, ?_⟩
      rw [← hevents]
      apply hnext
      rw [hevents, commitEvents]
      split <;> rfl
  -- an upload that was still open keeps its destination and what it holds; otherwise this one begins anew
  rcases hprepared with ⟨haimed, rfl⟩ | ⟨haimed, hstate₂, hpath₂, hused₂⟩
  · rcases hreceived with ⟨hstate, rfl⟩ | ⟨hstate, hdata, hready, hreceived, hlength, hsame⟩
    · have hready : ctx₃.uploadState = .ready := by
        cases hcase : ctx₃.uploadState <;> simp_all [UploadState.aimed]
      obtain ⟨hbacked, hidle, hrunning'⟩ := hcommitted hready
      have hdestination : destinationFor ctx₃ encoded = cString ctx₃.uploadPath := if_pos haimed
      have hcontent : contentFor ctx₃ content = ctx₃.received := by rw [contentFor, hready]
      have hroom : Accommodates ctx₃ content := by rw [Accommodates, hready]; exact hbacked
      rw [hdestination, hcontent]
      exact ⟨hroom, ctx', hidle, hrunning'⟩
    · obtain ⟨-, hidle, hrunning'⟩ := hcommitted hready
      have hdestination : destinationFor ctx₂ encoded = cString ctx₂.uploadPath := if_pos haimed
      have hcontent : contentFor ctx₂ content = ctx₂.received ++ content := by
        rcases hstate with hstate | hstate <;> rw [contentFor, hstate]
      have hroom : Accommodates ctx₂ content := by
        rw [hlength] at hused
        rcases hstate with hstate | hstate
        · rw [Accommodates, hstate]
          exact hused
        · rw [Accommodates, hstate]
          exact ⟨hdata, hused⟩
      rw [hreceived, hsame] at hrunning'
      rw [hdestination, hcontent]
      exact ⟨hroom, ctx', hidle, hrunning'⟩
  · rcases hreceived with ⟨hstate, -⟩ | ⟨-, -, hready, hreceived, -, hsame⟩
    · exact absurd (.inl hstate₂) hstate
    · obtain ⟨-, hidle, hrunning'⟩ := hcommitted hready
      have hdestination : destinationFor ctx encoded = encoded := if_neg (by rw [haimed]; decide)
      have hcontent : contentFor ctx content = content := by
        cases hcase : ctx.uploadState <;> simp_all [UploadState.aimed, contentFor]
      have hroom : Accommodates ctx content := by
        cases hcase : ctx.uploadState <;> simp_all [UploadState.aimed, Accommodates]
      have hempty : ctx₂.received = [] := by rw [DaemonContext.received, hused₂]; rfl
      rw [hreceived, hempty, List.nil_append, hsame, hpath₂] at hrunning'
      rw [hdestination, hcontent]
      exact ⟨hroom, ctx', hidle, hrunning'⟩

end Camera

end Cc2Camera.HidUpdate
