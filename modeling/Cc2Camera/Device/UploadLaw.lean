import Cc2Camera.Device.FreedBuffer
import Cc2Camera.Device.Landing

/-!
# UploadLaw — when an upload that returned has written its file

Every way an upload can go wrong without an exception is one of the daemon still holding an earlier upload.  Against a
camera on which everything works, each of them does go wrong.
-/

open Bytes Exceptions Program World

namespace Cc2Camera.HidUpdate

open Protocol Commands Host HidTransport

/-- A camera on which everything works. -/
def obliging (opens : Bytes → Bool) : Camera Unit where
  answer _
    | .malloc size => ((), some ⟨List.replicate size 0, List.length_replicate⟩)
    | .system _ => ((), ())
    | .readFile _ => ((), none)
    | .rewriteFile _ _ => ((), ())
    | .createFile path => ((), opens path)
    | .fwrite _ content => ((), content.length)
    | .setFlash _ _ => ((), (0 : Int))
    | .getFlash _ _ => ((), none)
    | .writeReport _ => ((), (0 : Int))
  takes _ _ := true

/-- Every file can be opened. -/
abbrev ideal : Camera Unit := obliging fun _ => true

section Possible

variable {opens : Bytes → Bool} {ctx ctx' : DaemonContext} {l l' : Link Unit} {changed : DaemonTrace}

/-- The request is answered with success by the obliging camera's daemon. -/
structure Works (opens : Bytes → Bool) (request : UploadRequest) (ctx ctx' : DaemonContext) : Prop where
  outcome : ((request.handle ctx).play (obliging opens).answer ()).outcome = .returned ctx'
  reply : replies ((request.handle ctx).play (obliging opens).answer ()).events = [responseReport request.command ST_OK 1 []]
  stays : ((request.handle ctx).play (obliging opens).answer ()).events.any isReboot = false

theorem exists_exchange (handle : HidHandle) {request : UploadRequest} {r : Bytes} (hbuilt : Built request r)
    (h : Camera.Running l ctx changed) (hworks : Works opens request ctx ctx') :
    ∃ l' changed', (obliging opens).link.Reaches l (exchange handle r) l' () ∧ Camera.Running l' ctx' changed' := by
  obtain ⟨hlength, haccepted⟩ := accepted_of_built_request hbuilt
  have hcommand : u16 r 3 = request.command := by
    rw [haccepted.command]
    cases request <;> rfl
  have hdeliver : (obliging opens).deliver l r =
      { daemon := some ctx'
        camera := ()
        performed := l.performed ++ ((request.handle ctx).play (obliging opens).answer ()).events
        waiting := [responseReport (u16 r 3) ST_OK 1 []] } := by
    rw [Camera.deliver]
    simp only [h.daemon, h.waiting, dispatch_built hbuilt h.sound, List.nil_append, hworks.reply, hcommand, survivor,
      hworks.outcome, hworks.stays]
    rfl
  have hgranted : (obliging opens).Granted l r { (obliging opens).deliver l r with waiting := [] } :=
    ⟨[], by simp, by rw [hdeliver], rfl⟩
  have hreach := (Camera.reaches_exchange handle h.waiting hlength haccepted).mpr hgranted
  obtain ⟨t, ctx'', -, hsound, -, hwaiting, hdaemon⟩ := Camera.granted_built hbuilt h.sound h.daemon h.waiting hgranted
  refine ⟨_, _, hreach, ?_, ?_, hwaiting, rfl⟩
  · rw [hdeliver]
  · rw [hdeliver] at hdaemon
    split at hdaemon
    · cases hdaemon
    · rw [Option.some.inj hdaemon]
      exact hsound

theorem works_answer {request : UploadRequest} (h : request.handle ctx = answer request.command ST_OK ctx') :
    Works opens request ctx ctx' := by
  refine ⟨?_, ?_, ?_⟩
  · rw [h]
    rfl
  · rw [h, responseReport_nil request.command ST_OK 1]
    rfl
  · rw [h]
    rfl

theorem works_start (opens : Bytes → Bool) (ctx : DaemonContext) : ∃ ctx', Works opens .start ctx ctx' := by
  by_cases hidle : ctx.uploadState = .idle
  · cases hdata : ctx.uploadData with
    | some data =>
      refine ⟨ctx.begun data, works_answer ?_⟩
      rw [UploadRequest.handle, if_neg (not_not.mpr hidle), uploadInit, hdata]
      rfl
    | none =>
      refine ⟨ctx.begun (List.replicate UPLOAD_CAPACITY 0), ?_⟩
      have hplay : (uploadInit ctx).play (obliging opens).answer () =
          ⟨(), [⟨.malloc UPLOAD_CAPACITY, some ⟨List.replicate UPLOAD_CAPACITY 0, List.length_replicate⟩⟩],
            .returned (some { ctx.begun (List.replicate UPLOAD_CAPACITY 0) with uploadState := ctx.uploadState })⟩ := by
        rw [uploadInit, hdata]
        rfl
      refine ⟨?_, ?_, ?_⟩
      · rw [UploadRequest.handle, if_neg (not_not.mpr hidle), play_bind_of_returned hplay]
        rfl
      · rw [UploadRequest.handle, if_neg (not_not.mpr hidle), play_bind_of_returned hplay,
          responseReport_nil UploadRequest.start.command ST_OK 1]
        rfl
      · rw [UploadRequest.handle, if_neg (not_not.mpr hidle), play_bind_of_returned hplay]
        rfl
  · refine ⟨ctx, works_answer ?_⟩
    rw [UploadRequest.handle, if_pos hidle]
    rfl

theorem works_target (opens : Bytes → Bool) (ctx : DaemonContext) (path : Bytes) : ∃ ctx', Works opens (.target UPLOAD_TARGET_3110 path) ctx ctx' := by
  by_cases hneed : ctx.uploadState = .needTarget
  · refine ⟨ctx.aimedAt path, works_answer ?_⟩
    rw [UploadRequest.handle, if_neg (not_not.mpr hneed)]
    rfl
  · refine ⟨ctx, works_answer ?_⟩
    rw [UploadRequest.handle, if_pos hneed]
    rfl

theorem works_ignored {sequence : Nat} {payload : Bytes} {final : Bool} (hready : ctx.uploadState = .ready) :
    Works opens (.data sequence payload final) ctx ctx := by
  apply works_answer
  rw [UploadRequest.handle, if_pos (by rw [hready]; decide)]
  rfl

/-- A packet that fits and is in order is taken. -/
theorem exists_works_data (hctx : Sound ctx) {sequence : Nat} {payload : Bytes} (final : Bool)
    (hstate : ctx.uploadState = .receiving ∨ ctx.uploadState = .error) (hdata : ctx.uploadData ≠ none)
    (hroom : Appends ctx sequence payload) :
    ∃ ctx', Works opens (.data sequence payload final) ctx ctx' ∧ ctx'.uploadData ≠ none ∧
      ctx'.uploadUsed = ctx.uploadUsed + payload.length ∧ ctx'.lastSequence = sequence ∧
        ctx'.uploadState = (if final then .ready else ctx.uploadState) ∧ ctx'.uploadCapacity = ctx.uploadCapacity := by
  obtain ⟨data, hsome⟩ := Option.ne_none_iff_exists'.mp hdata
  have hcapacity : ctx.uploadCapacity = UPLOAD_CAPACITY :=
    hctx.capacity (by rcases hstate with h | h <;> rw [h] <;> decide)
  have hlength := hctx.buffer data hsome
  have hfits := hroom.2
  refine
    ⟨{ ctx with
        uploadData := some (splice data ctx.uploadUsed (ctx.uploadUsed + payload.length) payload)
        sawFinal := if final then 1 else ctx.sawFinal
        uploadState := if final then .ready else ctx.uploadState
        uploadUsed := ctx.uploadUsed + payload.length
        lastSequence := sequence }, works_answer ?_, Option.some_ne_none _, rfl, rfl, rfl, rfl⟩
  rw [UploadRequest.handle, if_neg (not_not.mpr hstate), appendPayload, if_neg hroom.1, if_neg (by omega), hsome]
  simp only [copyIn]
  rw [raiseIf_of_not (by omega)]
  rfl

theorem play_uploadCommit (hctx : Sound ctx) (hready : ctx.uploadState = .ready)
    (hbacked : ctx.uploadData = none → ctx.uploadUsed = 0) :
    (uploadCommit ctx).play ideal.answer () =
      ⟨(), commitEvents (cString ctx.uploadPath) ctx.received, .returned true⟩ := by
  apply play_of_runs (runs_commitEvents hctx hready hbacked) (by simp)
  intro e he
  rw [commitEvents] at he
  split at he
  · simp only [List.mem_append, List.mem_cons, List.not_mem_nil, or_false] at he
    rcases he with (rfl | rfl | rfl | rfl | rfl) | rfl | rfl <;> rfl
  · simp only [List.append_nil, List.mem_cons, List.not_mem_nil, or_false] at he
    rcases he with rfl | rfl | rfl | rfl | rfl <;> rfl

theorem works_commit (hctx : Sound ctx) (hready : ctx.uploadState = .ready)
    (hbacked : ctx.uploadData = none → ctx.uploadUsed = 0) :
    Works (fun _ => true) .commit ctx { ctx with uploadData := none, uploadState := .idle } := by
  have hplay := play_uploadCommit hctx hready hbacked
  have hsilent : replies (commitEvents (cString ctx.uploadPath) ctx.received) = [] := by
    rw [commitEvents]
    split <;> rfl
  have hstays : (commitEvents (cString ctx.uploadPath) ctx.received).any isReboot = false := by
    rw [commitEvents]
    split <;> rfl
  generalize commitEvents (cString ctx.uploadPath) ctx.received = t at hplay hsilent hstays
  have hhandle : (UploadRequest.commit.handle ctx).play ideal.answer () =
      { (answer 0x3300 ST_OK { ctx with uploadData := none, uploadState := .idle }).play ideal.answer () with
        events := t ++ ((answer 0x3300 ST_OK { ctx with uploadData := none, uploadState := .idle }).play ideal.answer
          ()).events } := by
    rw [UploadRequest.handle, if_neg (not_not.mpr (.inl hready)), play_bind_of_returned hplay]
    rfl
  refine ⟨?_, ?_, ?_⟩
  · rw [hhandle]
    rfl
  · rw [hhandle, replies_append, hsilent, responseReport_nil UploadRequest.commit.command ST_OK 1]
    rfl
  · rw [hhandle, List.any_append, hstays]
    rfl

/-- Before a commit every packet is answered with success, and none is looked at. -/
theorem exists_ignored (handle : HidHandle) {packets : List Bytes} (hshort : ∀ packet ∈ packets, packet.length ≤ 1010) {k : Nat}
    (hk : k + packets.length ≤ 2 ^ 32) (h : Camera.Running l ctx changed) (hready : ctx.uploadState = .ready) :
    ∃ l' changed', ideal.link.Reaches l (sendChunks handle k packets) l' () ∧ Camera.Running l' ctx changed' := by
  induction packets generalizing l changed k with
  | nil => exact ⟨l, changed, reaches_ret.mpr ⟨rfl, rfl⟩, h⟩
  | cons packet rest ih =>
    rw [List.length_cons] at hk
    obtain ⟨hpacket, hrest⟩ := List.forall_mem_cons.mp hshort
    obtain ⟨r, hr⟩ := exists_built_data rest.isEmpty (show k < 2 ^ 32 by omega) hpacket
    obtain ⟨l₁, changed₁, hexchange, hrunning⟩ := exists_exchange handle (.data hr) h (works_ignored hready)
    obtain ⟨l', changed', hloop, hrunning'⟩ := ih hrest (show k + 1 + rest.length ≤ 2 ^ 32 by omega) hrunning
    refine ⟨l', changed', ?_, hrunning'⟩
    simp only [sendChunks, reaches_bind, Host.lift, reaches_ofExcept]
    exact ⟨_, r, ⟨hr, rfl⟩, l₁, (), hexchange, hloop⟩

theorem exists_received (handle : HidHandle) {packets : List Bytes} (hshort : ∀ packet ∈ packets, packet.length ≤ 1010) (hany : packets ≠ [])
    {k : Nat} (hk : k + packets.length ≤ 2 ^ 32) (h : Camera.Running l ctx changed)
    (hstate : ctx.uploadState = .receiving ∨ ctx.uploadState = .error) (hdata : ctx.uploadData ≠ none)
    (hsequence : 2 ≤ k → k = ctx.lastSequence + 1)
    (hroom : ctx.uploadUsed + packets.flatten.length ≤ UPLOAD_CAPACITY) :
    ∃ l' ctx' changed', ideal.link.Reaches l (sendChunks handle k packets) l' () ∧ Camera.Running l' ctx' changed' ∧
      ctx'.uploadState = .ready ∧ ctx'.uploadData ≠ none := by
  induction packets generalizing l ctx changed k with
  | nil => exact absurd rfl hany
  | cons packet rest ih =>
    rw [List.flatten_cons, List.length_append] at hroom
    rw [List.length_cons] at hk
    obtain ⟨hpacket, hrest⟩ := List.forall_mem_cons.mp hshort
    obtain ⟨r, hr⟩ := exists_built_data rest.isEmpty (show k < 2 ^ 32 by omega) hpacket
    have hcapacity : ctx.uploadCapacity = UPLOAD_CAPACITY :=
      h.sound.capacity (by rcases hstate with h | h <;> rw [h] <;> decide)
    have happends : Appends ctx k packet := by
      refine ⟨fun hout => ?_, by omega⟩
      have hnext := hsequence hout.1
      rw [← hnext, Nat.mod_eq_of_lt (by omega)] at hout
      exact hout.2 rfl
    obtain ⟨ctx₁, hworks, hdata₁, hused₁, hlast₁, hstate₁, -⟩ :=
      exists_works_data h.sound rest.isEmpty hstate hdata happends
    obtain ⟨l₁, changed₁, hexchange, hrunning⟩ := exists_exchange handle (.data hr) h hworks
    have hfinish {l' : Link Unit} (hloop : ideal.link.Reaches l₁ (sendChunks handle (k + 1) rest) l' ()) :
        ideal.link.Reaches l (sendChunks handle k (packet :: rest)) l' () := by
      simp only [sendChunks, reaches_bind, Host.lift, reaches_ofExcept]
      exact ⟨_, r, ⟨hr, rfl⟩, l₁, (), hexchange, hloop⟩
    by_cases hlast : rest = []
    · subst hlast
      exact ⟨l₁, ctx₁, changed₁, hfinish (reaches_ret.mpr ⟨rfl, rfl⟩), hrunning, hstate₁, hdata₁⟩
    · rw [if_neg (by simp [hlast])] at hstate₁
      obtain ⟨l', ctx', changed', hloop, hrest'⟩ :=
        ih hrest hlast (show k + 1 + rest.length ≤ 2 ^ 32 by omega) hrunning (by rw [hstate₁]; exact hstate) hdata₁
          (fun _ => by rw [hlast₁]) (by rw [hused₁]; omega)
      exact ⟨l', ctx', changed', hfinish hloop, hrest'⟩

/-- A path that the host accepts as an upload target. -/
def ValidPath (path : Text) (encoded : Bytes) : Prop :=
  encodeAscii path = some encoded ∧ encoded ≠ [] ∧ encoded.length ≤ 127 ∧ encoded.all isSafePathByte = true

theorem exists_built_target {path : Text} {encoded : Bytes} (h : ValidPath path encoded) :
    ∃ r, buildUploadTargetRequest UPLOAD_TARGET_3110 (some path) = .ok r := by
  obtain ⟨hpath, hnonempty, hlength, hsafe⟩ := h
  obtain ⟨r, hr, -⟩ := exists_normalReport UPLOAD_TARGET_3110 0 1 encoded (by decide) (by decide) (.inl rfl)
    (by omega)
  refine ⟨r, ?_⟩
  rw [buildUploadTargetRequest, raiseIf_of_not (by decide), ok_bind, if_neg (by decide), raiseIf_of_not (by decide),
    ok_bind, orRaise_some, ok_bind, hpath, orRaise_some, ok_bind, raiseIf_of_not, ok_bind, hr]
  simp [hnonempty, hsafe, hlength]

/-- In any context, an upload that there is room for can return. -/
theorem exists_upload {path : Text} {encoded content : Bytes} (hpath : ValidPath path encoded) (hnonempty : content ≠ [])
    (hsmall : content.length ≤ NORMAL_UPLOAD_CAPACITY) (h : Camera.Running l ctx changed)
    (hroom : Accommodates ctx content) :
    ∃ l', ideal.link.Reaches l (uploadNormalFile path content) l' () := by
  obtain ⟨start, hstart⟩ := exists_built_bare (show 0x3000 < 2 ^ 16 by decide)
  obtain ⟨target, htarget⟩ := exists_built_target hpath
  obtain ⟨commit, hcommit⟩ := exists_built_bare (show 0x3300 < 2 ^ 16 by decide)
  have hbuilt : Built (.target UPLOAD_TARGET_3110 encoded) target := .target hpath.1 (by decide) htarget
  let info : HidDevice := ⟨NORMAL_VID, NORMAL_PID, none, ""⟩
  let handle : HidHandle := ⟨NORMAL_VID, NORMAL_PID, info⟩
  obtain ⟨ctx₁, hworks₁⟩ := works_start (fun _ => true) ctx
  obtain ⟨l₁, changed₁, hfirst, hrunning₁⟩ := exists_exchange handle (.start hstart) h hworks₁
  obtain ⟨_, hworks₂⟩ := works_target (fun _ => true) ctx₁ encoded
  obtain ⟨l₂, _, hsecond, -⟩ := exists_exchange handle hbuilt hrunning₁ hworks₂
  obtain ⟨-, -, hchecked⟩ := checked_of_built hbuilt
  obtain ⟨ctx₂, hrunning₂, hprepared⟩ := Camera.running_prepared hchecked (.start hstart) hbuilt h hfirst hsecond
  have hsize : NORMAL_UPLOAD_CHUNK_SIZE = 1010 := rfl
  have hcap : NORMAL_UPLOAD_CAPACITY = 0x01000200 := rfl
  have hflatten : (chunks NORMAL_UPLOAD_CHUNK_SIZE content).flatten = content := flatten_chunks (by decide) content
  have hshort : ∀ packet ∈ chunks NORMAL_UPLOAD_CHUNK_SIZE content, packet.length ≤ 1010 :=
    fun packet hpacket => length_le_of_mem_chunks hpacket
  have hany : chunks NORMAL_UPLOAD_CHUNK_SIZE content ≠ [] := by
    intro hnone
    rw [hnone] at hflatten
    exact hnonempty hflatten.symm
  have hcount : 0 + (chunks NORMAL_UPLOAD_CHUNK_SIZE content).length ≤ 2 ^ 32 := by
    rw [length_chunks, hsize]
    omega
  have hpackets : ∃ l₃ ctx₃ changed₃, ideal.link.Reaches l₂ (sendChunks handle 0 (chunks NORMAL_UPLOAD_CHUNK_SIZE content))
      l₃ () ∧ Camera.Running l₃ ctx₃ changed₃ ∧ ctx₃.uploadState = .ready ∧
        (ctx₃.uploadData = none → ctx₃.uploadUsed = 0) := by
    -- in the states that take packets the content has to fit behind what is already there
    have hfilled (hstate : ctx₂.uploadState = .receiving ∨ ctx₂.uploadState = .error) (hdata : ctx₂.uploadData ≠ none)
        (hfits : ctx₂.uploadUsed + content.length ≤ UPLOAD_CAPACITY) : ∃ l₃ ctx₃ changed₃,
        ideal.link.Reaches l₂ (sendChunks handle 0 (chunks NORMAL_UPLOAD_CHUNK_SIZE content)) l₃ () ∧
          Camera.Running l₃ ctx₃ changed₃ ∧ ctx₃.uploadState = .ready ∧
            (ctx₃.uploadData = none → ctx₃.uploadUsed = 0) := by
      obtain ⟨l₃, ctx₃, changed₃, hloop, hrunning₃, hready, hdata₃⟩ := exists_received handle hshort hany hcount
        hrunning₂ hstate hdata (by omega) (by rw [hflatten]; exact hfits)
      exact ⟨l₃, ctx₃, changed₃, hloop, hrunning₃, hready, fun hnone => absurd hnone hdata₃⟩
    rcases hprepared with ⟨haimed, rfl⟩ | ⟨-, hstate₂, -, hused₂⟩
    · cases hstate : ctx₂.uploadState with
      | idle => simp [hstate, UploadState.aimed] at haimed
      | needTarget => simp [hstate, UploadState.aimed] at haimed
      | ready =>
        rw [Accommodates, hstate] at hroom
        obtain ⟨l₃, changed₃, hloop, hrunning₃⟩ := exists_ignored handle hshort hcount hrunning₂ hstate
        exact ⟨l₃, ctx₂, changed₃, hloop, hrunning₃, hstate, hroom⟩
      | receiving =>
        rw [Accommodates, hstate] at hroom
        exact hfilled (.inl hstate) (h.sound.buffered (.inr hstate)) hroom
      | error =>
        rw [Accommodates, hstate] at hroom
        exact hfilled (.inr hstate) hroom.1 hroom.2
    · refine hfilled (.inl hstate₂) (hrunning₂.sound.buffered (.inr hstate₂)) ?_
      rw [hused₂, Nat.zero_add]
      exact hsmall
  obtain ⟨l₃, ctx₃, changed₃, hloop, hrunning₃, hready, hbacked⟩ := hpackets
  obtain ⟨l₄, changed₄, hlast, -⟩ := exists_exchange handle (.commit hcommit) hrunning₃
    (works_commit hrunning₃.sound hready hbacked)
  refine ⟨l₄, ?_⟩
  simp only [uploadNormalFile, reaches_bind, Host.lift, reaches_ofExcept, raiseIf_eq_ok, Camera.reaches_withHandle]
  exact ⟨_, (), ⟨hnonempty, rfl⟩, _, (), ⟨by omega, rfl⟩, _, start, ⟨hstart, rfl⟩, _, target, ⟨htarget, rfl⟩, handle, rfl,
    rfl, l₁, (), hfirst, l₂, (), hsecond, l₃, (), hloop, _, commit, ⟨hcommit, rfl⟩, hlast⟩

end Possible

/-! ## The law -/

/-- The whole change an upload made is one commit, to its path and of its content. -/
def Landed {σ : Type} (path content : Bytes) (l : Link σ) : Prop := mutations l.performed = commitEvents path content

/-- The daemon holds nothing that would mislead the upload, or what it holds keeps the upload from returning. -/
def Lands (ctx : DaemonContext) (path content : Bytes) : Prop :=
  ¬Accommodates ctx content ∨ destinationFor ctx path = path ∧ contentFor ctx content = content

theorem commitEvents_inj {path path' content content' : Bytes} (h : commitEvents path content = commitEvents path' content') :
    path = path' ∧ content = content' := by
  have hfourth : (commitEvents path content)[3]? = (commitEvents path' content')[3]? := by rw [h]
  have hevent := congrArg Event.op (Option.some.inj hfourth)
  exact DaemonOp.fwrite.inj hevent

/-- A handle opened on the daemon. -/
theorem running_opened {σ : Type} {ctx : DaemonContext} (hctx : Sound ctx) (camera : σ) :
    Camera.Running (Link.opened ctx camera) ctx [] := ⟨rfl, hctx, rfl, rfl⟩

/-- Whatever a returned upload changed is one commit, of what and to where its context decides; with room for it, one can
return. -/
theorem forall_upload_iff {ctx : DaemonContext} {path : Text} {encoded content : Bytes} (hctx : Sound ctx)
    (hpath : ValidPath path encoded) (hnonempty : content ≠ []) (hsmall : content.length ≤ NORMAL_UPLOAD_CAPACITY)
    (P : DaemonTrace → Prop) :
    (∀ (σ : Type) (c : Camera σ) (camera : σ) (l' : Link σ),
        c.link.Reaches (.opened ctx camera) (uploadNormalFile path content) l' () → P (mutations l'.performed)) ↔
      (Accommodates ctx content → P (commitEvents (destinationFor ctx encoded) (contentFor ctx content))) := by
  constructor
  · intro hall hroom
    obtain ⟨l', hreach⟩ := exists_upload hpath hnonempty hsmall (running_opened hctx ()) hroom
    obtain ⟨-, ctx', -, hrunning⟩ := Camera.running_upload hpath.1 (running_opened hctx ()) hreach
    have hchanged := hall Unit ideal () l' hreach
    rwa [hrunning.changed, List.nil_append] at hchanged
  · intro hcommit σ c camera l' hreach
    obtain ⟨hroom, ctx', -, hrunning⟩ := Camera.running_upload hpath.1 (running_opened hctx camera) hreach
    rw [hrunning.changed, List.nil_append]
    exact hcommit hroom

/-- From any context that earlier requests can have left: every upload that returns has written its file, whatever the
camera answers, exactly where the context is one in which the upload lands. -/
theorem uploadNormalFile_landed_iff (ctx : DaemonContext) (path : Text) (encoded content : Bytes) (hctx : Reachable ctx)
    (hpath : ValidPath path encoded) (hnonempty : content ≠ []) (hsmall : content.length ≤ NORMAL_UPLOAD_CAPACITY) :
    (∀ (σ : Type) (c : Camera σ) (camera : σ) (l' : Link σ),
        c.link.Reaches (.opened ctx camera) (uploadNormalFile path content) l' () → Landed encoded content l') ↔
      Lands ctx encoded content := by
  refine (forall_upload_iff (sound_of_reachable hctx) hpath hnonempty hsmall (· = commitEvents encoded content)).trans ?_
  constructor
  · intro hcommit
    by_cases hroom : Accommodates ctx content
    · exact .inr (commitEvents_inj (hcommit hroom))
    · exact .inl hroom
  · intro hlands hroom
    obtain ⟨hdestination, hcontent⟩ := hlands.resolve_left (not_not.mpr hroom)
    rw [hdestination, hcontent]

def samplePath : Text := [47, 116, 109, 112, 47, 97]

theorem validPath_sample : ValidPath samplePath (ascii "/tmp/a") :=
  ⟨by decide, by decide, by decide, by decide⟩

-- behind an upload that was never committed, one that returns has written the file of that one
theorem uploadNormalFile_landed_leftover : ∃ ctx, Reachable ctx ∧ ctx.uploadState = .ready ∧
    ¬∀ (σ : Type) (c : Camera σ) (camera : σ) (l' : Link σ),
      c.link.Reaches (.opened ctx camera) (uploadNormalFile samplePath [1]) l' () → Landed (ascii "/tmp/a") [1] l' := by
  obtain ⟨past, ctx, hpast, hready, -, hdata, hpath⟩ := exists_readyUpload
  have hctx := reachable_of_handled hpast
  refine ⟨ctx, hctx, hready, fun hall => ?_⟩
  have hlands := (uploadNormalFile_landed_iff ctx samplePath (ascii "/tmp/a") [1] hctx validPath_sample (by decide)
    (by decide)).mp hall
  rcases hlands with hroom | ⟨hdestination, -⟩
  · refine hroom ?_
    rw [Accommodates, hready]
    exact fun hnone => absurd hnone hdata
  · rw [destinationFor, if_pos (by rw [hready]; rfl), hpath] at hdestination
    exact absurd hdestination (by decide)

/-! ## Overwriting one file -/

/-- Among the changes there is a commit to the path, of the content. -/
def Overwrote {σ : Type} (path content : Bytes) (l : Link σ) : Prop := commitEvents path content <:+: mutations l.performed

/-- The daemon still holds an upload that an upload of the content to the path would end up in, and be answered with
success: one to another path, or one with bytes that are not the content's. -/
def Misleads (ctx : DaemonContext) (path content : Bytes) : Prop :=
  match ctx.uploadState with
  | .idle => False
  | .needTarget => False
  | .receiving =>
    ctx.uploadUsed + content.length ≤ UPLOAD_CAPACITY ∧ (cString ctx.uploadPath ≠ path ∨ ctx.uploadUsed ≠ 0)
  | .error =>
    (ctx.uploadData ≠ none ∧ ctx.uploadUsed + content.length ≤ UPLOAD_CAPACITY) ∧
      (cString ctx.uploadPath ≠ path ∨ ctx.uploadUsed ≠ 0)
  | .ready => (ctx.uploadData = none → ctx.uploadUsed = 0) ∧ (cString ctx.uploadPath ≠ path ∨ ctx.received ≠ content)

theorem commitEvents_infix_iff {path path' content content' : Bytes} :
    commitEvents path content <:+: commitEvents path' content' ↔ path' = path ∧ content' = content := by
  constructor
  · intro h
    have hwritten : DaemonOp.fwrite path content ∈ (commitEvents path content).map Event.op := by simp [commitEvents]
    have hmem := (h.map Event.op).subset hwritten
    rw [commitEvents] at hmem
    split at hmem <;> simpa [eq_comm] using hmem
  · rintro ⟨rfl, rfl⟩
    exact List.infix_refl _

theorem misleads_iff {ctx : DaemonContext} {path content : Bytes} (hctx : Sound ctx) :
    Misleads ctx path content ↔
      Accommodates ctx content ∧ ¬(destinationFor ctx path = path ∧ contentFor ctx content = content) := by
  have hreceived (hdata : ctx.uploadData ≠ none) : ctx.received ++ content = content ↔ ctx.uploadUsed = 0 := by
    rw [List.append_left_eq_self, ← List.length_eq_zero_iff, length_received hctx fun hnone => absurd hnone hdata]
  cases hstate : ctx.uploadState with
  | idle => simp [Misleads, Accommodates, destinationFor, contentFor, UploadState.aimed, hstate]
  | needTarget => simp [Misleads, Accommodates, destinationFor, contentFor, UploadState.aimed, hstate]
  | receiving =>
    have hdata := hctx.buffered (.inr hstate)
    simp only [Misleads, Accommodates, destinationFor, contentFor, UploadState.aimed, hstate, if_true, hreceived hdata,
      not_and_or]
  | error =>
    simp only [Misleads, Accommodates, destinationFor, contentFor, UploadState.aimed, hstate, if_true, not_and_or]
    refine and_congr_right fun hroom => ?_
    rw [hreceived hroom.1]
  | ready =>
    simp only [Misleads, Accommodates, destinationFor, contentFor, UploadState.aimed, hstate, if_true, not_and_or]

/-- From any context that earlier requests can have left, whatever the camera answers: that an upload which returns has
removed its file and created it again with its content holds exactly where the daemon does not mislead it. -/
theorem uploadNormalFile_overwrote_iff (ctx : DaemonContext) (path : Text) (encoded content : Bytes) (hctx : Reachable ctx)
    (hpath : ValidPath path encoded) (hnonempty : content ≠ []) (hsmall : content.length ≤ NORMAL_UPLOAD_CAPACITY) :
    (∀ (σ : Type) (c : Camera σ) (camera : σ) (l' : Link σ),
        c.link.Reaches (.opened ctx camera) (uploadNormalFile path content) l' () → Overwrote encoded content l') ↔
      ¬Misleads ctx encoded content := by
  have hsound := sound_of_reachable hctx
  refine (forall_upload_iff hsound hpath hnonempty hsmall (commitEvents encoded content <:+: ·)).trans ?_
  rw [commitEvents_infix_iff, misleads_iff hsound, not_and, not_not]

/-- More than one packet. -/
def sampleContent : Bytes := List.replicate 1500 7

-- after an upload of which only the first request was sent
theorem uploadNormalFile_overwrote_started : ∃ ctx l', Reachable ctx ∧ ctx.uploadState = .needTarget ∧
    ideal.link.Reaches (.opened ctx ()) (uploadNormalFile samplePath sampleContent) l' () ∧
      Overwrote (ascii "/tmp/a") sampleContent l' := by
  obtain ⟨past, hpast, -⟩ :=
    handled_started (show (List.replicate UPLOAD_CAPACITY (0 : UInt8)).length = UPLOAD_CAPACITY from List.length_replicate)
  have hctx := reachable_of_handled hpast
  have hlength : sampleContent.length = 1500 := List.length_replicate
  have hnonempty : sampleContent ≠ [] := List.ne_nil_of_length_pos (by omega)
  have hsmall : sampleContent.length ≤ NORMAL_UPLOAD_CAPACITY := by
    rw [hlength]
    decide
  obtain ⟨l', hreach⟩ := exists_upload validPath_sample hnonempty hsmall (running_opened (sound_of_reachable hctx) ())
    (show Accommodates (DaemonContext.start.begun _) _ from trivial)
  exact ⟨_, l', hctx, rfl, hreach, (uploadNormalFile_overwrote_iff _ samplePath (ascii "/tmp/a") _ hctx validPath_sample
    hnonempty hsmall).mpr id Unit ideal () l' hreach⟩

def otherPath : Text := [47, 116, 109, 112, 47, 98]

theorem validPath_other : ValidPath otherPath (ascii "/tmp/b") := ⟨by decide, by decide, by decide, by decide⟩

/-- An upload of `/tmp/b` was stopped before its commit: the upload of `/tmp/a` returns, and has committed that one. -/
theorem uploadNormalFile_committedAnother : ∃ past ctx l', Handled past ctx ∧
    (∀ h ∈ past, u16 h.report 3 / 0x1000 = 3) ∧
    ideal.link.Reaches (.opened ctx ()) (uploadNormalFile samplePath [1]) l' () ∧
      mutations l'.performed = commitEvents (ascii "/tmp/b") [10] ∧ ¬Overwrote (ascii "/tmp/a") [1] l' := by
  obtain ⟨target, htarget⟩ := exists_built_target validPath_other
  obtain ⟨past, ctx, hpast, hready, -, hdata, hpath, hreceived, hrequests⟩ :=
    handled_ready (.target validPath_other.1 (by decide) htarget)
  have hopened := running_opened (sound_of_reachable (reachable_of_handled hpast)) ()
  have hroom : Accommodates ctx [1] := by
    rw [Accommodates, hready]
    exact fun hnone => absurd hnone hdata
  obtain ⟨l', hreach⟩ := exists_upload validPath_sample (show [1] ≠ [] by decide) (by decide) hopened hroom
  obtain ⟨-, _, -, hrunning⟩ := Camera.running_upload validPath_sample.1 hopened hreach
  have hcontent : contentFor ctx [1] = [10] := by
    rw [contentFor, hready]
    exact hreceived
  have hchanged := hrunning.changed
  rw [List.nil_append, destinationFor, if_pos (by rw [hready]; rfl), hpath, hcontent] at hchanged
  refine ⟨past, ctx, l', hpast, hrequests, hreach, hchanged, ?_⟩
  rw [Overwrote, hchanged, commitEvents_infix_iff]
  decide

/-- One upload after another, each on a handle of its own. -/
def uploadAll : List (Text × Bytes) → Host Unit
  | [] => pure ()
  | (path, content) :: rest => do
    uploadNormalFile path content
    uploadAll rest

theorem encodable_of_upload {σ : Type} {c : Camera σ} {path : Text} {content : Bytes} {l l' : Link σ}
    (h : c.link.Reaches l (uploadNormalFile path content) l' ()) : ∃ encoded, encodeAscii path = some encoded := by
  simp only [uploadNormalFile, reaches_bind, Host.lift, reaches_ofExcept] at h
  obtain ⟨-, -, -, -, -, -, -, -, -, -, target, ⟨htarget, -⟩, -⟩ := h
  rw [buildUploadTargetRequest, raiseIf_of_not (by decide), ok_bind, if_neg (by decide), raiseIf_of_not (by decide),
    ok_bind, orRaise_some, ok_bind, bind_eq_ok] at htarget
  obtain ⟨encoded, hencoded, -⟩ := htarget
  exact ⟨encoded, orRaise_eq_ok.mp hencoded⟩

/-- What uploads leave behind that all landed, in order. -/
def commitsOf (uploads : List (Text × Bytes)) : DaemonTrace :=
  uploads.flatMap fun upload => commitEvents ((encodeAscii upload.1).getD []) upload.2

theorem running_uploadAll {σ : Type} {c : Camera σ} {uploads : List (Text × Bytes)} {l l' : Link σ} {ctx : DaemonContext}
    {changed : DaemonTrace} (h : Camera.Running l ctx changed) (hidle : ctx.uploadState.aimed = false)
    (hreach : c.link.Reaches l (uploadAll uploads) l' ()) :
    ∃ ctx', Camera.Running l' ctx' (changed ++ commitsOf uploads) ∧ ctx'.uploadState.aimed = false := by
  induction uploads generalizing l ctx changed with
  | nil =>
    obtain ⟨-, rfl⟩ := reaches_ret.mp hreach
    exact ⟨ctx, by rw [commitsOf, List.flatMap_nil, List.append_nil]; exact h, hidle⟩
  | cons upload rest ih =>
    obtain ⟨path, content⟩ := upload
    obtain ⟨l₁, _, hfirst, hothers⟩ := reaches_bind.mp hreach
    obtain ⟨encoded, hencoded⟩ := encodable_of_upload hfirst
    obtain ⟨-, ctx₁, hidle₁, hrunning⟩ := Camera.running_upload hencoded h hfirst
    have hdestination : destinationFor ctx encoded = encoded := if_neg (by rw [hidle]; decide)
    have hcontent : contentFor ctx content = content := by
      cases hstate : ctx.uploadState <;> simp_all [UploadState.aimed, contentFor]
    rw [hdestination, hcontent] at hrunning
    obtain ⟨ctx', hrunning', hidle'⟩ := ih hrunning (by rw [hidle₁]; rfl) hothers
    refine ⟨ctx', ?_, hidle'⟩
    rw [commitsOf, List.flatMap_cons, hencoded, Option.getD_some, ← List.append_assoc]
    exact hrunning'

/-- On a daemon that holds no upload, uploads that all returned have written their files in order and nothing else,
and the daemon holds no upload again. -/
theorem uploadAll_landed {σ : Type} (c : Camera σ) (camera : σ) (ctx : DaemonContext) (uploads : List (Text × Bytes))
    (l' : Link σ) (hctx : Reachable ctx) (hidle : ctx.uploadState.aimed = false)
    (hreach : c.link.Reaches (.opened ctx camera) (uploadAll uploads) l' ()) :
    mutations l'.performed = commitsOf uploads ∧ ∃ ctx', l'.daemon = some ctx' ∧ ctx'.uploadState.aimed = false := by
  obtain ⟨ctx', hrunning, hidle'⟩ := running_uploadAll (running_opened (sound_of_reachable hctx) camera) hidle hreach
  exact ⟨hrunning.changed, ctx', hrunning.daemon, hidle'⟩

theorem uploadAll_landed_two :
    ∃ l', ideal.link.Reaches (.opened .start ()) (uploadAll [(samplePath, [1]), (samplePath, [2, 3])]) l' () ∧
      mutations l'.performed = commitEvents (ascii "/tmp/a") [1] ++ commitEvents (ascii "/tmp/a") [2, 3] ∧
      ∃ ctx', l'.daemon = some ctx' ∧ ctx'.uploadState.aimed = false := by
  have hopened := running_opened sound_start ()
  obtain ⟨l₁, hfirst⟩ := exists_upload validPath_sample (show [1] ≠ [] by decide) (by decide) hopened
    (show Accommodates .start [1] from trivial)
  obtain ⟨-, ctx₁, hidle, hrunning⟩ := Camera.running_upload validPath_sample.1 hopened hfirst
  obtain ⟨l', hsecond⟩ := exists_upload validPath_sample (show [2, 3] ≠ [] by decide) (by decide) hrunning
    (show Accommodates ctx₁ [2, 3] by rw [Accommodates, hidle]; trivial)
  have hall : ideal.link.Reaches (.opened .start ()) (uploadAll [(samplePath, [1]), (samplePath, [2, 3])]) l' () :=
    reaches_bind.mpr ⟨l₁, (), hfirst, reaches_bind.mpr ⟨l', (), hsecond, reaches_ret.mpr ⟨rfl, rfl⟩⟩⟩
  exact ⟨l', hall, uploadAll_landed ideal () .start _ l' .start rfl hall⟩

end Cc2Camera.HidUpdate
