import Cc2Camera.Device.Dispatch
import Mathlib.Data.List.TakeWhile

/-!
# Uploader — what holds of the daemon between two reports

The invariant of the uploader, kept by every report whatever the camera answers, and what the invariant rules out:
no report ever writes past the receive buffer or commits without a destination.
-/

open Bytes Exceptions Program World

namespace Cc2Camera.HidUpdate

/-- An upload has a destination from its target on, and keeps it. -/
def UploadState.aimed : UploadState → Bool
  | .receiving => true
  | .ready => true
  | .error => true
  | _ => false

structure Sound (ctx : DaemonContext) : Prop where
  pathLength : ctx.uploadPath.length = 128
  terminated : 0 ∈ ctx.uploadPath
  buffer : ∀ data, ctx.uploadData = some data → data.length = UPLOAD_CAPACITY
  used : ctx.uploadUsed ≤ UPLOAD_CAPACITY
  capacity : ctx.uploadState ≠ .idle → ctx.uploadCapacity = UPLOAD_CAPACITY
  buffered : ctx.uploadState = .needTarget ∨ ctx.uploadState = .receiving → ctx.uploadData ≠ none
  fresh : ctx.uploadState = .needTarget → ctx.uploadUsed = 0
  destination : ctx.uploadState.aimed = true → ctx.destination = true
  final : ctx.uploadState = .ready → ctx.sawFinal = 1

/-- The contexts the daemon can have between two reports since it was started, by whatever reports and answers. -/
inductive Reachable : DaemonContext → Prop where
  | start : Reachable .start
  | report {ctx ctx' : DaemonContext} {r : Bytes} {t : DaemonTrace} (h : Reachable ctx)
      (hrun : Runs (dispatchNormalReport r ctx) t (.returned ctx')) : Reachable ctx'

/-- The uploader is in a state that uses the buffer, and has none. -/
def Wedged (ctx : DaemonContext) : Prop :=
  ctx.uploadData = none ∧ (ctx.uploadState = .ready ∨ ctx.uploadState = .error)

/-- The faults that are left: not the overrun of the buffer and not the missing destination. -/
def Tolerated (ctx : DaemonContext) (x : Fault) : Prop :=
  x ≠ .bufferOverrun ∧ x ≠ .nullDestination ∧ (x = .nullBuffer → Wedged ctx)

theorem sound_start : Sound .start where
  pathLength := rfl
  terminated := by decide
  buffer := nofun
  used := by decide
  capacity := by decide
  buffered := by decide
  fresh := by decide
  destination := by decide
  final := by decide

/-! ## Paths -/

theorem mem_zero_of_length_cString_lt {path : Bytes} (h : (cString path).length < path.length) : 0 ∈ path := by
  by_contra hzero
  have hall : cString path = path := by
    rw [cString, List.takeWhile_eq_self_iff]
    intro b hb
    exact decide_eq_true fun hb0 => hzero (hb0 ▸ hb)
  rw [hall] at h
  omega

/-- What a literal target leaves in `g_upload_path`, whatever the payload. -/
theorem literalPath_terminated {payload path : Bytes} (h : literalPath payload = .ok path) :
    path.length = 128 ∧ 0 ∈ path := by
  simp only [literalPath, bind_eq_ok, raiseIf_eq_ok, exists_const, not_lt] at h
  obtain ⟨hlength, hleft, hpath⟩ := h
  have hpadded : (payload ++ List.replicate (128 - payload.length) 0).length = 128 := by
    rw [List.length_append, List.length_replicate]
    omega
  have htext := (List.takeWhile_sublist (· ≠ (0 : UInt8)) (l := payload ++ List.replicate (128 - payload.length) 0)).length_le
  have hblank := (List.takeWhile_sublist (· ≠ (32 : UInt8)) (l := cString (payload ++ List.replicate (128 - payload.length) 0))).length_le
  rw [← cString] at htext
  split at hpath
  · next hsame =>
    obtain rfl := Except.ok.inj hpath
    refine ⟨hpadded, mem_zero_of_length_cString_lt ?_⟩
    omega
  · obtain rfl := Except.ok.inj hpath
    refine ⟨by rw [List.length_set, hpadded], ?_⟩
    exact List.mem_set (by omega) 0

theorem length_scanWord_le {width : Nat} {line word : Bytes} (h : scanWord width line = some word) :
    word.length ≤ width := by
  unfold scanWord at h
  dsimp only at h
  split at h
  · cases h
  · rw [← Option.some.inj h, List.length_take]
    exact Nat.min_le_left _ _

theorem length_sensorOfLine_le {line sensor : Bytes} (h : sensorOfLine line = some sensor) : sensor.length ≤ 63 := by
  unfold sensorOfLine at h
  dsimp only at h
  split at h
  · split at h
    · exact length_scanWord_le h
    · cases h
  · cases h

theorem length_findSensor_le {sensor : Bytes} {fuel : Nat} {rest : Bytes} (h : findSensor fuel rest = some sensor) :
    sensor.length ≤ 63 := by
  induction fuel generalizing rest with
  | zero => cases h
  | succ fuel ih =>
    cases rest with
    | nil => cases h
    | cons b rest =>
      unfold findSensor at h
      dsimp only at h
      cases hline : sensorOfLine (fgets 256 (b :: rest)).1 with
      | none =>
        rw [hline] at h
        exact ih h
      | some found =>
        rw [hline] at h
        rw [← Option.some.inj h]
        exact length_sensorOfLine_le hline

theorem ensures_perform {op : DaemonOp} {t : DaemonTrace} {returns : DaemonTrace → DaemonReply op → Prop}
    {raises : DaemonTrace → Fault → Prop} :
    history.Ensures (perform op) returns raises t ↔ ∀ r, returns (t ++ [⟨op, r⟩]) r := ensures_history

/-- A derived path is shorter than `g_upload_path`. -/
theorem ensures_buildSensorPath (first : Bool) (t : DaemonTrace) {raises : DaemonTrace → Fault → Prop} :
    history.Ensures (buildSensorPath first) (fun _ path => ∀ text, path = some text → text.length < 128) raises t := by
  unfold buildSensorPath
  apply ensures_bind.mpr
  rw [ensures_perform]
  intro file
  cases file with
  | none =>
    intro text htext
    cases htext
  | some content =>
    dsimp only
    cases hsensor : findSensor content.length content with
    | none =>
      intro text htext
      cases htext
    | some sensor =>
      have hlength := length_findSensor_le hsensor
      dsimp only
      split
      · intro text htext
        obtain rfl := Option.some.inj htext
        rw [List.length_append, List.length_append]
        change 27 + sensor.length + 7 < 128
        omega
      · intro text htext
        obtain rfl := Option.some.inj htext
        rw [List.length_append, List.length_append]
        change 19 + sensor.length + 8 < 128
        omega

theorem printedPath_terminated {path text : Bytes} (hpath : path.length = 128) (htext : text.length < 128) :
    (printedPath path text).length = 128 ∧ 0 ∈ printedPath path text := by
  have hlength : (text ++ [0]).length = text.length + 1 := by rw [List.length_append]; rfl
  constructor
  · rw [printedPath, length_splice_of_fit path _ (Nat.zero_le _) (by omega) (by omega), hpath]
  · rw [printedPath, splice]
    simp

/-! ## The invariant -/

section Keeps

variable {ctx : DaemonContext} {t : DaemonTrace} {r : Bytes}

/-- A part that hands the context on, or raises a fault that is tolerated. -/
abbrev Keeps (ctx : DaemonContext) (p : Daemon DaemonContext) (t : DaemonTrace) : Prop :=
  history.Ensures p (fun _ ctx' => Sound ctx') (fun _ x => Tolerated ctx x) t

theorem keeps_send {command status : Nat} {ctx' : DaemonContext} (h : Sound ctx') :
    Keeps ctx (sendNormalResponse command status 0 [] >>= fun _ => pure ctx') t := by
  rw [sendNormalResponse]
  apply ensures_bind.mpr
  apply ensures_bind.mpr
  rw [ensures_perform]
  exact fun _ => h

/-- A checked computation: its own faults, then the rest. -/
theorem keeps_lift {α : Type} {e : Except Fault α} {f : α → Daemon DaemonContext}
    (hraise : ∀ x, e = .error x → Tolerated ctx x) (h : ∀ a, e = .ok a → Keeps ctx (f a) t) :
    Keeps ctx (lift e >>= f) t :=
  ensures_bind.mpr (ensures_ofExcept.mpr ⟨h, hraise⟩)

theorem tolerated_of_ne {x : Fault} (h : x ≠ .bufferOverrun ∧ x ≠ .nullDestination ∧ x ≠ .nullBuffer) :
    Tolerated ctx x := ⟨h.1, h.2.1, fun hx => absurd hx h.2.2⟩

theorem raisesOnly_payloadOf (length : Nat) : RaisesOnly (Tolerated ctx) (payloadOf r length) :=
  raisesOnly_guard (fun _ => tolerated_of_ne (by decide)) fun _ => raisesOnly_ok _

theorem raisesOnly_literalPath (payload : Bytes) : RaisesOnly (Tolerated ctx) (literalPath payload) := by
  unfold literalPath
  apply raisesOnly_guard fun _ => tolerated_of_ne (by decide)
  intro _
  apply raisesOnly_guard fun _ => tolerated_of_ne (by decide)
  intro _
  exact raisesOnly_ite (fun _ => raisesOnly_ok _) fun _ => raisesOnly_ok _

theorem length_payloadOf {length : Nat} {payload : Bytes} (h : payloadOf r length = .ok payload) :
    payload.length = length := by
  simp only [payloadOf, bind_eq_ok, raiseIf_eq_ok, exists_const, not_lt] at h
  obtain ⟨hlength, hpayload⟩ := h
  rw [← Except.ok.inj hpayload, length_slice]
  omega

/-- Where the bytes of an append go is inside the buffer. -/
theorem raisesOnly_copyIn (hctx : Sound ctx) {payload : Bytes}
    (hstate : ctx.uploadState = .receiving ∨ ctx.uploadState = .error)
    (hfits : ctx.uploadUsed + payload.length ≤ UPLOAD_CAPACITY) :
    RaisesOnly (Tolerated ctx) (copyIn ctx.uploadData ctx.uploadUsed payload) := by
  cases hdata : ctx.uploadData with
  | none =>
    have hwedged : Wedged ctx := by
      refine ⟨hdata, .inr ?_⟩
      rcases hstate with hstate | hstate
      · exact absurd hdata (hctx.buffered (.inr hstate))
      · exact hstate
    exact raisesOnly_ite (fun _ => raisesOnly_ok _) fun _ => raisesOnly_error ⟨by decide, by decide, fun _ => hwedged⟩
  | some data =>
    apply raisesOnly_guard
    · intro hover
      rw [hctx.buffer data hdata] at hover
      omega
    · exact fun _ => raisesOnly_ok _

/-- An append that is taken: the payload follows what was used, and a final frame makes the upload ready. -/
theorem uploadAppend_eq_some {ctx' : DaemonContext} :
    uploadAppend r ctx = .ok (some ctx') ↔
      ¬(2 ≤ u32 r 8 ∧ u32 r 8 ≠ (ctx.lastSequence + 1) % 2 ^ 32) ∧
        ¬ctx.uploadCapacity < (ctx.uploadUsed + u16 r 6) % 2 ^ 32 ∧
        ∃ payload data, payloadOf r (u16 r 6) = .ok payload ∧
          copyIn ctx.uploadData ctx.uploadUsed payload = .ok data ∧
            ctx' = { ctx with
              uploadData := data
              sawFinal := if u8 r 5 = 2 then 1 else ctx.sawFinal
              uploadState := if u8 r 5 = 2 then .ready else ctx.uploadState
              uploadUsed := (ctx.uploadUsed + u16 r 6) % 2 ^ 32
              lastSequence := u32 r 8 } := by
  unfold uploadAppend
  dsimp only
  split
  · next h => exact iff_of_false (by simp) fun hsome => hsome.1 h
  · next hsequence =>
    split
    · next h => exact iff_of_false (by simp) fun hsome => hsome.2.1 h
    · next hcapacity =>
      simp only [bind_eq_ok, Except.ok.injEq, Option.some.injEq]
      constructor
      · rintro ⟨payload, hpayload, data, hdata, rfl⟩
        exact ⟨hsequence, hcapacity, payload, data, hpayload, hdata, rfl⟩
      · rintro ⟨-, -, payload, data, hpayload, hdata, rfl⟩
        exact ⟨payload, hpayload, data, hdata, rfl⟩

theorem raisesOnly_uploadAppend (hctx : Sound ctx)
    (hstate : ctx.uploadState = .receiving ∨ ctx.uploadState = .error) :
    RaisesOnly (Tolerated ctx) (uploadAppend r ctx) := by
  have hused := hctx.used
  have hcapacity : ctx.uploadCapacity = UPLOAD_CAPACITY :=
    hctx.capacity (by rcases hstate with h | h <;> rw [h] <;> decide)
  have hlength := u16_lt r 6
  have hbound : UPLOAD_CAPACITY = 0x01000200 := rfl
  unfold uploadAppend
  dsimp only
  apply raisesOnly_ite fun _ => raisesOnly_ok _
  intro _
  apply raisesOnly_ite fun _ => raisesOnly_ok _
  intro hroom
  apply raisesOnly_bind (raisesOnly_payloadOf _)
  intro payload hpayload
  rw [hcapacity, Nat.mod_eq_of_lt (by omega)] at hroom
  apply raisesOnly_bind (raisesOnly_copyIn hctx hstate (by rw [length_payloadOf hpayload]; omega))
  exact fun data _ => raisesOnly_ok _

theorem length_copyIn {data : Option Bytes} {used : Nat} {payload : Bytes} {data' : Option Bytes}
    (h : copyIn data used payload = .ok data') :
    (data' = none ↔ data = none) ∧ ∀ buffer buffer', data = some buffer → data' = some buffer' →
      buffer'.length = buffer.length := by
  unfold copyIn at h
  cases data with
  | none =>
    dsimp only at h
    split at h
    · rw [← Except.ok.inj h]
      exact ⟨Iff.rfl, nofun⟩
    · cases h
  | some buffer =>
    simp only [bind_eq_ok, raiseIf_eq_ok, exists_const, not_lt] at h
    obtain ⟨hfits, hdata⟩ := h
    rw [← Except.ok.inj hdata]
    refine ⟨by simp, fun _ buffer' hb hb' => ?_⟩
    obtain rfl := Option.some.inj hb
    rw [← Option.some.inj hb']
    exact length_splice_of_fit buffer payload (by omega) hfits (by omega)

theorem sound_uploadAppend (hctx : Sound ctx) {ctx' : DaemonContext}
    (hstate : ctx.uploadState = .receiving ∨ ctx.uploadState = .error)
    (h : uploadAppend r ctx = .ok (some ctx')) : Sound ctx' := by
  have hused := hctx.used
  have hcapacity : ctx.uploadCapacity = UPLOAD_CAPACITY :=
    hctx.capacity (by rcases hstate with h | h <;> rw [h] <;> decide)
  have haimed : ctx.destination = true := hctx.destination (by rcases hstate with h | h <;> rw [h] <;> rfl)
  have hbound : UPLOAD_CAPACITY = 0x01000200 := rfl
  obtain ⟨-, hroom, payload, data, hpayload, hcopy, rfl⟩ := uploadAppend_eq_some.mp h
  obtain ⟨hnone, hlength⟩ := length_copyIn hcopy
  refine
    { pathLength := hctx.pathLength
      terminated := hctx.terminated
      buffer := ?_
      used := ?_
      capacity := fun _ => hcapacity
      buffered := ?_
      fresh := ?_
      destination := fun _ => haimed
      final := ?_ }
  · intro buffer hbuffer
    cases hdata : ctx.uploadData with
    | none =>
      rw [hnone.mpr hdata] at hbuffer
      cases hbuffer
    | some old =>
      rw [hlength old buffer hdata hbuffer]
      exact hctx.buffer old hdata
  · change (ctx.uploadUsed + u16 r 6) % 2 ^ 32 ≤ UPLOAD_CAPACITY
    omega
  -- only the final packet leaves the state in which it arrived
  · intro hnext
    change (if u8 r 5 = 2 then UploadState.ready else ctx.uploadState) = _ ∨
      (if u8 r 5 = 2 then UploadState.ready else ctx.uploadState) = _ at hnext
    show data ≠ none
    rw [ne_eq, hnone]
    apply hctx.buffered
    split at hnext
    · simp at hnext
    · exact hnext
  · show (if u8 r 5 = 2 then UploadState.ready else ctx.uploadState) = .needTarget → _
    intro hnext
    split at hnext
    · cases hnext
    · rcases hstate with hstate | hstate <;> rw [hstate] at hnext <;> cases hnext
  · show (if u8 r 5 = 2 then UploadState.ready else ctx.uploadState) = .ready → _
    intro hnext
    split at hnext
    · next hfinal => exact if_pos hfinal
    · rcases hstate with hstate | hstate <;> rw [hstate] at hnext <;> cases hnext

/-- There are bytes to commit and no buffer to take them from. -/
def Unbacked (ctx : DaemonContext) : Prop :=
  ctx.sawFinal = 1 ∧ ctx.uploadData = none ∧ ctx.uploadUsed ≠ 0

theorem uploaded_eq_error (hctx : Sound ctx) {x : Fault} :
    uploaded ctx = .error x ↔ ctx.uploadData = none ∧ ctx.uploadUsed ≠ 0 ∧ x = .nullBuffer := by
  unfold uploaded
  cases hdata : ctx.uploadData with
  | none =>
    by_cases hused : ctx.uploadUsed = 0
    · simp [hused]
    · simp [hused, eq_comm]
  | some data =>
    have hused := hctx.used
    have hlength := hctx.buffer data hdata
    simp only
    rw [raiseIf_of_not (by omega)]
    simp

theorem ensures_uploadCommit (hctx : Sound ctx) (hstate : ctx.uploadState = .ready ∨ ctx.uploadState = .error) :
    history.Ensures (uploadCommit ctx) (fun _ _ => True) (fun _ x => Unbacked ctx ∧ x = .nullBuffer) t := by
  have haimed : ctx.destination = true := hctx.destination (by rcases hstate with h | h <;> rw [h] <;> rfl)
  unfold uploadCommit
  apply ensures_bind.mpr
  rw [lift, ensures_ofExcept]
  refine ⟨fun _ _ => ?_, fun x hx => ?_⟩
  · dsimp only
    split
    · trivial
    · next hfinal =>
      apply ensures_bind.mpr
      rw [ensures_perform]
      intro _
      apply ensures_bind.mpr
      rw [ensures_perform]
      intro _
      apply ensures_bind.mpr
      rw [ensures_perform]
      intro opened
      split
      · trivial
      · apply ensures_bind.mpr
        rw [lift, ensures_ofExcept]
        refine ⟨fun content _ => ?_, fun x hx => ?_⟩
        rotate_left
        -- an earlier commit that failed has freed the buffer and left the count
        · obtain ⟨hdata, hused, rfl⟩ := (uploaded_eq_error hctx).mp hx
          exact ⟨⟨not_not.mp hfinal, hdata, hused⟩, rfl⟩
        apply ensures_bind.mpr
        rw [ensures_perform]
        intro count
        split
        · trivial
        · apply ensures_bind.mpr
          rw [ensures_perform]
          intro _
          split
          · apply ensures_bind.mpr
            rw [ensures_perform]
            intro _
            apply ensures_bind.mpr
            rw [ensures_perform]
            exact fun _ => trivial
          · trivial
  · rw [raiseIf_of_not (by rw [haimed]; decide)] at hx
    cases hx

/-- What a new upload starts from. -/
theorem ensures_uploadInit (hctx : Sound ctx) {raises : DaemonTrace → Fault → Prop} :
    history.Ensures (uploadInit ctx)
      (fun _ ready => ∀ ctx', ready = some ctx' → Sound { ctx' with uploadState := .needTarget }) raises t := by
  have hbuffer : history.Ensures (uploadBuffer ctx.uploadData)
      (fun _ data => ∀ buffer, data = some buffer → buffer.length = UPLOAD_CAPACITY) raises t := by
    cases hdata : ctx.uploadData with
    | some data =>
      intro buffer hbuffer
      exact hctx.buffer buffer (hdata.trans hbuffer)
    | none =>
      apply ensures_bind.mpr
      rw [ensures_perform]
      intro r buffer hbuffer
      obtain ⟨⟨_, hlength⟩, -, rfl⟩ := Option.map_eq_some_iff.mp hbuffer
      exact hlength
  apply hbuffer.then
  intro _ data hlength
  cases data with
  | none =>
    intro ctx' hctx'
    cases hctx'
  | some data =>
    intro ctx' hctx'
    obtain rfl := Option.some.inj hctx'
    exact
      { pathLength := hctx.pathLength
        terminated := hctx.terminated
        buffer := hlength
        used := Nat.zero_le _
        capacity := fun _ => rfl
        buffered := fun _ => Option.some_ne_none data
        fresh := fun _ => rfl
        destination := fun h => by cases h
        final := fun h => by cases h }

theorem sound_targeted (hctx : Sound ctx) {path : Bytes} (hstate : ctx.uploadState = .needTarget)
    (hpath : path.length = 128 ∧ 0 ∈ path) :
    Sound { ctx with uploadPath := path, destination := true, uploadState := .receiving } where
  pathLength := hpath.1
  terminated := hpath.2
  buffer := hctx.buffer
  used := hctx.used
  capacity _ := hctx.capacity (by rw [hstate]; decide)
  buffered _ := hctx.buffered (.inl hstate)
  fresh h := by cases h
  destination _ := rfl
  final h := by cases h

theorem sound_failed (hctx : Sound ctx) {data : Option Bytes} (hstate : ctx.uploadState.aimed = true)
    (hdata : data = ctx.uploadData ∨ data = none) : Sound { ctx with uploadData := data, uploadState := .error } where
  pathLength := hctx.pathLength
  terminated := hctx.terminated
  buffer := by
    rcases hdata with rfl | rfl
    · exact hctx.buffer
    · exact nofun
  used := hctx.used
  capacity _ := hctx.capacity (by rintro h; rw [h] at hstate; cases hstate)
  buffered h := by rcases h with h | h <;> cases h
  fresh h := by cases h
  destination _ := hctx.destination hstate
  final h := by cases h

theorem sound_committed (hctx : Sound ctx) : Sound { ctx with uploadData := none, uploadState := .idle } where
  pathLength := hctx.pathLength
  terminated := hctx.terminated
  buffer := nofun
  used := hctx.used
  capacity h := absurd rfl h
  buffered h := by rcases h with h | h <;> cases h
  fresh h := by cases h
  destination h := by cases h
  final h := by cases h

theorem keeps_dispatchUpload (hctx : Sound ctx) : Keeps ctx (dispatchUpload r ctx) t := by
  unfold dispatchUpload
  dsimp only
  split
  · split
    · exact keeps_send hctx
    · apply (ensures_uploadInit hctx).then
      intro t ready hready
      cases ready with
      | none => exact keeps_send hctx
      | some ctx' => exact keeps_send (hready ctx' rfl)
  · split
    · split
      · exact keeps_send hctx
      · next hstate =>
        -- the path ends at its first zero, which is inside the 128 bytes
        apply keeps_lift (raisesOnly_payloadOf _).kind
        intro payload _
        apply keeps_lift (raisesOnly_literalPath payload).kind
        intro path hpath
        exact keeps_send (sound_targeted hctx (not_not.mp hstate) (literalPath_terminated hpath))
    · split
      · split
        · exact keeps_send hctx
        · next hstate =>
          apply (ensures_buildSensorPath _ t).then
          intro t path hpath
          cases path with
          | none => exact keeps_send hctx
          | some text =>
            have hprinted := printedPath_terminated hctx.pathLength (hpath text rfl)
            exact keeps_send (sound_targeted hctx (not_not.mp hstate) hprinted)
      · split
        · split
          · exact keeps_send hctx
          · next hstate =>
            have hstate := not_not.mp hstate
            apply keeps_lift (raisesOnly_uploadAppend hctx hstate).kind
            intro appended happended
            cases appended with
            | none =>
              have haimed : ctx.uploadState.aimed = true := by rcases hstate with h | h <;> rw [h] <;> rfl
              have hfailed : Sound { ctx with uploadState := .error } := sound_failed hctx haimed (.inl rfl)
              exact keeps_send hfailed
            | some ctx' => exact keeps_send (sound_uploadAppend hctx hstate happended)
        · split
          · split
            · exact keeps_send hctx
            · next hstate =>
              have hstate := not_not.mp hstate
              -- a commit that succeeded starts over, one that failed keeps its path and loses its buffer
              have hcommit : history.Ensures (uploadCommit ctx) (fun _ _ => True) (fun _ x => Tolerated ctx x) t :=
                ensures_mono (ensures_uploadCommit hctx hstate) (fun _ _ h => h) fun _ x hx =>
                  hx.2 ▸ ⟨by decide, by decide, fun _ => ⟨hx.1.2.1, hstate⟩⟩
              apply hcommit.then
              intro t committed _
              split
              · exact keeps_send (sound_committed hctx)
              · refine keeps_send (sound_failed hctx ?_ (.inr rfl))
                rcases hstate with hstate | hstate <;> rw [hstate] <;> rfl
          · exact hctx

/-- A handler that leaves the uploader alone. -/
theorem keeps_apart (hctx : Sound ctx) {p : Daemon Unit}
    (hp : history.Ensures p (fun _ _ => True) (fun _ x => Tolerated ctx x) t) :
    Keeps ctx (p >>= fun _ => pure ctx) t := hp.then fun _ _ _ => hctx

theorem ensures_send {command status responseType : Nat} {payload : Bytes} {raises : DaemonTrace → Fault → Prop} :
    history.Ensures (sendNormalResponse command status responseType payload) (fun _ _ => True) raises t := by
  rw [sendNormalResponse]
  apply ensures_bind.mpr
  rw [ensures_perform]
  exact fun _ => trivial

theorem ensures_lift {α β : Type} {e : Except Fault α} {f : α → Daemon β} {returns : DaemonTrace → β → Prop}
    {raises : DaemonTrace → Fault → Prop} (hraise : ∀ x, e = .error x → raises t x)
    (h : ∀ a, e = .ok a → history.Ensures (f a) returns raises t) : history.Ensures (lift e >>= f) returns raises t :=
  ensures_bind.mpr (ensures_ofExcept.mpr ⟨h, hraise⟩)

theorem raisesOnly_raised {c : Prop} [Decidable c] {x : Fault}
    (h : x ≠ .bufferOverrun ∧ x ≠ .nullDestination ∧ x ≠ .nullBuffer) :
    RaisesOnly (Tolerated ctx) (raiseIf c x) := raisesOnly_raiseIf fun _ => tolerated_of_ne h

theorem ensures_configGet (command : Nat) (key : Bytes) {raises : DaemonTrace → Fault → Prop} :
    history.Ensures (configGet command key) (fun _ _ => True) raises t := by
  unfold configGet
  apply ensures_bind.mpr
  rw [ensures_perform]
  intro file
  cases file with
  | none => exact ensures_send
  | some content =>
    cases hvalue : findValue key content.length content with
    | none =>
      simp only [hvalue]
      exact ensures_send
    | some value =>
      simp only [hvalue]
      exact ensures_send

theorem ensures_configSet (command : Nat) (key : Bytes) :
    history.Ensures (configSet command key r) (fun _ _ => True) (fun _ x => Tolerated ctx x) t := by
  unfold configSet
  apply ensures_bind.mpr
  rw [ensures_perform]
  intro file
  cases file with
  | none => exact ensures_send
  | some original =>
    apply ensures_lift (raisesOnly_raised (by decide)).kind
    intro _ _
    split
    · exact ensures_send
    · apply ensures_lift (raisesOnly_payloadOf _).kind
      intro newValue _
      apply ensures_lift (raisesOnly_raised (by decide)).kind
      intro _ _
      apply ensures_bind.mpr
      rw [ensures_perform]
      exact fun _ => ensures_send

theorem ensures_dispatchConfig :
    history.Ensures (dispatchConfig r) (fun _ _ => True) (fun _ x => Tolerated ctx x) t := by
  unfold dispatchConfig
  dsimp only
  split
  · trivial
  · exact ensures_configGet _ _
  · exact ensures_configSet _ _

theorem ensures_versionQuery (command : Nat) {raises : DaemonTrace → Fault → Prop} :
    history.Ensures (versionQuery command) (fun _ _ => True) raises t := by
  unfold versionQuery
  apply ensures_bind.mpr
  rw [ensures_perform]
  intro file
  split
  · exact ensures_send
  · exact ensures_send

end Keeps

/-- Beside the faults the uploader tolerates, an upgrade request dies of an allocation that failed. -/
def Survived (ctx : DaemonContext) (r : Bytes) (x : Fault) : Prop :=
  Tolerated ctx x ∨ x = .nullBuffer ∧ u16 r 3 / 0x1000 = 4

theorem ensures_setUpgradeWordsAndReboot {ctx : DaemonContext} {r : Bytes} {t : DaemonTrace}
    (hgroup : u16 r 3 / 0x1000 = 4) :
    history.Ensures (setUpgradeWordsAndReboot r) (fun _ _ => True) (fun _ x => Survived ctx r x) t := by
  unfold setUpgradeWordsAndReboot
  apply ensures_bind.mpr
  rw [ensures_perform]
  intro heapCopy
  apply ensures_lift fun x hx => .inl ((raisesOnly_payloadOf _).kind x hx)
  intro payload _
  apply ensures_lift
  · intro x hx
    exact .inr ⟨(raisesOnly_raiseIf (P := (· = .nullBuffer)) fun _ => rfl).kind x hx, hgroup⟩
  intro _ _
  apply ensures_lift fun x hx => .inl ((raisesOnly_raised (by decide)).kind x hx)
  intro _ _
  apply ensures_bind.mpr
  rw [ensures_perform]
  intro rc
  have hanswer {t : DaemonTrace} :
      history.Ensures (answerUpgrade (u16 r 3) rc) (fun _ _ => True) (fun _ x => Survived ctx r x) t := by
    unfold answerUpgrade
    split
    · exact ensures_send
    · apply ensures_bind.mpr
      rw [ensures_perform]
      exact fun _ => ensures_send
  apply hanswer.then
  intro t _ _
  rw [rebootViaShell, ensures_perform]
  exact fun _ => trivial

theorem sound_dispatchNormalReport {ctx : DaemonContext} (hctx : Sound ctx) (r : Bytes) :
    history.Ensures (dispatchNormalReport r ctx) (fun _ ctx' => Sound ctx') (fun _ x => Survived ctx r x) [] := by
  have hweaken {p : Daemon DaemonContext} (hp : Keeps ctx p []) :
      history.Ensures p (fun _ ctx' => Sound ctx') (fun _ x => Survived ctx r x) [] :=
    ensures_mono hp (fun _ _ h => h) fun _ _ => .inl
  unfold dispatchNormalReport
  dsimp only
  split
  · exact hweaken (keeps_send hctx)
  · split
    · exact hweaken (keeps_send hctx)
    · apply ensures_lift
      · intro x hx
        unfold computedCrc at hx
        split at hx
        · exact .inl ((raisesOnly_bind (raisesOnly_payloadOf _) fun _ _ => raisesOnly_ok _).kind x hx)
        · cases hx
      · intro crc _
        split
        · exact hweaken (keeps_send hctx)
        · unfold dispatchCommand
          dsimp only
          split
          · split
            · exact hweaken (keeps_apart hctx (ensures_versionQuery _))
            · exact hctx
          · exact hctx
          · exact hweaken (keeps_apart hctx ensures_dispatchConfig)
          · exact hweaken (keeps_dispatchUpload hctx)
          · next hgroup => exact (ensures_setUpgradeWordsAndReboot hgroup).then fun _ _ _ => hctx
          · exact hweaken (keeps_send hctx)

/-! ## Whole runs -/

theorem sound_of_reachable {ctx : DaemonContext} (h : Reachable ctx) : Sound ctx := by
  induction h with
  | start => exact sound_start
  | report _ hrun ih => exact ((sound_dispatchNormalReport ih _).sound (runsIn_history hrun [])).1 _ rfl

end Cc2Camera.HidUpdate
