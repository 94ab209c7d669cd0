import Cc2Camera.Device.UploadRequests

/-!
# Link — the host, the HID link and the daemon behind it

The daemon handles a report when it arrives, with whatever answers the camera gives it, and what it sends waits to be
read, with or without its report ID.  A read may find nothing, a write may fail, and either may raise anything.
-/

open Bytes Exceptions Program World

namespace Cc2Camera.HidUpdate

open Protocol Commands Host HidTransport

structure Camera (σ : Type) where
  answer : σ → (op : DaemonOp) → σ × DaemonReply op
  -- whether a report got through although its write failed
  takes : σ → Bytes → Bool

structure Link (σ : Type) where
  daemon : Option DaemonContext
  camera : σ
  performed : DaemonTrace
  waiting : List Bytes

/-- A handle just opened on a running daemon. -/
def Link.opened {σ : Type} (ctx : DaemonContext) (camera : σ) : Link σ :=
  { daemon := some ctx, camera := camera, performed := [], waiting := [] }

def isReboot : Event DaemonOp DaemonReply → Bool
  | ⟨.system command, _⟩ => command = REBOOT
  | _ => false

/-- A fault or a reboot leaves no daemon to read the next report. -/
def survivor {σ : Type} (p : Playback DaemonOp DaemonReply Fault DaemonContext σ) : Option DaemonContext :=
  match p.outcome with
  | .returned ctx => if p.events.any isReboot then none else some ctx
  | _ => none

namespace Camera

variable {σ : Type} (c : Camera σ)

def deliver (link : Link σ) (report : Bytes) : Link σ :=
  match link.daemon with
  | none => link
  | some ctx =>
    let p := (dispatchNormalReport report ctx).play c.answer link.camera
    { daemon := survivor p, camera := p.state, performed := link.performed ++ p.events
      waiting := link.waiting ++ replies p.events }

def answers (link : Link σ) : Event Op Reply → Prop
  | ⟨.hidRead _ _ _, .ok data⟩ =>
    data = [] ∨ ∃ report, link.waiting.head? = some report ∧ (data = report ∨ data = report.drop 1)
  | _ => True

def after (link : Link σ) : Event Op Reply → Link σ
  | ⟨.hidWrite _ report, .ok count⟩ =>
    if (count = report.length ∨ count = report.length - 1) ∨ c.takes link.camera report then c.deliver link report
    else link
  | ⟨.hidWrite _ report, .error _⟩ => if c.takes link.camera report then c.deliver link report else link
  | ⟨.hidRead _ _ _, .ok data⟩ => if data = [] then link else { link with waiting := link.waiting.tail }
  | _ => link

/-- The host's world: this camera behind an open handle. -/
def link : World Op Reply (Link σ) where
  answers := answers
  after := c.after

/-! ## One exchange -/

variable {c} {l l' : Link σ} {r : Bytes}

/-- What the daemon sends for one report. -/
theorem replies_play (r : Bytes) (ctx : DaemonContext) (s : σ) :
    replies ((dispatchNormalReport r ctx).play c.answer s).events = [] ∨
      ∃ status payload, status ≤ ST_UNKNOWN_GROUP ∧ payload.length ≤ 63 ∧
        replies ((dispatchNormalReport r ctx).play c.answer s).events =
          [responseReport (u16 r 3) status 1 payload] := by
  rcases ensures_play c.answer (handles_dispatchNormalReport r ctx) s with
    ⟨ctx', -, hanswered⟩ | ⟨fault, -, hsilent⟩
  · exact hanswered
  · exact .inl hsilent

variable (c) in
/-- The report was handled and answered with success, and the answer was read. -/
def Granted (l : Link σ) (r : Bytes) (l' : Link σ) : Prop :=
  ∃ payload, payload.length ≤ 63 ∧ (c.deliver l r).waiting = [responseReport (u16 r 3) ST_OK 1 payload] ∧
    l' = { c.deliver l r with waiting := [] }

theorem checkReply_of_parse {command : Nat} {data : Bytes} {frame : NormalFrame}
    (hparse : parseNormalReport data = .ok frame) (hcommand : frame.command = command) :
    (∃ response, checkReply command data = .ok response) ↔ frame.status = 0 := by
  simp only [checkReply, hparse, ok_bind, hcommand, ne_eq, not_true_eq_false, raiseIf_false, bind_eq_ok,
    raiseIf_eq_ok, not_not, exists_const]
  simp

theorem waiting_deliver (hwaiting : l.waiting = []) :
    (c.deliver l r).waiting = [] ∨ ∃ status payload, status ≤ ST_UNKNOWN_GROUP ∧ payload.length ≤ 63 ∧
      (c.deliver l r).waiting = [responseReport (u16 r 3) status 1 payload] := by
  unfold deliver
  cases l.daemon with
  | none => exact .inl hwaiting
  | some ctx =>
    simp only [hwaiting, List.nil_append]
    exact replies_play r ctx l.camera

theorem reaches_writeExact {handle : HidHandle} {u : Unit} :
    c.link.Reaches l (writeExact handle r) l' u ↔ l' = c.deliver l r := by
  have hafter {count : Int} (hcount : count = r.length ∨ count = r.length - 1) :
      c.link.after l ⟨.hidWrite handle r, .ok count⟩ = c.deliver l r := if_pos (.inl hcount)
  have hwrite {l₁ : Link σ} {count : Int} : c.link.Reaches l (call (.hidWrite handle r)) l₁ count ↔
      c.link.answers l ⟨.hidWrite handle r, .ok count⟩ ∧ l₁ = c.link.after l ⟨.hidWrite handle r, .ok count⟩ :=
    reaches_call
  simp only [writeExact, reaches_bind, hwrite, Host.lift, reaches_ofExcept, raiseIf_eq_ok, not_not]
  constructor
  · rintro ⟨_, count, ⟨-, rfl⟩, hcount, rfl⟩
    exact hafter hcount
  · rintro rfl
    exact ⟨_, (r.length : Int), ⟨trivial, rfl⟩, .inl rfl, hafter (.inl rfl)⟩

theorem reaches_readReport {handle : HidHandle} {size timeoutMs : Nat} {data : Bytes} :
    c.link.Reaches l (readReport handle size timeoutMs) l' data ↔
      data ≠ [] ∧ (∃ report, l.waiting.head? = some report ∧ (data = report ∨ data = report.drop 1)) ∧
        l' = { l with waiting := l.waiting.tail } := by
  have hafter (hdata : data ≠ []) :
      c.link.after l ⟨.hidRead handle size timeoutMs, .ok data⟩ = { l with waiting := l.waiting.tail } := if_neg hdata
  have hread {l₁ : Link σ} {found : Bytes} : c.link.Reaches l (call (.hidRead handle size timeoutMs)) l₁ found ↔
      c.link.answers l ⟨.hidRead handle size timeoutMs, .ok found⟩ ∧
        l₁ = c.link.after l ⟨.hidRead handle size timeoutMs, .ok found⟩ := reaches_call
  simp only [readReport, reaches_bind, hread, Host.lift, reaches_ofExcept, raiseIf_eq_ok, pure_eq_ret,
    reaches_ret]
  constructor
  · rintro ⟨_, _, ⟨hanswers, rfl⟩, _, _, ⟨hdata, rfl⟩, rfl, rfl⟩
    exact ⟨hdata, hanswers.resolve_left hdata, hafter hdata⟩
  · rintro ⟨hdata, hreport, rfl⟩
    exact ⟨_, data, ⟨.inr hreport, rfl⟩, _, (), ⟨hdata, rfl⟩, rfl, hafter hdata⟩

/-- An exchange returns exactly where the daemon answered the request with success. -/
theorem reaches_exchange (handle : HidHandle) {frame : NormalFrame} (hwaiting : l.waiting = [])
    (hlength : r.length = Protocol.NORMAL_REPORT_SIZE) (haccepted : NormalAccepted r frame) :
    c.link.Reaches l (exchange handle r) l' () ↔ c.Granted l r l' := by
  have hsent : parseNormalReport r = .ok frame := (parse_of_accepted hlength haccepted).1
  have hcommand : u16 r 3 = frame.command := haccepted.command
  have hreply {status : Nat} {payload data : Bytes} (hstatus : status ≤ ST_UNKNOWN_GROUP) (hpayload : payload.length ≤ 63)
      (hdata : data = responseReport (u16 r 3) status 1 payload ∨
        data = (responseReport (u16 r 3) status 1 payload).drop 1) :
      (∃ response, checkReply frame.command data = .ok response) ↔ status = 0 := by
    have hbound : ST_UNKNOWN_GROUP = 5 := rfl
    obtain ⟨hwhole, hbare⟩ := parseNormalReport_response (u16_lt r 3) (show status < 2 ^ 32 by omega)
      (show payload.length ≤ 1010 by omega)
    rcases hdata with rfl | rfl
    · exact checkReply_of_parse hwhole hcommand
    · exact checkReply_of_parse hbare hcommand
  have hnonempty {status : Nat} {payload : Bytes} (hpayload : payload.length ≤ 63) :
      responseReport (u16 r 3) status 1 payload ≠ [] ∧ (responseReport (u16 r 3) status 1 payload).drop 1 ≠ [] := by
    have hsize : (responseReport (u16 r 3) status 1 payload).length = 1024 := length_responseReport (by omega)
    constructor
    · exact List.ne_nil_of_length_pos (by omega)
    · exact List.ne_nil_of_length_pos (by rw [List.length_drop]; omega)
  simp only [exchange, exchangeNormal, reaches_bind, Host.lift, reaches_ofExcept, hsent, Except.ok.injEq,
    reaches_writeExact, reaches_readReport, pure_eq_ret, reaches_ret]
  constructor
  · rintro ⟨_, response, ⟨_, _, ⟨rfl, rfl⟩, _, _, rfl, _, data, ⟨-, ⟨report, hhead, hdata⟩, rfl⟩, hcheck, rfl⟩, -, rfl⟩
    rcases waiting_deliver (c := c) (r := r) hwaiting with hnone | ⟨status, payload, hstatus, hpayload, hreplies⟩
    · rw [hnone] at hhead
      cases hhead
    · rw [hreplies] at hhead
      obtain rfl := Option.some.inj hhead
      obtain rfl : status = 0 := (hreply hstatus hpayload hdata).mp ⟨response, hcheck⟩
      exact ⟨payload, hpayload, hreplies, by rw [hreplies]; rfl⟩
  · rintro ⟨payload, hpayload, hreplies, rfl⟩
    obtain ⟨response, hcheck⟩ := (hreply (show ST_OK ≤ ST_UNKNOWN_GROUP by decide) hpayload (.inl rfl)).mpr rfl
    refine ⟨_, response, ⟨_, frame, ⟨rfl, rfl⟩, _, (), rfl, _, _, ⟨(hnonempty hpayload).1, ⟨_, ?_, .inl rfl⟩, rfl⟩, hcheck, ?_⟩,
      trivial, rfl⟩
    · rw [hreplies]
      rfl
    · rw [hreplies]
      rfl

end Camera

end Cc2Camera.HidUpdate
