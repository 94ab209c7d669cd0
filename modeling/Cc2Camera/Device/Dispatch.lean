import Cc2Camera.Device.HidUpdate
import Cc2Camera.Device.Requests
import Cc2Camera.Lib.World

/-!
# Dispatch — the daemon and its host read each other

What the builders of `commands.py` build passes every check of the daemon, and what the daemon answers is parsed by
`protocol.py`.  A report is handled to an end, answered at most once, and never answered before a fault.
-/

open Bytes Exceptions Program World

namespace Cc2Camera.HidUpdate

open Protocol Commands

/-! ## Requests at the daemon -/

section Accepted

variable {r : Bytes} {frame : NormalFrame}

theorem payloadOf_accepted (h : NormalAccepted r frame) : payloadOf r (u16 r 6) = .ok frame.payload := by
  have hfits := h.fits
  have hoff : NORMAL_PAYLOAD_OFF = 14 := rfl
  rw [payloadOf, h.size, raiseIf_of_not (by omega), ok_bind, hoff, h.payload]

theorem cc2Crc16_append (a b : Bytes) (crc : BitVec 16) : cc2Crc16 b (cc2Crc16 a crc) = cc2Crc16 (a ++ b) crc :=
  List.foldl_append.symm

theorem computedCrc_accepted (h : NormalAccepted r frame) :
    ∃ crc, computedCrc r = .ok crc ∧ crc.toNat = u16 r 12 := by
  have hcrc := h.crc
  rw [computedCrc, h.type]
  by_cases htype : frame.frameType = 1 ∨ frame.frameType = 2
  · refine ⟨cc2Crc16 (slice r 0 12 ++ frame.payload) 0xFFFF#16, ?_, ?_⟩
    · rw [if_pos htype, payloadOf_accepted h, ok_bind, cc2Crc16_append]
    · rw [crcInput, if_pos htype] at hcrc
      exact hcrc
  · refine ⟨cc2Crc16 (slice r 0 12) 0xFFFF#16, if_neg htype, ?_⟩
    rw [crcInput, if_neg htype, List.append_nil] at hcrc
    exact hcrc

theorem magic_accepted (h : NormalAccepted r frame) : u8 r 1 = 0x5A ∧ u8 r 2 = 0x5A := by
  have hfirst : slice (slice r 1 3) 0 1 = slice r 1 2 := slice_slice r (by omega)
  have hsecond : slice (slice r 1 3) 1 2 = slice r 2 3 := slice_slice r (by omega)
  rw [h.magic] at hfirst hsecond
  exact ⟨by rw [u8, ← hfirst]; rfl, by rw [u8, ← hsecond]; rfl⟩

/-- A report that passes the host's checks passes the daemon's. -/
theorem dispatchNormalReport_accepted (h : NormalAccepted r frame) (ctx : DaemonContext) :
    dispatchNormalReport r ctx = dispatchCommand r ctx := by
  obtain ⟨crc, hcomputed, hcrc⟩ := computedCrc_accepted h
  obtain ⟨hfirst, hsecond⟩ := magic_accepted h
  rw [dispatchNormalReport, if_neg (not_not.mpr h.id), if_neg (by omega), hcomputed]
  change (if crc.toNat ≠ u16 r 12 then _ else dispatchCommand r ctx) = _
  rw [if_neg (not_not.mpr hcrc)]

end Accepted

/-- Whatever fits is built, and read as it was given. -/
theorem exists_normalReport (command status frameType : Nat) (payload : Bytes) (hcommand : command < 2 ^ 16)
    (hstatus : status < 2 ^ 32) (htype : frameType = 1 ∨ frameType = 2) (hpayload : payload.length ≤ 1010) :
    ∃ report, buildNormalReport command payload frameType status = .ok report ∧
      report.length = Protocol.NORMAL_REPORT_SIZE ∧ NormalAccepted report ⟨command, frameType, status, payload⟩ := by
  have hfits : payload.length < 2 ^ 16 := by omega
  have haccepted := normalAccepted_built (List.replicate (1010 - payload.length) 0) hcommand htype hstatus hfits
  refine ⟨_, buildNormalReport_eq hcommand htype hstatus hpayload, ?_, haccepted⟩
  have hhead := length_normalHead command payload frameType status
  have hsize : Protocol.NORMAL_REPORT_SIZE = 1024 := rfl
  simp only [List.length_append, List.length_replicate, length_leBytes, hhead]
  omega

/-- What a builder builds, as the daemon reads it. -/
theorem accepted_of_built {command frameType status : Nat} {payload report : Bytes} (hstatus : status < 2 ^ 32)
    (h : buildNormalReport command payload frameType status = .ok report) :
    report.length = Protocol.NORMAL_REPORT_SIZE ∧ NormalAccepted report ⟨command, frameType, status, payload⟩ := by
  have hchecks := h
  simp only [buildNormalReport, bind_eq_ok, raiseIf_eq_ok, not_not, not_lt, exists_const] at hchecks
  obtain ⟨hcommand, htype, hpayload, -⟩ := hchecks
  have hsize : Protocol.NORMAL_REPORT_SIZE = 1024 := rfl
  obtain ⟨report', hbuilt, hlength, haccepted⟩ :=
    exists_normalReport command status frameType payload (by omega) hstatus htype (by omega)
  obtain rfl : report = report' := Except.ok.inj (h.symm.trans hbuilt)
  exact ⟨hlength, haccepted⟩

theorem accepted_of_upgrade {mode command : Nat} {report : Bytes} (h : buildUpgradeRequest mode command = .ok report) :
    report.length = Protocol.NORMAL_REPORT_SIZE ∧ command / 0x1000 = 4 ∧
      ∃ payload, upgradeFlagPayload mode = .ok payload ∧ NormalAccepted report ⟨command, 1, 0, payload⟩ := by
  obtain ⟨_, htrigger, h₁⟩ := bind_eq_ok.mp h
  obtain ⟨payload, hpayload, hbuilt⟩ := bind_eq_ok.mp h₁
  have hgroup := Bool.of_not_eq_false (raiseIf_eq_ok.mp htrigger)
  rw [isUpgradeTriggerCommand, decide_eq_true_eq] at hgroup
  obtain ⟨hlength, haccepted⟩ := accepted_of_built (by decide) hbuilt
  exact ⟨hlength, hgroup.2, payload, hpayload, haccepted⟩

theorem length_upgradeFlagPayload {mode : Nat} {payload : Bytes} (h : upgradeFlagPayload mode = .ok payload) :
    payload.length = 8 := by
  obtain ⟨_, hmode, hpayload⟩ := bind_eq_ok.mp h
  rw [raiseIf_eq_ok, not_not] at hmode
  rcases hmode with rfl | rfl
  · rw [← Except.ok.inj hpayload]
    rfl
  · rw [← Except.ok.inj hpayload]
    rfl

theorem dispatch_config {r : Bytes} {frame : NormalFrame} (haccepted : NormalAccepted r frame)
    (hgroup : frame.command / 0x1000 = 2) (ctx : DaemonContext) :
    dispatchNormalReport r ctx = dispatchConfig r >>= fun _ => pure ctx := by
  rw [dispatchNormalReport_accepted haccepted, dispatchCommand]
  simp only [haccepted.command, hgroup]

theorem dispatch_upgrade {r : Bytes} {frame : NormalFrame} (haccepted : NormalAccepted r frame)
    (hgroup : frame.command / 0x1000 = 4) (ctx : DaemonContext) :
    dispatchNormalReport r ctx = setUpgradeWordsAndReboot r >>= fun _ => pure ctx := by
  have hcommand : u16 r 3 = frame.command := haccepted.command
  rw [dispatchNormalReport_accepted haccepted]
  simp only [dispatchCommand, hcommand, hgroup]

/-! ## Responses at the host -/

/-- A whole report is parsed as it is and without its ID. -/
theorem parse_of_accepted {report : Bytes} {frame : NormalFrame} (hlength : report.length = Protocol.NORMAL_REPORT_SIZE)
    (h : NormalAccepted report frame) :
    parseNormalReport report = .ok frame ∧ parseNormalReport (report.drop 1) = .ok frame := by
  have hsize : Protocol.NORMAL_REPORT_SIZE = 1024 := rfl
  constructor
  · rw [parseNormalReport_eq_ok, withReportId_of_length (by omega)]
    exact h
  · have hid : report = 1 :: report.drop 1 := by
      have hfirst := getElem?_of_id h.id
      rw [← List.singleton_append, ← Option.toList_some, ← hfirst, ← List.head?_eq_getElem?, ← List.take_one,
        List.take_append_drop]
    have hmagic : slice (report.drop 1) 0 2 = NORMAL_MAGIC := by
      rw [← h.magic, slice, slice, List.drop_zero, List.take_drop]
    rw [parseNormalReport_eq_ok, withReportId, if_pos ⟨by rw [List.length_drop, hlength], hmagic⟩, ← hid]
    exact h

/-- A response without payload has type 0, and its CRC covers the header alone. -/
theorem accepted_bareResponse {command status : Nat} (hcommand : command < 2 ^ 16) (hstatus : status < 2 ^ 32) :
    NormalAccepted (responseReport command status 0 []) ⟨command, 0, status, []⟩ := by
  have hhead := length_normalHead command [] 0 status
  have hreport : responseReport command status 0 [] =
      leFields (normalFields command [] 0 status) ++
        (leBytes 2 (cc2Crc16 (leFields (normalFields command [] 0 status)) 0xFFFF#16).toNat ++ List.replicate 1010 0) :=
    List.append_assoc _ _ _
  have hcrcFits : (cc2Crc16 (leFields (normalFields command [] 0 status)) 0xFFFF#16).toNat < 256 ^ 2 :=
    BitVec.isLt _
  have hfront : slice (responseReport command status 0 []) 0 12 = leFields (normalFields command [] 0 status) := by
    rw [← hhead]
    exact slice_of_append (a := []) hreport rfl (Nat.zero_add _)
  have hslice : slice (responseReport command status 0 []) 0 (0 + (leFields (normalFields command [] 0 status) ++
      []).length) = leFields (normalFields command [] 0 status) ++ [] := by
    rw [List.append_nil, hhead, hfront]
  have hread {k w v : Nat} (hk : (normalFields command [] 0 status)[k]? = some (w, v)) (hv : v < 256 ^ w) :=
    leNat_field_at hslice hk hv
  refine
    { id := hread (k := 0) rfl (by decide)
      magic := ?_
      command := hread (k := 2) rfl hcommand
      type := hread (k := 3) rfl (show 0 < 256 ^ 1 by decide)
      size := hread (k := 4) rfl (show 0 < 256 ^ 2 by decide)
      status := hread (k := 5) rfl hstatus
      payload := slice_eq_nil_of_le le_rfl
      crc := ?_
      fits := ?_ }
  · apply leNat_inj
    · rw [length_slice, hreport, List.length_append, hhead]
      change min 3 _ - 1 = 2
      omega
    · exact hread (k := 1) rfl (by decide)
  · have hstored : u16 (responseReport command status 0 []) 12 =
        (cc2Crc16 (leFields (normalFields command [] 0 status)) 0xFFFF#16).toNat := by
      rw [u16, slice_of_append hreport hhead (by rw [length_leBytes]), leNat_leBytes hcrcFits]
    rw [hstored, crcInput, hfront, if_neg (show ¬(0 = 1 ∨ 0 = 2) by decide), List.append_nil]
    rfl
  · rw [hreport, List.length_append, hhead, List.length_append, length_leBytes, List.length_replicate]
    show 14 ≤ 12 + (2 + 1010)
    decide

theorem length_responseReport {command status : Nat} {payload : Bytes} (hpayload : payload.length ≤ 1010) :
    (responseReport command status 1 payload).length = Protocol.NORMAL_REPORT_SIZE := by
  have hhead (frameType : Nat) : (responseHead command status frameType payload.length).length = 12 :=
    length_normalHead command payload frameType status
  have hsize : NORMAL_REPORT_SIZE = 1024 := rfl
  have hsize' : Protocol.NORMAL_REPORT_SIZE = 1024 := rfl
  have hoff : NORMAL_PAYLOAD_OFF = 14 := rfl
  unfold responseReport
  split
  · simp only [List.length_append, hhead, length_leBytes, List.length_replicate]
    omega
  · next hempty =>
    have hzero : payload.length = 0 := by omega
    have hbare := hhead 0
    rw [hzero] at hbare
    simp only [List.length_append, hbare, length_leBytes, List.length_replicate]
    omega

theorem responseReport_nil (command status responseType : Nat) :
    responseReport command status responseType [] = responseReport command status 0 [] := by
  rw [responseReport, if_neg (by simp), responseReport, if_neg (by simp)]

/-- The type a response goes out with. -/
def responseTypeOf (payload : Bytes) : Nat := if payload = [] then 0 else 1

theorem parseNormalReport_response {command status : Nat} {payload : Bytes} (hcommand : command < 2 ^ 16)
    (hstatus : status < 2 ^ 32) (hpayload : payload.length ≤ 1010) :
    parseNormalReport (responseReport command status 1 payload) =
        .ok ⟨command, responseTypeOf payload, status, payload⟩ ∧
      parseNormalReport ((responseReport command status 1 payload).drop 1) =
        .ok ⟨command, responseTypeOf payload, status, payload⟩ := by
  apply parse_of_accepted (length_responseReport hpayload)
  cases payload with
  | nil =>
    rw [responseReport_nil]
    exact accepted_bareResponse hcommand hstatus
  | cons b payload =>
    have hreport : responseReport command status 1 (b :: payload) =
        leFields (normalFields command (b :: payload) 1 status) ++
          leBytes 2 (crc16Normal (leFields (normalFields command (b :: payload) 1 status) ++ (b :: payload))) ++
            (b :: payload) ++ List.replicate (NORMAL_REPORT_SIZE - NORMAL_PAYLOAD_OFF - (b :: payload).length) 0 := by
      rw [responseReport, if_pos ⟨rfl, by simp⟩]
      simp only [cc2Crc16_append]
      rfl
    rw [hreport]
    exact normalAccepted_built _ hcommand (.inl rfl) hstatus (by omega)

/-! ## What a handler answers -/

def reportOf : Event DaemonOp DaemonReply → Option Bytes
  | ⟨.writeReport report, _⟩ => some report
  | _ => none

/-- The reports the daemon sent. -/
def replies (t : DaemonTrace) : List Bytes := t.filterMap reportOf

@[simp] theorem replies_nil : replies [] = [] := rfl

@[simp] theorem replies_append (t t' : DaemonTrace) : replies (t ++ t') = replies t ++ replies t' :=
  List.filterMap_append

/-- From the events `t` on, a handler ends in `returns`, or in a fault before it has sent anything. -/
abbrev Handles {α : Type} (p : Daemon α) (returns : DaemonTrace → α → Prop) (t : DaemonTrace) : Prop :=
  history.Ensures p returns (fun t _ => replies t = []) t

section Handles

variable {α β : Type} {t : DaemonTrace}

theorem handles_perform {op : DaemonOp} {returns : DaemonTrace → DaemonReply op → Prop} :
    Handles (perform op) returns t ↔ ∀ r, returns (t ++ [⟨op, r⟩]) r := ensures_history

theorem handles_bind {p : Daemon α} {f : α → Daemon β} {returns : DaemonTrace → β → Prop} :
    Handles (p >>= f) returns t ↔ Handles p (fun t a => Handles (f a) returns t) t := ensures_bind

theorem handles_lift {e : Except Fault α} {returns : DaemonTrace → α → Prop} (ht : replies t = [])
    (h : ∀ a, e = .ok a → returns t a) : Handles (lift e) returns t := ensures_ofExcept.mpr ⟨h, fun _ _ => ht⟩

/-- A part of a handler that sends nothing. -/
def Silent (p : Daemon α) : Prop := ∀ t, replies t = [] → Handles p (fun t _ => replies t = []) t

theorem silent_pure (a : α) : Silent (pure a : Daemon α) := fun _ ht => ht

theorem silent_perform {op : DaemonOp} (hop : ∀ r, reportOf ⟨op, r⟩ = none) : Silent (perform op) := by
  intro t ht
  rw [handles_perform]
  intro r
  rw [replies_append, ht, replies, List.filterMap_cons_none (hop r)]
  rfl

theorem silent_lift (e : Except Fault α) : Silent (lift e) := fun _ ht => handles_lift ht fun _ _ => ht

theorem silent_bind {p : Daemon α} {f : α → Daemon β} (hp : Silent p) (hf : ∀ a, Silent (f a)) : Silent (p >>= f) :=
  fun t ht => (hp t ht).then fun t a ht => hf a t ht

/-- A silent part in front of the rest. -/
theorem handles_silent {p : Daemon α} {f : α → Daemon β} {returns : DaemonTrace → β → Prop} (hp : Silent p)
    (ht : replies t = []) (h : ∀ a t, replies t = [] → Handles (f a) returns t) : Handles (p >>= f) returns t :=
  (hp t ht).then fun t a ht => h a t ht

/-- A computation in front of the rest. -/
theorem handles_checked {e : Except Fault α} {f : α → Daemon β} {returns : DaemonTrace → β → Prop}
    (ht : replies t = []) (h : ∀ a, e = .ok a → Handles (f a) returns t) : Handles (lift e >>= f) returns t :=
  handles_bind.mpr (handles_lift ht h)

/-- Sent nothing, or one response to the command with a status of the enumeration. -/
def Answered (command : Nat) (t : DaemonTrace) : Prop :=
  replies t = [] ∨ ∃ status payload, status ≤ ST_UNKNOWN_GROUP ∧ payload.length ≤ 63 ∧
    replies t = [responseReport command status 1 payload]

theorem handles_response {command status responseType : Nat} {payload : Bytes}
    (ht : replies t = []) (hstatus : status ≤ ST_UNKNOWN_GROUP) (hpayload : payload.length ≤ 63)
    (htype : responseType = 1 ∨ payload = []) :
    Handles (sendNormalResponse command status responseType payload) (fun t _ => Answered command t) t := by
  rw [sendNormalResponse, handles_bind, handles_perform]
  intro rc
  refine .inr ⟨status, payload, hstatus, hpayload, ?_⟩
  have hsame : responseReport command status responseType payload = responseReport command status 1 payload := by
    rcases htype with rfl | rfl
    · rfl
    · rw [responseReport_nil, responseReport_nil command status 1]
  rw [replies_append, ht, hsame]
  rfl

theorem handles_bare {command status : Nat} (ht : replies t = []) (hstatus : status ≤ ST_UNKNOWN_GROUP) :
    Handles (sendNormalResponse command status 0 []) (fun t _ => Answered command t) t :=
  handles_response ht hstatus (by simp) (.inr rfl)

theorem handles_bare_then {command status : Nat} {a : α} (ht : replies t = []) (hstatus : status ≤ ST_UNKNOWN_GROUP) :
    Handles (sendNormalResponse command status 0 [] >>= fun _ => pure a) (fun t _ => Answered command t) t :=
  (handles_bare ht hstatus).then fun _ _ h => h

end Handles

/-! ## Every handler -/

section Handlers

variable {t : DaemonTrace}

theorem silent_readFile (path : Bytes) : Silent (perform (.readFile path)) := silent_perform fun _ => rfl

theorem length_lineValue_le {key line value : Bytes} (h : lineValue key line = some value) : value.length ≤ 63 := by
  unfold lineValue at h
  dsimp only at h
  split at h
  · cases h
  · split at h
    · rw [← Option.some.inj h]
      refine (List.takeWhile_sublist _).length_le.trans ?_
      rw [List.length_take]
      exact Nat.min_le_left _ _
    · cases h

theorem length_findValue_le {key value : Bytes} {fuel : Nat} {rest : Bytes} (h : findValue key fuel rest = some value) :
    value.length ≤ 63 := by
  induction fuel generalizing rest with
  | zero => cases h
  | succ fuel ih =>
    cases rest with
    | nil => cases h
    | cons b rest =>
      unfold findValue at h
      dsimp only at h
      cases hline : lineValue key (fgets 128 (b :: rest)).1 with
      | none =>
        rw [hline] at h
        exact ih h
      | some found =>
        rw [hline] at h
        rw [← Option.some.inj h]
        exact length_lineValue_le hline

theorem handles_configGet (command : Nat) (key : Bytes) (ht : replies t = []) :
    Handles (configGet command key) (fun t _ => Answered command t) t := by
  unfold configGet
  apply handles_silent (silent_readFile _) ht
  intro file t ht
  cases file with
  | none => exact handles_bare ht (by decide)
  | some content =>
    dsimp only
    split
    · exact handles_bare ht (by decide)
    · next hvalue => exact handles_response ht (by decide) (length_findValue_le hvalue) (.inl rfl)

theorem handles_configSet (command : Nat) (key r : Bytes) (ht : replies t = []) :
    Handles (configSet command key r) (fun t _ => Answered command t) t := by
  unfold configSet
  apply handles_silent (silent_readFile _) ht
  intro file t ht
  cases file with
  | none => exact handles_bare ht (by decide)
  | some original =>
    apply handles_checked ht
    intro _ _
    split
    · exact handles_bare ht (by decide)
    · apply handles_checked ht
      intro newValue _
      apply handles_checked ht
      intro _ _
      exact handles_silent (silent_perform fun _ => rfl) ht fun _ t ht => handles_bare ht (by decide)

theorem handles_dispatchConfig (r : Bytes) (ht : replies t = []) :
    Handles (dispatchConfig r) (fun t _ => Answered (u16 r 3) t) t := by
  unfold dispatchConfig
  dsimp only
  split
  · exact .inl ht
  · exact handles_configGet _ _ ht
  · exact handles_configSet _ _ _ ht

theorem silent_uploadInit (ctx : DaemonContext) : Silent (uploadInit ctx) := by
  have hbuffer (data : Option Bytes) : Silent (uploadBuffer data) := by
    cases data with
    | none => exact silent_bind (silent_perform fun _ => rfl) fun _ => silent_pure _
    | some data => exact silent_pure _
  refine silent_bind (hbuffer _) fun data => ?_
  cases data with
  | none => exact silent_pure _
  | some data => exact silent_pure _

theorem silent_uploadCommit (ctx : DaemonContext) : Silent (uploadCommit ctx) := by
  have hsystem (command : Bytes) : Silent (perform (.system command)) := silent_perform fun _ => rfl
  unfold uploadCommit
  apply silent_bind (silent_lift _)
  intro _
  dsimp only
  split
  · exact silent_pure _
  · apply silent_bind (hsystem _)
    intro _
    apply silent_bind (hsystem _)
    intro _
    apply silent_bind (silent_perform fun _ => rfl)
    intro opened
    split
    · exact silent_pure _
    · apply silent_bind (silent_lift _)
      intro content
      apply silent_bind (silent_perform fun _ => rfl)
      intro count
      split
      · exact silent_pure _
      · apply silent_bind (hsystem _)
        intro _
        split
        · exact silent_bind (hsystem _) fun _ => silent_bind (hsystem _) fun _ => silent_pure _
        · exact silent_pure _

theorem silent_buildSensorPath (first : Bool) : Silent (buildSensorPath first) := by
  unfold buildSensorPath
  apply silent_bind (silent_readFile _)
  intro file
  cases file with
  | none => exact silent_pure _
  | some content =>
    dsimp only
    split
    · exact silent_pure _
    · split
      · exact silent_pure _
      · exact silent_pure _

theorem handles_dispatchUpload (r : Bytes) (ctx : DaemonContext) (ht : replies t = []) :
    Handles (dispatchUpload r ctx) (fun t _ => Answered (u16 r 3) t) t := by
  unfold dispatchUpload
  dsimp only
  split
  · split
    · exact handles_bare_then ht (by decide)
    · apply handles_silent (silent_uploadInit ctx) ht
      intro ready t ht
      cases ready with
      | none => exact handles_bare_then ht (by decide)
      | some ctx => exact handles_bare_then ht (by decide)
  · split
    · split
      · exact handles_bare_then ht (by decide)
      · apply handles_checked ht
        intro payload _
        apply handles_checked ht
        intro path _
        exact handles_bare_then ht (by decide)
    · split
      · split
        · exact handles_bare_then ht (by decide)
        · apply handles_silent (silent_buildSensorPath _) ht
          intro path t ht
          cases path with
          | none => exact handles_bare_then ht (by decide)
          | some text => exact handles_bare_then ht (by decide)
      · split
        · split
          · exact handles_bare_then ht (by decide)
          · apply handles_checked ht
            intro appended _
            cases appended with
            | none => exact handles_bare_then ht (by decide)
            | some ctx => exact handles_bare_then ht (by decide)
        · split
          · split
            · exact handles_bare_then ht (by decide)
            · apply handles_silent (silent_uploadCommit ctx) ht
              intro committed t ht
              cases committed with
              | true => exact handles_bare_then ht (by decide)
              | false => exact handles_bare_then ht (by decide)
          · exact .inl ht

/-- The answer is out before the camera reboots. -/
theorem handles_setUpgradeWordsAndReboot (r : Bytes) (ht : replies t = []) :
    Handles (setUpgradeWordsAndReboot r) (fun t _ => Answered (u16 r 3) t) t := by
  have hreboot {t : DaemonTrace} {command : Nat} (h : Answered command t) :
      Handles rebootViaShell (fun t _ => Answered command t) t := by
    rw [rebootViaShell, handles_perform]
    intro rc
    rw [Answered, replies_append]
    exact (List.append_nil (replies t)).symm ▸ h
  unfold setUpgradeWordsAndReboot
  apply handles_silent (silent_perform fun _ => rfl) ht
  intro heapCopy t ht
  apply handles_checked ht
  intro payload _
  apply handles_checked ht
  intro _ _
  apply handles_checked ht
  intro _ _
  apply handles_silent (silent_perform fun _ => rfl) ht
  intro rc t ht
  rw [handles_bind]
  unfold answerUpgrade
  split
  · exact ensures_mono (handles_bare ht (by decide)) (fun _ _ => hreboot) fun _ _ hx => hx
  · apply handles_silent (silent_perform fun _ => rfl) ht
    intro _ t ht
    exact ensures_mono (handles_bare ht (by decide)) (fun _ _ => hreboot) fun _ _ hx => hx

theorem handles_versionQuery (command : Nat) (ht : replies t = []) :
    Handles (versionQuery command) (fun t _ => Answered command t) t := by
  unfold versionQuery
  apply handles_silent (silent_readFile _) ht
  intro file t ht
  cases hline : file.bind versionLine with
  | none => exact handles_bare ht (by decide)
  | some line =>
    refine handles_response ht (by decide) ?_ (.inl rfl)
    obtain ⟨content, -, hcontent⟩ := Option.bind_eq_some_iff.mp hline
    unfold versionLine at hcontent
    split at hcontent
    · cases hcontent
    · rw [← Option.some.inj hcontent]
      refine (List.takeWhile_sublist _).length_le.trans ?_
      rw [List.length_take]
      omega

theorem handles_dispatchCommand (r : Bytes) (ctx : DaemonContext) (ht : replies t = []) :
    Handles (dispatchCommand r ctx) (fun t _ => Answered (u16 r 3) t) t := by
  unfold dispatchCommand
  dsimp only
  split
  · split
    · exact (handles_versionQuery _ ht).then fun _ _ h => h
    · exact .inl ht
  · exact .inl ht
  · exact (handles_dispatchConfig r ht).then fun _ _ h => h
  · exact handles_dispatchUpload r ctx ht
  · exact (handles_setUpgradeWordsAndReboot r ht).then fun _ _ h => h
  · exact handles_bare_then ht (by decide)

theorem handles_dispatchNormalReport (r : Bytes) (ctx : DaemonContext) :
    Handles (dispatchNormalReport r ctx) (fun t _ => Answered (u16 r 3) t) [] := by
  unfold dispatchNormalReport
  dsimp only
  split
  · exact handles_bare_then rfl (by decide)
  · split
    · exact handles_bare_then rfl (by decide)
    · apply handles_checked rfl
      intro computed _
      split
      · exact handles_bare_then rfl (by decide)
      · exact handles_dispatchCommand r ctx rfl

end Handlers

/-! ## Both directions -/

/-- What came out of one report: nothing before a fault, and else at most one report, which the host parses. -/
def HandledSoundly (r : Bytes) {σ : Type} (p : Playback DaemonOp DaemonReply Fault DaemonContext σ) : Prop :=
  (∃ fault, p.outcome = .raised fault ∧ replies p.events = []) ∨
    ∃ ctx, p.outcome = .returned ctx ∧ (replies p.events = [] ∨
      ∃ report frame, replies p.events = [report] ∧ report.length = Protocol.NORMAL_REPORT_SIZE ∧
        parseNormalReport report = .ok frame ∧ parseNormalReport (report.drop 1) = .ok frame ∧
        frame.command = u16 r 3 ∧ frame.status ≤ ST_UNKNOWN_GROUP ∧ frame.payload.length ≤ 63)

theorem handledSoundly_play {σ : Type} (answer : σ → (op : DaemonOp) → σ × DaemonReply op) (s : σ) (r : Bytes)
    (ctx : DaemonContext) : HandledSoundly r ((dispatchNormalReport r ctx).play answer s) := by
  rcases ensures_play answer (handles_dispatchNormalReport r ctx) s with
    ⟨ctx', houtcome, hanswered⟩ | ⟨fault, houtcome, hsilent⟩
  · refine .inr ⟨ctx', houtcome, ?_⟩
    rcases hanswered with hsilent | ⟨status, payload, hstatus, hpayload, hreplies⟩
    · exact .inl hsilent
    · have hunknown : ST_UNKNOWN_GROUP = 5 := rfl
      have hparse := parseNormalReport_response (u16_lt r 3) (show status < 2 ^ 32 by omega)
        (show payload.length ≤ 1010 by omega)
      exact .inr ⟨_, _, hreplies, length_responseReport (by omega), hparse.1, hparse.2, rfl, hstatus, hpayload⟩
  · exact .inl ⟨fault, houtcome, hsilent⟩

/-- What the host builds is dispatched by the daemon as the frame it was built from, and what the daemon answers to
any report, in any state and whatever the camera does, is a report that the host parses. -/
theorem hostAndDaemon_agree :
    (∀ (command frameType status : Nat) (payload report : Bytes) (ctx : DaemonContext), status < 2 ^ 32 →
      buildNormalReport command payload frameType status = .ok report →
        dispatchNormalReport report ctx = dispatchCommand report ctx ∧ u16 report 3 = command ∧
          u8 report 5 = frameType ∧ u32 report 8 = status ∧ payloadOf report (u16 report 6) = .ok payload) ∧
    ∀ (r : Bytes) (ctx : DaemonContext) (σ : Type) (answer : σ → (op : DaemonOp) → σ × DaemonReply op) (s : σ),
      HandledSoundly r ((dispatchNormalReport r ctx).play answer s) := by
  constructor
  · intro command frameType status payload report ctx hstatus hbuilt
    obtain ⟨-, haccepted⟩ := accepted_of_built hstatus hbuilt
    exact ⟨dispatchNormalReport_accepted haccepted ctx, haccepted.command, haccepted.type, haccepted.status,
      payloadOf_accepted haccepted⟩
  · exact fun r ctx σ answer s => handledSoundly_play answer s r ctx

/-! ## The catalog -/

/-- The daemon has no handler: it stays silent, or refuses the whole group. -/
def Unhandled (r : Bytes) : Prop :=
  ∀ ctx, dispatchCommand r ctx = pure ctx ∨
    dispatchCommand r ctx = sendNormalResponse (u16 r 3) ST_UNKNOWN_GROUP 0 [] >>= fun _ => pure ctx

def CONFIGURATION_COMMAND_VALUES : List Nat := CONFIGURATION_COMMANDS.flatMap fun pair => [pair.get, pair.set]

def UPLOAD_COMMAND_VALUES : List Nat := UPLOAD_COMMANDS.map (·.command)

theorem describeNormalCommand_eq_none {command : Nat} :
    describeNormalCommand command = none ↔
      command ≠ 0x0001 ∧ command ∉ CONFIGURATION_COMMAND_VALUES ∧ command ∉ UPLOAD_COMMAND_VALUES ∧
        isUpgradeTriggerCommand command = false := by
  have hvalues : NORMAL_COMMAND_CATALOG.map (·.command) =
      [0x0001] ++ CONFIGURATION_COMMAND_VALUES ++ UPLOAD_COMMAND_VALUES ++ [0x4000] := by decide
  have hfind : NORMAL_COMMAND_CATALOG.find? (·.command = command) = none ↔
      command ∉ NORMAL_COMMAND_CATALOG.map (·.command) := by
    simp only [List.find?_eq_none, decide_eq_true_eq, List.mem_map, not_exists, not_and]
  rw [hvalues] at hfind
  simp only [List.mem_append, List.mem_singleton, not_or] at hfind
  unfold describeNormalCommand
  cases hcase : NORMAL_COMMAND_CATALOG.find? (·.command = command) with
  | some entry =>
    have hnot := mt hfind.mpr (by rw [hcase]; exact Option.some_ne_none _)
    refine iff_of_false (Option.some_ne_none _) fun h => hnot ⟨⟨⟨h.1, h.2.1⟩, h.2.2.1⟩, ?_⟩
    rintro rfl
    exact absurd h.2.2.2 (by decide)
  | none =>
    obtain ⟨⟨⟨hversion, hconfig⟩, hupload⟩, -⟩ := hfind.mp hcase
    cases htrigger : isUpgradeTriggerCommand command with
    | true => simp
    | false => simp [hversion, hconfig, hupload]

theorem configKeyFor_eq_none {command : Nat} :
    configKeyFor command = none ↔ command ∉ CONFIGURATION_COMMAND_VALUES := by
  have hvalues : CONFIGURATION_COMMAND_VALUES =
      configBindings.flatMap fun binding => [binding.1, binding.1 + 1] := by decide
  rw [hvalues, configKeyFor, List.findSome?_eq_none_iff]
  simp only [List.mem_flatMap, List.mem_cons, List.not_mem_nil, or_false, not_exists, not_and]
  refine forall₂_congr fun binding _ => ?_
  obtain ⟨getCommand, key⟩ := binding
  dsimp only
  split
  · next h => simp [h]
  · next hget =>
    split
    · next h => simp [h]
    · next hset => simp [hget, hset]

/-- Responses with different statuses are different reports. -/
theorem responseReport_status_ne {command status status' : Nat} (hcommand : command < 2 ^ 16) (hstatus : status < 2 ^ 32)
    (hstatus' : status' < 2 ^ 32) (hne : status ≠ status') :
    responseReport command status 0 [] ≠ responseReport command status' 0 [] := by
  intro h
  have hparse {s : Nat} (hs : s < 2 ^ 32) : parseNormalReport (responseReport command s 0 []) = .ok ⟨command, 0, s, []⟩ := by
    have hsize : (responseReport command s 0 []).length = Protocol.NORMAL_REPORT_SIZE := by
      rw [← responseReport_nil command s 1]
      exact length_responseReport (by simp)
    exact (parse_of_accepted hsize (accepted_bareResponse hcommand hs)).1
  have hsame := hparse hstatus
  rw [h, hparse hstatus'] at hsame
  exact hne (NormalFrame.mk.inj (Except.ok.inj hsame)).2.2.1.symm

/-- The operation a program begins with. -/
def firstOp {α : Type} : Daemon α → Option DaemonOp
  | .act op _ => some op
  | _ => none

/-- In a state an upload command is not meant for, it is answered with success and nothing else. -/
theorem dispatchUpload_wrongState {r : Bytes} (h : u16 r 3 ∈ UPLOAD_COMMAND_VALUES) :
    ∃ ctx, dispatchUpload r ctx = sendNormalResponse (u16 r 3) ST_OK 0 [] >>= fun _ => pure ctx := by
  have hvalues : UPLOAD_COMMAND_VALUES = [0x3000, 0x3110, 0x3111, 0x3112, 0x3113, 0x3114, 0x3115, 0x3116, 0x3120,
      0x3150, 0x31F0, 0x3200, 0x3300] := rfl
  rw [hvalues] at h
  by_cases hinit : u16 r 3 = 0x3000
  · refine ⟨{ DaemonContext.start with uploadState := .ready }, ?_⟩
    rw [dispatchUpload]
    simp only [hinit, if_true]
    rfl
  · refine ⟨.start, ?_⟩
    unfold dispatchUpload
    simp only [List.mem_cons, List.not_mem_nil, or_false, hinit, false_or] at h
    rcases h with h | h | h | h | h | h | h | h | h | h | h | h <;> simp only [h] <;> rfl

theorem dispatchUpload_unknown {r : Bytes} (h : u16 r 3 ∉ UPLOAD_COMMAND_VALUES) (ctx : DaemonContext) :
    dispatchUpload r ctx = pure ctx := by
  have hvalues : UPLOAD_COMMAND_VALUES = [0x3000, 0x3110, 0x3111, 0x3112, 0x3113, 0x3114, 0x3115, 0x3116, 0x3120,
      0x3150, 0x31F0, 0x3200, 0x3300] := rfl
  rw [hvalues] at h
  simp only [List.mem_cons, List.not_mem_nil, or_false, not_or] at h
  have hliteral : commandUsesLiteralPath (u16 r 3) = false := by
    simp [commandUsesLiteralPath, h]
  unfold dispatchUpload
  simp [h, hliteral]

/-- A command is described exactly where the daemon does something about it. -/
theorem describeNormalCommand_eq_none_iff (r : Bytes) : describeNormalCommand (u16 r 3) = none ↔ Unhandled r := by
  have hlt := u16_lt r 3
  rw [describeNormalCommand_eq_none]
  constructor
  · rintro ⟨hversion, hconfig, hupload, htrigger⟩ ctx
    unfold dispatchCommand
    dsimp only
    split
    · exact .inl (if_neg hversion)
    · exact .inl rfl
    · refine .inl ?_
      unfold dispatchConfig
      simp only [configKeyFor_eq_none.mpr hconfig]
      rfl
    · exact .inl (dispatchUpload_unknown hupload ctx)
    · next hgroup =>
      rw [isUpgradeTriggerCommand, decide_eq_false_iff_not, hgroup] at htrigger
      exact absurd ⟨by omega, rfl⟩ htrigger
    · exact .inr rfl
  · intro h
    have hfirst (ctx : DaemonContext) : firstOp (dispatchCommand r ctx) = none ∨
        firstOp (dispatchCommand r ctx) = some (.writeReport (responseReport (u16 r 3) ST_UNKNOWN_GROUP 0 [])) :=
      (h ctx).imp (fun heq => by rw [heq]; rfl) fun heq => by rw [heq]; rfl
    -- each described command shows itself by its first operation, in a context that lets it begin
    have hother (op : DaemonOp) (ctx : DaemonContext)
        (hop : op ≠ .writeReport (responseReport (u16 r 3) ST_UNKNOWN_GROUP 0 []))
        (hstart : firstOp (dispatchCommand r ctx) = some op) : False := by
      have hany := hfirst ctx
      rw [hstart] at hany
      rcases hany with hnone | hsome
      · cases hnone
      · exact hop (Option.some.inj hsome)
    refine ⟨fun hversion => ?_, fun hconfig => ?_, fun hupload => ?_, ?_⟩
    · apply hother (.readFile (ascii "/tmp/version.txt")) .start (by simp)
      simp only [dispatchCommand, hversion]
      rfl
    · apply hother (.readFile UVC_CONFIG) .start (by simp)
      have hgroups : CONFIGURATION_COMMAND_VALUES.all (· / 0x1000 = 2) := by decide
      have hgroup : u16 r 3 / 0x1000 = 2 := of_decide_eq_true (List.all_eq_true.mp hgroups _ hconfig)
      have hkey : configKeyFor (u16 r 3) ≠ none := fun hnone => configKeyFor_eq_none.mp hnone hconfig
      simp only [dispatchCommand, hgroup, dispatchConfig]
      cases hfound : configKeyFor (u16 r 3) with
      | none => exact absurd hfound hkey
      | some found =>
        obtain ⟨key, isSet⟩ := found
        cases isSet with
        | false => rfl
        | true => rfl
    · obtain ⟨ctx, hwrong⟩ := dispatchUpload_wrongState hupload
      apply hother (.writeReport (responseReport (u16 r 3) ST_OK 0 [])) ctx
      · intro hsame
        exact responseReport_status_ne hlt (by decide) (by decide) (by decide) (DaemonOp.writeReport.inj hsame)
      · have hgroups : UPLOAD_COMMAND_VALUES.all (· / 0x1000 = 3) := by decide
        have hgroup : u16 r 3 / 0x1000 = 3 := of_decide_eq_true (List.all_eq_true.mp hgroups _ hupload)
        simp only [dispatchCommand, hgroup]
        rw [hwrong]
        rfl
    · rw [isUpgradeTriggerCommand, decide_eq_false_iff_not]
      rintro ⟨-, hgroup⟩
      apply hother (.malloc (u16 r 6)) .start (by simp)
      simp only [dispatchCommand, hgroup]
      rfl

end Cc2Camera.HidUpdate
