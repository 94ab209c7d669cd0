import Cc2Camera.Device.Commands
import Cc2Camera.Device.Host

/-!
# Transport — `hid_transport.py`

An open handle is closed however its body ends.  A write must be taken whole, an empty read is a timeout.
-/

open Bytes Exceptions Program

namespace Cc2Camera.HidTransport

open Protocol Commands Host

/-! ## Handles -/

-- `HidHandle(vid, pid)`
def openHandle (vid pid : Nat) : Host HidHandle := do
  let found : List HidDevice ← call (.hidEnumerate vid pid)
  match found with
  | [info] => do
    let handle : HidHandle := { vid := vid, pid := pid, info := info }
    call (.hidOpenPath handle)
    pure handle
  | _ => .raise (.protocolError ("expected exactly one HID " ++ paddedDigits 16 4 vid ++ ":" ++
      paddedDigits 16 4 pid ++ ", found " ++ toString found.length))

/-- `with HidHandle(vid, pid) as handle: body`. -/
def withHandle (vid pid : Nat) (body : HidHandle → Host Unit) : Host Unit := do
  let handle ← openHandle vid pid
  (body handle).ensuring (call (.hidClose handle))

def writeExact (handle : HidHandle) (report : Bytes) : Host Unit := do
  let count : Int ← call (.hidWrite handle report)
  lift (raiseIf (¬(count = report.length ∨ count = report.length - 1))
    (.protocolError ("short HID write: " ++ toString count ++ " of " ++ toString report.length ++
      " bytes")))

def readReport (handle : HidHandle) (size timeoutMs : Nat) : Host Bytes := do
  let data : Bytes ← call (.hidRead handle size timeoutMs)
  lift (raiseIf (data = []) (.protocolError "timed out waiting for HID response"))
  pure data

/-! ## Restore -/

/-- A progress callback: what it prints after each packet, with the state it keeps between calls. -/
structure Progress where
  State : Type
  start : State
  report : State → Nat → Nat → State × List String

-- `progress=None`
def Progress.silent : Progress := { State := Unit, start := (), report := fun _ _ _ => ((), []) }

-- one report and the check of the reply to it
def bootExchange (handle : HidHandle) (request : Except Exc Bytes) (timeoutMs : Nat)
    (check : Bytes → Except Exc Unit) : Host Unit := do
  let report ← lift request
  writeExact handle report
  let data ← readReport handle BOOT_REPORT_SIZE timeoutMs
  lift (check data)

def metadataReport (plan : UpdatePlan) : Except Exc Bytes := do
  let frame ← buildBootMetadataRequest plan 0
  toBootHidReport frame

def checkMetadataReply (data : Bytes) : Except Exc Unit := do
  let reply ← fromBootHidReport data
  let acknowledged ← decodeBootAck reply
  raiseIf (acknowledged ≠ 0) (.protocolError "unexpected metadata acknowledgement")

def packetReport (sequence : Nat) (chunk : Bytes) : Except Exc Bytes := do
  let frame ← dataFrame sequence chunk
  toBootHidReport frame

def checkPacketReply (plan : UpdatePlan) (sequence : Nat) (data : Bytes) : Except Exc Unit := do
  let reply ← fromBootHidReport data
  if sequence + 1 = plan.packetCount then do
    let accepted ← decodeBootTerminalStatus reply
    raiseIf (accepted = false) (.protocolError "bootloader rejected the whole-image MD5")
  else do
    let acknowledged ← decodeBootAck reply
    raiseIf (acknowledged ≠ sequence + 1)
      (.protocolError ("bootloader requested packet " ++ toString acknowledged ++ " after packet " ++
        toString sequence ++ "; retry is not implemented"))

def sendMetadata (plan : UpdatePlan) (handle : HidHandle) : Host Unit :=
  bootExchange handle (metadataReport plan) 10000 checkMetadataReply

def sendPacket (plan : UpdatePlan) (handle : HidHandle) (sequence : Nat) (chunk : Bytes) : Host Unit :=
  bootExchange handle (packetReport sequence chunk)
    (if sequence + 1 = plan.packetCount then 120000 else 10000) (checkPacketReply plan sequence)

def sendPackets (plan : UpdatePlan) (progress : Progress) (handle : HidHandle) (state : progress.State)
    (sequence : Nat) : List Bytes → Host Unit
  | [] => pure ()
  | chunk :: rest => do
    sendPacket plan handle sequence chunk
    printAll (progress.report state (sequence + 1) plan.packetCount).2
    sendPackets plan progress handle (progress.report state (sequence + 1) plan.packetCount).1
      (sequence + 1) rest

def restoreBlob (blob : Bytes) (plan : UpdatePlan) (progress : Progress) : Host Unit :=
  withHandle BOOT_VID BOOT_HID_PID fun handle => do
    sendMetadata plan handle
    sendPackets plan progress handle progress.start 0 (chunks BOOT_DATA_SIZE blob)

/-! ## Runs that return -/

theorem runs_openHandle {vid pid : Nat} {handle : HidHandle} {t : Trace} :
    Runs (openHandle vid pid) t (.returned handle) ↔
      handle.vid = vid ∧ handle.pid = pid ∧
        t = [⟨.hidEnumerate vid pid, .ok [handle.info]⟩, ⟨.hidOpenPath handle, .ok ()⟩] := by
  rw [openHandle, runs_bind]
  constructor
  · rintro ⟨t₁, found, t₂, hfound, hrest, rfl⟩
    rw [runs_call] at hfound
    subst hfound
    match found, hrest with
    | [], hrest => exact absurd hrest runs_raise
    | [info], hrest =>
      obtain ⟨t₃, u, t₄, hopen, hret, rfl⟩ := runs_bind.mp hrest
      rw [runs_call] at hopen
      obtain ⟨rfl, rfl⟩ := runs_ret.mp hret
      rw [hopen]
      exact ⟨rfl, rfl, rfl⟩
    | _ :: _ :: _, hrest => exact absurd hrest runs_raise
  · rintro ⟨rfl, rfl, rfl⟩
    refine ⟨_, _, [⟨.hidOpenPath handle, .ok ()⟩], runs_call.mpr rfl, ?_, rfl⟩
    exact runs_bind.mpr ⟨_, (), [], runs_call.mpr rfl, runs_ret.mpr ⟨rfl, rfl⟩, rfl⟩

theorem runs_withHandle {vid pid : Nat} {body : HidHandle → Host Unit} {t : Trace} :
    Runs (withHandle vid pid body) t (.returned ()) ↔
      ∃ handle t', handle.vid = vid ∧ handle.pid = pid ∧ Runs (body handle) t' (.returned ()) ∧
        t = [⟨.hidEnumerate vid pid, .ok [handle.info]⟩, ⟨.hidOpenPath handle, .ok ()⟩] ++
          (t' ++ [⟨.hidClose handle, .ok ()⟩]) := by
  rw [withHandle, runs_bind]
  simp only [runs_openHandle, runs_ensuring]
  constructor
  · rintro ⟨_, handle, _, ⟨hvid, hpid, rfl⟩, ⟨t', t'', hbody, hclose, rfl⟩, rfl⟩
    rw [runs_call.mp hclose]
    exact ⟨handle, t', hvid, hpid, hbody, rfl⟩
  · rintro ⟨handle, t', hvid, hpid, hbody, rfl⟩
    exact ⟨_, handle, _, ⟨hvid, hpid, rfl⟩, ⟨t', _, hbody, runs_call.mpr rfl, rfl⟩, rfl⟩

theorem runs_writeExact {handle : HidHandle} {report : Bytes} {u : Unit} {t : Trace} :
    Runs (writeExact handle report) t (.returned u) ↔
      ∃ count : Int, (count = report.length ∨ count = report.length - 1) ∧
        t = [⟨.hidWrite handle report, .ok count⟩] := by
  rw [writeExact, runs_bind]
  simp only [runs_lift, raiseIf_eq_ok, not_not]
  constructor
  · rintro ⟨t₁, count, t₂, hwrite, ⟨hcount, rfl⟩, rfl⟩
    rw [runs_call.mp hwrite]
    exact ⟨count, hcount, rfl⟩
  · rintro ⟨count, hcount, rfl⟩
    exact ⟨_, count, [], runs_call.mpr rfl, ⟨hcount, rfl⟩, rfl⟩

theorem runs_readReport {handle : HidHandle} {size timeoutMs : Nat} {data : Bytes} {t : Trace} :
    Runs (readReport handle size timeoutMs) t (.returned data) ↔
      data ≠ [] ∧ t = [⟨.hidRead handle size timeoutMs, .ok data⟩] := by
  rw [readReport, runs_bind]
  simp only [runs_bind, runs_lift, raiseIf_eq_ok, pure_eq_ret, runs_ret]
  constructor
  · rintro ⟨t₁, data', t₂, hread, ⟨t₃, u, t₄, ⟨hdata, rfl⟩, ⟨rfl, rfl⟩, rfl⟩, rfl⟩
    rw [runs_call.mp hread]
    exact ⟨hdata, rfl⟩
  · rintro ⟨hdata, rfl⟩
    exact ⟨_, data, [], runs_call.mpr rfl, ⟨[], (), [], ⟨hdata, rfl⟩, ⟨rfl, rfl⟩, rfl⟩, rfl⟩

theorem runs_bootExchange {handle : HidHandle} {request : Except Exc Bytes} {timeoutMs : Nat}
    {check : Bytes → Except Exc Unit} {u : Unit} {t : Trace} :
    Runs (bootExchange handle request timeoutMs check) t (.returned u) ↔
      ∃ (report reply : Bytes) (count : Int), request = .ok report ∧
        (count = report.length ∨ count = report.length - 1) ∧ reply ≠ [] ∧ check reply = .ok u ∧
        t = [⟨.hidWrite handle report, .ok count⟩,
          ⟨.hidRead handle BOOT_REPORT_SIZE timeoutMs, .ok reply⟩] := by
  rw [bootExchange]
  simp only [runs_lift, runs_bind, runs_writeExact, runs_readReport]
  constructor
  · rintro ⟨_, report, _, ⟨hrequest, rfl⟩, ⟨_, u', _, ⟨count, hcount, rfl⟩,
      ⟨_, reply, _, ⟨hreply, rfl⟩, ⟨hcheck, rfl⟩, rfl⟩, rfl⟩, rfl⟩
    exact ⟨report, reply, count, hrequest, hcount, hreply, hcheck, rfl⟩
  · rintro ⟨report, reply, count, hrequest, hcount, hreply, hcheck, rfl⟩
    exact ⟨[], report, _, ⟨hrequest, rfl⟩, ⟨_, (), _, ⟨count, hcount, rfl⟩,
      ⟨_, reply, [], ⟨hreply, rfl⟩, ⟨hcheck, rfl⟩, rfl⟩, rfl⟩, rfl⟩

end Cc2Camera.HidTransport
