import Cc2Camera.Restore.Command
import Cc2Camera.Restore.Guarded

/-!
# Stages — how far a restore has come, and what it may do there

A stage is a statement about the whole history: what was read, asked, answered and acknowledged.  Each operation that
changes the camera is licensed by the stage before it.
-/

open Bytes Exceptions Program Shell

namespace Cc2Camera

open Protocol Commands Host HidTransport AdbBackup RestorePrepare

/-! ## Operations -/

section Operations

variable (adb : AdbClient)

/-- Operations that leave the camera as it is. -/
inductive Quiet : Op → Prop where
  | looks {op : Op} (h : Looks adb op) : Quiet op
  | isatty : Quiet .isatty
  | input (prompt : String) : Quiet (.input prompt)
  | monotonic : Quiet .monotonic
  | sleep (seconds : ℚ) : Quiet (.sleep seconds)
  | enumerate (vid pid : Nat) : Quiet (.hidEnumerate vid pid)
  | openPath (handle : HidHandle) : Quiet (.hidOpenPath handle)
  | read (handle : HidHandle) (size timeoutMs : Nat) : Quiet (.hidRead handle size timeoutMs)
  | close (handle : HidHandle) : Quiet (.hidClose handle)

/-- Operations that change the camera: a report over HID, or a shell command that writes RAM. -/
def Mutates (op : Op) : Prop := (∃ handle report, op = .hidWrite handle report) ∨ ramWrites adb op ≠ []

variable {adb}

theorem quiet_reads {op : Op} (h : Reads adb op) : Quiet adb op := .looks (.reads h)

theorem quiet_print (text : String) : Quiet adb (.print text) := quiet_reads (.print text)

theorem not_mutates_of_quiet {op : Op} (h : Quiet adb op) : ¬Mutates adb op := by
  rintro (⟨handle, report, rfl⟩ | hwrites)
  · cases h with
    | looks h => exact not_hidWrite_of_looks h
  · cases h with
    | looks h => exact hwrites (ramWrites_of_looks h)
    | _ => exact hwrites rfl

/-- A report on a handle to one kind of device. -/
def IsReportTo (vid pid : Nat) (op : Op) : Prop :=
  ∃ handle report, op = .hidWrite handle report ∧ handle.vid = vid ∧ handle.pid = pid

end Operations

/-! ## Stages -/

section Stages

variable (hashlib : Hashlib) (unicode : Unicode) (pyText : PyText) (json : JsonCodec) (args : RestoreArgs)
  (file : FileView) (c : Checked)

/-- Everything checked offline, and `RESTORE-CC2` given at a terminal. -/
structure Approved (t : Trace) : Prop where
  loaded : loadPreservedBackup hashlib pyText json args.backup file = .ok c.preserved
  read : ⟨.readBytes args.image.str, .ok c.image⟩ ∈ t
  full : validateFullRestoreImage c.image = .ok ()
  compatible : validateReplacementAgainstBackup c.image c.preserved = .ok ()
  built : buildUpdateBlob hashlib c.image 0 = .ok (c.blob, c.plan)
  kernel : validatePreparationImage hashlib c.preserved = .ok ()
  terminal : ⟨.isatty, .ok true⟩ ∈ t
  phrase : ∃ earlier, t = earlier ++ [⟨.input "Type RESTORE-CC2 to continue: ", .ok "RESTORE-CC2"⟩]
  quiet : ∀ e ∈ t, Quiet args.client e.op

/-- Behind the approval, `prepare_restore` has returned. -/
def Prepared (t : Trace) : Prop :=
  ∃ approval announced p, Approved hashlib pyText json args file c approval ∧
    Runs (prepareRestore hashlib unicode pyText args.client c.preserved readProgress) p (.returned ()) ∧
    Confirmed hashlib unicode pyText args.client c.preserved p ∧ t = approval ++ announced ++ p

/-- The one upgrade request was acknowledged with success. -/
structure Acknowledged (t : Trace) : Prop where
  exchange : ∃ (handle : HidHandle) (request reply : Bytes) (count : Int) (frame : NormalFrame),
    buildUpgradeRequest UPGRADE_MODE_HID 0x4000 = .ok request ∧ handle.vid = NORMAL_VID ∧ handle.pid = NORMAL_PID ∧
      checkReply 0x4000 reply = .ok frame ∧
      t = [⟨.hidEnumerate NORMAL_VID NORMAL_PID, .ok [handle.info]⟩, ⟨.hidOpenPath handle, .ok ()⟩,
        ⟨.hidWrite handle request, .ok count⟩, ⟨.hidRead handle Protocol.NORMAL_REPORT_SIZE 5000, .ok reply⟩,
        ⟨.hidClose handle, .ok ()⟩]

/-- Behind the preparation, `enter_bootloader` has returned. -/
def Entered (t : Trace) : Prop :=
  ∃ prepared announced u, Prepared hashlib unicode pyText json args file c prepared ∧ Acknowledged u ∧
    t = prepared ++ announced ++ u

/-- Behind the entry, the whole image was transferred and accepted. -/
def Transferred (t : Trace) : Prop :=
  ∃ entered waited x, Entered hashlib unicode pyText json args file c entered ∧
    Runs (restoreBlob c.blob c.plan transferProgress) x (.returned ()) ∧ t = entered ++ waited ++ x

/-- Behind the transfer, the start of `adbd` was agreed to. -/
def Consented (t : Trace) : Prop :=
  ∃ transferred between answer, Transferred hashlib unicode pyText json args file c transferred ∧
    ⟨.isatty, .ok true⟩ ∈ between ∧ isAffirmative unicode pyText answer = true ∧
    t = transferred ++ between ++ [⟨.input ADB_QUESTION, .ok answer⟩]

/-- What licenses an operation that changes the camera, by all that was done before it. -/
inductive Licensed (before : Trace) : Op → Prop where
  | ram {approval : Trace} (announced : Trace) (e : Evidence) (h : Approved hashlib pyText json args file c approval)
      (he : e.Holds hashlib unicode pyText args.client c.preserved) (hbefore : before = approval ++ announced ++ e.trace)
      (hlooks : ∀ event ∈ announced ++ e.trace, Quiet args.client event.op) :
      Licensed before (guardedOp args.client e.pointer e.field e.old)
  | upgrade {prepared : Trace} (opening : Trace) {handle : HidHandle} {request : Bytes}
      (h : Prepared hashlib unicode pyText json args file c prepared) (hbefore : before = prepared ++ opening)
      (hfirst : ∀ event ∈ before, ∀ handle report, event.op ≠ .hidWrite handle report)
      (hrequest : buildUpgradeRequest UPGRADE_MODE_HID 0x4000 = .ok request) (hvid : handle.vid = NORMAL_VID)
      (hpid : handle.pid = NORMAL_PID) : Licensed before (.hidWrite handle request)
  | transfer {entered : Trace} {op : Op} (since : Trace) (h : Entered hashlib unicode pyText json args file c entered)
      (hbefore : before = entered ++ since) (hop : IsReportTo BOOT_VID BOOT_HID_PID op) : Licensed before op
  | startAdb {consented : Trace} {handle : HidHandle} {report : Bytes} (since : Trace)
      (h : Consented hashlib unicode pyText json args file c consented) (hbefore : before = consented ++ since)
      (hvid : handle.vid = NORMAL_VID) (hpid : handle.pid = NORMAL_PID) (hgroup : u16 report 3 / 0x1000 = 3) :
      Licensed before (.hidWrite handle report)

/-- What a run may issue. -/
def MayIssue (before : Trace) (op : Op) : Prop :=
  Quiet args.client op ∨ ∃ c, Licensed hashlib unicode pyText json args file c before op

/-- Behind the transfer, three reads in a row returned one image that is the restored one as far as it is boot-stable. -/
def PostVerified (t : Trace) : Prop :=
  ∃ (transferred between identification clock ending : Trace) (reads : List FlashRead) (verified : Bytes)
    (manifest : Manifest), Transferred hashlib unicode pyText json args file c transferred ∧
      t = transferred ++ between ++ (identification ++ (reads.flatMap FlashRead.trace ++ clock)) ++ ending ∧
      Acquired hashlib unicode pyText args.client verified manifest identification reads clock ∧
      ThreeEqualReads unicode args.client manifest.partitions verified (reads.flatMap FlashRead.trace) ∧
      verified.length = AdbBackup.FLASH_SIZE ∧
      slice verified 0 HARDWARE_RECOVERY_CONFIG_START = slice c.image 0 HARDWARE_RECOVERY_CONFIG_START

end Stages

end Cc2Camera
