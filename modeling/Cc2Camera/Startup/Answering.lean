import Cc2Camera.Adb.Answering
import Cc2Camera.Startup.Installer

/-!
# Answering — what the parts of `install_startup` return when the camera gives the answer they ask for
-/

open Bytes Exceptions Program

namespace Cc2Camera

open Host AdbBackup

/-! ## One camera on ADB and on HID -/

namespace RestorePrepare

def normalCamera : HidDevice :=
  { vendorId := Protocol.NORMAL_VID, productId := Protocol.NORMAL_PID, serialNumber := some "CAM", path := "" }

theorem canReturn_singleCamera : CanReturn (singleCamera utf8 plainAdb) () := by
  refine canReturn_bind (canReturn_run _ _ (ascii "List of devices attached\nCAM\tdevice\n")) ?_
  have hserial : onlySerial (ascii "List of devices attached\nCAM\tdevice\n") = .ok (text "CAM") := by decide +kernel
  refine canReturn_bind (canReturn_lift hserial) ?_
  refine canReturn_bind (canReturn_lift (raiseIf_of_not fun h => h.1 rfl)) ?_
  have hexpected : CanReturn HidTransport.expectedDevices [normalCamera] :=
    canReturn_bind (canReturn_call .hidEnumerateAll [normalCamera]) (canReturn_ret _)
  refine canReturn_bind hexpected (canReturn_lift (raiseIf_of_not ?_))
  decide +kernel

end RestorePrepare

namespace Installer

open Startup

variable {unicode : Unicode} {adb : AdbClient}

/-! ## Confirmed scripts -/

theorem canReturn_checked {script : String} {timeout : ℚ} {output : Bytes} (printed : Bytes)
    (h : confirmed printed = .ok output) : CanReturn (checked unicode adb script timeout) output :=
  canReturn_bind (canReturn_run _ _ printed) (canReturn_lift h)

-- most scripts print nothing but the mark
theorem canReturn_confirmed {script : String} {timeout : ℚ} : CanReturn (checked unicode adb script timeout) [] :=
  canReturn_checked (ascii "CC2_OK\n") (by decide +kernel)

theorem canReturn_pullBytes {remote localPath : String} (data : Bytes) :
    CanReturn (pullBytes unicode adb remote localPath) data :=
  canReturn_bind (canReturn_pull _ _) (canReturn_call (.readBytes localPath) data)

theorem canReturn_available {printed output : Bytes} {free : Int} (hprinted : confirmed printed = .ok output)
    (hfree : availableOf output = .ok free) : CanReturn (available unicode adb) free :=
  canReturn_bind (canReturn_checked printed hprinted) (canReturn_lift hfree)

theorem canReturn_makeStage {printed name : Bytes} (hprinted : confirmed printed = .ok name)
    (hname : IsStage name) : CanReturn (makeStage unicode adb) name :=
  canReturn_bind (canReturn_checked printed hprinted)
    (canReturn_bind (canReturn_lift (raiseIf_of_not (not_not.mpr hname))) (canReturn_ret _))

theorem canReturn_removeStage {stage : String} : CanReturn (removeStage unicode adb stage) () :=
  canReturn_bind (canReturn_run _ _ []) (canReturn_ret ())

/-! ## Managed files -/

theorem canReturn_readOptional_absent {remote localPath : String} :
    CanReturn (readOptional unicode adb remote localPath) none := by
  have hkind : confirmed (ascii "absent\nCC2_OK\n") = .ok (ascii "absent") := by decide +kernel
  refine canReturn_bind (canReturn_checked _ hkind) ?_
  rw [if_pos rfl]
  exact canReturn_ret none

/-- A regular file of mode 755 that reports its size. -/
theorem canReturn_readOptional_file {remote localPath : String} {data size : Bytes} (printed : Bytes)
    (hprinted : confirmed printed = .ok size) (hsize : hookSize remote size = .ok data.length) :
    CanReturn (readOptional unicode adb remote localPath) (some data) := by
  have hkind : confirmed (ascii "file\nCC2_OK\n") = .ok (ascii "file") := by decide +kernel
  have hmode : confirmed (ascii "755\nCC2_OK\n") = .ok (ascii "755") := by decide +kernel
  refine canReturn_bind (canReturn_checked _ hkind) ?_
  rw [if_neg (by decide)]
  refine canReturn_bind (canReturn_lift (raiseIf_of_not (not_not.mpr rfl))) (canReturn_bind ?_ (canReturn_ret _))
  refine canReturn_bind (canReturn_checked _ hprinted) (canReturn_bind (canReturn_lift hsize) ?_)
  refine canReturn_bind (canReturn_checked _ hmode) ?_
  refine canReturn_bind (canReturn_lift (raiseIf_of_not (not_not.mpr rfl))) ?_
  refine canReturn_bind (canReturn_pullBytes data) ?_
  exact canReturn_bind (canReturn_lift (raiseIf_of_not (not_not.mpr rfl))) (canReturn_ret data)

/-- Requested files that are absent or hold their content; the absent ones are to be installed. -/
theorem canReturn_inspect {root : String} (present : Managed → Bool) (entries : List (Managed × Nat))
    (hread : ∀ entry ∈ entries, ∀ localPath, CanReturn
      (readOptional unicode adb (managedText entry.1.1) localPath)
      (if present entry.1 then some entry.1.2 else none)) :
    CanReturn (inspect unicode adb root entries) ((entries.map Prod.fst).filter fun entry => !present entry) := by
  induction entries with
  | nil => exact canReturn_ret []
  | cons entry entries ih =>
    obtain ⟨hfirst, hrest⟩ := List.forall_mem_cons.mp hread
    refine canReturn_bind (hfirst _) (canReturn_bind (canReturn_lift (raiseIf_of_not ?_)) ?_)
    · cases present entry.1 <;> simp
    · refine canReturn_bind (ih hrest) ?_
      rw [List.map_cons, List.filter_cons]
      cases present entry.1 <;> exact canReturn_ret _

theorem canReturn_push {localPath remote : String} {content : Bytes} :
    CanReturn (push unicode adb localPath remote content) () :=
  canReturn_bind (canReturn_call (.writeBytes localPath content) ())
    (canReturn_bind (canReturn_run _ _ []) (canReturn_ret ()))

theorem canReturn_stagePayloads {root stage : String} {entries : List (Managed × Nat)} :
    CanReturn (stagePayloads unicode adb root stage entries) () := by
  induction entries with
  | nil => exact canReturn_ret ()
  | cons entry entries ih =>
    refine canReturn_bind canReturn_push (canReturn_bind (canReturn_pullBytes entry.1.2) ?_)
    exact canReturn_bind (canReturn_lift (raiseIf_of_not (not_not.mpr rfl))) ih

theorem canReturn_stageExisting {root stage : String} {payloads : List Managed} {entries : List (Managed × Nat)} :
    CanReturn (stageExisting unicode adb root stage payloads entries) () := by
  induction entries with
  | nil => exact canReturn_ret ()
  | cons entry entries ih =>
    rw [stageExisting]
    split
    · exact ih
    · exact canReturn_bind canReturn_push ih

theorem canReturn_verifyInstalled {root : String} {entries : List (Managed × Nat)} :
    CanReturn (verifyInstalled unicode adb root entries) () := by
  induction entries with
  | nil => exact canReturn_ret ()
  | cons entry entries ih =>
    refine canReturn_bind canReturn_confirmed (canReturn_bind (canReturn_pullBytes entry.1.2) ?_)
    exact canReturn_bind (canReturn_lift (raiseIf_of_not (not_not.mpr rfl))) ih

/-- With room for the payloads, staging and writing go through. -/
theorem canReturn_installStaged {root stage : String} {live : Bytes} {requests payloads : List Managed}
    {printed output : Bytes} {free : Int} {plan : SpacePlan} (hprinted : confirmed printed = .ok output)
    (hfree : availableOf output = .ok free) (hplan : spacePlan (configPart live) payloads free = .ok plan) :
    CanReturn (installStaged utf8 plainAdb root stage live requests payloads) plan := by
  refine canReturn_bind canReturn_stagePayloads (canReturn_bind RestorePrepare.canReturn_singleCamera ?_)
  refine canReturn_bind canReturn_confirmed (canReturn_bind (canReturn_pullBytes (configPart live)) ?_)
  refine canReturn_bind (canReturn_lift (raiseIf_of_not (not_not.mpr rfl))) ?_
  refine canReturn_bind (canReturn_available hprinted hfree) (canReturn_bind (canReturn_lift hplan) ?_)
  refine canReturn_bind canReturn_stageExisting (canReturn_bind canReturn_confirmed ?_)
  exact canReturn_bind canReturn_confirmed (canReturn_bind canReturn_verifyInstalled (canReturn_ret plan))

end Installer

end Cc2Camera
