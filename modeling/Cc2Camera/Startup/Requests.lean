import Cc2Camera.Adb.Stable
import Cc2Camera.Startup.Installer

/-!
# Requests — every operation `install_startup` can issue, by what it does
-/

open Bytes Exceptions Program

namespace Cc2Camera.Installer

open Host AdbBackup RestorePrepare Startup

/-- Scripts that only look, or flush what others have written. -/
inductive InspectionScript (requests : List Managed) : String → Prop where
  | mounts : InspectionScript requests MOUNT_SCRIPT
  | space : InspectionScript requests STATFS_SCRIPT
  | sync : InspectionScript requests SYNC_SCRIPT
  | kind (remote : String) : InspectionScript requests (kindScript (shlexQuote remote))
  | size (remote : String) : InspectionScript requests (sizeScript (shlexQuote remote))
  | mode (remote : String) : InspectionScript requests (modeScript (shlexQuote remote))
  | guard (stage : String) (payloads : List Managed) (blocks : Nat) :
      InspectionScript requests (guardScript stage requests payloads blocks)
  | final (dest : String) : InspectionScript requests (finalModeScript dest)

section Requests

variable (adb : AdbClient) (requests : List Managed)

def shellOp (script : String) (timeout : ℚ) : Op := .runProcess (adb.base ++ ["shell", script]) timeout

/-- Operations that change nothing on the camera. -/
inductive Inspects : Op → Prop where
  | reads {op : Op} (h : Reads adb op) : Inspects op
  | script {script : String} (h : InspectionScript requests script) : Inspects (shellOp adb (script ++ "\n") 30)

/-- A push into the staging directory. -/
def Pushes (stage : String) (op : Op) : Prop :=
  ∃ localPath name, op = .runProcess (adb.base ++ ["push", localPath, joinPath stage name]) 30

def makeStageOp : Op := shellOp adb (MKTEMP_SCRIPT ++ "\n") 30

def removeStageOp (stage : String) : Op := shellOp adb ("rm -rf " ++ stage) 30

/-- The operation that sends the script writing to the config directory. -/
def writeOp (stage : String) (payloads : List Managed) (blocks : Nat) : Op :=
  shellOp adb (scriptText stage (installScript requests payloads blocks) ++ "\n") 120

def Writes (op : Op) : Prop := ∃ stage payloads blocks, op = writeOp adb requests stage payloads blocks

variable {adb requests}

theorem shellOp_inj {script script' : String} {timeout timeout' : ℚ}
    (h : shellOp adb script timeout = shellOp adb script' timeout') : script = script' ∧ timeout = timeout' := by
  obtain ⟨hargs, htimeout⟩ := Op.runProcess.inj h
  have hscript := List.append_cancel_left hargs
  simp only [List.cons.injEq, true_and, and_true] at hscript
  exact ⟨hscript, htimeout⟩

-- the writing script is the only shell command with two minutes of time
theorem not_writes_shell {script : String} : ¬Writes adb requests (shellOp adb script 30) := by
  rintro ⟨stage, payloads, blocks, h⟩
  exact absurd (shellOp_inj h).2 (by decide)

theorem not_writes_of_head {arg : String} {args : List String} {timeout : ℚ} (harg : arg ≠ "shell") :
    ¬Writes adb requests (.runProcess (adb.base ++ arg :: args) timeout) := by
  rintro ⟨stage, payloads, blocks, h⟩
  have hscript := List.append_cancel_left (Op.runProcess.inj h).1
  exact harg (List.cons.inj hscript).1

theorem not_writes_of_reads {op : Op} (h : Reads adb op) : ¬Writes adb requests op := by
  cases h with
  | devices => exact not_writes_of_head (by decide)
  | state => exact not_writes_of_head (by decide)
  | pull => exact not_writes_of_head (by decide)
  | identity => exact not_writes_shell
  | mtd =>
    rintro ⟨stage, payloads, blocks, h⟩
    have hscript := List.append_cancel_left (Op.runProcess.inj h).1
    simp at hscript
  | _ =>
    rintro ⟨stage, payloads, blocks, h⟩
    exact Op.noConfusion h

theorem not_writes_of_inspects {op : Op} (h : Inspects adb requests op) : ¬Writes adb requests op := by
  cases h with
  | reads h => exact not_writes_of_reads h
  | script h => exact not_writes_shell

theorem not_writes_of_pushes {op : Op} {stage : String} (h : Pushes adb stage op) : ¬Writes adb requests op := by
  obtain ⟨localPath, name, rfl⟩ := h
  exact not_writes_of_head (by decide)

/-! ## What each step may issue -/

variable {unicode : Unicode}

theorem inspects_of_reads {α : Type} {p : Host α} (h : Only (Reads adb) p) : Only (Inspects adb requests) p :=
  only_mono h fun _ => .reads

theorem only_checked {ok : Op → Prop} {script : String} {timeout : ℚ}
    (h : ok (shellOp adb (script ++ "\n") timeout)) : Only ok (checked unicode adb script timeout) :=
  only_bind (only_run h) fun _ => only_lift _

theorem inspects_checked {script : String} (h : InspectionScript requests script) :
    Only (Inspects adb requests) (checked unicode adb script 30) := only_checked (.script h)

theorem inspects_available : Only (Inspects adb requests) (available unicode adb) :=
  only_bind (inspects_checked .space) fun _ => only_lift _

theorem inspects_pullBytes (remote localPath : String) :
    Only (Inspects adb requests) (pullBytes unicode adb remote localPath) :=
  only_bind (inspects_of_reads (reads_pull _ _)) fun _ => only_call (.reads (.readBytes _))

theorem inspects_readHook (remote localPath : String) :
    Only (Inspects adb requests) (readHook unicode adb remote localPath) := by
  refine only_bind (inspects_checked (.size _)) fun reported => only_bind (only_lift _) fun size => ?_
  refine only_bind (inspects_checked (.mode _)) fun mode => only_bind (only_lift _) fun _ => ?_
  refine only_bind (inspects_pullBytes _ _) fun data => only_bind (only_lift _) fun _ => ?_
  exact only_pure _

theorem inspects_readOptional (remote localPath : String) :
    Only (Inspects adb requests) (readOptional unicode adb remote localPath) := by
  refine only_bind (inspects_checked (.kind _)) fun kind => only_ite (only_pure _) ?_
  refine only_bind (only_lift _) fun _ => only_bind (inspects_readHook _ _) fun data => ?_
  exact only_pure _

theorem inspects_inspect (root : String) (entries : List (Managed × Nat)) :
    Only (Inspects adb requests) (inspect unicode adb root entries) := by
  induction entries with
  | nil => exact only_pure _
  | cons entry entries ih =>
    refine only_bind (inspects_readOptional _ _) fun current => only_bind (only_lift _) fun _ => ?_
    exact only_bind ih fun others => only_pure _

theorem inspects_verifyInstalled (root : String) (entries : List (Managed × Nat)) :
    Only (Inspects adb requests) (verifyInstalled unicode adb root entries) := by
  induction entries with
  | nil => exact only_pure _
  | cons entry entries ih =>
    refine only_bind (inspects_checked (.final _)) fun _ => ?_
    exact only_bind (inspects_pullBytes _ _) fun back => only_bind (only_lift _) fun _ => ih

/-- Inspections, or pushes into the staging directory. -/
def Stages (adb : AdbClient) (requests : List Managed) (stage : String) (op : Op) : Prop :=
  Inspects adb requests op ∨ Pushes adb stage op

theorem not_writes_of_stages {op : Op} {stage : String} (h : Stages adb requests stage op) :
    ¬Writes adb requests op := by
  rcases h with hinspects | hpushes
  · exact not_writes_of_inspects hinspects
  · exact not_writes_of_pushes hpushes

theorem stages_push (localPath stage name : String) (content : Bytes) :
    Only (Stages adb requests stage) (push unicode adb localPath (joinPath stage name) content) := by
  refine only_bind (only_call (.inl (.reads (.writeBytes _ _)))) fun _ => ?_
  exact only_bind (only_run (.inr ⟨localPath, name, rfl⟩)) fun _ => only_pure _

theorem stages_stagePayloads (root stage : String) (entries : List (Managed × Nat)) :
    Only (Stages adb requests stage) (stagePayloads unicode adb root stage entries) := by
  induction entries with
  | nil => exact only_pure _
  | cons entry entries ih =>
    refine only_bind (stages_push _ _ _ _) fun _ => ?_
    refine only_bind (only_mono (inspects_pullBytes _ _) fun _ => .inl) fun back => ?_
    exact only_bind (only_lift _) fun _ => ih

theorem stages_stageExisting (root stage : String) (payloads : List Managed) (entries : List (Managed × Nat)) :
    Only (Stages adb requests stage) (stageExisting unicode adb root stage payloads entries) := by
  induction entries with
  | nil => exact only_pure _
  | cons entry entries ih =>
    exact only_ite ih (only_bind (stages_push _ _ _ _) fun _ => ih)

end Requests

end Cc2Camera.Installer
