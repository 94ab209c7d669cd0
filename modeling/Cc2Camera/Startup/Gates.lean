import Cc2Camera.Startup.Requests

/-!
# Gates — when `install_startup` may stage, write and remove

The evidence a run holds when it sends the writing script, and the law that every operation of every run
is permitted by what came before it.
-/

open Bytes Exceptions Program

namespace Cc2Camera.Installer

open Host AdbBackup RestorePrepare Startup

/-- The files a call asks for. -/
def requestsOf (functionality : String) : List Managed :=
  ((functionalityOf functionality).map requested).getD []

/-- Somewhere in the trace `p` ran and returned `a`. -/
def Ran {α : Type} (p : Host α) (a : α) (t : Trace) : Prop :=
  ∃ piece, piece <:+: t ∧ Runs p piece (.returned a)

theorem Ran.mono {α : Type} {p : Host α} {a : α} {t t' : Trace} (h : Ran p a t) (ht : t <:+: t') :
    Ran p a t' := by
  obtain ⟨piece, hpiece, hrun⟩ := h
  exact ⟨piece, hpiece.trans ht, hrun⟩

theorem Ran.append_left {α : Type} {p : Host α} {a : α} {t : Trace} (h : Ran p a t) (t' : Trace) :
    Ran p a (t' ++ t) := h.mono (List.suffix_append t' t).isInfix

theorem Ran.append_right {α : Type} {p : Host α} {a : α} {t : Trace} (h : Ran p a t) (t' : Trace) :
    Ran p a (t ++ t') := h.mono (List.prefix_append t t').isInfix

theorem ran_of_runs {α : Type} {p : Host α} {a : α} {t : Trace} (h : Runs p t (.returned a)) : Ran p a t :=
  ⟨t, List.infix_rfl, h⟩

section Evidence

variable (hashlib : Hashlib) (unicode : Unicode) (pyText : PyText) (json : JsonCodec) (adb : AdbClient)
  (backup : Cc2Camera.Path) (file : FileView) (functionality : String) (progress : ReadProgress)

/-- What the checks before the temporary directory found, and where in the trace. -/
structure Preflight where
  preserved : Bytes
  live : Bytes
  manifest : Manifest
  identity : Text
  parts : List MtdPartition
  online : Trace
  camera : Trace
  identification : Trace
  reads : List FlashRead
  clock : Trace
  partitions : Trace
  mounts : Trace

def Preflight.trace (p : Preflight) : Trace :=
  p.online ++ p.camera ++ (p.identification ++ (p.reads.flatMap FlashRead.trace ++ p.clock)) ++ p.partitions ++
    p.mounts

structure Preflight.Holds (p : Preflight) : Prop where
  loaded : loadPreservedBackup hashlib pyText json backup file = .ok p.preserved
  kernel : validatePreparationImage hashlib p.preserved = .ok ()
  available : Runs (adb.ensureAvailable unicode pyText 10) p.online (.returned ())
  single : Runs (singleCamera unicode adb) p.camera (.returned ())
  acquired : Acquired hashlib unicode pyText adb p.live p.manifest p.identification p.reads p.clock
  stable : ThreeEqualReads unicode adb p.manifest.partitions p.live (p.reads.flatMap FlashRead.trace)
  liveKernel : validatePreparationImage hashlib p.live = .ok ()
  unchanged : ∀ range ∈ immutableRanges,
    slice p.live range.1 range.2 = slice p.preserved range.1 range.2
  identified : Runs (adb.identityAndPartitions unicode pyText) p.partitions
    (.returned (p.identity, p.parts))
  erase : ∀ part ∈ p.parts, part.eraseSize = ERASE
  mounted : ∃ printed, Runs (checked unicode adb MOUNT_SCRIPT 30) p.mounts (.returned printed)

/-- Every requested file was found absent or with exactly its content. -/
def PathsChecked (t : Trace) : Prop :=
  ∀ entry ∈ requestsOf functionality, ∃ localPath current,
    Ran (readOptional unicode adb (managedText entry.1) localPath) current t ∧
      (current = none ∨ current = some entry.2)

/-- `stage` is a directory `mktemp` has reported. -/
def StageMade (stage : String) (t : Trace) : Prop :=
  ∃ name, IsStage name ∧ stage = textString (name.map UInt8.toNat) ∧ Ran (makeStage unicode adb) name t

/-- What a run holds when it sends the writing script, in the order it was obtained. -/
structure Evidence where
  preflight : Preflight
  root : String
  name : Bytes
  firstFree : Int
  firstPlan : SpacePlan
  free : Int
  plan : SpacePlan
  inspection : Trace
  firstSpace : Trace
  creation : Trace
  staging : Trace
  camera : Trace
  flush : Trace
  config : Trace
  space : Trace
  existing : Trace
  guards : Trace

/-- The trace up to the creation of the staging directory. -/
def Evidence.opening (e : Evidence) : Trace :=
  e.preflight.trace ++ [⟨.makeTempDir "cc2-hooks-", .ok e.root⟩] ++ e.inspection ++ e.firstSpace ++ e.creation

def Evidence.trace (e : Evidence) : Trace :=
  e.opening ++ e.staging ++ e.camera ++ e.flush ++ e.config ++ e.space ++ e.existing ++ e.guards

/-- The part of the evidence obtained before anything is staged. -/
structure Evidence.Opens (e : Evidence) (stage : String) (payloads : List Managed) : Prop where
  preflight : e.preflight.Holds hashlib unicode pyText json adb backup file
  inspected : Runs (inspect unicode adb e.root (requestsOf functionality).zipIdx) e.inspection
    (.returned payloads)
  checked : PathsChecked unicode adb functionality e.inspection
  firstFree : Runs (Installer.available unicode adb) e.firstSpace (.returned e.firstFree)
  firstPlan : spacePlan (configPart e.preflight.live) payloads e.firstFree = .ok e.firstPlan
  made : Runs (makeStage unicode adb) e.creation (.returned e.name)
  shape : IsStage e.name
  stage : stage = textString (e.name.map UInt8.toNat)

structure Evidence.Holds (e : Evidence) (stage : String) (payloads : List Managed) (blocks : Nat) : Prop where
  opens : e.Opens hashlib unicode pyText json adb backup file functionality stage payloads
  staged : ∀ entry ∈ payloads.zipIdx,
    Ran (pullBytes unicode adb (joinPath stage (toString entry.2)) (joinPath e.root "readback")) entry.1.2
      e.staging
  single : Runs (singleCamera unicode adb) e.camera (.returned ())
  flushed : ∃ printed, Runs (Installer.checked unicode adb SYNC_SCRIPT 30) e.flush (.returned printed)
  config : Runs (pullBytes unicode adb "/dev/mtd5" (joinPath e.root "config-now")) e.config
    (.returned (configPart e.preflight.live))
  free : Runs (Installer.available unicode adb) e.space (.returned e.free)
  plan : spacePlan (configPart e.preflight.live) payloads e.free = .ok e.plan
  budgeted : blocks = guardBlocks e.plan
  existing : Runs (stageExisting unicode adb e.root stage payloads (requestsOf functionality).zipIdx)
    e.existing (.returned ())
  guarded : ∃ printed, Runs (Installer.checked unicode adb
    (guardScript stage (requestsOf functionality) payloads blocks) 30) e.guards (.returned printed)

/-- The operations a run may issue after `before`. -/
inductive Permitted (before : Trace) : Op → Prop where
  | inspect {op : Op} (h : Inspects adb (requestsOf functionality) op) : Permitted before op
  | makeStage (hpaths : PathsChecked unicode adb functionality before) : Permitted before (makeStageOp adb)
  | push {op : Op} {stage : String} (hpaths : PathsChecked unicode adb functionality before)
      (hstage : StageMade unicode adb stage before) (h : Pushes adb stage op) : Permitted before op
  | write {stage : String} {payloads : List Managed} {blocks : Nat} (e : Evidence)
      (he : e.Holds hashlib unicode pyText json adb backup file functionality stage payloads blocks)
      (hbefore : before = e.trace) (hfirst : ∀ event ∈ before, ¬Writes adb (requestsOf functionality) event.op) :
      Permitted before (writeOp adb (requestsOf functionality) stage payloads blocks)
  | removeStage {stage : String} (hstage : StageMade unicode adb stage before) :
      Permitted before (removeStageOp adb stage)

/-- After the writing script every requested file was read back exactly, with mode 755. -/
def ReadBack (t : Trace) : Prop :=
  ∃ before event after, t = before ++ event :: after ∧ Writes adb (requestsOf functionality) event.op ∧
    ∀ entry ∈ requestsOf functionality,
      (∃ printed, Ran (checked unicode adb (finalModeScript (managedText entry.1)) 30) printed after) ∧
        ∃ localPath, Ran (pullBytes unicode adb (managedText entry.1) localPath) entry.2 after

end Evidence

end Cc2Camera.Installer
