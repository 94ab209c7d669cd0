import Cc2Camera.Restore.Camera

/-!
# Reads — the operations that change nothing on the camera

What `AdbClient`, `acquire_stable` and `_single_camera` may issue, and what their runs say when they return.
-/

open Exceptions Program

namespace Cc2Camera

open Host AdbBackup RestorePrepare

/-- Every operation of `p` satisfies `ok`. -/
abbrev Only {α : Type} (ok : Op → Prop) (p : Host α) : Prop := p.Uses ok fun _ => True

section Only

variable {α β : Type} {ok ok' : Op → Prop}

theorem only_pure (a : α) : Only ok (pure a) := trivial

theorem only_lift (e : Except Exc α) : Only ok (lift e) := uses_ofExcept fun _ _ => trivial

theorem only_call {op : Op} (h : ok op) : Only ok (call op) :=
  ⟨h, fun _ => uses_ofExcept fun _ _ => trivial⟩

theorem only_bind {p : Host α} {f : α → Host β} (hp : Only ok p) (hf : ∀ a, Only ok (f a)) :
    Only ok (p >>= f) := uses_bind hp hf

theorem only_ite {c : Prop} [Decidable c] {p q : Host α} (hp : Only ok p) (hq : Only ok q) :
    Only ok (if c then p else q) := by
  by_cases h : c
  · rw [if_pos h]
    exact hp
  · rw [if_neg h]
    exact hq

theorem only_mono {p : Host α} (hp : Only ok p) (h : ∀ op, ok op → ok' op) : Only ok' p :=
  uses_mono hp h fun _ _ => trivial

theorem only_printAll (h : ∀ text, ok (.print text)) (texts : List String) : Only ok (printAll texts) := by
  induction texts with
  | nil => exact only_pure ()
  | cons text texts ih => exact only_bind (only_call (h text)) fun _ => ih

end Only

/-! ## ADB -/

section Requests

variable {unicode : Unicode} {pyText : PyText} {adb : AdbClient} {ok : Op → Prop}

theorem only_process {command : List String} {timeout : ℚ} {timedOut : String}
    (h : ok (.runProcess command timeout)) : Only ok (adb.process command timeout timedOut) := by
  refine uses_handle (only_call h) fun x _ => ?_
  have hraise (x : Exc) : Only ok (.raise x : Host CompletedProcess) := trivial
  exact only_ite (hraise _) (only_ite (hraise _) (hraise _))

theorem only_run {args : List String} {timeout : ℚ} (h : ok (.runProcess (adb.base ++ args) timeout)) :
    Only ok (adb.run unicode args timeout) :=
  only_bind (only_process h) fun _ => only_bind (only_lift _) fun _ => only_pure _

theorem only_pull {remote localPath : String}
    (h : ok (.runProcess (adb.base ++ ["pull", remote, localPath]) 120)) (hfile : ok (.isFile localPath)) :
    Only ok (adb.pull unicode remote localPath) :=
  only_bind (only_run h) fun _ => only_bind (only_call hfile) fun _ => only_lift _

/-- Operations that change nothing on the camera. -/
inductive Reads (adb : AdbClient) : Op → Prop where
  | makeTempDir (label : String) : Reads adb (.makeTempDir label)
  | removeTempDir (path : String) : Reads adb (.removeTempDir path)
  | isFile (path : String) : Reads adb (.isFile path)
  | readBytes (path : String) : Reads adb (.readBytes path)
  | writeBytes (path : String) (content : Bytes) : Reads adb (.writeBytes path content)
  | print (text : String) : Reads adb (.print text)
  | utcNow : Reads adb .utcNow
  | enumerate : Reads adb .hidEnumerateAll
  | devices : Reads adb (.runProcess (adb.base ++ ["devices"]) 30)
  | state (timeout : ℚ) : Reads adb (.runProcess (adb.base ++ ["get-state"]) timeout)
  | identity : Reads adb (.runProcess (adb.base ++ ["shell", "id"]) 30)
  | mtd : Reads adb (.runProcess (adb.base ++ ["shell", "cat", "/proc/mtd"]) 30)
  | pull (remote localPath : String) : Reads adb (.runProcess (adb.base ++ ["pull", remote, localPath]) 120)

theorem reads_pull (remote localPath : String) : Only (Reads adb) (adb.pull unicode remote localPath) :=
  only_pull (.pull remote localPath) (.isFile localPath)

theorem reads_ensureAvailable (timeout : ℚ) :
    Only (Reads adb) (adb.ensureAvailable unicode pyText timeout) := by
  refine only_bind (only_lift _) fun _ => only_bind (only_process (.state timeout)) fun result => ?_
  exact only_lift _

theorem reads_identityAndPartitions : Only (Reads adb) (adb.identityAndPartitions unicode pyText) := by
  refine only_bind (reads_ensureAvailable 10) fun _ => only_bind (only_run .identity) fun output => ?_
  refine only_bind (only_lift _) fun _ => only_bind (only_run .mtd) fun listing => ?_
  refine only_bind (only_lift _) fun mtd => only_bind (only_lift _) fun parts => ?_
  exact only_bind (only_lift _) fun _ => only_pure _

theorem reads_readPartitions (directory : String) (parts : List MtdPartition) :
    Only (Reads adb) (adb.readPartitions unicode directory parts) := by
  induction parts with
  | nil => exact only_pure _
  | cons part parts ih =>
    have hpart : Only (Reads adb) (adb.readPartition unicode directory part) := by
      refine only_bind (reads_pull _ _) fun _ => only_bind (only_call (.readBytes _)) fun data => ?_
      exact only_bind (only_lift _) fun _ => only_pure _
    exact only_bind hpart fun data => only_bind ih fun rest => only_pure _

theorem reads_readFlashOnce (parts : List MtdPartition) :
    Only (Reads adb) (adb.readFlashOnce unicode parts) := by
  refine only_bind (only_call (.makeTempDir _)) fun directory => ?_
  refine only_bind (uses_ensuring (reads_readPartitions directory parts) (only_call (.removeTempDir _))) ?_
  exact fun image => only_bind (only_lift _) fun _ => only_pure _

theorem reads_acquireLoop (parts : List MtdPartition) (progress : ReadProgress) (remaining attempts
    consecutive : Nat) (previous : Option Bytes) :
    Only (Reads adb) (adb.acquireLoop unicode parts progress remaining attempts consecutive previous) := by
  induction remaining generalizing attempts consecutive previous with
  | zero => exact only_pure _
  | succ remaining ih =>
    refine only_bind (reads_readFlashOnce parts) fun current => ?_
    refine only_bind (only_printAll (fun text => .print text) _) fun _ => ?_
    exact only_ite (only_pure _) (ih _ _ _)

theorem reads_acquireStable (hashlib : Hashlib) (progress : ReadProgress) :
    Only (Reads adb) (acquireStable hashlib unicode pyText adb progress) := by
  refine only_bind reads_identityAndPartitions fun found => ?_
  refine only_bind (reads_acquireLoop _ _ _ _ _ _) fun outcome => ?_
  refine only_bind (only_lift _) fun accepted => only_bind (only_call .utcNow) fun createdUtc => ?_
  exact only_bind (only_lift _) fun bootloader => only_pure _

theorem reads_singleCamera : Only (Reads adb) (singleCamera unicode adb) := by
  refine only_bind (only_run .devices) fun listing => only_bind (only_lift _) fun serial => ?_
  refine only_bind (only_lift _) fun _ => ?_
  refine only_bind (only_bind (only_call .enumerate) fun items => only_pure _) fun hid => ?_
  exact only_lift _

end Requests

end Cc2Camera
