import Cc2Camera.Lib.World
import Cc2Camera.Device.Protocol
import Mathlib.Data.Rat.Defs

/-!
# Host — what the tool asks of its surroundings

Every call that leaves the process is one operation: the `hid` module, the `adb` executable, files, the
terminal and the clock.  Each may answer or raise, whatever it is.  `wire` is what a run exchanged over HID.
-/

open Program

namespace Cc2Camera

/-- One entry of `hid.enumerate()`. -/
structure HidDevice where
  vendorId : Nat
  productId : Nat
  serialNumber : Option String
  path : String
  deriving DecidableEq, Repr

/-- An open `HidHandle`: the identifiers it was asked for and the device it found. -/
structure HidHandle where
  vid : Nat
  pid : Nat
  info : HidDevice
  deriving DecidableEq, Repr

/-- The result of `subprocess.run(..., capture_output=True)`. -/
structure CompletedProcess where
  returncode : Int
  stdout : Bytes
  stderr : Bytes
  deriving DecidableEq, Repr

inductive Op where
  -- the `hid` module
  | hidEnumerateAll
  | hidEnumerate (vid pid : Nat)
  | hidOpenPath (handle : HidHandle)
  | hidWrite (handle : HidHandle) (report : Bytes)
  | hidRead (handle : HidHandle) (size timeoutMs : Nat)
  | hidClose (handle : HidHandle)
  -- `subprocess.run`, its timeout in seconds
  | runProcess (command : List String) (timeout : ℚ)
  -- files
  | makeTempDir (label : String)
  | removeTempDir (path : String)
  | isFile (path : String)
  | readBytes (path : String)
  | writeBytes (path : String) (content : Bytes)
  -- terminal
  | isatty
  | input (prompt : String)
  | print (text : String)
  -- clock
  | monotonic
  | utcNow
  | sleep (seconds : ℚ)

/-- What an operation answers when it does not raise. -/
abbrev Answer : Op → Type
  | .hidEnumerateAll => List HidDevice
  | .hidEnumerate _ _ => List HidDevice
  | .hidOpenPath _ => Unit
  | .hidWrite _ _ => Int
  | .hidRead _ _ _ => Bytes
  | .hidClose _ => Unit
  | .runProcess _ _ => CompletedProcess
  | .makeTempDir _ => String
  | .removeTempDir _ => Unit
  | .isFile _ => Bool
  | .readBytes _ => Bytes
  | .writeBytes _ _ => Unit
  | .isatty => Bool
  | .input _ => String
  | .print _ => Unit
  | .monotonic => ℚ
  | .utcNow => String
  | .sleep _ => Unit

abbrev Reply (op : Op) : Type := Except Exc (Answer op)

abbrev Host (α : Type) : Type := Program Op Reply Exc α

abbrev Trace : Type := List (Event Op Reply)

namespace Host

/-- Issue an operation; what it raises is raised here. -/
def call (op : Op) : Host (Answer op) := .act op ofExcept

/-- A pure computation of the tool. -/
def lift {α : Type} (e : Except Exc α) : Host α := ofExcept e

theorem runs_call {op : Op} {a : Answer op} {t : Trace} :
    Runs (call op) t (.returned a) ↔ t = [⟨op, .ok a⟩] := by
  rw [call, runs_act]
  constructor
  · rintro ⟨r, t', rfl, h⟩
    obtain ⟨rfl, rfl⟩ := runs_ofExcept.mp h
    rfl
  · rintro rfl
    exact ⟨.ok a, [], rfl, runs_ofExcept.mpr ⟨rfl, rfl⟩⟩

theorem runs_lift {α : Type} {e : Except Exc α} {a : α} {t : Trace} :
    Runs (lift e) t (.returned a) ↔ e = .ok a ∧ t = [] := runs_ofExcept

section Reaches

variable {σ : Type} {w : World Op Reply σ} {s s' : σ}

theorem reaches_call {op : Op} {a : Answer op} :
    w.Reaches s (call op) s' a ↔ w.answers s ⟨op, .ok a⟩ ∧ s' = w.after s ⟨op, .ok a⟩ := by
  rw [call, World.reaches_act]
  simp only [World.reaches_ofExcept]
  constructor
  · rintro ⟨_, hanswers, rfl, rfl⟩
    exact ⟨hanswers, rfl⟩
  · rintro ⟨hanswers, rfl⟩
    exact ⟨.ok a, hanswers, rfl, rfl⟩

theorem reaches_lift {α : Type} {e : Except Exc α} {a : α} : w.Reaches s (lift e) s' a ↔ e = .ok a ∧ s = s' :=
  World.reaches_ofExcept

end Reaches

theorem canReturn_call (op : Op) (a : Answer op) : CanReturn (call op) a := ⟨_, runs_call.mpr rfl⟩

theorem canReturn_lift {α : Type} {e : Except Exc α} {a : α} (h : e = .ok a) : CanReturn (lift e) a :=
  canReturn_ofExcept h

def printAll : List String → Host Unit
  | [] => pure ()
  | text :: rest => do
    call (.print text)
    printAll rest

theorem canReturn_printAll (texts : List String) : CanReturn (printAll texts) () := by
  induction texts with
  | nil => exact canReturn_ret ()
  | cons text rest ih => exact canReturn_bind (canReturn_call (.print text) ()) ih

end Host

/-! ## The wire -/

/-- One report crossing the HID link. -/
inductive Wire where
  | sent (report : Bytes)
  | received (reply : Bytes)
  deriving DecidableEq, Repr

def wireOf : Event Op Reply → Option Wire
  | ⟨.hidWrite _ report, _⟩ => some (.sent report)
  | ⟨.hidRead _ _ _, .ok reply⟩ => some (.received reply)
  | _ => none

def wire (t : Trace) : List Wire := t.filterMap wireOf

@[simp] theorem wire_nil : wire [] = [] := rfl

@[simp] theorem wire_append (t t' : Trace) : wire (t ++ t') = wire t ++ wire t' :=
  List.filterMap_append

theorem wire_printAll {texts : List String} {t : Trace} (h : Runs (Host.printAll texts) t (.returned ())) :
    wire t = [] := by
  induction texts generalizing t with
  | nil =>
    obtain ⟨-, rfl⟩ := runs_ret.mp h
    rfl
  | cons text rest ih =>
    obtain ⟨t₁, u, t₂, hprint, hrest, rfl⟩ := runs_bind.mp h
    rw [Host.runs_call] at hprint
    rw [wire_append, ih hrest, hprint]
    rfl

end Cc2Camera
