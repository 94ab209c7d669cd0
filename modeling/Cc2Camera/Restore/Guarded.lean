import Cc2Camera.Backup.Published
import Cc2Camera.Restore.CommandLine
import Cc2Camera.Startup.Gated

/-!
# Guarded — when `prepare_restore` writes RAM, and what a normal return says

Everything before the guarded command only looks, so the history of that command is exactly the sequence of
checks that passed; everything after it only looks again.
-/

open Bytes Exceptions Program Shell

namespace Cc2Camera.RestorePrepare

open Host AdbBackup
open Installer (Ran ran_of_runs isByteSpace)
open StartupPayloads (hex8)

/-! ## Operations -/

section Operations

variable (adb : AdbClient)

/-- The command line `adb shell` hands to the camera. -/
def remoteLine : Op → Option String
  | .runProcess command _ =>
    let args := command.drop adb.base.length
    if args.head? = some "shell" then some (" ".intercalate args.tail) else none
  | _ => none

/-- The RAM writes of the shell command an operation sends: address, width and value of each. -/
def ramWrites (op : Op) : List (List Word) := ((remoteLine adb op).map ramWritesOf).getD []

def shellOp (args : List String) : Op := .runProcess (adb.base ++ "shell" :: args) 30

/-- Operations that neither write RAM nor send a report. -/
inductive Looks : Op → Prop where
  | reads {op : Op} (h : Reads adb op) : Looks op
  | kallsyms : Looks (shellOp adb ["cat", "/proc/kallsyms"])
  | word (address : Nat) : Looks (shellOp adb ["busybox", "devmem", "0x" ++ hex8 address, "32"])
  | sync : Looks (shellOp adb ["sync && echo CC2_SYNC_OK"])

/-- The operation that sends the guarded command. -/
def guardedOp (pointer field old : Nat) : Op := shellOp adb [guardedCommand pointer field old]

variable {adb}

theorem remoteLine_args (arg : String) (args : List String) (timeout : ℚ) :
    remoteLine adb (.runProcess (adb.base ++ arg :: args) timeout) =
      if arg = "shell" then some (" ".intercalate args) else none := by
  unfold remoteLine
  dsimp only
  rw [List.drop_left, List.head?_cons, List.tail_cons]
  exact if_congr Option.some_inj rfl rfl

theorem ramWrites_shellOp (args : List String) :
    ramWrites adb (shellOp adb args) = ramWritesOf (" ".intercalate args) := by
  rw [ramWrites, shellOp, remoteLine_args, if_pos rfl]
  rfl

theorem ramWrites_guardedOp (pointer field old : Nat) :
    ramWrites adb (guardedOp adb pointer field old) =
      if old ≠ 0x1000 then [[("0x" ++ hex8 field).toList, "32".toList, "0x00001000".toList]] else [] := by
  rw [guardedOp, ramWrites_shellOp, String.intercalate_singleton, ramWritesOf_guardedCommand]

-- a command of `adb` other than `shell`
theorem ramWrites_of_head {arg : String} {args : List String} {timeout : ℚ} (harg : arg ≠ "shell") :
    ramWrites adb (.runProcess (adb.base ++ arg :: args) timeout) = [] := by
  rw [ramWrites, remoteLine_args, if_neg harg]
  rfl

theorem ramWritesOf_word (address : Nat) :
    ramWritesOf (" ".intercalate ["busybox", "devmem", "0x" ++ hex8 address, "32"]) = [] := by
  have haddress := prefixed_subset address
  have hblank : ' ' ∉ ("0x" ++ hex8 address).toList := notMem_of_hex haddress (by decide)
  have hwords : ∀ w ∈ ["busybox", "devmem", "0x" ++ hex8 address, "32"], ' ' ∉ w.toList := by
    simp only [List.forall_mem_cons, List.not_mem_nil, false_implies, implies_true, and_true]
    exact ⟨by decide, by decide, hblank, by decide⟩
  have hend : ')' ∉ ("0x" ++ hex8 address).toList := notMem_of_hex haddress (by decide)
  have hskip : ¬"devmem".toList <:+ "busybox".toList ∧ ¬"devmem".toList <:+ "32".toList := by decide
  have hlast : "32".toList ∉ controlOperators ∧ ')' ∉ "32".toList := by decide
  have hdevmem : "devmem".toList <:+ "devmem".toList := List.suffix_rfl
  rw [ramWritesOf, words_intercalate (List.cons_ne_nil _ _) hwords]
  simp only [List.map_cons, List.map_nil, callsOf, operands, hskip, hlast, hdevmem, not_devmem_of_hex haddress,
    not_control_of_hex haddress, hend, if_true, if_false]
  rfl

theorem ramWrites_of_looks {op : Op} (h : Looks adb op) : ramWrites adb op = [] := by
  cases h with
  | reads h =>
    cases h with
    | devices => exact ramWrites_of_head (by decide)
    | state => exact ramWrites_of_head (by decide)
    | pull => exact ramWrites_of_head (by decide)
    | identity => exact (ramWrites_shellOp ["id"]).trans (by decide)
    | mtd => exact (ramWrites_shellOp ["cat", "/proc/mtd"]).trans (by decide)
    | _ => rfl
  | kallsyms => exact (ramWrites_shellOp _).trans (by decide)
  | word address => exact (ramWrites_shellOp _).trans (ramWritesOf_word address)
  | sync => exact (ramWrites_shellOp _).trans (by decide)

theorem not_hidWrite_of_looks {handle : HidHandle} {report : Bytes} : ¬Looks adb (.hidWrite handle report) := by
  intro h
  cases h with
  | reads h => cases h

end Operations

/-! ## The evidence -/

section Evidence

variable (hashlib : Hashlib) (unicode : Unicode) (pyText : PyText) (adb : AdbClient) (preserved : Bytes)

/-- What the checks of the camera and its flash found, and where in the trace. -/
structure CameraChecks where
  live : Bytes
  manifest : Manifest
  identity : Text
  parts : List MtdPartition
  online : Trace
  camera : Trace
  acquisition : Trace
  partitions : Trace

def CameraChecks.trace (c : CameraChecks) : Trace := c.online ++ c.camera ++ c.acquisition ++ c.partitions

structure CameraChecks.Hold (c : CameraChecks) : Prop where
  kernel : validatePreparationImage hashlib preserved = .ok ()
  available : Runs (adb.ensureAvailable unicode pyText 10) c.online (.returned ())
  single : Runs (singleCamera unicode adb) c.camera (.returned ())
  stable : ∃ identification reads clock,
    c.acquisition = identification ++ (reads.flatMap FlashRead.trace ++ clock) ∧
      Acquired hashlib unicode pyText adb c.live c.manifest identification reads clock ∧
      ThreeEqualReads unicode adb c.manifest.partitions c.live (reads.flatMap FlashRead.trace)
  liveKernel : validatePreparationImage hashlib c.live = .ok ()
  unchanged : ∀ range ∈ immutableRanges, slice c.live range.1 range.2 = slice preserved range.1 range.2
  identified : Runs (adb.identityAndPartitions unicode pyText) c.partitions (.returned (c.identity, c.parts))
  erase : ∀ part ∈ c.parts, part.eraseSize = 0x4000

/-- Everything a run holds when it sends the guarded command, in the order it was obtained. -/
structure Evidence where
  checks : CameraChecks
  symbols : Bytes
  pointer : Nat
  field : Nat
  old : Nat
  kallsyms : Trace
  instructions : Trace
  pointerRead : Trace
  valueRead : Trace
  flush : Trace
  cameraAgain : Trace

def Evidence.trace (e : Evidence) : Trace :=
  e.checks.trace ++ e.kallsyms ++ e.instructions ++ e.pointerRead ++ e.valueRead ++ e.flush ++ e.cameraAgain

structure Evidence.Holds (e : Evidence) : Prop where
  checks : e.checks.Hold hashlib unicode pyText adb preserved
  listed : Runs (adb.shell unicode ["cat", "/proc/kallsyms"] 30) e.kallsyms (.returned e.symbols)
  unique : ∀ symbol ∈ SYMBOLS, symbolMatches symbol.1 (asciiReplace e.symbols) = [text (hex8 symbol.2)]
  words : ∀ i ∈ INSTRUCTIONS, Ran (word unicode adb i.1) i.2 e.instructions
  pointed : Runs (word unicode adb POINTER_PHYSICAL) e.pointerRead (.returned e.pointer)
  aligned : e.pointer % 4 = 0
  inRange : 0x80450000 ≤ e.pointer ∧ e.pointer ≤ 0x83FFFD9C
  address : e.field = e.pointer - 0x80000000 + 0x10
  valued : Runs (word unicode adb e.field) e.valueRead (.returned e.old)
  known : e.old = 0x4000 ∨ e.old = 0x1000
  synced : ∃ printed, Runs (adb.shell unicode ["sync && echo CC2_SYNC_OK"] 30) e.flush (.returned printed) ∧
    stripped isByteSpace printed = ascii "CC2_SYNC_OK"
  single : Runs (singleCamera unicode adb) e.cameraAgain (.returned ())

/-- The operations a run may issue after `before`. -/
inductive Permitted (before : Trace) : Op → Prop where
  | look {op : Op} (h : Looks adb op) : Permitted before op
  | guarded (e : Evidence) (he : e.Holds hashlib unicode pyText adb preserved) (hbefore : before = e.trace)
      (hlooks : ∀ event ∈ before, Looks adb event.op) : Permitted before (guardedOp adb e.pointer e.field e.old)

/-- The guarded command confirmed the new value, and later reads found the same pointer and the new value. -/
def Confirmed (t : Trace) : Prop :=
  ∃ (e : Evidence) (command pointerNow value : Trace) (printed : Bytes),
    e.Holds hashlib unicode pyText adb preserved ∧ t = e.trace ++ command ++ pointerNow ++ value ∧
      Runs (adb.shell unicode [guardedCommand e.pointer e.field e.old] 30) command (.returned printed) ∧
      stripped isByteSpace (printed.filter (· ≠ 13)) = ascii "0x00001000\nCC2_ERASE_READY" ∧
      Runs (word unicode adb POINTER_PHYSICAL) pointerNow (.returned e.pointer) ∧
      Runs (word unicode adb e.field) value (.returned 0x1000)

end Evidence

/-! ## The law -/

section Law

variable {hashlib : Hashlib} {unicode : Unicode} {pyText : PyText} {adb : AdbClient} {preserved : Bytes}
  {progress : ReadProgress}

theorem looks_shell {args : List String} (h : Looks adb (shellOp adb args)) :
    Only (Looks adb) (adb.shell unicode args 30) := only_run h

theorem looks_word (address : Nat) : Only (Looks adb) (word unicode adb address) :=
  only_bind (looks_shell (.word address)) fun _ => only_lift _

theorem looks_of_reads {α : Type} {p : Host α} (h : Only (Reads adb) p) : Only (Looks adb) p :=
  only_mono h fun _ => .reads

theorem looks_checkInstructions (entries : List (Nat × Nat)) :
    Only (Looks adb) (checkInstructions unicode adb entries) := by
  induction entries with
  | nil => exact only_pure _
  | cons entry entries ih =>
    exact only_bind (looks_word _) fun found => only_bind (only_lift _) fun _ => ih

theorem checkInstructions_returned {entries : List (Nat × Nat)} {t : Trace}
    (h : Runs (checkInstructions unicode adb entries) t (.returned ())) :
    ∀ i ∈ entries, Ran (word unicode adb i.1) i.2 t := by
  induction entries generalizing t with
  | nil => exact nofun
  | cons entry entries ih =>
    obtain ⟨t₁, found, t₂, hword, h₁, rfl⟩ := runs_bind.mp h
    obtain ⟨t₃, u, t₄, hguard, h₂, rfl⟩ := runs_bind.mp h₁
    obtain ⟨hsame, rfl⟩ := runs_lift.mp hguard
    obtain rfl : found = entry.2 := not_not.mp (raiseIf_eq_ok.mp hsame)
    refine List.forall_mem_cons.mpr ⟨(ran_of_runs hword).append_right _, fun i hi => ?_⟩
    exact ((ih h₂ i hi).append_left _).append_left _

theorem checkSymbols_eq_ok {symbols : Text} {entries : List (String × Nat)} {u : Unit}
    (h : checkSymbols symbols entries = .ok u) :
    ∀ symbol ∈ entries, symbolMatches symbol.1 symbols = [text (hex8 symbol.2)] := by
  induction entries with
  | nil => exact nofun
  | cons entry entries ih =>
    obtain ⟨_, hmatch, hrest⟩ := bind_eq_ok.mp h
    exact List.forall_mem_cons.mpr ⟨not_not.mp (raiseIf_eq_ok.mp hmatch), ih hrest⟩

theorem fieldAddress_eq_ok {pointer field : Nat} (h : fieldAddress pointer = .ok field) :
    pointer % 4 = 0 ∧ (0x80450000 ≤ pointer ∧ pointer ≤ 0x83FFFD9C) ∧ field = pointer - 0x80000000 + 0x10 := by
  obtain ⟨_, hguard, hfield⟩ := bind_eq_ok.mp h
  have hnot := raiseIf_eq_ok.mp hguard
  have hvalue : pointer - 0x80000000 + ERASE_OFFSET = field := Except.ok.inj hfield
  rw [ERASE_OFFSET] at hvalue
  omega

/-- Permission, for the call at hand. -/
abbrev permitted (hashlib : Hashlib) (unicode : Unicode) (pyText : PyText) (adb : AdbClient)
    (preserved : Bytes) : Trace → Op → Prop :=
  Permitted hashlib unicode pyText adb preserved

theorem permitted_looks {h : Trace} (t : Trace) (op : Op) (hop : Looks adb op) :
    permitted hashlib unicode pyText adb preserved (h ++ t) op := .look hop

-- what `adb shell` does with the answer to its only operation
theorem shell_once (unicode : Unicode) (adb : AdbClient) (args : List String) : ∃ k,
    adb.shell unicode args 30 = .act (shellOp adb args) k ∧ ∀ r, (k r).Uses (fun _ => False) fun _ => True := by
  refine ⟨_, rfl, fun r => ?_⟩
  refine uses_bind (uses_handle (uses_ofExcept fun _ _ => trivial) fun x _ => ?_) fun result => ?_
  · exact only_ite trivial (only_ite trivial trivial)
  · exact only_bind (only_lift _) fun _ => only_pure _

theorem wp_writeAndVerify {e : Evidence} (he : e.Holds hashlib unicode pyText adb preserved)
    (hlooks : ∀ event ∈ e.trace, Looks adb event.op) :
    (writeAndVerify unicode adb e.pointer e.field e.old).wp (permitted hashlib unicode pyText adb preserved)
      (fun h _ => Confirmed hashlib unicode pyText adb preserved h) (fun _ _ => True) e.trace := by
  unfold writeAndVerify
  obtain ⟨k, hshell, hk⟩ := shell_once unicode adb [guardedCommand e.pointer e.field e.old]
  rw [hshell]
  refine wp_step_once hk (.guarded e he rfl hlooks) fun r printed hcommand => ?_
  rw [← hshell] at hcommand
  refine wp_ofExcept fun _ hconfirm => ?_
  refine wp_step (looks_word _) permitted_looks ?_
  intro t₁ pointerNow hpointer hok₁
  refine wp_ofExcept fun _ hsame => ?_
  obtain rfl : pointerNow = e.pointer := not_not.mp (raiseIf_eq_ok.mp hsame)
  refine wp_step (looks_word _) permitted_looks ?_
  intro t₂ value hvalue hok₂
  refine wp_ofExcept_end fun _ hwritten => ?_
  obtain rfl : value = 0x1000 := not_not.mp (raiseIf_eq_ok.mp hwritten)
  exact ⟨e, _, t₁, t₂, printed, he, rfl, hcommand, not_not.mp (raiseIf_eq_ok.mp hconfirm), hpointer, hvalue⟩

theorem wp_patchEraseSize {c : CameraChecks} (hc : c.Hold hashlib unicode pyText adb preserved)
    (hlooks : ∀ event ∈ c.trace, Looks adb event.op) :
    (patchEraseSize unicode adb).wp (permitted hashlib unicode pyText adb preserved)
      (fun h _ => Confirmed hashlib unicode pyText adb preserved h) (fun _ _ => True) c.trace := by
  unfold patchEraseSize
  refine wp_step (looks_shell .kallsyms) permitted_looks ?_
  intro t₁ symbols hsymbols hok₁
  refine wp_ofExcept fun _ hunique => ?_
  refine wp_step (looks_checkInstructions _) permitted_looks ?_
  intro t₂ _ hinstructions hok₂
  refine wp_step (looks_word _) permitted_looks ?_
  intro t₃ pointer hpointer hok₃
  refine wp_ofExcept fun field hfield => ?_
  obtain ⟨haligned, hrange, haddress⟩ := fieldAddress_eq_ok hfield
  refine wp_step (looks_word _) permitted_looks ?_
  intro t₄ old hold hok₄
  refine wp_ofExcept fun _ hknown => ?_
  refine wp_step (looks_shell .sync) permitted_looks ?_
  intro t₅ synced hsync hok₅
  refine wp_ofExcept fun _ hmarked => ?_
  refine wp_step (looks_of_reads reads_singleCamera) permitted_looks ?_
  intro t₆ _ hagain hok₆
  -- the evidence is complete
  let e : Evidence :=
    { checks := c, symbols := symbols, pointer := pointer, field := field, old := old, kallsyms := t₁
      instructions := t₂, pointerRead := t₃, valueRead := t₄, flush := t₅, cameraAgain := t₆ }
  have hvalue : old = 0x4000 ∨ old = 0x1000 := by
    have hnot := raiseIf_eq_ok.mp hknown
    omega
  have he : e.Holds hashlib unicode pyText adb preserved :=
    { checks := hc, listed := hsymbols, unique := checkSymbols_eq_ok hunique
      words := checkInstructions_returned hinstructions, pointed := hpointer, aligned := haligned
      inRange := hrange, address := haddress, valued := hold, known := hvalue
      synced := ⟨synced, hsync, not_not.mp (raiseIf_eq_ok.mp hmarked)⟩, single := hagain }
  have hlooks' : ∀ event ∈ e.trace, Looks adb event.op := by
    simp only [Evidence.trace, e, List.forall_mem_append]
    exact ⟨⟨⟨⟨⟨⟨hlooks, hok₁⟩, hok₂⟩, hok₃⟩, hok₄⟩, hok₅⟩, hok₆⟩
  apply wp_handle.mpr
  show (writeAndVerify unicode adb e.pointer e.field e.old).wp _ _ _ e.trace
  refine wp_mono (wp_writeAndVerify he hlooks') (fun _ _ h => h) fun _ _ _ => ?_
  trivial

theorem wp_prepareRestore :
    (prepareRestore hashlib unicode pyText adb preserved progress).wp
      (permitted hashlib unicode pyText adb preserved)
      (fun h _ => Confirmed hashlib unicode pyText adb preserved h) (fun _ _ => True) [] := by
  unfold prepareRestore
  refine wp_ofExcept fun _ hkernel => ?_
  have honly : Only (Looks adb) ((adb.ensureAvailable unicode pyText 10).handle fun x => .raise (notOnline x)) :=
    uses_handle (looks_of_reads (reads_ensureAvailable 10)) fun _ _ => trivial
  refine wp_step honly permitted_looks ?_
  intro t₁ _ honline hok₁
  have havailable := (runs_handle_raises fun x => ⟨_, rfl⟩).mp honline
  refine wp_step (looks_of_reads reads_singleCamera) permitted_looks ?_
  intro t₂ _ hsingle hok₂
  refine wp_step (looks_of_reads (reads_acquireStable _ _)) permitted_looks ?_
  rintro t₃ ⟨live, manifest⟩ hacquire hok₃
  obtain ⟨identification, reads, clock, hacquisition, hacquired⟩ := acquireStable_returned hacquire
  refine wp_ofExcept fun _ hlive => wp_ofExcept fun _ hreplacement => ?_
  refine wp_step (looks_of_reads reads_identityAndPartitions) permitted_looks ?_
  rintro t₄ ⟨identity, parts⟩ hparts hok₄
  refine wp_ofExcept fun _ herase => ?_
  let c : CameraChecks :=
    { live := live, manifest := manifest, identity := identity, parts := parts, online := t₁, camera := t₂
      acquisition := t₃, partitions := t₄ }
  have hgeometry : ∀ part ∈ parts, part.eraseSize = 0x4000 := by
    intro part hpart
    by_contra hne
    exact raiseIf_eq_ok.mp herase ⟨part, hpart, hne⟩
  have hc : c.Hold hashlib unicode pyText adb preserved :=
    { kernel := hkernel, available := havailable, single := hsingle
      stable := ⟨identification, reads, clock, hacquisition, hacquired,
        threeEqualReads_of_settled hacquired.valid hacquired.settled⟩
      liveKernel := hlive, unchanged := (validateReplacementAgainstBackup_eq_ok.mp hreplacement).2.2
      identified := hparts, erase := hgeometry }
  have hlooks : ∀ event ∈ c.trace, Looks adb event.op := by
    simp only [CameraChecks.trace, c, List.forall_mem_append]
    exact ⟨⟨⟨hok₁, hok₂⟩, hok₃⟩, hok₄⟩
  exact wp_patchEraseSize hc hlooks

/-- What is proved of a call with trace `t` that ended as `o`. -/
structure PreparationLaw (hashlib : Hashlib) (unicode : Unicode) (pyText : PyText) (adb : AdbClient)
    (preserved : Bytes) (t : Trace) (o : Outcome Exc Unit) : Prop where
  /-- No HID report is written. -/
  silent : ∀ event ∈ t, ∀ handle report, event.op ≠ .hidWrite handle report
  /-- At most one shell command contains a RAM write. -/
  once : ∀ before first middle second after, t = before ++ first :: (middle ++ second :: after) →
    ¬(ramWrites adb first.op ≠ [] ∧ ramWrites adb second.op ≠ [])
  /-- It comes right after all checks passed and the value read was `0x4000`; it writes `0x1000` to the field
  of the pointer just read, and rereads both in the same shell before that. -/
  write : ∀ before event after, t = before ++ event :: after → ramWrites adb event.op ≠ [] →
    ∃ e : Evidence, e.Holds hashlib unicode pyText adb preserved ∧ before = e.trace ∧ e.old = 0x4000 ∧
      event.op = guardedOp adb e.pointer e.field e.old ∧
      ramWrites adb event.op = [[("0x" ++ hex8 e.field).toList, "32".toList, "0x00001000".toList]] ∧
      Rechecks e.pointer e.field e.old
  success : o = .returned () → Confirmed hashlib unicode pyText adb preserved t

/-- A shell command that writes RAM is the guarded one, sent with all the evidence and nothing written before. -/
theorem Permitted.writes {before : Trace} {op : Op}
    (h : permitted hashlib unicode pyText adb preserved before op) (hwrites : ramWrites adb op ≠ []) :
    ∃ e : Evidence, e.Holds hashlib unicode pyText adb preserved ∧ before = e.trace ∧
      (∀ event ∈ before, Looks adb event.op) ∧ op = guardedOp adb e.pointer e.field e.old ∧ e.old = 0x4000 := by
  cases h with
  | look h => exact absurd (ramWrites_of_looks h) hwrites
  | guarded e he hbefore hlooks =>
    refine ⟨e, he, hbefore, hlooks, rfl, he.known.resolve_right fun hold => hwrites ?_⟩
    rw [ramWrites_guardedOp, if_neg (not_not.mpr hold)]

theorem prepareRestore_law {t : Trace} {o : Outcome Exc Unit}
    (h : Runs (prepareRestore hashlib unicode pyText adb preserved progress) t o) :
    PreparationLaw hashlib unicode pyText adb preserved t o := by
  obtain ⟨hpermitted, hreturned, -⟩ := wp_sound wp_prepareRestore h
  refine ⟨?_, ?_, ?_, fun ho => hreturned () ho⟩
  · intro event hevent handle report hop
    obtain ⟨before, after, rfl⟩ := List.append_of_mem hevent
    have hthis := hpermitted before event after rfl
    rw [hop] at hthis
    cases hthis with
    | look h => exact not_hidWrite_of_looks h
  · rintro before first middle second after rfl ⟨hfirst, hsecond⟩
    obtain ⟨e, he, hbefore, hlooks, -⟩ :=
      (hpermitted (before ++ first :: middle) second after (by simp)).writes hsecond
    have hmem : first ∈ before ++ first :: middle := List.mem_append_right _ List.mem_cons_self
    exact hfirst (ramWrites_of_looks (hlooks first hmem))
  · intro before event after ht hwrites
    obtain ⟨e, he, hbefore, -, hop, hold⟩ := (hpermitted before event after ht).writes hwrites
    refine ⟨e, he, hbefore, hold, hop, ?_, rechecks _ _ _⟩
    have hne : e.old ≠ 0x1000 := by omega
    rw [hop, ramWrites_guardedOp, if_pos hne]

end Law

/-! ## A camera whose erase size is changed -/

section Stock

variable {unicode : Unicode} {adb : AdbClient}

theorem canReturn_word {address value : Nat} {printed : Bytes} (h : wordOf printed = .ok value) :
    CanReturn (word unicode adb address) value :=
  canReturn_bind (canReturn_run _ _ printed) (canReturn_lift h)

theorem canReturn_checkInstructions {entries : List (Nat × Nat)}
    (h : ∀ entry ∈ entries, ∃ printed, wordOf printed = .ok entry.2) :
    CanReturn (checkInstructions unicode adb entries) () := by
  induction entries with
  | nil => exact canReturn_ret ()
  | cons entry entries ih =>
    obtain ⟨⟨printed, hentry⟩, hrest⟩ := List.forall_mem_cons.mp h
    refine canReturn_bind (canReturn_word hentry) ?_
    exact canReturn_bind (canReturn_lift (raiseIf_of_not (not_not.mpr rfl))) (ih hrest)

def stockSymbols : Bytes :=
  ascii ("801f06cc T recovery_norflash_erase\n801efc74 t jz_spi_norflash_erase_sector\n" ++
    "801f080c T direct_erase_norflash\n")

theorem wordOf_stock : ∀ entry ∈ INSTRUCTIONS, ∃ printed, wordOf printed = .ok entry.2 := by
  simp only [INSTRUCTIONS, List.forall_mem_cons, List.not_mem_nil, false_implies, implies_true, and_true]
  exact ⟨⟨ascii "0x3C138044\n", by decide +kernel⟩, ⟨ascii "0x8E64B190\n", by decide +kernel⟩,
    ⟨ascii "0x8C420010\n", by decide +kernel⟩, ⟨ascii "0x8E220010\r\n", by decide +kernel⟩⟩

theorem canReturn_patchEraseSize : CanReturn (patchEraseSize utf8 plainAdb) () := by
  have hsymbols : checkSymbols (asciiReplace stockSymbols) SYMBOLS = .ok () := by decide +kernel
  have hpointer : wordOf (ascii "0x818B4800\n") = .ok 0x818B4800 := by decide +kernel
  have hold : wordOf (ascii "0x00004000\n") = .ok 0x4000 := by decide +kernel
  have hnew : wordOf (ascii "0x00001000\n") = .ok 0x1000 := by decide +kernel
  have hsync : confirmSync (ascii "CC2_SYNC_OK\r\n") = .ok () := by decide +kernel
  have herase : confirmErase (ascii "0x00001000\r\nCC2_ERASE_READY\r\n") = .ok () := by decide +kernel
  have hfield : fieldAddress 0x818B4800 = .ok 0x18B4810 := by decide +kernel
  refine canReturn_bind (canReturn_run _ _ stockSymbols) (canReturn_bind (canReturn_lift hsymbols) ?_)
  refine canReturn_bind (canReturn_checkInstructions wordOf_stock) ?_
  refine canReturn_bind (canReturn_word hpointer) (canReturn_bind (canReturn_lift hfield) ?_)
  refine canReturn_bind (canReturn_word hold) ?_
  refine canReturn_bind (canReturn_lift (raiseIf_of_not fun h => h.1 rfl)) ?_
  refine canReturn_bind (canReturn_run _ _ _) (canReturn_bind (canReturn_lift hsync) ?_)
  refine canReturn_bind canReturn_singleCamera (canReturn_handle ?_)
  refine canReturn_bind (canReturn_run _ _ _) (canReturn_bind (canReturn_lift herase) ?_)
  refine canReturn_bind (canReturn_word hpointer) ?_
  refine canReturn_bind (canReturn_lift (raiseIf_of_not (not_not.mpr rfl))) ?_
  refine canReturn_bind (canReturn_word hnew) ?_
  exact canReturn_lift (raiseIf_of_not (not_not.mpr rfl))

theorem prepareRestore_law_stock :
    ∃ t, Runs (prepareRestore stockHashlib utf8 plainText plainAdb erasedImage fun _ _ _ _ => []) t (.returned ()) ∧
      PreparationLaw stockHashlib utf8 plainText plainAdb erasedImage t (.returned ()) := by
  have hsizes : ∀ piece ∈ stockPieces, piece.2.length = piece.1.size :=
    List.forall_mem_map.mpr fun _ _ => List.length_replicate
  obtain ⟨bootloader, hboot⟩ : ∃ bootloader, bootloaderReference stockHashlib erasedImage = .ok bootloader := by
    rw [bootloaderReference, raiseIf_of_not (not_not.mpr length_erasedImage), ok_bind]
    exact ⟨_, rfl⟩
  have hsame : validateReplacementAgainstBackup erasedImage erasedImage = .ok () :=
    validateReplacementAgainstBackup_eq_ok.mpr ⟨length_erasedImage, length_erasedImage, fun _ _ => rfl⟩
  have hgeometry : ¬∃ part ∈ stockPieces.map Prod.fst, part.eraseSize ≠ 0x4000 := by decide +kernel
  have hrun : CanReturn
      (prepareRestore stockHashlib utf8 plainText plainAdb erasedImage fun _ _ _ _ => []) () := by
    refine canReturn_bind (canReturn_lift Installer.validatePreparationImage_stock) ?_
    refine canReturn_bind (canReturn_handle (canReturn_ensureAvailable rfl stock_identifies)) ?_
    refine canReturn_bind canReturn_singleCamera ?_
    refine canReturn_bind
      (canReturn_acquireStable "now" stock_identifies hsizes stockPieces_image length_erasedImage hboot) ?_
    refine canReturn_bind (canReturn_lift Installer.validatePreparationImage_stock) ?_
    refine canReturn_bind (canReturn_lift hsame) ?_
    refine canReturn_bind (canReturn_identityAndPartitions stock_identifies) ?_
    exact canReturn_bind (canReturn_lift (raiseIf_of_not hgeometry)) canReturn_patchEraseSize
  obtain ⟨t, ht⟩ := hrun
  exact ⟨t, ht, prepareRestore_law ht⟩

end Stock

end Cc2Camera.RestorePrepare
