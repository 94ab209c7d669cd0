import Cc2Camera.Lib.World
import Cc2Camera.Startup.CrashSafe
import Cc2Camera.Startup.Requests

/-!
# Inspected — the first loop of `install_startup` against a camera that answers truthfully

`missing` picks the payloads of a call from what the config directory holds.  The loop has to ask for it
over ADB: three scripts for each managed file, and a pull.  On a camera that prints what it holds and
hands over its own files the loop returns `missing`, and refuses where `missing` does.
-/

open Exceptions Program

namespace Cc2Camera.Installer

open Host AdbBackup Startup

/-! ## What the camera prints -/

-- one element at the end, and none inside
theorem stripped_append_one {α : Type} {p : α → Bool} {t : List α} {last : α} (hlast : p last = true)
    (hhead : ∀ x ∈ t.head?, p x = false) (hend : ∀ x ∈ t.getLast?, p x = false) : stripped p (t ++ [last]) = t := by
  rcases List.eq_nil_or_concat t with rfl | ⟨init, x, rfl⟩
  · simp [stripped, hlast]
  · rw [List.concat_eq_append] at hhead hend ⊢
    have hx : p x = false := hend x (by simp)
    have hkept : ((init ++ [x]) ++ [last]).dropWhile p = (init ++ [x]) ++ [last] := by
      cases init with
      | nil => simp [hx]
      | cons y init => simp [hhead y (by simp)]
    rw [stripped, hkept]
    simp [hlast, hx]

theorem confirmed_line {output : Bytes} (hplain : ∀ b ∈ output, isByteSpace b = false) (hne : output ≠ []) :
    confirmed (output ++ ascii "\nCC2_OK\n") = .ok output := by
  have hcr : (output ++ ascii "\nCC2_OK\n").filter (· ≠ 13) = (output ++ ascii "\nCC2_OK") ++ [10] := by
    have hkept : output.filter (· ≠ 13) = output := by
      refine List.filter_eq_self.mpr fun b hb => decide_eq_true fun h13 => ?_
      have hspace := hplain b hb
      rw [h13] at hspace
      exact absurd hspace (by decide)
    rw [List.filter_append, hkept, List.append_assoc]
    rfl
  have hhead : ∀ b ∈ output.head?, isByteSpace b = false := fun b hb => hplain b (List.mem_of_head? hb)
  have hend : ∀ b ∈ output.getLast?, isByteSpace b = false := fun b hb => hplain b (List.mem_of_getLast? hb)
  have houter : stripped isByteSpace ((output ++ ascii "\nCC2_OK") ++ [10]) = output ++ ascii "\nCC2_OK" := by
    refine stripped_append_one (by decide) ?_ ?_
    · rw [List.head?_append_of_ne_nil _ hne]
      exact hhead
    · have hlast : (ascii "\nCC2_OK").getLast? = some 75 := by decide
      rw [List.getLast?_append_of_ne_nil _ (by decide), hlast]
      intro b hb
      obtain rfl := Option.some.inj hb
      decide
  have hmark : OK_MARK <:+ output ++ ascii "\nCC2_OK" :=
    (List.suffix_append (ascii "\n") OK_MARK).trans (List.suffix_append output _)
  have hlength : (output ++ ascii "\nCC2_OK").length - 6 = (output ++ [10]).length := by
    rw [List.length_append, List.length_append]
    rfl
  have htake : (output ++ ascii "\nCC2_OK").take ((output ++ ascii "\nCC2_OK").length - 6) = output ++ [10] := by
    rw [hlength, show output ++ ascii "\nCC2_OK" = (output ++ [10]) ++ OK_MARK by simp; rfl, List.take_left]
  rw [confirmed, hcr]
  simp only [houter, htake]
  rw [raiseIf_of_not (not_not.mpr hmark), ok_bind, stripped_append_one (by decide) hhead hend]

theorem digit_of_mem_toDigits {n : Nat} {c : Char} (h : c ∈ Nat.toDigits 10 n) : 48 ≤ c.toNat ∧ c.toNat ≤ 57 := by
  have hdigit := Nat.isDigit_of_mem_toDigits (by decide) (by decide) h
  simpa [Char.isDigit, UInt32.le_iff_toNat_le] using hdigit

-- the digits of a number as bytes
def digits (n : Nat) : Bytes := ascii (toString n)

theorem map_toNat_digits (n : Nat) : (digits n).map UInt8.toNat = (Nat.toDigits 10 n).map Char.toNat := by
  rw [digits, ascii, List.map_map, show (toString n).toList = Nat.toDigits 10 n from Nat.toList_repr]
  refine List.map_congr_left fun c hc => ?_
  have hbound := (digit_of_mem_toDigits hc).2
  exact UInt8.toNat_ofNat_of_lt' (Nat.lt_of_le_of_lt hbound (by decide))

theorem digitsValue_map_toNat {chars : List Char} (h : ∀ c ∈ chars, 48 ≤ c.toNat ∧ c.toNat ≤ 57) :
    digitsValue 10 (chars.map Char.toNat) = Nat.ofDigitChars 10 chars 0 := by
  rw [digitsValue, Nat.ofDigitChars_eq_foldl, List.foldl_map]
  generalize 0 = value
  induction chars generalizing value with
  | nil => rfl
  | cons c chars ih =>
    obtain ⟨hc, hrest⟩ := List.forall_mem_cons.mp h
    rw [List.foldl_cons, List.foldl_cons, ih hrest, digitValue, if_pos hc.2, Nat.mul_comm value]
    rfl

theorem hookSize_digits {remote : String} {n : Nat} (h : n ≤ MAX_HOOK_BYTES) : hookSize remote (digits n) = .ok n := by
  have hdigit (c : Char) (hc : c ∈ Nat.toDigits 10 n) := digit_of_mem_toDigits hc
  have hall : ((Nat.toDigits 10 n).map Char.toNat).all isDigit = true := by
    rw [List.all_map, List.all_eq_true]
    exact fun c hc => decide_eq_true (hdigit c hc)
  have hshort : (Nat.toDigits 10 n).length ≤ 4300 :=
    ((Nat.length_toDigits_le_iff (by decide) (by decide : 0 < 5)).mpr (Nat.lt_of_le_of_lt h (by decide))).trans
      (by decide)
  rw [hookSize]
  simp only [map_toNat_digits]
  rw [raiseIf_of_not, ok_bind, decimalInt, raiseIf_of_not (by rw [List.length_map]; exact Nat.not_lt.mpr hshort),
    ok_bind, ok_bind, digitsValue_map_toNat hdigit, Nat.ofDigitChars_ten_toDigits,
    raiseIf_of_not (Nat.not_lt.mpr h), ok_bind]
  rw [hall]
  simp

theorem confirmed_digits (n : Nat) : confirmed (digits n ++ ascii "\nCC2_OK\n") = .ok (digits n) := by
  refine confirmed_line (fun b hb => ?_) fun hnil => ?_
  · have hnat := List.mem_map_of_mem (f := UInt8.toNat) hb
    rw [map_toNat_digits] at hnat
    obtain ⟨c, hc, hb⟩ := List.mem_map.mp hnat
    have hdigit := digit_of_mem_toDigits hc
    refine decide_eq_false ?_
    rintro (rfl | hrange)
    · change c.toNat = 32 at hb
      omega
    · omega
  · have hempty := congrArg (List.map UInt8.toNat) hnil
    rw [map_toNat_digits] at hempty
    exact Nat.toDigits_ne_nil (List.map_eq_nil_iff.mp hempty)

/-! ## The three scripts -/

inductive Question where
  | kind
  | size
  | mode

def Question.script (remote : String) : Question → String
  | .kind => kindScript (shlexQuote remote)
  | .size => sizeScript (shlexQuote remote)
  | .mode => modeScript (shlexQuote remote)

def kindText : Option Node → Bytes
  | none => ascii "absent"
  | some .link => ascii "link"
  | some (.file _ _) => ascii "file"
  | some _ => ascii "other"

/-- What a truthful answer about a path says. -/
def Question.Tells (node : Option Node) (output : Bytes) : Question → Prop
  | .kind => output = kindText node
  | .size => ∀ content mode, node = some (.file content mode) → output = digits content.length
  | .mode => ∀ content mode, node = some (.file content mode) → (output = ascii "755" ↔ mode = 0o755)

/-- The script and the file can be told from what is sent. -/
theorem script_inj {q q' : Question} {entry entry' : Managed} (h : entry ∈ managedFiles) (h' : entry' ∈ managedFiles)
    (hsame : q.script (managedText entry.1) = q'.script (managedText entry'.1)) : q = q' ∧ entry = entry' := by
  simp only [managedFiles, List.mem_cons, List.not_mem_nil, or_false] at h h'
  obtain rfl | rfl | rfl := h <;> obtain rfl | rfl | rfl := h' <;> cases q <;> cases q'
  all_goals first
    | exact ⟨rfl, rfl⟩
    | exact absurd hsame (by decide +kernel)

/-! ## The camera -/

section Truthful

variable (adb : AdbClient) (c : Config)

/-- The files of the host once a pull of a managed file has returned. -/
def pulled (files : String → Bytes) (command : List String) : String → Bytes :=
  match command.drop adb.base.length with
  | ["pull", remote, localPath] =>
    match managedFiles.find? fun entry => managedText entry.1 = remote with
    | some entry =>
      match c entry.1 with
      | some (.file content _) => Function.update files localPath content
      | _ => files
    | none => files
  | _ => files

/-- A camera whose config directory is `c`, which nobody changes; the state is the files of the host. -/
def truthful : World Op Reply (String → Bytes) where
  answers files
    | ⟨.readBytes path, .ok data⟩ => data = files path
    | ⟨.runProcess command timeout, .ok done⟩ =>
      ∀ q : Question, ∀ entry ∈ managedFiles,
        Op.runProcess command timeout = shellOp adb (q.script (managedText entry.1) ++ "\n") 30 →
        ∀ output, confirmed done.stdout = .ok output → q.Tells (c entry.1) output
    | _ => True
  after files
    | ⟨.runProcess command _, .ok _⟩ => pulled adb c files command
    | _ => files

end Truthful

variable {unicode : Unicode} {adb : AdbClient} {c : Config} {files files' : String → Bytes}

theorem reaches_process {command : List String} {timeout : ℚ} {timedOut : String} {done : CompletedProcess} :
    (truthful adb c).Reaches files (adb.process command timeout timedOut) files' done ↔
      (truthful adb c).answers files ⟨.runProcess command timeout, .ok done⟩ ∧ pulled adb c files command = files' := by
  rw [AdbClient.process, call, handle, World.reaches_act]
  constructor
  · rintro ⟨r, hanswers, hrest⟩
    cases r with
    | ok done' =>
      obtain ⟨rfl, hfiles⟩ := World.reaches_ret.mp hrest
      exact ⟨hanswers, hfiles⟩
    | error x =>
      change World.Reaches _ _ (if _ then _ else _) _ _ at hrest
      split_ifs at hrest
      · exact absurd hrest World.reaches_raise
      · exact absurd hrest World.reaches_raise
      · exact absurd hrest World.reaches_raise
  · rintro ⟨hanswers, hfiles⟩
    exact ⟨.ok done, hanswers, World.reaches_ret.mpr ⟨rfl, hfiles⟩⟩

theorem reaches_run {args : List String} {timeout : ℚ} {output : Bytes} :
    (truthful adb c).Reaches files (adb.run unicode args timeout) files' output ↔
      ∃ stderr, (truthful adb c).answers files ⟨.runProcess (adb.base ++ args) timeout, .ok ⟨0, output, stderr⟩⟩ ∧
        pulled adb c files (adb.base ++ args) = files' := by
  simp only [AdbClient.run, World.reaches_bind, reaches_process, reaches_lift, raiseIf_eq_ok, not_not]
  constructor
  · rintro ⟨_, ⟨_, _, stderr⟩, ⟨hanswers, rfl⟩, _, _, ⟨rfl, rfl⟩, hret⟩
    obtain ⟨rfl, rfl⟩ := World.reaches_ret.mp hret
    exact ⟨stderr, hanswers, rfl⟩
  · rintro ⟨stderr, hanswers, rfl⟩
    exact ⟨_, _, ⟨hanswers, rfl⟩, _, (), ⟨rfl, rfl⟩, World.reaches_ret.mpr ⟨rfl, rfl⟩⟩

section Managed

variable {entry : Managed} (hentry : entry ∈ managedFiles)
include hentry

/-- A script that asks about a managed file returns what is true of it. -/
theorem reaches_question {q : Question} {output : Bytes} :
    (truthful adb c).Reaches files (checked unicode adb (q.script (managedText entry.1)) 30) files' output ↔
      files = files' ∧ q.Tells (c entry.1) output ∧ ∃ printed, confirmed printed = .ok output := by
  have hkept (script : String) : pulled adb c files (adb.base ++ ["shell", script]) = files := by
    rw [pulled, List.drop_left]
    rfl
  simp only [checked, AdbClient.shell, World.reaches_bind, reaches_run, hkept, reaches_lift]
  constructor
  · rintro ⟨_, printed, ⟨stderr, hanswers, rfl⟩, hconfirmed, rfl⟩
    exact ⟨rfl, hanswers q entry hentry rfl output hconfirmed, printed, hconfirmed⟩
  · rintro ⟨rfl, htells, printed, hconfirmed⟩
    refine ⟨_, printed, ⟨[], ?_, rfl⟩, hconfirmed, rfl⟩
    intro q' entry' hentry' hsame output' hconfirmed'
    obtain ⟨rfl, rfl⟩ := script_inj hentry hentry' ((String.append_left_inj _).mp (shellOp_inj hsame).1)
    obtain rfl := Except.ok.inj (hconfirmed.symm.trans hconfirmed')
    exact htells

theorem pulled_pull {content : Bytes} {mode : Nat} {localPath : String}
    (hfile : c entry.1 = some (.file content mode)) :
    pulled adb c files (adb.base ++ ["pull", managedText entry.1, localPath]) =
      Function.update files localPath content := by
  have hfound : managedFiles.find? (fun entry' => managedText entry'.1 = managedText entry.1) = some entry := by
    simp only [managedFiles, List.mem_cons, List.not_mem_nil, or_false] at hentry
    obtain rfl | rfl | rfl := hentry <;> rfl
  rw [pulled, List.drop_left]
  simp only [hfound, hfile]

/-- A pull brings the content of the file. -/
theorem reaches_pullBytes {content data : Bytes} {mode : Nat} {localPath : String}
    (hfile : c entry.1 = some (.file content mode)) :
    (truthful adb c).Reaches files (pullBytes unicode adb (managedText entry.1) localPath) files' data ↔
      data = content ∧ files' = Function.update files localPath content := by
  have hpresent {f f' : String → Bytes} {present : Bool} :
      (truthful adb c).Reaches f (call (.isFile localPath)) f' present ↔ True ∧ f' = f := reaches_call
  have hread {f f' : String → Bytes} :
      (truthful adb c).Reaches f (call (.readBytes localPath)) f' data ↔ data = f localPath ∧ f' = f := reaches_call
  simp only [pullBytes, AdbClient.pull, World.reaches_bind, reaches_run, pulled_pull hentry hfile, reaches_lift,
    raiseIf_eq_ok, hpresent, hread]
  constructor
  · rintro ⟨_, _, ⟨_, output, ⟨stderr, -, rfl⟩, _, present, ⟨-, rfl⟩, -, rfl⟩, hdata, rfl⟩
    rw [Function.update_self] at hdata
    exact ⟨hdata, rfl⟩
  · rintro ⟨rfl, rfl⟩
    refine ⟨_, (), ⟨_, [], ⟨[], ?_, rfl⟩, _, true, ⟨trivial, rfl⟩, Bool.noConfusion, rfl⟩, ?_, rfl⟩
    · intro q entry' hentry' hsame
      exact absurd (List.append_cancel_left (Op.runProcess.inj hsame).1) (by simp)
    · rw [Function.update_self]

theorem hook_of_reaches {content data : Bytes} {mode : Nat} {localPath : String}
    (hfile : c entry.1 = some (.file content mode))
    (h : (truthful adb c).Reaches files (readHook unicode adb (managedText entry.1) localPath) files' data) :
    data = content ∧ mode = 0o755 ∧ content.length ≤ MAX_HOOK_BYTES := by
  simp only [readHook, World.reaches_bind, reaches_lift, raiseIf_eq_ok, not_not] at h
  obtain ⟨_, reported, -, _, size, ⟨hsize, rfl⟩, _, printed, hmode, _, _, ⟨rfl, rfl⟩, _, _, hpull, _, _,
    ⟨hlength, rfl⟩, hret⟩ := h
  obtain ⟨rfl, rfl⟩ := World.reaches_ret.mp hret
  obtain ⟨rfl, -⟩ := (reaches_pullBytes hentry hfile).mp hpull
  have htells := ((reaches_question hentry (q := .mode)).mp hmode).2.1
  refine ⟨rfl, (htells _ mode hfile).mp rfl, ?_⟩
  simp only [hookSize, bind_eq_ok, raiseIf_eq_ok, not_lt] at hsize
  obtain ⟨_, -, value, -, _, hbound, hvalue⟩ := hsize
  rw [hlength, ← Except.ok.inj hvalue]
  exact hbound

theorem readOptional_of_reaches {localPath : String} {current : Option Bytes}
    (h : (truthful adb c).Reaches files (readOptional unicode adb (managedText entry.1) localPath) files' current) :
    Startup.readOptional c entry.1 = .ok current := by
  obtain ⟨f₁, kind, hkind, hrest⟩ := World.reaches_bind.mp h
  obtain rfl : kind = kindText (c entry.1) := ((reaches_question hentry (q := .kind)).mp hkind).2.1
  refine readOptional_eq_ok.mpr ?_
  cases hnode : c entry.1 with
  | none =>
    rw [hnode, kindText, if_pos rfl] at hrest
    obtain ⟨rfl, -⟩ := World.reaches_ret.mp hrest
    exact .inl ⟨rfl, rfl⟩
  | some node =>
    have habsent : kindText (some node) ≠ ascii "absent" := by
      cases node <;> simp only [kindText] <;> decide
    rw [hnode, if_neg habsent] at hrest
    simp only [World.reaches_bind, reaches_lift, raiseIf_eq_ok, not_not] at hrest
    obtain ⟨_, _, ⟨hfile, rfl⟩, _, data, hhook, hret⟩ := hrest
    obtain ⟨rfl, rfl⟩ := World.reaches_ret.mp hret
    cases node with
    | file content mode =>
      obtain ⟨rfl, rfl, hbound⟩ := hook_of_reaches hentry hnode hhook
      exact .inr ⟨data, rfl, hbound, rfl⟩
    | _ => exact absurd hfile (by decide)

theorem reaches_readHook {content : Bytes} {localPath : String} (hfile : c entry.1 = some (.file content 0o755))
    (hsize : content.length ≤ MAX_HOOK_BYTES) :
    (truthful adb c).Reaches files (readHook unicode adb (managedText entry.1) localPath)
      (Function.update files localPath content) content := by
  have hsizeTells : Question.size.Tells (c entry.1) (digits content.length) := by
    rintro content' mode hnode
    obtain ⟨rfl, -⟩ := Node.file.inj (Option.some.inj (hfile.symm.trans hnode))
    rfl
  have hmodeTells : Question.mode.Tells (c entry.1) (ascii "755") := by
    rintro content' mode hnode
    obtain ⟨-, rfl⟩ := Node.file.inj (Option.some.inj (hfile.symm.trans hnode))
    exact iff_of_true rfl rfl
  have hmode : ∃ printed, confirmed printed = .ok (ascii "755") := ⟨ascii "755\nCC2_OK\n", by decide +kernel⟩
  simp only [readHook, World.reaches_bind, reaches_lift, raiseIf_eq_ok, not_not]
  exact ⟨_, _, (reaches_question hentry (q := .size)).mpr ⟨rfl, hsizeTells, _, confirmed_digits _⟩, _, _,
    ⟨hookSize_digits hsize, rfl⟩, _, _, (reaches_question hentry (q := .mode)).mpr ⟨rfl, hmodeTells, hmode⟩, _, (),
    ⟨rfl, rfl⟩, _, _, (reaches_pullBytes hentry hfile).mpr ⟨rfl, rfl⟩, _, (), ⟨rfl, rfl⟩,
    World.reaches_ret.mpr ⟨rfl, rfl⟩⟩

/-- What the tool reads of a managed file is what the file is. -/
theorem readOptional_reaches_iff {localPath : String} {current : Option Bytes} :
    (∃ files', (truthful adb c).Reaches files (readOptional unicode adb (managedText entry.1) localPath) files'
        current) ↔ Startup.readOptional c entry.1 = .ok current := by
  have hkind {f f' : String → Bytes} {output : Bytes} :
      (truthful adb c).Reaches f (checked unicode adb (kindScript (shlexQuote (managedText entry.1))) 30) f' output ↔
        f = f' ∧ output = kindText (c entry.1) ∧ ∃ printed, confirmed printed = .ok output :=
    reaches_question hentry (q := .kind)
  refine ⟨fun ⟨_, h⟩ => readOptional_of_reaches hentry h, ?_⟩
  rw [readOptional_eq_ok]
  rintro (⟨hnone, rfl⟩ | ⟨content, hfile, hsize, rfl⟩)
  · have htext : kindText (c entry.1) = ascii "absent" := by rw [hnone, kindText]
    refine ⟨files, World.reaches_bind.mpr ⟨files, _, hkind.mpr ⟨rfl, rfl, ?_⟩, ?_⟩⟩
    · rw [htext]
      exact ⟨ascii "absent\nCC2_OK\n", by decide +kernel⟩
    · rw [if_pos htext]
      exact World.reaches_ret.mpr ⟨rfl, rfl⟩
  · have htext : kindText (c entry.1) = ascii "file" := by rw [hfile, kindText]
    refine ⟨Function.update files localPath content,
      World.reaches_bind.mpr ⟨files, _, hkind.mpr ⟨rfl, rfl, ?_⟩, ?_⟩⟩
    · rw [htext]
      exact ⟨ascii "file\nCC2_OK\n", by decide +kernel⟩
    · rw [htext, if_neg (by decide)]
      refine World.reaches_bind.mpr ⟨_, (), reaches_lift.mpr ⟨raiseIf_of_not (not_not.mpr rfl), rfl⟩, ?_⟩
      exact World.reaches_bind.mpr ⟨_, _, reaches_readHook hentry hfile hsize, World.reaches_ret.mpr ⟨rfl, rfl⟩⟩

end Managed

/-- On a camera that answers truthfully the loop returns the files that are missing, and refuses where one
of them is there with other content, with another mode or as another kind of entry. -/
theorem inspect_reaches_iff {root : String} {entries : List (Managed × Nat)} {payloads : List Managed}
    (hentries : ∀ entry ∈ entries, entry.1 ∈ managedFiles) :
    (∃ files', (truthful adb c).Reaches files (inspect unicode adb root entries) files' payloads) ↔
      missing c (entries.map Prod.fst) = .ok payloads := by
  induction entries generalizing files payloads with
  | nil =>
    rw [List.map_nil, missing, Except.ok.injEq]
    constructor
    · rintro ⟨files', h⟩
      exact (World.reaches_ret.mp h).1
    · rintro rfl
      exact ⟨files, World.reaches_ret.mpr ⟨rfl, rfl⟩⟩
  | cons entry entries ih =>
    obtain ⟨entry, i⟩ := entry
    obtain ⟨hentry, hrest⟩ := List.forall_mem_cons.mp hentries
    simp only [inspect, World.reaches_bind, reaches_lift, raiseIf_eq_ok, List.map_cons, missing, bind_eq_ok,
      Except.ok.injEq]
    constructor
    · rintro ⟨files', _, current, hread, _, _, ⟨hsame, rfl⟩, _, others, hothers, hret⟩
      obtain ⟨rfl, rfl⟩ := World.reaches_ret.mp hret
      exact ⟨current, (readOptional_reaches_iff hentry).mp ⟨_, hread⟩, (), hsame, others,
        (ih hrest).mp ⟨_, hothers⟩, rfl⟩
    · rintro ⟨current, hread, _, hsame, others, hothers, rfl⟩
      obtain ⟨f₁, hread'⟩ := (readOptional_reaches_iff hentry).mpr hread
      obtain ⟨f₂, hothers'⟩ := (ih hrest).mpr hothers
      exact ⟨f₂, f₁, current, hread', f₁, (), ⟨hsame, rfl⟩, f₂, others, hothers', World.reaches_ret.mpr ⟨rfl, rfl⟩⟩

/-- The payloads a call picks are those `missing` gives for the files it asks for. -/
theorem inspect_requested_iff {root : String} {functionality : Functionality} {payloads : List Managed} :
    (∃ files', (truthful adb c).Reaches files (inspect unicode adb root (requested functionality).zipIdx) files'
        payloads) ↔ missing c (requested functionality) = .ok payloads := by
  rw [inspect_reaches_iff, List.zipIdx_map_fst]
  intro entry h
  exact requested_subset _ (List.fst_mem_of_mem_zipIdx h)

end Cc2Camera.Installer
