import Cc2Camera.Device.Session
import Cc2Camera.Device.Touches
import Cc2Camera.Image.Layout
import Cc2Camera.Lib.NorFlash

/-!
# Lifecycle — one camera through boots, reports and power cuts

The flash outlives everything else: the upgrade words in it decide what a reset starts.  In normal mode the daemon
reaches it through the vendor driver, through the shell and through the files of the partition that holds the words; in
the updater a verified transfer programs the chip.
-/

open Bytes Exceptions Program World NorFlash

namespace Cc2Camera.Lifecycle

open HidUpdate (DaemonOp DaemonReply DaemonContext DaemonTrace UPGRADE_MAGIC UPGRADE_WORD_OFFSET REBOOT
  dispatchNormalReport clearUpgradeWords isReboot Touches replies responseReport ST_OK ST_FAIL)
open Updater (UpdaterState Effect hidReceiveReport updaterReceive)
open Image (CONFIG_START)
open Protocol Commands HidTransport

def MODE_CDC : Nat := 0x010203a0

inductive BootPath where
  | mainUbootUpdater
  | normalBoot
  deriving DecidableEq, Repr

inductive UpdateTransport where
  | cdc
  | hid
  deriving DecidableEq, Repr

-- 0xf0001c54; only the first word is looked at
def splChooseBootPath (words : Bytes) : BootPath :=
  if u32 words 0 = UPGRADE_MAGIC then .mainUbootUpdater else .normalBoot

-- 0x80118714; every other value falls through to HID
def selectUpdateTransport (words : Bytes) : UpdateTransport := if u32 words 4 = MODE_CDC then .cdc else .hid

def upgradeWords (flash : Bytes) : Bytes := slice flash UPGRADE_WORD_OFFSET (UPGRADE_WORD_OFFSET + 8)

/-- What `spl_spi_read` and `spi_flash_read` leave in `words`, which is zero before: neither result is looked at. -/
def wordsRead (succeeds : Bool) (flash : Bytes) : Bytes :=
  if succeeds then upgradeWords flash else List.replicate 8 0

/-- The parts of the camera that are not in the sources. -/
structure Hardware where
  md5 : Bytes → {digest : Bytes // digest.length = 16}
  chip : Chip
  -- what `UCAMERA_SET_FLASH` of the vendor driver can make of the flash, with its return code
  setFlash : Bytes → (offset : Nat) → (data : Bytes) → Bytes → Int → Prop
  -- what a shell command can make of it
  shell : (command : Bytes) → Bytes → Bytes → Prop
  -- what the running Linux can make of it when it writes to a file, for the daemon or by itself
  fileSystem : Bytes → Bytes → Prop

inductive Mode where
  -- without power, hung, or on the way to a reset
  | off
  | normal (ctx : DaemonContext)
  | updater (transport : UpdateTransport) (u : UpdaterState)

structure Device where
  flash : Bytes
  mode : Mode

/-- What an operation of the daemon can make of the flash, given its reply; a read may fail. -/
def Hardware.after (hw : Hardware) (flash : Bytes) : Event DaemonOp DaemonReply → Bytes → Prop
  | ⟨.setFlash offset data, rc⟩, flash' => hw.setFlash flash offset data flash' rc
  | ⟨.getFlash offset length, found⟩, flash' =>
    (found = none ∨ found = some (slice flash offset (offset + length))) ∧ flash' = flash
  | ⟨.system command, _⟩, flash' => hw.shell command flash flash'
  | ⟨.rewriteFile _ _, _⟩, flash' => hw.fileSystem flash flash'
  | ⟨.createFile _, _⟩, flash' => hw.fileSystem flash flash'
  | ⟨.fwrite _ _, _⟩, flash' => hw.fileSystem flash flash'
  | _, flash' => flash' = flash

def isSetFlash : DaemonOp → Bool
  | .setFlash _ _ => true
  | _ => false

/-- A run of a part of the daemon and what it made of the flash.  A power cut while the driver is at work leaves anything
there. -/
inductive Serves {α : Type} (hw : Hardware) (p : HidUpdate.Daemon α) (flash : Bytes) :
    DaemonTrace → Outcome HidUpdate.Fault α → Bytes → Prop where
  | through {t : DaemonTrace} {o : Outcome HidUpdate.Fault α} {flash' : Bytes} (hrun : Runs p t o)
    (h : Through hw.after flash t flash') : Serves hw p flash t o flash'
  | torn {t : DaemonTrace} {e : Event DaemonOp DaemonReply} {flash₁ flash' : Bytes} (hrun : Runs p (t ++ [e]) .running)
    (h : Through hw.after flash t flash₁) (he : isSetFlash e.op = true) : Serves hw p flash t .running flash'

def programmed (chip : Chip) (flash : Bytes) : Effect → Bytes
  | .flashErase offset length => chip.erase flash offset length
  | .flashWrite offset _ data => chip.write flash offset data
  | _ => flash

def programAll (chip : Chip) (flash : Bytes) (effects : List Effect) : Bytes := effects.foldl (programmed chip) flash

-- CDC carries the frame without the report around it
def receive (board : Updater.Board) : UpdateTransport → UpdaterState → Bytes → Updater.Step
  | .hid => hidReceiveReport board
  | .cdc => updaterReceive board

/-- A fault and a reboot both end the daemon, and so does a power cut in the middle of a run. -/
def modeAfter (t : DaemonTrace) : Outcome HidUpdate.Fault DaemonContext → Mode
  | .returned ctx => if t.any isReboot then .off else .normal ctx
  | _ => .off

/-- A boot, by whether SPL and U-Boot could read the upgrade words. -/
inductive Boots (hw : Hardware) (flash : Bytes) (splRead ubootRead : Bool) : Device → Prop where
  | updater (h : splChooseBootPath (wordsRead splRead flash) = .mainUbootUpdater) :
    Boots hw flash splRead ubootRead ⟨flash, .updater (selectUpdateTransport (wordsRead ubootRead flash)) .fresh⟩
  -- the files are mounted before the daemon starts
  | normal {flash₁ flash' : Bytes} {t : DaemonTrace} {o : Outcome HidUpdate.Fault DaemonContext}
    (h : splChooseBootPath (wordsRead splRead flash) = .normalBoot) (hmount : flash₁ = flash ∨ hw.fileSystem flash flash₁)
    (hrun : Serves hw (clearUpgradeWords >>= fun _ => pure DaemonContext.start) flash₁ t o flash') :
    Boots hw flash splRead ubootRead ⟨flash', modeAfter t o⟩

inductive Label where
  -- whether the two reads of the boot succeed
  | reset (splRead ubootRead : Bool)
  -- a report, and what the updater did for it
  | report (r : Bytes) (effects : List Effect)
  -- Linux writes to a file by itself
  | fileWrite

/-- The allocator of the updater may fail at any report. -/
inductive Step (hw : Hardware) : Device → Label → Device → Prop where
  | reset {d d' : Device} {splRead ubootRead : Bool} (h : Boots hw d.flash splRead ubootRead d') :
    Step hw d (.reset splRead ubootRead) d'
  | fileWrite {flash flash' : Bytes} {ctx : DaemonContext} (h : hw.fileSystem flash flash') :
    Step hw ⟨flash, .normal ctx⟩ .fileWrite ⟨flash', .normal ctx⟩
  | lost {flash r : Bytes} : Step hw ⟨flash, .off⟩ (.report r []) ⟨flash, .off⟩
  | served {flash flash' r : Bytes} {ctx : DaemonContext} {t : DaemonTrace} {o : Outcome HidUpdate.Fault DaemonContext}
    (hrun : Serves hw (dispatchNormalReport r ctx) flash t o flash') :
    Step hw ⟨flash, .normal ctx⟩ (.report r []) ⟨flash', modeAfter t o⟩
  | received {flash r : Bytes} {transport : UpdateTransport} {u u' : UpdaterState} {effects : List Effect}
    {malloc : (size : Nat) → Option {buffer : Bytes // buffer.length = size}}
    (h : receive ⟨malloc, hw.md5⟩ transport u r = .ok (u', effects)) :
    Step hw ⟨flash, .updater transport u⟩ (.report r effects) ⟨programAll hw.chip flash effects, .updater transport u'⟩
  -- a power cut while the chip is at work leaves anything in it
  | interrupted {flash flash' r : Bytes} {transport : UpdateTransport} {u u' : UpdaterState} {effects : List Effect}
    {malloc : (size : Nat) → Option {buffer : Bytes // buffer.length = size}}
    (h : receive ⟨malloc, hw.md5⟩ transport u r = .ok (u', effects))
    (hflash : (∀ e ∈ effects, e.isFlash = false) → flash' = flash) :
    Step hw ⟨flash, .updater transport u⟩ (.report r effects) ⟨flash', .off⟩
  | fault {flash r : Bytes} {transport : UpdateTransport} {u : UpdaterState} {fault : Updater.Fault}
    {malloc : (size : Nat) → Option {buffer : Bytes // buffer.length = size}}
    (h : receive ⟨malloc, hw.md5⟩ transport u r = .error fault) :
    Step hw ⟨flash, .updater transport u⟩ (.report r []) ⟨flash, .off⟩

inductive Run (hw : Hardware) : Device → List Label → Device → Prop where
  | nil (d : Device) : Run hw d [] d
  | cons {d d₁ d' : Device} {l : Label} {ls : List Label} (h : Step hw d l d₁) (rest : Run hw d₁ ls d') :
    Run hw d (l :: ls) d'

/-- A camera whose parts all work; its files lie before the erase block of the upgrade words. -/
def sampleHardware : Hardware where
  md5 := Updater.constantHashlib.md5
  chip := sectored 0x1000
  setFlash flash offset data flash' rc :=
    if offset + data.length ≤ flash.length then flash' = splice flash offset (offset + data.length) data ∧ rc = 0
    else flash' = flash ∧ rc = -1
  shell _ flash flash' :=
    flash'.length = flash.length ∧ flash'.take CONFIG_START = flash.take CONFIG_START ∧
      flash'.drop UPGRADE_WORD_OFFSET = flash.drop UPGRADE_WORD_OFFSET
  fileSystem flash flash' :=
    flash'.length = flash.length ∧ flash'.take CONFIG_START = flash.take CONFIG_START ∧
      flash'.drop UPGRADE_WORD_OFFSET = flash.drop UPGRADE_WORD_OFFSET

section Lifecycle

variable {hw : Hardware} {d d' : Device} {l : Label} {ls : List Label} {flash flash' r : Bytes} {ctx : DaemonContext}
  {t : DaemonTrace} {o : Outcome HidUpdate.Fault DaemonContext}

/-! ## Normal mode -/

/-- What JFFS2 does with the flash: it keeps to its partition, and begins the erase block at the upgrade words with a
header of its own. -/
structure Hardware.Files (hw : Hardware) : Prop where
  partition : ∀ flash flash', hw.fileSystem flash flash' → flash'.take CONFIG_START = flash.take CONFIG_START
  header : ∀ flash flash', hw.fileSystem flash flash' → splChooseBootPath (upgradeWords flash) = .normalBoot →
    splChooseBootPath (upgradeWords flash') = .normalBoot

/-- The words are not set, and outside of the configuration partition the flash is as it was. -/
structure Unset (before flash : Bytes) : Prop where
  path : splChooseBootPath (upgradeWords flash) = .normalBoot
  outside : flash.take CONFIG_START = before.take CONFIG_START

theorem Unset.fileSystem {before : Bytes} (h : Unset before flash) (hfiles : hw.Files)
    (hwrite : hw.fileSystem flash flash') : Unset before flash' where
  path := hfiles.header _ _ hwrite h.path
  outside := (hfiles.partition _ _ hwrite).trans h.outside

/-- A report of the upgrade group, or a commit: the one stores the words, the other hands its sender's text to the
shell. -/
def Label.Reaching : Label → Prop
  | .report r _ => u16 r 3 / 0x1000 = 4 ∨ u16 r 3 = 0x3300
  | _ => False

/-- Of the operations the other reports can cause, only the writing of a file changes the flash. -/
theorem Unset.after {before : Bytes} {e : Event DaemonOp DaemonReply} (h : Unset before flash) (hfiles : hw.Files)
    {effects : List Effect} (hl : ¬(Label.report r effects).Reaching) (hop : Touches r ctx e.op)
    (hafter : hw.after flash e flash') : Unset before flash' := by
  obtain ⟨hgroup, hcommit⟩ := not_or.mp hl
  obtain ⟨op, reply⟩ := e
  cases op with
  | malloc size =>
    obtain rfl : flash' = flash := hafter
    exact h
  | system command =>
    rcases hop with ⟨hreaching, -⟩ | ⟨hreaching, -⟩
    · exact absurd hreaching hcommit
    · exact absurd hreaching hgroup
  | readFile path =>
    obtain rfl : flash' = flash := hafter
    exact h
  | rewriteFile path content => exact h.fileSystem hfiles hafter
  | createFile path => exact h.fileSystem hfiles hafter
  | fwrite path content => exact h.fileSystem hfiles hafter
  | setFlash offset data => exact absurd hop.1 hgroup
  | getFlash offset length =>
    obtain rfl : flash' = flash := hafter.2
    exact h
  | writeReport report =>
    obtain rfl : flash' = flash := hafter
    exact h

theorem Unset.served {before : Bytes} (h : Unset before flash) (hfiles : hw.Files) {effects : List Effect}
    (hl : ¬(Label.report r effects).Reaching) (hrun : Serves hw (dispatchNormalReport r ctx) flash t o flash') :
    Unset before flash' := by
  have htouches {t : DaemonTrace} {o : Outcome HidUpdate.Fault DaemonContext}
      (hrun : Runs (dispatchNormalReport r ctx) t o) : ∀ e ∈ t, Touches r ctx e.op :=
    (runsIn_history hrun []).uses HidUpdate.confined_dispatchNormalReport
  cases hrun with
  | through hrun hthrough =>
    exact hthrough.keeps (fun e he _ _ hafter h => h.after hfiles hl (htouches hrun e he) hafter) h
  | @torn e _ _ hrun _ he =>
    -- the driver is not called at all
    have hop := htouches hrun e (List.mem_append_right _ (List.mem_singleton_self e))
    obtain ⟨op, reply⟩ := e
    cases op with
    | setFlash offset data => exact absurd (.inl hop.1) hl
    | _ => exact Bool.noConfusion he

theorem modeAfter_ne_updater (transport : UpdateTransport) (u : UpdaterState) :
    modeAfter t o ≠ .updater transport u := by
  cases o with
  | returned ctx =>
    intro h
    rw [modeAfter] at h
    split at h
    · cases h
    · cases h
  | raised x => exact Mode.noConfusion
  | running => exact Mode.noConfusion

/-- The words are not set, and the updater is not running. -/
structure Dormant (d : Device) : Prop where
  path : splChooseBootPath (upgradeWords d.flash) = .normalBoot
  mode : ∀ transport u, d.mode ≠ .updater transport u

theorem ne_magic_of_path {words : Bytes} (h : splChooseBootPath words = .normalBoot) : u32 words 0 ≠ UPGRADE_MAGIC := by
  intro hset
  rw [splChooseBootPath, if_pos hset] at h
  cases h

/-- A read that failed leaves zeros, which are not the magic either. -/
theorem wordsRead_unset (h : splChooseBootPath (upgradeWords flash) = .normalBoot) (succeeds : Bool) :
    splChooseBootPath (wordsRead succeeds flash) = .normalBoot := by
  cases succeeds with
  | true => exact h
  | false => rfl

/-- Words that are not set are left alone at boot, whether or not they could be read. -/
theorem clear_keepsFlash (h : splChooseBootPath (upgradeWords flash) = .normalBoot)
    (hrun : Serves hw (clearUpgradeWords >>= fun _ => pure DaemonContext.start) flash t o flash') : flash' = flash := by
  have hdone {found : Option Bytes} (hfound : found = none ∨ found = some (upgradeWords flash)) :
      ¬u32 (found.getD []) 0 = UPGRADE_MAGIC := by
    rcases hfound with rfl | rfl
    · decide
    · exact ne_magic_of_path h
  -- behind the read there is nothing left to do
  have hend {found : Option Bytes} {t : DaemonTrace} {o : Outcome HidUpdate.Fault DaemonContext}
      (hfound : found = none ∨ found = some (upgradeWords flash))
      {clear : HidUpdate.Daemon Unit}
      (hrest : Runs ((if u32 (found.getD []) 0 = UPGRADE_MAGIC then clear else pure ()) >>= fun _ => pure
        DaemonContext.start) t o) : t = [] := by
    rw [if_neg (hdone hfound)] at hrest
    exact (runs_ret_cases hrest).1
  cases hrun with
  | through hrun hthrough =>
    rcases runs_act_cases hrun with ⟨rfl, -⟩ | ⟨found, t', rfl, hrest⟩
    · exact (through_nil.mp hthrough).symm
    · obtain ⟨flash₁, ⟨hfound, rfl⟩, hafter⟩ := through_cons.mp hthrough
      obtain rfl := hend hfound hrest
      exact (through_nil.mp hafter).symm
  | torn hrun hthrough he =>
    rcases runs_act_cases hrun with ⟨hnil, -⟩ | ⟨found, t', ht, hrest⟩
    · exact absurd (congrArg List.length hnil) (by simp)
    · cases t with
      | nil =>
        obtain ⟨rfl, -⟩ := List.cons.inj ht
        cases he
      | cons first t =>
        obtain ⟨rfl, rfl⟩ := List.cons.inj ht
        obtain ⟨flash₁, ⟨hfound, rfl⟩, -⟩ := through_cons.mp hthrough
        exact absurd (congrArg List.length (hend hfound hrest)) (by simp)

theorem boots_dormant (hfiles : hw.Files) {before : Bytes} (h : Unset before flash) {splRead ubootRead : Bool}
    (hboots : Boots hw flash splRead ubootRead d') : Unset before d'.flash ∧ Dormant d' := by
  cases hboots with
  | updater hset =>
    rw [wordsRead_unset h.path] at hset
    cases hset
  | normal _ hmount hrun =>
    have hmounted := hmount.elim (fun hsame => hsame.symm ▸ h) (h.fileSystem hfiles)
    obtain rfl := clear_keepsFlash hmounted.path hrun
    exact ⟨hmounted, hmounted.path, modeAfter_ne_updater⟩

theorem Step.staysDormant (hfiles : hw.Files) (h : Step hw d l d') (hl : ¬l.Reaching) {before : Bytes}
    (hbefore : Unset before d.flash) (hd : Dormant d) : Unset before d'.flash ∧ Dormant d' := by
  cases h with
  | reset hboots => exact boots_dormant hfiles hbefore hboots
  | fileWrite hwrite =>
    have hafter := hbefore.fileSystem hfiles hwrite
    exact ⟨hafter, hafter.path, fun _ _ => Mode.noConfusion⟩
  | lost => exact ⟨hbefore, hd⟩
  | served hrun =>
    have hafter := hbefore.served hfiles hl hrun
    exact ⟨hafter, hafter.path, modeAfter_ne_updater⟩
  | received _ => exact absurd rfl (hd.mode _ _)
  | interrupted _ _ => exact absurd rfl (hd.mode _ _)
  | fault _ => exact absurd rfl (hd.mode _ _)

/-- Without a commit and a report of the upgrade group nothing that is sent, and no power cut, starts the updater or
changes the flash outside of the configuration partition. -/
theorem run_staysDormant (hfiles : hw.Files) (h : Run hw d ls d') (hls : ∀ l ∈ ls, ¬l.Reaching) (hd : Dormant d) :
    d'.flash.take CONFIG_START = d.flash.take CONFIG_START ∧ Dormant d' := by
  have hall (before : Bytes) (hbefore : Unset before d.flash) : Unset before d'.flash ∧ Dormant d' := by
    induction h with
    | nil d => exact ⟨hbefore, hd⟩
    | cons hstep _ ih =>
      obtain ⟨hafter, hd₁⟩ := hstep.staysDormant hfiles (hls _ List.mem_cons_self) hbefore hd
      exact ih (fun l hl => hls l (List.mem_cons_of_mem _ hl)) hd₁ hafter
  obtain ⟨hafter, hd'⟩ := hall d.flash ⟨hd.path, rfl⟩
  exact ⟨hafter.outside, hd'⟩

theorem upgradeWords_drop {flash flash' : Bytes} (h : flash'.drop UPGRADE_WORD_OFFSET = flash.drop UPGRADE_WORD_OFFSET) :
    upgradeWords flash' = upgradeWords flash := by
  unfold upgradeWords slice
  rw [List.drop_take, List.drop_take, h]

theorem sampleHardware_files : sampleHardware.Files where
  partition _ _ h := h.2.1
  header _ _ h hunset := by rwa [upgradeWords_drop h.2.2]

def blankFlash : Bytes := List.replicate FLASH_SIZE 0xFF

/-- The same flash with the header of a first node in its configuration partition. -/
def writtenFlash : Bytes :=
  List.replicate CONFIG_START 0xFF ++ [0x85, 0x19] ++ List.replicate (FLASH_SIZE - CONFIG_START - 2) 0xFF

theorem writtenFlash_write : sampleHardware.fileSystem blankFlash writtenFlash := by
  refine ⟨?_, ?_, ?_⟩
  · rw [writtenFlash, blankFlash, List.length_append, List.length_append, List.length_replicate, List.length_replicate,
      List.length_replicate]
    decide
  · rw [writtenFlash, blankFlash, List.append_assoc, List.take_left' List.length_replicate, List.take_replicate]
    rfl
  · have hbefore : (List.replicate CONFIG_START (0xFF : UInt8) ++ [0x85, 0x19]).length = CONFIG_START + 2 := by
      rw [List.length_append, List.length_replicate]
      rfl
    have hoffset : UPGRADE_WORD_OFFSET = CONFIG_START + 2 + 0x17FFE := by decide
    rw [writtenFlash, blankFlash, hoffset, ← hbefore, ← List.drop_drop, List.drop_left, hbefore, List.drop_replicate,
      List.drop_replicate]
    rfl

theorem writtenFlash_ne : writtenFlash ≠ blankFlash := by
  intro hsame
  have hmem : (0x85 : UInt8) ∈ writtenFlash :=
    List.mem_append_left _ (List.mem_append_right _ List.mem_cons_self)
  rw [hsame] at hmem
  exact absurd (List.eq_of_mem_replicate hmem) (by decide)

theorem blankFlash_unset : splChooseBootPath (upgradeWords blankFlash) = .normalBoot := by
  have hend : UPGRADE_WORD_OFFSET + 8 ≤ FLASH_SIZE := by decide
  rw [upgradeWords, blankFlash, slice_replicate _ _ hend]
  decide

/-- A SET of `adb_en` behind which the file has changed. -/
theorem runs_enableAdb : ∃ r, u16 r 3 = 0x2F41 ∧ Runs (dispatchNormalReport r .start)
    [⟨.readFile HidUpdate.UVC_CONFIG, some (ascii "adb_en:0\n")⟩,
      ⟨.rewriteFile HidUpdate.UVC_CONFIG (ascii "adb_en:1\n"), ()⟩,
      ⟨.writeReport (responseReport 0x2F41 ST_OK 0 []), (0 : Int)⟩] (.returned .start) := by
  obtain ⟨r, -, -, haccepted⟩ := HidUpdate.exists_normalReport 0x2F41 0 1 (ascii "1") (by decide) (by decide) (.inl rfl)
    (by decide)
  have hcommand : u16 r 3 = 0x2F41 := haccepted.command
  have hread : HidUpdate.payloadOf r (u16 r 6) = .ok (ascii "1") := HidUpdate.payloadOf_accepted haccepted
  have hkey : HidUpdate.configKeyFor 0x2F41 = some (ascii "adb_en", true) := by decide
  have hfound : HidUpdate.findLine (ascii "adb_en") (ascii "adb_en:0\n").length [] (ascii "adb_en:0\n") =
      some (ascii "adb_en:", ascii "\n") := by decide
  have hset := HidUpdate.runs_configSet (by decide) hfound hread (by decide) 0x2F41
  refine ⟨r, hcommand, ?_⟩
  rw [HidUpdate.dispatch_config haccepted rfl, HidUpdate.dispatchConfig, hcommand, hkey]
  exact runs_bind.mpr ⟨_, (), [], hset, .ret _, (List.append_nil _).symm⟩

-- a SET that the file system carries out, a boot that cannot read the words, and a power cut in an upload
theorem run_staysDormant_enableAdb :
    ∃ set start d', Run sampleHardware ⟨blankFlash, .normal .start⟩
        [.report set [], .reset false true, .report start []] d' ∧
      d'.flash ≠ blankFlash ∧ d'.flash.take CONFIG_START = blankFlash.take CONFIG_START ∧ Dormant d' := by
  obtain ⟨set, hset, hsetRun⟩ := runs_enableAdb
  obtain ⟨start, hstart⟩ := HidUpdate.exists_built_bare (show 0x3000 < 2 ^ 16 by decide)
  have hstartCommand : u16 start 3 = 0x3000 := (HidUpdate.accepted_of_built_request (.start hstart)).2.command
  have hserved : Serves sampleHardware (dispatchNormalReport set .start) blankFlash _ (.returned .start) writtenFlash :=
    .through hsetRun (.cons rfl (.cons writtenFlash_write (.cons rfl (.nil _))))
  have hclear : Runs (clearUpgradeWords >>= fun _ => pure DaemonContext.start) [⟨.getFlash UPGRADE_WORD_OFFSET 8, none⟩]
      (.returned .start) := .act (.ret _)
  have hboots : Boots sampleHardware writtenFlash false true ⟨writtenFlash, .normal .start⟩ :=
    .normal rfl (.inl rfl) (.through hclear (.cons ⟨.inl rfl, rfl⟩ (.nil _)))
  have hcut : Runs (dispatchNormalReport start .start) [⟨.malloc HidUpdate.UPLOAD_CAPACITY, none⟩] .running := by
    rw [HidUpdate.dispatch_built (.start hstart) HidUpdate.sound_start]
    exact .act (.stop _)
  have hrun : Run sampleHardware ⟨blankFlash, .normal .start⟩ [.report set [], .reset false true, .report start []]
      ⟨writtenFlash, .off⟩ :=
    .cons (.served hserved) (.cons (.reset hboots) (.cons (.served (.through hcut (.cons rfl (.nil _)))) (.nil _)))
  have hlabels : ∀ l ∈ [Label.report set [], .reset false true, .report start []], ¬l.Reaching := by
    refine List.forall_mem_cons.mpr ⟨?_, List.forall_mem_cons.mpr ⟨id, List.forall_mem_singleton.mpr ?_⟩⟩
    · rw [Label.Reaching, hset]
      decide
    · rw [Label.Reaching, hstartCommand]
      decide
  exact ⟨set, start, _, hrun, writtenFlash_ne, run_staysDormant sampleHardware_files hrun hlabels
    ⟨blankFlash_unset, fun _ _ => Mode.noConfusion⟩⟩

/-! ## The updater -/

/-- The words are set, and the daemon is not running. -/
structure Armed (transport : UpdateTransport) (d : Device) : Prop where
  path : splChooseBootPath (upgradeWords d.flash) = .mainUbootUpdater
  transport : selectUpdateTransport (upgradeWords d.flash) = transport
  mode : ∀ ctx, d.mode ≠ .normal ctx

/-- The updater has received and verified a whole image. -/
def Label.Programs : Label → Prop
  | .report _ effects => ∃ e ∈ effects, e.isFlash = true
  | _ => False

/-- No reset whose SPL cannot read the words: it boots Linux, and the daemon then clears them. -/
def Label.SplReads : Label → Prop
  | .reset splRead _ => splRead = true
  | _ => True

theorem programmed_of_not {e : Effect} (h : e.isFlash = false) (chip : Chip) (flash : Bytes) :
    programmed chip flash e = flash := by
  cases e with
  | flashErase offset length => exact Bool.noConfusion h
  | flashWrite offset length data => exact Bool.noConfusion h
  | _ => rfl

/-- Of the effects only those on the flash count. -/
theorem programAll_filter (chip : Chip) (flash : Bytes) (effects : List Effect) :
    programAll chip flash (effects.filter Effect.isFlash) = programAll chip flash effects := by
  induction effects generalizing flash with
  | nil => rfl
  | cons e effects ih =>
    cases he : e.isFlash with
    | true =>
      rw [List.filter_cons_of_pos he]
      exact ih _
    | false =>
      rw [List.filter_cons_of_neg (by simp [he]), ih]
      exact congrArg (programAll chip · effects) (programmed_of_not he chip flash).symm

theorem programAll_append (chip : Chip) (flash : Bytes) (effects effects' : List Effect) :
    programAll chip flash (effects ++ effects') = programAll chip (programAll chip flash effects) effects' :=
  List.foldl_append

theorem programAll_of_not {effects : List Effect} (h : ∀ e ∈ effects, e.isFlash = false) (chip : Chip) (flash : Bytes) :
    programAll chip flash effects = flash := by
  have hnone : effects.filter Effect.isFlash = [] := List.filter_eq_nil_iff.mpr fun e he => by simp [h e he]
  rw [← programAll_filter, hnone]
  rfl

theorem not_programs {effects : List Effect} (h : ¬(Label.report r effects).Programs) :
    ∀ e ∈ effects, e.isFlash = false :=
  fun e he => Bool.not_eq_true _ ▸ fun hflash => h ⟨e, he, hflash⟩

/-- The updater a boot starts: U-Boot offers HID where it cannot read the words. -/
def bootTransport (transport : UpdateTransport) (ubootRead : Bool) : UpdateTransport :=
  if ubootRead then transport else .hid

theorem boots_armed {transport : UpdateTransport} (hd : Armed transport d) {ubootRead : Bool}
    (hboots : Boots hw d.flash true ubootRead d') :
    d' = ⟨d.flash, .updater (bootTransport transport ubootRead) .fresh⟩ := by
  cases hboots with
  | updater _ =>
    cases ubootRead with
    | true => exact congrArg (fun transport => Device.mk d.flash (.updater transport .fresh)) hd.transport
    | false => rfl
  | normal hunset _ _ =>
    have hset : splChooseBootPath (wordsRead true d.flash) = .mainUbootUpdater := hd.path
    rw [hset] at hunset
    cases hunset

theorem Armed.of_flash {transport : UpdateTransport} (hd : Armed transport d) (hflash : d'.flash = d.flash)
    (hmode : ∀ ctx, d'.mode ≠ .normal ctx) : Armed transport d' where
  path := by rw [hflash]; exact hd.path
  transport := by rw [hflash]; exact hd.transport
  mode := hmode

theorem Step.staysArmed {transport : UpdateTransport} (h : Step hw d l d') (hl : ¬l.Programs ∧ l.SplReads)
    (hd : Armed transport d) : d'.flash = d.flash ∧ Armed transport d' := by
  obtain ⟨hprograms, hreads⟩ := hl
  cases h with
  | reset hboots =>
    obtain rfl := hreads
    obtain rfl := boots_armed hd hboots
    exact ⟨rfl, hd.of_flash rfl fun _ => Mode.noConfusion⟩
  | fileWrite _ => exact absurd rfl (hd.mode _)
  | lost => exact ⟨rfl, hd⟩
  | served _ => exact absurd rfl (hd.mode _)
  | received _ =>
    have hflash := programAll_of_not (not_programs hprograms) hw.chip
    exact ⟨hflash _, hd.of_flash (hflash _) fun _ => Mode.noConfusion⟩
  | interrupted _ hflash =>
    have hsame := hflash (not_programs hprograms)
    exact ⟨hsame, hd.of_flash hsame fun _ => Mode.noConfusion⟩
  | fault _ => exact ⟨rfl, hd.of_flash rfl fun _ => Mode.noConfusion⟩

/-- Until an image has been verified, nothing that is sent, no allocation that fails and no power cut loses the
updater. -/
theorem run_staysArmed {transport : UpdateTransport} (h : Run hw d ls d') (hls : ∀ l ∈ ls, ¬l.Programs ∧ l.SplReads)
    (hd : Armed transport d) : d'.flash = d.flash ∧ Armed transport d' := by
  induction h with
  | nil d => exact ⟨rfl, hd⟩
  | cons hstep _ ih =>
    obtain ⟨hflash, hd₁⟩ := hstep.staysArmed (hls _ List.mem_cons_self) hd
    obtain ⟨hflash', hd'⟩ := ih (fun l hl => hls l (List.mem_cons_of_mem _ hl)) hd₁
    exact ⟨hflash'.trans hflash, hd'⟩

/-! ## The upgrade request -/

/-- What the upgrade words rely on: return code 0 of the driver means that they are stored, and a reboot keeps them. -/
structure Hardware.Stores (hw : Hardware) : Prop where
  setFlash : ∀ flash data flash', data.length = 8 → hw.setFlash flash UPGRADE_WORD_OFFSET data flash' 0 →
    upgradeWords flash' = data
  reboot : ∀ flash flash', hw.shell REBOOT flash flash' → upgradeWords flash' = upgradeWords flash

/-- What a mode asks for, and what the two stages of the boot make of it. -/
theorem armed_of_payload {mode : Nat} {payload : Bytes} (h : upgradeFlagPayload mode = .ok payload) :
    splChooseBootPath payload = .mainUbootUpdater ∧
      selectUpdateTransport payload = (if mode = UPGRADE_MODE_CDC then .cdc else .hid) := by
  obtain ⟨_, hmode, hpayload⟩ := bind_eq_ok.mp h
  rw [raiseIf_eq_ok, not_not] at hmode
  -- the two words of either mode, as the boot reads them
  rcases hmode with rfl | rfl
  · obtain rfl : [0x54, 0x44, 0x50, 0x55, 0xa0, 0x03, 0x02, 0x01] = payload := Except.ok.inj hpayload
    exact ⟨rfl, rfl⟩
  · obtain rfl : [0x54, 0x44, 0x50, 0x55, 0xa1, 0x03, 0x02, 0x01] = payload := Except.ok.inj hpayload
    exact ⟨rfl, rfl⟩

section Answer

variable {command : Nat} {out : Outcome HidUpdate.Fault Unit}

/-- What the daemon has done when an upgrade request is acknowledged: behind the answer it only reboots. -/
inductive Acknowledged (payload answer : Bytes) : DaemonTrace → Prop where
  | answered {heapCopy : DaemonReply (.malloc 8)} {found : Option Bytes} {sent : Int} :
    Acknowledged payload answer [⟨.malloc 8, heapCopy⟩, ⟨.setFlash UPGRADE_WORD_OFFSET payload, (0 : Int)⟩,
      ⟨.getFlash UPGRADE_WORD_OFFSET 8, found⟩, ⟨.writeReport answer, sent⟩]
  | rebooted {heapCopy : DaemonReply (.malloc 8)} {found : Option Bytes} {sent : Int} :
    Acknowledged payload answer [⟨.malloc 8, heapCopy⟩, ⟨.setFlash UPGRADE_WORD_OFFSET payload, (0 : Int)⟩,
      ⟨.getFlash UPGRADE_WORD_OFFSET 8, found⟩, ⟨.writeReport answer, sent⟩, ⟨.system REBOOT, ()⟩]

end Answer

end Lifecycle

end Cc2Camera.Lifecycle
