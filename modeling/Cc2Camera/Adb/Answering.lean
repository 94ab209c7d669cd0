import Cc2Camera.Adb.Stable

/-!
# Answering — what `acquire_stable` returns on a camera that answers every read alike
-/

open Bytes Exceptions Program

namespace Cc2Camera.AdbBackup

open Host

variable {unicode : Unicode} {pyText : PyText} {adb : AdbClient}

theorem canReturn_process (command : List String) (timeout : ℚ) (timedOut : String) (stdout : Bytes) :
    CanReturn (adb.process command timeout timedOut) { returncode := 0, stdout := stdout, stderr := [] } :=
  canReturn_handle (canReturn_call (.runProcess command timeout) _)

theorem canReturn_run (args : List String) (timeout : ℚ) (stdout : Bytes) :
    CanReturn (adb.run unicode args timeout) stdout := by
  refine canReturn_bind (canReturn_process _ _ _ stdout) ?_
  exact canReturn_bind (canReturn_lift (raiseIf_of_not (not_not.mpr rfl))) (canReturn_ret _)

theorem canReturn_pull (remotePath localPath : String) :
    CanReturn (adb.pull unicode remotePath localPath) () := by
  refine canReturn_bind (canReturn_run _ _ []) (canReturn_bind (canReturn_call (.isFile localPath) true) ?_)
  exact canReturn_lift (raiseIf_of_not Bool.noConfusion)

/-- What a camera has to print to be identified. -/
structure Identifies (unicode : Unicode) (pyText : PyText) (state identity listing : Bytes)
    (parts : List MtdPartition) : Prop where
  online : unicode.strip (unicode.decode state) = text "device"
  root : text "uid=0" <:+: unicode.strip (unicode.decode identity)
  parsed : ∃ mtd, asciiStrict listing = .ok mtd ∧ parseProcMtd mtd = .ok parts
  valid : validatePartitionMap pyText (parts.map MtdPartition.record) = .ok ()

section Identified

variable {state identity listing : Bytes} {parts : List MtdPartition}

theorem canReturn_ensureAvailable {timeout : ℚ} (htimeout : 0 < timeout)
    (h : Identifies unicode pyText state identity listing parts) :
    CanReturn (adb.ensureAvailable unicode pyText timeout) () := by
  refine canReturn_bind (canReturn_lift (raiseIf_of_not (not_le_of_gt htimeout))) ?_
  refine canReturn_bind (canReturn_process _ _ _ state) (canReturn_lift ?_)
  rw [if_pos ⟨rfl, h.online⟩]

theorem canReturn_identityAndPartitions (h : Identifies unicode pyText state identity listing parts) :
    CanReturn (adb.identityAndPartitions unicode pyText) (unicode.strip (unicode.decode identity), parts) := by
  obtain ⟨mtd, hmtd, hparse⟩ := h.parsed
  refine canReturn_bind (canReturn_ensureAvailable rfl h) ?_
  refine canReturn_bind (canReturn_run _ _ identity) ?_
  refine canReturn_bind (canReturn_lift (raiseIf_of_not (not_not.mpr h.root))) ?_
  refine canReturn_bind (canReturn_run _ _ listing) (canReturn_bind (canReturn_lift hmtd) ?_)
  refine canReturn_bind (canReturn_lift hparse) (canReturn_bind (canReturn_lift h.valid) ?_)
  exact canReturn_ret _

end Identified

section Read

theorem canReturn_readPartitions (directory : String) (pieces : List (MtdPartition × Bytes))
    (hsizes : ∀ piece ∈ pieces, piece.2.length = piece.1.size) :
    CanReturn (adb.readPartitions unicode directory (pieces.map Prod.fst)) (pieces.flatMap Prod.snd) := by
  induction pieces with
  | nil => exact canReturn_ret []
  | cons piece pieces ih =>
    obtain ⟨hsize, hsizes⟩ := List.forall_mem_cons.mp hsizes
    have hpiece : CanReturn (adb.readPartition unicode directory piece.1) piece.2 := by
      refine canReturn_bind (canReturn_pull _ _) (canReturn_bind (canReturn_call (.readBytes _) piece.2) ?_)
      exact canReturn_bind (canReturn_lift (raiseIf_of_not (not_not.mpr hsize))) (canReturn_ret _)
    exact canReturn_bind hpiece (canReturn_bind (ih hsizes) (canReturn_ret _))

theorem canReturn_readFlashOnce (pieces : List (MtdPartition × Bytes))
    (hsizes : ∀ piece ∈ pieces, piece.2.length = piece.1.size)
    (hlength : (pieces.flatMap Prod.snd).length = FLASH_SIZE) :
    CanReturn (adb.readFlashOnce unicode (pieces.map Prod.fst)) (pieces.flatMap Prod.snd) := by
  refine canReturn_bind (canReturn_call (.makeTempDir _) "pull") ?_
  refine canReturn_bind (canReturn_ensuring (canReturn_readPartitions _ pieces hsizes)
    (canReturn_call (.removeTempDir _) ())) ?_
  exact canReturn_bind (canReturn_lift (raiseIf_of_not (not_not.mpr hlength))) (canReturn_ret _)

-- by induction on the equal reads still missing
theorem canReturn_acquireLoop {parts : List MtdPartition} {image : Bytes} {progress : ReadProgress}
    (hread : CanReturn (adb.readFlashOnce unicode parts) image) {missing remaining attempts consecutive : Nat}
    {previous : Option Bytes}
    (hprevious : (if previous = some image then consecutive + 1 else 1) = consecutive + 1)
    (hmissing : consecutive + missing + 1 = REQUIRED_IDENTICAL_READS) (hremaining : missing < remaining) :
    CanReturn (adb.acquireLoop unicode parts progress remaining attempts consecutive previous)
      (some { image := image, attempts := attempts + missing + 1, consecutive := REQUIRED_IDENTICAL_READS }) := by
  induction missing generalizing remaining attempts consecutive previous with
  | zero =>
    obtain ⟨remaining, rfl⟩ := Nat.exists_eq_succ_of_ne_zero (Nat.ne_of_gt hremaining)
    refine canReturn_bind hread (canReturn_bind (canReturn_printAll _) ?_)
    show CanReturn (if REQUIRED_IDENTICAL_READS ≤ _ then _ else _) _
    rw [hprevious, ← hmissing, Nat.add_zero, if_pos (Nat.le_refl _)]
    exact canReturn_ret _
  | succ missing ih =>
    obtain ⟨remaining, rfl⟩ := Nat.exists_eq_succ_of_ne_zero (Nat.ne_of_gt (Nat.zero_lt_of_lt hremaining))
    refine canReturn_bind hread (canReturn_bind (canReturn_printAll _) ?_)
    show CanReturn (if REQUIRED_IDENTICAL_READS ≤ _ then _ else _) _
    rw [hprevious, if_neg (by omega)]
    have hmissing' : consecutive + 1 + missing + 1 = REQUIRED_IDENTICAL_READS := by omega
    have hattempts : attempts + (missing + 1) + 1 = attempts + 1 + missing + 1 := by omega
    rw [hattempts]
    exact ih (if_pos rfl) hmissing' (Nat.lt_of_succ_lt_succ hremaining)

/-- Three equal reads are enough. -/
theorem canReturn_acquireStable {hashlib : Hashlib} {progress : ReadProgress} {state identity listing : Bytes}
    {pieces : List (MtdPartition × Bytes)} {image : Bytes} {bootloader : BootloaderReference} (createdUtc : String)
    (hidentifies : Identifies unicode pyText state identity listing (pieces.map Prod.fst))
    (hsizes : ∀ piece ∈ pieces, piece.2.length = piece.1.size) (himage : pieces.flatMap Prod.snd = image)
    (hlength : image.length = FLASH_SIZE) (hboot : bootloaderReference hashlib image = .ok bootloader) :
    CanReturn (acquireStable hashlib unicode pyText adb progress)
      (image,
        { createdUtc := createdUtc, adbSerial := adb.serial
          deviceIdentity := unicode.strip (unicode.decode identity), readPasses := 3
          consecutiveIdenticalReads := 3, bootloader := bootloader, digest := hashes hashlib image
          partitions := pieces.map Prod.fst }) := by
  have hread : CanReturn (adb.readFlashOnce unicode (pieces.map Prod.fst)) image := by
    rw [← himage] at hlength ⊢
    exact canReturn_readFlashOnce pieces hsizes hlength
  have hloop : CanReturn (adb.acquireLoop unicode (pieces.map Prod.fst) progress MAX_READ_ATTEMPTS 0 0 none)
      (some { image := image, attempts := 0 + 2 + 1, consecutive := REQUIRED_IDENTICAL_READS }) :=
    canReturn_acquireLoop hread rfl rfl (show 2 < 5 by decide)
  refine canReturn_bind (canReturn_identityAndPartitions hidentifies) (canReturn_bind hloop ?_)
  refine canReturn_bind (canReturn_lift rfl) (canReturn_bind (canReturn_call .utcNow createdUtc) ?_)
  exact canReturn_bind (canReturn_lift hboot) (canReturn_ret _)

end Read

/-! ## A stock camera -/

def utf8 : Unicode where
  decode bytes := bytes.map UInt8.toNat
  strip := stripped isSpace

def plainAdb : AdbClient := { executable := "adb", serial := none }

-- the lines of `/proc/mtd`
def stockMtd : List String :=
  ["dev:    size   erasesize  name\n", "mtd0: 00040000 00004000 \"boot\"\n", "mtd1: 00150000 00004000 \"kernel\"\n",
    "mtd2: 00158000 00004000 \"root\"\n", "mtd3: 004e8000 00004000 \"system\"\n",
    "mtd4: 00010000 00004000 \"hwconfig\"\n", "mtd5: 00020000 00004000 \"config\"\n"]

-- the partitions of an erased flash
def stockPieces : List (MtdPartition × Bytes) :=
  EXPECTED_PARTITIONS.zipIdx.map fun (e, i) =>
    ({ index := i, size := e.2, eraseSize := 0x4000, name := text e.1 }, List.replicate e.2 0xFF)

theorem stock_identifies :
    Identifies utf8 plainText (ascii "device\n") (ascii "uid=0(root) gid=0(root)\n") (stockMtd.flatMap ascii)
      (stockPieces.map Prod.fst) where
  online := by decide +kernel
  root := by decide +kernel
  parsed := ⟨stockMtd.flatMap text, by decide +kernel⟩
  valid := by decide +kernel

end Cc2Camera.AdbBackup
