import Cc2Camera.Image.Recovered

/-!
# Reads — what the read gate of `build_recovery` takes as evidence

The gate counts the confirmation paths it was given.  It does not ask whether they name different files.
-/

open Bytes Exceptions

namespace Cc2Camera.Image

variable (hashlib : Hashlib) (codecs : Codecs) (pyText : PyText) (json : JsonCodec)

/-- `build_recovery` up to and with the read gate. -/
def readGate (disk : Disk) (inputPath : Path) (confirmationPaths : List Path) (options : Options) :
    Except Exc (Bytes × Analysis) := do
  raiseIf (options.wipeUnknownConfig && options.preserves)
    (.validationError "--wipe-unknown-config is valid only with --config-mode serial-only")
  let (image, inputSource) ← readImageSource hashlib pyText json inputPath (disk.file inputPath)
  let confirmedReads ← verifyConfirmationReads hashlib pyText json disk image confirmationPaths
  let analysis ← analyzeImage hashlib codecs image (sourceName inputPath inputSource)
    (options.wipeUnknownConfig || options.preserves) options.preserves
  raiseIf (totalReads inputSource confirmedReads < MIN_IDENTICAL_READS && !options.allowFewerReads)
    (.validationError ("Only " ++ toString (totalReads inputSource confirmedReads) ++
      " identical physical read(s) were supplied. " ++
      "Provide " ++ toString MIN_IDENTICAL_READS ++ " " ++
      "total physical reads with --confirm-read, or explicitly accept the " ++
      "higher risk with --allow-fewer-reads."))
  .ok (image, analysis)

/-- `build_recovery` behind the read gate. -/
def buildAccepted (disk : Disk) (inputPath outputDir : Path) (confirmationPaths : List Path) (options : Options)
    (image : Bytes) (analysis : Analysis) : Except Exc Recovery := do
  protectInputs disk outputDir (inputPath :: confirmationPaths)
  raiseIf (disk.lexists outputDir) .fileExistsError
  disk.stage outputDir
  let recovery ← rebuildImage hashlib codecs image analysis options.configMode
  disk.write outputDir
  disk.publish outputDir
  .ok recovery

theorem buildRecovery_eq_readGate (disk : Disk) (inputPath outputDir : Path) (confirmationPaths : List Path)
    (options : Options) :
    buildRecovery hashlib codecs pyText json disk inputPath outputDir confirmationPaths options =
      readGate hashlib codecs pyText json disk inputPath confirmationPaths options >>= fun accepted =>
        buildAccepted hashlib codecs disk inputPath outputDir confirmationPaths options accepted.1 accepted.2 := by
  unfold buildRecovery readGate buildAccepted
  simp only [bind_assoc]
  rfl

/-! ## Evidence -/

section Evidence

variable (disk : Disk) (image : Bytes) (sources : List Path)

/-- A source with the image in it. -/
def Reads (path : Path) : Prop :=
  ∃ source, readImageSource hashlib pyText json path (disk.file path) = .ok (image, source)

/-- A validated backup of the image by USB, which stands for three reads. -/
def IsBackup (path : Path) : Prop :=
  ∃ passes, readImageSource hashlib pyText json path (disk.file path) = .ok (image, usbEvidence hashlib image passes)

def IsArchive (path : Path) : Prop := pyText.casefold path.suffix = ZIP_SUFFIX

instance (path : Path) : Decidable (IsArchive pyText path) := inferInstanceAs (Decidable (_ = _))

/-- Three of the paths that satisfy `p` are different files. -/
def ThreeFiles (p : Path → Prop) : Prop :=
  ∃ a ∈ sources, ∃ b ∈ sources, ∃ c ∈ sources, (p a ∧ p b ∧ p c) ∧
    disk.resolve a ≠ disk.resolve b ∧ disk.resolve a ≠ disk.resolve c ∧ disk.resolve b ≠ disk.resolve c

/-- A backup with three reads of the image, or three files that hold it. -/
def Evidenced : Prop :=
  (∃ path ∈ sources, IsBackup hashlib pyText json disk image path) ∨
    ThreeFiles disk sources (Reads hashlib pyText json disk image)

end Evidence

/-- What the read gate is for, and that nothing is built that has not passed it. -/
structure EvidenceLaw (disk : Disk) (inputPath : Path) (confirmationPaths : List Path) (mode : ConfigMode)
    (wipe : Bool) : Prop where
  gated : ∀ outputDir, buildRecovery hashlib codecs pyText json disk inputPath outputDir confirmationPaths
      ⟨mode, wipe, false⟩ =
    readGate hashlib codecs pyText json disk inputPath confirmationPaths ⟨mode, wipe, false⟩ >>= fun accepted =>
      buildAccepted hashlib codecs disk inputPath outputDir confirmationPaths ⟨mode, wipe, false⟩ accepted.1 accepted.2
  evidenced : ∀ image analysis,
    readGate hashlib codecs pyText json disk inputPath confirmationPaths ⟨mode, wipe, false⟩ = .ok (image, analysis) →
      Evidenced hashlib pyText json disk image (inputPath :: confirmationPaths)
  mismatch : ∀ image source, readImageSource hashlib pyText json inputPath (disk.file inputPath) = .ok (image, source) →
    ∀ path ∈ confirmationPaths, ∀ data source',
      readImageSource hashlib pyText json path (disk.file path) = .ok (data, source') → data ≠ image →
        ∀ outputDir fewer, ∃ e, buildRecovery hashlib codecs pyText json disk inputPath outputDir confirmationPaths
          ⟨mode, wipe, fewer⟩ = .error e

/-- The sources hold one image, and the builder has nothing against them but their number. -/
structure Agreeing (disk : Disk) (inputPath : Path) (confirmationPaths : List Path) (mode : ConfigMode) (wipe : Bool)
    (image : Bytes) : Prop where
  options : ¬((wipe && (⟨mode, wipe, false⟩ : Options).preserves) = true)
  reads : ∀ path ∈ inputPath :: confirmationPaths, Reads hashlib pyText json disk image path
  analyzed : ∃ name analysis, analyzeImage hashlib codecs image name
    (wipe || (⟨mode, wipe, false⟩ : Options).preserves) (⟨mode, wipe, false⟩ : Options).preserves = .ok analysis

/-! ## Confirmation reads -/

section Confirmed

variable {hashlib codecs pyText json} {disk : Disk} {primary : Bytes}

/-- What is recorded of a confirmation read. -/
def recordOf (path : Path) (source : Source) : ConfirmedRead :=
  { filename := path.str
    sourceFormat := source.format
    evidencedIdenticalReads := source.evidencedIdenticalReads }

theorem confirmRead_eq_ok {path : Path} {r : ConfirmedRead} :
    confirmRead hashlib pyText json disk primary path = .ok r ↔
      ∃ source, readImageSource hashlib pyText json path (disk.file path) = .ok (primary, source) ∧
        r = recordOf path source := by
  unfold confirmRead
  rw [bind_eq_ok]
  constructor
  · rintro ⟨⟨data, source⟩, hread, h⟩
    obtain ⟨_, hlength, h⟩ := bind_eq_ok.mp h
    by_cases hdata : data = primary
    · subst hdata
      rw [if_neg (not_not.mpr rfl)] at h
      exact ⟨source, hread, (Except.ok.inj h).symm⟩
    · rw [if_pos hdata] at h
      obtain ⟨_, _, h⟩ := bind_eq_ok.mp h
      obtain ⟨_, _, h⟩ := bind_eq_ok.mp h
      cases h
  · rintro ⟨source, hread, rfl⟩
    refine ⟨(primary, source), hread, ?_⟩
    dsimp only
    rw [raiseIf_of_not (not_not.mpr rfl), ok_bind, if_neg (not_not.mpr rfl)]
    rfl

/-- The records are those of the paths, one each, and every path has the primary image. -/
theorem records_of_verify {paths : List Path} {confirmed : List ConfirmedRead}
    (h : verifyConfirmationReads hashlib pyText json disk primary paths = .ok confirmed) :
    confirmed.length = paths.length ∧
      (∀ path ∈ paths, ∃ source, readImageSource hashlib pyText json path (disk.file path) = .ok (primary, source) ∧
        recordOf path source ∈ confirmed) ∧
      ∀ r ∈ confirmed, ∃ path ∈ paths, ∃ source,
        readImageSource hashlib pyText json path (disk.file path) = .ok (primary, source) ∧ r = recordOf path source := by
  induction paths generalizing confirmed with
  | nil =>
    cases h
    exact ⟨rfl, nofun, nofun⟩
  | cons path paths ih =>
    obtain ⟨r, hr, h⟩ := bind_eq_ok.mp h
    obtain ⟨rs, hrs, h⟩ := bind_eq_ok.mp h
    cases h
    obtain ⟨source, hread, rfl⟩ := confirmRead_eq_ok.mp hr
    obtain ⟨hlength, hpaths, hrecords⟩ := ih hrs
    refine ⟨congrArg Nat.succ hlength, ?_, ?_⟩
    · refine List.forall_mem_cons.mpr ⟨⟨source, hread, List.mem_cons_self⟩, fun other hother => ?_⟩
      obtain ⟨source', hread', hmem⟩ := hpaths other hother
      exact ⟨source', hread', List.mem_cons_of_mem _ hmem⟩
    · refine List.forall_mem_cons.mpr ⟨⟨path, List.mem_cons_self, source, hread, rfl⟩, fun r hr => ?_⟩
      obtain ⟨other, hother, hrest⟩ := hrecords r hr
      exact ⟨other, List.mem_cons_of_mem _ hother, hrest⟩

theorem verify_of_reads {paths : List Path} (h : ∀ path ∈ paths, Reads hashlib pyText json disk primary path) :
    ∃ confirmed, verifyConfirmationReads hashlib pyText json disk primary paths = .ok confirmed := by
  induction paths with
  | nil => exact ⟨[], rfl⟩
  | cons path paths ih =>
    obtain ⟨⟨source, hread⟩, hpaths⟩ := List.forall_mem_cons.mp h
    obtain ⟨confirmed, hconfirmed⟩ := ih hpaths
    refine ⟨recordOf path source :: confirmed, ?_⟩
    rw [verifyConfirmationReads, confirmRead_eq_ok.mpr ⟨source, hread, rfl⟩, ok_bind, hconfirmed, ok_bind]

theorem le_foldl_max {n m : Nat} {xs : List Nat} : n ≤ xs.foldl max m ↔ n ≤ m ∨ ∃ x ∈ xs, n ≤ x := by
  induction xs generalizing m with
  | nil => simp
  | cons x xs ih => rw [List.foldl_cons, ih, le_max_iff, List.exists_mem_cons_iff, or_assoc]

end Confirmed

/-! ## Sources -/

section Gate

variable {hashlib codecs pyText json} {disk : Disk} {image : Bytes} {inputPath : Path} {confirmationPaths : List Path}
  {mode : ConfigMode} {wipe : Bool}

theorem usbEvidence_of_validated {manifest : Json} {source : Source}
    (h : validateUsbBackupManifest hashlib pyText manifest image = .ok source) :
    ∃ passes, source = usbEvidence hashlib image passes := by
  unfold validateUsbBackupManifest at h
  simp only [bind_eq_ok] at h
  obtain ⟨_, _, _, _, _, _, _, _, _, _, _, _, _, _, _, _, passes, _, _, _, _, _, _, _, _, _, _, _, h⟩ := h
  exact ⟨passes, (Except.ok.inj h).symm⟩

/-- An archive stands for three reads, a raw dump for one. -/
theorem readImageSource_cases {path : Path} {file : FileView} {source : Source}
    (h : readImageSource hashlib pyText json path file = .ok (image, source)) :
    (IsArchive pyText path ∧ ∃ passes, source = usbEvidence hashlib image passes) ∨
      (¬IsArchive pyText path ∧ source.imageMember = none ∧ source.evidencedIdenticalReads = 1) := by
  unfold readImageSource at h
  split at h
  · next hraw =>
    obtain ⟨_, _, h⟩ := bind_eq_ok.mp h
    cases h
    exact .inr ⟨hraw, rfl, rfl⟩
  · next harchive =>
    obtain ⟨⟨_, _⟩, _, h⟩ := bind_eq_ok.mp h
    obtain ⟨_, _, h⟩ := bind_eq_ok.mp h
    obtain ⟨_, _, h⟩ := bind_eq_ok.mp h
    obtain ⟨source', hsource, h⟩ := bind_eq_ok.mp h
    cases h
    exact .inl ⟨not_not.mp harchive, usbEvidence_of_validated hsource⟩

theorem IsBackup.isArchive {path : Path} (h : IsBackup hashlib pyText json disk image path) : IsArchive pyText path := by
  obtain ⟨passes, hread⟩ := h
  rcases readImageSource_cases hread with ⟨harchive, -⟩ | ⟨-, hnone, -⟩
  · exact harchive
  · cases hnone

theorem Reads.isBackup {path : Path} (h : Reads hashlib pyText json disk image path) (harchive : IsArchive pyText path) :
    IsBackup hashlib pyText json disk image path := by
  obtain ⟨source, hread⟩ := h
  rcases readImageSource_cases hread with ⟨-, passes, rfl⟩ | ⟨hraw, -⟩
  · exact ⟨passes, hread⟩
  · exact absurd harchive hraw

/-! ## The gate -/

theorem readGate_eq_ok {options : Options} {analysis : Analysis} :
    readGate hashlib codecs pyText json disk inputPath confirmationPaths options = .ok (image, analysis) ↔
      ¬(options.wipeUnknownConfig && options.preserves) = true ∧
      ∃ source confirmed,
        readImageSource hashlib pyText json inputPath (disk.file inputPath) = .ok (image, source) ∧
        verifyConfirmationReads hashlib pyText json disk image confirmationPaths = .ok confirmed ∧
        analyzeImage hashlib codecs image (sourceName inputPath source)
          (options.wipeUnknownConfig || options.preserves) options.preserves = .ok analysis ∧
        ¬(totalReads source confirmed < MIN_IDENTICAL_READS && !options.allowFewerReads) = true := by
  unfold readGate
  constructor
  · intro h
    obtain ⟨_, hoptions, h⟩ := bind_eq_ok.mp h
    obtain ⟨⟨image', source⟩, hread, h⟩ := bind_eq_ok.mp h
    obtain ⟨confirmed, hconfirmed, h⟩ := bind_eq_ok.mp h
    obtain ⟨analysis', hanalysis, h⟩ := bind_eq_ok.mp h
    obtain ⟨_, hreads, h⟩ := bind_eq_ok.mp h
    cases h
    exact ⟨raiseIf_eq_ok.mp hoptions, source, confirmed, hread, hconfirmed, hanalysis, raiseIf_eq_ok.mp hreads⟩
  · rintro ⟨hoptions, source, confirmed, hread, hconfirmed, hanalysis, hreads⟩
    rw [raiseIf_of_not hoptions, ok_bind, hread, ok_bind]
    dsimp only
    rw [hconfirmed, ok_bind, hanalysis, ok_bind, raiseIf_of_not hreads, ok_bind]

/-- A confirmation read with other contents stops the build, whatever else it is given. -/
theorem buildRecovery_of_mismatch {source other : Source} {path outputDir : Path} {data : Bytes} {options : Options}
    (hinput : readImageSource hashlib pyText json inputPath (disk.file inputPath) = .ok (image, source))
    (hpath : path ∈ confirmationPaths)
    (hread : readImageSource hashlib pyText json path (disk.file path) = .ok (data, other)) (hdata : data ≠ image) :
    ∃ e, buildRecovery hashlib codecs pyText json disk inputPath outputDir confirmationPaths options = .error e := by
  cases hbuild : buildRecovery hashlib codecs pyText json disk inputPath outputDir confirmationPaths options with
  | error e => exact ⟨e, rfl⟩
  | ok recovery =>
    obtain ⟨-, image', _, confirmed, _, hinput', hconfirmed, -⟩ :=
      (buildRecovery_eq_ok hashlib codecs pyText json).mp hbuild
    obtain ⟨rfl, -⟩ := Prod.mk.inj (Except.ok.inj (hinput.symm.trans hinput'))
    obtain ⟨_, hread', -⟩ := (records_of_verify hconfirmed).2.1 path hpath
    exact absurd (Prod.mk.inj (Except.ok.inj (hread.symm.trans hread'))).1 hdata

theorem le_totalReads {source : Source} {confirmed : List ConfirmedRead} {n : Nat} :
    n ≤ totalReads source confirmed ↔ n ≤ source.evidencedIdenticalReads ∨ n ≤ 1 + confirmed.length ∨
      ∃ r ∈ confirmed, n ≤ r.evidencedIdenticalReads := by
  rw [totalReads, le_foldl_max, le_max_iff, or_assoc]
  simp only [List.mem_map, exists_exists_and_eq_and]

theorem readGate_reads {options : Options} {analysis : Analysis}
    (h : readGate hashlib codecs pyText json disk inputPath confirmationPaths options = .ok (image, analysis)) :
    ∀ path ∈ inputPath :: confirmationPaths, Reads hashlib pyText json disk image path := by
  obtain ⟨-, source, confirmed, hread, hconfirmed, -⟩ := readGate_eq_ok.mp h
  refine List.forall_mem_cons.mpr ⟨⟨source, hread⟩, fun path hpath => ?_⟩
  obtain ⟨source', hread', -⟩ := (records_of_verify hconfirmed).2.1 path hpath
  exact ⟨source', hread'⟩

-- without an archive the count is that of the paths
theorem two_le_of_readGate {analysis : Analysis}
    (h : readGate hashlib codecs pyText json disk inputPath confirmationPaths ⟨mode, wipe, false⟩ = .ok (image, analysis))
    (hraw : ∀ path ∈ inputPath :: confirmationPaths, ¬IsArchive pyText path) : 2 ≤ confirmationPaths.length := by
  obtain ⟨-, source, confirmed, hread, hconfirmed, -, hreads⟩ := readGate_eq_ok.mp h
  obtain ⟨hlength, -, hrecords⟩ := records_of_verify hconfirmed
  have hthree : MIN_IDENTICAL_READS ≤ totalReads source confirmed := by
    by_contra hfew
    simp [not_le.mp hfew] at hreads
  have hone {path : Path} {source : Source} (hpath : path ∈ inputPath :: confirmationPaths)
      (hread : readImageSource hashlib pyText json path (disk.file path) = .ok (image, source)) :
      source.evidencedIdenticalReads = 1 := by
    rcases readImageSource_cases hread with ⟨harchive, -⟩ | ⟨-, -, hone⟩
    · exact absurd harchive (hraw path hpath)
    · exact hone
  rcases le_totalReads.mp hthree with hsource | hcount | ⟨r, hr, hrecord⟩
  · rw [hone List.mem_cons_self hread] at hsource
    exact absurd hsource (by decide)
  · rw [hlength] at hcount
    simp only [MIN_IDENTICAL_READS] at hcount
    omega
  · obtain ⟨path, hpath, source', hread', rfl⟩ := hrecords r hr
    have hrecorded : (recordOf path source').evidencedIdenticalReads = 1 := hone (List.mem_cons_of_mem _ hpath) hread'
    rw [hrecorded] at hrecord
    exact absurd hrecord (by decide)

/-- Sources that agree pass the gate when they are three or more. -/
theorem Agreeing.readGate_ok (h : Agreeing hashlib codecs pyText json disk inputPath confirmationPaths mode wipe image)
    (hcount : 2 ≤ confirmationPaths.length) :
    ∃ analysis, readGate hashlib codecs pyText json disk inputPath confirmationPaths ⟨mode, wipe, false⟩ =
      .ok (image, analysis) := by
  obtain ⟨⟨source, hread⟩, hpaths⟩ := List.forall_mem_cons.mp h.reads
  obtain ⟨confirmed, hconfirmed⟩ := verify_of_reads hpaths
  obtain ⟨name, analysis, hanalysis⟩ := h.analyzed
  have hthree : MIN_IDENTICAL_READS ≤ totalReads source confirmed := by
    refine le_totalReads.mpr (.inr (.inl ?_))
    rw [(records_of_verify hconfirmed).1]
    simp only [MIN_IDENTICAL_READS]
    omega
  refine ⟨_, readGate_eq_ok.mpr ⟨h.options, source, confirmed, hread, hconfirmed,
    analyzeImage_sourceName hashlib codecs hanalysis _, ?_⟩⟩
  simp [hthree]

/-- The gate asks for evidence exactly on sources that are too few to pass it, hold an archive, or are three files. -/
theorem evidenceLaw_iff :
    EvidenceLaw hashlib codecs pyText json disk inputPath confirmationPaths mode wipe ↔
      ∀ image, Agreeing hashlib codecs pyText json disk inputPath confirmationPaths mode wipe image →
        (∃ path ∈ inputPath :: confirmationPaths, IsArchive pyText path) ∨ confirmationPaths.length < 2 ∨
          ThreeFiles disk (inputPath :: confirmationPaths) fun _ => True := by
  constructor
  · intro hlaw image hagree
    by_cases hcount : confirmationPaths.length < 2
    · exact .inr (.inl hcount)
    obtain ⟨analysis, hgate⟩ := hagree.readGate_ok (not_lt.mp hcount)
    rcases hlaw.evidenced image analysis hgate with ⟨path, hpath, hbackup⟩ | ⟨a, ha, b, hb, c, hc, -, hne⟩
    · exact .inl ⟨path, hpath, hbackup.isArchive⟩
    · exact .inr (.inr ⟨a, ha, b, hb, c, hc, ⟨trivial, trivial, trivial⟩, hne⟩)
  · intro hcondition
    refine ⟨fun outputDir => buildRecovery_eq_readGate .., fun image analysis hgate => ?_, ?_⟩
    · have hreads := readGate_reads hgate
      obtain ⟨hoptions, source, -, -, -, hanalysis, -⟩ := readGate_eq_ok.mp hgate
      have hagree : Agreeing hashlib codecs pyText json disk inputPath confirmationPaths mode wipe image :=
        ⟨hoptions, hreads, _, analysis, hanalysis⟩
      by_cases harchive : ∃ path ∈ inputPath :: confirmationPaths, IsArchive pyText path
      · obtain ⟨path, hpath, harchive⟩ := harchive
        exact .inl ⟨path, hpath, (hreads path hpath).isBackup harchive⟩
      have hraw : ∀ path ∈ inputPath :: confirmationPaths, ¬IsArchive pyText path :=
        fun path hpath harchives => harchive ⟨path, hpath, harchives⟩
      rcases hcondition image hagree with hsome | hfew | ⟨a, ha, b, hb, c, hc, -, hne⟩
      · exact absurd hsome harchive
      · exact absurd hfew (not_lt.mpr (two_le_of_readGate hgate hraw))
      · exact .inr ⟨a, ha, b, hb, c, hc, ⟨hreads a ha, hreads b hb, hreads c hc⟩, hne⟩
    · intro image source hinput path hpath data source' hread hdata outputDir fewer
      exact buildRecovery_of_mismatch hinput hpath hread hdata

end Gate

/-! ## One dump, named three times -/

theorem not_evidenceLaw_repeated :
    ¬EvidenceLaw lengthHashlib plainCodecs plainText noJson (dumpDisk blankUnitA) dumpPath [dumpPath, dumpPath]
      .serialOnly false := by
  intro hlaw
  have hreads : ∀ path ∈ [dumpPath, dumpPath, dumpPath],
      Reads lengthHashlib plainText noJson (dumpDisk blankUnitA) blankUnitA path := by
    simp only [List.forall_mem_cons, List.not_mem_nil, false_implies, implies_true, and_true]
    exact ⟨⟨_, rfl⟩, ⟨_, rfl⟩, ⟨_, rfl⟩⟩
  obtain ⟨_, -, hchecks⟩ := blankImage_checks plainCodecs serialA_isValid (by decide : (⟨2026, 3, 2⟩ : Date) ∈ HW_SUPPORTED_DATES)
    false
  have hagree : Agreeing lengthHashlib plainCodecs plainText noJson (dumpDisk blankUnitA) dumpPath [dumpPath, dumpPath]
      .serialOnly false blankUnitA :=
    ⟨nofun, hreads, dumpPath.str, _, (analyzeImage_eq_ok lengthHashlib plainCodecs).mpr ⟨_, _, _, _, _, hchecks, rfl⟩⟩
  obtain ⟨analysis, hgate⟩ := hagree.readGate_ok (le_refl 2)
  have hall : ∀ path ∈ [dumpPath, dumpPath, dumpPath], path = dumpPath := by simp
  rcases hlaw.evidenced blankUnitA analysis hgate with ⟨path, hpath, hbackup⟩ | ⟨a, ha, b, hb, _, _, _, hne, _⟩
  · rw [hall path hpath] at hbackup
    exact absurd hbackup.isArchive (by decide)
  · rw [hall a ha, hall b hb] at hne
    exact hne rfl

end Cc2Camera.Image
