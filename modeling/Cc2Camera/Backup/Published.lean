import Cc2Camera.Adb.Answering
import Cc2Camera.Backup.Produced

/-!
# Published — what `command_backup` publishes is what it read, and both readers take it
-/

open Bytes Exceptions Program

namespace Cc2Camera

open Host AdbBackup

/-! ## The archive that is linked -/

namespace Publish

variable {pyText : PyText} {json : JsonCodec} {zipfile : ZipFile} {b : Backup}

/-- A link publishes, at the destination of the call, the archive just written and verified. -/
def Links (json : JsonCodec) (zipfile : ZipFile) (b : Backup) (before : List (Event FileOp FileReply)) :
    FileOp → Prop
  | .link temp target => target = b.location ∧ ∃ earlier archive,
      before = earlier ++ [⟨.closeZip temp (b.members json), .ok ()⟩, ⟨.fsync temp, .ok ()⟩,
        ⟨.readZip temp, .ok archive⟩] ∧
      verifyArchive zipfile archive = .ok ()
  | _ => True

theorem wp_call {α : Type} {allowed : List (Event FileOp FileReply) → FileOp → Prop} {op : FileOp}
    {f : FileAnswer op → FileProgram α} {returns : List (Event FileOp FileReply) → α → Prop}
    {h : List (Event FileOp FileReply)} (hallowed : allowed h op)
    (hrest : ∀ a, (f a).wp allowed returns (fun _ _ => True) (h ++ [⟨op, .ok a⟩])) :
    (call op >>= f).wp allowed returns (fun _ _ => True) h := by
  refine ⟨hallowed, fun r => ?_⟩
  cases r with
  | ok a => exact hrest a
  | error x => trivial

theorem wp_publishArchive (temp : Location) (h : List (Event FileOp FileReply)) :
    (publishArchive json zipfile b temp).wp (Links json zipfile b)
      (fun h' _ => ⟨.link temp b.location, .ok ()⟩ ∈ h') (fun _ _ => True) h := by
  unfold publishArchive
  refine wp_call trivial fun _ => wp_call trivial fun _ => wp_call trivial fun _ => wp_call trivial fun _ => ?_
  refine wp_call trivial fun archive => wp_ofExcept fun _ hverified => ?_
  let written : List (Event FileOp FileReply) :=
    [⟨.writestr temp BACKUP_IMAGE_MEMBER b.image, .ok ()⟩,
      ⟨.writestr temp BACKUP_MANIFEST_MEMBER (json.dumps b.manifest), .ok ()⟩]
  refine wp_handle.mpr ⟨⟨rfl, h ++ written, archive, by simp [written], hverified⟩, fun r => ?_⟩
  cases r with
  | ok u => exact List.mem_append_right _ List.mem_cons_self
  | error x =>
    show Program.wp _ (if x = .fileExistsError then .raise b.overwrite else .raise x) _ _ _
    by_cases hx : x = .fileExistsError
    · rw [if_pos hx]
      trivial
    · rw [if_neg hx]
      trivial

theorem wp_saveBackup :
    (saveBackup pyText json zipfile b).wp (Links json zipfile b)
      (fun h _ => ∃ temp, ⟨.link temp b.location, .ok ()⟩ ∈ h) (fun _ _ => True) [] := by
  unfold saveBackup
  refine wp_ofExcept fun _ _ => wp_ofExcept fun _ _ => wp_call trivial fun present => wp_ofExcept fun _ _ => ?_
  refine wp_call trivial fun _ => wp_call trivial fun temp => ?_
  refine wp_bind.mpr (wp_handle.mpr (wp_mono (wp_publishArchive temp _) (fun h _ hlinked => ?_) fun h x _ => ?_))
  · refine wp_bind.mpr (wp_handle.mpr ⟨trivial, fun r => ?_⟩)
    cases r with
    | ok u => exact ⟨temp, List.mem_append_left _ hlinked⟩
    | error x =>
      show Program.wp _ (if x.isOsError then pure () else .raise x) _ _ _
      by_cases hx : x.isOsError = true
      · rw [if_pos hx]
        exact ⟨temp, List.mem_append_left _ hlinked⟩
      · rw [if_neg hx]
        trivial
  · by_cases hx : isException x = true
    · rw [if_pos hx]
      exact wp_call trivial fun _ => trivial
    · rw [if_neg hx]
      trivial

theorem canReturn_call (op : FileOp) (a : FileAnswer op) : CanReturn (call op) a :=
  canReturn_act (.ok a) (canReturn_ret a)

theorem canReturn_saveBackup (hpath : AdbBackup.validateBackupArchivePath pyText b.path = .ok ())
    (hlength : b.image.length = AdbBackup.FLASH_SIZE) {archive : Bytes}
    (hverified : verifyArchive zipfile archive = .ok ()) (temp : Location) :
    CanReturn (saveBackup pyText json zipfile b) b.location := by
  have hpublish : CanReturn (publishArchive json zipfile b temp) () := by
    refine canReturn_bind (canReturn_call (.writestr _ _ _) ()) (canReturn_bind (canReturn_call (.writestr _ _ _) ()) ?_)
    refine canReturn_bind (canReturn_call (.closeZip _ _) ()) (canReturn_bind (canReturn_call (.fsync _) ()) ?_)
    refine canReturn_bind (canReturn_call (.readZip _) archive) (canReturn_bind (canReturn_ofExcept hverified) ?_)
    exact canReturn_handle (canReturn_call (.link _ _) ())
  refine canReturn_bind (canReturn_ofExcept hpath) ?_
  refine canReturn_bind (canReturn_ofExcept (raiseIf_of_not (not_not.mpr hlength))) ?_
  refine canReturn_bind (canReturn_call (.pathExists _) false) ?_
  refine canReturn_bind (canReturn_ofExcept (raiseIf_of_not Bool.noConfusion)) ?_
  refine canReturn_bind (canReturn_call (.mkdirParents _) ()) (canReturn_bind (canReturn_call (.createTemp _ _ _) temp) ?_)
  refine canReturn_bind (canReturn_handle hpublish) ?_
  exact canReturn_bind (canReturn_handle (canReturn_call (.unlink _) ())) (canReturn_ret _)

end Publish

/-! ## Reading a published archive -/

/-- The archive shows the members it was written with, unencrypted. -/
structure Archive.Stores (archive : Archive) (members : List (Text × Bytes)) : Prop where
  names : archive.infolist.map (fun item => item.filename) = members.map Prod.fst
  plain : ∀ item ∈ archive.infolist, item.flagBits % 2 ≠ 1
  sizes : ∀ item ∈ archive.infolist, ∃ member ∈ members, item.filename = member.1 ∧
    item.fileSize = member.2.length
  contents : ∀ member ∈ members, archive.read member.1 = .ok member.2

theorem Archive.Stores.wellFormed {archive : Archive} {image manifestBytes : Bytes}
    (h : archive.Stores [(BACKUP_IMAGE_MEMBER, image), (BACKUP_MANIFEST_MEMBER, manifestBytes)])
    (himage : image.length = FLASH_SIZE) (hmanifest : manifestBytes.length ≤ MAX_MANIFEST_SIZE) :
    archive.WellFormed archivePolicy image manifestBytes := by
  have hdistinct : BACKUP_IMAGE_MEMBER ≠ BACKUP_MANIFEST_MEMBER := fun he =>
    absurd (text_injective he) (by decide)
  refine ⟨?_, h.plain, ?_, ?_, h.contents _ List.mem_cons_self,
    h.contents _ (List.mem_cons_of_mem _ List.mem_cons_self)⟩
  · rw [h.names]
    exact List.mem_cons_self
  · intro item hitem hname
    obtain ⟨member, hmember, hfilename, hsize⟩ := h.sizes item hitem
    rw [hname] at hfilename
    rcases List.mem_pair.mp hmember with rfl | rfl
    · exact hsize.trans himage
    · exact absurd hfilename hdistinct
  · intro item hitem hname
    obtain ⟨member, hmember, hfilename, hsize⟩ := h.sizes item hitem
    rw [hname] at hfilename
    rcases List.mem_pair.mp hmember with rfl | rfl
    · exact absurd hfilename.symm hdistinct
    · exact hsize.le.trans hmanifest

/-! ## The reads before an accepted image -/

theorem three_le_runLength (image : Bytes) (earlier : List Bytes) :
    3 ≤ runLength (image :: image :: image :: earlier) := by
  have hone : 1 ≤ runLength (image :: earlier) := by
    rw [runLength]
    split
    · omega
    · exact Nat.le_refl 1
  rw [runLength, runLength, List.head?_cons, List.head?_cons, if_pos rfl, if_pos rfl]
  omega

/-- No run of three equal images ends before the last read. -/
theorem settled_first {reads before after : List FlashRead} {r₁ r₂ r₃ : FlashRead} {image : Bytes}
    (h : Settled ((reads.map FlashRead.image).reverse) image)
    (hreads : reads = before ++ r₁ :: r₂ :: r₃ :: after) (hafter : after ≠ []) :
    ¬(r₁.image = r₂.image ∧ r₂.image = r₃.image) := by
  rintro ⟨h₁₂, h₂₃⟩
  have hsplit : (reads.map FlashRead.image).reverse =
      (after.map FlashRead.image).reverse ++
        (r₃.image :: r₂.image :: r₁.image :: (before.map FlashRead.image).reverse) := by
    rw [hreads]
    simp
  have hne : (after.map FlashRead.image).reverse ≠ [] := by simpa using hafter
  have hsuffix : r₃.image :: r₂.image :: r₁.image :: (before.map FlashRead.image).reverse <:+
      ((reads.map FlashRead.image).reverse).tail := by
    rw [hsplit, List.tail_append_of_ne_nil hne]
    exact List.suffix_append _ _
  have hfew := h.first _ hsuffix
  rw [h₁₂, h₂₃] at hfew
  exact absurd (three_le_runLength r₃.image (before.map FlashRead.image).reverse) (Nat.not_le_of_lt hfew)

section Runs

variable {hashlib : Hashlib} {unicode : Unicode} {pyText : PyText} {json : JsonCodec}
  {zipfile : Publish.ZipFile} {invocation : List String → String} {args : BackupArgs}

/-- What the camera side of a run found, and where in the trace. -/
structure BackupRun where
  image : Bytes
  manifest : Manifest
  acceptance : String
  identification : Trace
  reads : List FlashRead
  clock : Trace
  saving : List (Event Publish.FileOp Publish.FileReply)
  report : Trace

def BackupRun.trace (run : BackupRun) : BackupTrace :=
  (run.identification ++ (run.reads.flatMap FlashRead.trace ++ run.clock)).map Event.left ++
    (run.saving.map Event.right ++ run.report.map Event.left)

theorem acquireBackup_returned {image : Bytes} {manifest : Manifest} {acceptance : String} {t : Trace}
    (h : Runs (acquireBackup hashlib unicode pyText args) t (.returned (image, manifest, acceptance))) :
    validateBackupArchivePath pyText args.output = .ok () ∧
      args.acceptance manifest.bootloader = .ok acceptance ∧
      ∃ identification reads clock, t = identification ++ (reads.flatMap FlashRead.trace ++ clock) ∧
        Acquired hashlib unicode pyText args.client image manifest identification reads clock := by
  obtain ⟨t₁, u, t₂, hcheck, h₁, rfl⟩ := runs_bind.mp h
  obtain ⟨hpath, rfl⟩ := runs_lift.mp hcheck
  obtain ⟨t₃, ⟨image', manifest'⟩, t₄, hread, h₂, rfl⟩ := runs_bind.mp h₁
  obtain ⟨t₅, acceptance', t₆, hchoice, hret, rfl⟩ := runs_bind.mp h₂
  obtain ⟨haccept, rfl⟩ := runs_lift.mp hchoice
  obtain ⟨hresult, rfl⟩ := runs_ret.mp hret
  obtain ⟨rfl, rfl, rfl⟩ := by simpa using hresult
  have hacquire := (runs_handle_raises fun x => ⟨args.unavailable x, rfl⟩).mp hread
  obtain ⟨identification, reads, clock, rfl, hacquired⟩ := acquireStable_returned hacquire
  exact ⟨hpath, haccept, identification, reads, clock, by simp, hacquired⟩

/-- What is true of a run that gets as far as the files. -/
structure BackupRun.Holds (hashlib : Hashlib) (unicode : Unicode) (pyText : PyText) (json : JsonCodec)
    (zipfile : Publish.ZipFile) (args : BackupArgs) (run : BackupRun) : Prop where
  camera : Runs (acquireBackup hashlib unicode pyText args)
    (run.identification ++ (run.reads.flatMap FlashRead.trace ++ run.clock))
    (.returned (run.image, run.manifest, run.acceptance))
  acquired : Acquired hashlib unicode pyText args.client run.image run.manifest run.identification run.reads
    run.clock
  lastThree : ∃ earlier r₁ r₂ r₃, run.reads = earlier ++ [r₁, r₂, r₃] ∧
    ∀ r ∈ [r₁, r₂, r₃], r.image = run.image
  passes : run.manifest.readPasses = run.reads.length
  count : 3 ≤ run.reads.length ∧ run.reads.length ≤ 5
  first : ∀ before r₁ r₂ r₃ after, run.reads = before ++ r₁ :: r₂ :: r₃ :: after → after ≠ [] →
    ¬(r₁.image = r₂.image ∧ r₂.image = r₃.image)
  accepted : Image.bootHash hashlib run.image = KNOWN_BOOTLOADER_SHA256 ∨
    args.acceptBootloaderSha256 = some (Image.bootHash hashlib run.image)
  -- the members of every archive that is linked are the image and its manifest
  stored : ∀ before event after, run.saving = before ++ event :: after →
    Publish.Links json zipfile (args.backup run.image run.manifest run.acceptance) before event.op
  report : ∀ e ∈ run.report, ∃ text, e.op = .print text
  -- ZIP shows its members and JSON is read back as it was written, with its keys in order: with a manifest
  -- within the limit, both readers return the image
  readable : ∀ (unzip : Bytes → Except Exc Archive) (file : FileView),
    let members := (args.backup run.image run.manifest run.acceptance).members json
    let recorded := Json.obj (run.manifest.fields run.acceptance)
    (∃ archive : Archive, unzip (zipfile.encode members) = .ok archive ∧ archive.Stores members) →
      json.loads (json.dumps recorded) = .ok recorded.sorted →
      (json.dumps recorded).length ≤ MAX_MANIFEST_SIZE →
      file.isFile = true → file.openZip = unzip (zipfile.encode members) →
      loadPreservedBackup hashlib pyText json args.output file = .ok run.image ∧
        ∃ source, Image.readImageSource hashlib pyText json args.output file = .ok (run.image, source)

theorem accepted_of_acceptance {bootloader : BootloaderReference} {image : Bytes} {acceptance : String}
    (hboot : bootloaderReference hashlib image = .ok bootloader)
    (h : args.acceptance bootloader = .ok acceptance) :
    Image.bootHash hashlib image = KNOWN_BOOTLOADER_SHA256 ∨
      args.acceptBootloaderSha256 = some (Image.bootHash hashlib image) := by
  obtain ⟨_, -, hresult⟩ := bind_eq_ok.mp h
  rw [bootloaderReference_eq hboot] at hresult
  by_cases hknown : Image.bootHash hashlib image = KNOWN_BOOTLOADER_SHA256
  · exact .inl hknown
  · rw [if_neg (by simpa using hknown)] at hresult
    by_cases haccepted : args.acceptBootloaderSha256 = some (Image.bootHash hashlib image)
    · exact .inr haccepted
    · rw [if_neg haccepted] at hresult
      cases hresult

theorem BackupRun.holds {run : BackupRun} {o : Outcome Exc Publish.Location}
    (hcamera : Runs (acquireBackup hashlib unicode pyText args)
      (run.identification ++ (run.reads.flatMap FlashRead.trace ++ run.clock))
      (.returned (run.image, run.manifest, run.acceptance)))
    (hpath : validateBackupArchivePath pyText args.output = .ok ())
    (hacquired : Acquired hashlib unicode pyText args.client run.image run.manifest run.identification run.reads
      run.clock)
    (hacceptance : args.acceptance run.manifest.bootloader = .ok run.acceptance)
    (hsaving : Runs (Publish.saveBackup pyText json zipfile
      (args.backup run.image run.manifest run.acceptance)) run.saving o)
    (hreport : ∀ e ∈ run.report, ∃ text, e.op = .print text) :
    run.Holds hashlib unicode pyText json zipfile args := by
  obtain ⟨earlier, r₁, r₂, r₃, hlast, himages⟩ := settled_lastThree hacquired.settled
  have hthree : 3 ≤ run.reads.length := by
    rw [hlast, List.length_append]
    exact Nat.le_add_left 3 _
  have hlength : run.image.length = FLASH_SIZE := by
    obtain ⟨_, hcheck, -⟩ := bind_eq_ok.mp hacquired.bootloader
    exact not_not.mp (raiseIf_eq_ok.mp hcheck)
  obtain ⟨hfields, hentries⟩ := manifest_matches_sorted hacquired hacceptance
  refine
    { camera := hcamera, acquired := hacquired, lastThree := ⟨earlier, r₁, r₂, r₃, hlast, himages⟩, passes := hacquired.passes
      count := ⟨hthree, hacquired.count⟩
      first := fun before r₁ r₂ r₃ after hsplit => settled_first hacquired.settled hsplit
      accepted := accepted_of_acceptance hacquired.bootloader hacceptance
      stored := (wp_sound Publish.wp_saveBackup hsaving).1, report := hreport, readable := ?_ }
  rintro unzip file members recorded ⟨archive, harchive, hstores⟩ hjson hlimit hfile hopen
  have hzip : pyText.casefold args.output.suffix = text ".zip" := not_not.mp (raiseIf_eq_ok.mp hpath)
  have hwf := hstores.wellFormed hlength hlimit
  rw [harchive] at hopen
  constructor
  · exact (loadPreservedBackup_iff hashlib pyText json hzip hopen hwf hlength hjson hfile).mpr
      ⟨rfl, hfields, hentries⟩
  · exact (readImageSource_iff hashlib pyText json hzip hopen hwf hlength hjson).mpr ⟨rfl, hfields⟩

/-- A run of the file side: what `save_backup` did, then what is printed. -/
theorem saving_runs {image : Bytes} {manifest : Manifest} {acceptance : String} {t : BackupTrace}
    {o : Outcome Exc Nat}
    (h : Runs (do
      let _ ← (Publish.saveBackup pyText json zipfile (args.backup image manifest acceptance)).right
      (printAll (args.report hashlib invocation image manifest)).left
      pure 0 : BackupProgram Nat) t o) :
    ∃ (saving : List (Event Publish.FileOp Publish.FileReply)) (report : Trace) (o' : _), t = saving.map Event.right ++ report.map Event.left ∧
      Runs (Publish.saveBackup pyText json zipfile (args.backup image manifest acceptance)) saving o' ∧
      ∀ e ∈ report, ∃ text, e.op = .print text := by
  rcases runs_bind_cases h with ⟨t₁, location, t₂, rfl, hsave, hrest⟩ | ⟨o', hsave, -⟩
  · obtain ⟨saving, rfl, hsaving⟩ := runs_right hsave
    have hreport : ∃ (report : Trace) (o' : _), t₂ = report.map Event.left ∧
        Runs (printAll (args.report hashlib invocation image manifest)) report o' := by
      rcases runs_bind_cases hrest with ⟨t₃, u, t₄, rfl, hprint, hret⟩ | ⟨o', hprint, -⟩
      · obtain ⟨report, rfl, hprinted⟩ := runs_left hprint
        have hnil : t₄ = [] := by cases hret <;> rfl
        exact ⟨report, _, by rw [hnil, List.append_nil], hprinted⟩
      · obtain ⟨report, rfl, hprinted⟩ := runs_left hprint
        exact ⟨report, _, rfl, hprinted⟩
    obtain ⟨report, o', rfl, hprinted⟩ := hreport
    exact ⟨saving, report, _, rfl, hsaving, prints_of_printAll hprinted⟩
  · obtain ⟨saving, rfl, hsaving⟩ := runs_right hsave
    exact ⟨saving, [], o', by simp, hsaving, nofun⟩

/-- A run of `command_backup` that touches a file has accepted its image and stores exactly that. -/
theorem commandBackup_published {t : BackupTrace} {o : Outcome Exc Nat}
    (h : Runs (commandBackup hashlib unicode pyText json zipfile invocation args) t o)
    {event : Event BackupOp BackupReply} (hevent : event ∈ t) {op : Publish.FileOp}
    (hop : event.op = .inr op) :
    ∃ run : BackupRun, t = run.trace ∧ run.Holds hashlib unicode pyText json zipfile args := by
  have hleft (t' : Trace) (hmem : event ∈ t'.map Event.left) : False := by
    obtain ⟨e, -, rfl⟩ := List.mem_map.mp hmem
    exact absurd hop nofun
  rcases runs_bind_cases h with ⟨t₁, ⟨image, manifest, acceptance⟩, t₂, rfl, hfirst, hrest⟩ | ⟨o', hrun, -⟩
  · obtain ⟨u₁, rfl, hcamera⟩ := runs_left hfirst
    obtain ⟨hpath, hacceptance, identification, reads, clock, rfl, hacquired⟩ := acquireBackup_returned hcamera
    obtain ⟨saving, report, o', rfl, hsaving, hprints⟩ := saving_runs hrest
    let run : BackupRun :=
      { image := image, manifest := manifest, acceptance := acceptance, identification := identification
        reads := reads, clock := clock, saving := saving, report := report }
    have hholds : run.Holds hashlib unicode pyText json zipfile args :=
      BackupRun.holds hcamera hpath hacquired hacceptance hsaving hprints
    exact ⟨run, rfl, hholds⟩
  · obtain ⟨t', rfl, -⟩ := runs_left hrun
    exact (hleft t' hevent).elim

/-- A run that returns has published. -/
theorem links_of_returned {t : BackupTrace} {n : Nat}
    (h : Runs (commandBackup hashlib unicode pyText json zipfile invocation args) t (.returned n)) :
    ∃ temp, ⟨.inr (.link temp args.location), .ok ()⟩ ∈ t := by
  obtain ⟨t₁, ⟨image, manifest, acceptance⟩, t₂, -, hrest, rfl⟩ := runs_bind.mp h
  obtain ⟨t₃, location, t₄, hsave, -, rfl⟩ := runs_bind.mp hrest
  obtain ⟨saving, rfl, hsaving⟩ := runs_right hsave
  obtain ⟨temp, hlinked⟩ := (wp_sound Publish.wp_saveBackup hsaving).2.1 location rfl
  have hmem : (⟨.inr (.link temp args.location), .ok ()⟩ : Event BackupOp BackupReply) ∈
      saving.map Event.right := List.mem_map_of_mem hlinked
  exact ⟨temp, List.mem_append_right _ (List.mem_append_left _ hmem)⟩

/-- A camera that shows an acceptable image three times is backed up: first it is read, -/
theorem canReturn_acquireBackup {state identity listing : Bytes} (createdUtc : String)
    {pieces : List (MtdPartition × Bytes)} {image : Bytes} {bootloader : BootloaderReference} {acceptance : String}
    (hpath : validateBackupArchivePath pyText args.output = .ok ())
    (hidentifies : Identifies unicode pyText state identity listing (pieces.map Prod.fst))
    (hsizes : ∀ piece ∈ pieces, piece.2.length = piece.1.size) (himage : pieces.flatMap Prod.snd = image)
    (hlength : image.length = FLASH_SIZE) (hboot : bootloaderReference hashlib image = .ok bootloader)
    (hacceptance : args.acceptance bootloader = .ok acceptance) :
    CanReturn (acquireBackup hashlib unicode pyText args)
      (image,
        { createdUtc := createdUtc, adbSerial := args.client.serial
          deviceIdentity := unicode.strip (unicode.decode identity), readPasses := 3
          consecutiveIdenticalReads := 3, bootloader := bootloader, digest := hashes hashlib image
          partitions := pieces.map Prod.fst }, acceptance) :=
  canReturn_bind (canReturn_lift hpath) (canReturn_bind
    (canReturn_handle (canReturn_acquireStable createdUtc hidentifies hsizes himage hlength hboot))
    (canReturn_bind (canReturn_lift hacceptance) (canReturn_ret _)))

/-- then saved and reported. -/
theorem canReturn_saving {image : Bytes} {manifest : Manifest} {acceptance : String} (archive : Bytes)
    (hpath : validateBackupArchivePath pyText args.output = .ok ()) (hlength : image.length = FLASH_SIZE)
    (hverified : Publish.verifyArchive zipfile archive = .ok ()) :
    CanReturn (do
      let _ ← (Publish.saveBackup pyText json zipfile (args.backup image manifest acceptance)).right
      (printAll (args.report hashlib invocation image manifest)).left
      pure 0 : BackupProgram Nat) 0 := by
  refine canReturn_bind (canReturn_right (Publish.canReturn_saveBackup hpath hlength hverified [])) ?_
  exact canReturn_bind (canReturn_left (canReturn_printAll _)) (canReturn_ret _)

/-- The camera part of a run is the one it began with. -/
theorem BackupRun.Holds.of_camera {run : BackupRun} {image : Bytes} {manifest : Manifest} {acceptance : String}
    {t : Trace} {rest : BackupTrace} (h : run.Holds hashlib unicode pyText json zipfile args)
    (hcamera : Runs (acquireBackup hashlib unicode pyText args) t (.returned (image, manifest, acceptance)))
    (htrace : t.map Event.left ++ rest = run.trace) :
    image = run.image ∧ manifest = run.manifest ∧ acceptance = run.acceptance := by
  obtain ⟨-, hresult⟩ := (runs_left_of hcamera).returned_unique (runs_left_of h.camera) htrace
  simpa using hresult

end Runs

/-! ### A stock camera -/

def trustingZip : Publish.ZipFile where
  encode members := members.flatMap Prod.snd
  namelist _ := .ok [BACKUP_IMAGE_MEMBER, BACKUP_MANIFEST_MEMBER]
  testzip _ := .ok none

def stockArgs : BackupArgs :=
  { output := barePath, location := ["backup.zip"], adb := "adb", serial := none
    acceptBootloaderSha256 := none }

theorem stockPieces_image : stockPieces.flatMap Prod.snd = erasedImage := by
  simp only [stockPieces, EXPECTED_PARTITIONS, List.zipIdx_cons, List.zipIdx_nil, List.map_cons, List.map_nil,
    List.flatMap_cons, List.flatMap_nil, List.append_nil, List.replicate_append_replicate]
  exact congrArg (fun size => List.replicate size 0xFF) (by decide)

/-- The manifest of an erased camera. -/
def stockManifest : Manifest :=
  { createdUtc := "now", adbSerial := none
    deviceIdentity := utf8.strip (utf8.decode (ascii "uid=0(root) gid=0(root)\n")), readPasses := 3
    consecutiveIdenticalReads := 3, bootloader := ⟨KNOWN_BOOTLOADER_SHA256, true⟩
    digest := hashes knownHashlib erasedImage, partitions := stockPieces.map Prod.fst }

def stockRecord : Json := .obj (stockManifest.fields "known-reference")

-- what is read back is the recorded manifest with its keys in order
def recordJson : JsonCodec where
  dumps _ := []
  loads _ := .ok stockRecord.sorted

def storedArchive : Archive where
  infolist := [⟨BACKUP_IMAGE_MEMBER, 0, 0x800000⟩, ⟨BACKUP_MANIFEST_MEMBER, 0, 0⟩]
  read name := if name = BACKUP_IMAGE_MEMBER then .ok erasedImage else .ok []

theorem storedArchive_stores :
    storedArchive.Stores [(BACKUP_IMAGE_MEMBER, erasedImage), (BACKUP_MANIFEST_MEMBER, [])] where
  names := rfl
  plain := by decide
  sizes := by
    intro item hitem
    rcases List.mem_pair.mp hitem with rfl | rfl
    · exact ⟨_, List.mem_cons_self, rfl, length_erasedImage.symm⟩
    · exact ⟨_, List.mem_cons_of_mem _ List.mem_cons_self, rfl, rfl⟩
  contents := by
    intro member hmember
    rcases List.mem_pair.mp hmember with rfl | rfl
    · rfl
    · rfl

def storedFile : FileView := { isFile := true, readBytes := .ok [], openZip := .ok storedArchive }

/-- An erased camera is backed up, and both readers take the archive and return its image. -/
theorem commandBackup_published_stock :
    ∃ t, Runs (commandBackup knownHashlib utf8 plainText recordJson trustingZip (fun _ => "") stockArgs) t
        (.returned 0) ∧
      (∃ run : BackupRun, t = run.trace ∧ run.image = erasedImage ∧
        run.Holds knownHashlib utf8 plainText recordJson trustingZip stockArgs) ∧
      loadPreservedBackup knownHashlib plainText recordJson barePath storedFile = .ok erasedImage ∧
      ∃ source, Image.readImageSource knownHashlib plainText recordJson barePath storedFile =
        .ok (erasedImage, source) := by
  have hsizes : ∀ piece ∈ stockPieces, piece.2.length = piece.1.size := by
    exact List.forall_mem_map.mpr fun _ _ => List.length_replicate
  have hboot : bootloaderReference knownHashlib erasedImage = .ok ⟨KNOWN_BOOTLOADER_SHA256, true⟩ := by
    rw [bootloaderReference, raiseIf_of_not (not_not.mpr length_erasedImage), ok_bind]
    rfl
  obtain ⟨u, hcamera⟩ : CanReturn (acquireBackup knownHashlib utf8 plainText stockArgs)
      (erasedImage, stockManifest, "known-reference") :=
    canReturn_acquireBackup "now" rfl stock_identifies hsizes stockPieces_image length_erasedImage hboot rfl
  obtain ⟨v, hsaving⟩ : CanReturn (do
      let _ ← (Publish.saveBackup plainText recordJson trustingZip
        (stockArgs.backup erasedImage stockManifest "known-reference")).right
      (printAll (stockArgs.report knownHashlib (fun _ => "") erasedImage stockManifest)).left
      pure 0 : BackupProgram Nat) 0 := canReturn_saving [] rfl length_erasedImage rfl
  have ht : Runs (commandBackup knownHashlib utf8 plainText recordJson trustingZip (fun _ => "") stockArgs)
      (u.map Event.left ++ v) (.returned 0) :=
    runs_bind.mpr ⟨_, _, _, runs_left_of hcamera, hsaving, rfl⟩
  obtain ⟨temp, hlink⟩ := links_of_returned ht
  obtain ⟨run, htrace, hholds⟩ := commandBackup_published ht hlink rfl
  obtain ⟨himage, hmanifest, hacceptance⟩ := hholds.of_camera hcamera htrace
  have hreaders := hholds.readable (fun _ => .ok storedArchive) storedFile
  rw [← himage, ← hmanifest, ← hacceptance] at hreaders
  have hread := hreaders ⟨storedArchive, rfl, storedArchive_stores⟩ rfl (Nat.zero_le _) rfl rfl
  exact ⟨_, ht, ⟨run, htrace, himage.symm, hholds⟩, hread⟩

end Cc2Camera
