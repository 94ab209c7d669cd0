import Cc2Camera.Backup.Json

/-!
# Archive — backup ZIPs as both readers open them

The two readers of a backup walk the central directory in the same steps and differ in their exceptions
and texts, so the walk is one definition with an `ArchivePolicy`.
-/

open Bytes Exceptions

namespace Cc2Camera

structure Path where
  -- str(path)
  str : String
  suffix : Text
  deriving DecidableEq

structure ZipInfo where
  filename : Text
  flagBits : Nat
  fileSize : Nat
  deriving DecidableEq

/-- An opened `zipfile.ZipFile`. -/
structure Archive where
  infolist : List ZipInfo
  read : Text → Except Exc Bytes

/-- What a path shows to a reader. -/
structure FileView where
  isFile : Bool
  readBytes : Except Exc Bytes
  openZip : Except Exc Archive

structure ArchivePolicy where
  imageMember : Text
  manifestMember : Text
  flashSize : Nat
  maxManifestSize : Nat
  fail : String → Exc
  isOwn : Exc → Bool
  wrongMembers : String
  encrypted : String
  wrongImageSize : String
  manifestTooLarge : String
  unreadable : String

-- OSError, RuntimeError, NotImplementedError, BadZipFile, zlib.error and lzma.LZMAError
def Exc.isZipFailure : Exc → Bool
  | .osError => true
  | .fileExistsError => true
  | .fileNotFoundError => true
  | .runtimeError => true
  | .validationError _ => true
  | .recursionError => true
  | .notImplementedError => true
  | .badZipFile => true
  | .zlibError => true
  | .lzmaError => true
  | _ => false

/-- `by_name[name]`. -/
def Archive.info (archive : Archive) (name : Text) : Except Exc ZipInfo :=
  orRaise (archive.infolist.reverse.find? fun item => item.filename = name) .keyError

def readMembers (policy : ArchivePolicy) (archive : Archive) : Except Exc (Bytes × Bytes) := do
  let names := archive.infolist.map fun item => item.filename
  let members := [policy.imageMember, policy.manifestMember]
  raiseIf (names.length ≠ 2 ∨ ¬((∀ name ∈ names, name ∈ members) ∧ ∀ name ∈ members, name ∈ names))
    (policy.fail policy.wrongMembers)
  raiseIf (archive.infolist.any fun item => item.flagBits % 2 = 1) (policy.fail policy.encrypted)
  let imageInfo ← archive.info policy.imageMember
  raiseIf (imageInfo.fileSize ≠ policy.flashSize) (policy.fail policy.wrongImageSize)
  let manifestInfo ← archive.info policy.manifestMember
  raiseIf (policy.maxManifestSize < manifestInfo.fileSize) (policy.fail policy.manifestTooLarge)
  let image ← archive.read policy.imageMember
  let manifestBytes ← archive.read policy.manifestMember
  .ok (image, manifestBytes)

def readArchive (policy : ArchivePolicy) (opened : Except Exc Archive) :
    Except Exc (Bytes × Bytes) :=
  recover (opened >>= readMembers policy) fun e =>
    if policy.isOwn e then none
    else if e.isZipFailure then some (.error (policy.fail policy.unreadable))
    else none

/-- `json.loads(manifest_bytes.decode("utf-8"))` with the reader's own exception for what it raises. -/
def readManifest (json : JsonCodec) (unreadable : Exc) (manifestBytes : Bytes) : Except Exc Json :=
  recover (json.loads manifestBytes) fun e =>
    if e ∈ [.unicodeDecodeError, .valueError, .recursionError] then some (.error unreadable) else none

theorem readManifest_eq_ok {json : JsonCodec} {unreadable : Exc} {b : Bytes} {manifest : Json} :
    readManifest json unreadable b = .ok manifest ↔ json.loads b = .ok manifest := by
  apply recover_eq_ok
  intro e r h
  split at h
  · exact ⟨unreadable, (Option.some.inj h).symm⟩
  · exact absurd h (by simp)

/-- A two-member archive that no reader has a reason to refuse. -/
structure Archive.WellFormed (policy : ArchivePolicy) (archive : Archive) (image manifestBytes : Bytes) :
    Prop where
  names : archive.infolist.map (fun item => item.filename) ∈
    [[policy.imageMember, policy.manifestMember], [policy.manifestMember, policy.imageMember]]
  plain : ∀ item ∈ archive.infolist, item.flagBits % 2 ≠ 1
  imageSize : ∀ item ∈ archive.infolist, item.filename = policy.imageMember →
    item.fileSize = policy.flashSize
  manifestSize : ∀ item ∈ archive.infolist, item.filename = policy.manifestMember →
    item.fileSize ≤ policy.maxManifestSize
  image : archive.read policy.imageMember = .ok image
  manifest : archive.read policy.manifestMember = .ok manifestBytes

theorem Archive.info_of_mem {archive : Archive} {name : Text}
    (h : name ∈ archive.infolist.map fun item => item.filename) :
    ∃ item ∈ archive.infolist, item.filename = name ∧ archive.info name = .ok item := by
  obtain ⟨item, hitem, hname⟩ := List.mem_map.mp h
  have hsome : (archive.infolist.reverse.find? fun item => item.filename = name).isSome := by
    rw [List.find?_isSome]
    exact ⟨item, List.mem_reverse.mpr hitem, by simpa using hname⟩
  obtain ⟨found, hfound⟩ := Option.isSome_iff_exists.mp hsome
  refine ⟨found, List.mem_reverse.mp (List.mem_of_find?_eq_some hfound), ?_, ?_⟩
  · simpa using List.find?_some hfound
  · rw [Archive.info, hfound, orRaise]

theorem readArchive_of_wellFormed {policy : ArchivePolicy} {archive : Archive}
    {image manifestBytes : Bytes} (h : archive.WellFormed policy image manifestBytes) :
    readArchive policy (.ok archive) = .ok (image, manifestBytes) := by
  have hnames := h.names
  simp only [List.mem_cons, List.not_mem_nil, or_false] at hnames
  have hmembers : ¬((archive.infolist.map fun item => item.filename).length ≠ 2 ∨
      ¬((∀ name ∈ archive.infolist.map fun item => item.filename,
          name ∈ [policy.imageMember, policy.manifestMember]) ∧
        ∀ name ∈ [policy.imageMember, policy.manifestMember],
          name ∈ archive.infolist.map fun item => item.filename)) := by
    rcases hnames with hnames | hnames <;> rw [hnames] <;> simp
  have hplain : ¬(archive.infolist.any fun item => item.flagBits % 2 = 1) = true := by
    simpa using h.plain
  obtain ⟨imageInfo, himage, himageName, hfindImage⟩ :=
    @Archive.info_of_mem archive policy.imageMember
      (by rcases hnames with hnames | hnames <;> rw [hnames] <;> simp)
  obtain ⟨manifestInfo, hmanifest, hmanifestName, hfindManifest⟩ :=
    @Archive.info_of_mem archive policy.manifestMember
      (by rcases hnames with hnames | hnames <;> rw [hnames] <;> simp)
  have hmanifestSize := h.manifestSize _ hmanifest hmanifestName
  rw [readArchive, ok_bind, readMembers]
  simp only [raiseIf_of_not hmembers, raiseIf_of_not hplain, hfindImage, hfindManifest, ok_bind,
    raiseIf_of_not (not_not.mpr (h.imageSize _ himage himageName)),
    raiseIf_of_not (not_lt.mpr hmanifestSize), h.image, h.manifest, recover_ok]

end Cc2Camera
