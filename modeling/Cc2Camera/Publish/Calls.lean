import Cc2Camera.Publish.Disk

/-!
# Calls — `save_backup` and `staged_directory`
-/

open Program Exceptions

namespace Cc2Camera.Publish

/-- `except Exception` lets only `KeyboardInterrupt` pass. -/
def isException : Exc → Bool
  | .keyboardInterrupt => false
  | _ => true

/-- What `zipfile` makes of members and of the bytes of an archive. -/
structure ZipFile where
  encode : List (Text × Bytes) → Bytes
  namelist : Bytes → Except Exc (List Text)
  testzip : Bytes → Except Exc (Option String)

section SaveBackup

variable (pyText : PyText) (json : JsonCodec) (zipfile : ZipFile)

/-- One call `save_backup(path, image, manifest)`; `location` is where `path` leads. -/
structure Backup where
  path : Path
  location : Location
  image : Bytes
  manifest : Json

def Backup.members (b : Backup) : List (Text × Bytes) :=
  [(AdbBackup.BACKUP_IMAGE_MEMBER, b.image), (AdbBackup.BACKUP_MANIFEST_MEMBER, json.dumps b.manifest)]

def Backup.overwrite (b : Backup) : Exc :=
  .protocolError ("refusing to overwrite existing backup: " ++ b.path.str)

/-- The checks on the reopened temporary archive. -/
def verifyArchive (archive : Bytes) : Except Exc Unit := do
  let names ← zipfile.namelist archive
  let expected := [AdbBackup.BACKUP_IMAGE_MEMBER, AdbBackup.BACKUP_MANIFEST_MEMBER]
  raiseIf (names.length ≠ 2 ∨ ¬(names ⊆ expected ∧ expected ⊆ names))
    (.protocolError "temporary backup ZIP has unexpected members")
  match ← zipfile.testzip archive with
  | some corruptMember =>
    .error (.protocolError ("temporary backup ZIP failed CRC verification: " ++ corruptMember))
  | none => pure ()

/-- The `try` block: write, flush, verify and link the temporary archive. -/
def publishArchive (b : Backup) (temp : Location) : FileProgram Unit := do
  call (.writestr temp AdbBackup.BACKUP_IMAGE_MEMBER b.image)
  call (.writestr temp AdbBackup.BACKUP_MANIFEST_MEMBER (json.dumps b.manifest))
  call (.closeZip temp (b.members json))
  call (.fsync temp)
  let archive ← call (.readZip temp)
  lift (verifyArchive zipfile archive)
  (call (.link temp b.location)).handle fun x =>
    if x = .fileExistsError then .raise b.overwrite else .raise x

def saveBackup (b : Backup) : FileProgram Location := do
  lift (AdbBackup.validateBackupArchivePath pyText b.path)
  lift (raiseIf (b.image.length ≠ AdbBackup.FLASH_SIZE)
    (.protocolError "cannot save a backup image that is not exactly 8 MiB"))
  let present ← call (.pathExists b.location)
  lift (raiseIf (present = true) b.overwrite)
  call (.mkdirParents (parentOf b.location))
  let temp ← call (.createTemp (parentOf b.location) ("." ++ nameOf b.location ++ ".") ".tmp")
  (publishArchive json zipfile b temp).handle fun x =>
    if isException x then (do call (.unlink temp); .raise x) else .raise x
  (call (.unlink temp)).handle fun x => if x.isOsError then pure () else .raise x
  pure b.location

end SaveBackup

section StagedDirectory

/-- What the body of the `with` block does: build entries inside the staging directory, or raise. -/
abbrev Body : Type := List (Except Exc (Location × Node))

structure Bundle where
  destination : Location
  body : Body

def build (staging : Location) : Body → FileProgram Unit
  | [] => pure ()
  | .error x :: _ => .raise x
  | .ok (relative, node) :: rest => do
    call (.put (staging ++ relative) node)
    build staging rest

def stagedDirectory (b : Bundle) : FileProgram Location := do
  let present ← call (.lexists b.destination)
  lift (raiseIf (present = true) .fileExistsError)
  call (.mkdirParents (parentOf b.destination))
  let temporary ← call (.makeTempDir (parentOf b.destination) ".cc2camera-build-")
  let staging := temporary ++ ["bundle"]
  ensuring
    (do
      call (.mkdir staging)
      build staging b.body
      call (.renameNew staging b.destination))
    (call (.removeTree temporary))
  pure b.destination

def place (files : Location → Option Node) : Except Exc (Location × Node) → Location → Option Node
  | .ok (relative, node) => Function.update files relative (some node)
  | .error _ => files

/-- The directory the body builds when it does not raise. -/
def tree (body : Body) : Location → Option Node :=
  body.foldl place fun relative => if relative = [] then some .directory else none

end StagedDirectory

/-! ## Any mix of calls -/

inductive Publication where
  | backup (b : Backup)
  | bundle (b : Bundle)

def Publication.destination : Publication → Location
  | backup b => b.location
  | bundle b => b.destination

section Publication

variable (pyText : PyText) (json : JsonCodec) (zipfile : ZipFile)

def Publication.program : Publication → FileProgram Location
  | backup b => saveBackup pyText json zipfile b
  | bundle b => stagedDirectory b

/-- What a publication shows at its destination, relative to it. -/
def Publication.complete : Publication → Location → Option Node
  | backup b => fun relative =>
    if relative = [] then some (.file (zipfile.encode (b.members json))) else none
  | bundle b => tree b.body

/-- The archive passes the verification of `save_backup`; the body did not raise. -/
def Publication.Verified : Publication → Prop
  | backup b => verifyArchive zipfile (zipfile.encode (b.members json)) = .ok ()
  | bundle b => ∀ step ∈ b.body, ∃ entry, step = .ok entry

end Publication

end Cc2Camera.Publish
