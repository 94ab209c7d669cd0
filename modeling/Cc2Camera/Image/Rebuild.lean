import Cc2Camera.Image.Config

/-!
# Rebuild — the two builders of a config partition

Both lay nodes out from offset 0 of an erased partition, refuse to pass the first 16 KiB eraseblock,
and read the result back before they return it.
-/

open Bytes Exceptions

namespace Cc2Camera.Image

variable (codecs : Codecs)

def ERASED_CONFIG : Bytes := List.replicate CONFIG_SIZE 0xFF

-- the first logical eraseblock, which the layout must not pass
def FIRST_ERASEBLOCK : Nat := 0x4000

def encodeCleanmarker : Except Exc Bytes := do
  let cleanHeader ← packAll [(2, JFFS2_MAGIC), (2, 0x2003), (4, 12)]
  let crc ← pack 4 (jffs2Crc cleanHeader)
  .ok (cleanHeader ++ crc)

/-- A root directory entry, as both builders pack it. -/
def encodeDirent (version inode mctime dtype : Nat) (name : Bytes) : Except Exc Bytes := do
  let total := 40 + name.length
  let header ← packAll [(2, JFFS2_MAGIC), (2, 0xE001), (4, total)]
  let headerCrc ← pack 4 (jffs2Crc header)
  let ids ← packAll [(4, 1), (4, version), (4, inode), (4, mctime)]
  let sizes ← packAll [(1, name.length), (1, dtype), (2, 0)]
  let direntPrefix := header ++ headerCrc ++ (ids ++ sizes)
  let crcs ← packAll [(4, jffs2Crc direntPrefix), (4, jffs2Crc name)]
  .ok (direntPrefix ++ crcs ++ name)

/-- An inode node that holds a whole file in one uncompressed fragment. -/
def encodeInode (inode version mode uid gid atime mtime ctime flags : Nat) (data : Bytes) :
    Except Exc Bytes := do
  let total := 68 + data.length
  let header ← packAll [(2, JFFS2_MAGIC), (2, 0xE002), (4, total)]
  let headerCrc ← pack 4 (jffs2Crc header)
  let fields ← packAll
    [(4, inode), (4, version), (4, mode), (2, uid), (2, gid), (4, data.length), (4, atime),
      (4, mtime), (4, ctime), (4, 0), (4, data.length), (4, data.length), (1, 0), (1, 0), (2, flags)]
  let inodePrefix := header ++ headerCrc ++ fields
  let crcs ← packAll [(4, jffs2Crc data), (4, jffs2Crc inodePrefix)]
  .ok (inodePrefix ++ crcs ++ data)

-- `output[cursor : cursor + len(node)] = node`
def place (output : Bytes) (cursor : Nat) (node : Bytes) : Bytes :=
  splice output cursor (cursor + node.length) node

def buildMinimalConfig (serialPayload : Bytes) : Except Exc Bytes := do
  raiseIf (!serialPayloadIsValid serialPayload)
    (.validationError "Refusing to build config from an invalid serial payload")
  let cleanmarker ← encodeCleanmarker
  let output := splice ERASED_CONFIG 0 12 cleanmarker
  let dirent ← encodeDirent 123 7 1 8 SERIAL_CFG
  let output := place output 12 dirent
  let inodeOffset := align4 (12 + (40 + SERIAL_CFG.length))
  let inode ← encodeInode 7 2 0x81A4 0 0 18 18 18 0 serialPayload
  raiseIf (FIRST_ERASEBLOCK < inodeOffset + inode.length)
    (.validationError "Generated serial.cfg does not fit the first eraseblock")
  let built := place output inodeOffset inode
  let parsed ← extractSerialAndConfigInfo codecs built false false
  raiseIf (parsed.serialPayload ≠ serialPayload)
    (.validationError "Internal JFFS2 round-trip validation failed")
  raiseIf (parsed.currentNodeCount ≠ 3)
    (.validationError "Internal JFFS2 validation expected exactly three current nodes")
  .ok built

def doesNotFit : Exc :=
  .validationError
    "Preserved config files do not fit the supported compact first-eraseblock layout"

-- the loop over the files, with the partition and the cursor it threads
def layoutFiles : List ConfigFile → Bytes → Nat → Except Exc (Bytes × Nat)
  | [], output, cursor => .ok (output, cursor)
  | item :: items, output, cursor => do
    let dirent ← encodeDirent 1 item.inode item.direntMctime item.dtype item.name
    raiseIf (FIRST_ERASEBLOCK < cursor + dirent.length) doesNotFit
    let output := place output cursor dirent
    let cursor := align4 (cursor + dirent.length)
    let inode ← encodeInode item.inode 1 item.mode item.uid item.gid item.atime item.mtime item.ctime
      item.flags item.data
    raiseIf (FIRST_ERASEBLOCK < cursor + inode.length) doesNotFit
    layoutFiles items (place output cursor inode) (align4 (cursor + inode.length))

/-- `{item.name: item for item in files}[name]`: the last file of that name. -/
def fileNamed (files : List ConfigFile) (name : Bytes) : Option ConfigFile :=
  files.reverse.find? fun file => file.name = name

-- equality of the two dicts that `expected` and `actual` are
def sameFiles (a b : List ConfigFile) : Bool :=
  (a ++ b).all fun file => fileNamed a file.name = fileNamed b file.name

def buildPreservedConfig (files : List ConfigFile) : Except Exc Bytes := do
  let files := sortByName files
  raiseIf (files = []) (.validationError "Preserve-data mode found no live config files")
  raiseIf ((files.map fun file => file.name).dedup.length ≠ files.length)
    (.validationError "Preserve-data mode found duplicate file names")
  let serials := (files.filter fun file => file.name = SERIAL_CFG).map fun file => file.data
  raiseIf (serials.length ≠ 1 ∨ !serials.all serialPayloadIsValid)
    (.validationError "Preserve-data mode requires exactly one valid serial.cfg")
  let cleanmarker ← encodeCleanmarker
  let (built, _) ← layoutFiles files (splice ERASED_CONFIG 0 12 cleanmarker) 12
  let parsed ← extractSerialAndConfigInfo codecs built true true
  let rebuiltFiles ← orRaise parsed.liveConfigFiles .assertionError
  raiseIf (!sameFiles rebuiltFiles files)
    (.validationError "Internal preserve-files JFFS2 round-trip validation failed")
  raiseIf (parsed.obsoleteNodeCount ≠ 0)
    (.validationError "Internal preserve-files rebuild unexpectedly contains obsolete nodes")
  .ok built

end Cc2Camera.Image
