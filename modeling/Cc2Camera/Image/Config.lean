import Cc2Camera.Image.Jffs2
import Cc2Camera.Image.Layout
import Cc2Camera.Lib.Sorting

/-!
# Config — reading and rebuilding the JFFS2 config partition

`extractSerialAndConfigInfo` resolves the directory, selects the serial and, in preserve mode, rebuilds
every live file; `buildMinimalConfig` and `buildPreservedConfig` lay a partition out and read it back.
-/

open Bytes Exceptions Sorting

namespace Cc2Camera.Image

variable (codecs : Codecs)

/-- A live file, with the inode metadata and the directory entry metadata it is written back with. -/
structure ConfigFile where
  name : Bytes
  data : Bytes
  inode : Nat
  mode : Nat
  uid : Nat
  gid : Nat
  atime : Nat
  mtime : Nat
  ctime : Nat
  flags : Nat
  direntMctime : Nat
  dtype : Nat
  deriving DecidableEq, Repr

def SERIAL_CFG : Bytes := ascii "serial.cfg"

/-! ## The serial -/

-- the class [A-Z0-9]
def isUpperAlnum (b : UInt8) : Bool := (65 ≤ b && b ≤ 90) || (48 ≤ b && b ≤ 57)

/-- `SERIAL_PATTERN.fullmatch(payload)` and its first group. -/
def serialMatch (payload : Bytes) : Option Bytes :=
  if payload.length = 44 ∧ slice payload 0 14 = ascii "serial=12PSSSS" ∧
      slice payload 14 15 ∈ [ascii "3", ascii "4", ascii "5"] ∧
      (slice payload 15 43).all isUpperAlnum ∧ slice payload 43 44 = [10] then
    some (slice payload 7 43)
  else none

def serialPayloadIsValid (payload : Bytes) : Bool := (serialMatch payload).isSome

/-! ## File data -/

-- the decoded bytes before the final size check
def fragmentData (node : Inode) (name : Bytes) : Except Exc Bytes :=
  if node.compression = 0 then .ok node.payload
  else if node.compression = 1 then do
    raiseIf (node.compressedSize ≠ 0)
      (.validationError ("Live config file " ++ bytesRepr name ++ " has malformed zero compression"))
    .ok (List.replicate node.decompressedSize 0)
  else if node.compression = 6 then do
    -- the one-byte margin detects a stream that expands beyond its declared size
    let result ← orRaise (codecs.zlibDecompress node.payload (node.decompressedSize + 1))
      (.validationError ("Live config file " ++ bytesRepr name ++ " has invalid JFFS2 zlib data"))
    raiseIf (result.data.length ≠ node.decompressedSize)
      (.validationError ("Live config file " ++ bytesRepr name ++ " has a decompressed-size mismatch"))
    raiseIf (!result.eof ∨ result.unconsumedTail ≠ [] ∨ result.unusedData ≠ [])
      (.validationError ("Live config file " ++ bytesRepr name ++ " has invalid JFFS2 zlib data"))
    .ok result.data
  else
    .error (.validationError ("Live config file " ++ bytesRepr name ++
      " uses unsupported JFFS2 compression " ++ toString node.compression))

def decodeJffs2Fragment (node : Inode) (name : Bytes) : Except Exc Bytes := do
  raiseIf (CONFIG_SIZE < node.decompressedSize)
    (.validationError ("Live config file " ++ bytesRepr name ++
      " has a fragment larger than the config partition"))
  let data ← fragmentData codecs node name
  raiseIf (data.length ≠ node.decompressedSize)
    (.validationError ("Live config file " ++ bytesRepr name ++ " has a decompressed-size mismatch"))
  .ok data

-- the loop `for fragment in fragments` over the file under construction
def overlayFragments (name : Bytes) (fileSize : Nat) : List Inode → Bytes → Except Exc Bytes
  | [], data => .ok data
  | fragment :: fragments, data => do
    let decoded ← decodeJffs2Fragment codecs fragment name
    let start := fragment.fileOffset
    if fileSize ≤ start ∨ decoded = [] then overlayFragments name fileSize fragments data
    else
      let stop := min (start + decoded.length) fileSize
      overlayFragments name fileSize fragments
        (splice data start stop (decoded.take (stop - start)))

/-- The inode nodes of `inode` that are current. -/
def currentInodes (nodes : List Node) (inode : Nat) : List Inode :=
  (nodes.filter fun n => n.current).filterMap Node.inode? |>.filter fun n => n.inode = inode

/-- `fragments.sort(key=version)`: stable, oldest first. -/
def sortByVersion (fragments : List Inode) : List Inode := sortByKey Inode.version fragments

def reconstructFile (nodes : List Node) (name : Bytes) (dirent : Dirent) (seenInodes : List Nat) :
    Except Exc ConfigFile := do
  raiseIf (name = [] ∨ 255 < name.length ∨ 0x2F ∈ name ∨ 0 ∈ name ∨ dirent.dtype ≠ 8)
    (.validationError ("Preserve-data mode cannot safely recreate config entry " ++ bytesRepr name))
  raiseIf (dirent.inode ≤ 1)
    (.validationError ("Live config file " ++ bytesRepr name ++ " has an invalid inode number"))
  raiseIf (dirent.inode ∈ seenInodes)
    (.validationError "Preserve-data mode found multiple live names for one inode")
  let fragments := sortByVersion (currentInodes nodes dirent.inode)
  let last ← orRaise fragments.getLast?
    (.validationError ("Live config file " ++ bytesRepr name ++ " has no CRC-valid current inode"))
  let newest := fragments.filter fun n => n.version = last.version
  raiseIf (newest.length ≠ 1)
    (.validationError ("Live config file " ++ bytesRepr name ++ " has ambiguous newest metadata"))
  let metadata ← orRaise newest.head? .indexError
  raiseIf (metadata.mode &&& 0xF000 ≠ 0x8000)
    (.validationError ("Preserve-data mode supports only regular files, not " ++ bytesRepr name))
  raiseIf (CONFIG_SIZE < metadata.fileSize)
    (.validationError ("Live config file " ++ bytesRepr name ++ " has an impossible size"))
  let data ← overlayFragments codecs name metadata.fileSize fragments
    (List.replicate metadata.fileSize 0)
  .ok
    { name := name
      data := data
      inode := dirent.inode
      mode := metadata.mode
      uid := metadata.uid
      gid := metadata.gid
      atime := metadata.atime
      mtime := metadata.mtime
      ctime := metadata.ctime
      flags := metadata.flags
      direntMctime := dirent.mctime
      dtype := dirent.dtype }

def reconstructFiles (nodes : List Node) :
    List (Bytes × Dirent) → List Nat → Except Exc (List ConfigFile)
  | [], _ => .ok []
  | (name, dirent) :: entries, seenInodes => do
    let file ← reconstructFile codecs nodes name dirent seenInodes
    let files ← reconstructFiles nodes entries (dirent.inode :: seenInodes)
    .ok (file :: files)

/-! ## The directory -/

/-- A dict keyed by (parent inode, name), in insertion order. -/
abbrev DirentMap := List ((Nat × Bytes) × Dirent)

/-- `current_dirents[key] = node`. -/
def DirentMap.set (map : DirentMap) (key : Nat × Bytes) (entry : Dirent) : DirentMap :=
  match map with
  | [] => [(key, entry)]
  | (k, e) :: map => if k = key then (k, entry) :: map else (k, e) :: DirentMap.set map key entry

-- the loop that keeps the highest version per (parent, name)
def resolveDirents : List Dirent → DirentMap → Except Exc DirentMap
  | [], map => .ok map
  | node :: nodes, map => do
    let key := (node.parentInode, node.name)
    match map.lookup key with
    | none => resolveDirents nodes (map.set key node)
    | some previous => do
      raiseIf (node.version = previous.version)
        (.validationError ("Config has ambiguous current directory entries for " ++ bytesRepr node.name))
      if previous.version < node.version then resolveDirents nodes (map.set key node)
      else resolveDirents nodes map

def currentDirents (nodes : List Node) : Except Exc DirentMap :=
  resolveDirents ((nodes.filter fun n => n.current).filterMap Node.dirent?) []

/-- The live entries of the root directory. -/
def liveEntries (map : DirentMap) : List (Bytes × Dirent) :=
  (map.filter fun e => e.1.1 = 1 ∧ e.2.inode ≠ 0).map fun e => (e.1.2, e.2)

def reconstructLiveConfigFiles (nodes : List Node) (map : DirentMap) :
    Except Exc (List ConfigFile) := do
  raiseIf (map.any fun e => e.1.1 ≠ 1 ∧ e.2.inode ≠ 0)
    (.validationError "Preserve-data mode does not support live config subdirectories")
  reconstructFiles codecs nodes (sortByKey Prod.fst (liveEntries map)) []

/-! ## Serial selection -/

-- an inode node that holds a whole serial.cfg in one uncompressed fragment
def isSerialNode (n : Inode) : Bool :=
  n.fileOffset = 0 ∧ n.compression = 0 ∧ n.compressedSize = n.decompressedSize ∧
    n.fileSize = n.decompressedSize ∧ serialPayloadIsValid n.payload

inductive SerialSource where
  | liveCurrent
  | uniqueHistoricalFallback
  deriving DecidableEq, Repr

/-- The newest complete serial node of the live serial.cfg, if there is one. -/
def liveSerialPayload (nodes : List Node) (map : DirentMap) : Except Exc (Option Bytes) :=
  match (liveEntries map).lookup SERIAL_CFG with
  | none => .ok none
  | some serialDirent => do
    let inodeCandidates := sortByKeyReverse Inode.version
      ((currentInodes nodes serialDirent.inode).filter isSerialNode)
    match inodeCandidates with
    | [] => .ok none
    | first :: _ => do
      let newest := inodeCandidates.filter fun n => n.version = first.version
      raiseIf (newest.length ≠ 1)
        (.validationError "Multiple equally current serial.cfg inode candidates were found")
      .ok (some first.payload)

/-- The distinct payloads of all complete serial nodes, obsolete ones included. -/
def historicalSerials (nodes : List Node) : List Bytes :=
  (((nodes.filterMap Node.inode?).filter isSerialNode).map fun n => n.payload).dedup

def selectSerial (nodes : List Node) (map : DirentMap) : Except Exc (Bytes × SerialSource) := do
  match ← liveSerialPayload nodes map with
  | some payload => .ok (payload, .liveCurrent)
  | none =>
    match historicalSerials nodes with
    | [payload] => .ok (payload, .uniqueHistoricalFallback)
    | historical =>
      .error (.validationError ("Could not recover exactly one unambiguous CRC-valid serial.cfg " ++
        "payload (found " ++ toString historical.length ++ ")"))

-- `next(inode for inode in range(2, 0xFFFFFFFF) if inode not in used_inodes)`
def firstUnused (used : List Nat) : Nat → Nat → Except Exc Nat
  | 0, _ => .error .stopIteration
  | fuel + 1, inode => if inode ∈ used then firstUnused used fuel (inode + 1) else .ok inode

def SERIAL_INODES : Nat := 0xFFFFFFFF - 2

def sortByName (files : List ConfigFile) : List ConfigFile := sortByKey ConfigFile.name files

/-- The live files, with a serial.cfg made up when none is live. -/
def liveConfigFiles (nodes : List Node) (map : DirentMap) (serialPayload : Bytes) :
    Except Exc (List ConfigFile) := do
  let files ← reconstructLiveConfigFiles codecs nodes map
  match files.find? fun file => file.name = SERIAL_CFG with
  | none => do
    let serialInode ← firstUnused (files.map fun file => file.inode) SERIAL_INODES 2
    let serial : ConfigFile :=
      { name := SERIAL_CFG
        data := serialPayload
        inode := serialInode
        mode := 0x81A4
        uid := 0
        gid := 0
        atime := 18
        mtime := 18
        ctime := 18
        flags := 0
        direntMctime := 1
        dtype := 8 }
    .ok (sortByName (files ++ [serial]))
  | some liveSerial => do
    raiseIf (liveSerial.data ≠ serialPayload)
      (.validationError "Live serial.cfg content differs from the recovered serial")
    .ok files

structure ConfigInfo where
  nodes : List Node
  currentNodeCount : Nat
  obsoleteNodeCount : Nat
  serialPayload : Bytes
  serialValue : Bytes
  serialSource : SerialSource
  unexpectedNames : List Bytes
  liveConfigFiles : Option (List ConfigFile)
  deriving DecidableEq

def unexpectedNames (nodes : List Node) : List Bytes :=
  (((nodes.filterMap Node.dirent?).map fun d => d.name).dedup.filter fun name =>
    name ∉ KNOWN_CONFIG_NAMES).insertionSort fun a b => a ≤ b

-- `live_config_files`, which stays `None` unless files are preserved
def preservedFiles (nodes : List Node) (map : DirentMap) (serialPayload : Bytes)
    (preserveLiveFiles : Bool) : Except Exc (Option (List ConfigFile)) :=
  if preserveLiveFiles then (liveConfigFiles codecs nodes map serialPayload).map some else .ok none

-- the dict `extract_serial_and_config_info` returns
def configInfo (nodes : List Node) (serialPayload serialValue : Bytes) (serialSource : SerialSource)
    (files : Option (List ConfigFile)) : ConfigInfo :=
  { nodes := nodes
    currentNodeCount := (nodes.filter fun n => n.current).length
    obsoleteNodeCount := (nodes.filter fun n => n.obsolete).length
    serialPayload := serialPayload
    serialValue := serialValue
    serialSource := serialSource
    unexpectedNames := unexpectedNames nodes
    liveConfigFiles := files }

def extractSerialAndConfigInfo (config : Bytes) (allowUnknownNames preserveLiveFiles : Bool) :
    Except Exc ConfigInfo := do
  let nodes ← parseJffs2 config
  raiseIf (nodes = []) (.validationError "No CRC-valid JFFS2 nodes were found in config")
  raiseIf (unexpectedNames nodes ≠ [] ∧ !allowUnknownNames)
    (.validationError ("Config contains unexpected CRC-valid names that this tool will not " ++
      "discard automatically: " ++ String.intercalate ", " ((unexpectedNames nodes).map bytesRepr)))
  let map ← currentDirents nodes
  let (serialPayload, serialSource) ← selectSerial nodes map
  let serialValue ← orRaise (serialMatch serialPayload) .assertionError
  let files ← preservedFiles codecs nodes map serialPayload preserveLiveFiles
  .ok (configInfo nodes serialPayload serialValue serialSource files)

end Cc2Camera.Image
