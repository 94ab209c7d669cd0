import Cc2Camera.Lib.Crc
import Cc2Camera.Lib.Program
import Cc2Camera.Python

/-!
# HidUpdate — the Linux daemon's side, `hid_update_reconstructed.c`

A report is checked, its command group selects a handler, and a handler answers with one report or not at all.
The uploader keeps its state between reports, whoever sent them.  What the C leaves undefined is a `Fault`: the
daemon is gone and answers nothing any more.
-/

open Bytes Exceptions Program

namespace Cc2Camera.HidUpdate

def NORMAL_REPORT_SIZE : Nat := 1024
def NORMAL_PAYLOAD_OFF : Nat := 14
def UPLOAD_CAPACITY : Nat := 0x01000200
def UPGRADE_WORD_OFFSET : Nat := 0x007F8000

def ST_OK : Nat := 0
def ST_FAIL : Nat := 1
def ST_BAD_REPORT_ID : Nat := 2
def ST_BAD_MAGIC : Nat := 3
def ST_BAD_CRC : Nat := 4
def ST_UNKNOWN_GROUP : Nat := 5

/-- `enum upload_state`, from `UP_IDLE = 1` on. -/
inductive UploadState where
  | idle
  | needTarget
  | receiving
  | ready
  | error
  deriving DecidableEq, Repr

-- undefined behaviour of the C
inductive Fault where
  | reportOverread
  | heapOverread
  | pathOverflow
  | pathUnterminated
  | nullDestination
  | nullBuffer
  | bufferOverrun
  | configOverflow
  deriving DecidableEq, Repr

/-- What the daemon asks of libc, the shell, the vendor driver and its HID gadget. -/
inductive DaemonOp where
  | malloc (size : Nat)
  | system (command : Bytes)
  -- `fopen` for reading and everything read from it
  | readFile (path : Bytes)
  -- `fseek(fp, 0, SEEK_SET)` and `fwrite` on a file opened `"rb+"`
  | rewriteFile (path content : Bytes)
  -- `fopen(path, "wb")` and `fwrite` on it
  | createFile (path : Bytes)
  | fwrite (path content : Bytes)
  | setFlash (offset : Nat) (data : Bytes)
  | getFlash (offset length : Nat)
  | writeReport (report : Bytes)
  deriving DecidableEq, Repr

abbrev DaemonReply : DaemonOp → Type
  | .malloc size => Option {buffer : Bytes // buffer.length = size}
  | .system _ => Unit
  | .readFile _ => Option Bytes
  | .rewriteFile _ _ => Unit
  | .createFile _ => Bool
  -- the number of bytes written
  | .fwrite _ _ => Nat
  -- the return code of the `ioctl`
  | .setFlash _ _ => Int
  | .getFlash _ _ => Option Bytes
  | .writeReport _ => Int

abbrev Daemon (α : Type) : Type := Program DaemonOp DaemonReply Fault α

abbrev DaemonTrace : Type := List (Event DaemonOp DaemonReply)

/-- The uploader's part of `daemon_context` with the globals `g_upload_state` and `g_upload_path`. -/
structure DaemonContext where
  uploadState : UploadState
  uploadPath : Bytes
  uploadData : Option Bytes
  uploadCapacity : Nat
  uploadUsed : Nat
  lastSequence : Nat
  -- `NULL` or `g_upload_path`, nothing else is ever assigned
  destination : Bool
  sawFinal : Nat
  deriving DecidableEq, Repr

/-- `calloc(2080, 1)` beside the initialised globals. -/
def DaemonContext.start : DaemonContext :=
  { uploadState := .idle, uploadPath := List.replicate 128 0, uploadData := none, uploadCapacity := 0
    uploadUsed := 0, lastSequence := 0, destination := false, sawFinal := 0 }

def perform (op : DaemonOp) : Daemon (DaemonReply op) := Program.perform op

def lift {α : Type} (e : Except Fault α) : Daemon α := ofExcept e

/-- What `%s`, `strlen` and `strcmp` see of a buffer. -/
def cString (buffer : Bytes) : Bytes := buffer.takeWhile (· ≠ 0)

/-- `memcpy` from the payload of the report, by a length nothing has checked. -/
def payloadOf (r : Bytes) (length : Nat) : Except Fault Bytes := do
  raiseIf (r.length < NORMAL_PAYLOAD_OFF + length) .reportOverread
  .ok (slice r NORMAL_PAYLOAD_OFF (NORMAL_PAYLOAD_OFF + length))

/-! ## Responses -/

-- 0x00400fe8
def cc2Crc16 (data : Bytes) (crc : BitVec 16) : BitVec 16 := Crc.run 0x1021#16 crc data

-- report ID, magic, command, type, payload length and status
def responseHead (command status frameType length : Nat) : Bytes :=
  leFields [(1, 1), (2, 0x5A5A), (2, command), (1, frameType), (2, length), (4, status)]

def responseReport (command status responseType : Nat) (payload : Bytes) : Bytes :=
  if responseType = 1 ∧ payload.length ≠ 0 then
    let head := responseHead command status 1 payload.length
    head ++ leBytes 2 (cc2Crc16 payload (cc2Crc16 head 0xFFFF#16)).toNat ++ payload ++
      List.replicate (NORMAL_REPORT_SIZE - NORMAL_PAYLOAD_OFF - payload.length) 0
  else
    let head := responseHead command status 0 0
    head ++ leBytes 2 (cc2Crc16 head 0xFFFF#16).toNat ++
      List.replicate (NORMAL_REPORT_SIZE - NORMAL_PAYLOAD_OFF) 0

-- 0x00401034; every caller ignores the result
def sendNormalResponse (command status responseType : Nat) (payload : Bytes) : Daemon Unit := do
  let _ ← perform (.writeReport (responseReport command status responseType payload))
  pure ()

/-! ## Configuration -/

def UVC_CONFIG : Bytes := ascii "/etc/conf.d/uvc.config"

-- 0x004024c0
def configBindings : List (Nat × String) :=
  [(0x2000, "manufact_lab"), (0x2010, "serial_lab"), (0x2020, "productnumber"), (0x2030, "vendor_id"),
    (0x2040, "product_id"), (0x2050, "device_bcd"), (0x2F00, "model_lab"), (0x2F10, "cmei_lab"),
    (0x2F20, "appkey"), (0x2F30, "product_lab"), (0x2F40, "adb_en"), (0x2F50, "sensor_name"),
    (0x2F60, "i2c_addr"), (0x2F70, "default_boot"), (0x2F80, "sensor_fps"), (0x2F90, "sensor_width"),
    (0x2FA0, "sensor_height"), (0x2FB0, "hvflip"), (0x2FC0, "rcmode"), (0x2FD0, "bitrate"),
    (0x2FE0, "qp_value")]

/-- The key of a command and whether the command is a SET. -/
def configKeyFor (command : Nat) : Option (Bytes × Bool) :=
  configBindings.findSome? fun (getCommand, key) =>
    if command = getCommand then some (ascii key, false)
    else if command = getCommand + 1 then some (ascii key, true)
    else none

/-- One `fgets(line, size, fp)`: at most `size - 1` bytes, up to and with a newline. -/
def fgets (size : Nat) (rest : Bytes) : Bytes × Bytes :=
  let window := rest.take (size - 1)
  let body := window.takeWhile (· ≠ 10)
  let line := if body.length < window.length then body ++ [10] else body
  (line, rest.drop line.length)

-- `isspace` of the C locale
def isSpace (b : UInt8) : Bool := b = 32 ∨ 9 ≤ b ∧ b ≤ 13

/-- `sscanf(line, "%Ns", word)`: the word, or nothing where no character converts. -/
def scanWord (width : Nat) (line : Bytes) : Option Bytes :=
  let word := (((cString line).dropWhile isSpace).takeWhile (! isSpace ·)).take width
  if word = [] then none else some word

/-- The value a line of the file holds for the key: what follows its first `:`, as `config_get` copies it. -/
def lineValue (key line : Bytes) : Option Bytes :=
  let text := cString line
  let left := text.takeWhile (· ≠ 58)
  if left.length = text.length then none
  else if scanWord 63 left = some key then
    -- `strncpy` of 63 bytes, cut at a newline
    some (((text.drop (left.length + 1)).take 63).takeWhile (· ≠ 10))
  else none

-- the `while (fgets(...))` loop, each line being at least one byte long
def findValue (key : Bytes) : Nat → Bytes → Option Bytes
  | 0, _ => none
  | _ + 1, [] => none
  | fuel + 1, rest =>
    let (line, rest) := fgets 128 rest
    match lineValue key line with
    | some value => some value
    | none => findValue key fuel rest

-- 0x00401cd0
def configGet (command : Nat) (key : Bytes) : Daemon Unit := do
  let file ← perform (.readFile UVC_CONFIG)
  match file with
  | none => sendNormalResponse command ST_FAIL 0 []
  | some content =>
    match findValue key content.length content with
    | none => sendNormalResponse command ST_FAIL 0 []
    | some value => sendNormalResponse command ST_OK 1 value

/-- The key that `config_set` reads off the text before a colon. -/
def parsedKey (left : Bytes) : Bytes := (cString (left.take 95)).takeWhile (· ≠ 32)

/-- Where `config_set` finds the key's line: the bytes up to and with its colon, and those from its end on. -/
def findLine (key : Bytes) : Nat → Bytes → Bytes → Option (Bytes × Bytes)
  | 0, _, _ => none
  | _ + 1, _, [] => none
  | fuel + 1, before, rest =>
    let line := rest.takeWhile (· ≠ 10)
    let tail := rest.drop line.length
    let left := line.takeWhile (· ≠ 58)
    if left.length < line.length ∧ parsedKey left = key then some (before ++ left ++ [58], tail)
    else findLine key fuel (before ++ rest.take (line.length + 1)) (rest.drop (line.length + 1))

/-- The file after a SET, as long as before or longer. -/
def rewritten (oldSize : Nat) (parts : Bytes × Bytes) (newValue : Bytes) : Bytes :=
  let content := parts.1 ++ newValue ++ parts.2
  content ++ List.replicate (oldSize - content.length) 0

-- 0x00402038
def configSet (command : Nat) (key r : Bytes) : Daemon Unit := do
  let file ← perform (.readFile UVC_CONFIG)
  match file with
  | none => sendNormalResponse command ST_FAIL 0 []
  | some original => do
    lift (raiseIf (2048 < original.length) .configOverflow)
    match findLine key original.length [] original with
    | none => sendNormalResponse command ST_FAIL 0 []
    | some parts => do
      let newValue ← lift (payloadOf r (u16 r 6))
      lift (raiseIf (4096 < (rewritten original.length parts newValue).length) .configOverflow)
      perform (.rewriteFile UVC_CONFIG (rewritten original.length parts newValue))
      sendNormalResponse command ST_OK 0 []

-- 0x004024c0; no reply to an unknown command
def dispatchConfig (r : Bytes) : Daemon Unit :=
  let command := u16 r 3
  match configKeyFor command with
  | none => pure ()
  | some (key, false) => configGet command key
  | some (key, true) => configSet command key r

/-! ## Uploads -/

-- the buffer of an earlier upload is used again
def uploadBuffer : Option Bytes → Daemon (Option Bytes)
  | some data => pure (some data)
  | none => do
    let buffer ← perform (.malloc UPLOAD_CAPACITY)
    pure (buffer.map Subtype.val)

-- 0x00402830
def uploadInit (ctx : DaemonContext) : Daemon (Option DaemonContext) := do
  let data ← uploadBuffer ctx.uploadData
  match data with
  | none => pure none
  | some data =>
    pure (some { ctx with
      uploadData := some data
      uploadCapacity := UPLOAD_CAPACITY
      uploadUsed := 0
      lastSequence := 0
      destination := false
      sawFinal := 0 })

/-- `memcpy(ctx->upload_data + ctx->upload_used, payload, length)`. -/
def copyIn (data : Option Bytes) (used : Nat) (payload : Bytes) : Except Fault (Option Bytes) :=
  match data with
  | none => if payload = [] then .ok none else .error .nullBuffer
  | some data => do
    raiseIf (data.length < used + payload.length) .bufferOverrun
    .ok (some (splice data used (used + payload.length) payload))

-- 0x004028dc
def uploadAppend (r : Bytes) (ctx : DaemonContext) : Except Fault (Option DaemonContext) :=
  let sequence := u32 r 8
  let length := u16 r 6
  if 2 ≤ sequence ∧ sequence ≠ (ctx.lastSequence + 1) % 2 ^ 32 then .ok none
  else if ctx.uploadCapacity < (ctx.uploadUsed + length) % 2 ^ 32 then .ok none
  else do
    let payload ← payloadOf r length
    let data ← copyIn ctx.uploadData ctx.uploadUsed payload
    .ok (some { ctx with
      uploadData := data
      sawFinal := if u8 r 5 = 2 then 1 else ctx.sawFinal
      uploadState := if u8 r 5 = 2 then .ready else ctx.uploadState
      uploadUsed := (ctx.uploadUsed + length) % 2 ^ 32
      lastSequence := sequence })

/-- `fwrite(ctx->upload_data, 1, ctx->upload_used, fp)` reads these bytes. -/
def uploaded (ctx : DaemonContext) : Except Fault Bytes :=
  match ctx.uploadData with
  | none => if ctx.uploadUsed = 0 then .ok [] else .error .nullBuffer
  | some data => do
    raiseIf (data.length < ctx.uploadUsed) .bufferOverrun
    .ok (data.take ctx.uploadUsed)

-- 0x004029f0; whether the commit succeeded
def uploadCommit (ctx : DaemonContext) : Daemon Bool := do
  lift (raiseIf (ctx.destination = false) .nullDestination)
  let destination := cString ctx.uploadPath
  if ctx.sawFinal ≠ 1 then pure false
  else do
    perform (.system (ascii "rm " ++ destination))
    perform (.system (ascii "sync"))
    let opened ← perform (.createFile destination)
    if opened = false then pure false
    else do
      let content ← lift (uploaded ctx)
      let count ← perform (.fwrite destination content)
      if count ≠ ctx.uploadUsed then pure false
      else do
        perform (.system (ascii "chmod 0777 " ++ destination))
        if destination = ascii "/system/bin/hid_update" then do
          -- the `cp` that was built is not what is executed
          perform (.system (ascii "command"))
          perform (.system (ascii "sync"))
          pure true
        else pure true

/-- `sscanf(line, "sensor_name : %63s", sensor)`; a blank of the format stands for any run of white space. -/
def sensorOfLine (line : Bytes) : Option Bytes :=
  let text := cString line
  let key := ascii "sensor_name"
  if key.isPrefixOf text then
    match (text.drop key.length).dropWhile isSpace with
    | 58 :: rest => scanWord 63 rest
    | _ => none
  else none

def findSensor : Nat → Bytes → Option Bytes
  | 0, _ => none
  | _ + 1, [] => none
  | fuel + 1, rest =>
    let (line, rest) := fgets 256 rest
    match sensorOfLine line with
    | some sensor => some sensor
    | none => findSensor fuel rest

-- 0x00402ba8
def buildSensorPath (first : Bool) : Daemon (Option Bytes) := do
  let file ← perform (.readFile UVC_CONFIG)
  match file with
  | none => pure none
  | some content =>
    match findSensor content.length content with
    | none => pure none
    | some sensor =>
      if first then pure (some (ascii "/system/lib/modules/sensor_" ++ sensor ++ ascii "_t31.ko"))
      else pure (some (ascii "/system/etc/sensor/" ++ sensor ++ ascii "-t31.bin"))

def commandUsesLiteralPath (command : Nat) : Bool :=
  command ∈ [0x3110, 0x3111, 0x3112, 0x3113, 0x3116, 0x3120, 0x3150, 0x31F0]

/-- `g_upload_path` after `memset`, `memcpy` and the cut at the first blank. -/
def literalPath (payload : Bytes) : Except Fault Bytes := do
  raiseIf (128 < payload.length) .pathOverflow
  let path := payload ++ List.replicate (128 - payload.length) 0
  let text := cString path
  let left := text.takeWhile (· ≠ 32)
  -- `strchr` runs past the array where neither a blank nor a zero byte stops it
  raiseIf (left.length = 128) .pathUnterminated
  if left.length = text.length then .ok path else .ok (path.set left.length 0)

/-- `sprintf` into `g_upload_path`: the bytes behind the terminator stay. -/
def printedPath (path text : Bytes) : Bytes := splice path 0 (text.length + 1) (text ++ [0])

-- 0x00402e3c; no reply to an unknown command
def dispatchUpload (r : Bytes) (ctx : DaemonContext) : Daemon DaemonContext :=
  let command := u16 r 3
  if command = 0x3000 then
    if ctx.uploadState ≠ .idle then do
      sendNormalResponse command ST_OK 0 []
      pure ctx
    else do
      let ready ← uploadInit ctx
      match ready with
      | none => do
        sendNormalResponse command ST_FAIL 0 []
        pure ctx
      | some ctx => do
        sendNormalResponse command ST_OK 0 []
        pure { ctx with uploadState := .needTarget }
  else if commandUsesLiteralPath command then
    if ctx.uploadState ≠ .needTarget then do
      sendNormalResponse command ST_OK 0 []
      pure ctx
    else do
      let payload ← lift (payloadOf r (u16 r 6))
      let path ← lift (literalPath payload)
      sendNormalResponse command ST_OK 0 []
      pure { ctx with uploadPath := path, destination := true, uploadState := .receiving }
  else if command = 0x3114 ∨ command = 0x3115 then
    if ctx.uploadState ≠ .needTarget then do
      sendNormalResponse command ST_OK 0 []
      pure ctx
    else do
      let path ← buildSensorPath (command = 0x3114)
      match path with
      | none => do
        sendNormalResponse command ST_FAIL 0 []
        pure ctx
      | some text => do
        sendNormalResponse command ST_OK 0 []
        pure { ctx with
          uploadPath := printedPath ctx.uploadPath text, destination := true, uploadState := .receiving }
  else if command = 0x3200 then
    -- the compiled test accepts states 3 and 5
    if ¬(ctx.uploadState = .receiving ∨ ctx.uploadState = .error) then do
      sendNormalResponse command ST_OK 0 []
      pure ctx
    else do
      let appended ← lift (uploadAppend r ctx)
      match appended with
      | none => do
        sendNormalResponse command ST_FAIL 0 []
        pure { ctx with uploadState := .error }
      | some ctx => do
        sendNormalResponse command ST_OK 0 []
        pure ctx
  else if command = 0x3300 then
    -- as above, states 4 and 5
    if ¬(ctx.uploadState = .ready ∨ ctx.uploadState = .error) then do
      sendNormalResponse command ST_OK 0 []
      pure ctx
    else do
      let committed ← uploadCommit ctx
      if committed then do
        sendNormalResponse command ST_OK 0 []
        pure { ctx with uploadData := none, uploadState := .idle }
      else do
        sendNormalResponse command ST_FAIL 0 []
        pure { ctx with uploadData := none, uploadState := .error }
  else pure ctx

/-! ## Upgrade words, version and dispatch -/

-- the words read back are not compared with those written
def answerUpgrade (command : Nat) (rc : Int) : Daemon Unit :=
  if rc ≠ 0 then sendNormalResponse command ST_FAIL 0 []
  else do
    let _ ← perform (.getFlash UPGRADE_WORD_OFFSET 8)
    sendNormalResponse command ST_OK 0 []

def REBOOT : Bytes := ascii "reboot"

def rebootViaShell : Daemon Unit := perform (.system REBOOT)

-- 0x00401364
def setUpgradeWordsAndReboot (r : Bytes) : Daemon Unit := do
  let command := u16 r 3
  let length := u16 r 6
  let heapCopy ← perform (.malloc length)
  let payload ← lift (payloadOf r length)
  -- the allocation is not checked, and eight bytes are written whatever the length
  lift (raiseIf (heapCopy.isNone ∧ length ≠ 0) .nullBuffer)
  lift (raiseIf (length < 8) .heapOverread)
  let rc ← perform (.setFlash UPGRADE_WORD_OFFSET (payload.take 8))
  answerUpgrade command rc
  rebootViaShell

/-- `fscanf(fp, "%23[^\n]", line)`: nothing at the end of the file. -/
def versionLine (content : Bytes) : Option Bytes :=
  if content = [] then none else some (cString ((content.takeWhile (· ≠ 10)).take 23))

-- 0x004015e4
def versionQuery (command : Nat) : Daemon Unit := do
  let file ← perform (.readFile (ascii "/tmp/version.txt"))
  match file.bind versionLine with
  | none => sendNormalResponse command ST_FAIL 0 []
  | some line => sendNormalResponse command ST_OK 1 line

/-- What the CRC of a request is computed over; the declared length is not bounded to the report. -/
def computedCrc (r : Bytes) : Except Fault (BitVec 16) := do
  let crc := cc2Crc16 (slice r 0 12) 0xFFFF#16
  if u8 r 5 = 1 ∨ u8 r 5 = 2 then do
    let payload ← payloadOf r (u16 r 6)
    .ok (cc2Crc16 payload crc)
  else .ok crc

-- `switch (command & 0xf000)`
def dispatchCommand (r : Bytes) (ctx : DaemonContext) : Daemon DaemonContext :=
  let command := u16 r 3
  match command / 0x1000 with
  | 0 =>
    if command = 0x0001 then do
      versionQuery command
      pure ctx
    else pure ctx
  | 1 => pure ctx
  | 2 => do
    dispatchConfig r
    pure ctx
  | 3 => dispatchUpload r ctx
  | 4 => do
    setUpgradeWordsAndReboot r
    pure ctx
  | _ => do
    sendNormalResponse command ST_UNKNOWN_GROUP 0 []
    pure ctx

-- 0x0040123c
def dispatchNormalReport (r : Bytes) (ctx : DaemonContext) : Daemon DaemonContext := do
  let command := u16 r 3
  if u8 r 0 ≠ 1 then do
    sendNormalResponse command ST_BAD_REPORT_ID 0 []
    pure ctx
  else if u8 r 1 ≠ 0x5A ∨ u8 r 2 ≠ 0x5A then do
    sendNormalResponse command ST_BAD_MAGIC 0 []
    pure ctx
  else do
    let computed ← lift (computedCrc r)
    if computed.toNat ≠ u16 r 12 then do
      sendNormalResponse command ST_BAD_CRC 0 []
      pure ctx
    else dispatchCommand r ctx

def UPGRADE_MAGIC : Nat := 0x55504454

/-- What `hid_event_thread` does before its loop: an upgrade word that is still set is erased. -/
def clearUpgradeWords : Daemon Unit := do
  let flags ← perform (.getFlash UPGRADE_WORD_OFFSET 8)
  if u32 (flags.getD []) 0 = UPGRADE_MAGIC then do
    let _ ← perform (.setFlash UPGRADE_WORD_OFFSET (List.replicate 8 0xFF))
    pure ()
  else pure ()

end Cc2Camera.HidUpdate
