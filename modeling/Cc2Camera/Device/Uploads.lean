import Cc2Camera.Device.Requests
import Cc2Camera.Device.Transport

/-!
# Uploads — the normal-mode half of `hid_transport.py`

One request and its reply at a time.  An upload is initialised, aimed at a path, filled packet by packet and
committed, and every reply but the one to the start-adb commit has to be an echoed success.
-/

open Bytes Exceptions Program

namespace Cc2Camera.HidTransport

open Protocol Commands Host

def ADB_UPLOAD_COMMAND_CONTENT : Bytes := [10]
def NORMAL_UPLOAD_CHUNK_SIZE : Nat := NORMAL_REPORT_SIZE - 14
def NORMAL_UPLOAD_CAPACITY : Nat := 0x01000200

/-- What `exchange_normal` requires of the reply to a request for the command. -/
def checkReply (command : Nat) (data : Bytes) : Except Exc NormalFrame := do
  let response ← parseNormalReport data
  raiseIf (response.command ≠ command)
    (.protocolError ("normal updater replied to " ++ hex04 command ++ " with " ++ hex04 response.command))
  raiseIf (response.status ≠ 0)
    (.protocolError ("normal updater rejected command " ++ hex04 command ++ ", status=" ++
      toString response.status))
  .ok response

def exchangeNormal (handle : HidHandle) (request : Bytes) (timeoutMs : Nat) : Host NormalFrame := do
  let sent ← lift (parseNormalReport request)
  writeExact handle request
  let data ← readReport handle NORMAL_REPORT_SIZE timeoutMs
  lift (checkReply sent.command data)

-- the default of `timeout_ms`, the response dropped
def exchange (handle : HidHandle) (request : Bytes) : Host Unit := do
  let _ ← exchangeNormal handle request 5000
  pure ()

/-- `for sequence, chunk in enumerate(chunks)`; the last chunk is final. -/
def sendChunks (handle : HidHandle) (sequence : Nat) : List Bytes → Host Unit
  | [] => pure ()
  | chunk :: rest => do
    let request ← lift (buildUploadDataRequest sequence chunk rest.isEmpty)
    exchange handle request
    sendChunks handle (sequence + 1) rest

def uploadNormalFile (path : Text) (content : Bytes) : Host Unit := do
  lift (raiseIf (content = []) (.protocolError "normal upload content must not be empty"))
  lift (raiseIf (NORMAL_UPLOAD_CAPACITY < content.length)
    (.protocolError "normal upload exceeds the device's receive buffer"))
  -- before the device is opened, so that a bad path leaves no upload half way
  let initializeRequest ← lift buildUploadInitializeRequest
  let targetRequest ← lift (buildUploadTargetRequest UPLOAD_TARGET_3110 (some path))
  withHandle NORMAL_VID NORMAL_PID fun handle => do
    exchange handle initializeRequest
    exchange handle targetRequest
    sendChunks handle 0 (chunks NORMAL_UPLOAD_CHUNK_SIZE content)
    let commitRequest ← lift buildUploadCommitRequest
    exchange handle commitRequest

-- `except (ProtocolError, OSError): return`
def swallowTransport (x : Exc) : Host Unit := if x.isProtocolError ∨ x.isOsError then pure () else .raise x

def startAdbThroughUploadCommand : Host Unit := do
  let initializeRequest ← lift buildUploadInitializeRequest
  let targetRequest ← lift buildAdbUploadCommandTargetRequest
  let finalDataRequest ← lift (buildUploadDataRequest 0 ADB_UPLOAD_COMMAND_CONTENT true)
  let commitRequest ← lift buildUploadCommitRequest
  withHandle NORMAL_VID NORMAL_PID fun handle => do
    exchange handle initializeRequest
    exchange handle targetRequest
    exchange handle finalDataRequest
    (exchange handle commitRequest).handle swallowTransport

def enterBootloader : Host Unit := do
  let request ← lift (buildUpgradeRequest UPGRADE_MODE_HID 0x4000)
  withHandle NORMAL_VID NORMAL_PID fun handle => exchange handle request

/-- The polling loop of `wait_for_hid` with at most `fuel` rounds. -/
def waitForHidUntil (vid pid : Nat) (deadline : ℚ) : Nat → Host Unit
  | 0 => .pending
  | fuel + 1 => do
    let now ← call .monotonic
    if now < deadline then do
      let found ← call (.hidEnumerate vid pid)
      if found ≠ [] then pure ()
      else do
        call (.sleep (1 / 2))
        waitForHidUntil vid pid deadline fuel
    else .raise (.protocolError ("timed out waiting for HID " ++ paddedDigits 16 4 vid ++ ":" ++ paddedDigits 16 4 pid))

def waitForHid (vid pid : Nat) (timeout : ℚ) (fuel : Nat) : Host Unit := do
  let start ← call .monotonic
  waitForHidUntil vid pid (start + timeout) fuel

end Cc2Camera.HidTransport
