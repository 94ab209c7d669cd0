import Cc2Camera.Adb.Client
import Cc2Camera.Restore.Prepare

/-!
# Camera — one camera on ADB and on HID

`expected_devices` of `hid_transport.py` and `_single_camera` of `restore_prepare.py`.
-/

open Exceptions Program

namespace Cc2Camera

open Protocol Host

def HidTransport.expectedDevices : Host (List HidDevice) := do
  let items ← call .hidEnumerateAll
  pure (items.filter fun item =>
    (item.vendorId, item.productId) ∈ [(NORMAL_VID, NORMAL_PID), (BOOT_VID, BOOT_HID_PID)])

namespace RestorePrepare

open AdbBackup

/-- The serial of the only entry of `adb devices`, when it is online. -/
def onlySerial (listing : Bytes) : Except Exc Text := do
  let lines := ((splitlines (withoutCr (asciiReplace listing))).map (stripped isSpace)).filter (· ≠ [])
  raiseIf (lines.head? ≠ some (text "List of devices attached"))
    (.protocolError "unexpected ADB device list")
  match lines.tail.map splitWords with
  | [[serial, state]] => do
    raiseIf (state ≠ text "device")
      (.protocolError "restore preparation requires exactly one online ADB device")
    .ok serial
  | _ => .error (.protocolError "restore preparation requires exactly one online ADB device")

/-- The only updater device is the normal one and carries the same serial. -/
def isSameCamera (serial : String) : List HidDevice → Bool
  | [info] =>
    info.vendorId = NORMAL_VID ∧ info.productId = NORMAL_PID ∧ info.serialNumber = some serial
  | _ => false

def singleCamera (unicode : Unicode) (adb : AdbClient) : Host Unit := do
  let listing ← adb.run unicode ["devices"] 30
  let serial ← lift (onlySerial listing)
  lift (raiseIf (adb.serial ≠ none ∧ adb.serial ≠ some (textString serial))
    (.protocolError "selected ADB serial does not match the only online device"))
  let hid ← HidTransport.expectedDevices
  lift (raiseIf (isSameCamera (textString serial) hid = false)
    (.protocolError "normal HID and ADB must identify the same single camera"))

end RestorePrepare

end Cc2Camera
