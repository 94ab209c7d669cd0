import Cc2Camera.Adb.Waiting
import Cc2Camera.Backup.Malformed
import Cc2Camera.Backup.Published
import Cc2Camera.Device.AdbStart
import Cc2Camera.Device.Commands
import Cc2Camera.Device.Frames
import Cc2Camera.Device.Host
import Cc2Camera.Device.Lockstep
import Cc2Camera.Device.Normal
import Cc2Camera.Image.Analyze
import Cc2Camera.Image.Blank
import Cc2Camera.Image.Coverage
import Cc2Camera.Image.Directory
import Cc2Camera.Image.Fragments
import Cc2Camera.Image.Idempotent
import Cc2Camera.Image.Layouts
import Cc2Camera.Image.LiveSerial
import Cc2Camera.Image.Obsolete
import Cc2Camera.Image.Reads
import Cc2Camera.Image.Robust
import Cc2Camera.Image.XzFragment
import Cc2Camera.Lib.Bytes
import Cc2Camera.Lib.Exceptions
import Cc2Camera.Lib.Newest
import Cc2Camera.Lib.Program
import Cc2Camera.Mips.Soundness
import Cc2Camera.Publish.Atomic
import Cc2Camera.Restore.Contract
import Cc2Camera.Restore.Guarded
import Cc2Camera.Restore.Recovery
import Cc2Camera.Squashfs.Containment
import Cc2Camera.Startup.EraseOrder
import Cc2Camera.Startup.Gated
import Cc2Camera.Startup.Inspected
import Cc2Camera.Startup.Leftover
import Cc2Camera.Startup.Order
import Cc2Camera.Stream.Fingerprint
import Cc2Camera.Stream.Parts
import Cc2Camera.Image.Records
