import Cc2Camera.Device.Host

/-!
# Updater — the bootloader's side, `uboot_updater_reconstructed.c`

The updater trusts its host: nothing checks divisors, the declared frame length or the stream buffer.
What the C leaves undefined there is a `Fault`, after which the device does nothing.
-/

open Bytes Exceptions

namespace Cc2Camera.Updater

def HID_REPORT_SIZE : Nat := 3072
def HID_REPORT_ID : Nat := 1
def COMMON_OVERHEAD : Nat := 7
def DATA_OVERHEAD : Nat := 11
def IMAGE_HEADER_SIZE : Nat := 128

def HOST_METADATA : Nat := 1
def DEVICE_ACK : Nat := 2
def HOST_DATA : Nat := 3
def DEVICE_TERMINAL : Nat := 5

-- undefined behaviour of the C
inductive Fault where
  | divisionByZero
  | frameOverread
  | streamOverrun
  deriving DecidableEq, Repr

-- what the updater does besides changing its state
inductive Effect where
  | transportSend (frame : Bytes)
  | batchRetry
  | flashErase (offset length : Nat)
  | flashWrite (offset length : Nat) (data : Bytes)
  deriving DecidableEq, Repr

structure TransferMetadata where
  subpackSize : Nat
  transferSize : Nat
  packetsPerAck : Nat
  version : Nat
  deriving DecidableEq, Repr

structure UpdaterState where
  metadata : TransferMetadata
  packetCount : Nat
  batchCount : Nat
  nextPacket : Nat
  batchFirstPacket : Nat
  streamUsed : Nat
  stream : Option Bytes
  badFrameCount : Nat
  stallCount : Nat
  terminalState : Nat
  deriving DecidableEq, Repr

/-- `static updater_state U`, zero at reset. -/
def UpdaterState.fresh : UpdaterState :=
  { metadata := { subpackSize := 0, transferSize := 0, packetsPerAck := 0, version := 0 }
    packetCount := 0, batchCount := 0, nextPacket := 0, batchFirstPacket := 0, streamUsed := 0
    stream := none, badFrameCount := 0, stallCount := 0, terminalState := 0 }

/-- What the updater calls: an allocator, with memory of any contents, and `uboot_md5`. -/
structure Board where
  malloc : (size : Nat) → Option {buffer : Bytes // buffer.length = size}
  md5 : Bytes → {digest : Bytes // digest.length = 16}

/-- A board whose allocator succeeds. -/
def Board.allocating (malloc : (size : Nat) → {buffer : Bytes // buffer.length = size})
    (md5 : Bytes → {digest : Bytes // digest.length = 16}) : Board :=
  { malloc := fun size => some (malloc size), md5 := md5 }

abbrev Step : Type := Except Fault (UpdaterState × List Effect)

def ceilDivU32 (n d : Nat) : Except Fault Nat := do
  raiseIf (d = 0) .divisionByZero
  .ok ((n + d - 1) % 2 ^ 32 / d)

def checksum (data : Bytes) : Nat := (data.map UInt8.toNat).sum % 256

def hostMagic : Bytes := [0x80, 0x00, 0xee]

-- 0x80117948; the supplied length drives the reads
def validateHostFrame (frame : Bytes) (receivedLength : Nat) : Except Fault Bool := do
  if slice frame 0 3 ≠ hostMagic then .ok false
  else do
    raiseIf (receivedLength = 0 ∨ frame.length < receivedLength) .frameOverread
    .ok (checksum (slice frame 0 (receivedLength - 1)) = u8 frame (receivedLength - 1))

-- 0x801179ec
def buildDeviceFrame (frameType : Nat) (payload : Bytes) : Bytes :=
  let body := [0x81, 0x00, 0xee] ++ leBytes 1 frameType ++
    leBytes 2 (payload.length + COMMON_OVERHEAD) ++ payload
  body ++ leBytes 1 (checksum body)

def sendAck (nextExpectedPacket : Nat) : Effect :=
  .transportSend (buildDeviceFrame DEVICE_ACK (leBytes 4 nextExpectedPacket))

def sendTerminal (success : Nat) : Effect :=
  .transportSend (buildDeviceFrame DEVICE_TERMINAL (leBytes 1 success))

-- 0x80117b28, `request_batch_retry(0)`
def requestBatchRetry (u : UpdaterState) : Step :=
  let u := { u with badFrameCount := (u.badFrameCount + 1) % 2 ^ 8 }
  if 5 ≤ u.badFrameCount then
    .ok ({ u with terminalState := 2 }, [.batchRetry, sendTerminal 0])
  else
    .ok ({ u with nextPacket := u.batchFirstPacket
                  streamUsed := u.batchFirstPacket * u.metadata.subpackSize % 2 ^ 32 },
      [.batchRetry, sendAck u.batchFirstPacket])

def decodeMetadataUnchecked (frame : Bytes) : TransferMetadata :=
  { subpackSize := u16 frame 6, transferSize := u32 frame 8, packetsPerAck := u16 frame 12
    version := u16 frame 14 }

-- type-1 branch of 0x80117d1c; the frame's checksum is computed and ignored
def acceptMetadata (board : Board) (u : UpdaterState) (frame : Bytes) (receivedLength : Nat) : Step := do
  let _ ← validateHostFrame frame receivedLength
  let metadata := decodeMetadataUnchecked frame
  let packetCount ← ceilDivU32 metadata.transferSize metadata.subpackSize
  let batchCount ← ceilDivU32 packetCount metadata.packetsPerAck
  let u := { u with metadata := metadata, packetCount := packetCount, batchCount := batchCount }
  match board.malloc metadata.transferSize with
  | none => .ok ({ u with stream := none }, [])
  | some stream =>
    .ok ({ u with stream := some stream
                  nextPacket := 0
                  batchFirstPacket := 0
                  streamUsed := 0
                  badFrameCount := 0
                  stallCount := 0
                  terminalState := 0 }, [sendAck 0])

-- 0x801183b0..0x80118590; neither copy nor hash is checked against the stream
def verifyAndProgram (board : Board) (u : UpdaterState) : Step := do
  let stream := u.stream.getD []
  raiseIf (stream.length < IMAGE_HEADER_SIZE) .streamOverrun
  let flashOffset := u32 stream 4
  let imageLength := u32 stream 8
  raiseIf (stream.length < IMAGE_HEADER_SIZE + imageLength) .streamOverrun
  let data := slice stream IMAGE_HEADER_SIZE (IMAGE_HEADER_SIZE + imageLength)
  if (board.md5 data).val = slice stream 12 28 then
    .ok ({ u with terminalState := 1 },
      [sendTerminal 1, .flashErase flashOffset imageLength, .flashWrite flashOffset imageLength data])
  else
    .ok ({ u with terminalState := 2 }, [sendTerminal 0])

-- `memcpy(U.stream + U.stream_used, frame + 10, data_length)` with the counters that follow it
def appendData (u : UpdaterState) (frame : Bytes) (dataLength : Nat) : Except Fault UpdaterState := do
  let stream := u.stream.getD []
  raiseIf (frame.length < 10 + dataLength) .frameOverread
  raiseIf (stream.length < u.streamUsed + dataLength) .streamOverrun
  .ok { u with stream := some (splice stream u.streamUsed (u.streamUsed + dataLength)
                  (slice frame 10 (10 + dataLength)))
               streamUsed := (u.streamUsed + dataLength) % 2 ^ 32
               nextPacket := (u.nextPacket + 1) % 2 ^ 32
               badFrameCount := 0 }

-- type-3 branch of 0x80118094..0x80118678
def acceptData (board : Board) (u : UpdaterState) (frame : Bytes) (receivedLength : Nat) : Step := do
  let valid ← validateHostFrame frame receivedLength
  if valid = false then requestBatchRetry u
  else
    let packet := u32 frame 6
    let declared := u16 frame 4
    if packet ≠ u.nextPacket then requestBatchRetry u
    else do
      -- `declared - DATA_OVERHEAD` wraps around
      let u ← appendData u frame ((declared + 2 ^ 32 - DATA_OVERHEAD) % 2 ^ 32)
      if packet = (u.packetCount + 2 ^ 32 - 1) % 2 ^ 32 then verifyAndProgram board u
      else do
        raiseIf (u.metadata.packetsPerAck = 0) .divisionByZero
        if u.nextPacket % u.metadata.packetsPerAck = 0 then
          .ok ({ u with batchFirstPacket := u.nextPacket }, [sendAck u.nextPacket])
        else .ok (u, [])

-- 0x80117d1c; the frame's own length is used, not the bytes received
def updaterReceive (board : Board) (u : UpdaterState) (frame : Bytes) : Step :=
  let declaredLength := u16 frame 4
  if slice frame 0 3 ≠ hostMagic then .ok (u, [])
  else if u8 frame 3 = HOST_METADATA then acceptMetadata board u frame declaredLength
  else if u8 frame 3 = HOST_DATA then acceptData board u frame declaredLength
  else .ok (u, [])

-- 0x8011b9d8
def hidReceiveReport (board : Board) (u : UpdaterState) (report : Bytes) : Step :=
  if u8 report 0 ≠ HID_REPORT_ID then .ok (u, []) else updaterReceive board u (report.drop 1)

def hidSendEmbeddedFrame (frame : Bytes) : Bytes :=
  1 :: (frame ++ List.replicate (HID_REPORT_SIZE - 1 - frame.length) 0)

/-! ## A lossless link -/

/-- The updater behind a lossless in-order link: what it has done so far and the reports on their way
to the host. -/
structure Link where
  updater : Except Fault UpdaterState
  effects : List Effect
  queue : List Bytes

def Link.fresh : Link := { updater := .ok .fresh, effects := [], queue := [] }

def Effect.report? : Effect → Option Bytes
  | .transportSend frame => some (hidSendEmbeddedFrame frame)
  | _ => none

def Link.deliver (board : Board) (link : Link) (report : Bytes) : Link :=
  match link.updater with
  | .error _ => link
  | .ok u =>
    match hidReceiveReport board u report with
    | .error fault => { link with updater := .error fault }
    | .ok (u', effects) =>
      { updater := .ok u', effects := link.effects ++ effects
        queue := link.queue ++ effects.filterMap Effect.report? }

/-- How the bootloader's USB device answers its host. -/
def Link.answer (board : Board) (info : HidDevice) (link : Link) : (op : Op) → Link × Reply op
  | .hidEnumerate _ _ => (link, .ok [info])
  | .hidOpenPath _ => (link, .ok ())
  | .hidWrite _ report => (link.deliver board report, .ok report.length)
  | .hidRead _ _ _ => ({ link with queue := link.queue.tail }, .ok (link.queue.headD []))
  | .hidClose _ => (link, .ok ())
  | .print _ => (link, .ok ())
  | _ => (link, .error .osError)

/-- The link after any exchange still shows what went wrong before it and what was done before it. -/
theorem Link.answer_keeps (board : Board) (info : HidDevice) (link : Link) (op : Op) :
    (∀ fault, link.updater = .error fault → (link.answer board info op).1.updater = .error fault) ∧
      link.effects <+: (link.answer board info op).1.effects := by
  cases op with
  | hidWrite handle report =>
    change (∀ fault, _ → (link.deliver board report).updater = _) ∧ _ <+: (link.deliver board report).effects
    unfold Link.deliver
    split
    · rename_i fault hfault
      exact ⟨fun fault' h => h, List.prefix_refl _⟩
    · rename_i u hu
      split
      · exact ⟨fun _ h => (by cases hu.symm.trans h), List.prefix_refl _⟩
      · exact ⟨fun _ h => (by cases hu.symm.trans h), List.prefix_append _ _⟩
  | _ => exact ⟨fun _ h => h, List.prefix_refl _⟩

theorem Link.interact_keeps {α : Type} (board : Board) (info : HidDevice) (p : Host α) (link : Link) :
    (∀ fault, link.updater = .error fault →
        (p.interact (Link.answer board info) link).1.updater = .error fault) ∧
      link.effects <+: (p.interact (Link.answer board info) link).1.effects := by
  induction p generalizing link with
  | ret a => exact ⟨fun _ h => h, List.prefix_refl _⟩
  | raise x => exact ⟨fun _ h => h, List.prefix_refl _⟩
  | pending => exact ⟨fun _ h => h, List.prefix_refl _⟩
  | act op k ih =>
    obtain ⟨hfault, heffects⟩ := Link.answer_keeps board info link op
    obtain ⟨hfault', heffects'⟩ := ih (link.answer board info op).2 (link.answer board info op).1
    exact ⟨fun fault h => hfault' fault (hfault fault h), heffects.trans heffects'⟩

end Cc2Camera.Updater
