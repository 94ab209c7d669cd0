import Cc2Camera.Lib.Chunks
import Cc2Camera.Lib.TrueDiv
import Cc2Camera.Python

/-!
# Protocol — the wire formats of `protocol.py`

Bootloader frames with their additive checksum, the update plan of an image, and the image-level checks
that stand before a transfer.  A frame that is built is parsed back to its type and payload whatever
padding follows it (`parseBootFrame_sealed`).
-/

open Bytes Exceptions

namespace Cc2Camera.Protocol

def FLASH_SIZE : Nat := 0x800000
def UPGRADE_FLAG_OFFSET : Nat := 0x7F8000
def UPGRADE_FLAG_0 : Nat := 0x55504454

def NORMAL_VID : Nat := 0xA108
def NORMAL_PID : Nat := 0x2240
def BOOT_VID : Nat := 0xA108
def BOOT_HID_PID : Nat := 0xFF08

def NORMAL_REPORT_SIZE : Nat := 1024
def BOOT_REPORT_SIZE : Nat := 3072
def BOOT_REPORT_ID : UInt8 := 1
def BOOT_FRAME_CAPACITY : Nat := BOOT_REPORT_SIZE - 1
def BOOT_DATA_OVERHEAD : Nat := 11
def BOOT_DATA_SIZE : Nat := BOOT_FRAME_CAPACITY - BOOT_DATA_OVERHEAD

/-! ## Bootloader frames -/

def additiveChecksum (data : Bytes) : Nat := (data.map UInt8.toNat).sum % 256

structure BootFrame where
  frameType : Nat
  payload : Bytes
  totalLength : Nat
  deriving DecidableEq, Repr

def HOST_MAGIC : Bytes := [0x80, 0x00, 0xEE]
def DEVICE_MAGIC : Bytes := [0x81, 0x00, 0xEE]

-- everything before the checksum byte
def frameBody (magic : Bytes) (frameType : Nat) (payload : Bytes) : Bytes :=
  magic ++ leBytes 1 frameType ++ leBytes 2 (payload.length + 7) ++ payload

def sealedFrame (magic : Bytes) (frameType : Nat) (payload : Bytes) : Bytes :=
  frameBody magic frameType payload ++
    leBytes 1 (additiveChecksum (frameBody magic frameType payload))

def buildBootFrame (frameType : Nat) (payload : Bytes) : Except Exc Bytes := do
  raiseIf (0xFFFF < payload.length + 7 ∨ BOOT_FRAME_CAPACITY < payload.length + 7)
    (.protocolError "bootloader frame is too large")
  .ok (sealedFrame HOST_MAGIC (frameType % 256) payload)

def parseBootFrame (data : Bytes) (deviceResponse : Bool) : Except Exc BootFrame := do
  let expectedMagic := if deviceResponse then DEVICE_MAGIC else HOST_MAGIC
  raiseIf (data.length < 7) (.protocolError "short bootloader frame")
  raiseIf (slice data 0 3 ≠ expectedMagic) (.protocolError "bad bootloader frame magic")
  let total := u16 data 4
  raiseIf (¬(7 ≤ total ∧ total ≤ data.length)) (.protocolError "invalid bootloader frame length")
  raiseIf (additiveChecksum (slice data 0 (total - 1)) ≠ u8 data (total - 1))
    (.protocolError "bootloader additive checksum mismatch")
  .ok { frameType := u8 data 3, payload := slice data 6 (total - 1), totalLength := total }

def toBootHidReport (frame : Bytes) : Except Exc Bytes := do
  raiseIf (BOOT_FRAME_CAPACITY < frame.length)
    (.protocolError "frame does not fit in a bootloader HID report")
  .ok (BOOT_REPORT_ID :: (frame ++ List.replicate (BOOT_FRAME_CAPACITY - frame.length) 0))

def fromBootHidReport (report : Bytes) : Except Exc BootFrame :=
  match report with
  | [] => parseBootFrame [] true
  | b :: rest => if b = BOOT_REPORT_ID then parseBootFrame rest true else parseBootFrame (b :: rest) true

/-! ## Update plans -/

structure UpdatePlan where
  flashOffset : Nat
  imageSize : Nat
  transferSize : Nat
  imageMd5 : String
  packetCount : Nat
  packetPayloadSize : Nat
  packetsPerAck : Nat
  deriving DecidableEq, Repr

def validateFlashRange (offset : Int) (length : Nat) : Except Exc Unit := do
  raiseIf (offset < 0 ∨ length ≤ 0)
    (.protocolError "flash offset must be nonnegative and length must be positive")
  raiseIf (FLASH_SIZE < offset + length) (.protocolError "flash range exceeds the 8 MiB device")

-- the 128-byte header consumed by the bootloader updater; bytes 0..3 and 28..127 are not inspected
def updateHeader (hashlib : Hashlib) (image : Bytes) (flashOffset : Nat) : Bytes :=
  List.replicate 4 0 ++ leBytes 4 flashOffset ++ leBytes 4 image.length ++ (hashlib.md5 image).val ++
    List.replicate 100 0

def buildUpdateBlob (hashlib : Hashlib) (image : Bytes) (flashOffset : Int) :
    Except Exc (Bytes × UpdatePlan) := do
  validateFlashRange flashOffset image.length
  let blob := updateHeader hashlib image flashOffset.toNat ++ image
  .ok (blob,
    { flashOffset := flashOffset.toNat
      imageSize := image.length
      transferSize := blob.length
      imageMd5 := hex (hashlib.md5 image)
      packetCount := (TrueDiv.trueDiv blob.length BOOT_DATA_SIZE).ceil
      packetPayloadSize := BOOT_DATA_SIZE
      packetsPerAck := 1 })

def buildMetadataFrame (plan : UpdatePlan) (firmwareVersion : Nat) : Except Exc Bytes := do
  let payload ← packAll [(2, plan.packetPayloadSize), (4, plan.transferSize), (2, plan.packetsPerAck),
    (2, firmwareVersion)]
  raiseIf (payload.length ≠ 10) .assertionError
  buildBootFrame 1 payload

-- one turn of the generator `iter_data_frames`
def dataFrame (sequence : Nat) (chunk : Bytes) : Except Exc Bytes := do
  let field ← pack 4 sequence
  buildBootFrame 3 (field ++ chunk)

/-! ## Whole images -/

def validateFullRestoreImage (image : Bytes) : Except Exc Unit := do
  raiseIf (image.length ≠ FLASH_SIZE)
    (.protocolError ("full restore requires exactly " ++ toString FLASH_SIZE ++ " bytes"))
  unpackFits 4 image UPGRADE_FLAG_OFFSET
  raiseIf (u32 image UPGRADE_FLAG_OFFSET = UPGRADE_FLAG_0)
    (.protocolError "image contains the persistent upgrade magic at 0x7f8000 and would boot-loop")

theorem validateFullRestoreImage_eq_ok {image : Bytes} {u : Unit} :
    validateFullRestoreImage image = .ok u ↔
      image.length = FLASH_SIZE ∧ u32 image UPGRADE_FLAG_OFFSET ≠ UPGRADE_FLAG_0 := by
  rw [validateFullRestoreImage, bind_eq_ok]
  simp only [unpackFits, bind_eq_ok, raiseIf_eq_ok, not_not, exists_const]
  constructor
  · rintro ⟨hlen, -, hflag⟩
    exact ⟨hlen, hflag⟩
  · rintro ⟨hlen, hflag⟩
    -- the flag word lies inside the image
    have hbound : UPGRADE_FLAG_OFFSET + 4 ≤ FLASH_SIZE := by decide
    exact ⟨hlen, by omega, hflag⟩

/-! ## Frames read back -/

theorem length_frameBody {magic : Bytes} (frameType : Nat) (payload : Bytes) (hmagic : magic.length = 3) :
    (frameBody magic frameType payload).length = payload.length + 6 := by
  simp only [frameBody, List.length_append, length_leBytes, hmagic]
  omega

theorem length_sealedFrame {magic : Bytes} (frameType : Nat) (payload : Bytes)
    (hmagic : magic.length = 3) :
    (sealedFrame magic frameType payload).length = payload.length + 7 := by
  rw [sealedFrame, List.length_append, length_frameBody _ _ hmagic, length_leBytes]

theorem additiveChecksum_lt (data : Bytes) : additiveChecksum data < 256 :=
  Nat.mod_lt _ (by decide)

/-- What stands where in a frame, with anything behind it. -/
structure FrameFields (data magic : Bytes) (frameType : Nat) (payload : Bytes) : Prop where
  magicAt : slice data 0 3 = magic
  typeAt : u8 data 3 = frameType
  totalAt : u16 data 4 = payload.length + 7
  payloadAt : slice data 6 (payload.length + 6) = payload
  bodyAt : slice data 0 (payload.length + 6) = frameBody magic frameType payload
  checkAt : u8 data (payload.length + 6) = additiveChecksum (frameBody magic frameType payload)
  length : payload.length + 7 ≤ data.length

theorem frameFields_sealed {magic : Bytes} {frameType : Nat} {payload : Bytes} (padding : Bytes)
    (hmagic : magic.length = 3) (htype : frameType < 256) (hlen : payload.length + 7 ≤ 0xFFFF) :
    FrameFields (sealedFrame magic frameType payload ++ padding) magic frameType payload := by
  have hbody := length_frameBody frameType payload hmagic
  have htotal : leNat (leBytes 2 (payload.length + 7)) = payload.length + 7 :=
    leNat_leBytes (by omega)
  -- the frame cut at the field that is read
  have cut (a b c : Bytes) (h : magic ++ (leBytes 1 frameType ++ (leBytes 2 (payload.length + 7) ++
      (payload ++ (leBytes 1 (additiveChecksum (frameBody magic frameType payload)) ++ padding)))) =
        a ++ (b ++ c)) : sealedFrame magic frameType payload ++ padding = a ++ (b ++ c) := by
    rw [← h]
    simp only [sealedFrame, frameBody, List.append_assoc]
  have hcheck : slice (sealedFrame magic frameType payload ++ padding) (payload.length + 6)
      (payload.length + 6 + 1) =
        leBytes 1 (additiveChecksum (frameBody magic frameType payload)) :=
    slice_of_append (a := frameBody magic frameType payload)
      (by rw [sealedFrame, List.append_assoc]) hbody (by rw [length_leBytes])
  refine
    { magicAt := slice_of_append (cut [] _ _ rfl) rfl (by rw [hmagic])
      typeAt := ?_
      totalAt := ?_
      payloadAt := slice_of_append
        (cut (magic ++ (leBytes 1 frameType ++ leBytes 2 (payload.length + 7))) payload
          (leBytes 1 (additiveChecksum (frameBody magic frameType payload)) ++ padding)
          (by simp only [List.append_assoc]))
        (by simp only [List.length_append, hmagic, length_leBytes]) (Nat.add_comm _ _)
      bodyAt := slice_of_append (a := []) (b := frameBody magic frameType payload)
        (c := leBytes 1 (additiveChecksum (frameBody magic frameType payload)) ++ padding)
        (by rw [sealedFrame, List.append_assoc, List.nil_append]) rfl (by rw [hbody, Nat.zero_add])
      checkAt := by rw [u8, hcheck, leNat_leBytes (additiveChecksum_lt _)]
      length := by rw [List.length_append, length_sealedFrame _ _ hmagic]; omega }
  · rw [u8, slice_of_append (cut magic (leBytes 1 frameType) _ rfl) hmagic (by rw [length_leBytes]),
      leNat_leBytes (by omega)]
  · rw [u16, slice_of_append (cut (magic ++ leBytes 1 frameType) (leBytes 2 (payload.length + 7)) _
      (by rw [List.append_assoc])) (by rw [List.length_append, hmagic, length_leBytes])
      (by rw [length_leBytes]), htotal]

/-- A frame is parsed back to its type and payload, whatever padding follows it. -/
theorem parseBootFrame_sealed {frameType : Nat} {payload : Bytes} (padding : Bytes)
    (deviceResponse : Bool) (htype : frameType < 256) (hlen : payload.length + 7 ≤ 0xFFFF) :
    parseBootFrame
        (sealedFrame (if deviceResponse then DEVICE_MAGIC else HOST_MAGIC) frameType payload ++ padding)
        deviceResponse =
      .ok { frameType := frameType, payload := payload, totalLength := payload.length + 7 } := by
  have hmagic : (if deviceResponse then DEVICE_MAGIC else HOST_MAGIC).length = 3 := by
    cases deviceResponse <;> rfl
  have hfields := frameFields_sealed padding hmagic htype hlen
  have hlength := hfields.length
  rw [parseBootFrame]
  simp only [hfields.magicAt, hfields.totalAt, hfields.typeAt]
  rw [raiseIf_of_not (by omega), ok_bind, raiseIf_of_not (by simp), ok_bind,
    raiseIf_of_not (by omega), ok_bind, show payload.length + 7 - 1 = payload.length + 6 from rfl,
    hfields.bodyAt, hfields.checkAt, raiseIf_of_not (by simp), ok_bind, hfields.payloadAt]

/-! ## Frames in reports -/

/-- A frame behind its report ID, padded to a whole report. -/
def sealedReport (magic : Bytes) (frameType : Nat) (payload : Bytes) : Bytes :=
  BOOT_REPORT_ID :: (sealedFrame magic frameType payload ++
    List.replicate (BOOT_FRAME_CAPACITY - (payload.length + 7)) 0)

theorem sealedReport_ne_nil (magic : Bytes) (frameType : Nat) (payload : Bytes) :
    sealedReport magic frameType payload ≠ [] := List.cons_ne_nil _ _

theorem toBootHidReport_sealed {frameType : Nat} {payload : Bytes}
    (h : payload.length + 7 ≤ BOOT_FRAME_CAPACITY) :
    toBootHidReport (sealedFrame HOST_MAGIC frameType payload) =
      .ok (sealedReport HOST_MAGIC frameType payload) := by
  have hlength := @length_sealedFrame HOST_MAGIC frameType payload rfl
  rw [toBootHidReport, raiseIf_of_not (by omega), ok_bind, hlength, sealedReport]

theorem fromBootHidReport_sealed {frameType : Nat} {payload : Bytes} (htype : frameType < 256)
    (hlen : payload.length + 7 ≤ 0xFFFF) :
    fromBootHidReport (sealedReport DEVICE_MAGIC frameType payload) =
      .ok { frameType := frameType, payload := payload, totalLength := payload.length + 7 } := by
  rw [sealedReport, fromBootHidReport, if_pos rfl]
  exact parseBootFrame_sealed _ true htype hlen

theorem buildBootFrame_eq {frameType : Nat} {payload : Bytes} (htype : frameType < 256)
    (h : payload.length + 7 ≤ BOOT_FRAME_CAPACITY) :
    buildBootFrame frameType payload = .ok (sealedFrame HOST_MAGIC frameType payload) := by
  have hcapacity : BOOT_FRAME_CAPACITY = 3071 := rfl
  rw [buildBootFrame, raiseIf_of_not (by omega), ok_bind, Nat.mod_eq_of_lt htype]

theorem length_data_payload (sequence : Nat) (chunk : Bytes) :
    (leBytes 4 sequence ++ chunk).length = chunk.length + 4 := by
  rw [List.length_append, length_leBytes, Nat.add_comm]

theorem dataFrame_eq_ok {sequence : Nat} {chunk frame : Bytes} (hchunk : chunk.length ≤ BOOT_DATA_SIZE) :
    dataFrame sequence chunk = .ok frame ↔
      sequence < 2 ^ 32 ∧ frame = sealedFrame HOST_MAGIC 3 (leBytes 4 sequence ++ chunk) := by
  have hlength := length_data_payload sequence chunk
  have hsize : BOOT_DATA_SIZE = 3060 := rfl
  have hcapacity : BOOT_FRAME_CAPACITY = 3071 := rfl
  have hbuild := @buildBootFrame_eq 3 (leBytes 4 sequence ++ chunk) (by decide) (by omega)
  rw [dataFrame, bind_eq_ok]
  simp only [pack_eq_ok]
  constructor
  · rintro ⟨_, ⟨hfits, rfl⟩, hframe⟩
    rw [hbuild, Except.ok.injEq] at hframe
    exact ⟨hfits, hframe.symm⟩
  · rintro ⟨hfits, rfl⟩
    exact ⟨_, ⟨hfits, rfl⟩, hbuild⟩

end Cc2Camera.Protocol
