import Cc2Camera.Python

/-!
# Layout — sizes, windows and reference fingerprints of `image.py`
-/

open Bytes Exceptions

namespace Cc2Camera.Image

def MIN_IDENTICAL_READS : Nat := 3
def MAX_USB_READ_ATTEMPTS : Nat := 5

def FLASH_SIZE : Nat := 0x800000
def PATCH_START : Nat := 0x463000
def PATCH_END : Nat := 0x46B000
def PATCH_SIZE : Nat := PATCH_END - PATCH_START
def CONFIG_START : Nat := 0x7E0000
def CONFIG_END : Nat := 0x800000
def CONFIG_SIZE : Nat := CONFIG_END - CONFIG_START

-- the HWCONFIG type-12 record
def HW_RECORD_START : Nat := 0x7D2000
def HW_RECORD_PAYLOAD_START : Nat := HW_RECORD_START + 4
def HW_KNOWN_PAYLOAD_END : Nat := HW_RECORD_PAYLOAD_START + 0x100
def HW_SUPPORTED_PAYLOAD_LENGTHS : List Nat := [0x100, 0x105]
def HW_CHECK_START : Nat := 0x7D200A
def HW_CHECK_END : Nat := 0x7D200D
def HW_UOID_START : Nat := 0x7D2011
def HW_UOID_END : Nat := 0x7D206F
def HW_DATE_START : Nat := HW_UOID_END
def HW_DATE_END : Nat := 0x7D2073

structure Date where
  year : Nat
  month : Nat
  day : Nat
  deriving DecidableEq, Repr

def Date.isoformat (d : Date) : String :=
  decimal 4 d.year ++ "-" ++ decimal 2 d.month ++ "-" ++ decimal 2 d.day

def HW_SUPPORTED_DATES : List Date := [⟨2026, 3, 2⟩, ⟨2026, 4, 1⟩, ⟨2026, 4, 17⟩]

def KNOWN_CONFIG_NAMES : List Bytes :=
  [ascii "serial.cfg", ascii "uvc.attr", ascii "uvc2.attr", ascii "uvc.config",
    ascii "uvc_dualstream.config", ascii "dev_config.cfg"]

structure Segment where
  name : String
  start : Nat
  stop : Nat
  expectedHash : String

-- exact byte ranges shared by every supported HWCONFIG variant
def REFERENCE_SEGMENTS : List Segment :=
  [⟨"boot", 0x000000, 0x040000,
      "5602ec961b4410ccceea0d4910e4fa768c6998bd4ba86143ba50855bdd0b7a54"⟩,
    ⟨"kernel", 0x040000, 0x190000,
      "0855c3a93f571c3130f1bdd38469e7c806ce713550a3ce536c81167579341545"⟩,
    ⟨"root", 0x190000, 0x2E8000,
      "6049eaacfaba6a2c3db2ed7a5f31cd02df8d793e166249f6a8a2180e89824cba"⟩,
    ⟨"system_before_patch", 0x2E8000, 0x463000,
      "0e76c9eb0dfb499c7556a6a111608757b6c9e32705c07492f172253255fe8041"⟩,
    ⟨"system_after_patch", 0x46B000, 0x7D0000,
      "07a3b00fe224a8e121f760753998335e7f6d59f1cfe2dc92087c040083f46b3a"⟩,
    ⟨"hwconfig_between_identity_fields", 0x7D200D, 0x7D2011,
      "3c3351dc1dedcd627419e02de4fc8202e2d507d786c26f142b767fd9859d0cb4"⟩]

def HWCONFIG_BEFORE_IDENTITY_SHA256 : String :=
  "e9ba6b36ab55dd0284e7cfcaf8c6ece3b4903bf953dcae34026244a5febd701d"
def HWCONFIG_AFTER_UNIT_FIELDS_SHA256 : String :=
  "f2e10823638187acb4572437debe618bb1c27d0a8796d40445c3132cdd805601"
def NORMALIZED_INVARIANT_SHA256 : String :=
  "4dee29ee9f996779a8af0f4e4a66ebad3c6c1ca353cf8b4287b4f1f9a8b12823"

def ORIGINAL_PATCH_SHA256 : String :=
  "5591f5350feabb73fd29e21ae72ee9c3c9dab0c6bb78e02178267e5cb2ab4780"
def PATCHED_PATCH_SHA256 : String :=
  "36e9b9b29dffcd775b094ff67a121fbb78b1871a7eda059371cbafc562251b2b"
def ORIGINAL_BASHRC_SHA256 : String :=
  "984e1d34fb69bd83d43335e62911503461b389f96f86c5c837f7aab57a48417d"
def PATCHED_BASHRC_SHA256 : String :=
  "eab95c4ef39ba900fdd87684feee916f36e2901d3a7abe3fe65d2cde459e0f88"

-- the stock SquashFS fragment that holds bashrc.sh
def SQUASHFS_FRAGMENT_START : Nat := 0x463600
def SQUASHFS_FRAGMENT_SIZE_FIELD : Nat := 0x46A11A
def ORIGINAL_FRAGMENT_XZ_SIZE : Nat := 26268
def PATCHED_FRAGMENT_XZ_SIZE : Nat := 25564
def FRAGMENT_UNCOMPRESSED_SIZE : Nat := 100167
def BASHRC_FRAGMENT_OFFSET : Nat := 29000
def ORIGINAL_FRAGMENT_XZ_SHA256 : String :=
  "4c6d2cf7ce219721a8f027056c207d05fb01e1ae2165bf17e5208f37d690869f"
def PATCHED_FRAGMENT_XZ_SHA256 : String :=
  "ca9162b4b6b7a898901be0503d5c4cb10e94f01c44e79caf4f7c3a5172e768f5"
def ORIGINAL_FRAGMENT_SHA256 : String :=
  "322825a20f30d04d5ad6fc2f677cd8fce2b0c43189d802d1fbb05d2049c07329"
def PATCHED_FRAGMENT_SHA256 : String :=
  "a6a65889a5d79a8b8935cbf1602c1a152a52c2d28f66821f0a5adaac9546c905"

/-- What `zlib.decompressobj().decompress(payload, limit)` leaves behind. -/
structure ZlibResult where
  data : Bytes
  eof : Bool
  unconsumedTail : Bytes
  unusedData : Bytes

/-- The codecs of `zlib` and `lzma`; `none` is the module's own exception. -/
structure Codecs where
  zlibDecompress : Bytes → Nat → Option ZlibResult
  lzmaDecompress : Bytes → Option Bytes
  lzmaCompress : Bytes → Bytes

end Cc2Camera.Image
