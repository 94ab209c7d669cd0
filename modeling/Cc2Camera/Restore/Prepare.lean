import Cc2Camera.Device.Protocol

/-!
# Prepare — `restore_prepare.py`, the gate before the flag write
-/

open Bytes Exceptions

namespace Cc2Camera.RestorePrepare

variable (hashlib : Hashlib)

def KERNEL_SHA256 : String := "0855c3a93f571c3130f1bdd38469e7c806ce713550a3ce536c81167579341545"

def POINTER_PHYSICAL : Nat := 0x0043B190

def ERASE_OFFSET : Nat := 0x10

def SYMBOLS : List (String × Nat) :=
  [("recovery_norflash_erase", 0x801F06CC),
   ("jz_spi_norflash_erase_sector", 0x801EFC74),
   ("direct_erase_norflash", 0x801F080C)]

/-- Address and word of the instructions that load the global pointer and the erase-size member. -/
def INSTRUCTIONS : List (Nat × Nat) :=
  [(0x001F06D4, 0x3C138044),
   (0x001F06E0, 0x8E64B190),
   (0x001F0764, 0x8C420010),
   (0x001EFCA4, 0x8E220010)]

def validatePreparationImage (image : Bytes) : Except Exc Unit :=
  raiseIf (image.length ≠ Protocol.FLASH_SIZE ∨
      hashlib.sha256 (slice image 0x40000 0x190000) ≠ KERNEL_SHA256)
    (.protocolError "restore preparation requires the exact known stock kernel")

theorem validatePreparationImage_eq_ok {image : Bytes} {u : Unit} :
    validatePreparationImage hashlib image = .ok u ↔
      image.length = Protocol.FLASH_SIZE ∧
        hashlib.sha256 (slice image 0x40000 0x190000) = KERNEL_SHA256 := by
  rw [validatePreparationImage, raiseIf_eq_ok, not_or, not_not, not_not]

end Cc2Camera.RestorePrepare
