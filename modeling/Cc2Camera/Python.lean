import Cc2Camera.Lib.Bytes
import Cc2Camera.Lib.Exceptions

/-!
# Python — exceptions, `struct` access and text of the tool's own language

Integers are `Nat` with explicit widths.  A `struct` access outside its buffer and a value outside its
field are the `structError` they raise, so "no unexpected exception" stays a statement about the model.
-/

open Bytes Exceptions

namespace Cc2Camera

inductive Exc where
  -- the tool's own: image.ValidationError, protocol.ProtocolError and its subclass AdbUnavailable
  | validationError (msg : String)
  | protocolError (msg : String)
  | adbUnavailable (msg : String)
  | structError
  | indexError
  | keyError
  | typeError
  | valueError
  | attributeError
  | assertionError
  | unicodeDecodeError
  | recursionError
  | stopIteration
  | osError
  | fileExistsError
  | fileNotFoundError
  | timeoutExpired
  | runtimeError
  | notImplementedError
  | badZipFile
  | zlibError
  | lzmaError
  | eofError
  | keyboardInterrupt
  deriving DecidableEq, Repr

def Exc.isProtocolError : Exc → Bool
  | .protocolError _ => true
  | .adbUnavailable _ => true
  | _ => false

def Exc.isAdbUnavailable : Exc → Bool
  | .adbUnavailable _ => true
  | _ => false

def Exc.isValidationError : Exc → Bool
  | .validationError _ => true
  | _ => false

-- FileExistsError and FileNotFoundError are subclasses of OSError
def Exc.isOsError : Exc → Bool
  | .osError => true
  | .fileExistsError => true
  | .fileNotFoundError => true
  | _ => false

/-- `str(exc)` for the tool's own exceptions. -/
def Exc.str : Exc → String
  | .validationError msg => msg
  | .protocolError msg => msg
  | .adbUnavailable msg => msg
  | _ => ""

/-! ## `struct` -/

def u8 (data : Bytes) (offset : Nat) : Nat := leNat (slice data offset (offset + 1))

def u16 (data : Bytes) (offset : Nat) : Nat := leNat (slice data offset (offset + 2))

def u32 (data : Bytes) (offset : Nat) : Nat := leNat (slice data offset (offset + 4))

/-- The bounds check `struct.unpack_from` makes for a format of `size` bytes. -/
def unpackFits (size : Nat) (data : Bytes) (offset : Nat) : Except Exc Unit :=
  raiseIf (data.length < offset + size) .structError

/-- `data[offset]` on a byte string. -/
def byteAt (data : Bytes) (offset : Nat) : Except Exc Nat :=
  orRaise (data[offset]?.map UInt8.toNat) .indexError

/-- One unsigned little-endian field of `struct.pack`. -/
def pack (width value : Nat) : Except Exc Bytes :=
  if value < 256 ^ width then .ok (leBytes width value) else .error .structError

/-- `struct.pack` of a sequence of fields, each given by its width and its value. -/
def packAll : List (Nat × Nat) → Except Exc Bytes
  | [] => .ok []
  | (width, value) :: fields => do
    let head ← pack width value
    let tail ← packAll fields
    .ok (head ++ tail)

def packInto (width : Nat) (buffer : Bytes) (offset value : Nat) : Except Exc Bytes := do
  let field ← pack width value
  raiseIf (buffer.length < offset + width) .structError
  .ok (splice buffer offset (offset + width) field)

theorem u16_lt (data : Bytes) (offset : Nat) : u16 data offset < 2 ^ 16 := by
  have h := leNat_lt (slice data offset (offset + 2))
  have hlen : (slice data offset (offset + 2)).length ≤ 2 := by rw [length_slice]; omega
  calc
    u16 data offset < 256 ^ (slice data offset (offset + 2)).length := h
    _ ≤ 256 ^ 2 := Nat.pow_le_pow_right (by decide) hlen
    _ = 2 ^ 16 := by decide

theorem u32_lt (data : Bytes) (offset : Nat) : u32 data offset < 2 ^ 32 := by
  have h := leNat_lt (slice data offset (offset + 4))
  have hlen : (slice data offset (offset + 4)).length ≤ 4 := by rw [length_slice]; omega
  calc
    u32 data offset < 256 ^ (slice data offset (offset + 4)).length := h
    _ ≤ 256 ^ 4 := Nat.pow_le_pow_right (by decide) hlen
    _ = 2 ^ 32 := by decide

theorem u16_of_lt {data : Bytes} {offset : Nat} (h : offset + 1 < data.length) :
    u16 data offset = data[offset].toNat + 256 * data[offset + 1].toNat := by
  have hsplit := slice_append_slice data (i := offset) (j := offset + 1) (k := offset + 2) (by omega)
    (by omega)
  unfold u16
  rw [← hsplit, slice_singleton (by omega), slice_singleton h]
  rfl

theorem u8_set_outside (data : Bytes) (x : UInt8) {i k : Nat} (h : k ≠ i) :
    u8 (data.set k x) i = u8 data i := by
  unfold u8
  rw [slice_set_outside _ _ (by omega)]

theorem u16_set_outside (data : Bytes) (x : UInt8) {i k : Nat} (h : k < i ∨ i + 2 ≤ k) :
    u16 (data.set k x) i = u16 data i := by
  unfold u16
  rw [slice_set_outside _ _ h]

theorem u32_set_outside (data : Bytes) (x : UInt8) {i k : Nat} (h : k < i ∨ i + 4 ≤ k) :
    u32 (data.set k x) i = u32 data i := by
  unfold u32
  rw [slice_set_outside _ _ h]

theorem byteAt_of_lt {data : Bytes} {offset : Nat} (h : offset < data.length) :
    byteAt data offset = .ok (u8 data offset) := by
  rw [byteAt, u8, slice_singleton h, List.getElem?_eq_getElem h]
  rfl

theorem pack_eq_ok {width value : Nat} {b : Bytes} :
    pack width value = .ok b ↔ value < 256 ^ width ∧ b = leBytes width value := by
  unfold pack
  split
  · rename_i h
    simp [h, eq_comm]
  · rename_i h
    simp [h]

theorem pack_of_lt {width value : Nat} (h : value < 256 ^ width) :
    pack width value = .ok (leBytes width value) := if_pos h

/-- `struct.pack` succeeds exactly when every value fits its field. -/
theorem packAll_eq_ok {fields : List (Nat × Nat)} {b : Bytes} :
    packAll fields = .ok b ↔ (∀ f ∈ fields, f.2 < 256 ^ f.1) ∧ b = leFields fields := by
  induction fields generalizing b with
  | nil => simp [packAll, eq_comm]
  | cons f fields ih =>
    obtain ⟨width, value⟩ := f
    simp only [packAll, bind_eq_ok, pack_eq_ok, ih, List.forall_mem_cons, leFields_cons,
      Except.ok.injEq]
    constructor
    · rintro ⟨head, ⟨hfit, rfl⟩, tail, ⟨hfits, rfl⟩, rfl⟩
      exact ⟨⟨hfit, hfits⟩, rfl⟩
    · rintro ⟨⟨hfit, hfits⟩, rfl⟩
      exact ⟨_, ⟨hfit, rfl⟩, _, ⟨hfits, rfl⟩, rfl⟩

theorem packInto_length {width : Nat} {buffer : Bytes} {offset value : Nat} {b : Bytes}
    (h : packInto width buffer offset value = .ok b) : b.length = buffer.length := by
  rw [packInto, bind_eq_ok] at h
  obtain ⟨field, hfield, h⟩ := h
  obtain ⟨_, hfits, h⟩ := bind_eq_ok.mp h
  have hb : splice buffer offset (offset + width) field = b := by simpa using h
  rw [raiseIf_eq_ok, not_lt] at hfits
  rw [← hb, length_splice_of_fit _ _ (Nat.le_add_right _ _) hfits]
  rw [(pack_eq_ok.mp hfield).2, length_leBytes, Nat.add_sub_cancel_left]

/-! ## Text -/

/-- The bytes of an ASCII literal `b"..."`. -/
def ascii (s : String) : Bytes := s.toList.map fun c => UInt8.ofNat c.toNat

theorem length_ascii (s : String) : (ascii s).length = s.length := by
  rw [ascii, List.length_map, String.length_toList]

/-! The length of a long text is added up from its literals, whose characters `rfl` lists. -/

theorem length_literal {s : String} {chars : List Char} (h : s = String.ofList chars) : s.length = chars.length := by
  rw [h, String.length_ofList]

theorem length_joined {s t : String} {m n : Nat} (hs : s.length = m) (ht : t.length = n) :
    (s ++ t).length = m + n := by
  rw [String.length_append, hs, ht]

theorem ascii_append (s t : String) : ascii (s ++ t) = ascii s ++ ascii t := by
  rw [ascii, String.toList_append, List.map_append]
  rfl

-- `data.count(pattern)` for a nonempty pattern; the fuel is the length of the data
def countBytes (pattern : Bytes) : Nat → Bytes → Nat
  | 0, _ => 0
  | _ + 1, [] => 0
  | fuel + 1, b :: bs =>
    if pattern.isPrefixOf (b :: bs) then 1 + countBytes pattern fuel ((b :: bs).drop pattern.length)
    else countBytes pattern fuel bs

def hexDigit (n : Nat) : Char := if n < 10 then Char.ofNat (48 + n) else Char.ofNat (87 + n)

/-- `data.hex()`. -/
def hex (data : Bytes) : String :=
  String.ofList (data.flatMap fun b => [hexDigit (b.toNat / 16), hexDigit (b.toNat % 16)])

/-- The digits of `value` in the given base, at least `width` of them. -/
def paddedDigits (base width value : Nat) : String :=
  let digits := Nat.toDigits base value
  String.ofList (List.replicate (width - digits.length) '0' ++ digits)

/-- `f"0x{value:06X}"`. -/
def hex6 (value : Nat) : String := "0x" ++ (paddedDigits 16 6 value).toUpper

/-- `f"{value:0Nd}"`. -/
def decimal (width value : Nat) : String := paddedDigits 10 width value

-- `repr` of one byte inside a bytes literal delimited by `quote`
def byteRepr (quote : Char) (b : UInt8) : List Char :=
  let backslash := Char.ofNat 92
  if b = 9 then [backslash, 't']
  else if b = 10 then [backslash, 'n']
  else if b = 13 then [backslash, 'r']
  else if b = 92 then [backslash, backslash]
  else if b.toNat = quote.toNat then [backslash, quote]
  else if 32 ≤ b ∧ b < 127 then [Char.ofNat b.toNat]
  else [backslash, 'x', hexDigit (b.toNat / 16), hexDigit (b.toNat % 16)]

/-- `repr(data)`: single quotes unless the data holds one and no double quote. -/
def bytesRepr (data : Bytes) : String :=
  let quote := if 39 ∈ data ∧ 34 ∉ data then Char.ofNat 34 else Char.ofNat 39
  String.ofList (['b', quote] ++ data.flatMap (byteRepr quote) ++ [quote])

/-- The hash functions of `hashlib`: SHA-256 as a hex digest, MD5 as its sixteen bytes. -/
structure Hashlib where
  sha256 : Bytes → String
  md5 : Bytes → {digest : Bytes // digest.length = 16}

end Cc2Camera
