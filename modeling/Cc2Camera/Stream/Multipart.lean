import Cc2Camera.Adb.Mtd
import Cc2Camera.Lib.ByteStream
import Cc2Camera.Lib.World
import Cc2Camera.Stream.Jpeg

/-!
# Multipart — `stream_identify.read_mjpeg_frames`

The stream is asked for lines and for bytes.  The model issues these operations and takes whatever comes
back; what a peer may send back is a `World`.
-/

open Bytes Exceptions Program

namespace Cc2Camera.StreamIdentify

def MAX_FRAME_BYTES : Nat := 2 * 1024 * 1024

def MAX_MULTIPART_LINE : Nat := 8192

def MAX_MULTIPART_HEADERS : Nat := 32 * 1024

def MAX_PREAMBLE_BYTES : Nat := 32 * 1024

/-! ## Byte strings -/

-- white space of `bytes`
def isByteSpace (b : UInt8) : Bool := b = 32 ∨ (9 ≤ b ∧ b ≤ 13)

/-- `data.strip()`. -/
def stripBytes (data : Bytes) : Bytes := stripped isByteSpace data

/-- `data.lower()`. -/
def lowerBytes (data : Bytes) : Bytes := data.map fun b => if 65 ≤ b ∧ b ≤ 90 then b + 32 else b

def isLineBreak (b : UInt8) : Bool := b = 13 ∨ b = 10

/-- `line.rstrip(b"\r\n")`. -/
def withoutBreak (line : Bytes) : Bytes := (line.reverse.dropWhile isLineBreak).reverse

/-- `line.split(b":", 1)` of a line with a colon. -/
def splitHeader (line : Bytes) : Bytes × Bytes :=
  (line.takeWhile (· ≠ 0x3A), (line.dropWhile (· ≠ 0x3A)).drop 1)

/-- The digits of an `int` literal: groups of digits between single underscores. -/
def digitGroups (body : Bytes) : Option Text :=
  let groups := (body.map UInt8.toNat).splitOn 95
  if groups.all fun group => group ≠ [] ∧ group.all isDigit then some groups.flatten else none

/-- `int(data)`: an optional sign and at most 4300 digits. -/
def intOfBytes (data : Bytes) : Except StreamExc Int := do
  let body := stripBytes data
  let unsigned := if body.head? = some 0x2B ∨ body.head? = some 0x2D then body.drop 1 else body
  let digits ← orRaise (digitGroups unsigned) .valueError
  raiseIf (4300 < digits.length) .valueError
  let value : Int := digitsValue 10 digits
  .ok (if body.head? = some 0x2D then -value else value)

/-! ## Headers -/

/-- The `headers` dictionary. -/
abbrev Headers : Type := Bytes → Option Bytes

def noHeaders : Headers := fun _ => none

/-- `headers[name.strip().lower()] = value.strip()`. -/
def setHeader (headers : Headers) (line : Bytes) : Headers :=
  let (name, value) := splitHeader line
  Function.update headers (lowerBytes (stripBytes name)) (some (stripBytes value))

/-- The checks between the headers and the frame; the result is the length of the frame. -/
def frameLength (headers : Headers) : Except StreamExc Nat := do
  let contentType :=
    lowerBytes (stripBytes (((headers (ascii "content-type")).getD []).takeWhile (· ≠ 0x3B)))
  raiseIf (contentType ≠ ascii "image/jpeg") (.streamIdentificationError "MJPEG part is not image/jpeg")
  let rawLength ← orRaise (headers (ascii "content-length"))
    (.streamIdentificationError "MJPEG part has no Content-Length")
  let length ← recover (intOfBytes rawLength) fun
    | .valueError => some (.error (.streamIdentificationError "invalid MJPEG Content-Length"))
    | _ => none
  raiseIf (¬(0 < length ∧ length ≤ MAX_FRAME_BYTES))
    (.streamIdentificationError "MJPEG frame length is outside the accepted bound")
  .ok length.toNat

/-! ## Reading -/

inductive StreamOp where
  | readline (limit : Nat)
  | read (length : Nat)

abbrev Reading (α : Type) : Type := Program StreamOp (fun _ => Bytes) StreamExc α

/-- `_readline`. -/
def readline : Reading Bytes := do
  let line ← perform (.readline (MAX_MULTIPART_LINE + 1))
  if MAX_MULTIPART_LINE < line.length then
    .raise (.streamIdentificationError "MJPEG multipart line is too long")
  else pure line

/-- The loop of `_read_exact`, with the iterations it may still make. -/
def readChunks : Nat → Nat → List Bytes → Reading Bytes
  | 0, _, _ => .pending
  | budget + 1, remaining, chunks =>
    if remaining = 0 then pure chunks.flatten
    else do
      let chunk ← perform (.read remaining)
      if chunk = [] then .raise (.streamIdentificationError "MJPEG stream ended inside a JPEG frame")
      else readChunks budget (remaining - chunk.length) (chunks ++ [chunk])

/-- `_read_exact`. -/
def readExact (budget length : Nat) : Reading Bytes := readChunks budget length []

def isBlank (line : Bytes) : Prop := line = ascii "\r\n" ∨ line = ascii "\n"

instance (line : Bytes) : Decidable (isBlank line) := inferInstanceAs (Decidable (_ ∨ _))

/-- The loop over the headers of a part. -/
def readHeaders : Nat → Nat → Headers → Reading Headers
  | 0, _, _ => .pending
  | budget + 1, headerBytes, headers => do
    let line ← readline
    if line = [] then .raise (.streamIdentificationError "MJPEG stream ended inside multipart headers")
    else if MAX_MULTIPART_HEADERS < headerBytes + line.length then
      .raise (.streamIdentificationError "MJPEG multipart headers are too large")
    else if isBlank line then pure headers
    else if 0x3A ∉ line then .raise (.streamIdentificationError "invalid MJPEG multipart header")
    else readHeaders budget (headerBytes + line.length) (setHeader headers line)

/-- The rest of a part, after its delimiter line. -/
def readPart (budget : Nat) : Reading Bytes := do
  let headers ← readHeaders budget 0 noHeaders
  let length ← .ofExcept (frameLength headers)
  readExact budget length

def delimiterOf (boundary : Bytes) : Bytes := ascii "--" ++ boundary

def closingOf (boundary : Bytes) : Bytes := delimiterOf boundary ++ ascii "--"

/-- The loop over the parts. -/
def readParts (budget : Nat) (boundary : Bytes) (count : Int) : Nat → List Bytes → Nat → Reading (List Bytes)
  | 0, _, _ => .pending
  | iterations + 1, frames, preamble =>
    if frames.length < count then do
      let line ← readline
      if line = [] then pure frames
      else if withoutBreak line = closingOf boundary then pure frames
      else if withoutBreak line ≠ delimiterOf boundary then
        if MAX_PREAMBLE_BYTES < preamble + line.length then
          .raise (.streamIdentificationError "MJPEG multipart boundary was not found")
        else readParts budget boundary count iterations frames (preamble + line.length)
      else do
        let frame ← readPart budget
        readParts budget boundary count iterations (frames ++ [frame]) preamble
    else pure frames

def readMjpegFrames (budget : Nat) (boundary : Bytes) (count : Int) : Reading (List Bytes) := do
  let frames ← readParts budget boundary count budget [] 0
  if frames.length < count then
    .raise (.streamIdentificationError ("MJPEG stream ended after " ++ toString frames.length ++ " frame(s); " ++
      toString count ++ " are required"))
  else pure frames

/-- A peer that sends a byte stream; a read may return fewer bytes than it asks for. -/
def peer : World StreamOp (fun _ => Bytes) ByteStream where
  answers s
    | ⟨.readline limit, line⟩ => line = s.line limit
    | ⟨.read length, chunk⟩ => s.IsChunk length chunk
  after s e := s.drop e.reply.length

end Cc2Camera.StreamIdentify
