/-! # Reading a JPEG stream -/

namespace Alembic.Image.Jpeg

/-- Why a stream cannot be decoded. -/
inductive JpegError where
  /-- The stream breaks the format. -/
  | format (reason : String)
  /-- The stream uses a feature the decoder does not have. -/
  | unsupported (reason : String)
  /-- The stream ends too early. -/
  | truncated
  deriving Repr, BEq, DecidableEq, Inhabited

namespace JpegError

def message : JpegError → String
  | .format reason => "invalid JPEG format: " ++ reason
  | .unsupported reason => "unsupported JPEG feature: " ++ reason
  | .truncated => "unexpected EOF"

/-- A `0xFF` in entropy-coded data not followed by `0x00`. -/
def missingStuffing : JpegError := .format "missing 0xff00 sequence"

/-- Entropy-coded data that ends before its bits do. -/
def shortData : JpegError := .format "short Huffman data"

end JpegError

/-- The bytes of a file being read. -/
structure Stream where
  data : ByteArray
  position : Nat := 0
  unreadable : Nat := 0
  /-- The bit accumulator, below `2 ^ 32`. -/
  bits : Nat := 0
  /-- How many low bits of the accumulator are still unread. -/
  count : Nat := 0
  deriving Inhabited

/-- A step of reading that may fail. -/
abbrev Reading := StateT Stream (Except JpegError)

namespace Stream

/-- Gives back the last byte read into the accumulator, with its stuffing byte; when the
accumulator holds a whole unread byte, that byte leaves it. -/
def giveBack (s : Stream) : Stream :=
  let s := { s with position := s.position - s.unreadable, unreadable := 0 }
  if s.count ≥ 8 then { s with bits := s.bits / 256, count := s.count - 8 } else s

/-- Before a segment is read: a byte read into the accumulator and not used is given back. -/
def settle (s : Stream) : Stream :=
  if s.unreadable ≠ 0 then
    { (if s.count ≥ 8 then s.giveBack else s) with unreadable := 0 }
  else s

/-- The next `n` bytes. -/
def readBytes (n : Nat) : Reading ByteArray := fun s =>
  let s := s.settle
  if s.position + n ≤ s.data.size then
    .ok (s.data.extract s.position (s.position + n), { s with position := s.position + n })
  else .error .truncated

/-- The next byte. -/
def readByte : Reading Nat := fun s =>
  if h : s.position < s.data.size then
    .ok (s.data[s.position].toNat, { s with position := s.position + 1, unreadable := 0 })
  else .error .truncated

/-- Skips `n` bytes. -/
def skip (n : Nat) : Reading Unit := fun s =>
  let s := s.settle
  if s.position + n ≤ s.data.size then .ok ((), { s with position := s.position + n })
  else .error .truncated

/-- The next byte of entropy-coded data, `FF 00` read as `0xFF`; the failure keeps the stream
as it was left, since a reader may still go on from there. -/
def readStuffed (s : Stream) : Except JpegError Nat × Stream :=
  if h : s.position < s.data.size then
    let x := s.data[s.position].toNat
    let s := { s with position := s.position + 1, unreadable := 1 }
    if x ≠ 0xff then (.ok x, s)
    else if h' : s.position < s.data.size then
      if s.data[s.position] ≠ 0 then (.error JpegError.missingStuffing, s)
      else (.ok 0xff, { s with position := s.position + 1, unreadable := 2 })
    else (.error .truncated, s)
  else (.error .truncated, { s with unreadable := 0 })

/-- Reads bytes into the accumulator until it holds `n` unread bits, at least one byte; at
most `fuel` bytes are read. Gives the failure, if any, with the stream where it stopped. -/
def fillBits (n : Nat) : Nat → Stream → Option JpegError × Stream
  | 0, s => (none, s)
  | fuel + 1, s =>
    match s.readStuffed with
    | (.error problem, s) =>
      (some (if problem = .truncated then JpegError.shortData else problem), s)
    | (.ok byte, s) =>
      let s := { s with bits := (s.bits * 256 + byte) % Nat.pow 2 32, count := s.count + 8 }
      if s.count ≥ n then (none, s) else fillBits n fuel s

/-- Makes sure the accumulator holds `n` unread bits. -/
def ensureBits (n : Nat) : Reading Unit := fun s =>
  if s.count ≥ n then .ok ((), s)
  else
    match fillBits n (n / 8 + 1) s with
    | (none, s) => .ok ((), s)
    | (some problem, _) => .error problem

/-- The next `n` bits as a number. -/
def readBits (n : Nat) : Reading Nat := do
  ensureBits n
  let s ← get
  let count := s.count - n
  set { s with count }
  return (s.bits >>> count) % Nat.pow 2 n

/-- The next bit. -/
def readBit : Reading Bool := do
  let value ← readBits 1
  return value = 1

/-- The next `n` bits as a signed number: values with a clear top bit are negative, as
section F.2.2.1 of the standard extends them. -/
def receiveExtend (n : Nat) : Reading Int := do
  let value ← readBits n
  if n > 0 ∧ value < Nat.pow 2 (n - 1) then return (value : Int) - Int.pow 2 n + 1
  else return value

/-- Drops the bits of the accumulator, as a restart does. -/
def resetBits (s : Stream) : Stream := { s with bits := 0, count := 0 }

end Stream

end Alembic.Image.Jpeg
