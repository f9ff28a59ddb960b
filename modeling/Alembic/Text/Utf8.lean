import Alembic.Text.Quoted
/-! # Reading UTF-8 -/

namespace Alembic.Text

/-- The replacement character. -/
def replacement : Char := '�'

/-- Whether a byte continues a sequence, within bounds `low` to `high`. -/
def within (byte : UInt8) (low high : UInt8) : Bool := low ≤ byte ∧ byte ≤ high

/-- The bounds of the second byte of a sequence led by `lead`, and how many bytes follow it. -/
def sequenceShape (lead : UInt8) : Option (UInt8 × UInt8 × Nat) :=
  if within lead 0xC2 0xDF then some (0x80, 0xBF, 1)
  else if lead = 0xE0 then some (0xA0, 0xBF, 2)
  else if within lead 0xE1 0xEC ∨ within lead 0xEE 0xEF then some (0x80, 0xBF, 2)
  else if lead = 0xED then some (0x80, 0x9F, 2)
  else if lead = 0xF0 then some (0x90, 0xBF, 3)
  else if within lead 0xF1 0xF3 then some (0x80, 0xBF, 3)
  else if lead = 0xF4 then some (0x80, 0x8F, 3)
  else none

/-- The character at the head of a byte list and how many bytes it takes. -/
def decodeOne : List UInt8 → Char × Nat
  | [] => (replacement, 0)
  | lead :: rest =>
    if lead < 0x80 then (Char.ofNat lead.toNat, 1)
    else
      match sequenceShape lead with
      | none => (replacement, 1)
      | some (low, high, following) =>
        let tail := rest.take following
        let wellFormed : Bool := tail.length == following &&
          (match tail with
           | second :: more => within second low high && more.all fun b => within b 0x80 0xBF
           | [] => false)
        if wellFormed then
          let leadBits := lead.toNat % (if following = 1 then 32 else if following = 2 then 16 else 8)
          let code := tail.foldl (fun acc b => acc * 64 + b.toNat % 64) leadBits
          (Char.ofNat code, following + 1)
        else (replacement, 1)

/-- The characters of a byte list, each malformed byte read as the replacement character. -/
def decodeChars : Nat → List UInt8 → List Char
  | 0, _ => []
  | _, [] => []
  | fuel + 1, bytes =>
    let (c, width) := decodeOne bytes
    c :: decodeChars fuel (bytes.drop (max width 1))

/-- The text of bytes read as UTF-8. -/
def decodeLossy (bytes : ByteArray) : String :=
  String.ofList (decodeChars bytes.size bytes.toList)

end Alembic.Text
