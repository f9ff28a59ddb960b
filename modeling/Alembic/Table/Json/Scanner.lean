import Alembic.Table.Diagnostic
import Alembic.Text.Grapheme
/-! # Tokens of the JSON syntax -/

namespace Alembic.Table.Json

/-- What a token is. -/
inductive TokenKind where
  | braceOpen
  | braceClose
  | bracketOpen
  | bracketClose
  | comma
  | colon
  | equals
  | keyword
  | string
  | number
  | invalid
  | eof
  deriving Repr, BEq, DecidableEq, Inhabited

/-- A token with its bytes and where it is. -/
structure Token where
  kind : TokenKind
  bytes : List UInt8
  range : Range
  deriving Inhabited

def isLetter (b : UInt8) : Bool := (97 ≤ b ∧ b ≤ 122) ∨ (65 ≤ b ∧ b ≤ 90)

def canStartNumber (b : UInt8) : Bool := (48 ≤ b ∧ b ≤ 57) ∨ b = 43 ∨ b = 45 ∨ b = 46

def inNumber (b : UInt8) : Bool := canStartNumber b ∨ b = 101 ∨ b = 69

/-- The single-byte token a byte is, if it is one. -/
def punctuation : UInt8 → Option TokenKind
  | 123 => some .braceOpen
  | 125 => some .braceClose
  | 91 => some .bracketOpen
  | 93 => some .bracketClose
  | 44 => some .comma
  | 58 => some .colon
  | 61 => some .equals
  | _ => none

/-- Skips spaces, tabs and line breaks. -/
def skipSpace : List UInt8 → Pos → List UInt8 × Pos
  | 32 :: rest, pos => skipSpace rest (pos.advance 1 1)
  | 10 :: rest, pos => skipSpace rest { line := pos.line + 1, column := 1, byte := pos.byte + 1 }
  | 13 :: rest, pos => skipSpace rest (pos.advance 1 0)
  | 9 :: rest, pos => skipSpace rest (pos.advance 1 2)
  | bytes, pos => (bytes, pos)

/-- The length of the run of leading bytes with a property. -/
def runLength (bytes : List UInt8) (keep : UInt8 → Bool) : Nat :=
  (bytes.takeWhile keep).length

/-- The bytes of a string token after its opening quote, and the columns they take. -/
def stringBody : Nat → List UInt8 → Bool → Nat × Nat
  | 0, _, _ => (0, 0)
  | _ + 1, [], _ => (0, 0)
  | fuel + 1, b :: rest, escaping =>
    if b = 92 then
      let (bytes, columns) := stringBody fuel rest (!escaping)
      (bytes + 1, columns + 1)
    else if b = 34 then
      if escaping then
        let (bytes, columns) := stringBody fuel rest false
        (bytes + 1, columns + 1)
      else (1, 1)
    else if b < 32 then (0, 0)
    else
      let width := max 1 (Text.clusterWidth (b :: rest))
      let (bytes, columns) := stringBody fuel ((b :: rest).drop width) false
      (bytes + width, columns + 1)

/-- The tokens of the remaining bytes, after the ones found so far. -/
def scanFrom (file : String) : Nat → List UInt8 → Pos → Array Token → Array Token
  | 0, _, pos, found => found.push ⟨.eof, [], Range.point file pos⟩
  | fuel + 1, input, pos, found =>
    let (bytes, pos) := skipSpace input pos
    match bytes with
    | [] => found.push ⟨.eof, [], Range.point file pos⟩
    | first :: rest =>
      match punctuation first with
      | some kind =>
        let next := pos.advance 1 1
        scanFrom file fuel rest next (found.push ⟨kind, [first], ⟨file, pos, next⟩⟩)
      | none =>
        if first = 34 then
          let (length, columns) := stringBody rest.length rest false
          let next := pos.advance (length + 1) (columns + 1)
          scanFrom file fuel (rest.drop length) next
            (found.push ⟨.string, first :: rest.take length, ⟨file, pos, next⟩⟩)
        else if canStartNumber first then
          let length := runLength bytes inNumber
          let next := pos.advance length length
          scanFrom file fuel (bytes.drop length) next
            (found.push ⟨.number, bytes.take length, ⟨file, pos, next⟩⟩)
        else if isLetter first then
          let length := runLength bytes fun b => isLetter b ∨ b = 95
          let next := pos.advance length length
          scanFrom file fuel (bytes.drop length) next
            (found.push ⟨.keyword, bytes.take length, ⟨file, pos, next⟩⟩)
        else
          let next := pos.advance 1 1
          (found.push ⟨.invalid, [first], ⟨file, pos, next⟩⟩).push ⟨.eof, [], Range.point file next⟩

/-- The tokens of a JSON document, ending with the end token. -/
def scan (file : String) (bytes : List UInt8) : Array Token :=
  scanFrom file (bytes.length + 1) bytes Pos.origin #[]

end Alembic.Table.Json
