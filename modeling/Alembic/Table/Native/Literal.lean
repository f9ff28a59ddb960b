import Alembic.Table.Native.Token
import Alembic.Table.Value
import Alembic.Number.Literal
import Alembic.Text.Grapheme
import Alembic.Text.Printable
/-! # Literal text and numbers of the native table syntax -/

namespace Alembic.Table.Native

def isHexByte (b : UInt8) : Bool :=
  (48 ≤ b ∧ b ≤ 57) ∨ (97 ≤ b ∧ b ≤ 102) ∨ (65 ≤ b ∧ b ≤ 70)

def hexByteValue (b : UInt8) : Nat :=
  if 48 ≤ b ∧ b ≤ 57 then b.toNat - 48
  else if 97 ≤ b ∧ b ≤ 102 then b.toNat - 87
  else b.toNat - 55

/-- Whether the bytes start with a doubled template opener, `$${` or `%%{`. -/
def startsDoubledOpener (bytes : List UInt8) : Bool :=
  match bytes with
  | b :: next :: 123 :: _ => (b = 36 ∨ b = 37) ∧ next = b
  | _ => false

/-- The width of a run of plain text: up to an escape or a doubled opener. -/
def plainRun (quoted : Bool) : Nat → List UInt8 → Nat
  | 0, _ => 0
  | _ + 1, [] => 0
  | fuel + 1, b :: rest =>
    if (quoted ∧ b = 92) ∨ startsDoubledOpener (b :: rest) then 0
    else 1 + plainRun quoted fuel rest

/-- The width of the piece of literal text at the head of the bytes. -/
def pieceWidth (quoted : Bool) (bytes : List UInt8) : Nat :=
  match bytes with
  | [] => 0
  | 92 :: rest =>
    if !quoted then max (plainRun quoted bytes.length bytes) 1
    else
      match rest with
      | 117 :: digits => if (digits.take 4).length = 4 ∧ (digits.take 4).all isHexByte then 6 else 2
      | 85 :: digits => if (digits.take 8).length = 8 ∧ (digits.take 8).all isHexByte then 10 else 2
      | _ :: _ => 1 + ((charAt rest).map Prod.snd).getD 1
      | [] => 1
  | _ => if startsDoubledOpener bytes then 3 else max (plainRun quoted bytes.length bytes) 1

/-- Cuts literal text into pieces. -/
def pieces (quoted : Bool) : Nat → List UInt8 → List (List UInt8)
  | 0, _ => []
  | _ + 1, [] => []
  | fuel + 1, bytes =>
    let width := max (pieceWidth quoted bytes) 1
    bytes.take width :: pieces quoted fuel (bytes.drop width)

/-- The end of a range moved over some bytes: a cluster starting with a line break starts a
new line, any other adds a column. -/
def advancePiece : Nat → Pos → List UInt8 → Pos
  | 0, pos, _ => pos
  | _ + 1, pos, [] => pos
  | fuel + 1, pos, bytes =>
    let width := max (Text.clusterWidth bytes) 1
    let pos' : Pos :=
      if bytes.head? = some 10 ∨ bytes.head? = some 13 then
        { line := pos.line + 1, column := 1, byte := pos.byte + width }
      else { pos with column := pos.column + 1, byte := pos.byte + width }
    advancePiece fuel pos' (bytes.drop width)

/-- The UTF-8 encoding of a code point. -/
def encodeCodePoint (code : Nat) : List UInt8 :=
  if code < 0x80 then [code.toUInt8]
  else if code < 0x800 then [(0xC0 + code / 64).toUInt8, (0x80 + code % 64).toUInt8]
  else if code < 0x10000 then
    [(0xE0 + code / 4096).toUInt8, (0x80 + code / 64 % 64).toUInt8, (0x80 + code % 64).toUInt8]
  else
    [(0xF0 + code / 262144).toUInt8, (0x80 + code / 4096 % 64).toUInt8,
     (0x80 + code / 64 % 64).toUInt8, (0x80 + code % 64).toUInt8]

/-- A code point as four or more lowercase hex digits. -/
def hexCode (code : Nat) : String :=
  let digits := Nat.toDigits 16 code
  String.ofList (List.replicate (4 - digits.length) '0' ++ digits)

def invalidEscape (detail : String) (range : Range) : Diagnostic :=
  ⟨"Invalid escape sequence", detail, range⟩

/-- The bytes one piece stands for and the problem with it, if any. -/
def decodePiece (quoted : Bool) (piece : List UInt8) (range : Range) :
    List UInt8 × List Diagnostic :=
  match piece with
  | 92 :: rest =>
    if !quoted then (piece, [])
    else
      match rest with
      | [] =>
        (piece, [invalidEscape "Backslash must be followed by an escape sequence selector character."
          range])
      | 110 :: _ => ([10], [])
      | 114 :: _ => ([13], [])
      | 116 :: _ => ([9], [])
      | 34 :: _ => ([34], [])
      | 92 :: _ => ([92], [])
      | selector :: digits =>
        if selector = 117 ∨ selector = 85 then
          let wanted := if selector = 117 then 4 else 8
          if digits.length ≠ wanted then
            (piece, [invalidEscape (if selector = 117 then
                "The \\u escape sequence must be followed by four hexadecimal digits."
              else "The \\U escape sequence must be followed by eight hexadecimal digits.") range])
          else
            let code := digits.foldl (fun acc d => acc * 16 + hexByteValue d) 0
            if (0xD800 ≤ code ∧ code < 0xE000) ∨ code > 0x10FFFF then
              (piece, [invalidEscape ("Cannot encode character U+" ++ hexCode code ++ " in UTF-8.")
                range])
            else (encodeCodePoint code, [])
        else
          (rest, [invalidEscape ("The symbol " ++ Text.quote (Text.decodeLossy ⟨rest.toArray⟩) ++
            " is not a valid escape sequence selector.") range])
  | [b, next, 123] =>
    if (b = 36 ∨ b = 37) ∧ next = b then ([b, 123], []) else (piece, [])
  | _ => (piece, [])

/-- Decodes the pieces of a literal token, tracking the range of each piece. -/
def decodePieces (quoted : Bool) (file : String) :
    List (List UInt8) → Pos → List UInt8 × List Diagnostic
  | [], _ => ([], [])
  | piece :: rest, start =>
    let stop := advancePiece piece.length start piece
    let (bytes, diagnostics) := decodePiece quoted piece ⟨file, start, stop⟩
    let (more, moreDiagnostics) := decodePieces quoted file rest stop
    (bytes ++ more, diagnostics ++ moreDiagnostics)

/-- The text of a quoted-literal or heredoc-literal token, and the problems with its escapes. -/
def literalText (token : Token) : String × List Diagnostic :=
  let quoted := token.kind == .quotedLiteral
  let cut := pieces quoted token.bytes.length token.bytes
  let (bytes, diagnostics) := decodePieces quoted token.range.file cut token.range.start
  (Text.decodeLossy ⟨bytes.toArray⟩, diagnostics)

/-- The value of a number token, or the problem with it. -/
def numberValue (token : Token) : Value × List Diagnostic :=
  match Literal.parsePrecise token.text with
  | some number => (.number number, [])
  | none =>
    (.unknown .number, [⟨"Invalid number literal",
      "Failed to recognize the value of this number literal.", token.range⟩])

end Alembic.Table.Native
