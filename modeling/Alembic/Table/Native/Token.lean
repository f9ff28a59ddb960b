import Alembic.Table.Diagnostic
import Alembic.Text.Utf8
import Alembic.Text.Identifier
/-! # Tokens of the native table syntax -/

namespace Alembic.Table.Native

/-- What a token is. -/
inductive TokenKind where
  | braceOpen
  | braceClose
  | bracketOpen
  | bracketClose
  | parenOpen
  | parenClose
  | quoteOpen
  | quoteClose
  | heredocOpen
  | heredocClose
  | star
  | slash
  | plus
  | minus
  | percent
  | equals
  | equalOp
  | notEqual
  | less
  | lessEq
  | greater
  | greaterEq
  | logicalAnd
  | logicalOr
  | bang
  | dot
  | comma
  | doubleColon
  | ellipsis
  | fatArrow
  | question
  | colon
  | interpolation
  | control
  | sequenceEnd
  | quotedLiteral
  | stringLiteral
  | number
  | ident
  | comment
  | newline
  | eof
  | bitwiseAnd
  | bitwiseOr
  | bitwiseNot
  | bitwiseXor
  | semicolon
  | backtick
  | apostrophe
  | invalid
  | badUtf8
  | quotedNewline
  deriving BEq, DecidableEq, Repr, Inhabited

/-- A token: its kind, its bytes and the stretch of source it covers. -/
structure Token where
  kind : TokenKind
  bytes : List UInt8
  range : Range
  deriving Inhabited

/-- The text of a token's bytes. -/
def Token.text (token : Token) : String :=
  Text.decodeLossy ⟨token.bytes.toArray⟩

/-- The kind a punctuation byte stands for on its own. -/
def punctuation : UInt8 → Option TokenKind
  | 91 => some .bracketOpen
  | 93 => some .bracketClose
  | 40 => some .parenOpen
  | 41 => some .parenClose
  | 46 => some .dot
  | 44 => some .comma
  | 42 => some .star
  | 47 => some .slash
  | 37 => some .percent
  | 43 => some .plus
  | 45 => some .minus
  | 61 => some .equals
  | 60 => some .less
  | 62 => some .greater
  | 33 => some .bang
  | 63 => some .question
  | 58 => some .colon
  | 38 => some .bitwiseAnd
  | 124 => some .bitwiseOr
  | 126 => some .bitwiseNot
  | 94 => some .bitwiseXor
  | 59 => some .semicolon
  | 96 => some .backtick
  | 39 => some .apostrophe
  | _ => none

/-- The kind of a two-byte operator. -/
def operatorPair : UInt8 → UInt8 → Option TokenKind
  | 61, 61 => some .equalOp
  | 33, 61 => some .notEqual
  | 62, 61 => some .greaterEq
  | 60, 61 => some .lessEq
  | 38, 38 => some .logicalAnd
  | 124, 124 => some .logicalOr
  | 58, 58 => some .doubleColon
  | 61, 62 => some .fatArrow
  | _, _ => none

def isContinuation (b : UInt8) : Bool := 0x80 ≤ b ∧ b ≤ 0xBF

/-- The character at the head of the bytes and its width, when the bytes start with a lead byte
and the right number of continuation bytes. The check is on shape only, as the scanner's is. -/
def charAt (bytes : List UInt8) : Option (Char × Nat) :=
  match bytes with
  | [] => none
  | b :: rest =>
    if b < 0x80 then some (Char.ofNat b.toNat, 1)
    else
      let shape : Option (Nat × Nat) :=
        if 0xC0 ≤ b ∧ b ≤ 0xDF then some (1, b.toNat - 0xC0)
        else if 0xE0 ≤ b ∧ b ≤ 0xEF then some (2, b.toNat - 0xE0)
        else if 0xF0 ≤ b ∧ b ≤ 0xF7 then some (3, b.toNat - 0xF0)
        else none
      match shape with
      | none => none
      | some (count, lead) =>
        let tail := rest.take count
        if tail.length = count ∧ tail.all isContinuation then
          some (Char.ofNat (tail.foldl (fun acc c => acc * 64 + (c.toNat - 0x80)) lead), count + 1)
        else none

/-- Whether a character can start an identifier. -/
def isIdentStart (c : Char) : Bool := Text.isIdStart c || c = '_'

/-- Whether a character can continue an identifier. -/
def isIdentContinue (c : Char) : Bool := Text.isIdContinue c || c = '-'

end Alembic.Table.Native
