import Alembic.Text.Printable
/-! # Quoted text -/

namespace Alembic.Text

/-- The lowest `width` hex digits of `value`, lower case, most significant first. -/
def hexDigits (width value : Nat) : String :=
  String.ofList ((List.range width).reverse.map fun place =>
    "0123456789abcdef".toList.getD ((value >>> (4 * place)) % 16) '0')

/-- The escape of a character that does not stand for itself. -/
def escape (c : Char) : String :=
  match c with
  | '\x07' => "\\a"
  | '\x08' => "\\b"
  | '\x0c' => "\\f"
  | '\n' => "\\n"
  | '\r' => "\\r"
  | '\t' => "\\t"
  | '\x0b' => "\\v"
  | _ =>
    let code := c.toNat
    if code < 0x20 ∨ code = 0x7F then "\\x" ++ hexDigits 2 code
    else if code < 0x10000 then "\\u" ++ hexDigits 4 code
    else "\\U" ++ hexDigits 8 code

/-- How one character is written inside quotes. -/
def quotedChar (c : Char) : String :=
  if c = '"' ∨ c = '\\' then String.ofList ['\\', c]
  else if isPrintable c then String.singleton c
  else escape c

/-- The text between double quotes, escaped. -/
def quote (text : String) : String :=
  "\"" ++ String.join (text.toList.map quotedChar) ++ "\""

end Alembic.Text
