/-! # Integer numerals -/

namespace Alembic.Text

/-- Why a numeral has no value. -/
inductive NumeralError where
  | malformed
  | outOfRange
  deriving Repr, BEq, DecidableEq

/-- The value of a digit in any base up to 36, letters in either case. -/
def digitValue (c : Char) : Option Nat :=
  if '0' ≤ c ∧ c ≤ '9' then some (c.toNat - '0'.toNat)
  else if 'a' ≤ c ∧ c ≤ 'z' then some (c.toNat - 'a'.toNat + 10)
  else if 'A' ≤ c ∧ c ≤ 'Z' then some (c.toNat - 'A'.toNat + 10)
  else none

/-- The largest unsigned 64-bit value. -/
def unsignedLimit : Nat := Nat.pow 2 64 - 1

/-- Whether the underscores of a numeral separate digits. -/
def underscoresFit (text : String) : Bool :=
  let chars := match text.toList with
    | '+' :: rest | '-' :: rest => rest
    | other => other
  -- `last` is the kind of the character before: `^` start, `0` digit or prefix, `_`, `!` other.
  let (start, last, hex) : Nat × Char × Bool := match chars with
    | '0' :: marker :: _ =>
      if marker.toLower = 'b' ∨ marker.toLower = 'o' ∨ marker.toLower = 'x' then
        (2, '0', marker.toLower == 'x')
      else (0, '^', false)
    | _ => (0, '^', false)
  let step (state : Option Char) (c : Char) : Option Char :=
    match state with
    | none => none
    | some last =>
      if c.isDigit ∨ (hex ∧ 'a' ≤ c.toLower ∧ c.toLower ≤ 'f') then some '0'
      else if c = '_' then if last = '0' then some '_' else none
      else if last = '_' then none
      else some '!'
  match (chars.drop start).foldl step (some last) with
  | some last => last ≠ '_'
  | none => false

/-- Reads the digits of an unsigned numeral in a base, with underscores skipped. -/
def readDigits (base : Nat) : List Char → Nat → Except NumeralError Nat
  | [], value => .ok value
  | c :: rest, value =>
    if c = '_' then readDigits base rest value
    else
      match digitValue c with
      | none => .error .malformed
      | some digit =>
        if digit ≥ base then .error .malformed
        else if value ≥ unsignedLimit / base + 1 then .error .outOfRange
        else if value * base + digit > unsignedLimit then .error .outOfRange
        else readDigits base rest (value * base + digit)

/-- The value of an unsigned numeral of at most 64 bits. -/
def parseUnsigned (text : String) : Except NumeralError Nat := do
  let chars := text.toList
  if chars.isEmpty then throw .malformed
  let (base, digits) := match chars with
    | '0' :: marker :: third :: rest =>
      if marker.toLower = 'b' then (2, third :: rest)
      else if marker.toLower = 'o' then (8, third :: rest)
      else if marker.toLower = 'x' then (16, third :: rest)
      else (8, marker :: third :: rest)
    | '0' :: rest => (8, rest)
    | _ => (10, chars)
  let value ← readDigits base digits 0
  if chars.contains '_' ∧ !underscoresFit text then throw .malformed
  return value

/-- The value of a signed numeral of at most 64 bits. -/
def parseSigned (text : String) : Except NumeralError Int := do
  let (negative, rest) := match text.toList with
    | '+' :: rest => (false, rest)
    | '-' :: rest => (true, rest)
    | chars => (false, chars)
  let magnitude ← parseUnsigned (String.ofList rest)
  if negative then
    if magnitude > Nat.pow 2 63 then throw .outOfRange else return -(magnitude : Int)
  else if magnitude ≥ Nat.pow 2 63 then throw .outOfRange
  else return magnitude

end Alembic.Text
