import Alembic.Number.Precise
import Alembic.Text.Numeral
/-! # Number literals -/

namespace Alembic.Literal

/-- An optional sign: whether it was a minus, and the rest. -/
def sign : List Char → Bool × List Char
  | '+' :: rest => (false, rest)
  | '-' :: rest => (true, rest)
  | chars => (false, chars)

/-- The value of a run of decimal digits, the digits that were read and the rest. -/
def digitRun : List Char → Nat → Nat → Nat × Nat × List Char
  | c :: rest, value, count =>
    if c.isDigit then digitRun rest (value * 10 + (c.toNat - '0'.toNat)) (count + 1)
    else (value, count, c :: rest)
  | [], value, count => (value, count, [])

/-- The digits of a decimal mantissa: their value, how many there are, and how many follow the
point. -/
structure Mantissa where
  value : Nat
  count : Nat
  fractionDigits : Nat

/-- Reads decimal digits with at most one point, and returns what is left. -/
def decimalMantissa : List Char → Mantissa → Bool → Mantissa × List Char
  | c :: rest, digits, sawPoint =>
    if c.isDigit then
      decimalMantissa rest
        ⟨digits.value * 10 + (c.toNat - '0'.toNat), digits.count + 1,
          if sawPoint then digits.fractionDigits + 1 else digits.fractionDigits⟩ sawPoint
    else if c = '.' ∧ !sawPoint then decimalMantissa rest digits true
    else (digits, c :: rest)
  | [], digits, _ => (digits, [])

/-- Whether a whole number is a 64-bit signed integer. -/
def fitsInt64 (value : Int) : Bool := -(Int.pow 2 63 : Int) ≤ value && value < Int.pow 2 63

/-- The exponent of a table number, when the characters are exactly one: whether it is a power
of ten, and its value. No exponent is the power of ten `0`. -/
def tableExponent : List Char → Option (Bool × Int)
  | [] => some (true, 0)
  | c :: rest =>
    let decimal := c = 'e' ∨ c = 'E'
    if decimal ∨ c = 'p' ∨ c = 'P' then
      let (negative, digits) := sign rest
      let (value, count, tail) := digitRun digits 0 0
      let exponent : Int := if negative then -(value : Int) else value
      if count = 0 ∨ !tail.isEmpty ∨ !fitsInt64 exponent then none
      else some (decimal, exponent)
    else none

/-- The table number a text denotes. -/
def parsePrecise (text : String) : Option Precise :=
  match text with
  | "Inf" | "inf" | "+Inf" | "+inf" => some (.infinite false)
  | "-Inf" | "-inf" => some (.infinite true)
  | _ =>
    let (negative, rest) := sign text.toList
    let (digits, afterDigits) := decimalMantissa rest ⟨0, 0, 0⟩ false
    if digits.count = 0 then none
    else
      match tableExponent afterDigits with
      | none => none
      | some (decimal, exponent) =>
        let twos := exponent - digits.fractionDigits
        let fives := (if decimal then exponent else 0) - digits.fractionDigits
        Precise.ofScaled Precise.textPrecision negative digits.value twos fives

/-- How many leading characters two texts share, ignoring ASCII case. -/
def commonPrefixIgnoringCase : List Char → List Char → Nat
  | a :: as, b :: bs => if a.toLower = b.toLower then commonPrefixIgnoringCase as bs + 1 else 0
  | _, _ => 0

/-- The special value a whole text names: an infinity or not-a-number. -/
def special (text : String) : Option Float :=
  let chars := text.toList
  let (negative, rest) := sign chars
  let infinite := rest.length = commonPrefixIgnoringCase rest "infinity".toList ∧
    (rest.length = 3 ∨ rest.length = 8)
  if infinite then some (Double.infinity negative)
  else if chars.length = 3 ∧ commonPrefixIgnoringCase chars "nan".toList = 3 then
    some (0.0 / 0.0)
  else none

/-- A double literal as it is read, before rounding. -/
structure DoubleScan where
  hexadecimal : Bool
  sawPoint : Bool := false
  sawDigits : Bool := false
  underscores : Bool := false
  /-- The significant digits read. -/
  digits : Nat := 0
  /-- The digits kept in the mantissa: all of a decimal one, the first 16 of a hexadecimal one. -/
  kept : Nat := 0
  mantissa : Nat := 0
  /-- Whether a hexadecimal digit was dropped. -/
  truncated : Bool := false
  /-- Where the point stands, counted in digits from the first significant one. -/
  point : Int := 0

/-- The value of a digit of the literal's base. -/
def digitOf (hexadecimal : Bool) (c : Char) : Option Nat :=
  if c.isDigit then some (c.toNat - '0'.toNat)
  else if hexadecimal ∧ 'a' ≤ c.toLower ∧ c.toLower ≤ 'f' then some (c.toLower.toNat - 'a'.toNat + 10)
  else none

/-- Reads the mantissa of a double literal, and returns what is left. -/
def scanMantissa (scan : DoubleScan) : List Char → DoubleScan × List Char
  | [] => (scan, [])
  | c :: rest =>
    if c = '_' then scanMantissa { scan with underscores := true } rest
    else if c = '.' then
      if scan.sawPoint then (scan, c :: rest)
      else scanMantissa { scan with sawPoint := true, point := scan.digits } rest
    else
      match digitOf scan.hexadecimal c with
      | none => (scan, c :: rest)
      | some digit =>
        if c = '0' ∧ scan.digits = 0 then
          scanMantissa { scan with sawDigits := true, point := scan.point - 1 } rest
        else
          let base := if scan.hexadecimal then 16 else 10
          let scan := { scan with sawDigits := true, digits := scan.digits + 1 }
          if !scan.hexadecimal ∨ scan.kept < 16 then
            scanMantissa { scan with mantissa := scan.mantissa * base + digit, kept := scan.kept + 1 }
              rest
          else scanMantissa { scan with truncated := true } rest

/-- Reads exponent digits, with underscores: the value, which stops growing at 10000, whether
an underscore was met, and what is left. -/
def exponentDigits : List Char → Nat → Bool → Nat × Bool × List Char
  | c :: rest, value, underscores =>
    if c = '_' then exponentDigits rest value true
    else if c.isDigit then
      exponentDigits rest (if value < 10000 then value * 10 + (c.toNat - '0'.toNat) else value)
        underscores
    else (value, underscores, c :: rest)
  | [], value, underscores => (value, underscores, [])

/-- Reads the exponent of a double literal, which moves the point; a hexadecimal literal must
have one. -/
def scanExponent (scan : DoubleScan) : List Char → Option (DoubleScan × List Char)
  | [] => if scan.hexadecimal then none else some (scan, [])
  | c :: rest =>
    if c.toLower = (if scan.hexadecimal then 'p' else 'e') then
      let (negative, digits) := sign rest
      match digits with
      | d :: _ =>
        if !d.isDigit then none
        else
          let (value, underscores, after) := exponentDigits digits 0 false
          let shift : Int := if negative then -(value : Int) else value
          let point := if scan.hexadecimal then scan.point * 4 + shift else scan.point + shift
          some ({ scan with point, underscores := scan.underscores || underscores }, after)
      | [] => none
    else if scan.hexadecimal then none
    else some (scan, c :: rest)

/-- Shifts right by `count` bits, keeping in the last bit whether any bit shifted out was set. -/
def shiftSticky (value count : Nat) : Nat :=
  (value >>> count) ||| (if value % Nat.pow 2 count = 0 then 0 else 1)

/-- Shifts right one sticky bit at a time while the value exceeds one and the exponent is below
the least normal exponent, less the two rounding bits. -/
def denormalize : Nat → Nat → Int → Nat × Int
  | 0, mantissa, exponent => (mantissa, exponent)
  | fuel + 1, mantissa, exponent =>
    if mantissa > 1 ∧ exponent < -1024 then denormalize fuel (shiftSticky mantissa 1) (exponent + 1)
    else (mantissa, exponent)

/-- The double nearest to `± mantissa * 2 ^ exponent`; `truncated` stands for a nonzero remainder
below the mantissa, which is rounded at 55 bits and then on the last two. -/
def hexDouble (negative : Bool) (mantissa : Nat) (exponent : Int) (truncated : Bool) : Float :=
  let exponent := exponent + 52
  let bits := Rounding.bitLength mantissa
  let (mantissa, exponent) :=
    if mantissa ≠ 0 ∧ bits < 55 then (mantissa <<< (55 - bits), exponent - (55 - bits : Nat))
    else (mantissa, exponent)
  let mantissa := if truncated then mantissa ||| 1 else mantissa
  let bits := Rounding.bitLength mantissa
  let (mantissa, exponent) :=
    if bits > 55 then (shiftSticky mantissa (bits - 55), exponent + (bits - 55 : Nat))
    else (mantissa, exponent)
  let (mantissa, exponent) := denormalize 64 mantissa exponent
  let roundBits := (mantissa % 4) ||| ((mantissa >>> 2) % 2)
  let mantissa := mantissa >>> 2
  let exponent := exponent + 2
  let (mantissa, exponent) :=
    if roundBits = 3 then
      if mantissa + 1 = Nat.pow 2 53 then ((mantissa + 1) / 2, exponent + 1)
      else (mantissa + 1, exponent)
    else (mantissa, exponent)
  let exponent := if mantissa < Nat.pow 2 52 then -1023 else exponent
  if exponent > 1023 then Double.infinity negative
  else Double.ofFields negative (exponent + 1023).toNat (mantissa % Nat.pow 2 52)

/-- The double a text denotes. -/
def parseDouble (text : String) : Option Float :=
  match special text with
  | some value => some value
  | none =>
    let (negative, rest) := sign text.toList
    let (hexadecimal, body) := match rest with
      | '0' :: x :: more@(_ :: _) => if x = 'x' ∨ x = 'X' then (true, more) else (false, rest)
      | _ => (false, rest)
    let (scan, afterMantissa) := scanMantissa { hexadecimal } body
    let scan := if scan.sawPoint then scan else { scan with point := scan.digits }
    if !scan.sawDigits then none
    else
      match scanExponent scan afterMantissa with
      | none => none
      | some (scan, after) =>
        if !after.isEmpty ∨ (scan.underscores ∧ !Text.underscoresFit text) then none
        else if hexadecimal then
          let exponent := if scan.mantissa = 0 then 0 else scan.point - 4 * scan.kept
          some (hexDouble negative scan.mantissa exponent scan.truncated)
        else some (Double.ofDecimal negative scan.mantissa (scan.point - scan.digits))

end Alembic.Literal
