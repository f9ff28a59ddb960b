import Alembic.Number.Double
/-! # Numbers of the table language -/

namespace Alembic

/-- A number of the table language: `± mantissa * 2 ^ exponent` held at `precision` bits, or an
infinity. -/
inductive Precise where
  | finite (negative : Bool) (mantissa : Nat) (exponent : Int) (precision : Nat)
  | infinite (negative : Bool)
  deriving Repr, BEq, Inhabited

namespace Precise

/-- The precision of a number read from text. -/
def textPrecision : Nat := 512

/-- The precision of a whole number made from a machine integer. -/
def integerPrecision : Nat := 64

/-- The largest binary exponent. -/
def maxExponent : Int := 2147483647

/-- The least binary exponent. -/
def minExponent : Int := -2147483648

/-- Why an operation has no number as its result. -/
inductive Fault where
  | opposingInfinities
  | infinityMinusInfinity
  | zeroTimesInfinity
  | zeroOverZero
  | moduloZero
  deriving Repr, BEq, DecidableEq

/-- The precision a number is held at; an infinity has none that shows. -/
def precisionOf : Precise → Nat
  | .finite _ _ _ precision => precision
  | .infinite _ => 0

/-- The binary exponent of `mantissa * 2 ^ exponent` in the form `f * 2 ^ k`, `1/2 ≤ f < 1`. -/
def topExponent (mantissa : Nat) (exponent : Int) : Int := exponent + Rounding.bitLength mantissa

/-- Rounds the exact `± mantissa * 2 ^ exponent` to `precision` bits. Too large a magnitude is
an infinity, too small a one a zero of the same sign. -/
def round (precision : Nat) (negative : Bool) (mantissa : Nat) (exponent : Int) : Precise :=
  if mantissa = 0 then .finite negative 0 0 precision
  else if topExponent mantissa exponent < minExponent then .finite negative 0 0 precision
  else if topExponent mantissa exponent > maxExponent then .infinite negative
  else
    let (mantissa, exponent) := Rounding.toPrecision precision mantissa exponent
    if topExponent mantissa exponent > maxExponent then .infinite negative
    else .finite negative mantissa exponent precision

/-- A whole number at the precision of machine integers. -/
def ofInt (value : Int) : Precise :=
  round integerPrecision (value < 0) value.natAbs 0

/-- A natural number at the precision of machine integers. -/
def ofNat (value : Nat) : Precise := round integerPrecision false value 0

def isZero : Precise → Bool
  | .finite _ mantissa _ _ => mantissa == 0
  | .infinite _ => false

def isInfinite : Precise → Bool
  | .finite .. => false
  | .infinite _ => true

def isNegative : Precise → Bool
  | .finite negative _ _ _ => negative
  | .infinite negative => negative

def neg : Precise → Precise
  | .finite negative mantissa exponent precision => .finite (!negative) mantissa exponent precision
  | .infinite negative => .infinite (!negative)

/-- The exact signed integer `± mantissa * 2 ^ (exponent - base)`, for `base ≤ exponent`. -/
def scaledAt (negative : Bool) (mantissa : Nat) (exponent base : Int) : Int :=
  let magnitude : Int := (mantissa <<< (exponent - base).toNat : Nat)
  if negative then -magnitude else magnitude

/-- The sum of two finite numbers rounded to the precision. An exact zero is positive unless
both are negative zeros. -/
def addFinite (precision : Nat) (negative₁ : Bool) (mantissa₁ : Nat) (exponent₁ : Int)
    (negative₂ : Bool) (mantissa₂ : Nat) (exponent₂ : Int) : Precise :=
  let base := min exponent₁ exponent₂
  let total := scaledAt negative₁ mantissa₁ exponent₁ base + scaledAt negative₂ mantissa₂ exponent₂ base
  if total = 0 then .finite (negative₁ && negative₂ && mantissa₁ == 0 && mantissa₂ == 0) 0 0 precision
  else round precision (total < 0) total.natAbs base

/-- The sum rounded to the precision. -/
def sumAt (precision : Nat) : Precise → Precise → Except Fault Precise
  | .finite n₁ m₁ e₁ _, .finite n₂ m₂ e₂ _ => .ok (addFinite precision n₁ m₁ e₁ n₂ m₂ e₂)
  | .infinite n₁, .infinite n₂ => if n₁ == n₂ then .ok (.infinite n₁) else .error .opposingInfinities
  | .infinite n, .finite .. => .ok (.infinite n)
  | .finite .., .infinite n => .ok (.infinite n)

/-- The difference rounded to the precision. -/
def differenceAt (precision : Nat) (x y : Precise) : Except Fault Precise :=
  match x, y with
  | .infinite n₁, .infinite n₂ => if n₁ == n₂ then .error .infinityMinusInfinity else .ok (.infinite n₁)
  | _, _ => sumAt precision x y.neg

/-- The product rounded to the precision; an infinite factor makes an infinite product. -/
def product (precision : Nat) : Precise → Precise → Precise
  | .finite n₁ m₁ e₁ _, .finite n₂ m₂ e₂ _ => round precision (n₁ != n₂) (m₁ * m₂) (e₁ + e₂)
  | x, y => .infinite (x.isNegative != y.isNegative)

/-- The quotient of a number by a nonzero one, rounded to the precision; a finite number over
an infinity is a zero. -/
def quotient (precision : Nat) : Precise → Precise → Precise
  | .finite n₁ m₁ e₁ _, .finite n₂ m₂ e₂ _ =>
    if m₁ = 0 ∨ m₂ = 0 then .finite (n₁ != n₂) 0 0 precision
    else
      let (mantissa, exponent) := Rounding.quotient precision m₁ m₂
      let exponent := exponent + e₁ - e₂
      if topExponent mantissa exponent < minExponent then .finite (n₁ != n₂) 0 0 precision
      else if topExponent mantissa exponent > maxExponent then .infinite (n₁ != n₂)
      else .finite (n₁ != n₂) mantissa exponent precision
  | .finite n₁ _ _ _, .infinite n₂ => .finite (n₁ != n₂) 0 0 precision
  | x, y => .infinite (x.isNegative != y.isNegative)

/-- The precision of a result: the larger of the operands'. -/
def resultPrecision (x y : Precise) : Nat := max x.precisionOf y.precisionOf

def add (x y : Precise) : Except Fault Precise := sumAt (resultPrecision x y) x y

def sub (x y : Precise) : Except Fault Precise := differenceAt (resultPrecision x y) x y

def mul (x y : Precise) : Except Fault Precise :=
  if (x.isZero && y.isInfinite) || (x.isInfinite && y.isZero) then .error .zeroTimesInfinity
  else .ok (product (resultPrecision x y) x y)

def div (x y : Precise) : Except Fault Precise :=
  if (x.isZero && y.isZero) || (x.isInfinite && y.isInfinite) then .error .zeroOverZero
  else if y.isZero then .ok (.infinite (x.isNegative != y.isNegative))
  else .ok (quotient (resultPrecision x y) x y)

/-- The integer part, cut toward zero, of a finite number. -/
def truncate (negative : Bool) (mantissa : Nat) (exponent : Int) : Int :=
  let magnitude : Nat :=
    if exponent ≥ 0 then mantissa <<< exponent.toNat else mantissa >>> (-exponent).toNat
  if negative then -(magnitude : Int) else magnitude

/-- The remainder `x - y * q` with `q` the quotient cut toward zero, at the precision of `x`. -/
def mod (x y : Precise) : Except Fault Precise :=
  if y.isZero then .ok x
  else
    match x, y with
    | .infinite _, _ => mul x y
    | .finite .., .infinite _ => .error .moduloZero
    | .finite n₁ m₁ e₁ precision, .finite .. =>
      if m₁ = 0 then .ok x
      else
        match div x y with
        | .ok (.finite n m e _) =>
          let whole := truncate n m e
          let quotient := round precision (whole < 0) whole.natAbs 0
          differenceAt precision (.finite n₁ m₁ e₁ precision) (product precision y quotient)
        | .ok (.infinite _) => .error .moduloZero
        | .error fault => .error fault

/-- `5 ^ n` as the reader forms it at `precision` bits: exact up to `5 ^ 27`, and beyond that by
squaring, each product rounded to the precision and each square to 64 bits more. -/
def powerOfFive (precision n : Nat) : Precise :=
  if n ≤ 27 then .finite false (Nat.pow 5 n) 0 precision
  else powerLoop 64 (.finite false (Nat.pow 5 27) 0 precision) (.finite false 5 0 (precision + 64))
    (n - 27)
where
  /-- Multiplies `power` by `square ^ remaining`, one binary digit of `remaining` at a time. -/
  powerLoop : Nat → Precise → Precise → Nat → Precise
    | 0, power, _, _ => power
    | fuel + 1, power, square, remaining =>
      if remaining = 0 then power
      else
        let power := if remaining % 2 = 1 then product precision power square else power
        powerLoop fuel power (product (precision + 64) square square) (remaining / 2)

/-- The number `± digits * 2 ^ twos * 5 ^ fives` rounded once at `precision` bits, or `none` when
the binary exponent leaves the range. -/
def ofScaled (precision : Nat) (negative : Bool) (digits : Nat) (twos fives : Int) :
    Option Precise :=
  if digits = 0 then some (.finite negative 0 0 precision)
  else if topExponent digits twos < minExponent ∨ topExponent digits twos > maxExponent then none
  else
    let exact := Precise.finite negative digits twos precision
    if fives = 0 then some (round precision negative digits twos)
    else if fives > 0 then some (product precision exact (powerOfFive (precision + 64) fives.toNat))
    else some (quotient precision exact (powerOfFive (precision + 64) (-fives).toNat))

/-- The exact order of two numbers; the two zeros are equal. -/
def compareTo : Precise → Precise → Ordering
  | .infinite n₁, .infinite n₂ =>
    if n₁ == n₂ then .eq else if n₁ then .lt else .gt
  | .infinite n, .finite .. => if n then .lt else .gt
  | .finite .., .infinite n => if n then .gt else .lt
  | .finite n₁ m₁ e₁ _, .finite n₂ m₂ e₂ _ =>
    let base := min e₁ e₂
    compare (scaledAt n₁ m₁ e₁ base) (scaledAt n₂ m₂ e₂ base)

/-- Whether the number is a whole number. -/
def isWhole : Precise → Bool
  | .infinite _ => false
  | .finite _ mantissa exponent _ =>
    exponent ≥ 0 || mantissa % Nat.pow 2 (-exponent).toNat == 0

/-- The number as a 64-bit signed integer, when it is a whole number in range. -/
def toInt64? (x : Precise) : Option Int :=
  match x with
  | .infinite _ => none
  | .finite negative mantissa exponent _ =>
    if !isWhole x then none
    else
      let value := truncate negative mantissa exponent
      if -(Int.pow 2 63 : Int) ≤ value ∧ value < Int.pow 2 63 then some value else none

/-- The nearest double; beyond the largest double it is an infinity. -/
def toDouble : Precise → Float
  | .infinite negative => Double.infinity negative
  | .finite negative mantissa exponent _ => Double.ofExact negative mantissa exponent

/-- The real numbers that round to a finite nonzero number at its precision. -/
def roundingInterval (precision mantissa : Nat) (exponent : Int) : Shortest.Interval :=
  let bits := Rounding.bitLength mantissa
  -- Stretch the mantissa to the full precision; its last bit is one unit in the last place.
  let full := mantissa <<< (precision - bits)
  let unitExponent := exponent - ((precision : Int) - bits)
  { center := 2 * full
    below := 1
    above := 1
    unit := unitExponent - 1
    inclusive := full % 2 = 0 }

/-- The fewest digits that tell the number apart from its neighbours at its precision, in
positional notation; infinities are `+Inf` and `-Inf`, and a zero keeps its sign. -/
def text : Precise → String
  | .infinite negative => if negative then "-Inf" else "+Inf"
  | .finite negative mantissa exponent precision =>
    let sign := if negative then "-" else ""
    if mantissa = 0 then sign ++ "0"
    else sign ++ Shortest.fixed (Shortest.digits (roundingInterval precision mantissa exponent))

/-- The text by which numbers are compared: that of `text`, the negative zero written as `0`. -/
def comparisonText (x : Precise) : String :=
  let written := x.text
  if written = "-0" then "0" else written

/-- Numbers are equal when they print alike. -/
def sameValue (x y : Precise) : Bool := x.comparisonText == y.comparisonText

end Precise

end Alembic
