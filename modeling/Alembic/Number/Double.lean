import Alembic.Number.Shortest
/-! # Doubles -/

namespace Alembic.Double

/-- A double taken apart. -/
inductive Parts where
  | finite (negative : Bool) (mantissa : Nat) (exponent : Int)
  | infinite (negative : Bool)
  | nan
  deriving Repr, BEq

/-- Splits a double into sign, mantissa and exponent. -/
def parts (x : Float) : Parts :=
  let bits := x.toBits.toNat
  let negative := bits >>> 63 = 1
  let biased := (bits >>> 52) % 2048
  let fraction := bits % Nat.pow 2 52
  if biased = 2047 then
    if fraction = 0 then .infinite negative else .nan
  else if biased = 0 then .finite negative fraction (-1074)
  else .finite negative (fraction + Nat.pow 2 52) ((biased : Int) - 1075)

/-- The double with the given sign, biased exponent and fraction bits. -/
def ofFields (negative : Bool) (biased fraction : Nat) : Float :=
  Float.ofBits (UInt64.ofNat ((if negative then Nat.pow 2 63 else 0) + biased * Nat.pow 2 52 + fraction))

/-- Positive or negative infinity. -/
def infinity (negative : Bool) : Float := ofFields negative 2047 0

/-- `⌊log₂ (numerator / denominator)⌋` for positive operands. -/
def floorLog2Ratio (numerator denominator : Nat) : Int :=
  let guess : Int := (numerator.log2 : Int) - (denominator.log2 : Int)
  let reaches :=
    if guess ≥ 0 then numerator ≥ denominator <<< guess.toNat
    else numerator <<< (-guess).toNat ≥ denominator
  if reaches then guess else guess - 1

/-- `numerator / denominator` rounded to a whole multiple of `2 ^ quantum`, a tie going to the
even multiple; the result counts multiples. -/
def roundToQuantum (numerator denominator : Nat) (quantum : Int) : Nat :=
  let top := if quantum ≤ 0 then numerator <<< (-quantum).toNat else numerator
  let bottom := if quantum ≤ 0 then denominator else denominator <<< quantum.toNat
  let whole := top / bottom
  let rest := top % bottom
  if 2 * rest > bottom ∨ (2 * rest = bottom ∧ whole % 2 = 1) then whole + 1 else whole

/-- The double nearest to `± numerator / denominator`. -/
def ofRatio (negative : Bool) (numerator denominator : Nat) : Float :=
  if numerator = 0 ∨ denominator = 0 then ofFields negative 0 0
  else
    let top := floorLog2Ratio numerator denominator
    let quantum := max (top - 52) (-1074)
    let multiples := roundToQuantum numerator denominator quantum
    -- Rounding up may carry into a 54th bit.
    let (multiples, quantum) :=
      if multiples ≥ Nat.pow 2 53 then (multiples / 2, quantum + 1) else (multiples, quantum)
    if multiples < Nat.pow 2 52 then ofFields negative 0 multiples
    else
      let biased := quantum + 1075
      if biased ≥ 2047 then infinity negative
      else ofFields negative biased.toNat (multiples - Nat.pow 2 52)

/-- The double nearest to `± mantissa * 2 ^ exponent`. -/
def ofExact (negative : Bool) (mantissa : Nat) (exponent : Int) : Float :=
  ofRatio negative (mantissa <<< exponent.toNat) (1 <<< (-exponent).toNat)

/-- The double nearest to `± coefficient * 10 ^ exponent`. -/
def ofDecimal (negative : Bool) (coefficient : Nat) (exponent : Int) : Float :=
  ofRatio negative (coefficient * Nat.pow 10 exponent.toNat) (Nat.pow 10 (-exponent).toNat)

/-- The real numbers that round to a finite nonzero double. Below a power of two the next
double down is nearer, so the interval is narrower on that side. -/
def roundingInterval (mantissa : Nat) (exponent : Int) : Shortest.Interval :=
  let narrowBelow := mantissa = Nat.pow 2 52 ∧ exponent > -1074
  { center := 4 * mantissa
    below := if narrowBelow then 1 else 2
    above := 2
    unit := exponent - 2
    inclusive := mantissa % 2 = 0 }

/-- The fewest digits that read back as the double, in positional notation; infinities are
`+Inf` and `-Inf`, and a zero keeps its sign. -/
def fixedText (x : Float) : String :=
  match parts x with
  | .nan => "NaN"
  | .infinite negative => if negative then "-Inf" else "+Inf"
  | .finite negative mantissa exponent =>
    let sign := if negative then "-" else ""
    if mantissa = 0 then sign ++ "0"
    else sign ++ Shortest.fixed (Shortest.digits (roundingInterval mantissa exponent))

end Alembic.Double
