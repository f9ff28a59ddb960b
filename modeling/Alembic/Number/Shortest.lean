import Alembic.Number.Rounding
/-! # The shortest decimal that reads back -/

namespace Alembic.Shortest

/-- A decimal number `coefficient * 10 ^ exponent`. -/
structure Decimal where
  coefficient : Nat
  exponent : Int
  deriving Repr, BEq, DecidableEq

/-- Compares `k * 10 ^ s` with `x * 2 ^ e` exactly. -/
def compareScaled (k : Nat) (s : Int) (x : Nat) (e : Int) : Ordering :=
  let left := k * Nat.pow 10 s.toNat * Nat.pow 2 (-e).toNat
  let right := x * Nat.pow 2 e.toNat * Nat.pow 10 (-s).toNat
  compare left right

/-- `⌊x * 2 ^ e / 10 ^ s⌋`. -/
def floorScaled (x : Nat) (e s : Int) : Nat :=
  (x * Nat.pow 2 e.toNat * Nat.pow 10 (-s).toNat) / (Nat.pow 2 (-e).toNat * Nat.pow 10 s.toNat)

/-- A first guess at the decimal exponent `D` with `10 ^ (D - 1) ≤ x * 2 ^ e < 10 ^ D`,
from the binary exponent and `log 2 / log 10 ≈ 0.30103`. -/
def guessExponent (x : Nat) (e : Int) : Int :=
  let top : Int := (Rounding.bitLength x : Int) - 1 + e
  top * 30103 / 100000 + 1

/-- Moves a guess of the decimal exponent until `10 ^ (D - 1) ≤ x * 2 ^ e < 10 ^ D`. -/
def settleExponent (x : Nat) (e : Int) : Nat → Int → Int
  | 0, guess => guess
  | fuel + 1, guess =>
    if compareScaled 1 (guess - 1) x e == .gt then settleExponent x e fuel (guess - 1)
    else if compareScaled 1 guess x e != .gt then settleExponent x e fuel (guess + 1)
    else guess

/-- The decimal exponent `D` of a positive `x * 2 ^ e`: `10 ^ (D - 1) ≤ x * 2 ^ e < 10 ^ D`. -/
def decimalExponent (x : Nat) (e : Int) : Int :=
  settleExponent x e 8 (guessExponent x e)

/-- The interval of binary values that a decimal must fall into. -/
structure Interval where
  center : Nat
  below : Nat
  above : Nat
  unit : Int
  inclusive : Bool

namespace Interval

/-- Whether `k * 10 ^ s` lies in the interval. -/
def contains (interval : Interval) (k : Nat) (s : Int) : Bool :=
  let low := compareScaled k s (interval.center - interval.below) interval.unit
  let high := compareScaled k s (interval.center + interval.above) interval.unit
  if interval.inclusive then low != .lt && high != .gt
  else low == .gt && high == .lt

/-- Of `k * 10 ^ s` and `(k + 1) * 10 ^ s`, the one nearer the center; a tie goes to the even
coefficient. -/
def nearer (interval : Interval) (k : Nat) (s : Int) : Nat :=
  -- Twice the center against the midpoint `(2k + 1) * 10 ^ s`.
  match compareScaled (2 * k + 1) s (2 * interval.center) interval.unit with
  | .gt => k
  | .lt => k + 1
  | .eq => if k % 2 = 0 then k else k + 1

end Interval

/-- Tries `n`, `n + 1`, … significant digits, below the decimal exponent `top`. -/
def search (interval : Interval) (top : Int) : Nat → Nat → Decimal
  | 0, _ => ⟨0, 0⟩
  | fuel + 1, n =>
    let s := top - n
    let k := floorScaled interval.center interval.unit s
    let lowIn := interval.contains k s
    let highIn := interval.contains (k + 1) s
    if lowIn && highIn then ⟨interval.nearer k s, s⟩
    else if lowIn then ⟨k, s⟩
    else if highIn then ⟨k + 1, s⟩
    else search interval top fuel (n + 1)

/-- The shortest decimal inside the interval, nearest the center. The center itself is a
decimal with finitely many digits, so the search ends once it reaches them. -/
def digits (interval : Interval) : Decimal :=
  if interval.center = 0 then ⟨0, 0⟩
  else search interval (decimalExponent interval.center interval.unit) 1200 1

/-- Removes trailing zeros of the coefficient, raising the exponent to match. -/
def trim : Nat → Decimal → Decimal
  | 0, value => value
  | fuel + 1, value =>
    if value.coefficient ≠ 0 ∧ value.coefficient % 10 = 0 then
      trim fuel ⟨value.coefficient / 10, value.exponent + 1⟩
    else value

/-- The digits of a natural number, most significant first. -/
def natText (value : Nat) : String :=
  String.ofList (Nat.toDigits 10 value)

/-- Left-pads a text of digits with zeros to `width` characters. -/
def padZeros (width : Nat) (text : String) : String :=
  String.ofList (List.replicate (width - text.length) '0') ++ text

/-- Positional notation of a decimal: the integer part, then a point and exactly as many
fraction digits as the trimmed coefficient needs. -/
def fixed (value : Decimal) : String :=
  let value := trim 2000 value
  if value.exponent ≥ 0 then
    natText (value.coefficient * Nat.pow 10 value.exponent.toNat)
  else
    let places := (-value.exponent).toNat
    let whole := value.coefficient / Nat.pow 10 places
    let fraction := value.coefficient % Nat.pow 10 places
    natText whole ++ "." ++ padZeros places (natText fraction)

end Alembic.Shortest
