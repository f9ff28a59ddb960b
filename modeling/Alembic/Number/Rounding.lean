/-! # Rounding to a number of bits -/

namespace Alembic.Rounding

/-- `value / 2 ^ shift`, rounded to the nearest natural number, a tie going to the even one. -/
def shiftRightEven (value shift : Nat) : Nat :=
  if shift = 0 then value
  else
    let kept := value >>> shift
    let dropped := value % (Nat.pow 2 shift)
    let half := Nat.pow 2 (shift - 1)
    if dropped > half ∨ (dropped = half ∧ kept % 2 = 1) then kept + 1 else kept

/-- The number of bits of a positive natural number (`0` for zero). -/
def bitLength (value : Nat) : Nat :=
  if value = 0 then 0 else value.log2 + 1

/-- Rounds `mantissa * 2 ^ exponent` to `precision` significant bits. A mantissa that already
fits is left alone, so the result is not normalised. -/
def toPrecision (precision mantissa : Nat) (exponent : Int) : Nat × Int :=
  let bits := bitLength mantissa
  if bits ≤ precision then (mantissa, exponent)
  else
    let shift := bits - precision
    let rounded := shiftRightEven mantissa shift
    if bitLength rounded > precision then (rounded / 2, exponent + shift + 1)
    else (rounded, exponent + shift)

/-- Rounds the positive quotient `numerator / denominator` to `precision` significant bits.
The mantissa of the result has exactly `precision` bits. -/
def quotient (precision numerator denominator : Nat) : Nat × Int :=
  if numerator = 0 ∨ denominator = 0 then (0, 0)
  else
    -- A scale `2 ^ k` that brings the quotient to `precision` or `precision + 1` bits.
    let scale : Int := (precision : Int) - ((numerator.log2 : Int) - (denominator.log2 : Int))
    let top := if scale ≥ 0 then numerator <<< scale.toNat else numerator
    let bottom := if scale ≥ 0 then denominator else denominator <<< (-scale).toNat
    let whole := top / bottom
    let rest := top % bottom
    if bitLength whole > precision then
      -- One bit too many: drop it, with the rest of the division as a sticky part.
      let kept := whole / 2
      let low := whole % 2
      let up := low = 1 ∧ (rest > 0 ∨ kept % 2 = 1)
      let mantissa := if up then kept + 1 else kept
      if bitLength mantissa > precision then (mantissa / 2, -scale + 2)
      else (mantissa, -scale + 1)
    else
      let up := 2 * rest > bottom ∨ (2 * rest = bottom ∧ whole % 2 = 1)
      let mantissa := if up then whole + 1 else whole
      if bitLength mantissa > precision then (mantissa / 2, -scale + 1)
      else (mantissa, -scale)

end Alembic.Rounding
