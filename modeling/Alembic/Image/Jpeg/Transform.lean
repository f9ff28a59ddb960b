/-! # The inverse cosine transform of a block -/

namespace Alembic.Image.Jpeg

/-- The position in the block of each coefficient in stream order. -/
def zigzag : Array Nat :=
  #[0, 1, 8, 16, 9, 2, 3, 10, 17, 24, 32, 25, 18, 11, 4, 5, 12, 19, 26, 33, 40, 48, 41, 34, 27,
    20, 13, 6, 7, 14, 21, 28, 35, 42, 49, 56, 57, 50, 43, 36, 29, 22, 15, 23, 30, 37, 44, 51, 58,
    59, 52, 45, 38, 31, 39, 46, 53, 60, 61, 54, 47, 55, 62, 63]

/-- `cos(π/16)`, `sin(π/16)`, `cos(3π/16)`, `sin(3π/16)`, `cos(6π/16)`, `sin(6π/16)`,
`√2 cos(6π/16)`, `√2 sin(6π/16)` and `√2`, each times 4096 and rounded. -/
def cos1 : Int := 4017
def sin1 : Int := 799
def cos3 : Int := 3406
def sin3 : Int := 2276
def cos6 : Int := 1567
def sin6 : Int := 3784
def rootTwoCos6 : Int := 2217
def rootTwoSin6 : Int := 5352
def rootTwo : Int := 5793

/-- The number of fraction bits of the constants. -/
def constantBits : Nat := 12

/-- A right shift by `bits`, rounding to nearest (halves up) when `nearest` holds and towards
minus infinity otherwise. -/
def descale (nearest : Bool) (bits : Nat) (value : Int) : Int :=
  if nearest ∧ bits > 0 then (value + Int.pow 2 (bits - 1)) >>> bits else value >>> bits

/-- The product of two constants, rounded back to the constants' fraction bits. -/
def constantProduct (a b : Int) : Int :=
  descale true constantBits (a * b)

/-- How one pass of the one-dimensional transform spends its precision: the shifts `pre`,
`narrow`, `nodeDrop` and `post`, the rounding of the results, and the constants of the 6π/16 rotation. -/
structure LinePass where
  pre : Nat
  narrow : Nat
  nodeDrop : Nat
  post : Nat
  nearest : Bool
  evenCos : Int
  evenSin : Int

/-- The one-dimensional inverse transform of eight coefficients with the precision of `pass`. -/
def inverseLine (pass : LinePass) (c : List Int) : List Int :=
  let input (k : Nat) : Int := c.getD k 0 * Int.pow 2 pass.pre
  let factor (k : Nat) : Int := input k >>> pass.narrow
  -- The coefficients enter the butterflies in the order of the forward transform's outputs.
  let (x0, x7, x2, x5) := (input 0, input 1, factor 2, factor 3)
  let (x1, x6, x3, x4) := (input 4, factor 5, factor 6, input 7)
  let unit : Int := Int.pow 2 (constantBits - pass.narrow)
  let oddDescale := descale false pass.nodeDrop
  -- Undo the last stage: a butterfly and the scaling of the middle odd terms by √2.
  let (x7, x4) := ((x7 + x4) * unit, (x7 - x4) * unit)
  let (x5, x6) := (x5 * rootTwo, x6 * rootTwo)
  -- Undo the third stage: butterflies, and the rotation by 6π/16 with scale √2.
  let (x0, x1) := ((x0 + x1) * unit, (x0 - x1) * unit)
  let (x2, x3) := (x2 * pass.evenCos - x3 * pass.evenSin, x2 * pass.evenSin + x3 * pass.evenCos)
  let (x4, x6) := (oddDescale (x4 + x6), oddDescale (x4 - x6))
  let (x7, x5) := (oddDescale (x7 + x5), oddDescale (x7 - x5))
  -- Undo the second stage: butterflies and the rotations by 3π/16 and π/16.
  let (x0, x3) := (x0 + x3, x0 - x3)
  let (x1, x2) := (x1 + x2, x1 - x2)
  let lift : Int := Int.pow 2 (pass.nodeDrop - constantBits)
  let (x4, x7) := ((x4 * cos3 - x7 * sin3) * lift, (x4 * sin3 + x7 * cos3) * lift)
  let (x5, x6) := ((x5 * cos1 - x6 * sin1) * lift, (x5 * sin1 + x6 * cos1) * lift)
  -- Undo the first stage: four butterflies.
  [x0 + x7, x1 + x6, x2 + x5, x3 + x4, x3 - x4, x2 - x5, x1 - x6, x0 - x7].map
    (descale pass.nearest pass.post)

/-- The fraction bits of the row pass's results. -/
def rowFraction : Nat := 7

/-- The row pass: inputs up by six bits, results kept at `rowFraction` bits, rounded down. -/
def rowPass : LinePass :=
  { pre := 6, narrow := 0, nodeDrop := constantBits, post := 6 + constantBits - rowFraction,
    nearest := false, evenCos := rootTwoCos6, evenSin := rootTwoSin6 }

/-- The column pass: factors at four fraction bits, results rounded to nearest past both passes'
scaling. -/
def columnPass : LinePass :=
  { pre := 0, narrow := rowFraction - 4, nodeDrop := 13, post := 19, nearest := true,
    evenCos := constantProduct rootTwo cos6, evenSin := constantProduct rootTwo sin6 }

/-- The inverse transform of a block: rows first, then columns. -/
def inverseTransform (block : Array Int) : Array Int :=
  let rows := (List.range 8).map fun y =>
    inverseLine rowPass ((List.range 8).map fun x => block.getD (y * 8 + x) 0)
  let columns := (List.range 8).map fun x =>
    inverseLine columnPass ((List.range 8).map fun y => (rows.getD y []).getD x 0)
  ((List.range 8).flatMap fun y => (List.range 8).map fun x => (columns.getD x []).getD y 0).toArray

/-- A transformed sample moved to `[0, 255]`. -/
def levelShift (value : Int) : UInt8 :=
  if value < -128 then 0 else if value > 127 then 255 else (value + 128).toNat.toUInt8

end Alembic.Image.Jpeg
