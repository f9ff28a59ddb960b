import Alembic.Image.Scale
/-! # Fitting and background removal -/

namespace Alembic.Image

/-- The size a raster is scaled to, or none when it already fits. -/
def fittedSize (width height : Nat) (maxSize : Int) : Option (Nat × Nat) :=
  if maxSize ≤ 0 ∨ (width ≤ maxSize ∧ height ≤ maxSize) then none
  else
    let limit := maxSize.toNat
    if width ≥ height then some (limit, max 1 (height * limit / width))
    else some (max 1 (width * limit / height), limit)

/-- The raster scaled down to fit, and whether it was scaled. -/
def fit (raster : Raster) (maxSize : Int) : Raster × Bool :=
  match fittedSize raster.width raster.height maxSize with
  | none => (raster, false)
  | some (width, height) => (raster.scale width height, true)

/-- Whether a colour counts as background: red, green and blue above the threshold. -/
def isBackground (threshold : Nat) (color : Color) : Bool :=
  color.r.toNat > threshold && color.g.toNat > threshold && color.b.toNat > threshold

/-- The raster in straight colour with its background made transparent. -/
def removeBackground (raster : Raster) (threshold : Nat) : Raster :=
  Raster.ofColors raster.minX raster.minY raster.width raster.height
    (raster.colors.map fun color => if isBackground threshold color then Color.transparent else color)

end Alembic.Image
