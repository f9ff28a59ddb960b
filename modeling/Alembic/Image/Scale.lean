import Alembic.Image.Raster
/-! # Resampling with the Catmull-Rom kernel -/

namespace Alembic.Image

/-- The Catmull-Rom cubic at a distance from the centre, for distances below 2. -/
def catmullRom (t : Float) : Float :=
  if t < 1 then (1.5 * t - 2.5) * t * t + 1
  else ((-0.5 * t + 2.5) * t - 4) * t + 2

/-- Half the width of the kernel. -/
def kernelSupport : Float := 2

/-- One source column (or row) and its weight. -/
structure Contribution where
  coord : Nat
  weight : Float

/-- What one destination column (or row) takes: the contributions and the inverse of their
total weight, also divided by 65535. -/
structure Source where
  contributions : List Contribution
  inverseTotal : Float
  inverseTotalScaled : Float

/-- An integral double as an integer. -/
def wholeOf (x : Float) : Int :=
  if x < 0 then -((-x).toUInt64.toNat : Int) else (x.toUInt64.toNat : Int)

/-- How `sourceSize` source columns are distributed over `destSize` destination columns. -/
def distribute (destSize sourceSize : Nat) : List Source :=
  let scale := sourceSize.toFloat / destSize.toFloat
  let (halfWidth, argumentScale) :=
    if scale > 1 then (kernelSupport * scale, 1 / scale) else (kernelSupport, 1)
  (List.range destSize).map fun x =>
    let center := (x.toFloat + 0.5) * scale - 0.5
    let first := max 0 (wholeOf (center - halfWidth).floor)
    let last := max first (min (sourceSize : Int) (wholeOf (center + halfWidth).ceil))
    let (contributions, total) :=
      (List.range (last - first).toNat).foldl (fun (acc : List Contribution × Float) offset =>
        let coord := first.toNat + offset
        let t := (center - coord.toFloat).abs * argumentScale
        if t >= kernelSupport then acc
        else
          let w := catmullRom t
          if w == 0 then acc else (acc.1 ++ [⟨coord, w⟩], acc.2 + w)) ([], 0)
    let inverse := 1 / total
    ⟨contributions, inverse, inverse / 65535⟩

/-- A 16-bit channel from a double in `[0, 1]`, rounded and clamped. -/
def toChannel (f : Float) : Nat :=
  let v := 65535 * f + 0.5
  if v >= 65536 then 0xffff
  else if v >= 1 then v.floor.toUInt64.toNat
  else 0

/-- How a raster's pixels enter the first pass: `true` when their alpha counts as exactly one
after normalising (gray and full-speed luma-chroma layouts), `false` when alpha is summed. -/
def Planes.fixedAlpha : Planes → Bool
  | .gray .. => true
  | .lumaChroma chroma .. =>
    chroma != .quarterWidth && chroma != .quarterWidthHalfHeight
  | _ => false

/-- Four running sums of doubles. -/
structure Sums where
  r : Float := 0
  g : Float := 0
  b : Float := 0
  a : Float := 0

/-- The first pass: every source row distributed over the destination columns, row by row. -/
def horizontalPass (raster : Raster) (columns : List Source) : Array Sums := Id.run do
  let fixed := raster.planes.fixedAlpha
  let mut out : Array Sums := Array.mkEmpty (raster.height * columns.length)
  for y in [0:raster.height] do
    for source in columns do
      let sums := source.contributions.foldl (fun (s : Sums) c =>
        let d := raster.deepAt c.coord y
        { r := s.r + d.r.toFloat * c.weight, g := s.g + d.g.toFloat * c.weight,
          b := s.b + d.b.toFloat * c.weight, a := s.a + d.a.toFloat * c.weight }) {}
      let k := source.inverseTotalScaled
      out := out.push { r := sums.r * k, g := sums.g * k, b := sums.b * k,
                        a := if fixed then 1 else sums.a * k }
  return out

/-- Resamples a raster to `width` by `height` pixels of straight colour at the origin. -/
def Raster.scale (raster : Raster) (width height : Nat) : Raster :=
  if raster.width = 0 ∨ raster.height = 0 ∨ width = 0 ∨ height = 0 then
    Raster.ofColors 0 0 width height (List.replicate (width * height) ⟨0, 0, 0, 0⟩)
  else
    let columns := distribute width raster.width
    let rows := (distribute height raster.height).toArray
    let between := horizontalPass raster columns
    let pixel (x y : Nat) : Color :=
      let source := rows.getD y ⟨[], 0, 0⟩
      let s := source.contributions.foldl (fun (s : Sums) c =>
        let p := between.getD (c.coord * width + x) {}
        { r := s.r + p.r * c.weight, g := s.g + p.g * c.weight, b := s.b + p.b * c.weight,
          a := s.a + p.a * c.weight }) {}
      let clampTo (v : Float) : Float := if v > s.a then s.a else v
      let k := source.inverseTotal
      straightOfDeep ⟨toChannel (clampTo s.r * k), toChannel (clampTo s.g * k),
        toChannel (clampTo s.b * k), toChannel (s.a * k)⟩
    Raster.ofColors 0 0 width height
      ((List.range height).flatMap fun y => (List.range width).map fun x => pixel x y)

end Alembic.Image
