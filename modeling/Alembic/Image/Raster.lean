/-! # Rasters -/

namespace Alembic.Image

/-- A colour with straight alpha, 8 bits per channel. -/
structure Color where
  r : UInt8
  g : UInt8
  b : UInt8
  a : UInt8
  deriving BEq, Repr, Inhabited

/-- The colour background pixels become: white with no opacity. -/
def Color.transparent : Color := ⟨255, 255, 255, 0⟩

/-- A colour with alpha premultiplied, 16 bits per channel. -/
structure Deep where
  r : Nat
  g : Nat
  b : Nat
  a : Nat
  deriving BEq, Repr, Inhabited

/-- How the chroma planes are sampled against the luma plane. -/
inductive Chroma where
  /-- Every pixel has its own chroma. -/
  | full
  /-- Half the width. -/
  | halfWidth
  /-- Half the width and half the height. -/
  | half
  /-- Half the height. -/
  | halfHeight
  /-- A quarter of the width. -/
  | quarterWidth
  /-- A quarter of the width and half the height. -/
  | quarterWidthHalfHeight
  deriving BEq, Repr, Inhabited, DecidableEq

namespace Chroma

/-- How many luma columns share one chroma sample. -/
def columnsPerSample : Chroma → Nat
  | .full | .halfHeight => 1
  | .halfWidth | .half => 2
  | .quarterWidth | .quarterWidthHalfHeight => 4

/-- How many luma rows share one chroma sample. -/
def rowsPerSample : Chroma → Nat
  | .half | .halfHeight | .quarterWidthHalfHeight => 2
  | _ => 1

end Chroma

/-- The pixels of a raster in one of the storage layouts. -/
inductive Planes where
  | straight (pixels : ByteArray) (stride : Nat)
  | premultiplied (pixels : ByteArray) (stride : Nat)
  | gray (pixels : ByteArray) (stride : Nat)
  | lumaChroma (chroma : Chroma) (luma : ByteArray) (lumaStride : Nat) (blue red : ByteArray)
      (chromaStride : Nat)
  | ink (pixels : ByteArray) (stride : Nat)
  deriving Inhabited

/-- A rectangle of pixels placed with its top-left corner at `(minX, minY)`. -/
structure Raster where
  minX : Int := 0
  minY : Int := 0
  width : Nat
  height : Nat
  planes : Planes
  deriving Inhabited

/-- The byte at an offset, or 0 past the end. -/
def byteAt (bytes : ByteArray) (offset : Nat) : Nat :=
  if h : offset < bytes.size then bytes[offset].toNat else 0

/-- A 16-bit channel clamped from a fixed-point value with 8 fraction bits. -/
def clampChannel (value : Int) : Nat :=
  let shifted := value >>> (8 : Nat)
  if shifted < 0 then 0 else if shifted > 0xffff then 0xffff else shifted.toNat

/-- The 16-bit red, green and blue of a luma and chroma triple. -/
def lumaChroma (luma blue red : Nat) : Nat × Nat × Nat :=
  let y : Int := luma * 0x10101
  let cb : Int := (blue : Int) - 128
  let cr : Int := (red : Int) - 128
  (clampChannel (y + 91881 * cr), clampChannel (y - 22554 * cb - 46802 * cr),
    clampChannel (y + 116130 * cb))

/-- Straight colour from premultiplied 16-bit colour: divide by alpha and keep the high byte. -/
def straightOfDeep (deep : Deep) : Color :=
  if deep.a = 0xffff then
    ⟨(deep.r / 256).toUInt8, (deep.g / 256).toUInt8, (deep.b / 256).toUInt8, 255⟩
  else if deep.a = 0 then ⟨0, 0, 0, 0⟩
  else
    let unmultiply (channel : Nat) : UInt8 := (channel * 0xffff / deep.a / 256).toUInt8
    ⟨unmultiply deep.r, unmultiply deep.g, unmultiply deep.b, (deep.a / 256).toUInt8⟩

/-- Premultiplied 16-bit colour from straight 8-bit colour. -/
def deepOfStraight (color : Color) : Deep :=
  let alpha := color.a.toNat * 0x101
  ⟨color.r.toNat * 0x101 * alpha / 0xffff, color.g.toNat * 0x101 * alpha / 0xffff,
    color.b.toNat * 0x101 * alpha / 0xffff, alpha⟩

namespace Raster

/-- The offset of a chroma sample. -/
def chromaOffset (chroma : Chroma) (stride x y : Nat) : Nat :=
  (y / chroma.rowsPerSample) * stride + x / chroma.columnsPerSample

/-- The four bytes at an offset as a colour. -/
def colorAt (bytes : ByteArray) (offset : Nat) : Color :=
  ⟨(byteAt bytes offset).toUInt8, (byteAt bytes (offset + 1)).toUInt8,
    (byteAt bytes (offset + 2)).toUInt8, (byteAt bytes (offset + 3)).toUInt8⟩

/-- The premultiplied 16-bit colour of the pixel at `(x, y)` from the top-left corner. -/
def deepAt (raster : Raster) (x y : Nat) : Deep :=
  match raster.planes with
  | .straight pixels stride => deepOfStraight (colorAt pixels (y * stride + 4 * x))
  | .premultiplied pixels stride =>
    let c := colorAt pixels (y * stride + 4 * x)
    ⟨c.r.toNat * 0x101, c.g.toNat * 0x101, c.b.toNat * 0x101, c.a.toNat * 0x101⟩
  | .gray pixels stride =>
    let level := byteAt pixels (y * stride + x) * 0x101
    ⟨level, level, level, 0xffff⟩
  | .lumaChroma chroma luma lumaStride blue red chromaStride =>
    let offset := chromaOffset chroma chromaStride x y
    let (r, g, b) := lumaChroma (byteAt luma (y * lumaStride + x)) (byteAt blue offset) (byteAt red offset)
    ⟨r, g, b, 0xffff⟩
  | .ink pixels stride =>
    let c := colorAt pixels (y * stride + 4 * x)
    let left := 0xffff - c.a.toNat * 0x101
    let channel (ink : UInt8) : Nat := (0xffff - ink.toNat * 0x101) * left / 0xffff
    ⟨channel c.r, channel c.g, channel c.b, 0xffff⟩

/-- The straight 8-bit colour of the pixel at `(x, y)`, as a raster of straight colour would
store it. -/
def straightAt (raster : Raster) (x y : Nat) : Color :=
  match raster.planes with
  | .straight pixels stride => colorAt pixels (y * stride + 4 * x)
  | .gray pixels stride =>
    let level := (byteAt pixels (y * stride + x)).toUInt8
    ⟨level, level, level, 255⟩
  | _ => straightOfDeep (raster.deepAt x y)

/-- A raster of straight colour from its pixels, row by row. -/
def ofColors (minX minY : Int) (width height : Nat) (pixels : List Color) : Raster :=
  let bytes := pixels.foldl (fun acc c => ((acc.push c.r).push c.g |>.push c.b).push c.a) ByteArray.empty
  { minX, minY, width, height, planes := .straight bytes (4 * width) }

/-- The straight colours of all pixels, row by row. -/
def colors (raster : Raster) : List Color :=
  (List.range raster.height).flatMap fun y => (List.range raster.width).map fun x => raster.straightAt x y

end Raster

end Alembic.Image
