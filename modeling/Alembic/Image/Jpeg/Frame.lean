import Alembic.Image.Jpeg.Huffman
import Alembic.Image.Jpeg.Transform
import Alembic.Image.Raster
/-! # The frame and its tables -/

namespace Alembic.Image.Jpeg

/-- A component of the frame. -/
structure Component where
  id : Nat
  horizontal : Nat
  vertical : Nat
  /-- The quantization table it uses. -/
  table : Nat
  deriving Repr, Inhabited

/-- How the chroma planes are sampled, from the ratio of the luma sampling factors to the
chroma ones. -/
def chromaOf (horizontalRatio verticalRatio : Nat) : Chroma :=
  match horizontalRatio, verticalRatio with
  | 1, 2 => .halfHeight
  | 2, 1 => .halfWidth
  | 2, 2 => .half
  | 4, 1 => .quarterWidth
  | 4, 2 => .quarterWidthHalfHeight
  | _, _ => .full

/-- The planes a frame's samples go into, before any scan. -/
structure Layout where
  /-- The samples of each component. -/
  planes : Array ByteArray
  /-- The bytes per row of each plane. -/
  strides : Array Nat
  /-- The chroma sampling of a three- or four-component frame. -/
  chroma : Chroma := .full
  deriving Inhabited

/-- The state of a decoder between segments. -/
structure Decoder where
  stream : Stream
  width : Nat := 0
  height : Nat := 0
  components : Array Component := #[]
  baseline : Bool := false
  progressive : Bool := false
  /-- Whether a JFIF segment was seen last among the application segments of that kind. -/
  jfif : Bool := false
  /-- The colour transform an Adobe segment declares. -/
  adobeTransform : Option Nat := none
  /-- The Huffman tables, DC ones first, four of each class. -/
  huffman : Array HuffmanTable := Array.replicate 8 {}
  /-- The four quantization tables, in zig-zag order. -/
  quantization : Array (Array Int) := Array.replicate 4 (Array.replicate 64 0)
  restartInterval : Nat := 0
  /-- How many more blocks of a progressive band have no further coefficients. -/
  bandRun : Nat := 0
  /-- The planes, once the first scan has laid them out. -/
  layout : Option Layout := none
  /-- The coefficients of every block of each component, kept by a progressive frame. -/
  coefficients : Array (Array (Array Int)) := Array.replicate 4 #[]
  deriving Inhabited

/-- A step of decoding that may fail. -/
abbrev Decoding := StateT Decoder (Except JpegError)

/-- A reading step run on the decoder's stream. -/
def reading {α : Type} (step : Reading α) : Decoding α := fun d =>
  (step d.stream).map fun (value, stream) => (value, { d with stream })

/-- The byte at an index of a segment. -/
def byteOf (bytes : ByteArray) (index : Nat) : Nat := (bytes.data.getD index 0).toNat

namespace Decoder

/-- The largest sampling factors of the frame's components: a minimum coded unit spans that
many blocks of the finest component. -/
def maxFactors (d : Decoder) : Nat × Nat :=
  (d.components.foldl (fun most c => max most c.horizontal) 1,
    d.components.foldl (fun most c => max most c.vertical) 1)

/-- The number of minimum coded units across and down. -/
def unitCounts (d : Decoder) : Nat × Nat :=
  let (h, v) := d.maxFactors
  ((d.width + 8 * h - 1) / (8 * h), (d.height + 8 * v - 1) / (8 * v))

/-- Whether three components hold red, green and blue rather than luma and chroma. -/
def isRGB (d : Decoder) : Bool :=
  if d.jfif then false
  else if d.adobeTransform = some 0 then true
  else (d.components.map (·.id)).toList.take 3 == ['R'.toNat, 'G'.toNat, 'B'.toNat]

end Decoder

/-- Whether the sampling is a subsampled-chroma layout: the second and third components alike,
their factors dividing the first's, and the first's vertical factor below 4. -/
def subsampledChroma (components : Array Component) : Bool :=
  match components[0]?, components[1]?, components[2]? with
  | some first, some second, some third =>
    first.vertical != 4 && first.horizontal % second.horizontal == 0 &&
      first.vertical % second.vertical == 0 && second.horizontal == third.horizontal &&
      second.vertical == third.vertical
  | _, _, _ => false

/-- The plane of a component, in whole blocks for `across` by `down` minimum coded units, and
its bytes per row. -/
def planeFor (across down : Nat) (c : Component) : ByteArray × Nat :=
  (ByteArray.mk (Array.replicate (8 * c.horizontal * across * (8 * c.vertical * down)) 0),
    8 * c.horizontal * across)

/-- The planes of a frame with `across` by `down` minimum coded units. -/
def layoutFor (components : Array Component) (across down : Nat) : Layout :=
  let chroma := match components[0]?, components[1]? with
    | some first, some second =>
      chromaOf (first.horizontal / second.horizontal) (first.vertical / second.vertical)
    | _, _ => .full
  { planes := components.map fun c => (planeFor across down c).1,
    strides := components.map fun c => (planeFor across down c).2, chroma }

/-- Refuses unsupported sampling factors. -/
def unsupportedRatio : JpegError := .unsupported "luma/chroma subsampling ratio"

/-- Checks the sampling factors of component `index` of a frame of `count` components, given
the components before it; gives the factors the component is decoded with. -/
def checkFactors (count index : Nat) (before : Array Component) (factors : Nat) :
    Except JpegError (Nat × Nat) := do
  let h := factors / 16
  let v := factors % 16
  if h < 1 ∨ 4 < h ∨ v < 1 ∨ 4 < v then throw (.format "luma/chroma subsampling ratio")
  if h = 3 ∨ v = 3 then throw unsupportedRatio
  let first := before[0]?.getD default
  match count with
  | 1 => return (1, 1)
  | 3 => return (h, v)
  | _ =>
    match index with
    | 0 => if factors ≠ 0x11 ∧ factors ≠ 0x22 then throw unsupportedRatio
    | 1 | 2 => if factors ≠ 0x11 then throw unsupportedRatio
    | _ => if first.horizontal ≠ h ∨ first.vertical ≠ v then throw unsupportedRatio
    return (h, v)

/-- Reads a start-of-frame segment of `n` bytes. -/
def readFrame (n : Nat) : Decoding Unit := do
  if !(← get).components.isEmpty then throw (.format "multiple SOF markers")
  let count ← match n with
    | 9 => pure 1
    | 15 => pure 3
    | 18 => pure 4
    | _ => throw (.unsupported "number of components")
  let bytes ← reading (Stream.readBytes n)
  if byteOf bytes 0 ≠ 8 then throw (.unsupported "precision")
  let height := byteOf bytes 1 * 256 + byteOf bytes 2
  let width := byteOf bytes 3 * 256 + byteOf bytes 4
  if byteOf bytes 5 ≠ count then throw (.format "SOF has wrong length")
  let mut components : Array Component := #[]
  for i in List.range count do
    let id := byteOf bytes (6 + 3 * i)
    if components.any (·.id == id) then throw (.format "repeated component identifier")
    let table := byteOf bytes (8 + 3 * i)
    if table > 3 then throw (.format "bad Tq value")
    let (h, v) ← checkFactors count i components (byteOf bytes (7 + 3 * i))
    components := components.push { id, horizontal := h, vertical := v, table }
  modify fun d => { d with width, height, components }
  if count = 3 ∧ (← get).isRGB ∧ !subsampledChroma components then throw unsupportedRatio

/-- Reads a Huffman table segment of `n` bytes. -/
def readHuffman (n : Nat) : Decoding Unit := do
  let mut remaining := n
  for _ in List.range (n / 17 + 1) do
    if remaining = 0 then break
    if remaining < 17 then throw (.format "DHT has wrong length")
    let header ← reading (Stream.readBytes 17)
    let tableClass := byteOf header 0 / 16
    if tableClass > 1 then throw (.format "bad Tc value")
    let index := byteOf header 0 % 16
    if index > 3 ∨ ((← get).baseline ∧ index > 1) then throw (.format "bad Th value")
    let counts := (List.range maxCodeLength).map fun i => byteOf header (i + 1)
    let size := HuffmanTable.codeCount counts
    if size = 0 then throw (.format "Huffman table has zero length")
    if size > 256 then throw (.format "Huffman table has excessive length")
    if remaining < size + 17 then throw (.format "DHT has wrong length")
    remaining := remaining - (size + 17)
    let values ← reading (Stream.readBytes size)
    let table := HuffmanTable.build counts (values.data.map (·.toNat))
    modify fun d => { d with huffman := d.huffman.setIfInBounds (tableClass * 4 + index) table }

/-- Reads a quantization table segment of `n` bytes. -/
def readQuantization (n : Nat) : Decoding Unit := do
  let mut remaining := n
  for _ in List.range (n + 1) do
    if remaining = 0 then break
    remaining := remaining - 1
    let selector ← reading Stream.readByte
    let index := selector % 16
    if index > 3 then throw (.format "bad Tq value")
    let wide ← match selector / 16 with
      | 0 => pure false
      | 1 => pure true
      | _ => throw (.format "bad Pq value")
    let size := if wide then 128 else 64
    if remaining < size then break
    remaining := remaining - size
    let bytes ← reading (Stream.readBytes size)
    let table := (List.range 64).toArray.map fun i =>
      if wide then ((byteOf bytes (2 * i) * 256 + byteOf bytes (2 * i + 1) : Nat) : Int)
      else ((byteOf bytes i : Nat) : Int)
    modify fun d => { d with quantization := d.quantization.setIfInBounds index table }
  if remaining ≠ 0 then throw (.format "DQT has wrong length")

/-- Reads a restart interval segment of `n` bytes. -/
def readRestartInterval (n : Nat) : Decoding Unit := do
  if n ≠ 2 then throw (.format "DRI has wrong length")
  let bytes ← reading (Stream.readBytes 2)
  modify fun d => { d with restartInterval := byteOf bytes 0 * 256 + byteOf bytes 1 }

/-- Whether bytes start with the given characters. -/
def startsWithText (bytes : ByteArray) (text : String) : Bool :=
  (text.toList.zip (List.range text.length)).all fun (c, i) => byteOf bytes i = c.toNat

/-- Reads a first application segment of `n` bytes, which may mark the file as JFIF. -/
def readJfif (n : Nat) : Decoding Unit := do
  if n < 5 then reading (Stream.skip n)
  else
    let bytes ← reading (Stream.readBytes 5)
    modify fun d => { d with jfif := startsWithText bytes "JFIF\x00" }
    if n > 5 then reading (Stream.skip (n - 5))

/-- Reads a fifteenth application segment of `n` bytes, which may hold Adobe's colour
transform. -/
def readAdobe (n : Nat) : Decoding Unit := do
  if n < 12 then reading (Stream.skip n)
  else
    let bytes ← reading (Stream.readBytes 12)
    if startsWithText bytes "Adobe" then
      modify fun d => { d with adobeTransform := some (byteOf bytes 11) }
    if n > 12 then reading (Stream.skip (n - 12))

end Alembic.Image.Jpeg
