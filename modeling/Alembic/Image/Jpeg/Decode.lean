import Alembic.Image.Jpeg.Scan
/-! # Decoding a JPEG file -/

namespace Alembic.Image.Jpeg

/-- Dequantizes, transforms and writes every block a progressive frame kept. -/
def reconstructProgressive : Decoding Unit := do
  let d ← get
  let (h, v) := d.maxFactors
  let (across, _) := d.unitCounts
  for index in List.range d.components.size do
    let blocks := d.coefficients.getD index #[]
    if blocks.isEmpty then continue
    let c := d.components[index]?.getD default
    let columnWidth := 8 * h / c.horizontal
    let rowHeight := 8 * v / c.vertical
    let stride := across * c.horizontal
    let rows := if rowHeight = 0 then 0 else (d.height + rowHeight - 1) / rowHeight
    let columns := if columnWidth = 0 then 0 else (d.width + columnWidth - 1) / columnWidth
    for blockRow in List.range rows do
      for bx in List.range columns do
        let block := blocks.getD (blockRow * stride + bx) #[]
        reconstructBlock (if block.size = 64 then block else Array.replicate 64 0) bx blockRow index

/-- The markers the decoder acts on. -/
def startOfImage : Nat := 0xd8
def endOfImage : Nat := 0xd9

/-- Reads the body of a segment with marker `marker` and `n` bytes after its length. -/
def readSegment (marker n : Nat) : Decoding Unit :=
  match marker with
  | 0xc0 | 0xc1 | 0xc2 => do
    modify fun d => { d with baseline := marker = 0xc0, progressive := marker = 0xc2 }
    readFrame n
  | 0xc4 => readHuffman n
  | 0xdb => readQuantization n
  | 0xda => readScan n
  | 0xdd => readRestartInterval n
  | 0xe0 => readJfif n
  | 0xee => readAdobe n
  | _ =>
    if (0xe0 ≤ marker ∧ marker ≤ 0xef) ∨ marker = 0xfe then reading (Stream.skip n)
    else if marker < 0xc0 then throw (.format "unknown marker")
    else throw (.unsupported "unknown marker")

/-- Skips bytes until a byte `0xFF` stands first; `pair` holds the next two bytes. -/
def seekMarker : Nat → Nat × Nat → Reading (Nat × Nat)
  | 0, _ => throw .truncated
  | fuel + 1, (first, second) =>
    if first = 0xff then pure (first, second)
    else do
      let next ← Stream.readByte
      seekMarker fuel (second, next)

/-- Skips fill bytes `0xFF` before a marker. -/
def skipFill : Nat → Nat → Reading Nat
  | 0, _ => throw .truncated
  | fuel + 1, marker =>
    if marker ≠ 0xff then pure marker
    else do
      let next ← Stream.readByte
      skipFill fuel next

/-- Reads segments until the end-of-image marker. -/
def readSegments : Nat → Decoding Unit
  | 0 => throw .truncated
  | fuel + 1 => do
    let bytes ← reading (Stream.readBytes 2)
    let limit := (← get).stream.data.size + 1
    let (_, marker) ← reading (seekMarker limit (byteOf bytes 0, byteOf bytes 1))
    if marker = 0 then readSegments fuel
    else
      let marker ← reading (skipFill limit marker)
      if marker = endOfImage then return ()
      if firstRestart ≤ marker ∧ marker ≤ 0xd7 then readSegments fuel
      else
        let length ← reading (Stream.readBytes 2)
        let n := byteOf length 0 * 256 + byteOf length 1
        if n < 2 then throw (.format "short segment length")
        readSegment marker (n - 2)
        readSegments fuel

/-- The sample of a plane at a column and row. -/
def sampleAt (plane : ByteArray) (stride x y : Nat) : Nat := byteAt plane (y * stride + x)

/-- The image of a decoded frame. A pixel takes of each component the sample that covers it:
the component's factors over the frame's largest ones scale the pixel's position. -/
def Decoder.image (d : Decoder) (layout : Layout) : Except JpegError Raster := do
  let plane (i : Nat) : ByteArray := layout.planes.getD i ByteArray.empty
  let stride (i : Nat) : Nat := layout.strides.getD i 0
  let (width, height) := (d.width, d.height)
  let (fullH, fullV) := d.maxFactors
  let sample (i x y : Nat) : Nat :=
    let c := d.components.getD i default
    sampleAt (plane i) (stride i) (x * c.horizontal / fullH) (y * c.vertical / fullV)
  let pixels (pixel : Nat → Nat → List UInt8) : ByteArray :=
    ⟨((List.range height).flatMap fun y => (List.range width).flatMap fun x => pixel x y).toArray⟩
  let colorAt (x y : Nat) : Nat × Nat × Nat := lumaChroma (sample 0 x y) (sample 1 x y) (sample 2 x y)
  match d.components.size with
  | 1 => return { width, height, planes := .gray (plane 0) (stride 0) }
  | 3 =>
    if d.isRGB then
      return { width, height, planes := .premultiplied (pixels fun x y =>
        [(sample 0 x y).toUInt8, (sample 1 x y).toUInt8, (sample 2 x y).toUInt8, 255]) (4 * width) }
    else if subsampledChroma d.components then
      return { width, height, planes :=
        .lumaChroma layout.chroma (plane 0) (stride 0) (plane 1) (plane 2) (stride 1) }
    else
      -- Any other sampling is brought to one sample of each component per pixel.
      let full (i : Nat) : ByteArray := pixels fun x y => [(sample i x y).toUInt8]
      return { width, height, planes := .lumaChroma .full (full 0) width (full 1) (full 2) width }
  | _ =>
    match d.adobeTransform with
    | none =>
      throw (.unsupported "unknown color model: 4-component JPEG doesn't have Adobe APP14 metadata")
    | some 0 =>
      return { width, height, planes := .ink (pixels fun x y =>
        (List.range 4).map fun i => (255 - sample i x y).toUInt8) (4 * width) }
    | some _ =>
      let ink := pixels fun x y =>
        let (r, g, b) := colorAt x y
        [(r / 256).toUInt8, (g / 256).toUInt8, (b / 256).toUInt8, (255 - sample 3 x y).toUInt8]
      return { width, height, planes := .ink ink (4 * width) }

/-- Decodes the bytes of a JPEG file into an image. -/
def decode (data : ByteArray) : Except JpegError Raster := do
  let run : Decoding Unit := do
    let start ← reading (Stream.readBytes 2)
    if byteOf start 0 ≠ 0xff ∨ byteOf start 1 ≠ startOfImage then
      throw (.format "missing SOI marker")
    readSegments (data.size + 1)
    if (← get).progressive then reconstructProgressive
  let ((), d) ← run.run { stream := { data } }
  match d.layout with
  | some layout => d.image layout
  | none => throw (.format "missing SOS marker")

end Alembic.Image.Jpeg
