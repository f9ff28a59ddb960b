import Alembic.Image.Raster
/-! # PNG files -/

namespace Alembic.Image.Png

/-- One byte into a CRC-32 (reflected polynomial `0xEDB88320`), bit by bit. -/
def crcByte (crc : UInt32) (byte : UInt8) : UInt32 :=
  (List.range 8).foldl (fun c _ => if c &&& 1 = 1 then (c >>> 1) ^^^ 0xEDB88320 else c >>> 1)
    (crc ^^^ byte.toUInt32)

/-- The CRC-32 of bytes. -/
def crc32 (bytes : List UInt8) : UInt32 := bytes.foldl crcByte 0xFFFFFFFF ^^^ 0xFFFFFFFF

/-- The Adler-32 checksum of bytes. -/
def adler32 (bytes : List UInt8) : UInt32 :=
  let (a, b) := bytes.foldl (fun (s : Nat × Nat) byte =>
    let a := (s.1 + byte.toNat) % 65521
    (a, (s.2 + a) % 65521)) (1, 0)
  (b * 65536 + a).toUInt32

/-- A number as four bytes, most significant first. -/
def bigEndian (n : Nat) : List UInt8 :=
  [(n / 16777216 % 256).toUInt8, (n / 65536 % 256).toUInt8, (n / 256 % 256).toUInt8,
    (n % 256).toUInt8]

/-- A chunk: length, type, data and the CRC of type and data. -/
def chunk (kind : String) (data : List UInt8) : List UInt8 :=
  let typed := kind.toUTF8.toList ++ data
  bigEndian data.length ++ typed ++ bigEndian (crc32 typed).toNat

/-- The largest stored deflate block. -/
def storedLimit : Nat := 65535

/-- Bytes as stored deflate blocks, the last one marked final. -/
def storedBlocks (bytes : List UInt8) : Nat → List UInt8
  | 0 => []
  | fuel + 1 =>
    let block := bytes.take storedLimit
    let rest := bytes.drop storedLimit
    let final := rest.isEmpty
    let n := block.length
    [if final then 1 else 0, (n % 256).toUInt8, (n / 256).toUInt8,
      ((65535 - n) % 256).toUInt8, ((65535 - n) / 256).toUInt8] ++ block ++
      (if final then [] else storedBlocks rest fuel)

/-- Bytes as a zlib stream of stored blocks. -/
def zlibStored (bytes : List UInt8) : List UInt8 :=
  [0x78, 0x01] ++ storedBlocks bytes (bytes.length / storedLimit + 1) ++
    bigEndian (adler32 bytes).toNat

/-- The PNG signature. -/
def signature : List UInt8 := [0x89, 0x50, 0x4E, 0x47, 0x0D, 0x0A, 0x1A, 0x0A]

/-- Whether every pixel of a raster is opaque. -/
def allOpaque (raster : Raster) : Bool := raster.colors.all (·.a == 255)

/-- The PNG file of a raster. -/
def encode (raster : Raster) : ByteArray :=
  let keepAlpha := !(allOpaque raster)
  let colors := raster.colors
  let rows := (List.range raster.height).flatMap fun y =>
    (0 : UInt8) :: ((colors.drop (y * raster.width)).take raster.width).flatMap fun c =>
      if keepAlpha then [c.r, c.g, c.b, c.a] else [c.r, c.g, c.b]
  let header := bigEndian raster.width ++ bigEndian raster.height ++
    [8, if keepAlpha then 6 else 2, 0, 0, 0]
  ⟨(signature ++ chunk "IHDR" header ++ chunk "IDAT" (zlibStored rows) ++ chunk "IEND" []).toArray⟩

/-- How a PNG stores colour. -/
inductive Model where
  | rgb
  | rgba
  deriving Repr, BEq, DecidableEq

def Model.name : Model → String
  | .rgb => "rgb"
  | .rgba => "rgba"

/-- A number from four bytes, most significant first. -/
def readBigEndian (bytes : List UInt8) : Nat :=
  bytes.foldl (fun n b => n * 256 + b.toNat) 0

/-- The chunks of a PNG file after its signature, as types and data. -/
def chunks : Nat → List UInt8 → Option (List (String × List UInt8))
  | 0, _ => none
  | _, [] => some []
  | fuel + 1, bytes => do
    let length := readBigEndian (bytes.take 4)
    let kind := String.fromUTF8? ⟨((bytes.drop 4).take 4).toArray⟩
    let kind ← kind
    if bytes.length < 12 + length then none
    let data := (bytes.drop 8).take length
    let rest ← chunks fuel (bytes.drop (12 + length))
    return (kind, data) :: rest

/-- The bytes of a zlib stream of stored blocks. -/
def storedContent : Nat → List UInt8 → Option (List UInt8)
  | 0, _ => none
  | fuel + 1, bytes =>
    match bytes with
    | header :: lo :: hi :: _ :: _ :: rest =>
      if header.toNat / 2 % 4 ≠ 0 then none
      else
        let n := lo.toNat + 256 * hi.toNat
        let block := rest.take n
        if header.toNat % 2 = 1 then some block
        else (storedContent fuel (rest.drop n)).map (block ++ ·)
    | _ => none

/-- The pixels and colour model of a PNG file this module writes. -/
def decode (file : ByteArray) : Option (Raster × Model) := do
  let bytes := file.toList
  if bytes.take 8 != signature then none
  let found ← chunks (bytes.length + 1) (bytes.drop 8)
  let header ← found.find? (·.1 == "IHDR")
  let width := readBigEndian (header.2.take 4)
  let height := readBigEndian ((header.2.drop 4).take 4)
  let model ← match header.2.drop 8 with
    | 8 :: 2 :: 0 :: 0 :: 0 :: _ => some Model.rgb
    | 8 :: 6 :: 0 :: 0 :: 0 :: _ => some Model.rgba
    | _ => none
  let compressed := (found.filter (·.1 == "IDAT")).flatMap (·.2)
  let content ← storedContent (compressed.length + 1) (compressed.drop 2)
  let channels := if model = .rgb then 3 else 4
  let rowLength := 1 + channels * width
  let pixels := (List.range height).flatMap fun y =>
    let row := (content.drop (y * rowLength + 1)).take (channels * width)
    (List.range width).map fun x =>
      let channel (i : Nat) : UInt8 := row.getD (x * channels + i) 0
      (⟨channel 0, channel 1, channel 2, if model = .rgb then 255 else channel 3⟩ : Color)
  return (Raster.ofColors 0 0 width height pixels, model)

end Alembic.Image.Png
