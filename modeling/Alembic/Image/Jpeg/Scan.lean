import Alembic.Image.Jpeg.Frame
/-! # Scans -/

namespace Alembic.Image.Jpeg

/-- The first restart marker. -/
def firstRestart : Nat := 0xd0

/-- The marker after a restart marker. -/
def nextRestart (marker : Nat) : Nat := if marker = 0xd7 then firstRestart else marker + 1

/-- One component of a scan and its tables. -/
structure ScanComponent where
  index : Nat
  dcTable : Nat
  acTable : Nat

/-- The part of the coefficients a scan carries. -/
structure Band where
  zigStart : Nat := 0
  zigEnd : Nat := 63
  /-- The bit position of the previous pass over the band, zero for the first pass. -/
  high : Nat := 0
  /-- The bit position of this pass. -/
  low : Nat := 0

/-- Writes a bytes' value if the index is inside the array. -/
def setByte (bytes : ByteArray) (index : Nat) (value : UInt8) : ByteArray :=
  if h : index < bytes.size then bytes.set index value h else bytes

/-- Dequantizes and transforms a block of component `index` and writes it at block column `bx`
and block row `by` of the component's plane. -/
def reconstructBlock (block : Array Int) (bx blockRow index : Nat) : Decoding Unit := do
  let d ← get
  let table := d.quantization.getD ((d.components[index]?.map (·.table)).getD 0) #[]
  let dequantized := (List.range 64).foldl (fun (b : Array Int) k =>
    let position := zigzag.getD k 0
    b.setIfInBounds position (b.getD position 0 * table.getD k 0)) block
  let samples := inverseTransform dequantized
  match d.layout with
  | none => pure ()
  | some layout =>
    let stride := layout.strides.getD index 0
    let origin := 8 * (blockRow * stride + bx)
    let plane := (List.range 64).foldl (fun (plane : ByteArray) k =>
      setByte plane (origin + (k / 8) * stride + k % 8) (levelShift (samples.getD k 0)))
      (layout.planes.getD index ByteArray.empty)
    set { d with layout := some { layout with planes := layout.planes.setIfInBounds index plane } }

/-- A number with one bit of its two's complement form set. -/
def setBit (value : Int) (bit : Nat) : Int :=
  if (value >>> bit) % 2 = 1 then value else value + Int.pow 2 bit

/-- Refines the nonzero coefficients of a block from `zig` on by one bit of weight `delta`,
stopping after `skip` zero coefficients when given; gives where it stopped. -/
def refineNonZeroes (zigEnd : Nat) (delta : Int) :
    Nat → Array Int → Option Nat → Nat → Reading (Array Int × Nat)
  | 0, block, _, zig => pure (block, zig)
  | fuel + 1, block, skip, zig => do
    if zig > zigEnd then return (block, zig)
    let position := zigzag.getD zig 0
    let value := block.getD position 0
    if value = 0 then
      match skip with
      | some 0 => return (block, zig)
      | some (k + 1) => refineNonZeroes zigEnd delta fuel block (some k) (zig + 1)
      | none => refineNonZeroes zigEnd delta fuel block none (zig + 1)
    else
      let bit ← Stream.readBit
      let block :=
        if bit then block.setIfInBounds position (if value ≥ 0 then value + delta else value - delta)
        else block
      refineNonZeroes zigEnd delta fuel block skip (zig + 1)

/-- Refines the AC coefficients of a block from position `zig` on. -/
def refineBand (table : HuffmanTable) (zigEnd : Nat) (delta : Int) :
    Nat → Array Int → Nat → Decoding (Array Int × Nat)
  | 0, block, zig => pure (block, zig)
  | fuel + 1, block, zig => do
    if zig > zigEnd then return (block, zig)
    let value ← reading table.decodeSymbol
    let run := value / 16
    match value % 16 with
    | 0 =>
      if run ≠ 15 then
        let extra ← if run ≠ 0 then reading (Stream.readBits run) else pure 0
        modify fun d => { d with bandRun := Nat.pow 2 run ||| extra }
        return (block, zig)
      else
        let (block, zig) ← reading (refineNonZeroes zigEnd delta 64 block (some run) zig)
        if zig > zigEnd then throw (.format "too many coefficients")
        refineBand table zigEnd delta fuel block (zig + 1)
    | 1 =>
      let bit ← reading Stream.readBit
      let z := if bit then delta else -delta
      let (block, zig) ← reading (refineNonZeroes zigEnd delta 64 block (some run) zig)
      if zig > zigEnd then throw (.format "too many coefficients")
      refineBand table zigEnd delta fuel (block.setIfInBounds (zigzag.getD zig 0) z) (zig + 1)
    | _ => throw (.format "unexpected Huffman code")

/-- Refines a block by one more bit of its band. -/
def refine (table : HuffmanTable) (band : Band) (block : Array Int) : Decoding (Array Int) := do
  let delta : Int := Int.pow 2 band.low
  if band.zigStart = 0 then
    let bit ← reading Stream.readBit
    return if bit then block.setIfInBounds 0 (setBit (block.getD 0 0) band.low) else block
  let (block, zig) ←
    if (← get).bandRun = 0 then refineBand table band.zigEnd delta 64 block band.zigStart
    else pure (block, band.zigStart)
  let d ← get
  if d.bandRun > 0 then
    set { d with bandRun := d.bandRun - 1 }
    let (block, _) ← reading (refineNonZeroes band.zigEnd delta 64 block none zig)
    return block
  return block

/-- Decodes the AC coefficients of a block from position `zig` on. -/
def decodeBand (table : HuffmanTable) (zigEnd low : Nat) :
    Nat → Array Int → Nat → Decoding (Array Int)
  | 0, block, _ => pure block
  | fuel + 1, block, zig => do
    if zig > zigEnd then return block
    let value ← reading table.decodeSymbol
    let run := value / 16
    let size := value % 16
    if size ≠ 0 then
      let zig := zig + run
      if zig > zigEnd then return block
      let coefficient ← reading (Stream.receiveExtend size)
      decodeBand table zigEnd low fuel
        (block.setIfInBounds (zigzag.getD zig 0) (coefficient * Int.pow 2 low)) (zig + 1)
    else if run ≠ 15 then
      let extra ← if run ≠ 0 then reading (Stream.readBits run) else pure 0
      modify fun d => { d with bandRun := (Nat.pow 2 run ||| extra) - 1 }
      return block
    else decodeBand table zigEnd low fuel block (zig + 16)

/-- Decodes the first pass of a block's band; `prediction` is the component's last DC
coefficient, given back updated. -/
def decodeFirst (dc ac : HuffmanTable) (band : Band) (prediction : Int) (block : Array Int) :
    Decoding (Array Int × Int) := do
  let (block, prediction, zig) ←
    if band.zigStart = 0 then do
      let size ← reading dc.decodeSymbol
      if size > 16 then throw (.unsupported "excessive DC component")
      let difference ← reading (Stream.receiveExtend size)
      let prediction := prediction + difference
      pure (block.setIfInBounds 0 (prediction * Int.pow 2 band.low), prediction, 1)
    else pure (block, prediction, band.zigStart)
  let d ← get
  if zig ≤ band.zigEnd ∧ d.bandRun > 0 then
    set { d with bandRun := d.bandRun - 1 }
    return (block, prediction)
  let block ← decodeBand ac band.zigEnd band.low 64 block zig
  return (block, prediction)

/-- Skips to the restart marker `expected`, given the next two bytes: a byte `0xFF` followed by
`0x00` or `0xFF` is data, any other marker is refused. -/
def findRestart (expected : Nat) : Nat → Nat × Nat → Reading Unit
  | 0, _ => throw .truncated
  | fuel + 1, (first, second) => do
    if first = 0xff ∧ second = expected then return ()
    if first = 0xff ∧ second ≠ 0xff ∧ second ≠ 0 then throw (.format "bad RST marker")
    if second = 0xff then
      let next ← Stream.readBytes 1
      findRestart expected fuel (0xff, byteOf next 0)
    else
      let next ← Stream.readBytes 2
      findRestart expected fuel (byteOf next 0, byteOf next 1)

/-- Reads the restart marker that should come after a unit. -/
def restart (expected : Nat) : Decoding Unit := do
  let bytes ← reading (Stream.readBytes 2)
  if byteOf bytes 0 ≠ 0xff ∨ byteOf bytes 1 ≠ expected then
    let size := (← get).stream.data.size
    reading (findRestart expected (size + 1) (byteOf bytes 0, byteOf bytes 1))
  modify fun d => { d with stream := d.stream.resetBits, bandRun := 0 }

/-- Reads the scan header of `n` bytes: the scan's components and band. -/
def readScanHeader (n : Nat) : Decoding (List ScanComponent × Band) := do
  let d ← get
  if d.components.isEmpty then throw (.format "missing SOF marker")
  if n < 6 ∨ 4 + 2 * d.components.size < n ∨ n % 2 ≠ 0 then throw (.format "SOS has wrong length")
  let bytes ← reading (Stream.readBytes n)
  let count := byteOf bytes 0
  if n ≠ 4 + 2 * count then throw (.format "SOS length inconsistent with number of components")
  let mut scan : List ScanComponent := []
  let mut totalFactors := 0
  for i in List.range count do
    let id := byteOf bytes (1 + 2 * i)
    let index ← match d.components.findIdx? (·.id == id) with
      | some index => pure index
      | none => throw (.format "unknown component selector")
    if scan.any (·.index == index) then throw (.format "repeated component selector")
    let component := d.components[index]?.getD default
    totalFactors := totalFactors + component.horizontal * component.vertical
    let tables := byteOf bytes (2 + 2 * i)
    if tables / 16 > 3 ∨ (d.baseline ∧ tables / 16 > 1) then throw (.format "bad Td value")
    if tables % 16 > 3 ∨ (d.baseline ∧ tables % 16 > 1) then throw (.format "bad Ta value")
    scan := scan ++ [{ index, dcTable := tables / 16, acTable := tables % 16 }]
  if d.components.size > 1 ∧ totalFactors > 10 then
    throw (.format "total sampling factors too large")
  if !d.progressive then return (scan, {})
  let band : Band :=
    { zigStart := byteOf bytes (1 + 2 * count), zigEnd := byteOf bytes (2 + 2 * count),
      high := byteOf bytes (3 + 2 * count) / 16, low := byteOf bytes (3 + 2 * count) % 16 }
  if (band.zigStart = 0 ∧ band.zigEnd ≠ 0) ∨ band.zigStart > band.zigEnd ∨ 64 ≤ band.zigEnd then
    throw (.format "bad spectral selection bounds")
  if band.zigStart ≠ 0 ∧ count ≠ 1 then
    throw (.format "progressive AC coefficients for more than one component")
  if band.high ≠ 0 ∧ band.high ≠ band.low + 1 then
    throw (.format "bad successive approximation values")
  return (scan, band)

/-- Decodes one block of a scan at block column `bx` and block row `blockRow` of its
component. -/
def decodeBlock (component : ScanComponent) (band : Band) (across bx blockRow : Nat)
    (predictions : Array Int) : Decoding (Array Int) := do
  let d ← get
  let factor := (d.components[component.index]?.map (·.horizontal)).getD 1
  let slot := blockRow * across * factor + bx
  let start :=
    if d.progressive then (d.coefficients.getD component.index #[]).getD slot #[]
    else Array.replicate 64 0
  let start := if start.size = 64 then start else Array.replicate 64 0
  let dcTable := d.huffman.getD component.dcTable {}
  let acTable := d.huffman.getD (4 + component.acTable) {}
  let (block, predictions) ←
    if band.high ≠ 0 then
      let block ← refine acTable band start
      pure (block, predictions)
    else
      let (block, prediction) ←
        decodeFirst dcTable acTable band (predictions.getD component.index 0) start
      pure (block, predictions.setIfInBounds component.index prediction)
  if d.progressive then
    modify fun d =>
      let blocks := (d.coefficients.getD component.index #[]).setIfInBounds slot block
      { d with coefficients := d.coefficients.setIfInBounds component.index blocks }
  else reconstructBlock block bx blockRow component.index
  return predictions

/-- Reads a scan of header length `n`. -/
def readScan (n : Nat) : Decoding Unit := do
  let (scan, band) ← readScanHeader n
  let d ← get
  let (across, down) := d.unitCounts
  if d.layout.isNone then set { d with layout := some (layoutFor d.components across down) }
  if d.progressive then
    for component in scan do
      modify fun d =>
        if (d.coefficients.getD component.index #[]).isEmpty then
          let c := d.components[component.index]?.getD default
          let blocks : Array (Array Int) :=
            Array.replicate (across * down * c.horizontal * c.vertical) #[]
          { d with coefficients := d.coefficients.setIfInBounds component.index blocks }
        else d
  modify fun d => { d with stream := d.stream.resetBits }
  let single := scan.length = 1
  let (width, height) := (d.width, d.height)
  let mut predictions : Array Int := Array.replicate 4 0
  let mut units := 0
  let mut expected := firstRestart
  let mut blockCount := 0
  for unitRow in List.range down do
    for unitColumn in List.range across do
      for component in scan do
        let c := (← get).components[component.index]?.getD default
        for j in List.range (c.horizontal * c.vertical) do
          let (bx, blockRow, inside) : Nat × Nat × Bool :=
            if single then
              let q := across * c.horizontal
              let bx := blockCount % q
              let blockRow := blockCount / q
              (bx, blockRow, decide (bx * 8 < width ∧ blockRow * 8 < height))
            else
              (c.horizontal * unitColumn + j % c.horizontal,
                c.vertical * unitRow + j / c.horizontal, true)
          if single then blockCount := blockCount + 1
          if inside then
            predictions ← decodeBlock component band across bx blockRow predictions
      units := units + 1
      let interval := (← get).restartInterval
      if interval > 0 ∧ units % interval = 0 ∧ units < across * down then
        restart expected
        expected := nextRestart expected
        predictions := Array.replicate 4 0

end Alembic.Image.Jpeg
