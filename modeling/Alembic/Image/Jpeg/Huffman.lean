import Alembic.Image.Jpeg.Stream
/-! # Huffman tables -/

namespace Alembic.Image.Jpeg

/-- The longest code, in bits. -/
def maxCodeLength : Nat := 16

/-- The length in bits of the codes the lookup table decodes at once. -/
def lookupBits : Nat := 8

/-- A Huffman table as the decoder uses it. -/
structure HuffmanTable where
  /-- How many codes the table has; zero for a table never defined. -/
  size : Nat := 0
  /-- The values of the codes, in code order. -/
  values : Array Nat := #[]
  /-- For each 8-bit prefix: the value of the code of at most 8 bits it starts with, times 256,
  plus one more than the code's length; zero when none does. -/
  lookup : Array Nat := Array.replicate 256 0
  /-- For each length, its first code, or `-1` when no code has the length. -/
  firstCodes : Array Int := #[]
  /-- For each length, its last code, or `-1` when no code has the length. -/
  lastCodes : Array Int := #[]
  /-- For each length, the index of the value of its first code, or `-1`. -/
  firstIndices : Array Int := #[]
  deriving Inhabited

namespace HuffmanTable

/-- Fills the lookup entries of the codes of one length (`length + 1` bits), starting at code
`code` and value index `index`. -/
def fillLength (values : Array Nat) (length : Nat) :
    Nat → Array Nat × Nat × Nat → Array Nat × Nat × Nat
  | 0, state => state
  | remaining + 1, (table, code, index) =>
    let base := code * Nat.pow 2 (7 - length) % 256
    let entry := values.getD index 0 * 256 + (length + 2)
    let table := (List.range (Nat.pow 2 (7 - length))).foldl (fun t k => t.setIfInBounds (base + k) entry) table
    fillLength values length remaining (table, code + 1, index + 1)

/-- The lookup table of the codes of at most 8 bits. -/
def buildLookup (counts : List Nat) (values : Array Nat) : Array Nat :=
  let (table, _, _) := (List.range lookupBits).foldl (fun (state : Array Nat × Nat × Nat) length =>
    let (table, code, index) := state
    fillLength values length (counts.getD length 0) (table, code * 2, index))
    (Array.replicate 256 0, 0, 0)
  table

/-- How many codes a table of the given code counts per length has. -/
def codeCount (counts : List Nat) : Nat := counts.foldl (· + ·) 0

/-- The table of the given code counts per length and code values. -/
def build (counts : List Nat) (values : Array Nat) : HuffmanTable :=
  let step (state : List Int × List Int × List Int × Int × Int) (n : Nat) :=
    let (firsts, lasts, indices, code, index) := state
    if n = 0 then (firsts ++ [-1], lasts ++ [-1], indices ++ [-1], code * 2, index)
    else (firsts ++ [code], lasts ++ [code + n - 1], indices ++ [index], (code + n) * 2, index + n)
  let (firsts, lasts, indices, _, _) := counts.foldl step ([], [], [], 0, 0)
  { size := codeCount counts, values, lookup := buildLookup counts values,
    firstCodes := firsts.toArray, lastCodes := lasts.toArray, firstIndices := indices.toArray }

/-- Reads a code bit by bit; `length` bits of it, forming `code`, have been read. -/
def decodeSlowly (table : HuffmanTable) : Nat → Nat → Int → Reading Nat
  | 0, _, _ => throw (.format "bad Huffman code")
  | fuel + 1, length, code => do
    let bit ← Stream.readBits 1
    let code := code + bit
    if code ≤ table.lastCodes.getD length (-1) then
      let index := table.firstIndices.getD length 0 + code - table.firstCodes.getD length 0
      return table.values.getD index.toNat 0
    else decodeSlowly table fuel (length + 1) (code * 2)

/-- Decodes one symbol. -/
def decodeSymbol (table : HuffmanTable) : Reading Nat := fun s =>
  if table.size = 0 then .error (.format "uninitialized Huffman table")
  else
    let (ready, s) : Bool × Stream :=
      if s.count < lookupBits then
        match Stream.fillBits lookupBits 2 s with
        | (none, s) => (true, s)
        | (some _, s) => (false, if s.unreadable ≠ 0 then s.giveBack else s)
      else (true, s)
    let entry := if ready then table.lookup.getD ((s.bits >>> (s.count - lookupBits)) % 256) 0 else 0
    if entry ≠ 0 then .ok (entry / 256, { s with count := s.count - (entry % 256 - 1) })
    else decodeSlowly table maxCodeLength 0 0 s

end HuffmanTable

end Alembic.Image.Jpeg
