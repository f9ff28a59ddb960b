import Alembic.Table.Json.Scanner
import Alembic.Number.Literal
/-! # Literal tokens of the JSON syntax -/

namespace Alembic.Table.Json

def isHexDigit (b : UInt8) : Bool :=
  (48 ≤ b ∧ b ≤ 57) ∨ (97 ≤ b ∧ b ≤ 102) ∨ (65 ≤ b ∧ b ≤ 70)

def hexValue (b : UInt8) : Nat :=
  if 48 ≤ b ∧ b ≤ 57 then b.toNat - 48
  else if 97 ≤ b ∧ b ≤ 102 then b.toNat - 87
  else b.toNat - 55

/-- Checks the bytes of a string after its opening quote; `offset` counts the bytes read.
The result is the offset of the error, if there is one. -/
def checkString : Nat → List UInt8 → Nat → Option Nat
  | 0, _, offset => some offset
  | _ + 1, [], offset => some offset
  | fuel + 1, b :: rest, offset =>
    if b = 34 then
      if rest.isEmpty then none else some (offset + 2)
    else if b = 92 then
      match rest with
      | [] => some (offset + 1)
      | e :: after =>
        if e = 34 ∨ e = 92 ∨ e = 47 ∨ e = 98 ∨ e = 102 ∨ e = 110 ∨ e = 114 ∨ e = 116 then
          checkString fuel after (offset + 2)
        else if e = 117 then
          let digits := after.take 4
          match digits.findIdx? (fun d => !isHexDigit d) with
          | some bad => some (offset + 3 + bad)
          | none =>
            if digits.length < 4 then some (offset + 2 + digits.length)
            else checkString fuel (after.drop 4) (offset + 6)
        else some (offset + 2)
    else if b < 32 then some (offset + 1)
    else checkString fuel rest (offset + 1)

/-- The offset of a syntax error in a string token, if it has one. -/
def stringError (bytes : List UInt8) : Option Nat :=
  match bytes with
  | 34 :: rest => checkString (rest.length + 1) rest 1
  | _ => some 1

/-- Four hex digits as a number, when they are there. -/
def hex4 (bytes : List UInt8) : Option Nat :=
  let digits := bytes.take 4
  if digits.length = 4 ∧ digits.all isHexDigit then
    some (digits.foldl (fun acc d => acc * 16 + hexValue d) 0)
  else none

def isSurrogate (code : Nat) : Bool := 0xD800 ≤ code ∧ code < 0xE000

/-- Decodes the body of a valid string token, up to its closing quote. -/
def decodeString : Nat → List UInt8 → List Char
  | 0, _ => []
  | _ + 1, [] => []
  | fuel + 1, b :: rest =>
    if b = 34 then []
    else if b = 92 then
      match rest with
      | 117 :: after =>
        match hex4 after with
        | none => decodeString fuel after
        | some code =>
          if isSurrogate code then
            match after.drop 4 with
            | 92 :: 117 :: more =>
              match hex4 more with
              | some low =>
                if 0xD800 ≤ code ∧ code < 0xDC00 ∧ 0xDC00 ≤ low ∧ low < 0xE000 then
                  Char.ofNat (0x10000 + (code - 0xD800) * 0x400 + (low - 0xDC00)) ::
                    decodeString fuel (more.drop 4)
                else Text.replacement :: decodeString fuel (after.drop 4)
              | none => Text.replacement :: decodeString fuel (after.drop 4)
            | _ => Text.replacement :: decodeString fuel (after.drop 4)
          else Char.ofNat code :: decodeString fuel (after.drop 4)
      | e :: after =>
        let c : Char :=
          match e with
          | 98 => '\x08'
          | 102 => '\x0c'
          | 110 => '\n'
          | 114 => '\r'
          | 116 => '\t'
          | other => Char.ofNat other.toNat
        c :: decodeString fuel after
      | [] => []
    else
      let (c, width) := Text.decodeOne (b :: rest)
      c :: decodeString fuel ((b :: rest).drop (max width 1))

/-- The text of a valid string token. -/
def stringValue (bytes : List UInt8) : String :=
  String.ofList (decodeString bytes.length (bytes.drop 1))

/-- Whether the bytes are a number in the JSON grammar. -/
def isJsonNumber (bytes : List UInt8) : Bool :=
  let isDigit (b : UInt8) : Bool := 48 ≤ b ∧ b ≤ 57
  let afterSign := match bytes with
    | 45 :: rest => rest
    | rest => rest
  let afterWhole? : Option (List UInt8) := match afterSign with
    | 48 :: rest => some rest
    | first :: rest => if 49 ≤ first ∧ first ≤ 57 then some (rest.dropWhile isDigit) else none
    | [] => none
  let afterFraction? : Option (List UInt8) := afterWhole?.bind fun rest =>
    match rest with
    | 46 :: digits =>
      let count := (digits.takeWhile isDigit).length
      if count = 0 then none else some (digits.drop count)
    | _ => some rest
  let afterExponent? : Option (List UInt8) := afterFraction?.bind fun rest =>
    match rest with
    | e :: more =>
      if e = 101 ∨ e = 69 then
        let unsigned := match more with
          | 43 :: digits | 45 :: digits => digits
          | digits => digits
        let count := (unsigned.takeWhile isDigit).length
        if count = 0 then none else some (unsigned.drop count)
      else some rest
    | [] => some []
  afterExponent? == some []

/-- The number a number token holds, when it follows the JSON grammar. -/
def numberValue (bytes : List UInt8) : Option Precise :=
  if isJsonNumber bytes then
    Literal.parsePrecise (String.ofList (bytes.map fun b => Char.ofNat b.toNat))
  else none

/-- The edit distance between two texts: insertions, deletions and substitutions cost one. -/
def editDistance (first second : List Char) : Nat :=
  let initial := List.range (second.length + 1)
  let last := first.foldl (fun (previous : List Nat) (a : Char) =>
      let start := previous.headD 0 + 1
      let (row, _) := (second.zip (previous.zip previous.tail)).foldl
        (fun (acc : List Nat × Nat) (entry : Char × Nat × Nat) =>
          let (row, left) := acc
          let (b, diagonal, above) := entry
          let cost := if a = b then diagonal else diagonal + 1
          let value := min cost (min (above + 1) (left + 1))
          (row ++ [value], value))
        ([start], start)
      row)
    initial
  last.getLast?.getD 0

/-- The keywords of JSON. -/
def keywords : List String := ["false", "true", "null"]

/-- The keyword a misspelling most likely meant. -/
def keywordSuggestion (given : String) : Option String :=
  keywords.find? fun keyword => editDistance given.toList keyword.toList < 3

end Alembic.Table.Json
