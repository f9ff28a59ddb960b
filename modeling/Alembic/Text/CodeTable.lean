/-! # Tables of code points -/

namespace Alembic.Text

/-- The value of one hexadecimal digit; any other character counts as zero. -/
def hexDigitValue (c : Char) : Nat :=
  if '0' ≤ c ∧ c ≤ '9' then c.toNat - '0'.toNat
  else if 'A' ≤ c ∧ c ≤ 'F' then c.toNat - 'A'.toNat + 10
  else if 'a' ≤ c ∧ c ≤ 'f' then c.toNat - 'a'.toNat + 10
  else 0

/-- The value of a hexadecimal numeral. -/
def hexValue (digits : String) : Nat :=
  digits.foldl (fun acc c => acc * 16 + hexDigitValue c) 0

/-- The entries of a table text, each as its list of numbers. -/
def readEntries (text : String) : Array (List Nat) :=
  (((text.splitOn " ").filter (· ≠ "")).map fun entry => (entry.splitOn ".").map hexValue).toArray

/-- The first number of every entry. -/
def firstNumbers (entries : Array (List Nat)) : Array Nat :=
  entries.map fun entry => entry.headD 0

/-- The second number of every entry. -/
def secondNumbers (entries : Array (List Nat)) : Array Nat :=
  entries.map fun entry => (entry.drop 1).headD 0

/-- The position just after the last of the sorted `keys` between `low` and `high` that is at
most `code`: keys before it are at most `code`, keys from it on are greater. -/
def countAtMost (keys : Array Nat) (code low high : Nat) : Nat :=
  if low < high then
    let middle := (low + high) / 2
    if keys.getD middle 0 ≤ code then countAtMost keys code (middle + 1) high
    else countAtMost keys code low middle
  else low
termination_by high - low
decreasing_by all_goals omega

/-- The search never leaves the range it starts with. -/
theorem countAtMost_le (keys : Array Nat) (code low high : Nat) (h : low ≤ high) :
    countAtMost keys code low high ≤ high := by
  induction low, high using countAtMost.induct keys code with
  | case1 low high lt middle at_most ih =>
    rw [countAtMost, if_pos lt, if_pos at_most]
    exact ih (by omega)
  | case2 low high lt middle above ih =>
    rw [countAtMost, if_pos lt, if_neg above]
    exact Nat.le_trans (ih (by omega)) (by omega)
  | case3 low high not_lt =>
    rw [countAtMost, if_neg not_lt]
    exact h

/-- The position of the last key at most `code`, if there is one. -/
def lastAtMost? (keys : Array Nat) (code : Nat) : Option Nat :=
  match countAtMost keys code 0 keys.size with
  | 0 => none
  | count + 1 => some count

/-- Whether a sorted array holds the number. -/
def containsSorted (keys : Array Nat) (code : Nat) : Bool :=
  match lastAtMost? keys code with
  | some position => keys.getD position 0 == code
  | none => false

/-- A set of code points given by the bounds of its runs. -/
structure CodeSet where
  bounds : Array Nat

namespace CodeSet

/-- The set whose bounds are the numbers of a table text. -/
def ofText (text : String) : CodeSet := ⟨firstNumbers (readEntries text)⟩

/-- Whether a code point is in the set. -/
def contains (set : CodeSet) (code : Nat) : Bool :=
  countAtMost set.bounds code 0 set.bounds.size % 2 = 1

end CodeSet

/-- A property of code points that changes at the starts of its entries. -/
structure CodeMap where
  starts : Array Nat
  values : Array Nat

namespace CodeMap

/-- The map whose entries are the `start.value` pairs of a table text. -/
def ofText (text : String) : CodeMap :=
  let entries := readEntries text
  ⟨firstNumbers entries, secondNumbers entries⟩

/-- The value at a code point; zero before the first entry. -/
def get (map : CodeMap) (code : Nat) : Nat :=
  match lastAtMost? map.starts code with
  | some position => map.values.getD position 0
  | none => 0

end CodeMap

end Alembic.Text
