import Alembic.Text.Decomposition
/-! # Normalisation form C -/

namespace Alembic.Text

/-- The first Hangul syllable. -/
def syllableBase : Nat := 0xAC00

/-- The number of Hangul syllables. -/
def syllableCount : Nat := 11172

/-- The first leading consonant jamo. -/
def leadingBase : Nat := 0x1100

/-- The first vowel jamo. -/
def vowelBase : Nat := 0x1161

/-- One before the first final consonant jamo: a syllable without a final consonant counts as
having this one. -/
def finalBase : Nat := 0x11A7

/-- The number of vowels. -/
def vowelCount : Nat := 21

/-- The number of final consonants, the absent one included. -/
def finalCount : Nat := 28

/-- Whether a code point is a Hangul syllable. -/
def isSyllable (code : Nat) : Bool := syllableBase ≤ code && code < syllableBase + syllableCount

/-- Whether a code point is in the block of conjoining jamo, U+1100 to U+11FF. -/
def isJamo (code : Nat) : Bool := code / 256 == 0x11

/-- The canonical decomposition one level deep: a syllable with a final consonant splits into
the syllable without it and the consonant, one without into its consonant and vowel. -/
def decomposeOnce? (code : Nat) : Option (List Nat) :=
  if isSyllable code then
    let index := code - syllableBase
    let final := index % finalCount
    if final = 0 then
      some [leadingBase + index / (vowelCount * finalCount),
        vowelBase + index % (vowelCount * finalCount) / finalCount]
    else some [code - final, finalBase + final]
  else canonicalMapping? code

/-- The canonical decomposition, followed to the given depth. -/
def decomposeWithin : Nat → Nat → List Nat
  | 0, code => [code]
  | depth + 1, code =>
    match decomposeOnce? code with
    | some parts => parts.flatMap (decomposeWithin depth)
    | none => [code]

/-- The full canonical decomposition of a code point; no decomposition is deeper than four. -/
def decompose (code : Nat) : List Nat := decomposeWithin 4 code

/-- The key under which a pair is looked up. -/
def pairKey (first second : Nat) : Nat := first * 0x110000 + second

/-- The pairs that compose, as `(key, composite)`, sorted by key: every decomposition into two
that is not excluded from composition. -/
def compositions : Array (Nat × Nat) :=
  let pairs := decompositions.toList.filterMap fun entry =>
    match entry with
    | [code, first, second] =>
      if compositionExclusions.contains code then none else some (pairKey first second, code)
    | _ => none
  (pairs.mergeSort fun a b => a.1 ≤ b.1).toArray

/-- The keys of the composing pairs. -/
def compositionKeys : Array Nat := compositions.map (·.1)

/-- The one character that Unicode has for a pair, Hangul syllables apart. -/
def composite? (first second : Nat) : Option Nat :=
  match lastAtMost? compositionKeys (pairKey first second) with
  | some position =>
    let (key, code) := compositions.getD position (0, 0)
    if key = pairKey first second then some code else none
  | none => none

/-- Removes repeats from a sorted list. -/
def dedupSorted : List Nat → List Nat
  | a :: b :: rest => if a = b then dedupSorted (b :: rest) else a :: dedupSorted (b :: rest)
  | short => short

/-- The second characters of the composing pairs, sorted. -/
def joiningCodes : Array Nat :=
  (dedupSorted ((compositions.toList.map fun (key, _) => key % 0x110000).mergeSort
    fun a b => a ≤ b)).toArray

/-- Whether a character can join one before it: a vowel or final consonant jamo, or the second
character of a composing pair. -/
def joinsBackward (code : Nat) : Bool :=
  (vowelBase ≤ code && code < 0x1176) || (finalBase < code && code < 0x11C3) ||
    (0x300 ≤ code && containsSorted joiningCodes code)

/-- The Hangul syllable that a leading consonant and a vowel, or a syllable without a final
consonant and a final consonant, form. -/
def hangulComposite? (first second : Nat) : Option Nat :=
  if leadingBase ≤ first ∧ first < 0x1113 ∧ vowelBase ≤ second ∧ second < 0x1176 then
    some (syllableBase + (first - leadingBase) * (vowelCount * finalCount) +
      (second - vowelBase) * finalCount)
  else if isSyllable first ∧ (first - syllableBase) % finalCount = 0 ∧ finalBase < second ∧
      second < 0x11C3 then
    some (first + second - finalBase)
  else none

/-- The class of a character where a segment is concerned: that of the first character of its
decomposition. -/
def leadingClass (code : Nat) : Nat := combiningClass ((decompose code).headD code)

/-- Whether a character begins a segment: a starter that cannot join a character before it. -/
def beginsSegment (code : Nat) : Bool := leadingClass code == 0 && !joinsBackward code

/-- The non-starters a character ends in, measured by its compatibility decomposition. -/
def trailingNonStarters (code : Nat) : Nat :=
  if isSyllable code then
    if (code - syllableBase) % finalCount = 0 then 1 else 2
  else
    match compatibilityTrail? code with
    | some count => count
    | none => ((decompose code).reverse.takeWhile fun part => combiningClass part ≠ 0).length

/-- The non-starters a character begins with, for the count: all of its non-starters when its
decomposition begins with one, else none. -/
def leadingNonStarters (code : Nat) : Nat :=
  if leadingClass code ≠ 0 then trailingNonStarters code else 0

/-- The most non-starters that stand in a row. -/
def nonStarterLimit : Nat := 30

/-- The combining grapheme joiner, put in to break a long run of non-starters. -/
def graphemeJoiner : Nat := 0x34F

/-- Joins the characters of a segment after its first. -/
def joinRest : Bool → List (Nat × Nat) → Array (Nat × Nat) → Nat → Array (Nat × Nat)
  | _, [], kept, _ => kept
  | hangul, (code, cls) :: rest, kept, starter =>
    let hangul := hangul || isJamo code
    if hangul || joinsBackward code then
      let lastClass := (kept.back?.map (·.2)).getD 0
      let starter := if lastClass = 0 then kept.size - 1 else starter
      let blocked := starter ≠ kept.size - 1 ∧ cls ≤ lastClass
      let partner := (kept.getD starter (0, 0)).1
      let joined := if blocked then none
        else if hangul then hangulComposite? partner code else composite? partner code
      match joined with
      | some composite => joinRest hangul rest (kept.set! starter (composite, 0)) starter
      | none => joinRest hangul rest (kept.push (code, cls)) starter
    else joinRest hangul rest (kept.push (code, cls)) starter

/-- The characters of a segment, given in order with their classes, after joining. -/
def composeSegment : List (Nat × Nat) → List Nat
  | [] => []
  | first :: rest => (joinRest false rest #[first] 0).toList.map (·.1)

/-- Puts a character with its class at the end of a segment kept in reverse: a non-starter moves
before the characters of a greater class at the end, so marks of one class keep their order. -/
def insertOrdered (entry : Nat × Nat) : List (Nat × Nat) → List (Nat × Nat)
  | [] => [entry]
  | top :: rest =>
    if entry.2 ≠ 0 ∧ entry.2 < top.2 then top :: insertOrdered entry rest
    else entry :: top :: rest

/-- Normalising, part way through a text: the characters finished, the segment being gathered
(in reverse, with classes), and the non-starters in a row so far. -/
structure Normalizing where
  done : Array Nat
  segment : List (Nat × Nat)
  nonStarters : Nat

namespace Normalizing

/-- The start of normalising. -/
def start : Normalizing := ⟨#[], [], 0⟩

/-- Ends the segment being gathered. -/
def flush (state : Normalizing) : Normalizing :=
  { state with done := state.done ++ (composeSegment state.segment.reverse).toArray,
               segment := [] }

/-- Adds one character of a decomposition; a starter that cannot join ends the segment first. -/
def addPart (state : Normalizing) (part : Nat) : Normalizing :=
  let state := if state.segment.isEmpty || !beginsSegment part then state else state.flush
  { state with segment := insertOrdered (part, combiningClass part) state.segment }

/-- Takes in one character of the text. -/
def push (state : Normalizing) (code : Nat) : Normalizing :=
  let state := if !state.segment.isEmpty && beginsSegment code then state.flush else state
  let leading := leadingNonStarters code
  let state :=
    if state.nonStarters + leading > nonStarterLimit then
      let ended := state.flush
      { ended with done := ended.done.push graphemeJoiner, nonStarters := leading }
    else if leading = 0 then { state with nonStarters := trailingNonStarters code }
    else { state with nonStarters := state.nonStarters + leading }
  (decompose code).foldl addPart state

end Normalizing

/-- The code points of a text in normalisation form C. -/
def composeCodes (codes : List Nat) : List Nat :=
  ((codes.foldl Normalizing.push Normalizing.start).flush).done.toList

/-- Whether a character comes before the combining diacritical marks: no character there
decomposes into anything new, joins one before it or is a non-starter. -/
def precedesMarks (c : Char) : Bool := c.toNat < 0x300

/-- A text in normalisation form C. A text below U+0300 is already in that form. -/
def toNFC (text : String) : String :=
  if text.toList.all precedesMarks then text
  else String.ofList ((composeCodes (text.toList.map Char.toNat)).map Char.ofNat)

end Alembic.Text
