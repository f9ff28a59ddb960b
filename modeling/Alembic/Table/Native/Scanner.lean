import Alembic.Table.Native.Token
import Alembic.Text.Grapheme
/-! # Cutting native table source into tokens -/

namespace Alembic.Table.Native

/-- What the scanner is reading. -/
inductive Mode where
  | main
  | quoted
  | heredoc
  deriving BEq, DecidableEq, Repr

/-- A heredoc being read: its closing marker and whether the next literal starts a line. -/
structure Heredoc where
  marker : List UInt8
  startOfLine : Bool

/-- The state of the scanner. -/
structure Scanner where
  file : String
  rest : List UInt8
  /-- Bytes of the source read so far, the skipped byte order mark included. -/
  offset : Nat
  /-- Where the last token ended. -/
  pos : Pos
  tokens : Array Token
  /-- The modes entered, innermost first; the main mode is at the bottom. -/
  modes : List Mode
  braces : Int
  /-- The brace counts at which a template sequence closes, innermost first. -/
  closers : List Int
  heredocs : List Heredoc

def isDigit (b : UInt8) : Bool := 48 ≤ b ∧ b ≤ 57

def isNewlineByte (b : UInt8) : Bool := b = 10 ∨ b = 13

/-- The end of a stretch of source that starts at `start`: each grapheme cluster is one column,
and a line feed (alone or after a carriage return) starts a new line. -/
def advanceOver : Nat → Pos → List UInt8 → Pos
  | 0, pos, _ => pos
  | _ + 1, pos, [] => pos
  | fuel + 1, pos, bytes =>
    let width := max (Text.clusterWidth bytes) 1
    let cluster := bytes.take width
    let pos' : Pos :=
      if cluster = [10] ∨ cluster = [13, 10] then
        { line := pos.line + 1, column := 1, byte := pos.byte + width }
      else { pos with column := pos.column + 1, byte := pos.byte + width }
    advanceOver fuel pos' (bytes.drop width)

/-- The width of a number literal at the head of the bytes, which start with a digit: a digit,
then digits, points and exponents (`e`, an optional sign, a digit), not ending on a point. -/
def numberTail : Nat → List UInt8 → Nat → Nat → Nat
  | 0, _, _, good => good
  | _ + 1, [], _, good => good
  | fuel + 1, b :: rest, taken, good =>
    if isDigit b then numberTail fuel rest (taken + 1) (taken + 1)
    else if b = 46 then numberTail fuel rest (taken + 1) good
    else if b = 101 ∨ b = 69 then
      match rest with
      | s :: d :: more =>
        if (s = 43 ∨ s = 45) ∧ isDigit d then numberTail fuel more (taken + 3) (taken + 3)
        else if isDigit s then numberTail fuel (d :: more) (taken + 2) (taken + 2)
        else good
      | [d] => if isDigit d then taken + 2 else good
      | [] => good
    else good

def numberWidth (bytes : List UInt8) : Nat := numberTail bytes.length (bytes.drop 1) 1 1

/-- The width of the run of identifier characters at the head of the bytes. -/
def identTail : Nat → List UInt8 → Nat
  | 0, _ => 0
  | fuel + 1, bytes =>
    match charAt bytes with
    | some (c, width) => if isIdentContinue c then width + identTail fuel (bytes.drop width) else 0
    | none => 0

/-- The width of an identifier at the head of the bytes, if one starts there. -/
def identWidth (bytes : List UInt8) : Option Nat :=
  match charAt bytes with
  | some (c, width) =>
    if isIdentStart c then some (width + identTail bytes.length (bytes.drop width)) else none
  | none => none

/-- The width of a line comment: up to and including the line feed, or to the end. -/
def lineCommentWidth (bytes : List UInt8) : Nat :=
  match bytes.findIdx? (· = 10) with
  | some index => index + 1
  | none => bytes.length

/-- The width of a block comment, when its closing `*/` is there. -/
def blockCommentWidth (bytes : List UInt8) : Option Nat :=
  let body := bytes.drop 2
  let closes := (List.range body.length).find? fun index =>
    (body.drop index).take 2 == [42, 47]
  closes.map (· + 4)

/-- The width of a line break at the head of the bytes. -/
def newlineWidth : List UInt8 → Nat
  | 10 :: _ => 1
  | 13 :: 10 :: _ => 2
  | _ => 0

/-- A heredoc introducer at the head of the bytes: its width and its marker. -/
def heredocIntroducer (bytes : List UInt8) : Option (Nat × List UInt8) :=
  match bytes with
  | 60 :: 60 :: rest =>
    let dash := if rest.head? = some 45 then 1 else 0
    match identWidth (rest.drop dash) with
    | some width =>
      let after := rest.drop (dash + width)
      let lineEnd := newlineWidth after
      if lineEnd = 0 then none
      else some (2 + dash + width + lineEnd, (rest.drop dash).take width)
    | none => none
  | _ => none

/-- The width of the literal text of a quoted string at the head of the bytes. -/
def quotedLiteralWidth : Nat → List UInt8 → Nat
  | 0, _ => 0
  | _ + 1, [] => 0
  | fuel + 1, b :: rest =>
    if b = 92 then
      match charAt rest with
      | some (c, width) =>
        if c = '\n' ∨ c = '\r' then 0 else 1 + width + quotedLiteralWidth fuel (rest.drop width)
      | none => 0
    else if b = 36 ∨ b = 37 then
      match rest with
      | 123 :: _ => 0
      | next :: 123 :: more =>
        if next = b then
          let tilde := if more.head? = some 126 then 1 else 0
          3 + tilde + quotedLiteralWidth fuel (more.drop tilde)
        else 1 + quotedLiteralWidth fuel rest
      | _ :: _ => 1 + quotedLiteralWidth fuel rest
      | [] => 0
    else if b = 34 ∨ isNewlineByte b then 0
    else
      match charAt (b :: rest) with
      | some (_, width) => width + quotedLiteralWidth fuel ((b :: rest).drop width)
      | none => 0

/-- The width of a run of heredoc text without `$`, `%` or line-break characters. -/
def heredocRunWidth : Nat → List UInt8 → Nat
  | 0, _ => 0
  | _ + 1, [] => 0
  | fuel + 1, b :: rest =>
    if b = 36 ∨ b = 37 ∨ isNewlineByte b then 0
    else
      match charAt (b :: rest) with
      | some (_, width) => width + heredocRunWidth fuel ((b :: rest).drop width)
      | none => 0

/-- The opener of a template sequence at the head of the bytes: `${` or `%{`, with an optional
`~`. -/
def templateOpener (bytes : List UInt8) : Option (TokenKind × Nat) :=
  match bytes with
  | 36 :: 123 :: rest => some (.interpolation, if rest.head? = some 126 then 3 else 2)
  | 37 :: 123 :: rest => some (.control, if rest.head? = some 126 then 3 else 2)
  | _ => none

/-- Whether a byte is white space for the comparison with a heredoc marker. -/
def isTrimmable (b : UInt8) : Bool := b = 32 ∨ (9 ≤ b ∧ b ≤ 13)

def trimBytes (bytes : List UInt8) : List UInt8 :=
  ((bytes.dropWhile isTrimmable).reverse.dropWhile isTrimmable).reverse

namespace Scanner

/-- Emits a token of the next `width` bytes. -/
def emit (s : Scanner) (kind : TokenKind) (width : Nat) : Scanner :=
  let bytes := s.rest.take width
  let start : Pos := { s.pos with column := s.pos.column + (s.offset - s.pos.byte), byte := s.offset }
  let stop := advanceOver bytes.length start bytes
  { s with rest := s.rest.drop width, offset := s.offset + width, pos := stop,
           tokens := s.tokens.push ⟨kind, bytes, ⟨s.file, start, stop⟩⟩ }

/-- Skips bytes that make no token. -/
def skip (s : Scanner) (width : Nat) : Scanner :=
  { s with rest := s.rest.drop width, offset := s.offset + width }

def push (s : Scanner) (mode : Mode) : Scanner := { s with modes := mode :: s.modes }

def pop (s : Scanner) : Scanner := { s with modes := s.modes.drop 1 }

/-- Enters a template sequence: the brace count goes up and the main mode reads its inside. -/
def openSequence (s : Scanner) (kind : TokenKind) (width : Nat) : Scanner :=
  let s := s.emit kind width
  let braces := s.braces + 1
  let heredocs := match s.heredocs with
    | top :: rest => { top with startOfLine := false } :: rest
    | [] => []
  { s with braces, closers := braces :: s.closers, heredocs, modes := .main :: s.modes }

/-- A closing brace, `}` or `~}`: it closes a template sequence when the brace count is where
the sequence opened. -/
def closeBrace (s : Scanner) (width : Nat) (tilde : Bool) : Scanner :=
  match s.closers with
  | top :: rest =>
    if top = s.braces then
      let s := s.emit .sequenceEnd width
      { s with braces := s.braces - 1, closers := rest, modes := s.modes.drop 1 }
    else
      let s := s.emit (if tilde then .sequenceEnd else .braceClose) width
      { s with braces := s.braces - 1 }
  | [] =>
    let s := s.emit (if tilde then .sequenceEnd else .braceClose) width
    { s with braces := s.braces - 1 }

/-- Turns the rest of the input into one invalid token and stops. -/
def giveUp (s : Scanner) : Scanner := s.emit .invalid s.rest.length

/-- One step in the main mode. -/
def stepMain (s : Scanner) : Scanner :=
  match s.rest with
  | [] => s
  | b :: rest =>
    if b = 32 ∨ b = 9 then s.skip (1 + (rest.takeWhile fun c => c = 32 ∨ c = 9).length)
    else if newlineWidth s.rest > 0 then s.emit .newline (newlineWidth s.rest)
    else if isDigit b then s.emit .number (numberWidth s.rest)
    else if b = 35 ∨ (b = 47 ∧ rest.head? = some 47) then s.emit .comment (lineCommentWidth s.rest)
    else if b = 47 ∧ rest.head? = some 42 ∧ (blockCommentWidth s.rest).isSome then
      s.emit .comment ((blockCommentWidth s.rest).getD 2)
    else if b = 34 then (s.emit .quoteOpen 1).push .quoted
    else if b = 123 then
      let s := s.emit .braceOpen 1
      { s with braces := s.braces + 1 }
    else if b = 125 then s.closeBrace 1 false
    else if b = 126 ∧ rest.head? = some 125 then s.closeBrace 2 true
    else if s.rest.take 3 = [46, 46, 46] then s.emit .ellipsis 3
    else
      match rest.head?.bind (operatorPair b) with
      | some kind => s.emit kind 2
      | none =>
        match heredocIntroducer s.rest with
        | some (width, marker) =>
          let marker := if marker.getLast? = some 13 then marker.dropLast else marker
          let s := (s.emit .heredocOpen width).push .heredoc
          { s with heredocs := ⟨marker, true⟩ :: s.heredocs }
        | none =>
          match punctuation b with
          | some kind => s.emit kind 1
          | none =>
            match identWidth s.rest with
            | some width => s.emit .ident width
            | none =>
              match charAt s.rest with
              | some (_, width) => s.emit .invalid width
              | none => s.emit .badUtf8 1

/-- One step in a quoted string. -/
def stepQuoted (s : Scanner) : Scanner :=
  match s.rest with
  | [] => s
  | b :: _ =>
    let literal := quotedLiteralWidth s.rest.length s.rest
    if literal > 0 then s.emit .quotedLiteral literal
    else
      match templateOpener s.rest with
      | some (kind, width) => s.openSequence kind width
      | none =>
        if b = 34 then (s.emit .quoteClose 1).pop
        else if isNewlineByte b then s.emit .quotedNewline 1
        else
          match charAt s.rest with
          | some (_, width) => s.emit .invalid width
          | none => s.emit .badUtf8 1

/-- A line of heredoc text that ends with a line break: it closes the heredoc when it starts a
line and holds only the marker. -/
def heredocLine (s : Scanner) (width lineEnd : Nat) : Scanner :=
  match s.heredocs with
  | top :: others =>
    if top.startOfLine ∧ trimBytes (s.rest.take width) = top.marker then
      let s := s.emit .heredocClose (width - lineEnd)
      let s := s.emit .newline lineEnd
      { s with heredocs := others, modes := s.modes.drop 1 }
    else
      let s := s.emit .stringLiteral width
      { s with heredocs := { top with startOfLine := true } :: others }
  | [] => s.emit .stringLiteral width

/-- Heredoc text that does not end a line. -/
def heredocMidline (s : Scanner) (width : Nat) : Scanner :=
  let s := s.emit .stringLiteral width
  match s.heredocs with
  | top :: others => { s with heredocs := { top with startOfLine := false } :: others }
  | [] => s

/-- One step in a heredoc. -/
def stepHeredoc (s : Scanner) : Scanner :=
  match s.rest with
  | [] => s
  | b :: rest =>
    match templateOpener s.rest with
    | some (kind, width) => s.openSequence kind width
    | none =>
      if b = 36 ∨ b = 37 then
        match rest with
        | next :: 123 :: more =>
          if next = b then s.heredocMidline (3 + if more.head? = some 126 then 1 else 0)
          else s.heredocMidline 1
        | _ :: _ => s.heredocMidline 1
        | [] => s.giveUp
      else
        let run := heredocRunWidth s.rest.length s.rest
        let lineEnd := newlineWidth (s.rest.drop run)
        if lineEnd > 0 then s.heredocLine (run + lineEnd) lineEnd
        else if run > 0 then s.heredocMidline run
        else
          match charAt s.rest with
          | some _ => s.giveUp
          | none => s.emit .badUtf8 1

/-- One step in the current mode. -/
def step (s : Scanner) : Scanner :=
  match s.modes with
  | .quoted :: _ => s.stepQuoted
  | .heredoc :: _ => s.stepHeredoc
  | _ => s.stepMain

/-- Scans until the input is used up; every step reads at least one byte. -/
def run : Nat → Scanner → Scanner
  | 0, s => s
  | fuel + 1, s => if s.rest.isEmpty then s else run fuel s.step

end Scanner

/-- The UTF-8 byte order mark. -/
def byteOrderMark : List UInt8 := [0xEF, 0xBB, 0xBF]

/-- The tokens of a source file, ending with the end-of-input token. -/
def scan (file : String) (bytes : List UInt8) : Array Token :=
  let skipped := if bytes.take 3 = byteOrderMark then 3 else 0
  let start : Scanner :=
    { file, rest := bytes.drop skipped, offset := skipped, pos := { Pos.origin with byte := skipped },
      tokens := #[], modes := [.main], braces := 0, closers := [], heredocs := [] }
  let finished := Scanner.run (bytes.length + 1) start
  (finished.emit .eof 0).tokens

end Alembic.Table.Native
