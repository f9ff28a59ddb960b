import Alembic.Failure
/-! # Source positions and diagnostics -/

namespace Alembic.Table

/-- A position in a source file. -/
structure Pos where
  line : Nat
  column : Nat
  byte : Nat
  deriving Repr, BEq, Inhabited

/-- The start of a file. -/
def Pos.origin : Pos := ⟨1, 1, 0⟩

/-- A position moved over `bytes` bytes and `columns` columns on the same line. -/
def Pos.advance (pos : Pos) (bytes columns : Nat) : Pos :=
  { pos with byte := pos.byte + bytes, column := pos.column + columns }

/-- A stretch of a source file. -/
structure Range where
  file : String
  start : Pos
  stop : Pos
  deriving Repr, BEq, Inhabited

namespace Range

/-- The empty range at a position. -/
def point (file : String) (pos : Pos) : Range := ⟨file, pos, pos⟩

/-- From the start of one range to the end of another. -/
def between (first last : Range) : Range := ⟨first.file, first.start, last.stop⟩

def text (range : Range) : String :=
  if range.start.line = range.stop.line then
    range.file ++ ":" ++ toString range.start.line ++ "," ++ toString range.start.column ++ "-" ++
      toString range.stop.column
  else
    range.file ++ ":" ++ toString range.start.line ++ "," ++ toString range.start.column ++ "-" ++
      toString range.stop.line ++ "," ++ toString range.stop.column

end Range

/-- One problem found in a source file. -/
structure Diagnostic where
  summary : String
  detail : String
  subject : Range
  deriving Repr, Inhabited

namespace Diagnostic

def text (diagnostic : Diagnostic) : String :=
  diagnostic.subject.text ++ ": " ++ diagnostic.summary ++ "; " ++ diagnostic.detail

end Diagnostic

/-- The report of a list of diagnostics: the first one and how many others there are. -/
def diagnosticsText : List Diagnostic → String
  | [] => "no diagnostics"
  | [one] => one.text
  | first :: rest =>
    first.text ++ ", and " ++ toString rest.length ++ " other diagnostic(s)"

end Alembic.Table
