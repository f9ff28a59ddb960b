import Alembic.Table.Native.Syntax
import Alembic.Text.Grapheme
import Alembic.Text.Printable
import Alembic.Text.Composed
/-! # Templates of the native table syntax -/

namespace Alembic.Table.Native

/-- The markers that close a part of a directive. -/
inductive Marker where
  | otherwise
  | endIf
  | endFor
  deriving BEq, DecidableEq, Repr

/-- How a marker is written. -/
def Marker.name : Marker → String
  | .otherwise => "else"
  | .endIf => "endif"
  | .endFor => "endfor"

/-- One part of a template as read. -/
inductive Part where
  | literal (text : String) (range : Range)
  | interpolation (expr : Expr) (range : Range)
  | ifOpen (condition : Expr) (range : Range)
  | forOpen (keyVar : Option String) (valueVar : String) (collection : Expr) (range : Range)
  | marker (which : Marker) (range : Range)
  | finish (range : Range)
  deriving Inhabited

/-- The number of grapheme clusters in some bytes. -/
def clusterCount : Nat → List UInt8 → Nat
  | 0, _ => 0
  | _ + 1, [] => 0
  | fuel + 1, bytes => 1 + clusterCount fuel (bytes.drop (max (Text.clusterWidth bytes) 1))

/-- The bytes taken by the first `count` grapheme clusters. -/
def clusterBytes : Nat → List UInt8 → Nat
  | 0, _ => 0
  | _ + 1, [] => 0
  | count + 1, bytes =>
    let width := max (Text.clusterWidth bytes) 1
    width + clusterBytes count (bytes.drop width)

/-- The leading white space of a text, in grapheme clusters, unless the text is a blank line. -/
def indentation (text : String) : Option Nat :=
  let leading := text.toList.takeWhile Text.isSpace
  if leading.length = text.length ∧ text.endsWith "\n" then none
  else
    let bytes := (String.ofList leading).toUTF8.toList
    some (clusterCount bytes.length bytes)

/-- For each part, whether it starts a line, and the least indentation of the lines. -/
def lineStarts : List Part → Bool → List Bool × Option Nat
  | [], _ => ([], none)
  | part :: rest, atLineStart =>
    match part with
    | .finish _ => if atLineStart then ([false], none) else ([false], none)
    | _ =>
      let endsLine := match part with
        | .literal text _ => text.endsWith "\n"
        | _ => false
      let (marks, least) := lineStarts rest endsLine
      let mine : Option Nat :=
        if !atLineStart then none
        else match part with
          | .literal text _ => indentation text
          | _ => some 0
      let adjusts := atLineStart && (match part with
        | .literal text _ => (indentation text).isSome
        | _ => false)
      let least := match mine, least with
        | some a, some b => some (min a b)
        | some a, none => some a
        | none, b => b
      (adjusts :: marks, least)

/-- Takes the shared indentation off the lines of a heredoc opened with `<<-`. -/
def flushIndentation (parts : List Part) : List Part :=
  let (marks, least) := lineStarts parts true
  match least with
  | none => parts
  | some count =>
    (parts.zip (marks ++ List.replicate parts.length false)).map fun (part, adjust) =>
      match part with
      | .literal text range =>
        if adjust then
          let bytes := text.toUTF8.toList
          let cut := clusterBytes count bytes
          .literal (Text.decodeLossy ⟨(bytes.drop cut).toArray⟩)
            { range with start := { range.start with column := range.start.column + count,
                                                      byte := range.start.byte + cut } }
        else part
      | _ => part

/-- Joins literal parts that follow each other. -/
def joinLiterals : List Part → List Part
  | [] => []
  | part :: rest =>
    match part, joinLiterals rest with
    | .literal text range, .literal more moreRange :: others =>
      .literal (text ++ more) { range with stop := moreRange.stop } :: others
    | _, joined => part :: joined

def placeholder (range : Range) : Expr := .invalid range

/-- An empty literal at a position. -/
def emptyLiteral (file : String) (pos : Pos) : Expr := .literal (.string "") (Range.point file pos)

/-- A template of parts, spanning them. -/
def templateOf (parts : List Expr) : Expr :=
  match parts.head?, parts.getLast? with
  | some first, some last => .template parts (Range.between first.range last.range)
  | _, _ => .template parts default

mutual

/-- Reads one expression from the parts. -/
def partExpr : Nat → List Part → Expr × List Diagnostic × List Part
  | 0, parts => (placeholder default, [], parts)
  | fuel + 1, parts =>
    match parts with
    | [] => (placeholder default, [], [])
    | .literal text range :: rest => (.literal (.string (Text.toNFC text)) range, [], rest)
    | .interpolation expr _ :: rest => (expr, [], rest)
    | .ifOpen condition range :: rest => directiveIf fuel condition range rest
    | .forOpen keyVar valueVar collection range :: rest =>
      directiveFor fuel keyVar valueVar collection range rest
    | .finish range :: rest =>
      (placeholder range, [⟨"Unexpected end of template",
        "The control directives within this template are unbalanced.", range⟩], rest)
    | .marker which range :: rest =>
      (placeholder range, [⟨"Unexpected " ++ which.name ++ " directive",
        "The control directives within this template are unbalanced.", range⟩], rest)

/-- Reads the expressions of a directive's body up to a marker or the end: the expressions,
the problems, and the marker with its range (none at the end). -/
def directiveBody : Nat → List Part → List Expr × List Diagnostic × Option (Marker × Range) ×
    List Part
  | 0, parts => ([], [], none, parts)
  | fuel + 1, parts =>
    match parts with
    | .finish _ :: _ => ([], [], none, parts)
    | [] => ([], [], none, [])
    | .marker which range :: rest => ([], [], some (which, range), rest)
    | _ =>
      let (expr, diagnostics, rest) := partExpr fuel parts
      let (exprs, more, found, after) := directiveBody fuel rest
      (expr :: exprs, diagnostics ++ more, found, after)

/-- An `if` directive, after its opener. -/
def directiveIf : Nat → Expr → Range → List Part → Expr × List Diagnostic × List Part
  | 0, _, range, parts => (placeholder range, [], parts)
  | fuel + 1, condition, openRange, parts =>
    let missing (rest : List Part) (diagnostics : List Diagnostic) :=
      match rest with
      | .finish endRange :: _ =>
        (placeholder endRange, diagnostics ++ [⟨"Unexpected end of template",
          "The if directive at " ++ openRange.text ++ " is missing its corresponding endif directive.",
          endRange⟩], rest)
      | _ => (placeholder openRange, diagnostics, rest)
    let (whenTrue, diagnostics, found, rest) := directiveBody fuel parts
    match found with
    | none => missing rest diagnostics
    | some (.endFor, range) =>
      (placeholder range, diagnostics ++ [⟨"Unexpected endfor directive",
        "Expecting an endif directive for the if started at " ++ openRange.text ++ ".", range⟩], rest)
    | some (.endIf, endRange) =>
      let whenTrue := if whenTrue.isEmpty then [emptyLiteral openRange.file openRange.stop] else whenTrue
      (.conditional condition (templateOf whenTrue) (templateOf [emptyLiteral endRange.file endRange.start])
        (Range.between openRange endRange), diagnostics, rest)
    | some (.otherwise, _) =>
      let (whenFalse, more, found, rest) := directiveBody fuel rest
      let diagnostics := diagnostics ++ more
      match found with
      | none => missing rest diagnostics
      | some (.endIf, endRange) =>
        let whenTrue := if whenTrue.isEmpty then [emptyLiteral openRange.file openRange.stop] else whenTrue
        let whenFalse := if whenFalse.isEmpty then [emptyLiteral endRange.file endRange.start] else whenFalse
        (.conditional condition (templateOf whenTrue) (templateOf whenFalse)
          (Range.between openRange endRange), diagnostics, rest)
      | some (.otherwise, range) =>
        (placeholder range, diagnostics ++ [⟨"Unexpected else directive",
          "Already in the else clause for the if started at " ++ openRange.text ++ ".", range⟩], rest)
      | some (.endFor, range) =>
        (placeholder range, diagnostics ++ [⟨"Unexpected endfor directive",
          "Expecting an endif directive for the if started at " ++ openRange.text ++ ".", range⟩], rest)

/-- A `for` directive, after its opener. -/
def directiveFor : Nat → Option String → String → Expr → Range → List Part →
    Expr × List Diagnostic × List Part
  | 0, _, _, _, range, parts => (placeholder range, [], parts)
  | fuel + 1, keyVar, valueVar, collection, openRange, parts =>
    let (body, diagnostics, found, rest) := directiveBody fuel parts
    match found with
    | none =>
      match rest with
      | .finish endRange :: _ =>
        (placeholder endRange, diagnostics ++ [⟨"Unexpected end of template",
          "The for directive at " ++ openRange.text ++ " is missing its corresponding endfor directive.",
          endRange⟩], rest)
      | _ => (placeholder openRange, diagnostics, rest)
    | some (.otherwise, range) =>
      (placeholder range, diagnostics ++ [⟨"Unexpected else directive",
        "An else clause is not expected for a for directive.", range⟩], rest)
    | some (.endIf, range) =>
      (placeholder range, diagnostics ++ [⟨"Unexpected endif directive",
        "Expecting an endfor directive corresponding to the for directive at " ++ openRange.text ++ ".",
        range⟩], rest)
    | some (.endFor, endRange) =>
      let body := if body.isEmpty then [emptyLiteral openRange.file openRange.stop] else body
      (.join (.loop keyVar valueVar collection none (templateOf body) none false
        (Range.between openRange endRange)), diagnostics, rest)

end

/-- The expressions of a template's parts, up to the end part. -/
def rootExprs : Nat → List Part → List Expr × List Diagnostic
  | 0, _ => ([], [])
  | _ + 1, [] => ([], [])
  | _ + 1, .finish _ :: _ => ([], [])
  | fuel + 1, parts =>
    let (expr, diagnostics, rest) := partExpr (parts.length + 1) parts
    let (exprs, more) := rootExprs fuel rest
    (expr :: exprs, diagnostics ++ more)

end Alembic.Table.Native
