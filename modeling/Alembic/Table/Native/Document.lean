import Alembic.Table.Native.Parser
/-! # Native table documents -/

namespace Alembic.Table.Native

/-- What a body item turned out to be. -/
inductive Item where
  | assignment (found : Attribute)
  | block (found : Block)
  | nothing

/-- The problems with a document's tokens, each kind reported up to its own limit. -/
structure Told where
  bitwise : Nat := 0
  backtick : Nat := 0
  apostrophe : Nat := 0
  semicolon : Nat := 0
  badUtf8 : Nat := 0

def invalidCharacter (detail : String) (subject : Range) : Diagnostic :=
  diagnostic "Invalid character" detail subject

/-- The problems of one token, given what was told before. -/
def tokenProblems (told : Told) (token : Token) : Told × List Diagnostic :=
  match token.kind with
  | .bitwiseAnd | .bitwiseOr | .bitwiseXor | .bitwiseNot =>
    if told.bitwise < 4 then
      let suggestion := match token.kind with
        | .bitwiseAnd => " Did you mean boolean AND (\"&&\")?"
        | .bitwiseOr => " Did you mean boolean OR (\"||\")?"
        | .bitwiseNot => " Did you mean boolean NOT (\"!\")?"
        | _ => ""
      ({ told with bitwise := told.bitwise + 1 },
        [diagnostic "Unsupported operator" ("Bitwise operators are not supported." ++ suggestion)
          token.range])
    else (told, [])
  | .backtick =>
    let problems := if told.backtick % 2 = 0 then
      [invalidCharacter
        "The \"\x60\" character is not valid. To create a multi-line string, use the \"heredoc\" syntax, like \"<<EOT\"."
        token.range]
      else []
    ({ told with backtick := if told.backtick ≤ 2 then told.backtick + 1 else told.backtick }, problems)
  | .apostrophe =>
    let problems := if told.apostrophe % 2 = 0 then
      [invalidCharacter "Single quotes are not valid. Use double quotes (\") to enclose strings."
        token.range]
      else []
    ({ told with apostrophe := if told.apostrophe ≤ 2 then told.apostrophe + 1 else told.apostrophe },
      problems)
  | .semicolon =>
    if told.semicolon < 1 then
      ({ told with semicolon := 1 },
        [invalidCharacter
          "The \";\" character is not valid. Use newlines to separate arguments and blocks, and commas to separate items in collection values."
          token.range])
    else (told, [])
  | .badUtf8 =>
    if told.badUtf8 < 1 then
      ({ told with badUtf8 := 1 },
        [diagnostic "Invalid character encoding"
          "All input files must be UTF-8 encoded. Ensure that UTF-8 encoding is selected in your editor."
          token.range])
    else (told, [])
  | .quotedNewline =>
    (told, [diagnostic "Invalid multi-line string"
      "Quoted strings may not be split over multiple lines. To produce a multi-line string, either use the \\n escape to represent a newline character or use the \"heredoc\" multi-line template syntax."
      token.range])
  | .invalid =>
    if token.text = "“" ∨ token.text = "”" then
      (told, [invalidCharacter
        "\"Curly quotes\" are not valid here. These can sometimes be inadvertently introduced when sharing code via documents or discussion forums. It might help to replace the character with a \"straight quote\"."
        token.range])
    else (told, [invalidCharacter "This character is not used within the language." token.range])
  | _ => (told, [])

/-- The problems with a document's tokens. -/
def lexicalDiagnostics (tokens : List Token) : List Diagnostic :=
  (tokens.foldl (fun (state : Told × List Diagnostic) token =>
    let (told, problems) := tokenProblems state.1 token
    (told, state.2 ++ problems)) ({}, [])).2

/-- The fuel for reading expressions from a token sequence. -/
def fuelFor (tokens : Array Token) : Nat := 16 * (tokens.size + 4)

/-- Reads a quoted block label. -/
def quotedLabelLoop (opener : Token) : Nat → List Diagnostic → ParseM (List Diagnostic)
  | 0, diags => return diags
  | fuel + 1, diags => do
    let token ← read
    match token.kind with
    | .quoteClose => return diags
    | .quotedLiteral => quotedLabelLoop opener fuel (diags ++ (literalText token).2)
    | .control | .interpolation =>
      let which := if token.kind == .control then "%" else "$"
      let problem := diagnostic "Invalid string literal"
        ("Template sequences are not allowed in this string. To include a literal " ++ Text.quote which ++
          ", double it (as \"" ++ which ++ which ++ "\") to escape it.") token.range
      let _ ← recover .sequenceEnd
      quotedLabelLoop opener fuel (diags ++ [problem])
    | .eof =>
      return diags ++ [diagnostic "Unterminated string literal"
        "Unable to find the closing quote mark before the end of the file." token.range]
    | _ =>
      let problem := diagnostic "Invalid string literal" "This item is not valid in a string literal."
        token.range
      let _ ← recover .quoteClose
      return diags ++ [problem]

mutual

/-- Reads body items up to the `stop` token. -/
def bodyItems : Nat → Nat → TokenKind → List Attribute → List Block → List Diagnostic →
    ParseM (Body × List Diagnostic)
  | 0, _, _, attributes, blocks, diags => return (⟨attributes, blocks⟩, diags)
  | fuel + 1, exprFuel, stop, attributes, blocks, diags => do
    let next ← peek
    if next.kind == stop then
      let _ ← read
      return (⟨attributes, blocks⟩, diags)
    match next.kind with
    | .newline =>
      let _ ← read
      bodyItems fuel exprFuel stop attributes blocks diags
    | .ident =>
      let (item, itemDiags) ← bodyItem fuel exprFuel
      let diags := diags ++ itemDiags
      match item with
      | .assignment found =>
        match attributes.find? fun existing => existing.name == found.name with
        | some existing =>
          bodyItems fuel exprFuel stop attributes blocks (diags ++ [diagnostic "Attribute redefined"
            ("The argument " ++ Text.quote found.name ++ " was already set at " ++
              existing.nameRange.text ++ ". Each argument may be set only once.") found.nameRange])
        | none => bodyItems fuel exprFuel stop (attributes ++ [found]) blocks diags
      | .block found => bodyItems fuel exprFuel stop attributes (blocks ++ [found]) diags
      | .nothing => bodyItems fuel exprFuel stop attributes blocks diags
    | _ =>
      let bad ← read
      let problems := if (← inRecovery) then [] else
        match bad.kind with
        | .quoteOpen => [diagnostic "Invalid argument name" "Argument names must not be quoted." bad.range]
        | .eof =>
          [diagnostic "Unclosed configuration block"
            "There is no closing brace for this block before the end of the file. This may be caused by incorrect brace nesting elsewhere in this file."
            bad.range]
        | _ =>
          [diagnostic "Argument or block definition required"
            "An argument or block definition is required here." bad.range]
      let _ ← recover stop
      return (⟨attributes, blocks⟩, diags ++ problems)

/-- Reads one body item, which starts with an identifier. -/
def bodyItem : Nat → Nat → ParseM (Item × List Diagnostic)
  | 0, _ => return (.nothing, [])
  | fuel + 1, exprFuel => do
    let name ← read
    let next ← peek
    match next.kind with
    | .equals => finishAttribute exprFuel name false
    | .quoteOpen | .braceOpen | .ident => finishBlock fuel exprFuel name
    | _ =>
      recoverAfterBodyItem
      return (.nothing, [diagnostic "Argument or block definition required"
        "An argument or block definition is required here. To set an argument, use the equals sign \"=\" to introduce the argument value."
        name.range])

/-- Reads an attribute after its name. -/
def finishAttribute : Nat → Token → Bool → ParseM (Item × List Diagnostic)
  | exprFuel, name, singleLine => do
    let _ ← read
    let (expr, diags) ← parseExpression exprFuel
    let assigned : Attribute := ⟨name.text, expr, name.range⟩
    if (← inRecovery) && !diags.isEmpty then
      recoverAfterBodyItem
      return (.assignment assigned, diags)
    if singleLine then return (.assignment assigned, diags)
    let stop ← peek
    if stop.kind != .newline && stop.kind != .eof then
      let problems := if (← inRecovery) then [] else
        if stop.kind == .comma then
          [diagnostic "Unexpected comma after argument"
            "Argument definitions must be separated by newlines, not commas. An argument definition must end with a newline."
            stop.range]
        else
          [diagnostic "Missing newline after argument" "An argument definition must end with a newline."
            stop.range]
      recoverAfterBodyItem
      return (.assignment assigned, diags ++ problems)
    let _ ← read
    return (.assignment assigned, diags)

/-- Reads a block after its type. -/
def finishBlock : Nat → Nat → Token → ParseM (Item × List Diagnostic)
  | 0, _, name => return (.block ⟨name.text, name.range⟩, [])
  | fuel + 1, exprFuel, name => do
    let block : Block := ⟨name.text, name.range⟩
    let (opened, labelDiags) ← blockLabels fuel []
    if !opened then
      recoverAfterBodyItem
      return (.block block, labelDiags)
    let next ← peek
    let (_, bodyDiags) ← do
      match next.kind with
      | .newline | .eof | .braceClose => bodyItems fuel exprFuel .braceClose [] [] []
      | _ => singleAttributeBody exprFuel
    let diags := labelDiags ++ bodyDiags
    let lineEnd ← peek
    if lineEnd.kind == .newline || lineEnd.kind == .eof then
      let _ ← read
      return (.block block, diags)
    let problems := if (← inRecovery) then [] else
      [diagnostic "Missing newline after block definition" "A block definition must end with a newline."
        lineEnd.range]
    recoverAfterBodyItem
    return (.block block, diags ++ problems)

/-- Reads the labels of a block up to its opening brace; false when something else comes. -/
def blockLabels : Nat → List Diagnostic → ParseM (Bool × List Diagnostic)
  | 0, diags => return (false, diags)
  | fuel + 1, diags => do
    let token ← peek
    match token.kind with
    | .braceOpen =>
      let _ ← read
      return (true, diags)
    | .quoteOpen =>
      let opener ← read
      let labelDiags ← quotedLabelLoop opener (← tokenBound) []
      blockLabels fuel (diags ++ labelDiags)
    | .ident =>
      let _ ← read
      blockLabels fuel diags
    | .equals =>
      return (false, diags ++ [diagnostic "Invalid block definition"
        "The equals sign \"=\" indicates an argument definition, and must not be used when defining a block."
        token.range])
    | .newline =>
      return (false, diags ++ [diagnostic "Invalid block definition"
        "A block definition must have block content delimited by \"\x7b\" and \"\x7d\", starting on the same line as the block header."
        token.range])
    | _ =>
      let problems := if (← inRecovery) then [] else
        [diagnostic "Invalid block definition"
          "Either a quoted string block label or an opening brace (\"\x7b\") is expected here." token.range]
      return (false, diags ++ problems)

/-- Reads the body of a block written on one line: one attribute, then the closing brace. -/
def singleAttributeBody : Nat → ParseM (Body × List Diagnostic)
  | exprFuel => do
    let name ← read
    if name.kind != .ident then
      recoverAfterBodyItem
      return (⟨[], []⟩, [diagnostic "Argument or block definition required"
        "An argument or block definition is required here." name.range])
    let next ← peek
    match next.kind with
    | .equals =>
      let (item, diags) ← finishAttribute exprFuel name true
      let close ← peek
      let attributes := match item with
        | .assignment found => [found]
        | _ => []
      if close.kind == .braceClose then
        let _ ← read
        return (⟨attributes, []⟩, diags)
      let problems := if (← inRecovery) then [] else
        [diagnostic "Invalid single-argument block definition"
          "A single-line block definition must end with a closing brace immediately after its single argument definition."
          close.range]
      recoverAfterBodyItem
      return (⟨attributes, []⟩, diags ++ problems)
    | .quoteOpen | .braceOpen | .ident =>
      recoverAfterBodyItem
      return (⟨[], []⟩, [diagnostic "Argument definition required"
        ("A single-line block definition can contain only a single argument. If you meant to define argument " ++
          Text.quote name.text ++
          ", use an equals sign to assign it a value. To define a nested block, place it on a line of its own within its parent block.")
        (Range.between name.range next.range)])
    | _ =>
      recoverAfterBodyItem
      return (⟨[], []⟩, [diagnostic "Argument or block definition required"
        "An argument or block definition is required here. To set an argument, use the equals sign \"=\" to introduce the argument value."
        name.range])

end

/-- Reads a document: its body and every problem found. -/
def parseDocument (file : String) (bytes : List UInt8) : Body × List Diagnostic :=
  let tokens := scan file bytes
  let start : Parser := { tokens, next := 0, newlines := [true], recovery := false }
  let ((body, diags), _) :=
    (bodyItems (tokens.size + 1) (fuelFor tokens) .eof [] [] []).run start
  (body, lexicalDiagnostics tokens.toList ++ diags)

/-- The attributes of a body, and the report of its first block if it has any. -/
def justAttributes (body : Body) : List (String × Expr) × List Diagnostic :=
  let problems := match body.blocks with
    | first :: _ =>
      [diagnostic ("Unexpected " ++ Text.quote first.type ++ " block") "Blocks are not allowed here."
        first.typeRange]
    | [] => []
  (body.attributes.map fun found => (found.name, found.expr), problems)

end Alembic.Table.Native
