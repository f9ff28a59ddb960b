import Alembic.Table.Native.Scanner
import Alembic.Table.Native.Literal
import Alembic.Table.Native.Template
import Alembic.Table.Json.Literals
/-! # Reading native table source -/

namespace Alembic.Table.Native

/-- The state of the reader. -/
structure Parser where
  tokens : Array Token
  next : Nat
  /-- Whether line breaks are tokens, innermost setting first. -/
  newlines : List Bool
  recovery : Bool

abbrev ParseM := StateM Parser

namespace Parser

def including (p : Parser) : Bool := p.newlines.headD true

def lastToken (p : Parser) : Token := p.tokens.back?.getD default

/-- The next token from an index on, skipping comments and, when they do not count, line
breaks; a line comment that ends a line stands for the line break. -/
def nextFrom (p : Parser) : Nat → Nat → Token × Nat
  | 0, _ => (p.lastToken, p.tokens.size)
  | fuel + 1, index =>
    match p.tokens[index]? with
    | none => (p.lastToken, p.tokens.size)
    | some token =>
      match token.kind with
      | .comment =>
        if p.including ∧ token.bytes.getLast? = some 10 then (⟨.newline, [10], token.range⟩, index + 1)
        else p.nextFrom fuel (index + 1)
      | .newline => if p.including then (token, index + 1) else p.nextFrom fuel (index + 1)
      | _ => (token, index + 1)

def nextToken (p : Parser) : Token × Nat := p.nextFrom (p.tokens.size + 1) p.next

end Parser

def peek : ParseM Token := do return (← get).nextToken.1

def read : ParseM Token := do
  let p ← get
  let (token, next) := p.nextToken
  set { p with next }
  return token

def nextRange : ParseM Range := do return (← peek).range

def prevRange : ParseM Range := do
  let p ← get
  if p.next = 0 then return p.nextToken.1.range
  else return ((p.tokens[p.next - 1]?).map Token.range).getD default

def pushNewlines (including : Bool) : ParseM Unit :=
  modify fun p => { p with newlines := including :: p.newlines }

def popNewlines : ParseM Unit := modify fun p => { p with newlines := p.newlines.drop 1 }

def inRecovery : ParseM Bool := do return (← get).recovery

def setRecovery : ParseM Unit := modify fun p => { p with recovery := true }

def tokenBound : ParseM Nat := do return (← get).tokens.size + 1

/-- The bracket that pairs with a bracket. -/
def oppositeBracket : TokenKind → Option TokenKind
  | .braceOpen => some .braceClose
  | .bracketOpen => some .bracketClose
  | .parenOpen => some .parenClose
  | .quoteOpen => some .quoteClose
  | .heredocOpen => some .heredocClose
  | .braceClose => some .braceOpen
  | .bracketClose => some .bracketOpen
  | .parenClose => some .parenOpen
  | .quoteClose => some .quoteOpen
  | .heredocClose => some .heredocOpen
  | .control => some .sequenceEnd
  | .interpolation => some .sequenceEnd
  | .sequenceEnd => some .interpolation
  | _ => none

/-- Reads up to and including the `stop` token that closes the current construct, counting
nested pairs. -/
def recoverLoop (start : Option TokenKind) (stop : TokenKind) : Nat → Nat → ParseM Token
  | 0, _ => read
  | fuel + 1, nest => do
    let token ← read
    let kind := if stop == .sequenceEnd ∧ token.kind == .control then .interpolation else token.kind
    if some kind == start then recoverLoop start stop fuel (nest + 1)
    else if kind == stop then
      if nest < 1 then return token else recoverLoop start stop fuel (nest - 1)
    else if kind == .eof then return token
    else recoverLoop start stop fuel nest

def recover (stop : TokenKind) : ParseM Token := do
  setRecovery
  recoverLoop (oppositeBracket stop) stop (← tokenBound) 0

/-- Reads up to an opening bracket, then past the construct it opens. -/
def recoverOver (start : TokenKind) : ParseM Unit := do
  let rec seek : Nat → ParseM Unit
    | 0 => pure ()
    | fuel + 1 => do
      let token ← read
      if token.kind == start ∨ token.kind == .eof then pure () else seek fuel
  seek (← tokenBound)
  match oppositeBracket start with
  | some stop => let _ ← recover stop
  | none => pure ()

/-- Reads to the end of the current body item: the next line break outside brackets. -/
def afterItemLoop : Nat → List TokenKind → ParseM Unit
  | 0, _ => pure ()
  | fuel + 1, opened => do
    let token ← read
    match token.kind with
    | .newline => if opened.isEmpty then pure () else afterItemLoop fuel opened
    | .eof => pure ()
    | .braceOpen | .bracketOpen | .parenOpen | .quoteOpen | .heredocOpen | .interpolation
    | .control => afterItemLoop fuel (token.kind :: opened)
    | .braceClose | .bracketClose | .parenClose | .quoteClose | .heredocClose =>
      let opener := oppositeBracket token.kind
      afterItemLoop fuel ((opened.dropWhile fun kind => some kind != opener).drop 1)
    | .sequenceEnd =>
      afterItemLoop fuel
        ((opened.dropWhile fun kind => kind != .interpolation ∧ kind != .control).drop 1)
    | _ => afterItemLoop fuel opened

def recoverAfterBodyItem : ParseM Unit := do
  setRecovery
  afterItemLoop (← tokenBound) []

/-- Whether a token is the identifier `word`. -/
def Token.isWord (token : Token) (word : String) : Bool :=
  token.kind == .ident && token.text == word

/-- The nearest of some names to a given one, when it is fewer than three edits away. -/
def nameSuggestion (given : String) (names : List String) : Option String :=
  names.find? fun name => Json.editDistance given.toList name.toList < 3

/-- The operator a token is at a precedence level. -/
def operatorAt : Nat → TokenKind → Option BinaryOp
  | 0, .logicalOr => some .or
  | 1, .logicalAnd => some .and
  | 2, .equalOp => some .equal
  | 2, .notEqual => some .notEqual
  | 3, .greater => some .greater
  | 3, .greaterEq => some .greaterEq
  | 3, .less => some .less
  | 3, .lessEq => some .lessEq
  | 4, .plus => some .add
  | 4, .minus => some .subtract
  | 5, .star => some .multiply
  | 5, .slash => some .divide
  | 5, .percent => some .modulo
  | _, _ => none

/-- Adds a step to a traversal, or starts one after an expression. -/
def makeRelative (expr : Expr) (step : Step) (range : Range) : Expr :=
  match expr with
  | .scope root rootRange steps whole => .scope root rootRange (steps ++ [step]) (Range.between whole range)
  | .relative source steps whole => .relative source (steps ++ [step]) (Range.between whole range)
  | other => .relative other [step] (Range.between other.range range)

/-- The constant an index key is, when it is a literal or a template of one literal. -/
def staticKey : Expr → Option Value
  | .literal value _ => some value
  | .template [.literal value _] _ => some value
  | _ => none

def diagnostic (summary detail : String) (subject : Range) : Diagnostic := ⟨summary, detail, subject⟩

/-- The report of a legacy index like `.0.1`, which reads as one number. -/
def legacyChain (number : Token) (subject : Range) : Option Diagnostic :=
  match number.bytes.findIdx? (· = 46) with
  | some point =>
    let part (bytes : List UInt8) : String := Text.decodeLossy ⟨bytes.toArray⟩
    some (diagnostic "Invalid legacy index syntax"
      ("When using the legacy index syntax, chaining two indexes together is not permitted. " ++
        "Use the proper index syntax instead, like [" ++ part (number.bytes.take point) ++ "][" ++
        part (number.bytes.drop (point + 1)) ++ "].") subject)
  | none => none

/-- The steps of an attribute-only splat (`.*`) after its star; `none` when a step is not an
attribute name or a number. -/
def attributeSplatSteps (star : Token) : Nat → List Step → Range →
    ParseM (Option (List Step × Range) × List Diagnostic)
  | 0, steps, last => return (some (steps, last), [])
  | fuel + 1, steps, last => do
    if (← peek).kind != .dot then return (some (steps, last), [])
    let dot ← read
    let next ← peek
    if next.kind == .number then
      let number ← read
      let range := Range.between dot.range number.range
      match legacyChain number star.range with
      | some problem =>
        let (result, more) ← attributeSplatSteps star fuel (steps ++ [.index (.unknown .dynamic) range])
          number.range
        return (result, problem :: more)
      | none =>
        let (key, keyProblems) := numberValue number
        let (result, more) ← attributeSplatSteps star fuel (steps ++ [.index key range]) number.range
        return (result, keyProblems ++ more)
    else if next.kind != .ident then
      let problems :=
        if (← inRecovery) then []
        else if next.kind == .star then
          [diagnostic "Nested splat expression not allowed"
            "A splat expression (*) cannot be used inside another attribute-only splat expression."
            next.range]
        else [diagnostic "Invalid attribute name" "An attribute name is required after a dot." star.range]
      setRecovery
      return (none, problems)
    else
      let name ← read
      attributeSplatSteps star fuel (steps ++ [.attr name.text (Range.between dot.range name.range)])
        name.range

/-- Takes trailing white space off the last literal part. -/
def trimLastLiteral (parts : List Part) : List Part :=
  match parts.getLast? with
  | some (.literal text range) =>
    parts.dropLast ++ [.literal (String.ofList (text.toList.reverse.dropWhile Text.isSpace).reverse) range]
  | _ => parts

def trimLeading (text : String) : String := String.ofList (text.toList.dropWhile Text.isSpace)

def forError (detail : String) (subject : Range) : Diagnostic :=
  diagnostic "Invalid 'for' expression" detail subject

def directiveError (detail : String) (subject : Range) : Diagnostic :=
  diagnostic "Invalid 'for' directive" detail subject

mutual

def parseExpression : Nat → ParseM (Expr × List Diagnostic)
  | 0 => do return (.invalid (← nextRange), [])
  | fuel + 1 => parseTernary fuel

def parseTernary : Nat → ParseM (Expr × List Diagnostic)
  | 0 => do return (.invalid (← nextRange), [])
  | fuel + 1 => do
    let startRange ← nextRange
    let (condition, conditionDiags) ← parseBinary fuel 0
    if (← inRecovery) && !conditionDiags.isEmpty then return (condition, conditionDiags)
    let question ← peek
    if question.kind != .question then return (condition, conditionDiags)
    let _ ← read
    let (onTrue, trueDiags) ← parseExpression fuel
    let diags := conditionDiags ++ trueDiags
    if (← inRecovery) && !trueDiags.isEmpty then return (condition, diags)
    let colon ← peek
    if colon.kind != .colon then
      return (condition, diags ++ [diagnostic "Missing false expression in conditional"
        "The conditional operator (...?...:...) requires a false expression, delimited by a colon."
        colon.range])
    let _ ← read
    let (onFalse, falseDiags) ← parseExpression fuel
    let diags := diags ++ falseDiags
    if (← inRecovery) && !falseDiags.isEmpty then return (condition, diags)
    return (.conditional condition onTrue onFalse (Range.between startRange onFalse.range), diags)

def parseBinary : Nat → Nat → ParseM (Expr × List Diagnostic)
  | 0, _ => do return (.invalid (← nextRange), [])
  | fuel + 1, level => do
    if level ≥ 6 then parseWithTraversals fuel
    else
      let (lhs, lhsDiags) ← parseBinary fuel (level + 1)
      if (← inRecovery) && !lhsDiags.isEmpty then return (lhs, lhsDiags)
      binaryRest fuel level lhs none lhsDiags

def binaryRest : Nat → Nat → Expr → Option (BinaryOp × Expr) → List Diagnostic →
    ParseM (Expr × List Diagnostic)
  | 0, _, lhs, _, diags => return (lhs, diags)
  | fuel + 1, level, lhs, pending, diags => do
    let next ← peek
    match operatorAt level next.kind with
    | none =>
      match pending with
      | none => return (lhs, diags)
      | some (op, rhs) => return (.binary op lhs rhs (Range.between lhs.range rhs.range), diags)
    | some op =>
      let lhs := match pending with
        | some (previous, rhs) => Expr.binary previous lhs rhs (Range.between lhs.range rhs.range)
        | none => lhs
      let _ ← read
      let (rhs, rhsDiags) ← parseBinary fuel (level + 1)
      let diags := diags ++ rhsDiags
      if (← inRecovery) && !rhsDiags.isEmpty then return (lhs, diags)
      binaryRest fuel level lhs (some (op, rhs)) diags

def parseWithTraversals : Nat → ParseM (Expr × List Diagnostic)
  | 0 => do return (.invalid (← nextRange), [])
  | fuel + 1 => do
    let (term, termDiags) ← parseTerm fuel
    let (result, more) ← traversals fuel term term []
    return (result, termDiags ++ more)

def traversals : Nat → Expr → Expr → List Diagnostic → ParseM (Expr × List Diagnostic)
  | 0, _, current, diags => return (current, diags)
  | fuel + 1, origin, current, diags => do
    let next ← peek
    match next.kind with
    | .dot =>
      let dot ← read
      let afterDot ← peek
      match afterDot.kind with
      | .ident =>
        let name ← read
        let range := Range.between dot.range name.range
        traversals fuel origin (makeRelative current (.attr name.text range) range) diags
      | .number =>
        let number ← read
        let range := Range.between dot.range number.range
        match legacyChain number number.range with
        | some problem =>
          traversals fuel origin (makeRelative current (.index (.unknown .dynamic) range) range)
            (diags ++ [problem])
        | none =>
          let (key, keyDiags) := numberValue number
          traversals fuel origin (makeRelative current (.index key range) range) (diags ++ keyDiags)
      | .star =>
        let marker ← read
        let firstRange ← nextRange
        let (steps?, splatDiags) ← attributeSplatSteps marker (← tokenBound) [] marker.range
        match steps? with
        | none => traversals fuel origin current (diags ++ splatDiags)
        | some (steps, lastRange) =>
          let item := Expr.item (Range.between dot.range marker.range)
          let each := if steps.isEmpty then item
            else .relative item steps (Range.between firstRange lastRange)
          traversals fuel origin (.splat current each (Range.between origin.range lastRange))
            (diags ++ splatDiags)
      | _ =>
        setRecovery
        traversals fuel origin current
          (diags ++ [diagnostic "Invalid attribute name" "An attribute name is required after a dot."
            afterDot.range])
    | .bracketOpen =>
      let opener ← read
      if (← peek).kind == .star then
        let _ ← read
        let close ← read
        let (close, closeDiags) ← do
          if close.kind != .bracketClose && !(← inRecovery) then
            let problem := diagnostic "Missing close bracket on splat index"
              "The star for a full splat operator must be immediately followed by a closing bracket (\"]\")."
              close.range
            pure ((← recover .bracketClose), [problem])
          else pure (close, [])
        let item := Expr.item (Range.between opener.range close.range)
        let (each, nested) ← traversals fuel item item []
        traversals fuel origin (.splat current each (Range.between origin.range each.range))
          (diags ++ closeDiags ++ nested)
      else
        pushNewlines false
        let (key, keyDiags) ← parseExpression fuel
        let (close, closeDiags) ← do
          if (← inRecovery) && !keyDiags.isEmpty then pure ((← recover .bracketClose), [])
          else
            let close ← read
            if close.kind != .bracketClose && !(← inRecovery) then
              let problem := diagnostic "Missing close bracket on index"
                "The index operator must end with a closing bracket (\"]\")." close.range
              pure ((← recover .bracketClose), [problem])
            else pure (close, [])
        popNewlines
        let bracket := Range.between opener.range close.range
        let result := match staticKey key with
          | some value => makeRelative current (.index value bracket) bracket
          | none => .index current key bracket (Range.between origin.range bracket)
        traversals fuel origin result (diags ++ keyDiags ++ closeDiags)
    | _ => return (current, diags)

def parseTerm : Nat → ParseM (Expr × List Diagnostic)
  | 0 => do return (.invalid (← nextRange), [])
  | fuel + 1 => do
    let start ← peek
    match start.kind with
    | .parenOpen =>
      let opener ← read
      pushNewlines false
      let (expr, diags) ← parseExpression fuel
      if !diags.isEmpty then
        let _ ← recover .parenClose
        popNewlines
        return (expr, diags)
      let close ← peek
      let diags ← do
        if close.kind != .parenClose then
          setRecovery
          pure [diagnostic "Unbalanced parentheses"
            "Expected a closing parenthesis to terminate the expression." close.range]
        else pure []
      let closer ← read
      popNewlines
      return (.parens expr (Range.between opener.range closer.range), diags)
    | .number =>
      let token ← read
      let (value, diags) := numberValue token
      return (.literal value token.range, diags)
    | .ident =>
      let token ← read
      let next ← peek
      if next.kind == .parenOpen || next.kind == .doubleColon then finishCall fuel token
      else
        match token.text with
        | "true" => return (.literal (.bool true) token.range, [])
        | "false" => return (.literal (.bool false) token.range, [])
        | "null" => return (.literal (.null .dynamic) token.range, [])
        | name => return (.scope name token.range [] token.range, [])
    | .quoteOpen | .heredocOpen =>
      let opener ← read
      let closer := if start.kind == .quoteOpen then TokenKind.quoteClose else .heredocClose
      let flush := start.kind == .heredocOpen && start.bytes.take 3 == [60, 60, 45]
      let (exprs, passthrough, diags) ← templateInner fuel closer flush
      let closeRange ← prevRange
      let range := Range.between opener.range closeRange
      if passthrough then return (.wrap (exprs.headD (.invalid range)) range, diags)
      else return (.template exprs range, diags)
    | .minus =>
      let token ← read
      let (operand, diags) ← parseWithTraversals fuel
      return (.unary .negate operand (Range.between token.range operand.range), diags)
    | .bang =>
      let token ← read
      let (operand, diags) ← parseWithTraversals fuel
      return (.unary .not operand (Range.between token.range operand.range), diags)
    | .bracketOpen => parseTuple fuel
    | .braceOpen => parseObject fuel
    | _ =>
      let diags :=
        if (← inRecovery) then []
        else if start.kind == .eof then
          [diagnostic "Missing expression"
            "Expected the start of an expression, but found the end of the file." start.range]
        else
          [diagnostic "Invalid expression"
            "Expected the start of an expression, but found an invalid expression token." start.range]
      setRecovery
      return (.invalid start.range, diags)

def templateInner : Nat → TokenKind → Bool → ParseM (List Expr × Bool × List Diagnostic)
  | 0, _, _ => return ([], false, [])
  | fuel + 1, closer, flush => do
    let startRange ← nextRange
    let (parts, endRange, diags) ← templateParts fuel closer [] [] false false
    let parts :=
      if parts.isEmpty then [Part.literal "" (Range.point startRange.file startRange.start)] else parts
    let parts := parts ++ [Part.finish endRange]
    let parts := if flush then flushIndentation parts else parts
    let parts := joinLiterals parts
    let (exprs, more) := rootExprs (parts.length + 1) parts
    let passthrough := match parts with
      | [.interpolation _ _, .finish _] => true
      | _ => false
    return (exprs, passthrough, diags ++ more)

def templateParts : Nat → TokenKind → List Part → List Diagnostic → Bool → Bool →
    ParseM (List Part × Range × List Diagnostic)
  | 0, _, parts, diags, _, _ => do return (parts, (← nextRange), diags)
  | fuel + 1, closer, parts, diags, trimNext, canTrimPrevious => do
    let next ← read
    if next.kind == closer then return (parts, next.range, diags)
    match next.kind with
    | .stringLiteral | .quotedLiteral =>
      let (text, textDiags) := literalText next
      let text := if trimNext then trimLeading text else text
      templateParts fuel closer (parts ++ [.literal text next.range]) (diags ++ textDiags) false true
    | .interpolation =>
      let parts := if canTrimPrevious && next.bytes.length == 3 then trimLastLiteral parts else parts
      pushNewlines false
      let (expr, exprDiags) ← parseExpression fuel
      let close ← peek
      let (closeDiags, trimAfter) ← do
        if close.kind != .sequenceEnd then
          let problems := if (← inRecovery) then [] else
            [diagnostic "Extra characters after interpolation expression"
              ("Expected a closing brace to end the interpolation expression, but found extra characters.\n\n" ++
               "This can happen when you include interpolation syntax for another language, such as shell " ++
               "scripting, but forget to escape the interpolation start token. If this is an embedded " ++
               "sequence for another language, escape it by starting with \"$$\x7b\" instead of just \"$\x7b\".")
              close.range]
          let _ ← recover .sequenceEnd
          pure (problems, false)
        else
          let _ ← read
          pure ([], close.bytes.length == 2 && close.bytes.head? == some 126)
      popNewlines
      templateParts fuel closer (parts ++ [.interpolation expr (Range.between next.range close.range)])
        (diags ++ exprDiags ++ closeDiags) trimAfter false
    | .control =>
      let parts := if canTrimPrevious && next.bytes.length == 3 then trimLastLiteral parts else parts
      pushNewlines false
      let (part?, directiveDiags, finished) ← directive fuel next
      let parts := match part? with
        | some part => parts ++ [part]
        | none => parts
      if !finished then
        popNewlines
        templateParts fuel closer parts (diags ++ directiveDiags) false false
      else
        let keyword := (part?.map fun part => match part with
          | .ifOpen .. => "if"
          | .forOpen .. => "for"
          | .marker which _ => which.name
          | _ => "").getD ""
        let close ← peek
        let (closeDiags, trimAfter) ← do
          if close.kind != .sequenceEnd then
            let problems := if (← inRecovery) then [] else
              [diagnostic ("Extra characters in " ++ keyword ++ " marker")
                "Expected a closing brace to end the sequence, but found extra characters." close.range]
            let _ ← recover .sequenceEnd
            pure (problems, false)
          else
            let _ ← read
            pure ([], close.bytes.length == 2 && close.bytes.head? == some 126)
        popNewlines
        templateParts fuel closer parts (diags ++ directiveDiags ++ closeDiags) trimAfter false
    | _ =>
      let problems := if (← inRecovery) then [] else
        [diagnostic "Unterminated template string" "No closing marker was found for the string."
          next.range]
      let final ← recover closer
      return (parts, final.range, diags ++ problems)

/-- A directive after its `%{`: the part it makes, the problems, and whether it was read to
its end (otherwise the reader has already skipped past the sequence). -/
def directive : Nat → Token → ParseM (Option Part × List Diagnostic × Bool)
  | 0, _ => return (none, [], false)
  | fuel + 1, opener => do
    let keyword ← peek
    if keyword.kind != .ident then
      let problems := if (← inRecovery) then [] else
        [diagnostic "Invalid template directive"
          "A template directive keyword (\"if\", \"for\", etc) is expected at the beginning of a %\x7b sequence."
          keyword.range]
      let _ ← recover .sequenceEnd
      return (none, problems, false)
    let _ ← read
    match keyword.text with
    | "if" =>
      let (condition, diags) ← parseExpression fuel
      return (some (.ifOpen condition (Range.between opener.range (← nextRange))), diags, true)
    | "else" => return (some (.marker .otherwise (Range.between opener.range (← nextRange))), [], true)
    | "endif" => return (some (.marker .endIf (Range.between opener.range (← nextRange))), [], true)
    | "endfor" => return (some (.marker .endFor (Range.between opener.range (← nextRange))), [], true)
    | "for" =>
      let bail (detail : String) : ParseM (Option Part × List Diagnostic × Bool) := do
        let here ← peek
        let problems := if (← inRecovery) then [] else [directiveError detail here.range]
        let _ ← recover .sequenceEnd
        return (none, problems, false)
      if (← peek).kind != .ident then return (← bail "For directive requires variable name after 'for'.")
      let first ← read
      let (keyVar, valueVar, ok) ← do
        if (← peek).kind == .comma then
          let _ ← read
          if (← peek).kind != .ident then pure (none, "", false)
          else
            let second ← read
            pure (some first.text, second.text, true)
        else pure (none, first.text, true)
      if !ok then return (← bail "For directive requires value variable name after comma.")
      if !(← peek).isWord "in" then return (← bail "For directive requires 'in' keyword after names.")
      let _ ← read
      let (collection, diags) ← parseExpression fuel
      return (some (.forOpen keyVar valueVar collection (Range.between opener.range (← nextRange))),
        diags, true)
    | given =>
      let suggestion := match nameSuggestion given ["if", "for", "else", "endif", "endfor"] with
        | some name => " Did you mean " ++ Text.quote name ++ "?"
        | none => ""
      let problems := if (← inRecovery) then [] else
        [diagnostic "Invalid template control keyword"
          (Text.quote given ++ " is not a valid template control keyword." ++ suggestion) keyword.range]
      let _ ← recover .sequenceEnd
      return (none, problems, false)

def parseTuple : Nat → ParseM (Expr × List Diagnostic)
  | 0 => do return (.invalid (← nextRange), [])
  | fuel + 1 => do
    let opener ← read
    pushNewlines false
    if (← peek).isWord "for" then
      let result ← finishFor fuel opener
      popNewlines
      return result
    let (exprs, close, diags) ← tupleItems fuel opener [] []
    popNewlines
    return (.tuple exprs (Range.between opener.range close.range), diags)

def tupleItems : Nat → Token → List Expr → List Diagnostic →
    ParseM (List Expr × Token × List Diagnostic)
  | 0, _, exprs, diags => do return (exprs, (← peek), diags)
  | fuel + 1, opener, exprs, diags => do
    if (← peek).kind == .bracketClose then return (exprs, (← read), diags)
    let (expr, exprDiags) ← parseExpression fuel
    let exprs := exprs ++ [expr]
    let diags := diags ++ exprDiags
    if (← inRecovery) && !exprDiags.isEmpty then return (exprs, (← recover .bracketClose), diags)
    let next ← peek
    if next.kind == .bracketClose then return (exprs, (← read), diags)
    if next.kind != .comma then
      let problems := if (← inRecovery) then []
        else if next.kind == .eof then
          [diagnostic "Unterminated tuple constructor expression"
            "There is no corresponding closing bracket before the end of the file. This may be caused by incorrect bracket nesting elsewhere in this file."
            opener.range]
        else [diagnostic "Missing item separator" "Expected a comma to mark the beginning of the next item."
          next.range]
      return (exprs, (← recover .bracketClose), diags ++ problems)
    let _ ← read
    tupleItems fuel opener exprs diags

def parseObject : Nat → ParseM (Expr × List Diagnostic)
  | 0 => do return (.invalid (← nextRange), [])
  | fuel + 1 => do
    let opener ← read
    pushNewlines false
    let isFor := (← peek).isWord "for"
    popNewlines
    if isFor then return (← finishFor fuel opener)
    pushNewlines true
    let (items, close, diags) ← objectItems fuel opener [] []
    popNewlines
    return (.object items (Range.between opener.range close.range), diags)

def objectItems : Nat → Token → List (Expr × Expr) → List Diagnostic →
    ParseM (List (Expr × Expr) × Token × List Diagnostic)
  | 0, _, items, diags => do return (items, (← peek), diags)
  | fuel + 1, opener, items, diags => do
    let next ← peek
    if next.kind == .newline then
      let _ ← read
      return (← objectItems fuel opener items diags)
    if next.kind == .braceClose then return (items, (← read), diags)
    let forceNonLiteral := next.kind == .parenOpen
    let (key, keyDiags) ← parseExpression fuel
    let diags := diags ++ keyDiags
    if (← inRecovery) && !keyDiags.isEmpty then return (items, (← recover .braceClose), diags)
    let key := Expr.key key forceNonLiteral
    let next ← peek
    if next.kind != .equals && next.kind != .colon then
      let problems := if (← inRecovery) then [] else
        match next.kind with
        | .newline | .comma =>
          [diagnostic "Missing attribute value"
            "Expected an attribute value, introduced by an equals sign (\"=\")." next.range]
        | .ident =>
          [diagnostic "Missing key/value separator"
            "Expected an equals sign (\"=\") to mark the beginning of the attribute value. If you intended to given an attribute name containing periods or spaces, write the name in quotes to create a string literal."
            next.range]
        | .eof =>
          [diagnostic "Unterminated object constructor expression"
            "There is no corresponding closing brace before the end of the file. This may be caused by incorrect brace nesting elsewhere in this file."
            opener.range]
        | _ =>
          [diagnostic "Missing key/value separator"
            "Expected an equals sign (\"=\") to mark the beginning of the attribute value." next.range]
      return (items, (← recover .braceClose), diags ++ problems)
    let _ ← read
    let (value, valueDiags) ← parseExpression fuel
    let diags := diags ++ valueDiags
    if (← inRecovery) && !valueDiags.isEmpty then return (items, (← recover .braceClose), diags)
    let items := items ++ [(key, value)]
    let next ← peek
    if next.kind == .braceClose then return (items, (← read), diags)
    if next.kind != .comma && next.kind != .newline then
      let problems := if (← inRecovery) then []
        else if next.kind == .eof then
          [diagnostic "Unterminated object constructor expression"
            "There is no corresponding closing brace before the end of the file. This may be caused by incorrect brace nesting elsewhere in this file."
            opener.range]
        else
          [diagnostic "Missing attribute separator"
            "Expected a newline or comma to mark the beginning of the next attribute." next.range]
      return (items, (← recover .braceClose), diags ++ problems)
    let _ ← read
    objectItems fuel opener items diags

def finishFor : Nat → Token → ParseM (Expr × List Diagnostic)
  | 0, opener => return (.invalid opener.range, [])
  | fuel + 1, opener => do
    pushNewlines false
    let result ← forBody fuel opener
    popNewlines
    return result

def forBody : Nat → Token → ParseM (Expr × List Diagnostic)
  | 0, opener => return (.invalid opener.range, [])
  | fuel + 1, opener => do
    let _ ← read
    let makeObject := opener.kind == .braceOpen
    let closer := if makeObject then TokenKind.braceClose else .bracketClose
    let bail (diags : List Diagnostic) : ParseM (Expr × List Diagnostic) := do
      let close ← recover closer
      return (.invalid (Range.between opener.range close.range), diags)
    let complain (detail : String) : ParseM (List Diagnostic) := do
      if (← inRecovery) then return [] else return [forError detail (← peek).range]
    if (← peek).kind != .ident then
      return (← bail (← complain "For expression requires variable name after 'for'."))
    let first ← read
    let (keyVar, valueVar, ok) ← do
      if (← peek).kind == .comma then
        let _ ← read
        if (← peek).kind != .ident then pure (none, "", false)
        else
          let second ← read
          pure (some first.text, second.text, true)
      else pure (none, first.text, true)
    if !ok then return (← bail (← complain "For expression requires value variable name after comma."))
    if !(← peek).isWord "in" then
      return (← bail (← complain "For expression requires the 'in' keyword after its name declarations."))
    let _ ← read
    let (collection, collectionDiags) ← parseExpression fuel
    if (← inRecovery) && !collectionDiags.isEmpty then return (← bail collectionDiags)
    if (← peek).kind != .colon then
      return (← bail (collectionDiags ++
        (← complain "For expression requires a colon after the collection expression.")))
    let _ ← read
    let (first, firstDiags) ← parseExpression fuel
    let (keyExpr, keyDiags, valueExpr, valueDiags) ← do
      if (← peek).kind == .fatArrow then
        let _ ← read
        let (value, valueDiags) ← parseExpression fuel
        pure (some first, firstDiags, value, valueDiags)
      else pure (none, [], first, firstDiags)
    let diags := collectionDiags ++ keyDiags ++ valueDiags
    if (← inRecovery) && !(keyDiags.isEmpty && valueDiags.isEmpty) then return (← bail diags)
    let ellipsis? ← do
      if (← peek).kind == .ellipsis then pure (some (← read)) else pure none
    let (condition, diags, failed) ← do
      if (← peek).isWord "if" then
        let _ ← read
        let (condition, conditionDiags) ← parseExpression fuel
        pure (some condition, diags ++ conditionDiags, (← inRecovery) && !conditionDiags.isEmpty)
      else pure (none, diags, false)
    if failed then return (← bail diags)
    let (close, diags) ← do
      if (← peek).kind == closer then pure ((← read), diags)
      else
        let problems ← complain "Extra characters after the end of the 'for' expression."
        pure ((← recover closer), diags ++ problems)
    let shapeDiags :=
      if !makeObject then
        (match keyExpr with
          | some key => [forError "Key expression is not valid when building a tuple." key.range]
          | none => []) ++
        (match ellipsis? with
          | some ellipsis =>
            [forError "Grouping ellipsis (...) cannot be used when building a tuple." ellipsis.range]
          | none => [])
      else if keyExpr.isNone then
        [forError "Key expression is required when building an object." valueExpr.range]
      else []
    return (.loop keyVar valueVar collection keyExpr valueExpr condition ellipsis?.isSome
      (Range.between opener.range close.range), diags ++ shapeDiags)

def finishCall : Nat → Token → ParseM (Expr × List Diagnostic)
  | 0, name => return (.invalid name.range, [])
  | fuel + 1, name => do
    let opener ← read
    match ← qualifiedName fuel name name.text opener with
    | .error failure => return failure
    | .ok (text, opener) =>
      if opener.kind != .parenOpen then
        let problem := diagnostic "Missing open parenthesis"
          "Function selector must be followed by an open parenthesis to begin the function call."
          opener.range
        recoverOver .parenOpen
        return (.invalid (Range.between name.range opener.range), [problem])
      pushNewlines false
      let (args, closeRange, diags) ← callArgs fuel name opener [] []
      popNewlines
      return (.call text args (Range.between name.range closeRange), diags)

def qualifiedName : Nat → Token → String → Token →
    ParseM (Except (Expr × List Diagnostic) (String × Token))
  | 0, _, text, opener => return .ok (text, opener)
  | fuel + 1, name, text, opener => do
    if opener.kind != .doubleColon then return .ok (text, opener)
    let part ← read
    if part.kind != .ident then
      let problem := diagnostic "Missing function name"
        "Function scope resolution symbol :: must be followed by a function name in this scope."
        part.range
      recoverOver .parenOpen
      return .error (.invalid (Range.between name.range part.range), [problem])
    let opener ← read
    qualifiedName fuel name (text ++ "::" ++ part.text) opener

def callArgs : Nat → Token → Token → List Expr → List Diagnostic →
    ParseM (List Expr × Range × List Diagnostic)
  | 0, _, _, args, diags => do return (args, (← nextRange), diags)
  | fuel + 1, name, opener, args, diags => do
    if (← peek).kind == .parenClose then return (args, (← read).range, diags)
    let (arg, argDiags) ← parseExpression fuel
    let args := args ++ [arg]
    let diags := diags ++ argDiags
    if (← inRecovery) && !argDiags.isEmpty then
      let recovered ← recover .parenClose
      return (args, if recovered.kind == .parenClose then recovered.range else default, diags)
    let separator ← read
    if separator.kind == .parenClose then return (args, separator.range, diags)
    if separator.kind == .ellipsis then
      if (← peek).kind != .parenClose then
        let problems := if (← inRecovery) then [] else
          [diagnostic "Missing closing parenthesis"
            "An expanded function argument (with ...) must be immediately followed by closing parentheses."
            separator.range]
        return (args, (← recover .parenClose).range, diags ++ problems)
      return (args, (← read).range, diags)
    if separator.kind != .comma then
      let problem :=
        if separator.kind == .eof then
          diagnostic "Unterminated function call"
            "There is no closing parenthesis for this function call before the end of the file. This may be caused by incorrect parethesis nesting elsewhere in this file."
            (Range.between name.range opener.range)
        else
          diagnostic "Missing argument separator"
            "A comma is required to separate each function argument from the next." separator.range
      return (args, (← recover .parenClose).range, diags ++ [problem])
    if (← peek).kind == .parenClose then return (args, (← read).range, diags)
    callArgs fuel name opener args diags

end

end Alembic.Table.Native
