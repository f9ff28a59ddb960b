import Alembic.Table.Json.Literals
import Alembic.Table.Value
import Alembic.Text.Composed
/-! # Parsing the JSON syntax -/

namespace Alembic.Table.Json

/-- A parsed JSON value with the ranges it came from. -/
inductive Node where
  /-- An object: its properties as name, name range and value, then its braces. -/
  | object (properties : List (String × Range × Node)) (opening closing : Range)
  | array (values : List Node) (opening closing : Range)
  | string (value : String) (range : Range)
  | number (value : Precise) (range : Range)
  | boolean (value : Bool) (range : Range)
  | null (range : Range)
  /-- A value that could not be read. -/
  | invalid (range : Range)
  deriving Inhabited

namespace Node

/-- Where the node is in the source. -/
def range : Node → Range
  | .object _ opening closing => Range.between opening closing
  | .array _ opening closing => Range.between opening closing
  | .string _ range | .number _ range | .boolean _ range | .null range | .invalid range => range

/-- Where the node starts: the opening brace or bracket of a structure. -/
def startRange : Node → Range
  | .object _ opening _ => opening
  | .array _ opening _ => opening
  | node => node.range

end Node

/-- The tokens of a document and how far the parser has read. -/
structure Peeker where
  tokens : Array Token
  position : Nat

namespace Peeker

def peek (peeker : Peeker) : Token :=
  peeker.tokens.getD peeker.position (peeker.tokens.back?.getD default)

/-- The next token, moving past it unless it is the end. -/
def read (peeker : Peeker) : Token × Peeker :=
  let token := peeker.peek
  (token, if token.kind == .eof then peeker else { peeker with position := peeker.position + 1 })

/-- Skips to what seems the end of a structure whose closing token is `closing`, starting from
an already read token. -/
def recover (opening closing : TokenKind) : Nat → Token → Nat → Peeker → Peeker
  | 0, _, _, peeker => peeker
  | fuel + 1, token, depth, peeker =>
    if token.kind == opening then
      let (next, peeker) := peeker.read
      recover opening closing fuel next (depth + 1) peeker
    else if token.kind == closing then
      if depth ≤ 2 then peeker
      else
        let (next, peeker) := peeker.read
        recover opening closing fuel next (depth - 1) peeker
    else if token.kind == .eof then peeker
    else
      let (next, peeker) := peeker.read
      recover opening closing fuel next depth peeker

end Peeker

/-- A diagnostic about a token range. -/
def problem (summary detail : String) (subject : Range) : Diagnostic := ⟨summary, detail, subject⟩

def startsValue : String :=
  "A JSON value must start with a brace, a bracket, a number, a string, or a keyword."

/-- The text of a token's bytes. -/
def tokenText (token : Token) : String := Text.decodeLossy ⟨token.bytes.toArray⟩

/-- Reads a string token. -/
def parseString (token : Token) : Option Node × List Diagnostic :=
  match stringError token.bytes with
  | none => (some (.string (stringValue token.bytes) token.range), [])
  | some offset =>
    let start := token.range.start.advance offset offset
    (none, [problem "Invalid JSON string" "There is a syntax error in the given JSON string."
      ⟨token.range.file, start, start.advance 1 1⟩])

/-- Reads a number token. -/
def parseNumber (token : Token) : Option Node × List Diagnostic :=
  match numberValue token.bytes with
  | some value => (some (.number value token.range), [])
  | none =>
    (none, [problem "Invalid JSON number" "There is a syntax error in the given JSON number."
      token.range])

/-- Reads a keyword token. -/
def parseKeyword (token : Token) : Option Node × List Diagnostic :=
  let text := tokenText token
  match text with
  | "true" => (some (.boolean true token.range), [])
  | "false" => (some (.boolean false token.range), [])
  | "null" => (some (.null token.range), [])
  | "undefined" | "NaN" | "Infinity" =>
    (none, [problem "Invalid JSON keyword"
      ("The JavaScript identifier " ++ Text.quote text ++ " cannot be used in JSON.") token.range])
  | _ =>
    let suggestion := match keywordSuggestion text with
      | some keyword => " Did you mean " ++ Text.quote keyword ++ "?"
      | none => ""
    (none, [problem "Invalid JSON keyword"
      (Text.quote text ++ " is not a valid JSON keyword." ++ suggestion) token.range])

mutual

/-- Reads one value; a value that cannot be read becomes an invalid node. -/
def parseValue : Nat → Peeker → Node × List Diagnostic × Peeker
  | 0, peeker => (.invalid peeker.peek.range, [], peeker)
  | fuel + 1, peeker =>
    let token := peeker.peek
    let orInvalid (result : Option Node × List Diagnostic × Peeker) : Node × List Diagnostic × Peeker :=
      ((result.1.getD (.invalid token.range)), result.2.1, result.2.2)
    let single (parse : Token → Option Node × List Diagnostic) : Node × List Diagnostic × Peeker :=
      let (_, next) := peeker.read
      let (node, diagnostics) := parse token
      orInvalid (node, diagnostics, next)
    match token.kind with
    | .braceOpen => orInvalid (parseObject fuel peeker)
    | .bracketOpen => orInvalid (parseArray fuel peeker)
    | .number => single parseNumber
    | .string => single parseString
    | .keyword => single parseKeyword
    | .braceClose =>
      (.invalid token.range, [problem "Missing JSON value" startsValue token.range], peeker)
    | .bracketClose =>
      (.invalid token.range, [problem "Missing array element value" startsValue token.range], peeker)
    | .eof =>
      (.invalid token.range, [problem "Missing value" "The JSON data ends prematurely." token.range],
        peeker)
    | _ =>
      (.invalid token.range, [problem "Invalid start of value" startsValue token.range], peeker)

/-- Reads an object, from its opening brace. -/
def parseObject : Nat → Peeker → Option Node × List Diagnostic × Peeker
  | 0, peeker => (none, [], peeker)
  | fuel + 1, peeker =>
    let (opening, peeker) := peeker.read
    parseProperties fuel opening.range [] [] peeker

/-- Reads the properties of an object after its opening brace; `found` holds those read so far,
latest first. -/
def parseProperties : Nat → Range → List (String × Range × Node) → List Diagnostic → Peeker →
    Option Node × List Diagnostic × Peeker
  | 0, _, _, diagnostics, peeker => (none, diagnostics, peeker)
  | fuel + 1, opening, found, diagnostics, peeker =>
    let finish (peeker : Peeker) : Option Node × List Diagnostic × Peeker :=
      let (closing, peeker) := peeker.read
      (some (.object found.reverse opening closing.range), diagnostics, peeker)
    if peeker.peek.kind == .braceClose then finish peeker
    else
      let (key, keyDiagnostics, peeker) := parseValue fuel peeker
      let diagnostics := diagnostics ++ keyDiagnostics
      match key with
      | .string name nameRange =>
        let (colon, peeker) := peeker.read
        if colon.kind != .colon then
          let peeker := Peeker.recover .braceOpen .braceClose fuel colon 1 peeker
          let complaint :=
            if colon.kind == .braceClose ∨ colon.kind == .comma then
              problem "Missing object value"
                "A JSON object attribute must have a value, introduced by a colon." colon.range
            else if colon.kind == .equals then
              problem "Missing property value colon"
                "JSON uses a colon as its name/value delimiter, not an equals sign." colon.range
            else
              problem "Missing property value colon"
                "A colon must appear between an object property's name and its value." colon.range
          (none, diagnostics ++ [complaint], peeker)
        else
          let (value, valueDiagnostics, peeker) := parseValue fuel peeker
          let diagnostics := diagnostics ++ valueDiagnostics
          let found := (name, nameRange, value) :: found
          match peeker.peek.kind with
          | .comma =>
            let (comma, peeker) := peeker.read
            if peeker.peek.kind == .braceClose then
              (none, diagnostics ++ [problem "Trailing comma in object"
                "JSON does not permit a trailing comma after the final property in an object."
                comma.range], peeker)
            else parseProperties fuel opening found diagnostics peeker
          | .eof =>
            (none, diagnostics ++ [problem "Unclosed object"
              "No closing brace was found for this JSON object." opening], peeker)
          | .bracketClose =>
            let (_, peeker) := peeker.read
            (none, diagnostics ++ [problem "Mismatched braces"
              "A JSON object must be closed with a brace, not a bracket." peeker.peek.range], peeker)
          | .braceClose =>
            let (closing, peeker) := peeker.read
            (some (.object found.reverse opening closing.range), diagnostics, peeker)
          | _ =>
            let (next, peeker) := peeker.read
            let peeker := Peeker.recover .braceOpen .braceClose fuel next 1 peeker
            (none, diagnostics ++ [problem "Missing attribute seperator comma"
              "A comma must appear between each property definition in an object."
              peeker.peek.range], peeker)
      | other =>
        (none, diagnostics ++ [problem "Invalid object property name"
          "A JSON object property name must be a string" other.startRange], peeker)

/-- Reads an array, from its opening bracket. -/
def parseArray : Nat → Peeker → Option Node × List Diagnostic × Peeker
  | 0, peeker => (none, [], peeker)
  | fuel + 1, peeker =>
    let (opening, peeker) := peeker.read
    parseElements fuel opening.range [] [] peeker

/-- Reads the elements of an array after its opening bracket; `found` holds those read so far,
latest first. -/
def parseElements : Nat → Range → List Node → List Diagnostic → Peeker →
    Option Node × List Diagnostic × Peeker
  | 0, _, _, diagnostics, peeker => (none, diagnostics, peeker)
  | fuel + 1, opening, found, diagnostics, peeker =>
    if peeker.peek.kind == .bracketClose then
      let (closing, peeker) := peeker.read
      (some (.array found.reverse opening closing.range), diagnostics, peeker)
    else
      let (value, valueDiagnostics, peeker) := parseValue fuel peeker
      let diagnostics := diagnostics ++ valueDiagnostics
      let found := value :: found
      let skipping (complaint : Peeker → Diagnostic) : Option Node × List Diagnostic × Peeker :=
        let (next, peeker) := peeker.read
        let peeker := Peeker.recover .bracketOpen .bracketClose fuel next 1 peeker
        (none, diagnostics ++ [complaint peeker], peeker)
      match peeker.peek.kind with
      | .comma =>
        let (comma, peeker) := peeker.read
        if peeker.peek.kind == .bracketClose then
          (none, diagnostics ++ [problem "Trailing comma in array"
            "JSON does not permit a trailing comma after the final value in an array."
            comma.range], peeker)
        else parseElements fuel opening found diagnostics peeker
      | .colon =>
        skipping fun peeker => problem "Invalid array value"
          "A colon is not used to introduce values in a JSON array." peeker.peek.range
      | .eof =>
        skipping fun _ => problem "Unclosed object"
          "No closing bracket was found for this JSON array." opening
      | .braceClose =>
        skipping fun peeker => problem "Mismatched brackets"
          "A JSON array must be closed with a bracket, not a brace." peeker.peek.range
      | .bracketClose =>
        let (closing, peeker) := peeker.read
        (some (.array found.reverse opening closing.range), diagnostics, peeker)
      | _ =>
        skipping fun peeker => problem "Missing attribute seperator comma"
          "A comma must appear between each value in an array." peeker.peek.range

end

/-- The root of a JSON configuration document and the problems found in it. -/
def parseDocument (file : String) (bytes : List UInt8) : Node × List Diagnostic :=
  let tokens := scan file bytes
  let (root, diagnostics, peeker) := parseValue (4 * tokens.size + 8) ⟨tokens, 0⟩
  let diagnostics :=
    if diagnostics.isEmpty ∧ peeker.peek.kind != .eof then
      [problem "Extraneous data after value" "Extra characters appear after the JSON value."
        peeker.peek.range]
    else diagnostics
  match root with
  | .object .. | .array .. => (root, diagnostics)
  | other =>
    (.object [] other.startRange other.range, diagnostics ++ [problem "Root value must be object"
      ("The root value in a JSON-based configuration must be either a JSON object or a JSON " ++
        "array of objects.") other.startRange])

mutual

/-- The value of a node, with the problems found evaluating it: a property named twice in one
object is reported, and the first definition kept. -/
def evaluate : Node → Value × List Diagnostic
  | .string value _ => (.string (Text.toNFC value), [])
  | .number value _ => (.number value, [])
  | .boolean value _ => (.bool value, [])
  | .null _ => (.null .dynamic, [])
  | .invalid _ => (.unknown .dynamic, [])
  | .array values _ _ =>
    let results := evaluateValues values
    (.tuple (results.map Prod.fst), results.flatMap Prod.snd)
  | .object properties _ _ =>
    let results := evaluateProperties properties
    let (attributes, ranges, diagnostics) := results.foldl
      (fun (state : List (String × Value) × List (String × Range) × List Diagnostic) entry =>
        let (attributes, ranges, diagnostics) := state
        let (name, nameRange, value, valueDiagnostics) := entry
        let diagnostics := diagnostics ++ valueDiagnostics
        match entryNamed ranges name with
        | some first =>
          (attributes, ranges, diagnostics ++ [problem "Duplicate object attribute"
            ("An attribute named " ++ Text.quote name ++ " was already defined at " ++
              first.text ++ ".") nameRange])
        | none => (setEntry attributes name value, (name, nameRange) :: ranges, diagnostics))
      ([], [], [])
    let _ := ranges
    (.object attributes, diagnostics)

/-- The values of the elements of an array, in order. -/
def evaluateValues : List Node → List (Value × List Diagnostic)
  | [] => []
  | value :: rest => evaluate value :: evaluateValues rest

/-- The values of the properties of an object, in order, with their names normalized. -/
def evaluateProperties : List (String × Range × Node) → List (String × Range × Value × List Diagnostic)
  | [] => []
  | (name, nameRange, value) :: rest =>
    (Text.toNFC name, nameRange, evaluate value) :: evaluateProperties rest

end

/-- The attributes of the root object, skipping `//` comments; a second definition of a name
is reported. A root that is not an object has no attributes. -/
def rootAttributes (root : Node) : List (String × Node) × List Diagnostic :=
  match root with
  | .object properties _ _ =>
    let (attributes, diagnostics) := properties.foldl
      (fun (state : List (String × Range × Node) × List Diagnostic) property =>
        let (found, diagnostics) := state
        let (name, nameRange, value) := property
        if name = "//" then state
        else
          match found.find? (fun entry => entry.1 == name) with
          | some (_, firstRange, firstValue) =>
            (found, diagnostics ++ [problem "Duplicate attribute definition"
              ("The argument " ++ Text.quote name ++ " was already set at " ++
                (Range.between firstRange firstValue.range).text ++ ".") nameRange])
          | none => (found ++ [(name, nameRange, value)], diagnostics))
      ([], [])
    (attributes.map fun entry => (entry.1, entry.2.2), diagnostics)
  | other =>
    ([], [problem "Incorrect JSON value type"
      "A JSON object is required here, setting the arguments for this block." other.startRange])

end Alembic.Table.Json
