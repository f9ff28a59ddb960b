import Alembic.Table.Json.Parser
import Alembic.Table.Native.Document
import Alembic.Table.Native.Evaluate
import Alembic.Files.Tree
import Alembic.Logging.Logger
import Alembic.Text.Lowercase
/-! # Loading a recipe table -/

namespace Alembic.Table

/-- One entry of the recipe list, with its position. -/
structure Record where
  index : Nat
  value : Value
  deriving Inhabited

/-- The records of a table and the path it was read from. -/
structure Table where
  source : String
  records : List Record
  deriving Inhabited

/-- The name of the attribute that holds the recipes. -/
def recipesAttribute : String := "recipes"

/-- A top-level attribute, ready to be evaluated. -/
inductive Attribute where
  | json (node : Json.Node)
  /-- An expression of the native syntax, read from a source of `sourceLength` bytes. -/
  | native (expr : Native.Expr) (sourceLength : Nat)

/-- The value of a top-level attribute and the problems met evaluating it. -/
def Attribute.evaluate : Attribute → Value × List Diagnostic
  | .json node => Json.evaluate node
  | .native expr sourceLength => Native.evaluateExpr sourceLength expr

/-- The syntax dialect of a table file. -/
inductive Dialect where
  | json
  | native
  deriving BEq, DecidableEq

/-- The syntax an extension names. -/
def dialectOf (path : String) : Option Dialect :=
  match Text.lowerText (Path.ext path) with
  | ".json" => some .json
  | ".hcl" => some .native
  | _ => none

/-- The top-level attributes of a document, or the problems that keep it from being read.
The first list of diagnostics is about parsing, the second about the attributes. -/
def documentAttributes (dialect : Dialect) (file : String) (bytes : List UInt8) :
    Except (List Diagnostic) (List (String × Attribute) × List Diagnostic) :=
  match dialect with
  | .json =>
    let (root, diagnostics) := Json.parseDocument file bytes
    if !diagnostics.isEmpty then .error diagnostics
    else
      let (attributes, problems) := Json.rootAttributes root
      .ok (attributes.map fun entry => (entry.1, .json entry.2), problems)
  | .native =>
    let (body, diagnostics) := Native.parseDocument file bytes
    if !diagnostics.isEmpty then .error diagnostics
    else
      let (attributes, problems) := Native.justAttributes body
      .ok (attributes.map fun entry => (entry.1, .native entry.2 bytes.length), problems)

/-- Reads the recipe table at a path. -/
def load (tree : Files.Tree) (logger : Logging.Logger) (path : String) :
    Except Failure Table × List String :=
  let started := logger.emit Logging.debug "Table loader started." [("path", .text path)]
  let malformed (reason : String) (cause : Option String) : Except Failure Table × List String :=
    (.error (.malformedTable path reason cause), started)
  match tree.stat path with
  | .error problem =>
    if problem.errno == .notFound then malformed "recipe table not found" none
    else malformed "cannot access recipe table" (some problem.message)
  | .ok .directory => malformed "recipe table is a directory" none
  | .ok (.file content) =>
    match dialectOf path with
    | none => malformed "unsupported table format, expected .json or .hcl" none
    | some dialect =>
      match documentAttributes dialect path content.toList with
      | .error diagnostics => malformed "failed to parse recipe table" (some (diagnosticsText diagnostics))
      | .ok (attributes, problems) =>
        if !problems.isEmpty then
          malformed "top level must be an object of attributes" (some (diagnosticsText problems))
        else
          match entryNamed attributes recipesAttribute with
          | none => malformed ("'" ++ recipesAttribute ++ "' must be a list") none
          | some found =>
            let (value, diagnostics) := found.evaluate
            if !diagnostics.isEmpty then
              malformed ("cannot evaluate '" ++ recipesAttribute ++ "'") (some (diagnosticsText diagnostics))
            else if value.isNull ∨ !value.isSequence then
              malformed ("'" ++ recipesAttribute ++ "' must be a list") none
            else
              let entries := value.elements.zipIdx
              match entries.find? fun entry => entry.1.isNull ∨ !entry.1.isObjectLike with
              | some (_, index) =>
                malformed ("recipe entry #" ++ toString (index + 1) ++ " must be an object") none
              | none =>
                let records := entries.map fun entry => (⟨entry.2, entry.1⟩ : Record)
                (.ok ⟨path, records⟩, started ++ logger.emit Logging.debug "Table loading complete."
                  [("path", .text path), ("recipes", .int records.length)])

end Alembic.Table
