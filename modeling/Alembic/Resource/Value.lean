import Alembic.Number.Double
/-! # Property values of a text resource -/

namespace Alembic.Resource

/-- A property value. -/
inductive Value where
  | text (content : String)
  | integer (value : Int)
  | real (value : Float)
  | reference (id : Int)
  | array (items : List Value)
  | null
  deriving Inhabited

/-- How a character is written inside a string literal. -/
def escapeChar : Char → String
  | '\\' => "\\\\"
  | '"' => "\\\""
  | '\n' => "\\n"
  | '\t' => "\\t"
  | c => String.singleton c

/-- A string literal. -/
def stringLiteral (content : String) : String :=
  "\"" ++ String.join (content.toList.map escapeChar) ++ "\""

/-- An integer in decimal, with a minus sign when negative. -/
def intText (value : Int) : String := toString value

namespace Value

/-- A reference when the id is present, `null` otherwise. -/
def optionalReference (id : Int) (present : Bool) : Value :=
  if present then .reference id else .null

/-- An array of integers. -/
def integers (values : List Int) : Value :=
  .array (values.map .integer)

/-- The literal of a value. -/
def render : Value → String
  | .text content => stringLiteral content
  | .integer value => intText value
  | .real value => Double.fixedText value
  | .reference id => "ExtResource(\"" ++ intText id ++ "\")"
  | .array items => "[" ++ ", ".intercalate (items.attach.map fun ⟨item, _⟩ => render item) ++ "]"
  | .null => "null"

end Value

end Alembic.Resource
