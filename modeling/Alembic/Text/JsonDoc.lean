import Alembic.Text.Quoted
/-! # JSON documents written with indentation -/

namespace Alembic.Text

/-- A JSON value with ordered object members. -/
inductive JsonDoc where
  | text (value : String)
  | int (value : Int)
  | flag (value : Bool)
  | array (items : List JsonDoc)
  | object (members : List (String × JsonDoc))

namespace JsonDoc

/-- A character inside a JSON string. -/
def escapeChar (c : Char) : String :=
  match c with
  | '"' => "\\\""
  | '\\' => "\\\\"
  | '\n' => "\\n"
  | '\r' => "\\r"
  | '\t' => "\\t"
  | '<' | '>' | '&' => "\\u00" ++ hexDigits 2 c.toNat
  | '\u2028' => "\\u2028"
  | '\u2029' => "\\u2029"
  | _ => if c.toNat < 0x20 then "\\u00" ++ hexDigits 2 c.toNat else String.singleton c

/-- A JSON string literal. -/
def stringText (value : String) : String :=
  "\"" ++ String.join (value.toList.map escapeChar) ++ "\""

/-- The text of a value whose first line starts at the given depth. -/
def render (depth : Nat) : JsonDoc → String
  | .text value => stringText value
  | .int value => toString value
  | .flag value => if value then "true" else "false"
  | .array [] => "[]"
  | .array items =>
    let inner := "".pushn ' ' (2 * (depth + 1))
    "[\n" ++ ",\n".intercalate (items.attach.map fun ⟨item, _⟩ => inner ++ render (depth + 1) item) ++
      "\n" ++ "".pushn ' ' (2 * depth) ++ "]"
  | .object [] => "\x7b\x7d"
  | .object members =>
    let inner := "".pushn ' ' (2 * (depth + 1))
    "\x7b\n" ++ ",\n".intercalate (members.attach.map fun ⟨(name, value), _⟩ =>
        inner ++ stringText name ++ ": " ++ render (depth + 1) value) ++
      "\n" ++ "".pushn ' ' (2 * depth) ++ "\x7d"
decreasing_by
  all_goals first
    | (simp_wf; have hmem := List.sizeOf_lt_of_mem ‹_ ∈ _›; omega)
    | (simp_wf; have hmem := List.sizeOf_lt_of_mem ‹_ ∈ _›; simp at hmem; omega)

end JsonDoc

end Alembic.Text
