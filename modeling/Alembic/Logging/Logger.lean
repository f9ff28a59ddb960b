import Alembic.Text.Quoted
import Alembic.Text.Utf8
/-! # Structured log lines -/

namespace Alembic.Logging

def debug : Int := -4
def info : Int := 0
def warn : Int := 4
def error : Int := 8

/-- The name of a level. -/
def levelName (level : Int) : String :=
  let named (base : String) (offset : Int) : String :=
    if offset = 0 then base
    else if offset > 0 then base ++ "+" ++ toString offset
    else base ++ toString offset
  if level < info then named "DEBUG" (level - debug)
  else if level < warn then named "INFO" (level - info)
  else if level < error then named "WARN" (level - warn)
  else named "ERROR" (level - error)

/-- The value of a field. -/
inductive Field where
  | text (value : String)
  | int (value : Int)
  deriving Repr, BEq

/-- How lines are written. -/
inductive Format where
  | text
  | json
  deriving Repr, BEq, DecidableEq

/-- Whether an ASCII character can appear in a JSON string as it is. -/
def jsonSafe (c : Char) : Bool := 0x20 ≤ c.toNat ∧ c.toNat < 0x80 ∧ c ≠ '"' ∧ c ≠ '\\'

/-- Whether a text has to be quoted in a text line. -/
def needsQuoting (value : String) : Bool :=
  value.isEmpty ∨ value.toList.any fun c =>
    if c.toNat < 0x80 then c ≠ '\\' ∧ (c = ' ' ∨ c = '=' ∨ !jsonSafe c)
    else c = Text.replacement ∨ Text.isSpace c ∨ !Text.isPrintable c

/-- A key or value in a text line. -/
def textAtom (value : String) : String :=
  if needsQuoting value then Text.quote value else value

/-- A character in a JSON string. -/
def jsonChar (c : Char) : String :=
  if c.toNat < 0x80 then
    if jsonSafe c then String.singleton c
    else
      match c with
      | '\\' => "\\\\"
      | '"' => "\\\""
      | '\n' => "\\n"
      | '\r' => "\\r"
      | '\t' => "\\t"
      | _ => "\\u00" ++ Text.hexDigits 2 c.toNat
  else if c = '\u2028' then "\\u2028"
  else if c = '\u2029' then "\\u2029"
  else String.singleton c

/-- A JSON string literal. -/
def jsonString (value : String) : String :=
  "\"" ++ String.join (value.toList.map jsonChar) ++ "\""

/-- A field as a text line writes it. -/
def Field.textForm : Field → String
  | .text value => textAtom value
  | .int value => toString value

/-- A field as a JSON line writes it. -/
def Field.jsonForm : Field → String
  | .text value => jsonString value
  | .int value => toString value

/-- A logger: its threshold, its format and the fields it adds to every record. -/
structure Logger where
  threshold : Int
  format : Format
  context : List (String × Field) := []
  deriving Repr

namespace Logger

def enabled (logger : Logger) (level : Int) : Bool := level ≥ logger.threshold

/-- The same logger with more fields on every record. -/
def withFields (logger : Logger) (fields : List (String × Field)) : Logger :=
  { logger with context := logger.context ++ fields }

/-- The line of a record. -/
def line (logger : Logger) (level : Int) (message : String) (fields : List (String × Field)) :
    String :=
  let all := logger.context ++ fields
  match logger.format with
  | .text =>
    " ".intercalate (("level=" ++ levelName level) :: ("msg=" ++ textAtom message) ::
      all.map fun field => textAtom field.1 ++ "=" ++ field.2.textForm)
  | .json =>
    "\x7b" ++ ",".intercalate (("\"level\":" ++ jsonString (levelName level)) ::
      ("\"msg\":" ++ jsonString message) ::
      all.map fun field => jsonString field.1 ++ ":" ++ field.2.jsonForm) ++ "\x7d"

/-- The lines a record produces: one when its level is enabled, none otherwise. -/
def emit (logger : Logger) (level : Int) (message : String) (fields : List (String × Field)) :
    List String :=
  if logger.enabled level then [logger.line level message fields] else []

end Logger

/-- The logger for a level name and a format name: an unknown level means info, and any format
but `json` means text. -/
def makeLogger (levelText formatText : String) : Logger :=
  let threshold :=
    match levelText with
    | "debug" => debug
    | "warn" => warn
    | "error" => error
    | _ => info
  { threshold, format := if formatText = "json" then .json else .text }

/-- The logger used where none was given: text at info level. -/
def fallbackLogger : Logger := { threshold := info, format := .text }

end Alembic.Logging
