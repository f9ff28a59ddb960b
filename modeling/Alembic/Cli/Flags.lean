import Alembic.Text.Quoted
import Alembic.Text.Numeral
/-! # Command-line flags -/

namespace Alembic.Cli

/-- The value a flag holds. -/
inductive Setting where
  | text (value : String)
  | switch (value : Bool)
  | natural (value : Nat)
  | integer (value : Int)
  deriving Repr, BEq, Inhabited

/-- A flag: its name, description and default value. -/
structure Flag where
  name : String
  usage : String
  default : Setting
  deriving Repr, Inhabited

/-- How reading the arguments stopped early. -/
inductive Interruption where
  /-- Help was asked for. -/
  | help
  /-- The arguments are malformed; the message says how. -/
  | failure (message : String)
  deriving Repr, BEq

/-- The booleans a switch accepts. -/
def parseBool (text : String) : Option Bool :=
  if text ∈ ["1", "t", "T", "TRUE", "true", "True"] then some true
  else if text ∈ ["0", "f", "F", "FALSE", "false", "False"] then some false
  else none

/-- The flags set so far, the latest setting of a name first. -/
abbrev Settings := List (String × Setting)

/-- Splits `name=value`; an `=` in first place does not count. -/
def splitValue (body : String) : String × Option String :=
  match body.toList with
  | [] => ("", none)
  | first :: rest =>
    match rest.findIdx? (· = '=') with
    | some index =>
      (String.ofList (first :: rest.take index), some (String.ofList (rest.drop (index + 1))))
    | none => (body, none)

/-- The setting a value gives a flag of the kind of `default`, or why it cannot. -/
def settingOf (default : Setting) (value : String) : Except String Setting :=
  let numeral {α : Type} (parsed : Except Text.NumeralError α) (make : α → Setting) :
      Except String Setting :=
    match parsed with
    | .ok number => .ok (make number)
    | .error .malformed => .error "parse error"
    | .error .outOfRange => .error "value out of range"
  match default with
  | .natural _ => numeral (Text.parseUnsigned value) .natural
  | .integer _ => numeral (Text.parseSigned value) .integer
  | _ => .ok (.text value)

/-- The refusal of a value a flag cannot take. -/
def invalidValue (name value reason : String) : Interruption :=
  .failure ("invalid value " ++ Text.quote value ++ " for flag -" ++ name ++ ": " ++ reason)

/-- Reads flags from the arguments, returning the settings and the arguments left over. -/
def read (flags : List Flag) : List String → Settings → Except Interruption (Settings × List String)
  | [], settings => .ok (settings, [])
  | argument :: rest, settings =>
    let chars := argument.toList
    if chars.length < 2 ∨ chars.head? ≠ some '-' then .ok (settings, argument :: rest)
    else if argument = "--" then .ok (settings, rest)
    else
      let body := String.ofList (if chars[1]? = some '-' then chars.drop 2 else chars.drop 1)
      if body.isEmpty ∨ body.startsWith "-" ∨ body.startsWith "=" then
        .error (.failure ("bad flag syntax: " ++ argument))
      else
        let (name, given) := splitValue body
        match flags.find? (·.name == name) with
        | none =>
          if name = "help" ∨ name = "h" then .error .help
          else .error (.failure ("flag provided but not defined: -" ++ name))
        | some flag =>
          match flag.default with
          | .switch _ =>
            match given with
            | none => read flags rest ((name, .switch true) :: settings)
            | some value =>
              match parseBool value with
              | some flagValue => read flags rest ((name, .switch flagValue) :: settings)
              | none =>
                .error (.failure ("invalid boolean value " ++ Text.quote value ++ " for -" ++ name ++
                  ": parse error"))
          | _ =>
            match given, rest with
            | some value, others =>
              match settingOf flag.default value with
              | .ok setting => read flags others ((name, setting) :: settings)
              | .error reason => .error (invalidValue name value reason)
            | none, value :: others =>
              match settingOf flag.default value with
              | .ok setting => read flags others ((name, setting) :: settings)
              | .error reason => .error (invalidValue name value reason)
            | none, [] => .error (.failure ("flag needs an argument: -" ++ name))
termination_by arguments _ => arguments.length

/-- The value of a flag after reading: its latest setting, or its default. -/
def valueOf (flags : List Flag) (settings : Settings) (name : String) : Setting :=
  match settings.find? (·.1 == name) with
  | some (_, value) => value
  | none => ((flags.find? (·.name == name)).map (·.default)).getD (.text "")

/-- The text of a text flag. -/
def textOf (flags : List Flag) (settings : Settings) (name : String) : String :=
  match valueOf flags settings name with
  | .text value => value
  | .switch value => toString value
  | .natural value => toString value
  | .integer value => toString value

/-- The number of a natural flag. -/
def naturalOf (flags : List Flag) (settings : Settings) (name : String) : Nat :=
  match valueOf flags settings name with
  | .natural value => value
  | _ => 0

/-- The number of an integer flag. -/
def integerOf (flags : List Flag) (settings : Settings) (name : String) : Int :=
  match valueOf flags settings name with
  | .integer value => value
  | _ => 0

/-- Whether a switch is on. -/
def switchOf (flags : List Flag) (settings : Settings) (name : String) : Bool :=
  match valueOf flags settings name with
  | .switch value => value
  | _ => false

/-- Inserts a flag into a list sorted by name. -/
def insertByName (flag : Flag) : List Flag → List Flag
  | [] => [flag]
  | other :: rest =>
    if flag.name < other.name then flag :: other :: rest else other :: insertByName flag rest

/-- The usage lines of one flag. -/
def Flag.usageLines (flag : Flag) : String :=
  let head := "  -" ++ flag.name ++ (match flag.default with
    | .text _ => " string"
    | .switch _ => ""
    | .natural _ => " uint"
    | .integer _ => " int")
  let separator := if head.length ≤ 4 then "\t" else "\n    \t"
  let described := flag.usage.replace "\n" "\n    \t"
  let defaultText := match flag.default with
    | .text "" => ""
    | .text value => " (default " ++ Text.quote value ++ ")"
    | .switch false => ""
    | .switch true => " (default true)"
    | .natural 0 => ""
    | .natural value => " (default " ++ toString value ++ ")"
    | .integer 0 => ""
    | .integer value => " (default " ++ toString value ++ ")"
  head ++ separator ++ described ++ defaultText ++ "\n"

/-- The usage lines of all flags, sorted by name. -/
def defaultsText (flags : List Flag) : String :=
  String.join ((flags.foldr insertByName []).map Flag.usageLines)

end Alembic.Cli
