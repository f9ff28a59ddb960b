import Alembic.Cli.Flags
import Alembic.App.Config
import Alembic.Recipe.Schema
import Alembic.Text.Lowercase
/-! # The command line of the recipe compiler -/

namespace Alembic.Cli

/-- The exit code of a usage failure. -/
def usageExitCode : Nat := 2

/-- The value of an environment variable, when it is set and not empty. -/
def envValue? (environment : List (String × String)) (name : String) : Option String :=
  match environment.find? (·.1 == name) with
  | some (_, value) => if value.isEmpty then none else some value
  | none => none

/-- The defaults the environment gives the flags. -/
structure EnvDefaults where
  root : String
  tablePath : String
  outDir : String
  logLevel : String
  logFormat : String
  failFast : Bool

/-- Reads the defaults from the environment, or says why it cannot. -/
def EnvDefaults.read (environment : List (String × String)) : Except String EnvDefaults :=
  let text (name fallback : String) : String := (envValue? environment name).getD fallback
  let failFast : Except String Bool :=
    match envValue? environment "RECIPEGEN_FAIL_FAST" with
    | none => .ok false
    | some value =>
      match parseBool value with
      | some flag => .ok flag
      | none =>
        .error ("env: parse error on field \"FailFast\" of type \"bool\": strconv.ParseBool: parsing " ++
          Text.quote value ++ ": invalid syntax")
  failFast.map fun failFast =>
    { root := text "RECIPEGEN_ROOT" ".", tablePath := text "RECIPEGEN_TABLE" "",
      outDir := text "RECIPEGEN_OUT_DIR" "", logLevel := text "RECIPEGEN_LOG_LEVEL" "info",
      logFormat := text "RECIPEGEN_LOG_FORMAT" "text", failFast }

/-- The flags, with the defaults the environment gave. -/
def flagsFor (defaults : EnvDefaults) : List Flag :=
  [⟨"root", "Game project root. Env: RECIPEGEN_ROOT.", .text defaults.root⟩,
   ⟨"table", "Recipe table (.json or .hcl), relative to the root. Env: RECIPEGEN_TABLE.",
     .text defaults.tablePath⟩,
   ⟨"out", "Output directory, relative to the root. Env: RECIPEGEN_OUT_DIR.", .text defaults.outDir⟩,
   ⟨"log-format", "Log output format. Options: 'text' or 'json'.", .text defaults.logFormat⟩,
   ⟨"log-level", "Set the logging level. Options: 'debug', 'info', 'warn', 'error'.",
     .text defaults.logLevel⟩,
   ⟨"fail-fast", "Abort on the first failing recipe without writing any file.",
     .switch defaults.failFast⟩,
   ⟨"schema", "Print the JSON Schema of the recipe table and exit.", .switch false⟩]

/-- The usage text for a set of flags. -/
def usageText (flags : List Flag) : String :=
  "\nrecipegen - Compiles the alchemy recipe table into PotionRecipeData resources.\n\n" ++
  "Usage:\n  recipegen [options]\n\n" ++
  "Running without options compiles data/alchemy_recipe_table.json into\n" ++
  "resources/recipes/ under the current directory.\n\nOptions:\n" ++ defaultsText flags

/-- How reading the command line ended. -/
inductive Parsed where
  /-- Run with these settings. -/
  | run (config : App.Config)
  /-- Exit cleanly: the usage or the schema has been written. -/
  | done
  deriving Repr

/-- The outcome of reading the command line and what it wrote to standard output. -/
structure Parse where
  result : Except Failure Parsed
  output : String

/-- Reads the command line against an environment. -/
def parse (arguments : List String) (environment : List (String × String)) : Parse :=
  let usageFailure (message : String) : Failure := .exit usageExitCode message
  match EnvDefaults.read environment with
  | .error reason => ⟨.error (usageFailure ("invalid environment: " ++ reason)), ""⟩
  | .ok defaults =>
    let flags := flagsFor defaults
    match read flags arguments [] with
    | .error .help => ⟨.ok .done, usageText flags⟩
    | .error (.failure message) =>
      ⟨.error (usageFailure message), message ++ "\n" ++ usageText flags⟩
    | .ok (settings, leftover) =>
      if !leftover.isEmpty then
        ⟨.error (usageFailure ("unexpected arguments: " ++ " ".intercalate leftover)), ""⟩
      else if switchOf flags settings "schema" then ⟨.ok .done, Recipe.schemaText ++ "\n"⟩
      else
        let given : App.Config :=
          { root := textOf flags settings "root", tablePath := textOf flags settings "table",
            outDir := textOf flags settings "out",
            logFormat := Text.lowerText (textOf flags settings "log-format"),
            logLevel := Text.lowerText (textOf flags settings "log-level"),
            failFast := switchOf flags settings "fail-fast" }
        match App.Config.make given with
        | .ok config => ⟨.ok (.run config), ""⟩
        | .error reason => ⟨.error (usageFailure reason), ""⟩

theorem parse_unreadable_environment (arguments : List String) (environment : List (String × String))
    (reason : String) (unreadable : EnvDefaults.read environment = .error reason) :
    parse arguments environment =
      ⟨.error (.exit usageExitCode ("invalid environment: " ++ reason)), ""⟩ := by
  simp only [parse, unreadable]

end Alembic.Cli
