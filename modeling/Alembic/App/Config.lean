import Alembic.Files.Path
/-! # The settings of a run -/

namespace Alembic.App

/-- The recipe table, relative to the project root. -/
def defaultTablePath : String := "data/alchemy_recipe_table.json"

/-- The output directory, relative to the project root. -/
def defaultOutDir : String := "resources/recipes"

/-- The settings of a run. -/
structure Config where
  root : String := ""
  tablePath : String := ""
  outDir : String := ""
  logFormat : String := ""
  logLevel : String := ""
  failFast : Bool := false
  deriving Repr, BEq, Inhabited

namespace Config

/-- A setting, or its default when it is empty. -/
def orDefault (value fallback : String) : String := if value.isEmpty then fallback else value

/-- The settings with defaults filled in, or why they are refused. -/
def make (given : Config) : Except String Config :=
  let config : Config :=
    { given with
      root := orDefault given.root ".",
      tablePath := orDefault given.tablePath defaultTablePath,
      outDir := orDefault given.outDir defaultOutDir,
      logFormat := orDefault given.logFormat "text",
      logLevel := orDefault given.logLevel "info" }
  if config.logFormat ∉ ["text", "json"] then
    .error ("invalid log-format " ++ Text.quote config.logFormat ++ ": must be 'text' or 'json'")
  else if config.logLevel ∉ ["debug", "info", "warn", "error"] then
    .error ("invalid log-level " ++ Text.quote config.logLevel ++
      ": must be 'debug', 'info', 'warn', or 'error'")
  else .ok config

/-- A path under the root, unless it is absolute. -/
def underRoot (config : Config) (path : String) : String :=
  if Path.isAbs path then path else Path.join [config.root, path]

/-- Where the recipe table is read from. -/
def table (config : Config) : String := config.underRoot config.tablePath

/-- Where the resources are written. -/
def output (config : Config) : String := config.underRoot config.outDir

/-- The settings a run has when none are given. -/
def defaults : Config :=
  { root := ".", tablePath := defaultTablePath, outDir := defaultOutDir, logFormat := "text",
    logLevel := "info" }

end Config

end Alembic.App
