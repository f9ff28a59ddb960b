import Mathlib
import Alembic.Cli.Options
/-! # Reading the command line -/

namespace Alembic.Cli

open App

/-- The text of a setting, as a text flag reads it. -/
def Setting.asText : Setting → String
  | .text value => value
  | .switch value => toString value
  | .natural value => toString value
  | .integer value => toString value

/-- Whether a setting turns a switch on, as a switch reads it. -/
def Setting.isOn : Setting → Bool
  | .switch value => value
  | _ => false

/-- The latest value a flag was given on the command line, if it was given. -/
def lastGiven (settings : Settings) (name : String) : Option Setting :=
  (settings.find? (·.1 == name)).map Prod.snd

/-- A setting from its layers: the flag's value if given, else the variable's, else nothing; an
empty text, or nothing, gives the default. -/
def layered (given fromVariable : Option String) (fallback : String) : String :=
  Config.orDefault (given.getD (fromVariable.getD "")) fallback

/-- The settings a command line asks for, before they are checked. -/
def chosen (environment : List (String × String)) (settings : Settings) : Config where
  root := layered ((lastGiven settings "root").map Setting.asText) (envValue? environment "RECIPEGEN_ROOT") "."
  tablePath := layered ((lastGiven settings "table").map Setting.asText) (envValue? environment "RECIPEGEN_TABLE")
    defaultTablePath
  outDir := layered ((lastGiven settings "out").map Setting.asText) (envValue? environment "RECIPEGEN_OUT_DIR")
    defaultOutDir
  logFormat := layered ((lastGiven settings "log-format").map fun setting => Text.lowerText setting.asText)
    ((envValue? environment "RECIPEGEN_LOG_FORMAT").map Text.lowerText) "text"
  logLevel := layered ((lastGiven settings "log-level").map fun setting => Text.lowerText setting.asText)
    ((envValue? environment "RECIPEGEN_LOG_LEVEL").map Text.lowerText) "info"
  failFast := ((lastGiven settings "fail-fast").map Setting.isOn).getD
    (((envValue? environment "RECIPEGEN_FAIL_FAST").bind parseBool).getD false)

/-! ## The layers of one setting -/

/-- A flag holds its latest value, or its default. -/
theorem valueOf_eq (flags : List Flag) (settings : Settings) (name : String) :
    valueOf flags settings name =
      (lastGiven settings name).getD (((flags.find? (·.name == name)).map (·.default)).getD (.text "")) := by
  unfold valueOf lastGiven
  cases settings.find? (·.1 == name) <;> rfl

theorem textOf_eq (flags : List Flag) (settings : Settings) (name : String) :
    textOf flags settings name = (valueOf flags settings name).asText := by
  unfold textOf
  cases valueOf flags settings name <;> rfl

theorem switchOf_eq (flags : List Flag) (settings : Settings) (name : String) :
    switchOf flags settings name = (valueOf flags settings name).isOn := by
  unfold switchOf
  cases valueOf flags settings name <;> rfl

/-- Filling in the default of a setting whose variable falls back to nothing, or to the default
itself, gives its layers. -/
theorem orDefault_getD {given fromVariable : Option String} {fallback envFallback : String}
    (falls : envFallback = "" ∨ envFallback = fallback) :
    Config.orDefault (given.getD (fromVariable.getD envFallback)) fallback = layered given fromVariable fallback := by
  unfold layered
  cases given with
  | some value => rfl
  | none =>
    cases fromVariable with
    | some value => rfl
    | none =>
      rcases falls with rfl | rfl
      · rfl
      · simp [Config.orDefault]

/-- Lower case is taken layer by layer. -/
theorem lowerText_getD (value : Option String) (fallback : String) :
    Text.lowerText (value.getD fallback) = (value.map Text.lowerText).getD (Text.lowerText fallback) := by
  cases value <;> rfl

/-! ## The environment -/

/-- The message of a variable that should be a boolean. -/
def failFastReason (value : String) : String :=
  "env: parse error on field \"FailFast\" of type \"bool\": strconv.ParseBool: parsing " ++ Text.quote value ++
    ": invalid syntax"

/-- The environment is refused exactly when `RECIPEGEN_FAIL_FAST` is set to no boolean; otherwise
it gives each flag its variable's value, when set and not empty, or its own default. -/
theorem EnvDefaults.read_cases (environment : List (String × String)) :
    (∀ reason, EnvDefaults.read environment = .error reason ↔
      ∃ value, envValue? environment "RECIPEGEN_FAIL_FAST" = some value ∧ parseBool value = none ∧
        reason = failFastReason value) ∧
    ∀ defaults, EnvDefaults.read environment = .ok defaults →
      defaults.root = (envValue? environment "RECIPEGEN_ROOT").getD "." ∧
      defaults.tablePath = (envValue? environment "RECIPEGEN_TABLE").getD "" ∧
      defaults.outDir = (envValue? environment "RECIPEGEN_OUT_DIR").getD "" ∧
      defaults.logLevel = (envValue? environment "RECIPEGEN_LOG_LEVEL").getD "info" ∧
      defaults.logFormat = (envValue? environment "RECIPEGEN_LOG_FORMAT").getD "text" ∧
      defaults.failFast = ((envValue? environment "RECIPEGEN_FAIL_FAST").bind parseBool).getD false := by
  -- the variable of the switch decides whether the environment is read at all
  cases fromVariable : envValue? environment "RECIPEGEN_FAIL_FAST" with
  | none =>
    have read : EnvDefaults.read environment = .ok
        { root := (envValue? environment "RECIPEGEN_ROOT").getD ".",
          tablePath := (envValue? environment "RECIPEGEN_TABLE").getD "",
          outDir := (envValue? environment "RECIPEGEN_OUT_DIR").getD "",
          logLevel := (envValue? environment "RECIPEGEN_LOG_LEVEL").getD "info",
          logFormat := (envValue? environment "RECIPEGEN_LOG_FORMAT").getD "text", failFast := false } := by
      unfold EnvDefaults.read
      simp only [fromVariable]
      rfl
    rw [read]
    refine ⟨fun reason => by simp, fun defaults same => ?_⟩
    cases same
    simp
  | some value =>
    cases boolean : parseBool value with
    | none =>
      have read : EnvDefaults.read environment = .error (failFastReason value) := by
        unfold EnvDefaults.read
        simp only [fromVariable, boolean]
        rfl
      rw [read]
      refine ⟨fun reason => ⟨fun same => ⟨value, rfl, boolean, (Except.error.inj same).symm⟩, ?_⟩,
        fun defaults same => by cases same⟩
      rintro ⟨_, found, -, rfl⟩
      cases found
      rfl
    | some flag =>
      have read : EnvDefaults.read environment = .ok
          { root := (envValue? environment "RECIPEGEN_ROOT").getD ".",
            tablePath := (envValue? environment "RECIPEGEN_TABLE").getD "",
            outDir := (envValue? environment "RECIPEGEN_OUT_DIR").getD "",
            logLevel := (envValue? environment "RECIPEGEN_LOG_LEVEL").getD "info",
            logFormat := (envValue? environment "RECIPEGEN_LOG_FORMAT").getD "text", failFast := flag } := by
        unfold EnvDefaults.read
        simp only [fromVariable, boolean]
        rfl
      rw [read]
      refine ⟨fun reason => by simp [boolean], fun defaults same => ?_⟩
      cases same
      simp [boolean]

/-! ## The flags -/

/-- The flags the settings come from, with the defaults the environment gave them. -/
theorem flagsFor_defaults (defaults : EnvDefaults) :
    ((flagsFor defaults).find? (·.name == "root")).map (·.default) = some (.text defaults.root) ∧
    ((flagsFor defaults).find? (·.name == "table")).map (·.default) = some (.text defaults.tablePath) ∧
    ((flagsFor defaults).find? (·.name == "out")).map (·.default) = some (.text defaults.outDir) ∧
    ((flagsFor defaults).find? (·.name == "log-format")).map (·.default) = some (.text defaults.logFormat) ∧
    ((flagsFor defaults).find? (·.name == "log-level")).map (·.default) = some (.text defaults.logLevel) ∧
    ((flagsFor defaults).find? (·.name == "fail-fast")).map (·.default) = some (.switch defaults.failFast) := by
  simp [flagsFor]

theorem asText_getD (given : Option Setting) (fallback : String) :
    (given.getD (.text fallback)).asText = (given.map Setting.asText).getD fallback := by
  cases given <;> rfl

theorem isOn_getD (given : Option Setting) (fallback : Bool) :
    (given.getD (.switch fallback)).isOn = (given.map Setting.isOn).getD fallback := by
  cases given <;> rfl

/-! ## Checking the settings -/

/-- Checking the settings, once their defaults are filled in: the format is checked first, then
the level, and settings with both allowed run. -/
theorem make_checks {given config : Config}
    (filled :
      { given with
        root := Config.orDefault given.root ".",
        tablePath := Config.orDefault given.tablePath defaultTablePath,
        outDir := Config.orDefault given.outDir defaultOutDir,
        logFormat := Config.orDefault given.logFormat "text",
        logLevel := Config.orDefault given.logLevel "info" } = config) :
    (config.logFormat ∉ ["text", "json"] →
      Config.make given = .error ("invalid log-format " ++ Text.quote config.logFormat ++ ": must be 'text' or 'json'")) ∧
    (config.logFormat ∈ ["text", "json"] → config.logLevel ∉ ["debug", "info", "warn", "error"] →
      Config.make given = .error ("invalid log-level " ++ Text.quote config.logLevel ++
        ": must be 'debug', 'info', 'warn', or 'error'")) ∧
    (config.logFormat ∈ ["text", "json"] → config.logLevel ∈ ["debug", "info", "warn", "error"] →
      Config.make given = .ok config) := by
  rw [Config.make, filled]
  refine ⟨fun refused => if_pos refused, fun format refused => ?_, fun format level => ?_⟩
  · exact (if_neg (not_not.mpr format)).trans (if_pos refused)
  · exact (if_neg (not_not.mpr format)).trans (if_neg (not_not.mpr level))

/-- The settings the flags give, as they are handed on to be checked. -/
def flagSettings (defaults : EnvDefaults) (settings : Settings) : Config where
  root := textOf (flagsFor defaults) settings "root"
  tablePath := textOf (flagsFor defaults) settings "table"
  outDir := textOf (flagsFor defaults) settings "out"
  logFormat := Text.lowerText (textOf (flagsFor defaults) settings "log-format")
  logLevel := Text.lowerText (textOf (flagsFor defaults) settings "log-level")
  failFast := switchOf (flagsFor defaults) settings "fail-fast"

/-- The settings the flags read against the environment's defaults, with the defaults filled in,
are the settings the layers choose. -/
theorem filled_chosen {environment : List (String × String)} {defaults : EnvDefaults}
    (envRead : EnvDefaults.read environment = .ok defaults) (settings : Settings) :
    let given := flagSettings defaults settings
    { given with
      root := Config.orDefault given.root ".",
      tablePath := Config.orDefault given.tablePath defaultTablePath,
      outDir := Config.orDefault given.outDir defaultOutDir,
      logFormat := Config.orDefault given.logFormat "text",
      logLevel := Config.orDefault given.logLevel "info" } = chosen environment settings := by
  intro given
  obtain ⟨root, table, out, level, format, failFast⟩ := (EnvDefaults.read_cases environment).2 defaults envRead
  obtain ⟨rootFlag, tableFlag, outFlag, formatFlag, levelFlag, failFastFlag⟩ := flagsFor_defaults defaults
  -- each text flag reads its latest value or the variable's, and lower case is taken per layer
  have lowerFormat : Text.lowerText "text" = "text" := by decide
  have lowerLevel : Text.lowerText "info" = "info" := by decide
  simp only [given, flagSettings, chosen, textOf_eq, switchOf_eq, valueOf_eq, rootFlag, tableFlag, outFlag,
    formatFlag, levelFlag, failFastFlag, Option.getD_some, asText_getD, isOn_getD,
    root, table, out, level, format, failFast, lowerText_getD, lowerFormat, lowerLevel, Option.map_map,
    Function.comp_def]
  rw [orDefault_getD (.inr rfl), orDefault_getD (.inl rfl), orDefault_getD (.inl rfl), orDefault_getD (.inr rfl),
    orDefault_getD (.inr rfl)]

/-! ## The outcomes -/

section Outcomes

variable {arguments : List String} {environment : List (String × String)} {defaults : EnvDefaults}
  (envRead : EnvDefaults.read environment = .ok defaults)
include envRead

theorem parse_help (flagsRead : read (flagsFor defaults) arguments [] = .error .help) :
    parse arguments environment = ⟨.ok .done, usageText (flagsFor defaults)⟩ := by
  simp only [parse, envRead, flagsRead]

theorem parse_malformed {message : String} (flagsRead : read (flagsFor defaults) arguments [] = .error (.failure message)) :
    parse arguments environment =
      ⟨.error (.exit usageExitCode message), message ++ "\n" ++ usageText (flagsFor defaults)⟩ := by
  simp only [parse, envRead, flagsRead]

theorem parse_leftover {settings : Settings} {leftover : List String}
    (flagsRead : read (flagsFor defaults) arguments [] = .ok (settings, leftover)) (remaining : leftover ≠ []) :
    parse arguments environment =
      ⟨.error (.exit usageExitCode ("unexpected arguments: " ++ " ".intercalate leftover)), ""⟩ := by
  have notEmpty : (!leftover.isEmpty) = true := by simpa using remaining
  simp only [parse, envRead, flagsRead, notEmpty, if_true]

theorem parse_schema {settings : Settings} (flagsRead : read (flagsFor defaults) arguments [] = .ok (settings, []))
    (schema : switchOf (flagsFor defaults) settings "schema" = true) :
    parse arguments environment = ⟨.ok .done, Recipe.schemaText ++ "\n"⟩ := by
  simp only [parse, envRead, flagsRead, schema, List.isEmpty_nil, Bool.not_true, Bool.false_eq_true, if_false,
    if_true]

theorem parse_runs {settings : Settings} (flagsRead : read (flagsFor defaults) arguments [] = .ok (settings, []))
    (noSchema : switchOf (flagsFor defaults) settings "schema" = false) {config : Config}
    (made : Config.make (flagSettings defaults settings) = .ok config) :
    parse arguments environment = ⟨.ok (.run config), ""⟩ := by
  unfold flagSettings at made
  simp only [parse, envRead, flagsRead, noSchema, List.isEmpty_nil, Bool.not_true, Bool.false_eq_true, if_false,
    made]

theorem parse_refused {settings : Settings} (flagsRead : read (flagsFor defaults) arguments [] = .ok (settings, []))
    (noSchema : switchOf (flagsFor defaults) settings "schema" = false) {reason : String}
    (refused : Config.make (flagSettings defaults settings) = .error reason) :
    parse arguments environment = ⟨.error (.exit usageExitCode reason), ""⟩ := by
  unfold flagSettings at refused
  simp only [parse, envRead, flagsRead, noSchema, List.isEmpty_nil, Bool.not_true, Bool.false_eq_true, if_false,
    refused]

end Outcomes

/-- How reading a command line ends. -/
structure ReadsCommandLine (arguments : List String) (environment : List (String × String)) : Prop where
  environment_first : ∀ reason, EnvDefaults.read environment = .error reason →
    parse arguments environment = ⟨.error (.exit 2 ("invalid environment: " ++ reason)), ""⟩
  environment_refused : ∀ reason, EnvDefaults.read environment = .error reason ↔
    ∃ value, envValue? environment "RECIPEGEN_FAIL_FAST" = some value ∧ parseBool value = none ∧
      reason = failFastReason value
  help : ∀ defaults, EnvDefaults.read environment = .ok defaults →
    read (flagsFor defaults) arguments [] = .error .help →
    parse arguments environment = ⟨.ok .done, usageText (flagsFor defaults)⟩
  malformed : ∀ defaults message, EnvDefaults.read environment = .ok defaults →
    read (flagsFor defaults) arguments [] = .error (.failure message) →
    parse arguments environment = ⟨.error (.exit 2 message), message ++ "\n" ++ usageText (flagsFor defaults)⟩
  leftover : ∀ defaults settings leftover, EnvDefaults.read environment = .ok defaults →
    read (flagsFor defaults) arguments [] = .ok (settings, leftover) → leftover ≠ [] →
    parse arguments environment = ⟨.error (.exit 2 ("unexpected arguments: " ++ " ".intercalate leftover)), ""⟩
  schema : ∀ defaults settings, EnvDefaults.read environment = .ok defaults →
    read (flagsFor defaults) arguments [] = .ok (settings, []) → switchOf (flagsFor defaults) settings "schema" = true →
    parse arguments environment = ⟨.ok .done, Recipe.schemaText ++ "\n"⟩
  settled : ∀ defaults settings, EnvDefaults.read environment = .ok defaults →
    read (flagsFor defaults) arguments [] = .ok (settings, []) → switchOf (flagsFor defaults) settings "schema" = false →
    ((chosen environment settings).logFormat ∈ ["text", "json"] →
      (chosen environment settings).logLevel ∈ ["debug", "info", "warn", "error"] →
      parse arguments environment = ⟨.ok (.run (chosen environment settings)), ""⟩) ∧
    ((chosen environment settings).logFormat ∉ ["text", "json"] →
      parse arguments environment = ⟨.error (.exit 2 ("invalid log-format " ++
        Text.quote (chosen environment settings).logFormat ++ ": must be 'text' or 'json'")), ""⟩) ∧
    ((chosen environment settings).logFormat ∈ ["text", "json"] →
      (chosen environment settings).logLevel ∉ ["debug", "info", "warn", "error"] →
      parse arguments environment = ⟨.error (.exit 2 ("invalid log-level " ++
        Text.quote (chosen environment settings).logLevel ++ ": must be 'debug', 'info', 'warn', or 'error'")), ""⟩)

/-- Reading a command line: the environment first, then help, malformed flags, leftover
arguments and the schema, and otherwise the layered settings, checked. -/
theorem parse_outcomes (arguments : List String) (environment : List (String × String)) :
    ReadsCommandLine arguments environment where
  environment_first reason refused := parse_unreadable_environment arguments environment reason refused
  environment_refused := (EnvDefaults.read_cases environment).1
  help _ envRead flagsRead := parse_help envRead flagsRead
  malformed _ _ envRead flagsRead := parse_malformed envRead flagsRead
  leftover _ _ _ envRead flagsRead remaining := parse_leftover envRead flagsRead remaining
  schema _ _ envRead flagsRead asked := parse_schema envRead flagsRead asked
  settled defaults settings envRead flagsRead noSchema := by
    obtain ⟨formatRefused, levelRefused, accepted⟩ := make_checks (filled_chosen envRead settings)
    exact ⟨fun format level => parse_runs envRead flagsRead noSchema (accepted format level),
      fun refused => parse_refused envRead flagsRead noSchema (formatRefused refused),
      fun format refused => parse_refused envRead flagsRead noSchema (levelRefused format refused)⟩

/-- The settings a command line runs with, if it runs. -/
def Parse.config? (parsed : Parse) : Option Config :=
  match parsed.result with
  | .ok (.run config) => some config
  | _ => none

/-- Empty values are not refused: a log format flag given an empty value runs with the text
format, and an empty fail-fast variable runs as if it were not set. -/
theorem parse_empty_values_run :
    (parse ["-log-format="] []).config?.map Config.logFormat = some "text" ∧
      (parse [] [("RECIPEGEN_FAIL_FAST", "")]).config?.map Config.failFast = some false := by
  decide +kernel

end Alembic.Cli
