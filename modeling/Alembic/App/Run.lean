import Alembic.App.Config
import Alembic.Compile.Document
import Alembic.Recipe.Decode
import Alembic.Files.Atomic
/-! # A batch run -/

namespace Alembic.App

open Recipe

/-- What a run produced: its outcome, what it wrote to standard output, its log lines and the
file tree afterwards. -/
structure Outcome where
  result : Except Failure Unit
  stdout : String
  log : List String
  tree : Files.Tree

/-- A compiled recipe waiting to be written. -/
structure Artifact where
  recipeId : String
  path : String
  text : String

/-- Everything a run depends on besides its files: the settings, the logger, the compiler and
whether the run was cancelled before it started. -/
structure Runner where
  config : Config
  logger : Logging.Logger
  compiler : Compile.Compiler
  cancelled : Bool := false

/-- A runner for the settings, with the lines it logs while being set up. -/
def Runner.make (config : Config) (cancelled : Bool) : Runner × List String :=
  let logger := Logging.makeLogger config.logLevel config.logFormat
  let folders := Resolve.defaultFolders config.root
  let lines := logger.emit Logging.debug "Logger configured successfully." [] ++
    folders.flatMap fun folder => logger.emit Logging.debug "Resource folder configured."
      [("dir", .text folder.dir), ("prefix", .text folder.root)]
  ({ config, logger, compiler := { resolver := { folders }, options := Compile.defaultOptions },
     cancelled }, lines)

/-- The state of compiling the records: the ids seen with their positions, the artifacts, the
failures, the log lines and the compiler. -/
structure Progress where
  seen : List (String × Nat) := []
  artifacts : List Artifact := []
  failures : List (String × Failure) := []
  log : List String := []
  compiler : Compile.Compiler

/-- Compiles one record into the text of its resource. An id is claimed by the first record
that decodes with it, whether or not that record then compiles. -/
def Runner.compileRecord (runner : Runner) (tree : Files.Tree) (compiler : Compile.Compiler)
    (seen : List (String × Nat)) (record : Table.Record) :
    (Except Failure (Definition × String) × List String) × Compile.Compiler × List (String × Nat) :=
  match decode record with
  | .error failure => ((.error failure, []), compiler, seen)
  | .ok definition =>
    match entryOf seen definition.id with
    | some first =>
      ((.error (.invalidField definition.id "recipe_id"
        ("duplicates entry #" ++ toString (first + 1))), []), compiler, seen)
    | none =>
      let seen := seen ++ [(definition.id, record.index)]
      let ((text, lines), compiler) := compiler.emit tree runner.logger definition
      ((text.map fun text => (definition, text), lines), compiler, seen)
where
  entryOf (seen : List (String × Nat)) (id : String) : Option Nat :=
    (seen.find? fun entry => entry.1 == id).map Prod.snd

/-- Compiles every record; in fail-fast mode, or when cancelled, the first failure ends it. -/
def Runner.compileAll (runner : Runner) (tree : Files.Tree) :
    Progress → List Table.Record → Except (Failure × List String) Progress
  | progress, [] => .ok progress
  | progress, record :: rest =>
    if runner.cancelled then .error (.canceled, progress.log)
    else
      let label := Recipe.label record
      let recordLogger := runner.logger.withFields [("recipe", .text label)]
      let ((compiled, lines), compiler, seen) :=
        runner.compileRecord tree progress.compiler progress.seen record
      let progress := { progress with compiler, seen, log := progress.log ++ lines }
      match compiled with
      | .error failure =>
        if runner.config.failFast then .error (failure, progress.log)
        else
          let line := recordLogger.emit Logging.error "Recipe failed, skipping."
            [("error", .text failure.message)]
          runner.compileAll tree
            { progress with failures := progress.failures ++ [(label, failure)],
                            log := progress.log ++ line } rest
        | .ok (definition, text) =>
          let line := recordLogger.emit Logging.debug "Recipe compiled." []
          let artifact : Artifact :=
            { recipeId := definition.id,
              path := Path.join [runner.config.output, definition.id ++ ".tres"], text }
          runner.compileAll tree
            { progress with artifacts := progress.artifacts ++ [artifact],
                            log := progress.log ++ line } rest

/-- A path as announced: relative to the root when it lies inside it. -/
def Runner.displayPath (runner : Runner) (path : String) : String :=
  match Path.rel runner.config.root path with
  | .ok relative => if Path.isLocal relative then relative else path
  | .error _ => path

/-- Writes the artifacts in order, announcing each; the first failure stops the writing. -/
def Runner.writeAll (runner : Runner) :
    Files.Tree → String → List Artifact → Except Failure Unit × String × Files.Tree
  | tree, stdout, [] => (.ok (), stdout, tree)
  | tree, stdout, artifact :: rest =>
    match Files.writeAtomic tree artifact.path artifact.text.toUTF8 with
    | .error (failure, left) => (.error (.within ("recipe " ++ artifact.recipeId) failure), stdout, left)
    | .ok tree =>
      runner.writeAll tree (stdout ++ "✓ Wrote " ++ runner.displayPath artifact.path ++ "\n") rest

/-- Runs the batch over a file tree. -/
def Runner.run (runner : Runner) (tree : Files.Tree) : Outcome :=
  let logger := runner.logger
  let started := logger.emit Logging.debug "App.Run method started." []
  let stop (result : Except Failure Unit) (log : List String) : Outcome :=
    { result, stdout := "", log := started ++ log, tree }
  match Table.load tree logger runner.config.table with
  | (.error failure, lines) => stop (.error failure) lines
  | (.ok table, lines) =>
    if table.records.isEmpty then
      stop (.ok ()) (lines ++ logger.emit Logging.warn "Recipe table is empty, nothing to compile."
        [("table", .text table.source)])
    else
      let loaded := lines ++ logger.emit Logging.info "Recipe table loaded."
        [("table", .text table.source), ("recipes", .int table.records.length)]
      match runner.compileAll tree { compiler := runner.compiler } table.records with
      | .error (failure, log) => stop (.error failure) (loaded ++ log)
      | .ok progress =>
        let log := loaded ++ progress.log
        let outDir := runner.config.output
        let prepared : Except (Failure × Files.Tree) Files.Tree :=
          if progress.artifacts.isEmpty then .ok tree
          else
            (tree.makeDirectories outDir).mapError fun failed =>
              (.within ("failed to create output directory " ++ outDir) (.system failed.1), failed.2)
        match prepared with
        | .error (failure, left) => { result := .error failure, stdout := "", log := started ++ log, tree := left }
        | .ok prepared =>
          let (written, stdout, tree) := runner.writeAll prepared "" progress.artifacts
          match written with
          | .error failure => { result := .error failure, stdout, log := started ++ log, tree }
          | .ok () =>
            if !progress.failures.isEmpty then
              { result := .error (.batch table.records.length progress.failures), stdout,
                log := started ++ log, tree }
            else
              { result := .ok (), stdout, tree,
                log := started ++ log ++ logger.emit Logging.info "Compilation finished."
                  [("written", .int progress.artifacts.length)] }

end Alembic.App
