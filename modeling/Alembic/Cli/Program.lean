import Alembic.Cli.Options
import Alembic.App.Run
/-! # The recipe compiler as a program -/

namespace Alembic.Cli

/-- What one execution of the program did. -/
structure Session where
  failure : Option Failure
  stdout : String
  /-- The log lines of the run. -/
  log : List String
  tree : Files.Tree

/-- The exit status for an outcome. -/
def exitCode : Option Failure → Nat
  | none => 0
  | some (.exit code _) => code
  | some _ => 1

/-- The last line written to standard error on failure. -/
def Session.errorLine (session : Session) : Option String :=
  session.failure.map Failure.message

/-- Runs the program over a file tree; `cancelled` when an interrupt arrived before the run. -/
def execute (arguments : List String) (environment : List (String × String)) (tree : Files.Tree)
    (cancelled : Bool := false) : Session :=
  let parsed := parse arguments environment
  match parsed.result with
  | .error failure => { failure := some failure, stdout := parsed.output, log := [], tree }
  | .ok .done => { failure := none, stdout := parsed.output, log := [], tree }
  | .ok (.run config) =>
    let (runner, setup) := App.Runner.make config cancelled
    let outcome := runner.run tree
    { failure := match outcome.result with
        | .ok () => none
        | .error failure => some failure,
      stdout := parsed.output ++ outcome.stdout, log := setup ++ outcome.log, tree := outcome.tree }

end Alembic.Cli
