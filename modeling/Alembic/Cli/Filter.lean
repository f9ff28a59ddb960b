import Alembic.Cli.Flags
import Alembic.Image.Batch
/-! # The picture filter as a program -/

namespace Alembic.Cli

/-- The flags of the picture filter. -/
def filterFlags : List Flag :=
  [⟨"dir", "Directory holding the ingredient JPGs.", .text Image.defaultDirectory⟩,
   ⟨"threshold", "Pixels with R, G and B above this value become transparent (0-255).",
     .natural 240⟩,
   ⟨"max-size",
     "Scale images down so neither side exceeds this many pixels. 0 keeps the source size.",
     .integer 0⟩,
   ⟨"log-format", "Log output format. Options: 'text' or 'json'.", .text "text"⟩,
   ⟨"log-level", "Set the logging level. Options: 'debug', 'info', 'warn', 'error'.",
     .text "warn"⟩]

/-- The usage text of the picture filter. -/
def filterUsage : String := "Usage of imgfilter:\n" ++ defaultsText filterFlags

/-- What one execution of the picture filter did. -/
structure FilterSession where
  exitCode : Nat
  stdout : String
  stderr : String
  tree : Files.Tree

/-- The report of a finished run. -/
def summaryText (directory : String) (summary : Image.Summary) : String :=
  let failures := summary.failed.mergeSort fun a b => decide (a.1 ≤ b.1)
  String.join (failures.map fun (path, failure) =>
    "✗ Error processing " ++ path ++ ": " ++ failure.message ++ "\n") ++
  "\n✓ Successfully processed " ++ toString summary.processed ++ "/" ++ toString summary.total ++
    " images\nPNG files saved to: " ++ Path.clean directory ++ "\n"

/-- Runs the picture filter over a file tree; `cancelled` when an interrupt arrived before the
run. -/
def runFilter (arguments : List String) (tree : Files.Tree) (cancelled : Bool := false) :
    FilterSession :=
  let fail (written message : String) (tree : Files.Tree) : FilterSession :=
    { exitCode := 1, stdout := "", stderr := written ++ "Error: " ++ message ++ "\n", tree }
  match read filterFlags arguments [] with
  | .error .help => { exitCode := 0, stdout := "", stderr := filterUsage, tree }
  | .error (.failure message) => fail (message ++ "\n" ++ filterUsage) message tree
  | .ok (settings, _) =>
    let threshold := naturalOf filterFlags settings "threshold"
    let maxSize := integerOf filterFlags settings "max-size"
    if threshold > 255 then
      fail "" ("invalid threshold " ++ toString threshold ++ ": must be between 0 and 255") tree
    else if maxSize < 0 then
      fail "" ("invalid max-size " ++ toString maxSize ++ ": must not be negative") tree
    else
      let directory := textOf filterFlags settings "dir"
      let logger := Logging.makeLogger (textOf filterFlags settings "log-level")
        (textOf filterFlags settings "log-format")
      let run := Image.processDirectory tree directory { threshold, maxSize } logger cancelled
      let logText := String.join (run.log.map (· ++ "\n"))
      match run.failure, run.summary with
      | some failure, _ => fail logText failure.message run.tree
      | none, summary =>
        { exitCode := 0, stdout := summaryText directory (summary.getD ⟨0, 0, []⟩),
          stderr := logText, tree := run.tree }

end Alembic.Cli
