import Alembic.Image.Jpeg.Decode
import Alembic.Image.Background
import Alembic.Image.Png
import Alembic.Files.Find
import Alembic.Files.Atomic
import Alembic.Failure
import Alembic.Logging.Logger
import Alembic.Table.Value
/-! # Converting a directory of pictures -/

namespace Alembic.Image

/-- How pictures are converted. -/
structure Options where
  /-- The value red, green and blue must all exceed for a pixel to count as background. -/
  threshold : Nat := 240
  /-- The longest side a picture may keep; zero or less keeps every size. -/
  maxSize : Int := 0
  deriving Repr

/-- The directory of ingredient pictures, from the project root. -/
def defaultDirectory : String := "resources/assets/ingredients"

/-- The extensions of JPEG files. -/
def jpegExtensions : List String := [".jpg", ".jpeg"]

/-- What a run over a directory did. -/
structure Summary where
  processed : Nat
  total : Nat
  /-- The files that failed, each with its failure: a map by path, held sorted by path. -/
  failed : List (String × Failure)

/-- A run over a directory: its summary, unless the directory failed; its failure, if any; the
log lines written; and the files afterwards. -/
structure Run where
  summary : Option Summary
  failure : Option Failure
  log : List String
  tree : Files.Tree

/-- The PNG file of a picture, or the failure to encode it: a picture without pixels has no
PNG. -/
def encodePicture (path : String) (raster : Raster) : Except Failure ByteArray :=
  if raster.width = 0 ∨ raster.height = 0 then
    .error (.within ("failed to encode " ++ path)
      (.plain ("png: invalid format: invalid image size: " ++ toString raster.width ++ "x" ++
        toString raster.height)))
  else .ok (Png.encode raster)

/-- The PNG file a JPEG file converts to, or the failure to read, decode or encode it. -/
def convertFile (tree : Files.Tree) (input output : String) (options : Options) :
    Except Failure ByteArray := do
  let bytes ← (tree.readFile input).mapError Failure.system
  let picture ← (Jpeg.decode bytes).mapError fun problem =>
    .within ("failed to decode " ++ input) (.plain problem.message)
  encodePicture output (removeBackground (fit picture options.maxSize).1 options.threshold)

/-- Converts one JPEG file to a PNG file. A failure gives the tree as it left it. -/
def processFile (tree : Files.Tree) (input output : String) (options : Options) :
    Except (Failure × Files.Tree) Files.Tree :=
  match convertFile tree input output options with
  | .error failure => .error (failure, tree)
  | .ok png => Files.writeAtomic tree output png

/-- The failures by path, with the failure of one more path set. -/
def recordFailure (failed : List (String × Failure)) (input : String) (failure : Failure) :
    List (String × Failure) :=
  Table.setEntry failed input failure

/-- Converts the files in order, from a summary of those done. -/
def processFiles (logger : Logging.Logger) (options : Options) (cancelled : Bool) :
    List String → Summary × List String × Files.Tree → Run
  | [], (summary, log, tree) => { summary := some summary, failure := none, log, tree }
  | input :: rest, (summary, log, tree) =>
    if cancelled then { summary := some summary, failure := some .canceled, log, tree }
    else
      let output := Path.pngPath input
      match processFile tree input output options with
      | .error (problem, left) =>
        let line := logger.emit Logging.error "Image failed."
          [("input", .text input), ("error", .text problem.message)]
        processFiles logger options cancelled rest
          ({ summary with failed := recordFailure summary.failed input problem }, log ++ line, left)
      | .ok tree =>
        let line := logger.emit Logging.debug "Image processed."
          [("input", .text (Path.base input)), ("output", .text (Path.base output))]
        processFiles logger options cancelled rest
          ({ summary with processed := summary.processed + 1 }, log ++ line, tree)

/-- Converts every JPEG file of a directory. -/
def processDirectory (tree : Files.Tree) (directory : String) (options : Options)
    (logger : Logging.Logger) (cancelled : Bool := false) : Run :=
  match Files.findFiles tree directory jpegExtensions with
  | none | some (.ok []) =>
    { summary := none, failure := some (.noImages directory), log := [], tree }
  | some (.error problem) =>
    { summary := none, failure := some (.within ("failed to list " ++ directory) (.system problem)),
      log := [], tree }
  | some (.ok files) =>
    let start := logger.emit Logging.info "Processing images."
      [("dir", .text directory), ("count", .int files.length), ("max_size", .int options.maxSize)]
    processFiles logger options cancelled files
      ({ processed := 0, total := files.length, failed := [] }, start, tree)

end Alembic.Image
