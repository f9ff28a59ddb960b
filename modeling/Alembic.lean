import Alembic.Number.Rounding
import Alembic.Number.Shortest
import Alembic.Number.Double
import Alembic.Number.Precise
import Alembic.Number.Literal
import Alembic.Text.Printable
import Alembic.Text.Quoted
import Alembic.Failure
import Alembic.Resource.Value
import Alembic.Resource.Document
import Alembic.Resource.Registry
import Alembic.Recipe.Model
import Alembic.Files.Path
import Alembic.Files.Tree
import Alembic.Files.Atomic
import Alembic.Files.Find
import Alembic.Resolve.Resolver
import Alembic.Text.Utf8
import Alembic.Text.Grapheme
import Alembic.Table.Value
import Alembic.Table.Convert
import Alembic.Table.Diagnostic
import Alembic.Table.Json.Scanner
import Alembic.Table.Json.Literals
import Alembic.Table.Json.Parser
import Alembic.Table.Native.Token
import Alembic.Table.Native.Scanner
import Alembic.Table.Native.Syntax
import Alembic.Table.Native.Literal
import Alembic.Table.Native.Template
import Alembic.Table.Native.Parser
import Alembic.Table.Native.Document
import Alembic.Table.Native.Operations
import Alembic.Table.Native.Evaluate
import Alembic.Table.Loader
import Alembic.Logging.Logger
import Alembic.Recipe.Decode
import Alembic.Compile.Ingredients
import Alembic.Compile.Document
import Alembic.App.Config
import Alembic.App.Run
import Alembic.Text.JsonDoc
import Alembic.Recipe.Schema
import Alembic.Cli.Flags
import Alembic.Cli.Options
import Alembic.Cli.Program
import Alembic.Sample.HealingDraught
import Alembic.Sample.Project
import Alembic.Text.Numeral
import Alembic.Image.Raster
import Alembic.Image.Scale
import Alembic.Image.Background
import Alembic.Image.Png
import Alembic.Image.Jpeg.Transform
import Alembic.Image.Jpeg.Stream
import Alembic.Image.Jpeg.Huffman
import Alembic.Image.Jpeg.Frame
import Alembic.Image.Jpeg.Scan
import Alembic.Image.Jpeg.Decode
import Alembic.Image.Batch
import Alembic.Cli.Filter
import Alembic.Main
import Alembic.Proofs.Registry
import Alembic.Proofs.Compilation
import Alembic.Proofs.Assembly
import Alembic.Proofs.ResolverCache
import Alembic.Proofs.Batch
import Alembic.Proofs.Aborts
import Alembic.Proofs.CleanPaths
import Alembic.Proofs.DecodedRecipes
import Alembic.Proofs.ResourcePaths
import Alembic.Proofs.IngredientCounts
import Alembic.Proofs.ResolverRuns
import Alembic.Proofs.DocumentLines
import Alembic.Proofs.IngredientChecks
import Alembic.Proofs.RecordChecks
import Alembic.Proofs.TreeWalks
import Alembic.Proofs.TreeWrites
import Alembic.Proofs.PathKeys
import Alembic.Proofs.AtomicWrites
import Alembic.Proofs.LookupCongruence
import Alembic.Proofs.OutputFrame
import Alembic.Proofs.RepeatedRuns
import Alembic.Proofs.PictureTransforms
import Alembic.Proofs.Resolution
import Alembic.Proofs.TableLoading
import Alembic.Proofs.CommandLine
import Alembic.Proofs.StringLiterals
import Alembic.Proofs.FileSearch
import Alembic.Proofs.PictureBatch
