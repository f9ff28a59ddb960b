import Alembic.Proofs.FileSearch
import Alembic.Cli.Filter
/-! # The PNG files of a directory of pictures, and the account of a run over it -/

namespace Alembic.Image

open Files

/-! ## The names of the PNG files -/

theorem lowerText_append (first second : String) :
    Text.lowerText (first ++ second) = Text.lowerText first ++ Text.lowerText second := by
  simp [Text.lowerText]

/-- A path less the extension of its last element: the part its PNG file's path is built on. -/
def Path.stem (path : String) : String := String.ofList (path.toList.take (path.length - (Path.ext path).length))

theorem pngPath_eq_stem (path : String) : Path.pngPath path = Path.stem path ++ ".png" := rfl

/-- The extension of a path ends it: it is the last element from its last dot on. -/
theorem ext_suffix (path : String) : (Path.ext path).toList <:+ path.toList := by
  unfold Path.ext
  dsimp only
  split
  · next dotted =>
    set last := path.toList.reverse.takeWhile (· ≠ '/')
    have atDot : last.takeWhile (· ≠ '.') ++ ['.'] <+: last := by
      have split := List.takeWhile_append_dropWhile (p := fun c => decide (c ≠ '.')) (l := last)
      have dropped : last.dropWhile (fun c => decide (c ≠ '.')) ≠ [] := by
        intro empty
        simp only [List.dropWhile_eq_nil_iff, decide_eq_true_eq, ne_eq] at empty
        exact empty '.' (by simpa using dotted) rfl
      obtain ⟨first, rest, dropEq⟩ := List.exists_cons_of_ne_nil dropped
      have isDot : first = '.' := by
        have := List.head?_dropWhile_not (fun c => decide (c ≠ '.')) last
        rw [dropEq] at this
        simpa using this
      subst isDot
      refine ⟨rest, ?_⟩
      rw [List.append_assoc, List.singleton_append, ← dropEq, split]
    have lastPrefix : last <+: path.toList.reverse := List.takeWhile_prefix _
    rw [String.toList_ofList, ← List.reverse_prefix, List.reverse_reverse]
    exact atDot.trans lastPrefix
  · simp

/-- A path is its stem followed by its extension. -/
theorem stem_append_ext (path : String) : Path.stem path ++ Path.ext path = path := by
  obtain ⟨front, split⟩ := ext_suffix path
  have frontLength : front.length = path.length - (Path.ext path).length := by
    have := congrArg List.length split
    simp only [List.length_append, String.length_toList] at this
    omega
  apply String.ext
  rw [String.toList_append, Path.stem, String.toList_ofList, ← frontLength, ← split,
    List.take_left, split]

/-- The PNG file of a path is never a path with a JPEG extension, in any case: its name ends
with `.png`. -/
theorem pngPath_ne_of_jpeg (source : String) {path : String}
    (jpeg : Files.hasExtension jpegExtensions path = true) : Path.pngPath source ≠ path := by
  rintro rfl
  have lowered : Text.lowerText (Path.pngPath source) = Text.lowerText (Path.stem source) ++ ".png" := by
    rw [pngPath_eq_stem, lowerText_append, show Text.lowerText ".png" = ".png" by decide]
  have png : ".png".toList <:+ (Text.lowerText (Path.pngPath source)).toList := by
    rw [lowered, String.toList_append]
    exact List.suffix_append _ _
  simp only [Files.hasExtension, jpegExtensions, List.any_cons, List.any_nil, Bool.or_false,
    Bool.or_eq_true, Path.endsWith_iff_suffix] at jpeg
  rcases jpeg with jpg | jpeg
  · rw [show Text.lowerText ".jpg" = ".jpg" by decide] at jpg
    have same := List.suffix_of_suffix_length_le png jpg (by decide)
    exact absurd same (by decide)
  · rw [show Text.lowerText ".jpeg" = ".jpeg" by decide] at jpeg
    have same := List.suffix_of_suffix_length_le png jpeg (by decide)
    exact absurd same (by decide)

/-- Two paths share a PNG file exactly when their stems agree, and no JPEG path is a PNG file. -/
theorem pngPath_outputs (source other path : String) :
    Path.stem source ++ Path.ext source = source ∧
      (Path.pngPath source = Path.pngPath other ↔ Path.stem source = Path.stem other) ∧
      (Files.hasExtension jpegExtensions path = true → Path.pngPath source ≠ path) := by
  refine ⟨stem_append_ext source, ?_, pngPath_ne_of_jpeg source⟩
  rw [pngPath_eq_stem, pngPath_eq_stem, ← String.toList_inj, String.toList_append, String.toList_append,
    List.append_left_inj, String.toList_inj]

/-- Two JPEG files whose names differ only in the extension share one PNG file. -/
theorem pngPath_jpeg_pair_shared :
    Files.hasExtension jpegExtensions "x.jpeg" = true ∧ Files.hasExtension jpegExtensions "x.jpg" = true ∧
      "x.jpeg" ≠ "x.jpg" ∧ Path.pngPath "x.jpeg" = Path.pngPath "x.jpg" := by
  refine ⟨?_, ?_, by decide, ?_⟩
  · simp only [Files.hasExtension, jpegExtensions, List.any_cons, List.any_nil, Bool.or_false,
      Bool.or_eq_true, Path.endsWith_iff_suffix]
    right
    decide
  · simp only [Files.hasExtension, jpegExtensions, List.any_cons, List.any_nil, Bool.or_false,
      Bool.or_eq_true, Path.endsWith_iff_suffix]
    left
    decide
  · decide

/-! ## A run over a directory -/

/-- What converting the files did, one after another, each from the tree the conversions
before it left: each file with its failure, if it failed. -/
def conversions (options : Options) : Files.Tree → List String → List (String × Option Failure)
  | _, [] => []
  | tree, input :: rest =>
    match processFile tree input (Path.pngPath input) options with
    | .error (problem, left) => (input, some problem) :: conversions options left rest
    | .ok after => (input, none) :: conversions options after rest

/-- The files that failed, with their failures, in the order they were tried. -/
def failuresOf (outcomes : List (String × Option Failure)) : List (String × Failure) :=
  outcomes.filterMap fun outcome => outcome.2.map (outcome.1, ·)

/-- How many files were converted. -/
def convertedCount (outcomes : List (String × Option Failure)) : Nat :=
  outcomes.countP fun outcome => outcome.2.isNone

@[simp] theorem failuresOf_nil : failuresOf [] = [] := rfl

@[simp] theorem failuresOf_failed (input : String) (problem : Failure) (rest : List (String × Option Failure)) :
    failuresOf ((input, some problem) :: rest) = (input, problem) :: failuresOf rest := rfl

@[simp] theorem failuresOf_converted (input : String) (rest : List (String × Option Failure)) :
    failuresOf ((input, none) :: rest) = failuresOf rest := rfl

@[simp] theorem convertedCount_nil : convertedCount [] = 0 := rfl

@[simp] theorem convertedCount_failed (input : String) (problem : Failure) (rest : List (String × Option Failure)) :
    convertedCount ((input, some problem) :: rest) = convertedCount rest := by
  simp [convertedCount]

@[simp] theorem convertedCount_converted (input : String) (rest : List (String × Option Failure)) :
    convertedCount ((input, none) :: rest) = convertedCount rest + 1 := by
  simp [convertedCount]

/-- Every file tried is either converted or failed. -/
theorem convertedCount_add_failures (outcomes : List (String × Option Failure)) :
    convertedCount outcomes + (failuresOf outcomes).length = outcomes.length := by
  induction outcomes with
  | nil => rfl
  | cons outcome rest ih =>
    obtain ⟨input, _ | problem⟩ := outcome
    · simp only [convertedCount_converted, failuresOf_converted, List.length_cons]
      omega
    · simp only [convertedCount_failed, failuresOf_failed, List.length_cons]
      omega

/-- The failed files are among the files tried, in the same order. -/
theorem failuresOf_sublist (outcomes : List (String × Option Failure)) :
    ((failuresOf outcomes).map Prod.fst).Sublist (outcomes.map Prod.fst) := by
  induction outcomes with
  | nil => exact List.Sublist.slnil
  | cons outcome rest ih =>
    obtain ⟨input, _ | problem⟩ := outcome
    · exact ih.cons input
    · exact ih.cons_cons input

/-- Looking a file up among the failures finds its failure, when each file was tried once. -/
theorem entryNamed_failuresOf {outcomes : List (String × Option Failure)} (once : (outcomes.map Prod.fst).Nodup)
    (input : String) (problem : Failure) :
    Table.entryNamed (failuresOf outcomes) input = some problem ↔ (input, some problem) ∈ outcomes := by
  induction outcomes with
  | nil => simp [Table.entryNamed]
  | cons outcome rest ih =>
    obtain ⟨tried, result⟩ := outcome
    obtain ⟨fresh, restOnce⟩ := List.nodup_cons.mp once
    cases result with
    | none =>
      rw [failuresOf_converted, ih restOnce]
      simp
    | some failed =>
      rw [failuresOf_failed]
      by_cases same : tried = input
      · subst same
        have absent : (tried, some problem) ∉ rest := fun member => fresh (List.mem_map.mpr ⟨_, member, rfl⟩)
        simp [Table.entryNamed, absent, eq_comm]
      · have passed : Table.entryNamed ((tried, failed) :: failuresOf rest) input =
            Table.entryNamed (failuresOf rest) input := by
          simp [Table.entryNamed, same]
        have other : input ≠ tried := Ne.symm same
        rw [passed, ih restOnce]
        simp [other]

/-- Each file is converted once, in the order given. -/
theorem conversions_files (options : Options) (tree : Files.Tree) (files : List String) :
    (conversions options tree files).map Prod.fst = files := by
  induction files generalizing tree with
  | nil => rfl
  | cons input rest ih =>
    cases converted : processFile tree input (Path.pngPath input) options with
    | error stopped => simp [conversions, converted, ih]
    | ok after => simp [conversions, converted, ih]

/-- Setting the entry of a name above every name of a sorted map adds it at the end. -/
theorem setEntry_of_lt {α : Type} {entries : List (String × α)} {name : String}
    (above : ∀ entry ∈ entries, entry.1 < name) (value : α) :
    Table.setEntry entries name value = entries ++ [(name, value)] := by
  induction entries with
  | nil => rfl
  | cons entry rest ih =>
    obtain ⟨key, old⟩ := entry
    have below : key < name := above _ List.mem_cons_self
    simp only [Table.setEntry, if_neg (ne_of_lt below).symm, if_neg (lt_asymm below), List.cons_append]
    rw [ih fun other member => above other (List.mem_cons_of_mem _ member)]

/-- A live run over rising files tries them all, counting the converted and mapping each failed
one to its failure. -/
theorem processFiles_live (logger : Logging.Logger) (options : Options) {files : List String}
    (rising : files.Pairwise (· < ·)) :
    ∀ (summary : Summary) (log : List String) (tree : Files.Tree),
      (∀ entry ∈ summary.failed, ∀ input ∈ files, entry.1 < input) →
      (processFiles logger options false files (summary, log, tree)).failure = none ∧
      (processFiles logger options false files (summary, log, tree)).summary =
        some { processed := summary.processed + convertedCount (conversions options tree files),
               total := summary.total,
               failed := summary.failed ++ failuresOf (conversions options tree files) } := by
  induction files with
  | nil =>
    intro summary log tree _
    simp [processFiles, conversions]
  | cons input rest ih =>
    intro summary log tree below
    obtain ⟨inputBelow, restRising⟩ := List.pairwise_cons.mp rising
    cases converted : processFile tree input (Path.pngPath input) options with
    | error stopped =>
      obtain ⟨problem, left⟩ := stopped
      have recorded : recordFailure summary.failed input problem = summary.failed ++ [(input, problem)] :=
        setEntry_of_lt (fun entry member => below entry member input List.mem_cons_self) problem
      have stillBelow : ∀ entry ∈ summary.failed ++ [(input, problem)], ∀ later ∈ rest, entry.1 < later := by
        intro entry member later laterMember
        rcases List.mem_append.mp member with old | new
        · exact below entry old later (List.mem_cons_of_mem _ laterMember)
        · rw [List.mem_singleton.mp new]
          exact inputBelow later laterMember
      obtain ⟨failure, summaryEq⟩ := ih restRising { summary with failed := summary.failed ++ [(input, problem)] }
        (log ++ logger.emit Logging.error "Image failed."
          [("input", .text input), ("error", .text problem.message)]) left stillBelow
      simp only [processFiles, conversions, converted, Bool.false_eq_true, if_false, recorded]
      refine ⟨failure, ?_⟩
      rw [summaryEq]
      simp
    | ok after =>
      obtain ⟨failure, summaryEq⟩ := ih restRising { summary with processed := summary.processed + 1 }
        (log ++ logger.emit Logging.debug "Image processed."
          [("input", .text (Path.base input)), ("output", .text (Path.base (Path.pngPath input)))]) after
        fun entry member later laterMember => below entry member later (List.mem_cons_of_mem _ laterMember)
      simp only [processFiles, conversions, converted, Bool.false_eq_true, if_false]
      refine ⟨failure, ?_⟩
      rw [summaryEq]
      simp only [convertedCount_converted, failuresOf_converted]
      congr 2
      omega

/-- The report of a run whose failures are sorted by path lists them as they are, then the count
of converted files out of all. -/
theorem summaryText_of_sorted (directory : String) (summary : Summary)
    (sorted : (summary.failed.map Prod.fst).Pairwise (· ≤ ·)) :
    Cli.summaryText directory summary =
      String.join (summary.failed.map fun failed =>
        "✗ Error processing " ++ failed.1 ++ ": " ++ failed.2.message ++ "\n") ++
      "\n✓ Successfully processed " ++ toString summary.processed ++ "/" ++ toString summary.total ++
        " images\nPNG files saved to: " ++ Path.clean directory ++ "\n" := by
  unfold Cli.summaryText
  dsimp only
  rw [List.mergeSort_of_pairwise (by simpa [List.pairwise_map] using sorted)]

/-- A live run over a directory that lists each name once accounts for every listed picture:
converted plus failed is the total, and the map of failures holds exactly the failed ones. -/
theorem processDirectory_accounts (tree : Files.Tree) (directory : String) (options : Options)
    (logger : Logging.Logger) (proper : ∀ listing, tree.readDir directory = .ok listing → ProperListing listing) :
    (Files.findFiles tree directory jpegExtensions).isSome = true ∧
    (∀ problem, Files.findFiles tree directory jpegExtensions = some (.error problem) →
      (processDirectory tree directory options logger).summary = none ∧
      (processDirectory tree directory options logger).failure =
        some (.within ("failed to list " ++ directory) (.system problem))) ∧
    (Files.findFiles tree directory jpegExtensions = some (.ok []) →
      (processDirectory tree directory options logger).summary = none ∧
      (processDirectory tree directory options logger).failure = some (.noImages directory)) ∧
    (∀ files, Files.findFiles tree directory jpegExtensions = some (.ok files) → files ≠ [] →
      files.Pairwise (· < ·) ∧ (conversions options tree files).map Prod.fst = files ∧
      (processDirectory tree directory options logger).failure = none ∧
      ∃ summary, (processDirectory tree directory options logger).summary = some summary ∧
        summary.total = files.length ∧
        summary.failed = failuresOf (conversions options tree files) ∧
        (∀ input problem, Table.entryNamed summary.failed input = some problem ↔
          (input, some problem) ∈ conversions options tree files) ∧
        summary.processed = convertedCount (conversions options tree files) ∧
        summary.processed + summary.failed.length = summary.total ∧
        Cli.summaryText directory summary =
          String.join (summary.failed.map fun failed =>
            "✗ Error processing " ++ failed.1 ++ ": " ++ failed.2.message ++ "\n") ++
          "\n✓ Successfully processed " ++ toString summary.processed ++ "/" ++ toString summary.total ++
            " images\nPNG files saved to: " ++ Path.clean directory ++ "\n") := by
  refine ⟨by simp [Files.findFiles, jpegExtensions], fun problem failed => ?_, fun empty => ?_,
    fun files listed nonempty => ?_⟩
  · simp [processDirectory, failed]
  · simp [processDirectory, empty]
  · have rising := findFiles_rising proper listed
    have started : processDirectory tree directory options logger =
        processFiles logger options false files
          ({ processed := 0, total := files.length, failed := [] },
            logger.emit Logging.info "Processing images."
              [("dir", .text directory), ("count", .int files.length), ("max_size", .int options.maxSize)], tree) := by
      obtain ⟨input, rest, rfl⟩ := List.exists_cons_of_ne_nil nonempty
      simp only [processDirectory, listed]
    obtain ⟨failure, summaryEq⟩ := processFiles_live logger options rising
      { processed := 0, total := files.length, failed := [] }
      (logger.emit Logging.info "Processing images."
        [("dir", .text directory), ("count", .int files.length), ("max_size", .int options.maxSize)]) tree
      (by simp)
    have tried := conversions_files options tree files
    have once : ((conversions options tree files).map Prod.fst).Nodup := by
      rw [tried]
      exact rising.imp ne_of_lt
    have counted := convertedCount_add_failures (conversions options tree files)
    have length : (conversions options tree files).length = files.length := by
      simpa using congrArg List.length tried
    rw [length] at counted
    have failedRising : ((failuresOf (conversions options tree files)).map Prod.fst).Pairwise (· < ·) := by
      have kept := failuresOf_sublist (conversions options tree files)
      rw [tried] at kept
      exact rising.sublist kept
    rw [started]
    refine ⟨rising, tried, failure, _, summaryEq, rfl, by simp, fun input problem => ?_, by simp,
      by simpa using counted, ?_⟩
    · simpa using entryNamed_failuresOf once input problem
    · apply summaryText_of_sorted
      simpa using failedRising.imp le_of_lt

/-- The pictures directory, listed as a file system lists it, run over with the default options. -/
theorem processDirectory_accounts_pictures :
    (∀ listing, picturesTree.readDir "pictures" = .ok listing → ProperListing listing) ∧
    (Files.findFiles picturesTree "pictures" jpegExtensions).isSome = true ∧
    (∀ problem, Files.findFiles picturesTree "pictures" jpegExtensions = some (.error problem) →
      (processDirectory picturesTree "pictures" {} (Logging.makeLogger "info" "text")).summary = none ∧
      (processDirectory picturesTree "pictures" {} (Logging.makeLogger "info" "text")).failure =
        some (.within ("failed to list " ++ "pictures") (.system problem))) ∧
    (Files.findFiles picturesTree "pictures" jpegExtensions = some (.ok []) →
      (processDirectory picturesTree "pictures" {} (Logging.makeLogger "info" "text")).summary = none ∧
      (processDirectory picturesTree "pictures" {} (Logging.makeLogger "info" "text")).failure =
        some (.noImages "pictures")) ∧
    (∀ files, Files.findFiles picturesTree "pictures" jpegExtensions = some (.ok files) → files ≠ [] →
      files.Pairwise (· < ·) ∧ (conversions {} picturesTree files).map Prod.fst = files ∧
      (processDirectory picturesTree "pictures" {} (Logging.makeLogger "info" "text")).failure = none ∧
      ∃ summary, (processDirectory picturesTree "pictures" {} (Logging.makeLogger "info" "text")).summary =
          some summary ∧
        summary.total = files.length ∧
        summary.failed = failuresOf (conversions {} picturesTree files) ∧
        (∀ input problem, Table.entryNamed summary.failed input = some problem ↔
          (input, some problem) ∈ conversions {} picturesTree files) ∧
        summary.processed = convertedCount (conversions {} picturesTree files) ∧
        summary.processed + summary.failed.length = summary.total ∧
        Cli.summaryText "pictures" summary =
          String.join (summary.failed.map fun failed =>
            "✗ Error processing " ++ failed.1 ++ ": " ++ failed.2.message ++ "\n") ++
          "\n✓ Successfully processed " ++ toString summary.processed ++ "/" ++ toString summary.total ++
            " images\nPNG files saved to: " ++ Path.clean "pictures" ++ "\n") := by
  have proper : ∀ listing, picturesTree.readDir "pictures" = .ok listing → ProperListing listing := by
    intro listing listed
    rw [readDir_pictures] at listed
    cases listed
    exact properListing_pictures
  exact ⟨proper, processDirectory_accounts picturesTree "pictures" {} (Logging.makeLogger "info" "text") proper⟩

end Alembic.Image
