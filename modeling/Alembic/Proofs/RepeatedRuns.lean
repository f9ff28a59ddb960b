import Alembic.Proofs.Probes
/-! # Running the batch twice -/

namespace Alembic.App

open Files Files.Tree Alembic.Path Resolve Recipe

/-- The resources a run writes over a tree: those of the records that compile, when the table
loads and the compile runs to its end; none otherwise. -/
def Runner.writes (runner : Runner) (tree : Files.Tree) : List Artifact :=
  match Table.load tree runner.logger runner.config.table with
  | (.error _, _) => []
  | (.ok table, _) =>
    match runner.compileAll tree { compiler := runner.compiler } table.records with
    | .ok progress => progress.artifacts
    | .error _ => []

/-- Every write a run makes over a tree succeeds: the output directory is made when there is
something to write, and then each resource is written in turn. -/
def Runner.WritesSucceed (runner : Runner) (tree : Files.Tree) : Prop :=
  runner.writes tree = [] ∨ ∃ prepared final, tree.makeDirectories runner.config.output = .ok prepared ∧
    (runner.writes tree).foldlM (fun tree artifact => Files.writeAtomic tree artifact.path artifact.text.toUTF8)
      prepared = .ok final

theorem writeAll_withCompiler (runner : Runner) (compiler : Compile.Compiler) (artifacts : List Artifact) :
    ∀ (tree : Files.Tree) (stdout : String),
      ({ runner with compiler }).writeAll tree stdout artifacts = runner.writeAll tree stdout artifacts := by
  induction artifacts with
  | nil => intro tree stdout; rfl
  | cons artifact rest ih =>
    intro tree stdout
    rw [writeAll_cons, writeAll_cons]
    cases Files.writeAtomic tree artifact.path artifact.text.toUTF8 with
    | error failure => rfl
    | ok next =>
      dsimp only
      rw [ih]
      rfl

/-- Runners that differ only in compilers agreeing on the tree run alike. -/
theorem run_agree (runner : Runner) {tree : Files.Tree} {compiler other : Compile.Compiler}
    (agree : Compile.Agree tree compiler other) :
    ({ runner with compiler }).run tree = ({ runner with compiler := other }).run tree := by
  unfold Runner.run
  simp only [compileAll_withCompiler, writeAll_withCompiler]
  split
  · rfl
  · next table lines loaded =>
    split
    · rfl
    · -- the two compiles stop alike or go on alike, and nothing after them reads the compiler
      rcases (@compileAll_alike runner tree table.records { compiler } { compiler := other } agree rfl).cases with
        ⟨stop, first, second⟩ | ⟨progress, changed, first, second⟩ <;> rw [first, second]

theorem writes_agree (runner : Runner) {tree : Files.Tree} {compiler other : Compile.Compiler}
    (agree : Compile.Agree tree compiler other) :
    ({ runner with compiler }).writes tree = ({ runner with compiler := other }).writes tree := by
  unfold Runner.writes
  simp only [compileAll_withCompiler]
  split
  · rfl
  · next table lines loaded =>
    rcases (@compileAll_alike runner tree table.records { compiler } { compiler := other } agree rfl).cases with
      ⟨stop, first, second⟩ | ⟨progress, changed, first, second⟩ <;> rw [first, second]

/-- A record that compiles found the resource file of its result in one of the folders. -/
theorem outcome_found {runner : Runner} {tree : Files.Tree} {earlier : List Table.Record} {record : Table.Record}
    {definition : Definition} {text : String} (compiled : runner.outcome tree earlier record = .ok (definition, text)) :
    ∃ name, Plain name ∧ ∃ folder ∈ runner.compiler.resolver.folders, ∃ data,
      tree.stat (join [folder.dir, name]) = .ok (.file data) := by
  obtain ⟨-, -, emitted⟩ := outcome_eq_ok.mp compiled
  have compileOk : ∃ result, (runner.compiler.fresh.compile tree runner.logger definition).1.1 = .ok result := by
    simp only [Compile.Compiler.emit] at emitted
    cases compiledResult : (runner.compiler.fresh.compile tree runner.logger definition).1.1 with
    | error failure =>
      rw [compiledResult] at emitted
      cases emitted
    | ok result => exact ⟨result, rfl⟩
  obtain ⟨result, compileOk⟩ := compileOk
  obtain ⟨resultPath, -, -, resolved, -⟩ := Compile.compile_eq_ok compileOk
  have sound : runner.compiler.fresh.resolver.Sound tree := Resolver.sound_fresh tree _
  rw [Resolver.resolve_fst sound] at resolved
  unfold lookup at resolved
  cases valid : idProblem definition.result with
  | some reason =>
    rw [valid] at resolved
    cases resolved
  | none =>
    rw [valid] at resolved
    obtain ⟨folder, member, data, found⟩ := search_found resolved
    exact ⟨_, plain_of_recipeIdProblem ((idProblem_eq_none_iff _).mp valid), folder, member, data, found⟩

section Made

variable {config : Config} {cancelled : Bool} {tree : Files.Tree} {records : List Table.Record}
  {progress : Progress}

/-- Every resource a run collects is a resource file directly inside the output directory. -/
theorem artifacts_inside
    (compiled : (Runner.make config cancelled).1.compileAll tree
      { compiler := (Runner.make config cancelled).1.compiler } records = .ok progress) :
    ∀ artifact ∈ progress.artifacts, ∃ name, Plain name ∧ ext name = ".tres" ∧
      artifact.path = join [config.output, name] := by
  intro artifact member
  rw [(compileAll_collects compiled).1] at member
  obtain ⟨before, record, after, definition, text, -, outcome, rfl⟩ := exists_of_mem_artifactsOf records member
  obtain ⟨decoded, -, -⟩ := outcome_eq_ok.mp outcome
  exact ⟨_, plain_resourceName decoded, ext_resourceName _, rfl⟩

/-- A run that collects a resource found a resource file in a default folder. -/
theorem artifacts_found
    (compiled : (Runner.make config cancelled).1.compileAll tree
      { compiler := (Runner.make config cancelled).1.compiler } records = .ok progress)
    {artifact : Artifact} (member : artifact ∈ progress.artifacts) :
    ∃ name, Plain name ∧ ∃ folder ∈ defaultFolders config.root, ∃ data,
      tree.stat (join [folder.dir, name]) = .ok (.file data) := by
  rw [(compileAll_collects compiled).1] at member
  obtain ⟨before, record, after, definition, text, -, outcome, -⟩ := exists_of_mem_artifactsOf records member
  exact outcome_found outcome

/-- No two resources a run collects are written at one path. -/
theorem artifacts_unique
    (compiled : (Runner.make config cancelled).1.compileAll tree
      { compiler := (Runner.make config cancelled).1.compiler } records = .ok progress) :
    ∀ artifact ∈ progress.artifacts, ∀ other ∈ progress.artifacts, keyOf other.path = keyOf artifact.path →
      other = artifact := by
  intro artifact member other otherMember sameKey
  rw [(compileAll_collects compiled).1] at member otherMember
  have distinct := @nodup_artifactIds (Runner.make config cancelled).1 tree records []
  apply List.inj_on_of_nodup_map distinct otherMember member
  obtain ⟨before, record, after, definition, text, -, outcome, rfl⟩ := exists_of_mem_artifactsOf records member
  obtain ⟨otherBefore, otherRecord, otherAfter, otherDefinition, otherText, -, otherOutcome, rfl⟩ :=
    exists_of_mem_artifactsOf records otherMember
  have plain := plain_resourceName (outcome_eq_ok.mp outcome).1
  have otherPlain := plain_resourceName (outcome_eq_ok.mp otherOutcome).1
  simp only [Runner.artifactOf] at sameKey ⊢
  rw [keyOf_join_plain _ plain, keyOf_join_plain _ otherPlain] at sameKey
  simpa using (childKey_inj otherPlain.2.1 plain.2.1 sameKey).2

end Made

/-- A run that writes nothing leaves the tree as it was. -/
theorem run_tree_of_writes_nil {runner : Runner} {tree : Files.Tree} (nothing : runner.writes tree = []) :
    (runner.run tree).tree = tree := by
  cases loaded : Table.load tree runner.logger runner.config.table with
  | mk result lines =>
    cases result with
    | error failure => exact (run_unloadable loaded).2.2
    | ok table =>
      by_cases empty : table.records = []
      · exact (run_empty loaded empty).2.2
      · cases compiled : runner.compileAll tree { compiler := runner.compiler } table.records with
        | error stop => exact (run_stopped loaded empty compiled).2.2
        | ok progress =>
          have none : progress.artifacts = [] := by simpa [Runner.writes, loaded, compiled] using nothing
          exact (run_written loaded empty compiled (by simp [none]; rfl) (by rw [none]; rfl)).2.2

/-- A run that writes something loaded its table, which holds records, and compiled them all. -/
theorem writes_cases {runner : Runner} {tree : Files.Tree} (something : runner.writes tree ≠ []) :
    ∃ table lines progress, Table.load tree runner.logger runner.config.table = (.ok table, lines) ∧
      table.records ≠ [] ∧ runner.compileAll tree { compiler := runner.compiler } table.records = .ok progress ∧
      progress.artifacts = runner.writes tree := by
  cases loaded : Table.load tree runner.logger runner.config.table with
  | mk result lines =>
    cases result with
    | error failure => simp [Runner.writes, loaded] at something
    | ok table =>
      cases compiled : runner.compileAll tree { compiler := runner.compiler } table.records with
      | error stop => simp [Runner.writes, loaded, compiled] at something
      | ok progress =>
        refine ⟨table, lines, progress, rfl, fun empty => ?_, compiled, by simp [Runner.writes, loaded, compiled]⟩
        rw [empty] at compiled
        simp only [Runner.compileAll, Except.ok.injEq] at compiled
        subst compiled
        simp [Runner.writes, loaded, empty, Runner.compileAll] at something

/-- Writing resources at distinct keys a second time leaves every entry as the first time did,
and after the first time each resource's key holds its text, whatever was there before. -/
theorem writes_twice {artifacts : List Artifact}
    (unique : ∀ artifact ∈ artifacts, ∀ other ∈ artifacts, keyOf other.path = keyOf artifact.path → other = artifact)
    {tree once twice : Files.Tree} (rooted : tree.Rooted)
    (first : artifacts.foldlM (fun tree artifact => Files.writeAtomic tree artifact.path artifact.text.toUTF8) tree =
      .ok once)
    (second : artifacts.foldlM (fun tree artifact => Files.writeAtomic tree artifact.path artifact.text.toUTF8) once =
      .ok twice) :
    (∀ key, twice.find? key = once.find? key) ∧
      ∀ artifact ∈ artifacts, once.find? (keyOf artifact.path) = some (.file artifact.text.toUTF8) := by
  obtain ⟨onceRooted, -, onceHeld⟩ := foldlM_writeAtomic _ _ artifacts rooted first
  have twiceHeld := (foldlM_writeAtomic _ _ artifacts onceRooted second).2.2
  refine ⟨fun key => by rw [twiceHeld key, onceHeld key, lastWritten_twice], fun artifact member => ?_⟩
  rw [onceHeld]
  refine lastWritten_of_all (fun other otherMember sameKey => ?_) ⟨artifact, member, rfl⟩ _
  rw [unique artifact member other otherMember sameKey]

/-- The second of two runs over a tree the first one wrote into: it loads the same table, compiles
alike, writes the same files over what the first one wrote, and so ends as the first did. -/
theorem run_again_written {config : Config} {cancelled : Bool} {tree : Files.Tree} (rooted : tree.Rooted)
    (outside : ∀ folder ∈ defaultFolders config.root, ¬Under (keyOf config.output) (keyOf folder.dir))
    (cleanOutput : clean config.output = config.output) {remembered : Compile.Compiler} (remembers : Compile.Agree tree remembered (Runner.make config cancelled).1.compiler)
    (something : (Runner.make config cancelled).1.writes tree ≠ [])
    (firstWrites : (Runner.make config cancelled).1.WritesSucceed tree)
    (secondWrites : ({ (Runner.make config cancelled).1 with compiler := remembered }).WritesSucceed
      ((Runner.make config cancelled).1.run tree).tree) :
    let first := (Runner.make config cancelled).1
    let once := first.run tree
    let again := ({ first with compiler := remembered }).run once.tree
    again.result = once.result ∧ again.stdout = once.stdout ∧ (∀ key, again.tree.find? key = once.tree.find? key) ∧
      ∀ artifact ∈ first.writes tree, once.tree.find? (keyOf artifact.path) = some (.file artifact.text.toUTF8) := by
  intro first once again
  obtain ⟨table, lines, progress, loaded, nonempty, compiled, writesEq⟩ := writes_cases something
  have writing : progress.artifacts ≠ [] := writesEq ▸ something
  rcases firstWrites with none | ⟨prepared, written, made, writtenOk⟩
  · exact absurd none something
  rw [← writesEq] at writtenOk
  have frame : WrittenInto tree written config.output :=
    written_into cleanOutput (artifacts_inside compiled) rooted made writtenOk
  obtain ⟨firstResult, firstStdout, firstTree⟩ := run_written loaded nonempty compiled
    (by rw [if_neg (by simpa using writing)]; exact congrArg _ made)
    (writeAll_ok first progress.artifacts prepared written "" writtenOk)
  -- some record found its result, so the resources directory of the root was a directory, and
  -- nothing written changes a lookup or the table
  obtain ⟨artifact, member⟩ := List.exists_mem_of_ne_nil _ writing
  obtain ⟨name, plain, folder, folderMember, data, found⟩ := artifacts_found compiled member
  have sameLookups := frame.sameLookups rooted outside (resources_directory rooted plain folderMember found)
  have loadedAgain : Table.load written first.logger first.config.table = (.ok table, lines) :=
    frame.load rooted loaded
  have compiledAgain : first.compileAll written { compiler := first.compiler } table.records = .ok progress := by
    rw [compileAll_congr sameLookups first table.records rfl]
    exact compiled
  have secondAgree : Compile.Agree written remembered first.compiler :=
    remembers.transfer (remembers.folders ▸ sameLookups)
  have sameRun : again = first.run written := by
    show ({ first with compiler := remembered }).run once.tree = first.run written
    rw [firstTree]
    exact run_agree first secondAgree
  have writesAgain : ({ first with compiler := remembered }).writes written = progress.artifacts := by
    rw [writes_agree first secondAgree, show ({ first with compiler := first.compiler } : Runner) = first from rfl]
    simp only [Runner.writes, loadedAgain, compiledAgain]
  change ({ first with compiler := remembered }).WritesSucceed (first.run tree).tree at secondWrites
  rw [firstTree] at secondWrites
  unfold Runner.WritesSucceed at secondWrites
  rw [writesAgain] at secondWrites
  rcases secondWrites with none | ⟨preparedAgain, twice, madeAgain, twiceOk⟩
  · exact absurd none writing
  -- the output directory is there already, so the second run makes nothing
  have preparedEq : written = preparedAgain :=
    Except.ok.inj ((makeDirectories_of_directory frame.output).symm.trans madeAgain)
  subst preparedEq
  obtain ⟨secondResult, secondStdout, secondTree⟩ := run_written loadedAgain nonempty compiledAgain
    (by rw [if_neg (by simpa using writing)]; exact congrArg _ (makeDirectories_of_directory frame.output))
    (writeAll_ok first progress.artifacts written twice "" twiceOk)
  obtain ⟨sameTree, holds⟩ :=
    writes_twice (artifacts_unique compiled) (mkdirAll_made _ rooted made).1 writtenOk twiceOk
  refine ⟨?_, ?_, ?_, ?_⟩
  · rw [sameRun, secondResult, firstResult]
  · rw [sameRun, secondStdout, firstStdout]
  · intro key
    rw [sameRun, secondTree, firstTree, sameTree]
  · rw [← writesEq, firstTree]
    exact holds

/-- Running the batch twice, the second time with a compiler that remembers only lookups, gives
the same result, output and files, when the output lies outside both folders. -/
theorem run_idempotent {config : Config} {cancelled : Bool} {tree : Files.Tree} (rooted : tree.Rooted)
    (outside : ∀ folder ∈ defaultFolders config.root, ¬Under (keyOf config.output) (keyOf folder.dir))
    (cleanOutput : clean config.output = config.output) {remembered : Compile.Compiler} (remembers : Compile.Agree tree remembered (Runner.make config cancelled).1.compiler)
    (firstWrites : (Runner.make config cancelled).1.WritesSucceed tree)
    (secondWrites : ({ (Runner.make config cancelled).1 with compiler := remembered }).WritesSucceed
      ((Runner.make config cancelled).1.run tree).tree) :
    let first := (Runner.make config cancelled).1
    let once := first.run tree
    let again := ({ first with compiler := remembered }).run once.tree
    again.result = once.result ∧ again.stdout = once.stdout ∧ (∀ key, again.tree.find? key = once.tree.find? key) ∧
      ∀ artifact ∈ first.writes tree, once.tree.find? (keyOf artifact.path) = some (.file artifact.text.toUTF8) := by
  intro first once again
  by_cases nothing : first.writes tree = []
  · -- nothing to write: the first run leaves the tree as it was, and the second repeats it
    have unchanged : once.tree = tree := run_tree_of_writes_nil nothing
    have same : again = once := by
      show ({ first with compiler := remembered }).run once.tree = first.run tree
      rw [unchanged]
      exact run_agree first remembers
    rw [same, nothing]
    exact ⟨rfl, rfl, fun _ => rfl, by simp⟩
  · exact run_again_written rooted outside cleanOutput remembers nothing firstWrites secondWrites

theorem writesSucceed_of_isSome {runner : Runner} {tree : Files.Tree}
    (succeeded : ((tree.makeDirectories runner.config.output).toOption.bind fun prepared =>
      ((runner.writes tree).foldlM (fun tree artifact => Files.writeAtomic tree artifact.path artifact.text.toUTF8)
        prepared).toOption).isSome = true) :
    runner.WritesSucceed tree := by
  cases made : tree.makeDirectories runner.config.output with
  | error problem =>
    rw [made] at succeeded
    cases succeeded
  | ok prepared =>
    cases written : (runner.writes tree).foldlM
        (fun tree artifact => Files.writeAtomic tree artifact.path artifact.text.toUTF8) prepared with
    | error failure =>
      rw [made] at succeeded
      simp only [Except.toOption, Option.bind] at succeeded
      rw [written] at succeeded
      cases succeeded
    | ok final => exact .inr ⟨prepared, final, made, written⟩

/-- The table entry of a recipe brewing a result from water alone. -/
def waterRecipe (id result : String) : String :=
  "\x7b\"recipe_id\":\"" ++ id ++ "\",\"result\":\"" ++ result ++ "\",\"display_name\":\"\",\"tier\":1," ++
    "\"required_alchemy_level\":1,\"xp_reward\":1,\"result_count\":1,\"base_potency\":1," ++
    "\"potency_per_level\":1,\"base_liquid\":\x7b\"id\":\"water\"\x7d,\"primary_ingredient\":null," ++
    "\"catalyst\":null\x7d"

/-- A recipe table file holding the entries. -/
def tableFile (records : List String) : Node :=
  .file ("\x7b\"recipes\":[" ++ ",".intercalate records ++ "]\x7d").toUTF8

/-- A project in the default layout: water among the items, a tonic among the potions, and a
table with one recipe brewing the tonic. -/
def tonicTree : Files.Tree :=
  { entries := [("data", .directory), ("data/alchemy_recipe_table.json", tableFile [waterRecipe "brew_tonic" "tonic"]),
      ("resources", .directory), ("resources/items", .directory), ("resources/items/water.tres", .file "water".toUTF8),
      ("resources/potions", .directory), ("resources/potions/tonic.tres", .file "tonic".toUTF8)] }

theorem run_idempotent_tonic :
    (Runner.make Config.defaults false).1.writes tonicTree ≠ [] ∧
      let first := (Runner.make Config.defaults false).1
      let once := first.run tonicTree
      let again := first.run once.tree
      again.result = once.result ∧ again.stdout = once.stdout ∧
        (∀ key, again.tree.find? key = once.tree.find? key) ∧
        ∀ artifact ∈ first.writes tonicTree, once.tree.find? (keyOf artifact.path) = some (.file artifact.text.toUTF8) := by
  have writing : ((Runner.make Config.defaults false).1.writes tonicTree).isEmpty = false := by decide +kernel
  have rooted : tonicTree.Rooted := rooted_of_entries (by decide +kernel)
  have sound := Resolver.sound_fresh tonicTree (defaultFolders Config.defaults.root)
  refine ⟨by simpa using writing, run_idempotent rooted (by decide +kernel) (by decide +kernel) ⟨rfl, rfl, sound, sound⟩
    (writesSucceed_of_isSome (by decide +kernel)) (writesSucceed_of_isSome (by decide +kernel))⟩

/-- The default settings with the output directory inside the potions folder. -/
def nestedOutputConfig : Config := { Config.defaults with outDir := "resources/potions/out" }

/-- An identifier one byte longer than a file name may be. -/
def overlongId : String := "".pushn 'a' (nameLimit + 1)

/-- A project without a potions folder: water among the items, and a table with a tonic brewed
from it and an elixir whose result has an overlong name. -/
def nestedOutputTree : Files.Tree :=
  { entries := [("data", .directory),
      ("data/alchemy_recipe_table.json", tableFile [waterRecipe "tonic" "water", waterRecipe "elixir" overlongId]),
      ("resources", .directory), ("resources/items", .directory), ("resources/items/water.tres", .file "water".toUTF8)] }

/-- The context a batch that failed on a single record gives that record's failure inside the
record's own context: for a failed probe, the path probed. -/
def soleFailureContext : Except Failure Unit → String
  | .error (.batch _ [(_, .within _ (.within context _))]) => context
  | _ => ""

theorem toList_pushn (text : String) (c : Char) :
    ∀ count, (text.pushn c count).toList = text.toList ++ List.replicate count c
  | 0 => by simp [String.pushn, Nat.repeat]
  | count + 1 => by
    rw [show text.pushn c (count + 1) = (text.pushn c count).push c from rfl, String.toList_push,
      toList_pushn text c count, List.replicate_succ', List.append_assoc]

theorem utf8ByteSize_pushn (text : String) (c : Char) :
    ∀ count, (text.pushn c count).utf8ByteSize = text.utf8ByteSize + count * c.utf8Size
  | 0 => by simp [String.pushn, Nat.repeat]
  | count + 1 => by
    rw [show text.pushn c (count + 1) = (text.pushn c count).push c from rfl, String.utf8ByteSize_push,
      utf8ByteSize_pushn text c count, Nat.succ_mul, Nat.add_assoc]

/-- The overlong identifier is a valid identifier, and the name of its resource file is plain,
free of NUL and too long for a directory entry. -/
theorem overlongId_resource :
    idProblem overlongId = none ∧ Plain (overlongId ++ extension) ∧ '\x00' ∉ (overlongId ++ extension).toList ∧
      nameLimit < (overlongId ++ extension).utf8ByteSize := by
  have chars : overlongId.toList = List.replicate (nameLimit + 1) 'a' := by simp [overlongId, toList_pushn]
  have long : ∀ other : String, other.toList.length ≤ nameLimit → overlongId ≠ other := by
    intro other short same
    rw [← same, chars, List.length_replicate] at short
    omega
  have valid : idProblem overlongId = none := by
    have named : overlongId.isEmpty = false := by simpa using long "" (by simp [nameLimit])
    simp [idProblem, named, chars, long "." (by simp [nameLimit]), long ".." (by simp [nameLimit])]
  refine ⟨valid, plain_of_recipeIdProblem ((idProblem_eq_none_iff _).mp valid), ?_, ?_⟩
  · simp [String.toList_append, chars, extension]
  · have letter : 'a'.utf8Size = 1 := rfl
    have suffix : ".tres".utf8ByteSize = 5 := rfl
    simp [String.utf8ByteSize_append, overlongId, utf8ByteSize_pushn, extension, nameLimit, letter, suffix]

theorem defaultFolders_cleaned :
    clean (join [".", "resources", "potions"]) = "resources/potions" ∧
      clean (join [".", "resources", "items"]) = "resources/items" := by
  decide +kernel

/-- The probe of a resource name in a folder of the working directory. -/
theorem probe_text {dir cleaned id : String} (plain : Plain (id ++ extension)) (cleanedEq : clean dir = cleaned)
    (inner : cleaned ≠ "." ∧ cleaned ≠ "/") :
    "error probing " ++ join [dir, id ++ extension] = "error probing " ++ cleaned ++ "/" ++ id ++ ".tres" := by
  rw [probe_path plain (cleanedEq ▸ inner), cleanedEq]
  simp only [extension, String.append_assoc]

-- The two lookups below are stated for any identifier whose resource name is too long: for the
-- overlong identifier itself, the kernel would unfold it while checking the unfolded lookup.

/-- Past a potions folder that is not there, an identifier whose resource name is too long fails
on its name in the items folder. -/
theorem lookup_long_name_items {tree : Files.Tree} {id : String} (valid : idProblem id = none)
    (plain : Plain (id ++ extension)) (noNul : '\x00' ∉ (id ++ extension).toList)
    (long : nameLimit < (id ++ extension).utf8ByteSize)
    (noPotions : tree.stat "resources/potions" = .error (.onPath "stat" "resources/potions" .notFound))
    (items : tree.stat "resources/items" = .ok .directory) :
    ∃ problem, lookup tree (defaultFolders ".") id =
      .error (.within ("error probing resources/items/" ++ id ++ ".tres") (.system problem)) := by
  obtain ⟨potionsCleaned, itemsCleaned⟩ := defaultFolders_cleaned
  have potionsMissing : tree.stat (clean (join [".", "resources", "potions"])) =
      .error (.onPath "stat" "resources/potions" .notFound) := by rw [potionsCleaned]; exact noPotions
  have itemsDirectory : tree.stat (clean (join [".", "resources", "items"])) = .ok .directory := by
    rw [itemsCleaned]; exact items
  refine ⟨.onPath "stat" (join [join [".", "resources", "items"], id ++ extension]) .nameTooLong, ?_⟩
  unfold lookup
  rw [valid]
  dsimp only
  rw [defaultFolders, search_of_missing_folder plain noNul ?missing ?absent,
    search_of_long_name plain noNul ?items long, probe_text plain itemsCleaned (by decide)]
  · simp only [String.reduceAppend]
  case missing => exact potionsMissing
  case absent => rfl
  case items => exact itemsDirectory

/-- In a potions folder that is there, an identifier whose resource name is too long fails on its
name. -/
theorem lookup_long_name_potions {tree : Files.Tree} {id : String} (valid : idProblem id = none)
    (plain : Plain (id ++ extension)) (noNul : '\x00' ∉ (id ++ extension).toList)
    (long : nameLimit < (id ++ extension).utf8ByteSize)
    (potions : tree.stat "resources/potions" = .ok .directory) :
    ∃ problem, lookup tree (defaultFolders ".") id =
      .error (.within ("error probing resources/potions/" ++ id ++ ".tres") (.system problem)) := by
  have potionsCleaned := defaultFolders_cleaned.1
  have potionsDirectory : tree.stat (clean (join [".", "resources", "potions"])) = .ok .directory := by
    rw [potionsCleaned]; exact potions
  refine ⟨.onPath "stat" (join [join [".", "resources", "potions"], id ++ extension]) .nameTooLong, ?_⟩
  unfold lookup
  rw [valid]
  dsimp only
  rw [defaultFolders, search_of_long_name plain noNul ?potions long,
    probe_text plain potionsCleaned (by decide)]
  · simp only [String.reduceAppend]
  case potions => exact potionsDirectory

/-- What a run leaves when the first record of its table is the only one it writes: the output
directory made and that record's resource written, if each step succeeds. -/
def Runner.firstWritten (runner : Runner) (tree : Files.Tree) (record : Table.Record) : Option Files.Tree :=
  (runner.outcome tree [] record).toOption.bind fun compiled =>
    (tree.makeDirectories runner.config.output).toOption.bind fun prepared =>
      ([runner.artifactOf compiled.1 compiled.2].foldlM
        (fun tree artifact => Files.writeAtomic tree artifact.path artifact.text.toUTF8) prepared).toOption

theorem firstWritten_eq_some {runner : Runner} {tree : Files.Tree} {record : Table.Record} {final : Files.Tree}
    (written : runner.firstWritten tree record = some final) :
    ∃ compiled prepared, runner.outcome tree [] record = .ok compiled ∧
      tree.makeDirectories runner.config.output = .ok prepared ∧
      [runner.artifactOf compiled.1 compiled.2].foldlM
        (fun tree artifact => Files.writeAtomic tree artifact.path artifact.text.toUTF8) prepared = .ok final := by
  unfold Runner.firstWritten at written
  cases outcome : runner.outcome tree [] record with
  | error failure => simp [outcome, Except.toOption] at written
  | ok compiled =>
    cases made : tree.makeDirectories runner.config.output with
    | error problem => simp [outcome, made, Except.toOption] at written
    | ok prepared =>
      refine ⟨compiled, prepared, rfl, rfl, ?_⟩
      rw [outcome, made] at written
      simp only [Except.toOption, Option.bind] at written
      revert written
      cases [runner.artifactOf compiled.1 compiled.2].foldlM
          (fun tree artifact => Files.writeAtomic tree artifact.path artifact.text.toUTF8) prepared with
      | error failure => intro impossible; cases impossible
      | ok after => intro same; cases same; rfl

/-- A record whose result a lookup cannot find fails with the lookup's failure, in the context of
its result. -/
theorem outcome_of_lookup_error {runner : Runner} {tree : Files.Tree} {earlier : List Table.Record}
    {record : Table.Record} {definition : Definition} (decoded : decode record = .ok definition)
    (unclaimed : firstClaim earlier definition.id = none) {failure : Failure}
    (failed : lookup tree runner.compiler.resolver.folders definition.result = .error failure) :
    runner.outcome tree earlier record = .error (.within ("recipe " ++ definition.id ++ ": result") failure) := by
  have resolved : (runner.compiler.fresh.resolver.resolve tree definition.result).1 = .error failure := by
    rw [Resolver.resolve_fst_eq]
    simpa [Compile.Compiler.fresh, Resolver.cached?] using failed
  have emitted : (runner.compiler.fresh.emit tree runner.logger definition).1.1 =
      .error (.within ("recipe " ++ definition.id ++ ": result") failure) := by
    simp only [Compile.Compiler.emit]
    rw [Compile.compile_result_missing _ _ _ _ _ resolved]
    rfl
  unfold Runner.outcome
  rw [decoded]
  dsimp only
  rw [unclaimed]
  dsimp only
  rw [emitted]
  rfl

/-- A lenient run over two records, the first written and the second failing, fails with the
second's failure and leaves the first written. -/
theorem run_second_fails {runner : Runner} {tree : Files.Tree} (live : runner.cancelled = false)
    (lenient : runner.config.failFast = false) (sound : runner.compiler.resolver.Sound tree)
    {table : Table.Table} {lines : List String}
    (loaded : Table.load tree runner.logger runner.config.table = (.ok table, lines))
    {first second : Table.Record} (records : table.records = [first, second]) {failure : Failure}
    (secondFails : runner.outcome tree [first] second = .error failure) {final : Files.Tree}
    (written : runner.firstWritten tree first = some final) :
    (runner.run tree).result = .error (.batch 2 [(label second, failure)]) ∧ (runner.run tree).tree = final := by
  obtain ⟨compiled, prepared, firstOk, made, writes⟩ := firstWritten_eq_some written
  obtain ⟨progress, compiledAll, artifacts, failures⟩ :=
    compileAll_lenient live lenient table.records { compiler := runner.compiler } [] tracks_nil
      (Compile.agree_fresh sound)
  have outcomes : runner.outcomesAfter tree [] table.records = [(first, .ok compiled), (second, .error failure)] := by
    rw [records]
    simp [Runner.outcomesAfter, firstOk, secondFails]
  rw [outcomes] at artifacts failures
  simp [Runner.artifactsOf, failuresOf, Except.toOption] at artifacts failures
  have directories : (if progress.artifacts.isEmpty then .ok tree else
      (tree.makeDirectories runner.config.output).mapError fun failed =>
        (Failure.within ("failed to create output directory " ++ runner.config.output) (.system failed.1), failed.2)) =
      .ok prepared := by
    rw [artifacts, made]
    rfl
  obtain ⟨stdout, writtenAll⟩ : ∃ stdout, runner.writeAll prepared "" progress.artifacts = (.ok (), stdout, final) := by
    rw [artifacts]
    exact ⟨_, writeAll_ok runner _ prepared final "" writes⟩
  obtain ⟨result, -, after⟩ := run_written loaded (by simp [records]) compiledAll directories writtenAll
  refine ⟨?_, after⟩
  rw [result, failures, records]
  rfl

/-- The table of the nested output project, as reading its file gives it. -/
def nestedTable : Table.Table :=
  ((Table.loadData nestedOutputTree (Runner.make nestedOutputConfig false).1.logger
    nestedOutputConfig.table).1.toOption).getD default

/-- The identifier and result of a record that decodes. -/
def decodedNames (record : Table.Record) : Option (String × String) :=
  (decode record).toOption.map fun definition => (definition.id, definition.result)

/-- The tree the first run over the nested output project leaves. -/
def nestedAfterFirst : Files.Tree :=
  (nestedTable.records.head?.bind ((Runner.make nestedOutputConfig false).1.firstWritten nestedOutputTree)).getD
    default

theorem decodedNames_eq_some {record : Table.Record} {id result : String}
    (named : decodedNames record = some (id, result)) :
    ∃ definition, decode record = .ok definition ∧ definition.id = id ∧ definition.result = result := by
  unfold decodedNames at named
  cases decoded : decode record with
  | error failure => simp [decoded, Except.toOption] at named
  | ok definition =>
    simp only [decoded, Except.toOption, Option.map_some, Option.some.injEq, Prod.mk.injEq] at named
    exact ⟨definition, rfl, named.1, named.2⟩

/-- What evaluating the nested output project gives. -/
@[mk_iff] structure NestedOutputEvaluated : Prop where
  loads : (Table.loadData nestedOutputTree (Runner.make nestedOutputConfig false).1.logger
    nestedOutputConfig.table).1.isOk = true
  names : nestedTable.records.map decodedNames = [some ("tonic", "water"), some ("elixir", overlongId)]
  noPotions : nestedOutputTree.stat "resources/potions" = .error (.onPath "stat" "resources/potions" .notFound)
  items : nestedOutputTree.stat "resources/items" = .ok .directory
  parents : ∀ entry ∈ nestedOutputTree.entries, entry.1 ≠ "" →
    (nestedOutputTree.find? (parentKey entry.1)).any Node.isDirectory = true
  outputCleaned : clean nestedOutputConfig.output = nestedOutputConfig.output
  writesFirst : (nestedTable.records.head?.bind
    ((Runner.make nestedOutputConfig false).1.firstWritten nestedOutputTree)).isSome = true
  writesAgain : (nestedTable.records.head?.bind
    ((Runner.make nestedOutputConfig false).1.firstWritten nestedAfterFirst)).isSome = true
  potionsMade : nestedAfterFirst.stat "resources/potions" = .ok .directory

/-- The kernel evaluates the project once: all the facts in one decision, so that the table is read
and the first run made only once. -/
theorem nestedOutput_evaluated : NestedOutputEvaluated :=
  nestedOutputEvaluated_iff.mpr (by decide +kernel)

theorem nestedTable_loaded :
    Table.load nestedOutputTree (Runner.make nestedOutputConfig false).1.logger nestedOutputConfig.table =
      (.ok nestedTable, (Table.loadData nestedOutputTree (Runner.make nestedOutputConfig false).1.logger
        nestedOutputConfig.table).2) := by
  have loads := nestedOutput_evaluated.loads
  rw [Table.load_eq_loadData]
  revert loads
  unfold nestedTable
  cases Table.loadData nestedOutputTree (Runner.make nestedOutputConfig false).1.logger nestedOutputConfig.table with
  | mk result lines =>
    cases result with
    | error failure => intro loads; cases loads
    | ok table => intro _; rfl

/-- The nested output table holds a tonic, then an elixir whose result is the overlong identifier. -/
theorem nestedTable_records : ∃ tonic elixir definition, nestedTable.records = [tonic, elixir] ∧
    decodedId tonic = some "tonic" ∧ decode elixir = .ok definition ∧ definition.id = "elixir" ∧
      definition.result = overlongId := by
  have names := nestedOutput_evaluated.names
  obtain ⟨tonic, elixir, records⟩ : ∃ tonic elixir, nestedTable.records = [tonic, elixir] := by
    have counted := congrArg List.length names
    simp only [List.length_map, List.length_cons, List.length_nil] at counted
    exact List.length_eq_two.mp counted
  rw [records] at names
  simp only [List.map_cons, List.map_nil, List.cons.injEq, and_true] at names
  obtain ⟨tonicDefinition, tonicDecoded, tonicId, -⟩ := decodedNames_eq_some names.1
  obtain ⟨definition, decoded, elixirId, elixirResult⟩ := decodedNames_eq_some names.2
  exact ⟨tonic, elixir, definition, records, by simp [decodedId, tonicDecoded, tonicId, Except.toOption],
    decoded, elixirId, elixirResult⟩

theorem firstWritten_of_isSome {runner : Runner} {tree : Files.Tree} {records : List Table.Record}
    {first second : Table.Record} (split : records = [first, second])
    (writes : (records.head?.bind (runner.firstWritten tree)).isSome = true) :
    runner.firstWritten tree first = some ((records.head?.bind (runner.firstWritten tree)).getD default) := by
  rw [split] at writes ⊢
  obtain ⟨after, written⟩ := Option.isSome_iff_exists.mp writes
  rw [written]
  simp only [List.head?_cons, Option.bind_some] at written
  rw [written]
  rfl

/-- The first run over the nested output project writes the tonic and fails on the elixir's
result in the items folder. -/
theorem nestedOutput_first_run :
    soleFailureContext ((Runner.make nestedOutputConfig false).1.run nestedOutputTree).result =
        "error probing resources/items/" ++ overlongId ++ ".tres" ∧
      ((Runner.make nestedOutputConfig false).1.run nestedOutputTree).tree = nestedAfterFirst := by
  obtain ⟨tonic, elixir, definition, records, tonicId, decoded, elixirId, elixirResult⟩ := nestedTable_records
  obtain ⟨valid, plain, noNul, long⟩ := overlongId_resource
  obtain ⟨problem, failed⟩ :=
    lookup_long_name_items valid plain noNul long nestedOutput_evaluated.noPotions nestedOutput_evaluated.items
  have unclaimed : firstClaim [tonic] definition.id = none := by simp [firstClaim, tonicId, elixirId]
  have elixirFails : (Runner.make nestedOutputConfig false).1.outcome nestedOutputTree [tonic] elixir =
      .error (.within ("recipe " ++ definition.id ++ ": result")
        (.within ("error probing resources/items/" ++ overlongId ++ ".tres") (.system problem))) :=
    outcome_of_lookup_error decoded unclaimed (by rw [elixirResult]; exact failed)
  obtain ⟨result, after⟩ := run_second_fails rfl rfl (sound_make _ _ _) nestedTable_loaded records elixirFails
    (firstWritten_of_isSome records nestedOutput_evaluated.writesFirst)
  exact ⟨by rw [result]; rfl, after⟩

/-- The second run over the nested output project, where the first made the potions folder, fails
on the elixir's result there. -/
theorem nestedOutput_second_run :
    soleFailureContext ((Runner.make nestedOutputConfig false).1.run nestedAfterFirst).result =
      "error probing resources/potions/" ++ overlongId ++ ".tres" := by
  obtain ⟨tonic, elixir, definition, records, tonicId, decoded, elixirId, elixirResult⟩ := nestedTable_records
  -- the first run wrote only into the output directory, so the table loads as before
  have loaded : Table.load nestedAfterFirst (Runner.make nestedOutputConfig false).1.logger
      nestedOutputConfig.table = (.ok nestedTable, (Table.loadData nestedOutputTree
        (Runner.make nestedOutputConfig false).1.logger nestedOutputConfig.table).2) := by
    obtain ⟨compiled, prepared, tonicOk, made, writes⟩ :=
      firstWritten_eq_some (firstWritten_of_isSome records nestedOutput_evaluated.writesFirst)
    have rooted : nestedOutputTree.Rooted := rooted_of_entries nestedOutput_evaluated.parents
    have resources : ∀ artifact ∈ [(Runner.make nestedOutputConfig false).1.artifactOf compiled.1 compiled.2],
        ∃ name, Plain name ∧ ext name = ".tres" ∧ artifact.path = join [nestedOutputConfig.output, name] := by
      intro artifact member
      rw [List.mem_singleton] at member
      subst member
      exact ⟨_, plain_resourceName (outcome_eq_ok.mp tonicOk).1, ext_resourceName _, rfl⟩
    have frame : WrittenInto nestedOutputTree nestedAfterFirst nestedOutputConfig.output :=
      written_into nestedOutput_evaluated.outputCleaned resources rooted made writes
    exact frame.load rooted nestedTable_loaded
  obtain ⟨valid, plain, noNul, long⟩ := overlongId_resource
  obtain ⟨problem, failed⟩ := lookup_long_name_potions valid plain noNul long nestedOutput_evaluated.potionsMade
  have unclaimed : firstClaim [tonic] definition.id = none := by simp [firstClaim, tonicId, elixirId]
  have elixirFails : (Runner.make nestedOutputConfig false).1.outcome nestedAfterFirst [tonic] elixir =
      .error (.within ("recipe " ++ definition.id ++ ": result")
        (.within ("error probing resources/potions/" ++ overlongId ++ ".tres") (.system problem))) :=
    outcome_of_lookup_error decoded unclaimed (by rw [elixirResult]; exact failed)
  obtain ⟨result, -⟩ := run_second_fails rfl rfl (sound_make _ _ _) loaded records elixirFails
    (firstWritten_of_isSome records nestedOutput_evaluated.writesAgain)
  rw [result]
  rfl

/-- With the output directory inside a potions folder not there yet, the two runs fail
differently. -/
theorem run_twice_nested_output_differs :
    soleFailureContext ((Runner.make nestedOutputConfig false).1.run nestedOutputTree).result =
        "error probing resources/items/" ++ overlongId ++ ".tres" ∧
      soleFailureContext ((Runner.make nestedOutputConfig false).1.run
        ((Runner.make nestedOutputConfig false).1.run nestedOutputTree).tree).result =
        "error probing resources/potions/" ++ overlongId ++ ".tres" ∧
      ((Runner.make nestedOutputConfig false).1.run ((Runner.make nestedOutputConfig false).1.run
        nestedOutputTree).tree).result ≠ ((Runner.make nestedOutputConfig false).1.run nestedOutputTree).result := by
  obtain ⟨firstContext, firstTree⟩ := nestedOutput_first_run
  have secondContext := nestedOutput_second_run
  rw [← firstTree] at secondContext
  refine ⟨firstContext, secondContext, fun same => ?_⟩
  have differ : ("error probing resources/items/" ++ overlongId ++ ".tres").toList ≠
      ("error probing resources/potions/" ++ overlongId ++ ".tres").toList := by
    simp [String.toList_append]
  exact differ (congrArg String.toList
    (firstContext.symm.trans ((congrArg soleFailureContext same).symm.trans secondContext)))

end Alembic.App
