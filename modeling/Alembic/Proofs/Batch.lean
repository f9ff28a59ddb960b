import Alembic.App.Run
import Alembic.Proofs.ResolverCache
import Alembic.Proofs.CleanPaths
/-! # A batch compiles every recipe on its own -/

namespace Alembic.App

open Recipe

/-- The id a record decodes to, if it decodes. -/
def decodedId (record : Table.Record) : Option String := (decode record).toOption.map Definition.id

/-- The position of the first of some records that decodes to an id. -/
def firstClaim (records : List Table.Record) (id : String) : Option Nat :=
  (records.find? fun record => decodedId record == some id).map Table.Record.index

/-- What a record comes to after the given earlier records: its decoding failure, a duplicate of
the first record that claimed its id, or the text a fresh compiler emits for it. -/
def Runner.outcome (runner : Runner) (tree : Files.Tree) (earlier : List Table.Record)
    (record : Table.Record) : Except Failure (Definition × String) :=
  match decode record with
  | .error failure => .error failure
  | .ok definition =>
    match firstClaim earlier definition.id with
    | some first =>
      .error (.invalidField definition.id "recipe_id" ("duplicates entry #" ++ toString (first + 1)))
    | none =>
      ((runner.compiler.fresh.emit tree runner.logger definition).1.1).map fun text => (definition, text)

/-- Every record with its outcome after the records before it. -/
def Runner.outcomesAfter (runner : Runner) (tree : Files.Tree) :
    List Table.Record → List Table.Record → List (Table.Record × Except Failure (Definition × String))
  | _, [] => []
  | earlier, record :: rest =>
    (record, runner.outcome tree earlier record) :: runner.outcomesAfter tree (earlier ++ [record]) rest

/-- The resource written for a compiled recipe. -/
def Runner.artifactOf (runner : Runner) (definition : Definition) (text : String) : Artifact :=
  { recipeId := definition.id, path := Path.join [runner.config.output, definition.id ++ ".tres"], text }

/-- The resources of the records that compiled, in table order. -/
def Runner.artifactsOf (runner : Runner) (outcomes : List (Table.Record × Except Failure (Definition × String))) :
    List Artifact :=
  outcomes.filterMap fun (_, outcome) => outcome.toOption.map fun (definition, text) => runner.artifactOf definition text

/-- The records that failed, each labelled, with its failure, in table order. -/
def failuresOf (outcomes : List (Table.Record × Except Failure (Definition × String))) : List (String × Failure) :=
  outcomes.filterMap fun (record, outcome) =>
    match outcome with
    | .error failure => some (label record, failure)
    | .ok _ => none

/-- The ids seen so far are those the earlier records claimed, each at its first claim. -/
def Tracks (seen : List (String × Nat)) (earlier : List Table.Record) : Prop :=
  ∀ id, Runner.compileRecord.entryOf seen id = firstClaim earlier id

theorem tracks_nil : Tracks [] [] := fun _ => rfl

theorem firstClaim_concat (earlier : List Table.Record) (record : Table.Record) (id : String) :
    firstClaim (earlier ++ [record]) id =
      (firstClaim earlier id).or (if decodedId record = some id then some record.index else none) := by
  unfold firstClaim
  rw [List.find?_append]
  cases earlier.find? (fun record => decodedId record == some id) with
  | some first => rfl
  | none => by_cases claims : decodedId record = some id <;> simp [claims]

theorem entryOf_concat (seen : List (String × Nat)) (claimed : String) (index : Nat) (id : String) :
    Runner.compileRecord.entryOf (seen ++ [(claimed, index)]) id =
      (Runner.compileRecord.entryOf seen id).or (if claimed = id then some index else none) := by
  unfold Runner.compileRecord.entryOf
  rw [List.find?_append]
  cases seen.find? (fun entry => entry.1 == id) with
  | some first => rfl
  | none => by_cases same : claimed = id <;> simp [same]

/-- One record: what compiling it gives is its outcome, the ids seen now track one more record,
and the compiler still agrees with the fresh one. -/
theorem compileRecord_step {runner : Runner} {tree : Files.Tree} {compiler : Compile.Compiler}
    {seen : List (String × Nat)} {earlier : List Table.Record} (tracks : Tracks seen earlier)
    (agree : Compile.Agree tree compiler runner.compiler.fresh) (record : Table.Record) :
    (runner.compileRecord tree compiler seen record).1.1 = runner.outcome tree earlier record ∧
      Tracks (runner.compileRecord tree compiler seen record).2.2 (earlier ++ [record]) ∧
      Compile.Agree tree (runner.compileRecord tree compiler seen record).2.1 runner.compiler.fresh := by
  unfold Runner.compileRecord Runner.outcome
  cases decoded : decode record with
  | error failure =>
    refine ⟨rfl, fun id => ?_, agree⟩
    rw [firstClaim_concat, ← tracks id]
    simp [decodedId, decoded, Except.toOption]
  | ok definition =>
    simp only
    rw [tracks definition.id]
    cases claimed : firstClaim earlier definition.id with
    | some first =>
      refine ⟨rfl, fun id => ?_, agree⟩
      rw [firstClaim_concat, ← tracks id]
      by_cases same : definition.id = id
      · subst same
        simp [tracks definition.id, claimed]
      · simp [decodedId, decoded, same, Except.toOption]
    | none =>
      obtain ⟨sameEmit, next⟩ := Compile.emit_agree agree runner.logger definition
      refine ⟨by simp [sameEmit], fun id => ?_, next⟩
      rw [entryOf_concat, firstClaim_concat, tracks id]
      simp [decodedId, decoded, Except.toOption]

/-- A live run that keeps going past failures collects the resource of every record that compiles
and the failure of every other, in table order. -/
theorem compileAll_lenient {runner : Runner} {tree : Files.Tree} (live : runner.cancelled = false)
    (lenient : runner.config.failFast = false) (records : List Table.Record) :
    ∀ (progress : Progress) (earlier : List Table.Record), Tracks progress.seen earlier →
      Compile.Agree tree progress.compiler runner.compiler.fresh →
      ∃ final, runner.compileAll tree progress records = .ok final ∧
        final.artifacts = progress.artifacts ++ runner.artifactsOf (runner.outcomesAfter tree earlier records) ∧
        final.failures = progress.failures ++ failuresOf (runner.outcomesAfter tree earlier records) := by
  induction records with
  | nil =>
    intro progress earlier _ _
    exact ⟨progress, rfl, by simp [Runner.outcomesAfter, Runner.artifactsOf],
      by simp [Runner.outcomesAfter, failuresOf]⟩
  | cons record rest ih =>
    intro progress earlier tracks agree
    obtain ⟨outcome, nextTracks, nextAgree⟩ := compileRecord_step tracks agree record
    simp only [Runner.compileAll, live, Bool.false_eq_true, if_false, lenient]
    rw [outcome]
    cases recorded : runner.outcome tree earlier record with
    | error failure =>
      refine (ih _ (earlier ++ [record]) nextTracks nextAgree).imp fun final reached => ⟨reached.1, ?_, ?_⟩
      · simp [reached.2.1, Runner.outcomesAfter, Runner.artifactsOf, recorded, Except.toOption]
      · simp [reached.2.2, Runner.outcomesAfter, failuresOf, recorded]
    | ok compiled =>
      obtain ⟨definition, text⟩ := compiled
      refine (ih _ (earlier ++ [record]) nextTracks nextAgree).imp fun final reached => ⟨reached.1, ?_, ?_⟩
      · simp [reached.2.1, Runner.outcomesAfter, Runner.artifactsOf, recorded, Except.toOption, Runner.artifactOf]
      · simp [reached.2.2, Runner.outcomesAfter, failuresOf, recorded]


/-- In fail-fast mode a live run stops at the first record that fails, with its failure. -/
theorem compileAll_failFast {runner : Runner} {tree : Files.Tree} (live : runner.cancelled = false)
    (failFast : runner.config.failFast = true) (records : List Table.Record) :
    ∀ (progress : Progress) (earlier : List Table.Record) {name : String} {failure : Failure}
      {later : List (String × Failure)}, Tracks progress.seen earlier →
      Compile.Agree tree progress.compiler runner.compiler.fresh →
      failuresOf (runner.outcomesAfter tree earlier records) = (name, failure) :: later →
      ∃ log, runner.compileAll tree progress records = .error (failure, log) := by
  induction records with
  | nil =>
    intro progress earlier name failure later _ _ first
    simp [Runner.outcomesAfter, failuresOf] at first
  | cons record rest ih =>
    intro progress earlier name failure later tracks agree first
    obtain ⟨outcome, nextTracks, nextAgree⟩ := compileRecord_step tracks agree record
    simp only [Runner.compileAll, live, Bool.false_eq_true, if_false, failFast, if_true]
    rw [outcome]
    cases recorded : runner.outcome tree earlier record with
    | error failed =>
      simp only [Runner.outcomesAfter, failuresOf, recorded, List.filterMap_cons, List.cons.injEq,
        Prod.mk.injEq] at first
      rw [first.1.2]
      exact ⟨_, rfl⟩
    | ok compiled =>
      simp only [Runner.outcomesAfter, failuresOf, recorded, List.filterMap_cons] at first
      exact ih _ (earlier ++ [record]) nextTracks nextAgree first

theorem compileAll_cancelled {runner : Runner} {tree : Files.Tree} (cancelled : runner.cancelled = true)
    (progress : Progress) (record : Table.Record) (rest : List Table.Record) :
    runner.compileAll tree progress (record :: rest) = .error (.canceled, progress.log) := by
  simp [Runner.compileAll, cancelled]

section Writing

-- the writing loop is read one write at a time, without opening the atomic write itself
attribute [local irreducible] Files.writeAtomic

theorem writeAll_nil (runner : Runner) (tree : Files.Tree) (stdout : String) :
    runner.writeAll tree stdout [] = (.ok (), stdout, tree) := rfl

theorem writeAll_cons (runner : Runner) (tree : Files.Tree) (stdout : String) (artifact : Artifact)
    (rest : List Artifact) :
    runner.writeAll tree stdout (artifact :: rest) =
      match Files.writeAtomic tree artifact.path artifact.text.toUTF8 with
      | .error (failure, left) => (.error (.within ("recipe " ++ artifact.recipeId) failure), stdout, left)
      | .ok tree => runner.writeAll tree (stdout ++ "✓ Wrote " ++ runner.displayPath artifact.path ++ "\n") rest :=
  rfl

/-- When every write succeeds, writing announces each resource in order and ends with the tree
the writes leave. -/
theorem writeAll_ok (runner : Runner) (artifacts : List Artifact) :
    ∀ (tree final : Files.Tree) (stdout : String),
      artifacts.foldlM (fun tree artifact => Files.writeAtomic tree artifact.path artifact.text.toUTF8) tree = .ok final →
      runner.writeAll tree stdout artifacts =
        (.ok (), stdout ++ String.join (artifacts.map fun artifact =>
          "✓ Wrote " ++ runner.displayPath artifact.path ++ "\n"), final) := by
  induction artifacts with
  | nil =>
    intro tree final stdout written
    simp only [List.foldlM_nil, pure, Except.pure, Except.ok.injEq] at written
    subst written
    simp only [writeAll_nil, List.map_nil, String.join_nil, String.append_empty]
  | cons artifact rest ih =>
    intro tree final stdout written
    simp only [List.foldlM_cons] at written
    cases once : Files.writeAtomic tree artifact.path artifact.text.toUTF8 with
    | error failure =>
      simp only [once, bind, Except.bind, reduceCtorEq] at written
    | ok next =>
      simp only [once, bind, Except.bind] at written
      rw [writeAll_cons, once]
      simp only
      rw [ih next final _ written]
      simp [String.append_assoc]

end Writing

@[simp] theorem make_cancelled (config : Config) (cancelled : Bool) :
    (Runner.make config cancelled).1.cancelled = cancelled := rfl

theorem sound_make (config : Config) (cancelled : Bool) (tree : Files.Tree) :
    (Runner.make config cancelled).1.compiler.resolver.Sound tree :=
  Resolve.Resolver.sound_fresh tree _

/-- A table that cannot be loaded ends the run with its failure, before any output. -/
theorem run_unloadable {runner : Runner} {tree : Files.Tree} {failure : Failure} {lines : List String}
    (unloadable : Table.load tree runner.logger runner.config.table = (.error failure, lines)) :
    (runner.run tree).result = .error failure ∧ (runner.run tree).stdout = "" ∧ (runner.run tree).tree = tree := by
  simp only [Runner.run, unloadable, and_self]

theorem run_empty {runner : Runner} {tree : Files.Tree} {table : Table.Table} {lines : List String}
    (loaded : Table.load tree runner.logger runner.config.table = (.ok table, lines)) (empty : table.records = []) :
    (runner.run tree).result = .ok () ∧ (runner.run tree).stdout = "" ∧ (runner.run tree).tree = tree := by
  simp only [Runner.run, loaded, empty, List.isEmpty_nil, if_true, and_self]

/-- A compile that stops ends the run with its failure, before any output. -/
theorem run_stopped {runner : Runner} {tree : Files.Tree} {table : Table.Table} {lines : List String}
    (loaded : Table.load tree runner.logger runner.config.table = (.ok table, lines)) (nonempty : table.records ≠ [])
    {failure : Failure} {log : List String}
    (stopped : runner.compileAll tree { compiler := runner.compiler } table.records = .error (failure, log)) :
    (runner.run tree).result = .error failure ∧ (runner.run tree).stdout = "" ∧ (runner.run tree).tree = tree := by
  simp only [Runner.run, loaded, List.isEmpty_eq_false_iff.mpr nonempty, Bool.false_eq_true, if_false, stopped,
    and_self]

/-- A run whose records were all compiled or skipped writes the resources, and then fails exactly
when some record failed. -/
theorem run_written {runner : Runner} {tree : Files.Tree} {table : Table.Table} {lines : List String}
    (loaded : Table.load tree runner.logger runner.config.table = (.ok table, lines)) (nonempty : table.records ≠ [])
    {progress : Progress} (compiled : runner.compileAll tree { compiler := runner.compiler } table.records = .ok progress)
    {prepared : Files.Tree}
    (directories : (if progress.artifacts.isEmpty then .ok tree else
      (tree.makeDirectories runner.config.output).mapError fun failed =>
        (Failure.within ("failed to create output directory " ++ runner.config.output) (.system failed.1), failed.2)) =
      .ok prepared)
    {stdout : String} {final : Files.Tree} (written : runner.writeAll prepared "" progress.artifacts = (.ok (), stdout, final)) :
    (runner.run tree).result =
        (if progress.failures.isEmpty then .ok () else .error (.batch table.records.length progress.failures)) ∧
      (runner.run tree).stdout = stdout ∧ (runner.run tree).tree = final := by
  simp only [Runner.run, loaded, List.isEmpty_eq_false_iff.mpr nonempty, Bool.false_eq_true, if_false, compiled,
    directories, written]
  by_cases allCompiled : progress.failures.isEmpty = true
  · simp only [allCompiled, Bool.not_true, Bool.false_eq_true, if_false, if_true, and_self]
  · simp only [Bool.not_eq_true] at allCompiled
    simp only [allCompiled, Bool.not_false, if_true, Bool.false_eq_true, if_false, and_self]

/-- A path inside the root, whose cleaned elements are the root's and then plain names, is
announced by those names. -/
theorem displayPath_inside (runner : Runner) {path : String} {names : List String}
    (sameRoot : Path.isAbs path = Path.isAbs runner.config.root)
    (inside : Path.kept path = Path.kept runner.config.root ++ names) (named : names ≠ [])
    (plainNames : ∀ name ∈ names, Path.Plain name) :
    runner.displayPath path = Path.joined names := by
  unfold Runner.displayPath
  simp only [Path.rel_inside sameRoot inside named, Path.isLocal_joined named plainNames, if_true]

/-- A live lenient run whose writes succeed writes every compiled resource, announces each in
table order, and fails exactly when some record failed, listing those in table order. -/
theorem run_lenient {config : Config} {tree : Files.Tree} {table : Table.Table} {lines : List String}
    (loaded : Table.load tree (Runner.make config false).1.logger config.table = (.ok table, lines))
    (lenient : config.failFast = false) {prepared : Files.Tree}
    (directories : tree.makeDirectories config.output = .ok prepared) {final : Files.Tree}
    (written : ((Runner.make config false).1.artifactsOf
        ((Runner.make config false).1.outcomesAfter tree [] table.records)).foldlM
      (fun tree artifact => Files.writeAtomic tree artifact.path artifact.text.toUTF8) prepared = .ok final) :
    let runner := (Runner.make config false).1
    let outcomes := runner.outcomesAfter tree [] table.records
    let artifacts := runner.artifactsOf outcomes
    (runner.run tree).result =
        (if failuresOf outcomes = [] then .ok () else .error (.batch table.records.length (failuresOf outcomes))) ∧
      (runner.run tree).stdout =
        String.join (artifacts.map fun artifact => "✓ Wrote " ++ runner.displayPath artifact.path ++ "\n") ∧
      (runner.run tree).tree = if artifacts = [] then tree else final := by
  intro runner outcomes artifacts
  have loadedRunner : Table.load tree runner.logger runner.config.table = (.ok table, lines) := loaded
  by_cases empty : table.records = []
  · obtain ⟨result, stdout, unchanged⟩ := run_empty loadedRunner empty
    have noOutcomes : outcomes = [] := by simp [outcomes, empty, Runner.outcomesAfter]
    have noArtifacts : artifacts = [] := by simp [artifacts, noOutcomes, Runner.artifactsOf]
    refine ⟨?_, ?_, ?_⟩
    · simp [result, noOutcomes, failuresOf]
    · simp [stdout, noArtifacts]
    · simp [unchanged, noArtifacts]
  · obtain ⟨progress, compiled, collected, failed⟩ :=
      compileAll_lenient (make_cancelled config false) lenient table.records { compiler := runner.compiler } []
        tracks_nil (Compile.agree_fresh (sound_make config false tree))
    simp only [List.nil_append] at collected failed
    have verdict : (if progress.failures.isEmpty then Except.ok () else
        Except.error (Failure.batch table.records.length progress.failures)) =
        if failuresOf outcomes = [] then .ok () else .error (.batch table.records.length (failuresOf outcomes)) := by
      simp [failed, outcomes, runner]
    by_cases nothing : artifacts = []
    · have none : progress.artifacts = [] := collected.trans nothing
      obtain ⟨result, stdout, finalTree⟩ := run_written loadedRunner empty compiled (by simp [none])
        (writeAll_ok runner progress.artifacts tree tree "" (by rw [none]; rfl))
      refine ⟨result.trans verdict, ?_, ?_⟩
      · simp [stdout, none, nothing]
      · simp [finalTree, nothing]
    · have some : progress.artifacts = artifacts := collected
      have made : tree.makeDirectories runner.config.output = .ok prepared := directories
      obtain ⟨result, stdout, finalTree⟩ := run_written loadedRunner empty compiled
        (by rw [if_neg (by simpa [some] using nothing), made]; rfl)
        (writeAll_ok runner progress.artifacts prepared final "" (by rw [some]; exact written))
      refine ⟨result.trans verdict, ?_, ?_⟩
      · simp [stdout, some]
      · simp [finalTree, nothing]

/-- A project whose table holds one recipe that gives nothing but its id. -/
def bareRecipeConfig : Config :=
  { root := "game", tablePath := "recipes.json", outDir := "out", logFormat := "text", logLevel := "info" }

def bareRecipeTree : Files.Tree :=
  { entries := [("game", .directory),
      ("game/recipes.json", .file "\x7b\"recipes\": [\x7b\"recipe_id\": \"brew\"\x7d]\x7d".toUTF8)] }

theorem run_lenient_bareRecipe :
    ∃ table lines prepared final,
      Table.load bareRecipeTree (Runner.make bareRecipeConfig false).1.logger bareRecipeConfig.table =
        (.ok table, lines) ∧
      bareRecipeConfig.failFast = false ∧
      bareRecipeTree.makeDirectories bareRecipeConfig.output = .ok prepared ∧
      ((Runner.make bareRecipeConfig false).1.artifactsOf
          ((Runner.make bareRecipeConfig false).1.outcomesAfter bareRecipeTree [] table.records)).foldlM
        (fun tree artifact => Files.writeAtomic tree artifact.path artifact.text.toUTF8) prepared = .ok final ∧
      let runner := (Runner.make bareRecipeConfig false).1
      let outcomes := runner.outcomesAfter bareRecipeTree [] table.records
      let artifacts := runner.artifactsOf outcomes
      (runner.run bareRecipeTree).result =
          (if failuresOf outcomes = [] then .ok () else .error (.batch table.records.length (failuresOf outcomes))) ∧
        (runner.run bareRecipeTree).stdout =
          String.join (artifacts.map fun artifact => "✓ Wrote " ++ runner.displayPath artifact.path ++ "\n") ∧
        (runner.run bareRecipeTree).tree = if artifacts = [] then bareRecipeTree else final := by
  have loadOk : (Table.load bareRecipeTree (Runner.make bareRecipeConfig false).1.logger
      bareRecipeConfig.table).1.isOk = true := by
    decide +kernel
  have madeOk : (bareRecipeTree.makeDirectories bareRecipeConfig.output).isOk = true := by
    decide +kernel
  have nothingWritten : ((Table.load bareRecipeTree (Runner.make bareRecipeConfig false).1.logger
      bareRecipeConfig.table).1.toOption.map fun table => ((Runner.make bareRecipeConfig false).1.artifactsOf
        ((Runner.make bareRecipeConfig false).1.outcomesAfter bareRecipeTree [] table.records)).isEmpty) =
      some true := by
    decide +kernel
  rcases loaded : Table.load bareRecipeTree (Runner.make bareRecipeConfig false).1.logger bareRecipeConfig.table
    with ⟨_ | table, lines⟩
  · simp [loaded, Except.isOk, Except.toBool] at loadOk
  rcases made : bareRecipeTree.makeDirectories bareRecipeConfig.output with _ | prepared
  · simp [made, Except.isOk, Except.toBool] at madeOk
  simp only [loaded, Except.toOption, Option.map_some, Option.some.injEq, List.isEmpty_iff] at nothingWritten
  have written : ((Runner.make bareRecipeConfig false).1.artifactsOf
      ((Runner.make bareRecipeConfig false).1.outcomesAfter bareRecipeTree [] table.records)).foldlM
      (fun tree artifact => Files.writeAtomic tree artifact.path artifact.text.toUTF8) prepared = .ok prepared := by
    rw [nothingWritten]
    rfl
  exact ⟨table, lines, prepared, prepared, rfl, rfl, rfl, written, run_lenient loaded rfl made written⟩

end Alembic.App
