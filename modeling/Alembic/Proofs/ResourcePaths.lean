import Mathlib.Data.List.Nodup
import Alembic.Proofs.Batch
import Alembic.Proofs.DecodedRecipes
/-! # One resource per recipe id -/

namespace Alembic.App

open Recipe

variable {runner : Runner} {tree : Files.Tree}

theorem firstClaim_append_eq_none (first second : List Table.Record) (id : String) :
    firstClaim (first ++ second) id = none ↔ firstClaim first id = none ∧ firstClaim second id = none := by
  simp [firstClaim, List.find?_append]

theorem firstClaim_singleton_eq_none (record : Table.Record) (id : String) :
    firstClaim [record] id = none ↔ decodedId record ≠ some id := by
  by_cases same : decodedId record = some id <;> simp [firstClaim, same]

theorem outcomesAfter_append (earlier first second : List Table.Record) :
    runner.outcomesAfter tree earlier (first ++ second) =
      runner.outcomesAfter tree earlier first ++ runner.outcomesAfter tree (earlier ++ first) second := by
  induction first generalizing earlier with
  | nil => simp [Runner.outcomesAfter]
  | cons record rest ih => simp [Runner.outcomesAfter, ih]

/-- A record compiles after the earlier ones exactly when it decodes, no earlier record claimed its
id, and a fresh compiler emits it. -/
theorem outcome_eq_ok {earlier : List Table.Record} {record : Table.Record} {definition : Definition}
    {text : String} :
    runner.outcome tree earlier record = .ok (definition, text) ↔
      decode record = .ok definition ∧ firstClaim earlier definition.id = none ∧
        (runner.compiler.fresh.emit tree runner.logger definition).1.1 = .ok text := by
  constructor
  · intro compiled
    unfold Runner.outcome at compiled
    split at compiled
    · cases compiled
    · next decodedDefinition decoded =>
      split at compiled
      · cases compiled
      · next claimed =>
        cases emitted : (runner.compiler.fresh.emit tree runner.logger decodedDefinition).1.1 with
        | error failure =>
          rw [emitted] at compiled
          cases compiled
        | ok emittedText =>
          rw [emitted] at compiled
          simp only [Except.map, Except.ok.injEq, Prod.mk.injEq] at compiled
          obtain ⟨rfl, rfl⟩ := compiled
          exact ⟨decoded, claimed, emitted⟩
  · rintro ⟨decoded, claimed, emitted⟩
    simp [Runner.outcome, decoded, claimed, emitted, Except.map]

theorem artifactsOf_cons (record : Table.Record) (outcome : Except Failure (Definition × String))
    (rest : List (Table.Record × Except Failure (Definition × String))) :
    runner.artifactsOf ((record, outcome) :: rest) =
      (outcome.toOption.map fun (definition, text) => runner.artifactOf definition text).toList ++
        runner.artifactsOf rest := by
  cases outcome <;> simp [Runner.artifactsOf, Except.toOption]

/-- Every collected resource comes from a record that decodes, is the first to claim its id, and
emits. -/
theorem exists_of_mem_artifactsOf {artifact : Artifact} (records : List Table.Record) :
    ∀ {earlier : List Table.Record}, artifact ∈ runner.artifactsOf (runner.outcomesAfter tree earlier records) →
      ∃ before record after definition text, records = before ++ record :: after ∧
        runner.outcome tree (earlier ++ before) record = .ok (definition, text) ∧
        artifact = runner.artifactOf definition text := by
  induction records with
  | nil => simp [Runner.outcomesAfter, Runner.artifactsOf]
  | cons record rest ih =>
    intro earlier member
    rw [Runner.outcomesAfter, artifactsOf_cons] at member
    rcases List.mem_append.mp member with here | later
    · cases recorded : runner.outcome tree earlier record with
      | error failure => simp [recorded, Except.toOption] at here
      | ok compiled =>
        simp only [recorded, Except.toOption, Option.map_some, Option.toList_some, List.mem_singleton] at here
        exact ⟨[], record, rest, compiled.1, compiled.2, rfl, by simpa using recorded, here⟩
    · obtain ⟨before, found, after, definition, text, split, compiled, made⟩ := ih later
      refine ⟨record :: before, found, after, definition, text, by simp [split], ?_, made⟩
      simpa using compiled

/-- The collected resources have distinct ids: a later record with a collected id was not the
first to claim it. -/
theorem nodup_artifactIds (records : List Table.Record) :
    ∀ earlier : List Table.Record,
      ((runner.artifactsOf (runner.outcomesAfter tree earlier records)).map Artifact.recipeId).Nodup := by
  induction records with
  | nil => simp [Runner.outcomesAfter, Runner.artifactsOf]
  | cons record rest ih =>
    intro earlier
    rw [Runner.outcomesAfter, artifactsOf_cons]
    cases recorded : runner.outcome tree earlier record with
    | error failure => simpa [Except.toOption] using ih (earlier ++ [record])
    | ok compiled =>
      obtain ⟨decoded, -, -⟩ := outcome_eq_ok.mp recorded
      simp only [Except.toOption, Option.map_some, Option.toList_some, List.singleton_append, List.map_cons,
        List.nodup_cons]
      refine ⟨fun repeated => ?_, ih (earlier ++ [record])⟩
      obtain ⟨other, member, sameId⟩ := List.mem_map.mp repeated
      obtain ⟨before, found, after, definition, text, -, laterCompiled, rfl⟩ := exists_of_mem_artifactsOf rest member
      obtain ⟨-, unclaimed, -⟩ := outcome_eq_ok.mp laterCompiled
      rw [List.append_assoc, firstClaim_append_eq_none, firstClaim_append_eq_none,
        firstClaim_singleton_eq_none] at unclaimed
      apply unclaimed.2.1
      simp only [Runner.artifactOf] at sameId
      simp [decodedId, decoded, Except.toOption, sameId]

/-- A record that decodes to an id claimed by an earlier record fails as its duplicate. -/
theorem mem_failuresOf_duplicate {before after : List Table.Record} {record : Table.Record}
    {definition : Definition} {first : Nat} (decoded : decode record = .ok definition)
    (claimed : firstClaim before definition.id = some first) :
    (label record, Failure.invalidField definition.id "recipe_id" ("duplicates entry #" ++ toString (first + 1))) ∈
      failuresOf (runner.outcomesAfter tree [] (before ++ record :: after)) := by
  have duplicate : runner.outcome tree before record =
      .error (.invalidField definition.id "recipe_id" ("duplicates entry #" ++ toString (first + 1))) := by
    simp [Runner.outcome, decoded, claimed]
  rw [outcomesAfter_append, Runner.outcomesAfter]
  simp [failuresOf, duplicate]

/-- Whatever the mode, a live run that compiles every record collects the resource of every record
that compiles and the failure of every other, in table order. -/
theorem compileAll_ok (live : runner.cancelled = false) (records : List Table.Record) :
    ∀ (progress : Progress) (earlier : List Table.Record) {final : Progress}, Tracks progress.seen earlier →
      Compile.Agree tree progress.compiler runner.compiler.fresh →
      runner.compileAll tree progress records = .ok final →
      final.artifacts = progress.artifacts ++ runner.artifactsOf (runner.outcomesAfter tree earlier records) ∧
        final.failures = progress.failures ++ failuresOf (runner.outcomesAfter tree earlier records) := by
  induction records with
  | nil =>
    intro progress earlier final _ _ compiled
    simp only [Runner.compileAll, Except.ok.injEq] at compiled
    subst compiled
    simp [Runner.outcomesAfter, Runner.artifactsOf, failuresOf]
  | cons record rest ih =>
    intro progress earlier final tracks agree compiled
    obtain ⟨outcome, nextTracks, nextAgree⟩ := compileRecord_step tracks agree record
    simp only [Runner.compileAll, live, Bool.false_eq_true, if_false] at compiled
    rw [outcome] at compiled
    cases recorded : runner.outcome tree earlier record with
    | error failure =>
      rw [recorded] at compiled
      -- in fail-fast mode the failure would have ended the run
      cases failFast : runner.config.failFast
      · simp only [failFast, Bool.false_eq_true, if_false] at compiled
        obtain ⟨artifacts, failures⟩ := ih _ (earlier ++ [record]) nextTracks nextAgree compiled
        refine ⟨?_, ?_⟩
        · simp [artifacts, Runner.outcomesAfter, Runner.artifactsOf, recorded, Except.toOption]
        · simp [failures, Runner.outcomesAfter, failuresOf, recorded]
      · simp [failFast] at compiled
    | ok compiledRecord =>
      rw [recorded] at compiled
      obtain ⟨artifacts, failures⟩ := ih _ (earlier ++ [record]) nextTracks nextAgree compiled
      refine ⟨?_, ?_⟩
      · simp [artifacts, Runner.outcomesAfter, Runner.artifactsOf, recorded, Except.toOption, Runner.artifactOf]
      · simp [failures, Runner.outcomesAfter, failuresOf, recorded]

/-- A collected resource is a plain file directly inside the output directory, named for its id. -/
theorem artifactOf_inside {record : Table.Record} {definition : Definition} (decoded : decode record = .ok definition)
    (text : String) :
    let artifact := runner.artifactOf definition text
    artifact.path = Path.join [runner.config.output, artifact.recipeId ++ ".tres"] ∧
      Path.dir artifact.path = Path.clean runner.config.output ∧
      Path.base artifact.path = artifact.recipeId ++ ".tres" :=
  ⟨rfl, Path.dir_join_plain _ (plain_resourceName decoded), Path.base_join_plain _ (plain_resourceName decoded)⟩

/-- What a run collects: the resources of the records that compile and the failures of the others,
also when it was cancelled before any record or stops at the first failure. -/
theorem compileAll_collects {config : Config} {cancelled : Bool} {records : List Table.Record} {progress : Progress}
    (compiled : (Runner.make config cancelled).1.compileAll tree
      { compiler := (Runner.make config cancelled).1.compiler } records = .ok progress) :
    let runner := (Runner.make config cancelled).1
    progress.artifacts = runner.artifactsOf (runner.outcomesAfter tree [] records) ∧
      progress.failures = failuresOf (runner.outcomesAfter tree [] records) := by
  intro runner
  cases cancelled with
  | false =>
    simpa using compileAll_ok (make_cancelled config false) records _ [] tracks_nil
      (Compile.agree_fresh (sound_make config false tree)) compiled
  | true =>
    cases records with
    | nil =>
      simp only [Runner.compileAll, Except.ok.injEq] at compiled
      subst compiled
      simp [Runner.outcomesAfter, Runner.artifactsOf, failuresOf]
    | cons record rest =>
      rw [compileAll_cancelled (make_cancelled config true)] at compiled
      cases compiled

/-- The resources a run collects, and the duplicates it reports. -/
structure OneResourcePerId (runner : Runner) (tree : Files.Tree) (records : List Table.Record) (progress : Progress) :
    Prop where
  distinctIds : (progress.artifacts.map Artifact.recipeId).Nodup
  distinctPaths : (progress.artifacts.map Artifact.path).Nodup
  insideOutput : ∀ artifact ∈ progress.artifacts,
    artifact.path = Path.join [runner.config.output, artifact.recipeId ++ ".tres"] ∧
      Path.dir artifact.path = Path.clean runner.config.output ∧
      Path.base artifact.path = artifact.recipeId ++ ".tres"
  firstClaimant : ∀ artifact ∈ progress.artifacts, ∃ before record after definition,
    records = before ++ record :: after ∧ decode record = .ok definition ∧ definition.id = artifact.recipeId ∧
      firstClaim before definition.id = none ∧
      (runner.compiler.fresh.emit tree runner.logger definition).1.1 = .ok artifact.text
  duplicatesFail : ∀ before record after definition first, records = before ++ record :: after →
    decode record = .ok definition → firstClaim before definition.id = some first →
    (label record, Failure.invalidField definition.id "recipe_id" ("duplicates entry #" ++ toString (first + 1))) ∈
      progress.failures

/-- The resources a run collects have distinct ids and files, each from the first record that
decodes to it. -/
theorem compileAll_one_resource_per_id {config : Config} {cancelled : Bool} {records : List Table.Record}
    {progress : Progress}
    (compiled : (Runner.make config cancelled).1.compileAll tree
      { compiler := (Runner.make config cancelled).1.compiler } records = .ok progress) :
    OneResourcePerId (Runner.make config cancelled).1 tree records progress := by
  obtain ⟨artifacts, failures⟩ := compileAll_collects compiled
  set runner := (Runner.make config cancelled).1
  have origin : ∀ artifact ∈ progress.artifacts, ∃ before record after definition text,
      records = before ++ record :: after ∧ decode record = .ok definition ∧ firstClaim before definition.id = none ∧
        (runner.compiler.fresh.emit tree runner.logger definition).1.1 = .ok text ∧
        artifact = runner.artifactOf definition text := by
    intro artifact member
    rw [artifacts] at member
    obtain ⟨before, record, after, definition, text, split, outcome, made⟩ := exists_of_mem_artifactsOf records member
    obtain ⟨decoded, unclaimed, emitted⟩ := outcome_eq_ok.mp outcome
    exact ⟨before, record, after, definition, text, split, decoded, by simpa using unclaimed, emitted, made⟩
  have inside : ∀ artifact ∈ progress.artifacts,
      artifact.path = Path.join [runner.config.output, artifact.recipeId ++ ".tres"] ∧
        Path.dir artifact.path = Path.clean runner.config.output ∧
        Path.base artifact.path = artifact.recipeId ++ ".tres" := by
    intro artifact member
    obtain ⟨_, _, _, _, text, _, decoded, _, _, rfl⟩ := origin artifact member
    exact artifactOf_inside decoded text
  have distinctIds : (progress.artifacts.map Artifact.recipeId).Nodup := by
    rw [artifacts]
    exact nodup_artifactIds records []
  refine ⟨distinctIds, ?_, inside, ?_, ?_⟩
  · -- a path gives back its id as its last element
    have named : progress.artifacts.map Artifact.path =
        (progress.artifacts.map Artifact.recipeId).map fun id => Path.join [runner.config.output, id ++ ".tres"] := by
      rw [List.map_map]
      exact List.map_congr_left fun artifact member => (inside artifact member).1
    rw [named]
    refine List.Nodup.map_on (fun first firstMember second secondMember same => ?_) distinctIds
    obtain ⟨firstArtifact, firstIn, rfl⟩ := List.mem_map.mp firstMember
    obtain ⟨secondArtifact, secondIn, rfl⟩ := List.mem_map.mp secondMember
    have bases := congrArg Path.base same
    rw [← (inside firstArtifact firstIn).1, ← (inside secondArtifact secondIn).1, (inside firstArtifact firstIn).2.2,
      (inside secondArtifact secondIn).2.2] at bases
    simpa [String.toList_inj] using congrArg String.toList bases
  · intro artifact member
    obtain ⟨before, record, after, definition, text, split, decoded, unclaimed, emitted, rfl⟩ := origin artifact member
    exact ⟨before, record, after, definition, split, decoded, rfl, unclaimed, emitted⟩
  · intro before record after definition first split decoded claimed
    rw [failures, split]
    exact mem_failuresOf_duplicate decoded claimed

/-- A record of a tonic whose result is nowhere to be found, at a position of the table. -/
def tonicRecord (index : Nat) : Table.Record :=
  let one : Table.Value := .number (.finite false 1 0 64)
  { index,
    value := .object [("recipe_id", .string "tonic"), ("display_name", .string "Tonic"), ("result", .string "tonic"),
      ("result_count", one), ("tier", one), ("required_alchemy_level", one),
      ("base_potency", .number (.infinite false)), ("potency_per_level", .number (.infinite false)),
      ("xp_reward", one), ("base_liquid", .null .dynamic), ("primary_ingredient", .null .dynamic),
      ("catalyst", .null .dynamic)] }

/-- Two tonics: the first fails to emit, and the second is still its duplicate. -/
theorem compileAll_one_resource_per_id_tonics :
    ∃ progress, (Runner.make bareRecipeConfig false).1.compileAll {}
        { compiler := (Runner.make bareRecipeConfig false).1.compiler } [tonicRecord 0, tonicRecord 1] = .ok progress ∧
      OneResourcePerId (Runner.make bareRecipeConfig false).1 {} [tonicRecord 0, tonicRecord 1] progress := by
  have succeeded : ((Runner.make bareRecipeConfig false).1.compileAll {}
      { compiler := (Runner.make bareRecipeConfig false).1.compiler } [tonicRecord 0, tonicRecord 1]).isOk = true := by
    decide +kernel
  cases compiled : (Runner.make bareRecipeConfig false).1.compileAll {}
      { compiler := (Runner.make bareRecipeConfig false).1.compiler } [tonicRecord 0, tonicRecord 1] with
  | error stopped => simp [compiled, Except.isOk, Except.toBool] at succeeded
  | ok progress => exact ⟨progress, rfl, compileAll_one_resource_per_id compiled⟩

end Alembic.App
