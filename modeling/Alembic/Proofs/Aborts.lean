import Alembic.Proofs.Batch
import Alembic.Proofs.RecordChecks
/-! # Runs that end early -/

namespace Alembic

/-- The failure is not a batch failure, nor wraps one. -/
def Failure.Single (failure : Failure) : Prop := failure.kind ≠ .batch

theorem Failure.single_within {context : String} {failure : Failure} (single : failure.Single) :
    (Failure.within context failure).Single := single

theorem Failure.single_system (problem : SystemError) : (Failure.system problem).Single := by
  cases problem <;> simp [Failure.Single, Failure.kind]

namespace Table

/-- Every way of failing to load a table is a malformed table at its path. -/
theorem load_error {tree : Files.Tree} {logger : Logging.Logger} {path : String} {failure : Failure}
    {lines : List String} (failed : load tree logger path = (.error failure, lines)) :
    ∃ reason cause, failure = .malformedTable path reason cause := by
  simp only [load] at failed
  repeat' split at failed
  all_goals first
    | (simp only [Prod.mk.injEq, Except.error.injEq] at failed; exact ⟨_, _, failed.1.symm⟩)
    | simp at failed

end Table

namespace Recipe

open Table

/-- A failure about one field of a record: missing or invalid. -/
def FieldFailure (failure : Failure) : Prop :=
  failure.kind = .missingField ∨ failure.kind = .invalidField

theorem validate_error {record : Table.Record} {failure : Failure} (failed : validate record = .error failure) :
    FieldFailure failure := by
  unfold validate at failed
  split at failed
  · cases failed
    exact .inl rfl
  · cases failed

theorem scalar_error {α : Type} {recipe name : String} {read : Value → Except String α} {value : Value}
    {failure : Failure} (failed : scalar recipe name read value = .error failure) : FieldFailure failure := by
  unfold scalar at failed
  repeat' split at failed
  all_goals first | (cases failed; exact .inr rfl) | cases failed

theorem requiredScalar_error {α : Type} [Inhabited α] {recipe name : String} {record : Value}
    {read : Value → Except String α} {failure : Failure}
    (failed : requiredScalar recipe record name read = .error failure) : FieldFailure failure := by
  unfold requiredScalar at failed
  split at failed
  · exact scalar_error failed
  · cases failed
    exact .inl rfl

theorem ingredientIdProblem_field {recipe name tag : String} {item : Value} {failure : Failure}
    (failed : ingredientIdProblem recipe name tag item = some failure) : FieldFailure failure := by
  unfold ingredientIdProblem at failed
  repeat' split at failed
  all_goals first | (cases failed; first | exact .inl rfl | exact .inr rfl) | cases failed

theorem countProblem_field {recipe name : String} {item : Value} {failure : Failure}
    (failed : countProblem recipe name item = some failure) : FieldFailure failure := by
  unfold countProblem at failed
  repeat' split at failed
  all_goals first | (cases failed; exact .inr rfl) | cases failed

/-- Every check of an ingredient object fails on a field: its shape, its id or its count. -/
theorem ingredientProblem_field {recipe name tag : String} {item : Value} {failure : Failure}
    (failed : ingredientProblem recipe name tag item = some failure) : FieldFailure failure := by
  unfold ingredientProblem at failed
  split at failed
  · cases failed
  · split at failed
    · cases failed
      exact .inr rfl
    · rcases Option.or_eq_some_iff.mp failed with idFailed | ⟨-, countFailed⟩
      · exact ingredientIdProblem_field idFailed
      · exact countProblem_field countFailed

theorem slotOf_error {recipe : String} {record : Value} {role : Role} {failure : Failure}
    (failed : slotOf recipe record role = .error failure) : FieldFailure failure := by
  rw [slotOf_decided, decided_eq_error] at failed
  obtain ⟨item, -, refused⟩ := Option.bind_eq_some_iff.mp failed
  exact ingredientProblem_field refused

/-- Every check of an entry of the open list, its role or the entry itself, fails on a field. -/
theorem entryProblem_field {recipe : String} {entry : Value × Nat} {failure : Failure}
    (failed : entryProblem recipe entry = some failure) : FieldFailure failure := by
  unfold entryProblem at failed
  rcases Option.or_eq_some_iff.mp failed with roleFailed | ⟨-, itemFailed⟩
  · unfold roleProblem at roleFailed
    repeat' split at roleFailed
    all_goals first | (cases roleFailed; exact .inr rfl) | cases roleFailed
  · exact ingredientProblem_field itemFailed

theorem additionalOf_error {recipe : String} {record : Value} {failure : Failure}
    (failed : additionalOf recipe record = .error failure) : FieldFailure failure := by
  rw [additionalOf_decided, decided_eq_error] at failed
  unfold additionalProblem at failed
  split at failed
  · cases failed
  · split at failed
    · cases failed
    · split at failed
      · cases failed
        exact .inr rfl
      · -- otherwise the first entry that is refused decides
        obtain ⟨entry, -, refused⟩ := List.mem_map.mp (firstFailure_eq_some failed)
        exact entryProblem_field refused

theorem bind_error {α β : Type} {x : Except Failure α} {next : α → Except Failure β} {failure : Failure}
    (failed : (x >>= next) = .error failure) : x = .error failure ∨ ∃ value, x = .ok value ∧ next value = .error failure := by
  cases x with
  | error early => exact .inl (by simpa [bind, Except.bind] using failed)
  | ok value => exact .inr ⟨value, rfl, failed⟩

theorem decode_error {record : Table.Record} {failure : Failure} (failed : decode record = .error failure) :
    FieldFailure failure := by
  unfold decode at failed
  repeat
    rcases bind_error failed with early | ⟨_, _, failed⟩
    · first
        | exact validate_error early
        | exact requiredScalar_error early
        | exact slotOf_error early
        | exact additionalOf_error early
  simp only [bind, Except.bind, pure, Except.pure, throw, throwThe, MonadExceptOf.throw] at failed
  grind [FieldFailure, Failure.kind]

end Recipe

namespace Resolve.Resolver

theorem search_error {tree : Files.Tree} {id name : String} :
    ∀ {folders : List Folder} {searched : List String} {failure : Failure},
      search tree id name folders searched = .error failure → failure.Single
  | [], searched, failure, failed => by
    simp only [search, Except.error.injEq] at failed
    subst failed
    simp [Failure.Single, Failure.kind]
  | folder :: rest, searched, failure, failed => by
    simp only [search] at failed
    split at failed
    · cases failed
    · exact search_error failed
    · split at failed
      · exact search_error failed
      · cases failed
        exact Failure.single_within (Failure.single_system _)

theorem resolve_error {resolver : Resolver} {tree : Files.Tree} {id : String} {failure : Failure}
    (failed : (resolver.resolve tree id).1 = .error failure) : failure.Single := by
  unfold resolve at failed
  split at failed
  · cases failed
  · split at failed
    · cases failed
      simp [Failure.Single, Failure.kind]
    · split at failed
      · cases failed
      · next searchFailed =>
        cases failed
        exact search_error searchFailed

end Resolve.Resolver

namespace Compile

open Recipe

theorem place_error {compiler : Compiler} {tree : Files.Tree} {recipe : String} {gathered : Gathered}
    {role : Role} {payload : Payload} {failure : Failure}
    (failed : (compiler.place tree recipe gathered role payload).1 = .error failure) : failure.Single := by
  unfold Compiler.place at failed
  split at failed
  · cases failed
    simp [Failure.Single, Failure.kind]
  · by_cases named : payload.id.isEmpty = true
    · simp only [named, if_true, Except.error.injEq] at failed
      subst failed
      simp [Failure.Single, Failure.kind]
    · simp only [named, Bool.false_eq_true, if_false] at failed
      cases resolved : (compiler.resolver.resolve tree payload.id).1 with
      | error problem =>
        simp only [resolved, Except.error.injEq] at failed
        subst failed
        exact Failure.single_within (Resolve.Resolver.resolve_error resolved)
      | ok path =>
        simp only [resolved] at failed
        cases inside : Resolve.requireNamespace path compiler.options.ingredientNamespace recipe payload.tag with
        | ok _ => simp [inside] at failed
        | error problem =>
          simp only [inside, Except.error.injEq] at failed
          subst failed
          unfold Resolve.requireNamespace at inside
          split at inside
          · cases inside
          · cases inside
            simp [Failure.Single, Failure.kind]

theorem placeAll_error {tree : Files.Tree} {recipe : String} :
    ∀ {compiler : Compiler} {gathered : Gathered} {placements : List (Role × Payload)} {failure : Failure},
      (Compiler.placeAll tree recipe compiler gathered placements).1 = .error failure → failure.Single
  | _, _, [], failure, failed => by cases failed
  | compiler, gathered, (role, payload) :: rest, failure, failed => by
    unfold Compiler.placeAll at failed
    split at failed
    · exact placeAll_error failed
    · next placed =>
      cases failed
      exact place_error (congrArg Prod.fst placed)

theorem assemble_error {compiler : Compiler} {tree : Files.Tree} {definition : Definition} {failure : Failure}
    (failed : (compiler.assemble tree definition).1 = .error failure) : failure.Single := by
  unfold Compiler.assemble at failed
  split at failed
  · next placed =>
    cases failed
    exact placeAll_error (congrArg Prod.fst placed)
  · split at failed
    · cases failed
      simp [Failure.Single, Failure.kind]
    · cases failed

theorem emit_error {compiler : Compiler} {tree : Files.Tree} {logger : Logging.Logger} {definition : Definition}
    {failure : Failure} (failed : (compiler.emit tree logger definition).1.1 = .error failure) : failure.Single := by
  simp only [Compiler.emit, Compiler.compile] at failed
  cases resolved : (compiler.resolver.resolve tree definition.result).1 with
  | error problem =>
    simp only [resolved] at failed
    cases failed
    exact Failure.single_within (Resolve.Resolver.resolve_error resolved)
  | ok resultPath =>
    simp only [resolved] at failed
    cases assembled : Compiler.assemble { compiler with resolver := (compiler.resolver.resolve tree definition.result).2 } tree definition with
    | mk entries after =>
      cases entries with
      | error problem =>
        simp only [assembled] at failed
        cases failed
        exact assemble_error (congrArg Prod.fst assembled)
      | ok entries =>
        simp only [assembled] at failed
        cases failed

end Compile

namespace App

open Compile

/-- A record fails for one of its fields or for a resource, never with a batch failure. -/
theorem outcome_error {runner : Runner} {tree : Files.Tree} {earlier : List Table.Record}
    {record : Table.Record} {failure : Failure} (failed : runner.outcome tree earlier record = .error failure) :
    failure.Single := by
  unfold Runner.outcome at failed
  cases decoded : Recipe.decode record with
  | error problem =>
    simp only [decoded, Except.error.injEq] at failed
    subst failed
    rcases Recipe.decode_error decoded with missing | invalid
    · simp [Failure.Single, missing]
    · simp [Failure.Single, invalid]
  | ok definition =>
    simp only [decoded] at failed
    split at failed
    · cases failed
      simp [Failure.Single, Failure.kind]
    · cases emitted : ((runner.compiler.fresh.emit tree runner.logger definition).1.1) with
      | error problem =>
        simp only [emitted, Except.map, Except.error.injEq] at failed
        subst failed
        exact emit_error emitted
      | ok text => simp [emitted, Except.map] at failed

/-- The first failure listed is never a batch failure. -/
theorem single_of_failuresOf {runner : Runner} {tree : Files.Tree} {earlier records : List Table.Record}
    {label : String} {failure : Failure} {later : List (String × Failure)}
    (first : failuresOf (runner.outcomesAfter tree earlier records) = (label, failure) :: later) : failure.Single := by
  induction records generalizing earlier with
  | nil => simp [Runner.outcomesAfter, failuresOf] at first
  | cons record rest ih =>
    cases recorded : runner.outcome tree earlier record with
    | error problem =>
      simp only [Runner.outcomesAfter, failuresOf, recorded, List.filterMap_cons, List.cons.injEq,
        Prod.mk.injEq] at first
      rw [← first.1.2]
      exact outcome_error recorded
    | ok compiled =>
      simp only [Runner.outcomesAfter, failuresOf, recorded, List.filterMap_cons] at first
      exact ih first

/-- A run that stops early writes nothing, leaves the tree as it was, and returns the failure that
stopped it, never a batch failure. -/
theorem run_aborts_untouched (config : Config) (cancelled : Bool) (tree : Files.Tree) :
    let runner := (Runner.make config cancelled).1
    (∀ failure lines, Table.load tree runner.logger config.table = (.error failure, lines) →
      (runner.run tree).result = .error failure ∧
        (∃ reason cause, failure = .malformedTable config.table reason cause) ∧
        (runner.run tree).stdout = "" ∧ (runner.run tree).tree = tree) ∧
    (∀ table lines, Table.load tree runner.logger config.table = (.ok table, lines) →
      cancelled = true → table.records ≠ [] →
      (runner.run tree).result = .error .canceled ∧ (runner.run tree).stdout = "" ∧
        (runner.run tree).tree = tree) ∧
    (∀ table lines, Table.load tree runner.logger config.table = (.ok table, lines) →
      cancelled = false → config.failFast = true →
      ∀ label failure later, failuresOf (runner.outcomesAfter tree [] table.records) = (label, failure) :: later →
        (runner.run tree).result = .error failure ∧ failure.kind ≠ .batch ∧
          (runner.run tree).stdout = "" ∧ (runner.run tree).tree = tree) := by
  intro runner
  refine ⟨fun failure lines unloadable => ?_, fun table lines loaded stopped nonempty => ?_,
    fun table lines loaded live failFast label failure later first => ?_⟩
  · obtain ⟨result, stdout, unchanged⟩ := run_unloadable unloadable
    exact ⟨result, Table.load_error unloadable, stdout, unchanged⟩
  · obtain ⟨record, rest, listed⟩ := List.exists_cons_of_ne_nil nonempty
    have halted := @compileAll_cancelled runner tree stopped { compiler := runner.compiler } record rest
    rw [← listed] at halted
    exact run_stopped loaded nonempty halted
  · have nonempty : table.records ≠ [] := by
      rintro empty
      simp [empty, Runner.outcomesAfter, failuresOf] at first
    obtain ⟨log, halted⟩ := compileAll_failFast (show runner.cancelled = false from live)
      (show runner.config.failFast = true from failFast) table.records
      { compiler := runner.compiler } [] tracks_nil (agree_fresh (sound_make config cancelled tree)) first
    obtain ⟨result, stdout, unchanged⟩ := run_stopped loaded nonempty halted
    exact ⟨result, single_of_failuresOf first, stdout, unchanged⟩

/-- The project of the bare recipe, in fail-fast mode. -/
def bareRecipeStrictConfig : Config := { bareRecipeConfig with failFast := true }

theorem run_aborts_untouched_cases :
    (∃ failure lines,
      Table.load {} (Runner.make bareRecipeConfig false).1.logger bareRecipeConfig.table = (.error failure, lines) ∧
      ((Runner.make bareRecipeConfig false).1.run {}).result = .error failure ∧
      (∃ reason cause, failure = .malformedTable bareRecipeConfig.table reason cause) ∧
      ((Runner.make bareRecipeConfig false).1.run {}).stdout = "" ∧
      ((Runner.make bareRecipeConfig false).1.run {}).tree = {}) ∧
    (∃ table lines,
      Table.load bareRecipeTree (Runner.make bareRecipeConfig true).1.logger bareRecipeConfig.table =
        (.ok table, lines) ∧
      table.records ≠ [] ∧
      ((Runner.make bareRecipeConfig true).1.run bareRecipeTree).result = .error .canceled ∧
      ((Runner.make bareRecipeConfig true).1.run bareRecipeTree).stdout = "" ∧
      ((Runner.make bareRecipeConfig true).1.run bareRecipeTree).tree = bareRecipeTree) ∧
    (∃ table lines label failure later,
      Table.load bareRecipeTree (Runner.make bareRecipeStrictConfig false).1.logger bareRecipeStrictConfig.table =
        (.ok table, lines) ∧
      bareRecipeStrictConfig.failFast = true ∧
      failuresOf ((Runner.make bareRecipeStrictConfig false).1.outcomesAfter bareRecipeTree [] table.records) =
        (label, failure) :: later ∧
      ((Runner.make bareRecipeStrictConfig false).1.run bareRecipeTree).result = .error failure ∧
      failure.kind ≠ .batch ∧
      ((Runner.make bareRecipeStrictConfig false).1.run bareRecipeTree).stdout = "" ∧
      ((Runner.make bareRecipeStrictConfig false).1.run bareRecipeTree).tree = bareRecipeTree) := by
  have missing : (Table.load {} (Runner.make bareRecipeConfig false).1.logger bareRecipeConfig.table).1.isOk =
      false := by
    decide +kernel
  have listed : ((Table.load bareRecipeTree (Runner.make bareRecipeConfig true).1.logger
      bareRecipeConfig.table).1.toOption.map fun table => table.records.isEmpty) = some false := by
    decide +kernel
  have refused : ((Table.load bareRecipeTree (Runner.make bareRecipeStrictConfig false).1.logger
      bareRecipeStrictConfig.table).1.toOption.map fun table => (failuresOf
        ((Runner.make bareRecipeStrictConfig false).1.outcomesAfter bareRecipeTree [] table.records)).isEmpty) =
      some false := by
    decide +kernel
  refine ⟨?_, ?_, ?_⟩
  · rcases unloadable : Table.load {} (Runner.make bareRecipeConfig false).1.logger bareRecipeConfig.table
      with ⟨failure | _, lines⟩
    · exact ⟨failure, lines, rfl, (run_aborts_untouched bareRecipeConfig false {}).1 failure lines unloadable⟩
    · simp [unloadable, Except.isOk, Except.toBool] at missing
  · rcases loaded : Table.load bareRecipeTree (Runner.make bareRecipeConfig true).1.logger bareRecipeConfig.table
      with ⟨_ | table, lines⟩
    · simp [loaded, Except.toOption] at listed
    · have nonempty : table.records ≠ [] := by
        simpa [loaded, Except.toOption] using listed
      exact ⟨table, lines, rfl, nonempty,
        (run_aborts_untouched bareRecipeConfig true bareRecipeTree).2.1 table lines loaded rfl nonempty⟩
  · rcases loaded : Table.load bareRecipeTree (Runner.make bareRecipeStrictConfig false).1.logger
      bareRecipeStrictConfig.table with ⟨_ | table, lines⟩
    · simp [loaded, Except.toOption] at refused
    · simp only [loaded, Except.toOption, Option.map_some, Option.some.injEq] at refused
      rcases first : failuresOf ((Runner.make bareRecipeStrictConfig false).1.outcomesAfter bareRecipeTree []
        table.records) with _ | ⟨⟨label, failure⟩, later⟩
      · simp [first] at refused
      · exact ⟨table, lines, label, failure, later, rfl, rfl, first,
          (run_aborts_untouched bareRecipeStrictConfig false bareRecipeTree).2.2 table lines loaded rfl rfl
            label failure later first⟩

end App

end Alembic
