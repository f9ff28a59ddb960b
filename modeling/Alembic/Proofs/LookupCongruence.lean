import Alembic.Proofs.ResourcePaths
import Alembic.Proofs.Compilation
import Alembic.Proofs.IngredientChecks
/-! # Compiling reads the tree only through lookups -/

namespace Alembic.Resolve

open Files

/-- Two trees on which every identifier looks up alike in the folders. -/
def SameLookups (first second : Tree) (folders : List Folder) : Prop :=
  ∀ id, lookup first folders id = lookup second folders id

theorem Resolver.resolve_congr {first second : Tree} {resolver : Resolver}
    (same : SameLookups first second resolver.folders) (id : String) :
    resolver.resolve first id = resolver.resolve second id := by
  have looked := same id
  unfold lookup at looked
  unfold Resolver.resolve
  split
  · rfl
  · split
    · rfl
    · next valid =>
      rw [valid] at looked
      dsimp only at looked
      rw [looked]

/-- A search that answers a path found a file in one of the folders. -/
theorem search_found {tree : Tree} {id name : String} :
    ∀ {folders : List Folder} {searched : List String} {path : String},
      Resolver.search tree id name folders searched = .ok path →
        ∃ folder ∈ folders, ∃ data, tree.stat (Path.join [folder.dir, name]) = .ok (.file data)
  | [], _, _, found => by cases found
  | folder :: rest, searched, path, found => by
    unfold Resolver.search at found
    dsimp only at found
    split at found
    · next data stated => exact ⟨folder, List.mem_cons_self, data, stated⟩
    · obtain ⟨other, member, data, stated⟩ := search_found found
      exact ⟨other, List.mem_cons_of_mem _ member, data, stated⟩
    · split at found
      · obtain ⟨other, member, data, stated⟩ := search_found found
        exact ⟨other, List.mem_cons_of_mem _ member, data, stated⟩
      · cases found

end Alembic.Resolve

namespace Alembic.Compile

open Recipe Resolve

theorem folders_place (compiler : Compiler) (tree : Files.Tree) (recipe : String) (gathered : Gathered)
    (role : Role) (payload : Payload) :
    (compiler.place tree recipe gathered role payload).2.resolver.folders = compiler.resolver.folders := by
  rcases place_snd compiler tree recipe gathered role payload with same | called
  · rw [same]
  · rw [called]
    exact Resolver.folders_resolve _ _ _

theorem folders_placeAll (tree : Files.Tree) (recipe : String) (placements : List (Role × Payload)) :
    ∀ (compiler : Compiler) (gathered : Gathered),
      (Compiler.placeAll tree recipe compiler gathered placements).2.resolver.folders = compiler.resolver.folders := by
  induction placements with
  | nil => intro compiler gathered; rfl
  | cons placement rest ih =>
    intro compiler gathered
    obtain ⟨role, payload⟩ := placement
    have placed := folders_place compiler tree recipe gathered role payload
    simp only [Compiler.placeAll]
    revert placed
    cases compiler.place tree recipe gathered role payload with
    | mk result next =>
      intro placed
      cases result with
      | error failure => exact placed
      | ok gathered => exact (ih next gathered).trans placed

theorem folders_assemble (compiler : Compiler) (tree : Files.Tree) (definition : Definition) :
    (compiler.assemble tree definition).2.resolver.folders = compiler.resolver.folders := by
  have placed := folders_placeAll tree definition.id (placements definition) compiler {}
  unfold Compiler.assemble
  revert placed
  cases Compiler.placeAll tree definition.id compiler {} (placements definition) with
  | mk result next =>
    intro placed
    cases result with
    | error failure => exact placed
    | ok gathered =>
      simp only
      split <;> exact placed

theorem folders_compile (compiler : Compiler) (tree : Files.Tree) (logger : Logging.Logger) (definition : Definition) :
    (compiler.compile tree logger definition).2.resolver.folders = compiler.resolver.folders := by
  have resolved := Resolver.folders_resolve compiler.resolver tree definition.result
  have assembled := folders_assemble { compiler with resolver := (compiler.resolver.resolve tree definition.result).2 }
    tree definition
  unfold Compiler.compile
  simp only
  split
  · exact resolved
  · split
    · next assembledEq =>
      rw [assembledEq] at assembled
      exact assembled.trans resolved
    · next assembledEq =>
      rw [assembledEq] at assembled
      exact assembled.trans resolved

theorem folders_emit (compiler : Compiler) (tree : Files.Tree) (logger : Logging.Logger) (definition : Definition) :
    (compiler.emit tree logger definition).2.resolver.folders = compiler.resolver.folders :=
  folders_compile compiler tree logger definition

section Congruence

variable {first second : Files.Tree} {folders : List Folder} (same : SameLookups first second folders)
include same

theorem place_congr {compiler : Compiler} (searching : compiler.resolver.folders = folders) (recipe : String)
    (gathered : Gathered) (role : Role) (payload : Payload) :
    compiler.place first recipe gathered role payload = compiler.place second recipe gathered role payload := by
  unfold Compiler.place
  rw [Resolver.resolve_congr (searching ▸ same)]

theorem placeAll_congr (recipe : String) (placements : List (Role × Payload)) :
    ∀ {compiler : Compiler} (gathered : Gathered), compiler.resolver.folders = folders →
      Compiler.placeAll first recipe compiler gathered placements =
        Compiler.placeAll second recipe compiler gathered placements := by
  induction placements with
  | nil => intro compiler gathered _; rfl
  | cons placement rest ih =>
    intro compiler gathered searching
    obtain ⟨role, payload⟩ := placement
    have placed := folders_place compiler second recipe gathered role payload
    simp only [Compiler.placeAll]
    rw [place_congr same searching]
    revert placed
    cases compiler.place second recipe gathered role payload with
    | mk result next =>
      intro placed
      cases result with
      | error failure => rfl
      | ok gathered => exact ih gathered (placed.trans searching)

theorem assemble_congr {compiler : Compiler} (searching : compiler.resolver.folders = folders)
    (definition : Definition) : compiler.assemble first definition = compiler.assemble second definition := by
  unfold Compiler.assemble
  rw [placeAll_congr same _ _ _ searching]

theorem compile_congr {compiler : Compiler} (searching : compiler.resolver.folders = folders)
    (logger : Logging.Logger) (definition : Definition) :
    compiler.compile first logger definition = compiler.compile second logger definition := by
  have resolved := Resolver.folders_resolve compiler.resolver second definition.result
  unfold Compiler.compile
  rw [Resolver.resolve_congr (searching ▸ same)]
  revert resolved
  cases compiler.resolver.resolve second definition.result with
  | mk resultFound resolver =>
    intro resolved
    simp only
    rw [assemble_congr same (show ({ resolver, options := compiler.options } : Compiler).resolver.folders = folders
      from resolved.trans searching)]

theorem emit_congr {compiler : Compiler} (searching : compiler.resolver.folders = folders)
    (logger : Logging.Logger) (definition : Definition) :
    compiler.emit first logger definition = compiler.emit second logger definition := by
  unfold Compiler.emit
  rw [compile_congr same searching]

end Congruence

end Alembic.Compile

namespace Alembic.App

open Recipe Resolve

theorem folders_compileRecord (runner : Runner) (tree : Files.Tree) (compiler : Compile.Compiler)
    (seen : List (String × Nat)) (record : Table.Record) :
    (runner.compileRecord tree compiler seen record).2.1.resolver.folders = compiler.resolver.folders := by
  unfold Runner.compileRecord
  split
  · rfl
  · split
    · rfl
    · exact Compile.folders_emit _ _ _ _

section Congruence

variable {first second : Files.Tree} {folders : List Folder} (same : SameLookups first second folders)
include same

theorem compileRecord_congr (runner : Runner) {compiler : Compile.Compiler} (searching : compiler.resolver.folders = folders)
    (seen : List (String × Nat)) (record : Table.Record) :
    runner.compileRecord first compiler seen record = runner.compileRecord second compiler seen record := by
  unfold Runner.compileRecord
  simp only [Compile.emit_congr same searching]

/-- A run over two trees on which every identifier looks up alike compiles alike. -/
theorem compileAll_congr (runner : Runner) (records : List Table.Record) :
    ∀ {progress : Progress}, progress.compiler.resolver.folders = folders →
      runner.compileAll first progress records = runner.compileAll second progress records := by
  induction records with
  | nil => intro progress _; rfl
  | cons record rest ih =>
    intro progress searching
    have recorded := folders_compileRecord runner second progress.compiler progress.seen record
    simp only [Runner.compileAll]
    rw [compileRecord_congr same runner searching]
    revert recorded
    rcases runner.compileRecord second progress.compiler progress.seen record with ⟨⟨compiled, lines⟩, compiler, seen⟩
    intro recorded
    dsimp only at recorded
    by_cases cancelled : runner.cancelled = true
    · simp only [cancelled, if_true]
    · simp only [cancelled]
      cases compiled with
      | error failure =>
        dsimp only
        by_cases failFast : runner.config.failFast = true
        · rw [if_pos failFast, if_pos failFast]
        · rw [if_neg failFast, if_neg failFast]
          refine ih ?_
          exact recorded.trans searching
      | ok result =>
        dsimp only
        refine ih ?_
        exact recorded.trans searching

end Congruence

/-- The compiler a runner holds is only where its runs start. -/
theorem compileAll_withCompiler (runner : Runner) (compiler : Compile.Compiler) (tree : Files.Tree)
    (records : List Table.Record) :
    ∀ progress : Progress, ({ runner with compiler }).compileAll tree progress records =
      runner.compileAll tree progress records := by
  induction records with
  | nil => intro progress; rfl
  | cons record rest ih =>
    intro progress
    simp only [Runner.compileAll, ih]
    rfl

/-- Compiling a record with two agreeing compilers gives the same outcome and the same ids seen,
and leaves compilers that still agree. -/
theorem compileRecord_agree (runner : Runner) {tree : Files.Tree} {compiler other : Compile.Compiler}
    (agree : Compile.Agree tree compiler other) (seen : List (String × Nat)) (record : Table.Record) :
    (runner.compileRecord tree compiler seen record).1 = (runner.compileRecord tree other seen record).1 ∧
      (runner.compileRecord tree compiler seen record).2.2 = (runner.compileRecord tree other seen record).2.2 ∧
      Compile.Agree tree (runner.compileRecord tree compiler seen record).2.1
        (runner.compileRecord tree other seen record).2.1 := by
  unfold Runner.compileRecord
  split
  · exact ⟨rfl, rfl, agree⟩
  · split
    · exact ⟨rfl, rfl, agree⟩
    · next definition _ _ _ =>
      obtain ⟨sameEmit, emitted⟩ := Compile.emit_agree agree runner.logger definition
      obtain ⟨-, otherEmitted⟩ := Compile.emit_agree agree.symm runner.logger definition
      have after := emitted.trans (otherEmitted.trans agree).symm
      revert sameEmit after
      cases compiler.emit tree runner.logger definition with
      | mk firstOut firstAfter =>
      cases other.emit tree runner.logger definition with
      | mk secondOut secondAfter =>
      rintro (rfl : firstOut = secondOut) after
      exact ⟨rfl, rfl, after⟩

/-- Two states of a run that differ at most in their compilers. -/
def Progress.Alike (progress other : Progress) : Prop := { progress with compiler := other.compiler } = other

/-- Two ends of a run that stop with the same failure and log, or go on alike but for their
compilers. -/
def ResultsAlike : Except (Failure × List String) Progress → Except (Failure × List String) Progress → Prop
  | .ok progress, .ok other => progress.Alike other
  | .error stop, .error other => stop = other
  | _, _ => False

/-- Ends that are alike both stop the same way, or both go on with one state under two compilers. -/
theorem ResultsAlike.cases {first second : Except (Failure × List String) Progress} (alike : ResultsAlike first second) :
    (∃ stop, first = .error stop ∧ second = .error stop) ∨
      ∃ progress compiler, first = .ok progress ∧ second = .ok { progress with compiler } := by
  cases first <;> cases second <;> simp only [ResultsAlike, Progress.Alike] at alike
  · exact .inl ⟨_, rfl, by rw [alike]⟩
  · exact .inr ⟨_, _, rfl, by rw [← alike]⟩

/-- A run that starts from agreeing compilers ends alike. -/
theorem compileAll_alike (runner : Runner) {tree : Files.Tree} (records : List Table.Record) :
    ∀ {progress other : Progress}, Compile.Agree tree progress.compiler other.compiler → progress.Alike other →
      ResultsAlike (runner.compileAll tree progress records) (runner.compileAll tree other records) := by
  induction records with
  | nil => intro progress other _ alike; exact alike
  | cons record rest ih =>
    intro progress other agree alike
    obtain ⟨seen, artifacts, failures, log, compiler⟩ := progress
    obtain ⟨otherSeen, otherArtifacts, otherFailures, otherLog, otherCompiler⟩ := other
    simp only [Progress.Alike, Progress.mk.injEq] at alike
    obtain ⟨rfl, rfl, rfl, rfl, -⟩ := alike
    obtain ⟨sameOutcome, sameSeen, after⟩ := compileRecord_agree runner agree seen record
    simp only [Runner.compileAll]
    by_cases cancelled : runner.cancelled = true
    · simp only [cancelled, if_true, ResultsAlike]
    · simp only [cancelled]
      revert sameOutcome sameSeen after
      rcases runner.compileRecord tree compiler seen record with ⟨firstOut, firstCompiler, firstSeen⟩
      rcases runner.compileRecord tree otherCompiler seen record with ⟨secondOut, secondCompiler, secondSeen⟩
      rintro (rfl : firstOut = secondOut) (rfl : firstSeen = secondSeen) after
      obtain ⟨compiled, lines⟩ := firstOut
      cases compiled with
      | error failure =>
        dsimp only
        by_cases failFast : runner.config.failFast = true
        · simp [if_pos failFast, ResultsAlike]
        · rw [if_neg failFast, if_neg failFast]
          exact ih after rfl
      | ok result =>
        dsimp only
        exact ih after rfl

end Alembic.App
