import Alembic.Compile.Document
/-! # What a resolver remembers changes nothing -/

namespace Alembic.Resolve

open Files

/-- What a resolver that remembers nothing answers: the identifier's problem, or the search of
the folders. -/
def lookup (tree : Tree) (folders : List Folder) (id : String) : Except Failure String :=
  match idProblem id with
  | some reason => .error (.unresolvable id reason)
  | none => Resolver.search tree id (id ++ extension) folders []

namespace Resolver

/-- Every remembered path is the one a lookup finds in the tree. -/
def Sound (tree : Tree) (resolver : Resolver) : Prop :=
  ∀ id path, resolver.cached? id = some path → lookup tree resolver.folders id = .ok path

theorem sound_fresh (tree : Tree) (folders : List Folder) : ({ folders } : Resolver).Sound tree := by
  intro id path remembered
  simp [cached?] at remembered

/-- A call answers from memory, and otherwise with a lookup in its tree. -/
theorem resolve_fst_eq (resolver : Resolver) (tree : Tree) (id : String) :
    (resolver.resolve tree id).1 = (resolver.cached? id).elim (lookup tree resolver.folders id) .ok := by
  unfold resolve
  cases resolver.cached? id with
  | some path => rfl
  | none =>
    simp only [lookup, Option.elim]
    cases idProblem id with
    | some reason => rfl
    | none =>
      simp only
      cases search tree id (id ++ extension) resolver.folders [] <;> rfl

/-- One call adds to memory what its lookup found, when the identifier was not remembered yet. -/
theorem cached?_resolve (resolver : Resolver) (tree : Tree) (id other : String) :
    (resolver.resolve tree id).2.cached? other =
      (resolver.cached? other).or (if id = other then (lookup tree resolver.folders id).toOption else none) := by
  unfold resolve
  split
  · next path remembered =>
    by_cases same : id = other
    · subst same
      simp [remembered]
    · simp [same]
  · split
    · next reason problem =>
      simp [lookup, problem, Except.toOption]
    · next valid =>
      split
      · next path found =>
        simp only [cached?, List.find?_append, Option.map_or, List.find?_singleton]
        by_cases same : id = other
        · subst same
          simp [lookup, valid, found, Except.toOption]
        · simp [same]
      · next failure failed =>
        simp [lookup, valid, failed, Except.toOption]

/-- A resolver whose memory is sound answers as a lookup does. -/
theorem resolve_fst {tree : Tree} {resolver : Resolver} (sound : resolver.Sound tree) (id : String) :
    (resolver.resolve tree id).1 = lookup tree resolver.folders id := by
  rw [resolve_fst_eq]
  cases remembered : resolver.cached? id with
  | some path => exact (sound id path remembered).symm
  | none => rfl

@[simp] theorem folders_resolve (resolver : Resolver) (tree : Tree) (id : String) :
    (resolver.resolve tree id).2.folders = resolver.folders := by
  unfold resolve
  split
  · rfl
  · split
    · rfl
    · split <;> rfl

/-- Resolving remembers only what the lookup found. -/
theorem sound_resolve {tree : Tree} {resolver : Resolver} (sound : resolver.Sound tree) (id : String) :
    (resolver.resolve tree id).2.Sound tree := by
  intro other path remembered
  rw [cached?_resolve] at remembered
  rw [folders_resolve]
  cases old : resolver.cached? other with
  | some known =>
    rw [old, Option.some_or] at remembered
    cases remembered
    exact sound other _ old
  | none =>
    rw [old, Option.none_or] at remembered
    split at remembered
    · next same =>
      subst same
      cases looked : lookup tree resolver.folders id with
      | ok found =>
        rw [looked] at remembered
        cases remembered
        rfl
      | error failure =>
        rw [looked] at remembered
        cases remembered
    · cases remembered

end Resolver

end Alembic.Resolve

namespace Alembic.Compile

open Recipe Resolve

/-- Two compilers that search the same folders with the same options, each remembering only what
a lookup finds in the tree. -/
structure Agree (tree : Files.Tree) (first second : Compiler) : Prop where
  folders : first.resolver.folders = second.resolver.folders
  options : first.options = second.options
  firstSound : first.resolver.Sound tree
  secondSound : second.resolver.Sound tree

/-- The compiler with the same folders and options that remembers nothing. -/
def Compiler.fresh (compiler : Compiler) : Compiler :=
  { compiler with resolver := { folders := compiler.resolver.folders } }

theorem agree_fresh {tree : Files.Tree} {compiler : Compiler} (sound : compiler.resolver.Sound tree) :
    Agree tree compiler compiler.fresh :=
  ⟨rfl, rfl, sound, Resolver.sound_fresh tree _⟩

theorem Agree.symm {tree : Files.Tree} {first second : Compiler} (agree : Agree tree first second) :
    Agree tree second first :=
  ⟨agree.folders.symm, agree.options.symm, agree.secondSound, agree.firstSound⟩

theorem Agree.trans {tree : Files.Tree} {first second third : Compiler} (firstSecond : Agree tree first second)
    (secondThird : Agree tree second third) : Agree tree first third :=
  ⟨firstSecond.folders.trans secondThird.folders, firstSecond.options.trans secondThird.options,
    firstSecond.firstSound, secondThird.secondSound⟩

/-- Agreeing compilers resolve alike, and resolving keeps the agreement. -/
theorem Agree.resolve {tree : Files.Tree} {first second : Compiler} (agree : Agree tree first second) (id : String) :
    (first.resolver.resolve tree id).1 = (second.resolver.resolve tree id).1 ∧
      Agree tree { first with resolver := (first.resolver.resolve tree id).2 } second := by
  refine ⟨?_, ?_, agree.options, Resolver.sound_resolve agree.firstSound id, agree.secondSound⟩
  · rw [Resolver.resolve_fst agree.firstSound, Resolver.resolve_fst agree.secondSound, agree.folders]
  · simp [agree.folders]

/-- Agreeing compilers place an ingredient alike, and the compiler after placing still agrees. -/
theorem place_agree {tree : Files.Tree} {first second : Compiler} (agree : Agree tree first second)
    (recipe : String) (gathered : Gathered) (role : Role) (payload : Payload) :
    (first.place tree recipe gathered role payload).1 = (second.place tree recipe gathered role payload).1 ∧
      Agree tree (first.place tree recipe gathered role payload).2 second := by
  obtain ⟨sameFound, next⟩ := agree.resolve payload.id
  obtain ⟨firstResolver, options⟩ := first
  obtain ⟨secondResolver, secondOptions⟩ := second
  obtain rfl : options = secondOptions := agree.options
  unfold Compiler.place
  by_cases bound : (role.isFixed && gathered.bound.contains role) = true
  · simp only [bound, if_true, true_and]
    exact agree
  · by_cases named : payload.id.isEmpty = true
    · simp only [bound, named, if_true, if_false, Bool.false_eq_true, true_and]
      exact agree
    · simp only [bound, named, if_false, Bool.false_eq_true]
      rw [← sameFound]
      cases (firstResolver.resolve tree payload.id).1 with
      | error failure => exact ⟨rfl, next⟩
      | ok path =>
        simp only
        cases Resolve.requireNamespace path options.ingredientNamespace recipe payload.tag <;> exact ⟨rfl, next⟩

/-- Agreeing compilers place every list of ingredients alike. -/
theorem placeAll_agree {tree : Files.Tree} {first second : Compiler}
    (agree : Agree tree first second) (recipe : String) (gathered : Gathered) (placements : List (Role × Payload)) :
    (Compiler.placeAll tree recipe first gathered placements).1 =
        (Compiler.placeAll tree recipe second gathered placements).1 ∧
      Agree tree (Compiler.placeAll tree recipe first gathered placements).2 second := by
  induction placements generalizing first second gathered with
  | nil => exact ⟨rfl, agree⟩
  | cons placement rest ih =>
    obtain ⟨role, payload⟩ := placement
    obtain ⟨samePlaced, firstNext⟩ := place_agree agree recipe gathered role payload
    obtain ⟨-, secondNext⟩ := place_agree agree.symm recipe gathered role payload
    simp only [Compiler.placeAll]
    revert samePlaced firstNext secondNext
    cases first.place tree recipe gathered role payload with
    | mk firstPlaced firstAfter =>
    cases second.place tree recipe gathered role payload with
    | mk secondPlaced secondAfter =>
    rintro (rfl : firstPlaced = secondPlaced) firstNext secondNext
    have secondStays : Agree tree secondAfter second := secondNext.trans agree
    cases firstPlaced with
    | error failure => exact ⟨rfl, firstNext⟩
    | ok placed =>
      obtain ⟨same, after⟩ := ih (firstNext.trans secondStays.symm) placed
      exact ⟨same, after.trans secondStays⟩

theorem assemble_agree {tree : Files.Tree} {first second : Compiler} (agree : Agree tree first second)
    (definition : Definition) :
    (first.assemble tree definition).1 = (second.assemble tree definition).1 ∧
      Agree tree (first.assemble tree definition).2 second := by
  obtain ⟨samePlaced, next⟩ := placeAll_agree agree definition.id {} (placements definition)
  simp only [Compiler.assemble]
  revert samePlaced next
  cases Compiler.placeAll tree definition.id first {} (placements definition) with
  | mk firstPlaced firstAfter =>
  cases Compiler.placeAll tree definition.id second {} (placements definition) with
  | mk secondPlaced secondAfter =>
  rintro (rfl : firstPlaced = secondPlaced) next
  cases firstPlaced with
  | error failure => exact ⟨rfl, next⟩
  | ok gathered =>
    simp only
    split <;> exact ⟨rfl, next⟩

/-- Agreeing compilers compile every recipe alike, with the same log lines. -/
theorem compile_agree {tree : Files.Tree} {first second : Compiler} (agree : Agree tree first second)
    (logger : Logging.Logger) (definition : Definition) :
    (first.compile tree logger definition).1 = (second.compile tree logger definition).1 ∧
      Agree tree (first.compile tree logger definition).2 second := by
  obtain ⟨sameFound, firstResolved⟩ := agree.resolve definition.result
  obtain ⟨-, secondResolved⟩ := agree.symm.resolve definition.result
  have secondStays := secondResolved.trans agree
  obtain ⟨sameAssembled, firstAssembled⟩ := assemble_agree (firstResolved.trans secondStays.symm) definition
  obtain ⟨-, secondAssembled⟩ := assemble_agree secondStays definition
  obtain ⟨firstResolver, options⟩ := first
  obtain ⟨secondResolver, secondOptions⟩ := second
  obtain rfl : options = secondOptions := agree.options
  simp only [Compiler.compile]
  rw [← sameFound]
  cases (firstResolver.resolve tree definition.result).1 with
  | error failure => exact ⟨rfl, firstResolved⟩
  | ok resultPath =>
    simp only
    revert sameAssembled firstAssembled secondAssembled
    cases Compiler.assemble { resolver := (firstResolver.resolve tree definition.result).2, options } tree definition with
    | mk firstEntries firstAfter =>
    cases Compiler.assemble { resolver := (secondResolver.resolve tree definition.result).2, options } tree definition with
    | mk secondEntries secondAfter =>
    rintro secondAssembled (rfl : firstEntries = secondEntries) firstAssembled
    cases firstEntries with
    | error failure => exact ⟨rfl, firstAssembled.trans secondStays⟩
    | ok entries =>
      refine ⟨?_, firstAssembled.trans secondStays⟩
      simp only
      rw [firstAssembled.options, secondAssembled.options]

theorem emit_agree {tree : Files.Tree} {first second : Compiler} (agree : Agree tree first second)
    (logger : Logging.Logger) (definition : Definition) :
    (first.emit tree logger definition).1 = (second.emit tree logger definition).1 ∧
      Agree tree (first.emit tree logger definition).2 second := by
  obtain ⟨sameCompiled, compiled⟩ := compile_agree agree logger definition
  refine ⟨?_, compiled⟩
  simp only [Compiler.emit, sameCompiled]

end Alembic.Compile
