import Alembic.Proofs.Assembly
import Alembic.Proofs.ResolverCache
/-! # The order of the ingredient checks -/

namespace Alembic.Resolve.Resolver

/-- What a resolver answers for each identifier over a tree. -/
def answer (resolver : Resolver) (tree : Files.Tree) (id : String) : Except Failure String :=
  (resolver.resolve tree id).1

/-- A call leaves every answer of the resolver as it was. -/
theorem answer_resolve (resolver : Resolver) (tree : Files.Tree) (id : String) :
    (resolver.resolve tree id).2.answer tree = resolver.answer tree := by
  funext other
  simp only [answer, resolve_fst_eq, cached?_resolve, folders_resolve]
  cases resolver.cached? other with
  | some path => rfl
  | none =>
    by_cases same : id = other
    · subst same
      cases lookup tree resolver.folders id <;> simp [Except.toOption]
    · simp [same]

end Alembic.Resolve.Resolver

namespace Alembic.Compile

open Recipe

/-- What is wrong with an ingredient in a role, given the roles of the ingredients checked before
it and the answer for each identifier; `none` when it is accepted. -/
def itemProblem (answer : String → Except Failure String) (allowed recipe : String) (earlier : List Role)
    (role : Role) (payload : Payload) : Option Failure :=
  if role.isFixed ∧ role ∈ earlier then
    some (.invalidField recipe role.field
      ("slot is already bound, additional ingredient " ++ Text.quote payload.id ++ " cannot claim it"))
  else if payload.id = "" then some (.missingField recipe "id" payload.tag)
  else
    match answer payload.id with
    | .error failure => some (.within ("recipe " ++ recipe ++ ": " ++ payload.tag ++ " ingredient") failure)
    | .ok path => if path.startsWith allowed then none else some (.roleType recipe payload.tag path allowed)

/-- The failure of the first refused ingredient, each checked against the roles before it. -/
def firstProblem (answer : String → Except Failure String) (allowed recipe : String) :
    List Role → List (Role × Payload) → Option Failure
  | _, [] => none
  | earlier, (role, payload) :: rest =>
    (itemProblem answer allowed recipe earlier role payload).or
      (firstProblem answer allowed recipe (earlier ++ [role]) rest)

/-- The entry an accepted ingredient gives: where it resolved, its count (0 counts as 1), its role
and its tag. -/
def itemEntry (answer : String → Except Failure String) (item : Role × Payload) : Entry :=
  ⟨(answer item.2.id).toOption.getD "", if item.2.count = 0 then 1 else item.2.count, item.1, item.2.tag⟩

/-- The ingredients of a recipe as the checks decide them: the first failure, or else one entry
per ingredient, a recipe without ingredients refused last. -/
def checkedEntries (answer : String → Except Failure String) (allowed : String) (definition : Definition) :
    Except Failure (List Entry) :=
  match firstProblem answer allowed definition.id [] (placements definition) with
  | some failure => .error failure
  | none =>
    if (placements definition).isEmpty then .error (.emptyIngredients definition.id)
    else .ok ((placements definition).map (itemEntry answer))

/-- A placement leaves the compiler as it was, or with the resolver after the call for the
ingredient's identifier. -/
theorem place_snd (compiler : Compiler) (tree : Files.Tree) (recipe : String) (gathered : Gathered)
    (role : Role) (payload : Payload) :
    (compiler.place tree recipe gathered role payload).2 = compiler ∨
      (compiler.place tree recipe gathered role payload).2 =
        { compiler with resolver := (compiler.resolver.resolve tree payload.id).2 } := by
  unfold Compiler.place
  by_cases taken : (role.isFixed && gathered.bound.contains role) = true
  · rw [if_pos taken]
    exact .inl rfl
  · rw [if_neg taken]
    by_cases named : payload.id.isEmpty = true
    · rw [if_pos named]
      exact .inl rfl
    · rw [if_neg named]
      right
      rcases compiler.resolver.resolve tree payload.id with ⟨found, resolver⟩
      cases found with
      | error failure => rfl
      | ok path =>
        dsimp only
        split <;> rfl

/-- Placing an ingredient keeps the resolver's answers and the settings. -/
theorem place_keeps (compiler : Compiler) (tree : Files.Tree) (recipe : String) (gathered : Gathered)
    (role : Role) (payload : Payload) :
    (compiler.place tree recipe gathered role payload).2.resolver.answer tree = compiler.resolver.answer tree ∧
      (compiler.place tree recipe gathered role payload).2.options = compiler.options := by
  rcases place_snd compiler tree recipe gathered role payload with same | called
  · rw [same]
    exact ⟨rfl, rfl⟩
  · rw [called]
    exact ⟨Resolve.Resolver.answer_resolve _ _ _, rfl⟩

/-- Placing an ingredient gives what its checks decide, when the bound roles are the fixed roles
of the ingredients placed before it. -/
theorem place_checked {compiler : Compiler} {tree : Files.Tree} {recipe : String} {gathered : Gathered}
    {earlier : List Role} (bound : gathered.bound = earlier.filter Role.isFixed) (role : Role) (payload : Payload) :
    (compiler.place tree recipe gathered role payload).1 =
      match itemProblem (compiler.resolver.answer tree) compiler.options.ingredientNamespace recipe earlier role
          payload with
      | some failure => .error failure
      | none => .ok { bound := (earlier ++ [role]).filter Role.isFixed,
                      entries := gathered.entries ++ [itemEntry (compiler.resolver.answer tree) (role, payload)] } := by
  have taken : (role.isFixed && gathered.bound.contains role) = true ↔ (role.isFixed = true ∧ role ∈ earlier) := by
    rw [bound]
    simp only [Bool.and_eq_true, List.contains_iff_mem, List.mem_filter]
    tauto
  unfold Compiler.place itemProblem
  by_cases fixedTaken : role.isFixed = true ∧ role ∈ earlier
  · rw [if_pos (taken.mpr fixedTaken), if_pos fixedTaken]
  · rw [if_neg (mt taken.mp fixedTaken), if_neg fixedTaken]
    have nextBound : (if role.isFixed = true then gathered.bound ++ [role] else gathered.bound) =
        (earlier ++ [role]).filter Role.isFixed := by
      by_cases fixed : role.isFixed = true <;> simp [fixed, bound]
    by_cases named : payload.id = ""
    · rw [if_pos (String.isEmpty_iff.mpr named), if_pos named]
    · rw [if_neg (mt String.isEmpty_iff.mp named), if_neg named]
      simp only [itemEntry, Resolve.Resolver.answer]
      rcases compiler.resolver.resolve tree payload.id with ⟨found, resolver⟩
      cases found with
      | error failure => rfl
      | ok path =>
        dsimp only
        unfold Resolve.requireNamespace
        by_cases inside : path.startsWith compiler.options.ingredientNamespace = true
        · simp [inside, nextBound, Except.toOption]
        · simp [inside]

/-- Placing ingredients one after another gives what their checks decide, in order: the failure
of the first refused one, or one entry for each. -/
theorem placeAll_checked {tree : Files.Tree} {recipe : String} {answer : String → Except Failure String}
    {allowed : String} (items : List (Role × Payload)) :
    ∀ (compiler : Compiler) (gathered : Gathered) (earlier : List Role),
      compiler.resolver.answer tree = answer → compiler.options.ingredientNamespace = allowed →
      gathered.bound = earlier.filter Role.isFixed →
      (Compiler.placeAll tree recipe compiler gathered items).1 =
        match firstProblem answer allowed recipe earlier items with
        | some failure => .error failure
        | none => .ok { bound := (earlier ++ items.map Prod.fst).filter Role.isFixed,
                        entries := gathered.entries ++ items.map (itemEntry answer) } := by
  induction items with
  | nil =>
    intro compiler gathered earlier _ _ bound
    cases gathered
    simp_all [Compiler.placeAll, firstProblem]
  | cons item rest ih =>
    obtain ⟨role, payload⟩ := item
    intro compiler gathered earlier answers allowedEq bound
    have placed := @place_checked compiler tree recipe gathered earlier bound role payload
    obtain ⟨keepsAnswer, keepsOptions⟩ := place_keeps compiler tree recipe gathered role payload
    rw [answers, allowedEq] at placed
    rw [answers] at keepsAnswer
    have keepsAllowed := (congrArg Options.ingredientNamespace keepsOptions).trans allowedEq
    simp only [Compiler.placeAll, firstProblem]
    revert placed keepsAnswer keepsAllowed
    rcases compiler.place tree recipe gathered role payload with ⟨result, after⟩
    intro placed keepsAnswer keepsAllowed
    dsimp only at placed keepsAnswer keepsAllowed
    cases problem : itemProblem answer allowed recipe earlier role payload with
    | some failure =>
      rw [problem] at placed
      subst placed
      rfl
    | none =>
      rw [problem] at placed
      subst placed
      rw [ih after _ (earlier ++ [role]) keepsAnswer keepsAllowed rfl]
      simp

/-- Assembling a recipe gives what the checks of its ingredients decide. -/
theorem assemble_checked (compiler : Compiler) (tree : Files.Tree) (definition : Definition) :
    (compiler.assemble tree definition).1 =
      checkedEntries (compiler.resolver.answer tree) compiler.options.ingredientNamespace definition := by
  have placed := @placeAll_checked tree definition.id _ _ (placements definition) compiler {} [] rfl rfl rfl
  unfold Compiler.assemble checkedEntries
  revert placed
  rcases Compiler.placeAll tree definition.id compiler {} (placements definition) with ⟨result, after⟩
  intro placed
  dsimp only at placed ⊢
  cases problem : firstProblem (compiler.resolver.answer tree) compiler.options.ingredientNamespace definition.id []
      (placements definition) with
  | some failure =>
    rw [problem] at placed
    subst placed
    rfl
  | none =>
    rw [problem] at placed
    subst placed
    simp only [List.nil_append, List.isEmpty_map]
    split <;> rfl

/-- A compile whose result resolves fails as the assembly after that call does, and succeeds
when it succeeds. -/
theorem compile_of_result {compiler : Compiler} {tree : Files.Tree} {logger : Logging.Logger}
    {definition : Definition} {resultPath : String}
    (resolved : (compiler.resolver.resolve tree definition.result).1 = .ok resultPath) :
    (compiler.compile tree logger definition).1.1.isOk =
        ({ compiler with resolver := (compiler.resolver.resolve tree definition.result).2 }.assemble tree
          definition).1.isOk ∧
      ∀ failure, ({ compiler with resolver := (compiler.resolver.resolve tree definition.result).2 }.assemble tree
          definition).1 = .error failure → (compiler.compile tree logger definition).1.1 = .error failure := by
  unfold Compiler.compile
  simp only
  rw [resolved]
  dsimp only
  split
  · next failure after assembled => simp [assembled, Except.isOk, Except.toBool]
  · next entries after assembled => simp [assembled, Except.isOk, Except.toBool]

/-- Compiling fails at the result or at the first refused ingredient, checked in order. -/
theorem assemble_first_refused (compiler : Compiler) (tree : Files.Tree) (logger : Logging.Logger)
    (definition : Definition) :
    let answer := compiler.resolver.answer tree
    let checked := checkedEntries answer compiler.options.ingredientNamespace definition
    (compiler.assemble tree definition).1 = checked ∧
      (compiler.compile tree logger definition).1.1.isOk = ((answer definition.result).isOk && checked.isOk) ∧
      (∀ failure, answer definition.result = .error failure →
        (compiler.compile tree logger definition).1.1 =
          .error (.within ("recipe " ++ definition.id ++ ": result") failure)) ∧
      (∀ failure, (answer definition.result).isOk = true → checked = .error failure →
        (compiler.compile tree logger definition).1.1 = .error failure) := by
  intro answer checked
  -- the call for the result leaves every answer as it was, so the assembly after it is checked alike
  have afterResult :
      ({ compiler with resolver := (compiler.resolver.resolve tree definition.result).2 }.assemble tree
        definition).1 = checked := by
    rw [assemble_checked, Resolve.Resolver.answer_resolve]
  refine ⟨assemble_checked compiler tree definition, ?_, ?_, ?_⟩
  · cases resolved : answer definition.result with
    | error failure =>
      rw [compile_result_missing compiler tree logger definition failure resolved]
      rfl
    | ok resultPath =>
      rw [(compile_of_result resolved).1, afterResult]
      rfl
  · intro failure resolved
    exact compile_result_missing compiler tree logger definition failure resolved
  · intro failure resolved refused
    obtain ⟨resultPath, resolvedOk⟩ := exists_ok_of_isOk resolved
    exact (compile_of_result resolvedOk).2 failure (afterResult.trans refused)

end Alembic.Compile
