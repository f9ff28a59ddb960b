import Alembic.Proofs.Batch
/-! # A resolver over a sequence of calls -/

namespace Alembic.Resolve

open Files

namespace Resolver

/-- The resolver after a sequence of calls, each on the tree of its time. -/
def afterCalls (resolver : Resolver) (calls : List (Tree × String)) : Resolver :=
  calls.foldl (fun resolver call => (resolver.resolve call.1 call.2).2) resolver

@[simp] theorem afterCalls_nil (resolver : Resolver) : resolver.afterCalls [] = resolver := rfl

@[simp] theorem afterCalls_cons (resolver : Resolver) (tree : Tree) (id : String) (calls : List (Tree × String)) :
    resolver.afterCalls ((tree, id) :: calls) = (resolver.resolve tree id).2.afterCalls calls := rfl

end Resolver

/-- The path the first successful lookup among the calls for an identifier finds, each call
looking in its own tree. -/
def firstFound (folders : List Folder) (id : String) : List (Tree × String) → Option String
  | [] => none
  | (tree, other) :: rest =>
    if other = id then (lookup tree folders id).toOption.or (firstFound folders id rest)
    else firstFound folders id rest

/-- Calls that all look in one tree find what a lookup there finds, or nothing. -/
theorem firstFound_oneTree (folders : List Folder) (id : String) {tree : Tree} :
    ∀ {calls : List (Tree × String)}, (∀ call ∈ calls, call.1 = tree) →
      (firstFound folders id calls).elim (lookup tree folders id) .ok = lookup tree folders id
  | [], _ => rfl
  | (callTree, other) :: rest, sameTree => by
    have restSame : ∀ call ∈ rest, call.1 = tree := fun call member => sameTree call (List.mem_cons_of_mem _ member)
    obtain rfl : callTree = tree := sameTree (callTree, other) List.mem_cons_self
    unfold firstFound
    split
    · next same =>
      subst same
      cases looked : lookup callTree folders other with
      | ok path => rfl
      | error failure =>
        simpa [Except.toOption, looked] using firstFound_oneTree folders other restSame
    · exact firstFound_oneTree folders id restSame

/-- A successful search finds the file in one of the folders. -/
theorem search_eq_ok {tree : Tree} {id name : String} :
    ∀ {folders : List Folder} {searched : List String} {path : String},
      Resolver.search tree id name folders searched = .ok path → ∃ folder ∈ folders, path = folder.root ++ name
  | [], _, _, found => by cases found
  | folder :: rest, searched, path, found => by
    unfold Resolver.search at found
    dsimp only at found
    -- the file itself ends the search; a directory or an absent file passes to the next folder
    split at found
    · cases found
      exact ⟨folder, List.mem_cons_self, rfl⟩
    · obtain ⟨other, member, rfl⟩ := search_eq_ok found
      exact ⟨other, List.mem_cons_of_mem _ member, rfl⟩
    · split at found
      · obtain ⟨other, member, rfl⟩ := search_eq_ok found
        exact ⟨other, List.mem_cons_of_mem _ member, rfl⟩
      · cases found

namespace Resolver

theorem cached?_eq_none {resolver : Resolver} {id : String} :
    resolver.cached? id = none ↔ id ∉ resolver.found.map Prod.fst := by
  simp only [cached?, Option.map_eq_none_iff, List.find?_eq_none, beq_iff_eq, List.mem_map, not_exists, not_and]

/-- A call that answers a path leaves that path remembered. -/
theorem cached?_resolve_of_ok {resolver : Resolver} {tree : Tree} {id path : String}
    (found : (resolver.resolve tree id).1 = .ok path) : (resolver.resolve tree id).2.cached? id = some path := by
  rw [cached?_resolve, if_pos rfl]
  rw [resolve_fst_eq] at found
  cases remembered : resolver.cached? id with
  | some known =>
    rw [remembered] at found
    cases found
    rfl
  | none =>
    rw [remembered, Option.elim_none] at found
    simp [found, Except.toOption]

/-- A call that fails remembers nothing: the identifier was not remembered, and still is not. -/
theorem resolve_error_unchanged {resolver : Resolver} {tree : Tree} {id : String} {failure : Failure}
    (failed : (resolver.resolve tree id).1 = .error failure) :
    (resolver.resolve tree id).2 = resolver ∧ resolver.cached? id = none := by
  unfold resolve at failed ⊢
  split at failed
  · cases failed
  · next absent =>
    refine ⟨?_, absent⟩
    split at failed
    · rfl
    · split at failed
      · cases failed
      · rfl

/-- Every remembered identifier is a valid one, remembered once, with the path of its resource
file in one of the folders. -/
structure WellFormed (resolver : Resolver) : Prop where
  distinct : (resolver.found.map Prod.fst).Nodup
  entries : ∀ entry ∈ resolver.found,
    idProblem entry.1 = none ∧ ∃ folder ∈ resolver.folders, entry.2 = folder.root ++ (entry.1 ++ extension)

theorem wellFormed_fresh (folders : List Folder) : ({ folders } : Resolver).WellFormed :=
  ⟨List.nodup_nil, by simp⟩

theorem WellFormed.resolve {resolver : Resolver} (wellFormed : resolver.WellFormed) (tree : Tree) (id : String) :
    (resolver.resolve tree id).2.WellFormed := by
  unfold Resolver.resolve
  split
  · exact wellFormed
  · next absent =>
    split
    · exact wellFormed
    · next valid =>
      split
      · next path found =>
        obtain ⟨folder, member, rfl⟩ := search_eq_ok found
        have fresh := cached?_eq_none.mp absent
        refine ⟨?_, fun entry inside => ?_⟩
        · simp only [List.map_append, List.map_cons, List.map_nil]
          rw [List.nodup_append]
          refine ⟨wellFormed.distinct, by simp, fun key inside other single => ?_⟩
          rw [List.mem_singleton] at single
          rintro rfl
          exact fresh (single ▸ inside)
        · simp only [List.mem_append, List.mem_singleton] at inside
          rcases inside with earlier | rfl
          · exact wellFormed.entries entry earlier
          · exact ⟨valid, folder, member, rfl⟩
      · exact wellFormed

/-- With every identifier remembered once, each remembered entry is what memory answers. -/
theorem WellFormed.cached?_of_mem {resolver : Resolver} (wellFormed : resolver.WellFormed)
    {entry : String × String} (member : entry ∈ resolver.found) : resolver.cached? entry.1 = some entry.2 := by
  have distinct := wellFormed.distinct
  unfold cached?
  generalize resolver.found = found at member distinct ⊢
  induction found with
  | nil => cases member
  | cons first rest ih =>
    obtain ⟨firstFresh, restDistinct⟩ := List.nodup_cons.mp distinct
    rcases List.mem_cons.mp member with rfl | later
    · simp
    · have differs : first.1 ≠ entry.1 := fun same => firstFresh (same ▸ List.mem_map_of_mem later)
      rw [List.find?_cons_of_neg (by simpa using differs)]
      exact ih later restDistinct

@[simp] theorem folders_afterCalls (resolver : Resolver) (calls : List (Tree × String)) :
    (resolver.afterCalls calls).folders = resolver.folders := by
  induction calls generalizing resolver with
  | nil => rfl
  | cons call rest ih =>
    obtain ⟨tree, id⟩ := call
    rw [afterCalls_cons, ih, folders_resolve]

theorem WellFormed.afterCalls {resolver : Resolver} (wellFormed : resolver.WellFormed) :
    ∀ calls : List (Tree × String), (resolver.afterCalls calls).WellFormed := by
  intro calls
  induction calls generalizing resolver with
  | nil => exact wellFormed
  | cons call rest ih => exact ih (wellFormed.resolve call.1 call.2)

/-- After a sequence of calls, memory holds what it held, or else the first path found. -/
theorem cached?_afterCalls (resolver : Resolver) (calls : List (Tree × String)) (id : String) :
    (resolver.afterCalls calls).cached? id = (resolver.cached? id).or (firstFound resolver.folders id calls) := by
  induction calls generalizing resolver with
  | nil => simp [firstFound]
  | cons call rest ih =>
    obtain ⟨tree, other⟩ := call
    rw [afterCalls_cons, ih, folders_resolve, cached?_resolve, Option.or_assoc]
    by_cases same : other = id
    · subst same
      simp [firstFound]
    · simp [firstFound, same]

/-- What a resolver that started empty does on the next call after a sequence of calls. -/
structure RemembersFirst (folders : List Folder) (calls : List (Tree × String)) (state : Resolver) : Prop where
  answers : ∀ tree id, (state.resolve tree id).1 = (firstFound folders id calls).elim (lookup tree folders id) .ok
  keepsFound : ∀ tree id path, (state.resolve tree id).1 = .ok path →
    ∀ (later : List (Tree × String)) (laterTree : Tree),
      ((state.resolve tree id).2.afterCalls later).resolve laterTree id =
        (.ok path, (state.resolve tree id).2.afterCalls later)
  failureKeepsNothing : ∀ tree id failure, (state.resolve tree id).1 = .error failure →
    (state.resolve tree id).2 = state ∧ ∀ laterTree, (state.resolve laterTree id).1 = lookup laterTree folders id
  entries : ∀ entry ∈ state.found, idProblem entry.1 = none ∧
    (∃ folder ∈ folders, entry.2 = folder.root ++ (entry.1 ++ extension)) ∧
    firstFound folders entry.1 calls = some entry.2
  oneTree : ∀ tree, (∀ call ∈ calls, call.1 = tree) → ∀ id, (state.resolve tree id).1 = lookup tree folders id

end Resolver

end Alembic.Resolve

namespace Alembic.App

open Resolve

variable {runner : Runner} {tree : Files.Tree}

/-- A run over two lists of records is the run over the first, continued from where it ended. -/
theorem compileAll_append (before after : List Table.Record) :
    ∀ progress : Progress, runner.compileAll tree progress (before ++ after) =
      (runner.compileAll tree progress before).bind fun middle => runner.compileAll tree middle after := by
  induction before with
  | nil => intro progress; rfl
  | cons record rest ih =>
    intro progress
    simp only [List.cons_append, Runner.compileAll]
    cases runner.cancelled
    · simp only [Bool.false_eq_true, if_false]
      split
      · split
        · rfl
        · exact ih _
      · exact ih _
    · rfl

/-- Every compiler a run reaches agrees with the fresh one on the run's tree. -/
theorem compileAll_agree (records : List Table.Record) :
    ∀ (progress : Progress) (earlier : List Table.Record) {final : Progress}, Tracks progress.seen earlier →
      Compile.Agree tree progress.compiler runner.compiler.fresh →
      runner.compileAll tree progress records = .ok final →
      Compile.Agree tree final.compiler runner.compiler.fresh := by
  induction records with
  | nil =>
    intro progress earlier final _ agree compiled
    simp only [Runner.compileAll, Except.ok.injEq] at compiled
    subst compiled
    exact agree
  | cons record rest ih =>
    intro progress earlier final tracks agree compiled
    obtain ⟨-, nextTracks, nextAgree⟩ := compileRecord_step tracks agree record
    cases live : runner.cancelled
    · simp only [Runner.compileAll, live, Bool.false_eq_true, if_false] at compiled
      split at compiled
      · split at compiled
        · cases compiled
        · exact ih _ _ nextTracks nextAgree compiled
      · exact ih _ _ nextTracks nextAgree compiled
    · simp [Runner.compileAll, live] at compiled

/-- A resolver started empty answers each identifier from its first successful lookup, whatever
the tree of later calls. -/
theorem resolver_remembers_first_found (folders : List Folder) (calls : List (Files.Tree × String)) :
    Resolver.RemembersFirst folders calls (({ folders } : Resolver).afterCalls calls) ∧
      ∀ (config : Config) (cancelled : Bool) (tree : Files.Tree) (before : List Table.Record)
        (record : Table.Record) (after : List Table.Record) (middle : Progress),
        let runner := (Runner.make config cancelled).1
        runner.compileAll tree { compiler := runner.compiler } before = .ok middle →
          runner.compileAll tree { compiler := runner.compiler } (before ++ record :: after) =
            runner.compileAll tree middle (record :: after) ∧
          ∀ id, (middle.compiler.resolver.resolve tree id).1 = lookup tree (defaultFolders config.root) id := by
  have fresh := Resolver.wellFormed_fresh folders
  -- memory after the calls is exactly the first paths found, since the resolver started empty
  have remembered : ∀ id, (({ folders } : Resolver).afterCalls calls).cached? id = firstFound folders id calls := by
    intro id
    simpa [Resolver.cached?] using Resolver.cached?_afterCalls { folders } calls id
  have answers : ∀ tree id, ((({ folders } : Resolver).afterCalls calls).resolve tree id).1 =
      (firstFound folders id calls).elim (lookup tree folders id) .ok := by
    intro tree id
    rw [Resolver.resolve_fst_eq, remembered, Resolver.folders_afterCalls]
  refine ⟨⟨answers, ?_, ?_, ?_, ?_⟩, ?_⟩
  · intro tree id path found later laterTree
    apply Resolver.resolve_cached
    rw [Resolver.cached?_afterCalls, Resolver.cached?_resolve_of_ok found, Option.some_or]
  · intro tree id failure failed
    obtain ⟨unchanged, absent⟩ := Resolver.resolve_error_unchanged failed
    refine ⟨unchanged, fun laterTree => ?_⟩
    rw [Resolver.resolve_fst_eq, absent, Resolver.folders_afterCalls]
    rfl
  · intro entry member
    have wellFormed := fresh.afterCalls calls
    obtain ⟨valid, folder, inFolders, path⟩ := wellFormed.entries entry member
    rw [Resolver.folders_afterCalls] at inFolders
    exact ⟨valid, ⟨folder, inFolders, path⟩, (remembered entry.1).symm.trans (wellFormed.cached?_of_mem member)⟩
  · intro tree sameTree id
    rw [answers, firstFound_oneTree folders id sameTree]
  · intro config cancelled tree before record after middle runner reached
    refine ⟨by rw [compileAll_append, reached]; rfl, fun id => ?_⟩
    have agree := compileAll_agree before { compiler := runner.compiler } [] tracks_nil
      (Compile.agree_fresh (sound_make config cancelled tree)) reached
    rw [Resolver.resolve_fst agree.firstSound, agree.folders]
    rfl

/-- A project in game whose items folder holds a herb. -/
def herbTree : Files.Tree :=
  { entries := [("game", .directory), ("game/resources", .directory), ("game/resources/items", .directory),
      ("game/resources/items/herb.tres", .file "herb".toUTF8)] }

/-- A call before the herb exists fails, the call after finds it, and the next call on a tree
without it still answers its path. -/
theorem resolver_remembers_first_found_herb :
    let folders := defaultFolders "game"
    let calls : List (Files.Tree × String) := [({}, "herb"), (herbTree, "herb")]
    (lookup {} folders "herb").toOption = none ∧
      firstFound folders "herb" calls = some "res://resources/items/herb.tres" ∧
      ((({ folders } : Resolver).afterCalls calls).resolve {} "herb").1 = .ok "res://resources/items/herb.tres" ∧
      Resolver.RemembersFirst folders calls (({ folders } : Resolver).afterCalls calls) ∧
      ∀ id, (((Runner.make bareRecipeConfig false).1.compiler.resolver.resolve {} id).1 =
        lookup {} (defaultFolders bareRecipeConfig.root) id) := by
  intro folders calls
  have missing : (lookup {} folders "herb").toOption = none := by decide +kernel
  have first : firstFound folders "herb" calls = some "res://resources/items/herb.tres" := by decide +kernel
  obtain ⟨remembers, inRuns⟩ := resolver_remembers_first_found folders calls
  refine ⟨missing, first, by rw [remembers.answers, first]; rfl, remembers, ?_⟩
  exact (inRuns bareRecipeConfig false {} [] { index := 0, value := .null .dynamic } [] _ rfl).2

end Alembic.App
