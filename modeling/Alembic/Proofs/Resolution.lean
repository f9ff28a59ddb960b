import Mathlib
import Alembic.Proofs.Probes
import Alembic.Proofs.DecodedRecipes
/-! # How an identifier is resolved -/

namespace Alembic.Resolve

open Files

/-- A folder a search passes over: the probe there finds a directory, or nothing. -/
def Passes (tree : Tree) (name : String) (folder : Folder) : Prop :=
  tree.stat (Path.join [folder.dir, name]) = .ok .directory ∨
    ∃ problem, tree.stat (Path.join [folder.dir, name]) = .error problem ∧ problem.errno = .notFound

namespace Resolver

variable {tree : Tree} {id name : String} {folder : Folder} {rest : List Folder} {searched : List String}

theorem search_passes (passes : Passes tree name folder) :
    search tree id name (folder :: rest) searched = search tree id name rest (folder.root :: searched) := by
  rcases passes with isDirectory | ⟨problem, failed, absent⟩
  · simp [search, isDirectory]
  · have skipped : (problem.errno == Errno.notFound) = true := by rw [absent]; rfl
    simp [search, failed, skipped]

theorem search_file {content : ByteArray} (found : tree.stat (Path.join [folder.dir, name]) = .ok (.file content)) :
    search tree id name (folder :: rest) searched = .ok (folder.root ++ name) := by
  simp [search, found]

theorem search_fails {problem : SystemError} (failed : tree.stat (Path.join [folder.dir, name]) = .error problem)
    (other : problem.errno ≠ .notFound) :
    search tree id name (folder :: rest) searched =
      .error (.within ("error probing " ++ Path.join [folder.dir, name]) (.system problem)) := by
  have stops : (problem.errno == Errno.notFound) = false := by
    cases errno : problem.errno with
    | notFound => exact absurd errno other
    | _ => rfl
  simp [search, failed, stops]

/-- A search passes over the folders at its front one by one, adding their prefixes. -/
theorem search_append_passed {passed : List Folder} (allPass : ∀ skipped ∈ passed, Passes tree name skipped) :
    ∀ searched, search tree id name (passed ++ rest) searched =
      search tree id name rest ((passed.map Folder.root).reverse ++ searched) := by
  induction passed with
  | nil => intro searched; rfl
  | cons skipped others ih =>
    intro searched
    rw [List.cons_append, search_passes (allPass skipped List.mem_cons_self),
      ih (fun other member => allPass other (List.mem_cons_of_mem _ member))]
    simp

theorem search_all_passed {folders : List Folder} (allPass : ∀ skipped ∈ folders, Passes tree name skipped) :
    search tree id name folders [] = .error (.notFound id (folders.map Folder.root)) := by
  have passedAll : search tree id name (folders ++ []) [] =
      search tree id name [] ((folders.map Folder.root).reverse ++ []) := search_append_passed allPass []
  rw [List.append_nil] at passedAll
  rw [passedAll]
  simp [search]

/-- An identifier that is not remembered and passes the checks is remembered with the path its
search finds. -/
theorem resolve_of_search_ok {resolver : Resolver} (fresh : resolver.cached? id = none) (valid : idProblem id = none)
    {path : String} (found : search tree id (id ++ extension) resolver.folders [] = .ok path) :
    resolver.resolve tree id = (.ok path, { resolver with found := resolver.found ++ [(id, path)] }) := by
  simp only [resolve, fresh, valid, found]

/-- An identifier that is not remembered and passes the checks fails as its search does, and is
not remembered. -/
theorem resolve_of_search_error {resolver : Resolver} (fresh : resolver.cached? id = none)
    (valid : idProblem id = none) {failure : Failure}
    (failed : search tree id (id ++ extension) resolver.folders [] = .error failure) :
    resolver.resolve tree id = (.error failure, resolver) := by
  simp only [resolve, fresh, valid, failed]

/-- A search that finds a path found it at a folder holding the file, after passing over every
folder before it. -/
theorem search_ok_split : ∀ {folders : List Folder} {searched : List String} {path : String},
    search tree id name folders searched = .ok path →
      ∃ passed folder rest content, folders = passed ++ folder :: rest ∧
        (∀ skipped ∈ passed, Passes tree name skipped) ∧
        tree.stat (Path.join [folder.dir, name]) = .ok (.file content) ∧ path = folder.root ++ name
  | [], _, _, found => by cases found
  | folder :: rest, searched, path, found => by
    have passedOver (passes : Passes tree name folder) :
        ∃ passed found rest' content, folder :: rest = passed ++ found :: rest' ∧
          (∀ skipped ∈ passed, Passes tree name skipped) ∧
          tree.stat (Path.join [found.dir, name]) = .ok (.file content) ∧ path = found.root ++ name := by
      rw [search_passes passes] at found
      obtain ⟨passed, later, remaining, content, split, allPass, holds, named⟩ := search_ok_split found
      refine ⟨folder :: passed, later, remaining, content, by rw [split, List.cons_append], ?_, holds, named⟩
      intro skipped member
      rcases List.mem_cons.mp member with rfl | earlier
      · exact passes
      · exact allPass skipped earlier
    cases probe : tree.stat (Path.join [folder.dir, name]) with
    | ok node =>
      cases node with
      | file content =>
        rw [search_file probe] at found
        cases found
        exact ⟨[], folder, rest, content, rfl, by simp, probe, rfl⟩
      | directory => exact passedOver (.inl probe)
    | error problem =>
      by_cases absent : problem.errno = .notFound
      · exact passedOver (.inr ⟨problem, probe, absent⟩)
      · rw [search_fails probe absent] at found
        cases found

/-- What an identifier that is not remembered and passes the checks resolves to is what its
search finds. -/
theorem search_of_resolve_ok {resolver : Resolver} (fresh : resolver.cached? id = none) (valid : idProblem id = none)
    {path : String} (resolved : (resolver.resolve tree id).1 = .ok path) :
    search tree id (id ++ extension) resolver.folders [] = .ok path := by
  cases searched : search tree id (id ++ extension) resolver.folders [] with
  | ok found =>
    rw [resolve_of_search_ok fresh valid searched] at resolved
    cases resolved
    rfl
  | error failure =>
    rw [resolve_of_search_error fresh valid searched] at resolved
    cases resolved

end Resolver

/-- The reasons an identifier is refused are never empty. -/
theorem idProblem_reason_nonempty {id reason : String} (refused : idProblem id = some reason) : reason ≠ "" := by
  unfold idProblem at refused
  split_ifs at refused <;> (cases refused; decide)

/-- An identifier passes the checks exactly when it is not empty, holds no separator and is
neither `.` nor `..`. -/
theorem idProblem_eq_none_iff_plain (id : String) :
    idProblem id = none ↔ id ≠ "" ∧ '/' ∉ id.toList ∧ '\\' ∉ id.toList ∧ id ≠ "." ∧ id ≠ ".." := by
  constructor
  · intro valid
    unfold idProblem at valid
    split_ifs at valid with empty separator element
    simp_all [String.isEmpty_iff]
  · rintro ⟨named, noSlash, noBackslash, notDot, notDotDot⟩
    simp [idProblem, String.isEmpty_iff, named, noSlash, noBackslash, notDot, notDotDot]

/-- The potions folder of the default folders, and the items folder after it. -/
theorem defaultFolders_eq (root : String) :
    defaultFolders root = [⟨Path.join [root, "resources", "potions"], "res://resources/potions/"⟩,
      ⟨Path.join [root, "resources", "items"], itemsNamespace⟩] := rfl

/-- A path under the potions prefix is not in the items namespace. -/
theorem requireNamespace_potions (name recipe role : String) :
    requireNamespace ("res://resources/potions/" ++ name) itemsNamespace recipe role ≠ .ok () := by
  have outside : ("res://resources/potions/" ++ name).startsWith itemsNamespace = false := by
    rw [Bool.eq_false_iff, ne_eq, String.startsWith_string_iff, String.toList_append]
    intro inside
    have early := List.prefix_of_prefix_length_le inside (List.prefix_append _ _) (by decide)
    exact absurd early (by decide)
  simp [requireNamespace, outside]

/-- Every path under the items prefix is in the items namespace. -/
theorem requireNamespace_items (name recipe role : String) :
    requireNamespace (itemsNamespace ++ name) itemsNamespace recipe role = .ok () := by
  have inside : (itemsNamespace ++ name).startsWith itemsNamespace = true := by
    rw [String.startsWith_string_iff, String.toList_append]
    exact List.prefix_append _ _
  simp [requireNamespace, inside]

/-- With the default folders, an identifier resolves into the items namespace exactly when the
potions folder is passed over and the items folder holds its file. -/
theorem resolve_items_iff {resolver : Resolver} {tree : Tree} {id : String} (fresh : resolver.cached? id = none)
    (valid : idProblem id = none) (root : String) (defaults : resolver.folders = defaultFolders root) :
    (∃ path, (resolver.resolve tree id).1 = .ok path ∧
        ∀ recipe role, requireNamespace path itemsNamespace recipe role = .ok ()) ↔
      Passes tree (id ++ extension) ⟨Path.join [root, "resources", "potions"], "res://resources/potions/"⟩ ∧
        ∃ content, tree.stat (Path.join [Path.join [root, "resources", "items"], id ++ extension]) =
          .ok (.file content) := by
  constructor
  · rintro ⟨path, resolved, inside⟩
    have found := Resolver.search_of_resolve_ok fresh valid resolved
    rw [defaults, defaultFolders_eq] at found
    obtain ⟨passed, folder, rest, content, split, allPass, holds, rfl⟩ := Resolver.search_ok_split found
    rcases passed with _ | ⟨potions, _ | ⟨items, more⟩⟩
    · simp only [List.nil_append, List.cons.injEq] at split
      rw [← split.1] at inside
      exact absurd (inside "" "") (requireNamespace_potions _ _ _)
    · simp only [List.cons_append, List.nil_append, List.cons.injEq] at split
      obtain ⟨rfl, rfl, -⟩ := split
      exact ⟨allPass _ List.mem_cons_self, content, holds⟩
    · simp at split
  · rintro ⟨potionsPass, content, holds⟩
    have found : Resolver.search tree id (id ++ extension) resolver.folders [] = .ok (itemsNamespace ++ (id ++ extension)) := by
      -- the items folder is named, since its probe does not fix it
      rw [defaults, defaultFolders_eq, Resolver.search_passes potionsPass,
        @Resolver.search_file tree id _ ⟨Path.join [root, "resources", "items"], itemsNamespace⟩ [] _ content holds]
    exact ⟨_, by rw [Resolver.resolve_of_search_ok fresh valid found], requireNamespace_items _⟩

/-- What resolving an identifier that is not remembered does. -/
structure Resolution (resolver : Resolver) (tree : Tree) (id : String) : Prop where
  refused : ∀ reason, idProblem id = some reason →
    reason ≠ "" ∧ resolver.resolve tree id = (.error (.unresolvable id reason), resolver)
  checked : idProblem id = none ↔ id ≠ "" ∧ '/' ∉ id.toList ∧ '\\' ∉ id.toList ∧ id ≠ "." ∧ id ≠ ".."
  probe_inside : idProblem id = none → ∀ folder ∈ resolver.folders,
    Path.dir (Path.join [folder.dir, id ++ extension]) = Path.clean folder.dir ∧
      Path.base (Path.join [folder.dir, id ++ extension]) = id ++ extension
  first_file : idProblem id = none → ∀ passed folder rest content, resolver.folders = passed ++ folder :: rest →
    (∀ skipped ∈ passed, Passes tree (id ++ extension) skipped) →
    tree.stat (Path.join [folder.dir, id ++ extension]) = .ok (.file content) →
    resolver.resolve tree id = (.ok (folder.root ++ (id ++ extension)),
      { resolver with found := resolver.found ++ [(id, folder.root ++ (id ++ extension))] })
  first_failure : idProblem id = none → ∀ passed folder rest problem, resolver.folders = passed ++ folder :: rest →
    (∀ skipped ∈ passed, Passes tree (id ++ extension) skipped) →
    tree.stat (Path.join [folder.dir, id ++ extension]) = .error problem → problem.errno ≠ .notFound →
    resolver.resolve tree id =
        (.error (.within ("error probing " ++ Path.join [folder.dir, id ++ extension]) (.system problem)), resolver) ∧
      (Failure.within ("error probing " ++ Path.join [folder.dir, id ++ extension]) (.system problem)).kind ≠
        .resolution
  not_found : idProblem id = none → (∀ folder ∈ resolver.folders, Passes tree (id ++ extension) folder) →
    resolver.resolve tree id = (.error (.notFound id (resolver.folders.map Folder.root)), resolver)
  items_namespace : idProblem id = none → ∀ root, resolver.folders = defaultFolders root →
    ((∃ path, (resolver.resolve tree id).1 = .ok path ∧
        ∀ recipe role, requireNamespace path itemsNamespace recipe role = .ok ()) ↔
      Passes tree (id ++ extension) ⟨Path.join [root, "resources", "potions"], "res://resources/potions/"⟩ ∧
        ∃ content, tree.stat (Path.join [Path.join [root, "resources", "items"], id ++ extension]) =
          .ok (.file content))

/-- An identifier that is not remembered resolves at the first folder whose probe finds a file
or fails otherwise, and is not found when every probe finds nothing. -/
theorem resolve_uncached (resolver : Resolver) (tree : Tree) (id : String) (fresh : resolver.cached? id = none) :
    Resolution resolver tree id where
  refused reason problem := ⟨idProblem_reason_nonempty problem, by simp [Resolver.resolve, fresh, problem]⟩
  checked := idProblem_eq_none_iff_plain id
  probe_inside valid folder _ := by
    have plain := Recipe.plain_of_recipeIdProblem ((idProblem_eq_none_iff id).mp valid)
    exact ⟨Path.dir_join_plain folder.dir plain, Path.base_join_plain folder.dir plain⟩
  first_file valid passed folder rest content split allPass found := by
    apply Resolver.resolve_of_search_ok fresh valid
    rw [split, Resolver.search_append_passed allPass, Resolver.search_file found]
  first_failure valid passed folder rest problem split allPass failed other := by
    refine ⟨?_, by cases problem <;> simp [Failure.kind]⟩
    apply Resolver.resolve_of_search_error fresh valid
    rw [split, Resolver.search_append_passed allPass, Resolver.search_fails failed other]
  not_found valid allPass := Resolver.resolve_of_search_error fresh valid (Resolver.search_all_passed allPass)
  items_namespace valid root defaults := resolve_items_iff fresh valid root defaults

/-- A fresh resolver over the default folders of an empty project. -/
theorem resolve_uncached_water :
    ({ folders := defaultFolders "." } : Resolver).cached? "water" = none ∧
      Resolution { folders := defaultFolders "." } {} "water" :=
  ⟨rfl, resolve_uncached { folders := defaultFolders "." } {} "water" rfl⟩

end Alembic.Resolve
