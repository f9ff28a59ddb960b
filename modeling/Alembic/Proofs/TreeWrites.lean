import Alembic.Proofs.TreeWalks
/-! # Writes that leave the rest of the tree alone -/

namespace Alembic.Files
namespace Tree

variable {tree : Tree}

/-- Nothing lies below a file of a rooted tree. -/
theorem Rooted.not_below_file (rooted : tree.Rooted) {file key : String} {data : ByteArray} {node : Node}
    (isFile : tree.find? file = some (.file data)) (found : tree.find? key = some node) : ¬Below key file := by
  intro below
  rw [rooted.directory_of_below found below] at isFile
  cases isFile

theorem find?_moved (rooted : tree.Rooted) {source target : String} {data : ByteArray}
    (isFile : tree.find? source = some (.file data)) (named : target ≠ "") (key : String) :
    ((tree.erase source).put target (.file data)).find? key =
      if key = target then some (.file data) else if key = source then none else tree.find? key := by
  rw [find?_put, find?_erase]
  by_cases root : key = ""
  · have sourceNamed : source ≠ "" := by
      rintro rfl
      cases isFile
    simp [root, Ne.symm named, Ne.symm sourceNamed]
  · rw [if_neg root, if_neg root]
    by_cases same : key = target
    · rw [if_pos same, if_pos same]
    · rw [if_neg same, if_neg same]
      by_cases moved : key = source
      · simp [moved]
      · rw [if_neg moved]
        by_cases below : Below key source
        · rw [if_pos (Or.inr below)]
          cases found : tree.find? key with
          | none => rfl
          | some node => exact absurd below (rooted.not_below_file isFile found)
        · rw [if_neg (by simp [moved, below])]

/-- A file moved to a key: it is there and no longer where it was. -/
theorem find?_move (rooted : tree.Rooted) {source target : String} {data : ByteArray}
    (isFile : tree.find? source = some (.file data)) (named : target ≠ "") (key : String) :
    (tree.move source target (.file data)).find? key =
      if key = target then some (.file data) else if key = source then none else tree.find? key :=
  find?_moved rooted isFile named key

/-- A file moved to a key takes its mode along. -/
theorem modeOf_move (rooted : tree.Rooted) {source target : String} {data : ByteArray}
    (isFile : tree.find? source = some (.file data)) (named : target ≠ "") (key : String) :
    (tree.move source target (.file data)).modeOf key =
      if key = target then tree.modeOf source else if key = source then none else tree.modeOf key := by
  rw [move, modeOf_setMode]
  by_cases same : key = target
  · rw [if_pos same, if_pos same, find?_moved rooted isFile named, if_pos rfl]
    rfl
  · rw [if_neg same, if_neg same, modeOf_eq, modeOf_eq, find?_moved rooted isFile named, if_neg same,
      modes_put, modes_erase]
    split <;> simp

theorem Rooted.move (rooted : tree.Rooted) {source target : String} {data : ByteArray}
    (isFile : tree.find? source = some (.file data)) (named : target ≠ "")
    (parent : tree.find? (parentKey target) = some .directory) (notDirectory : tree.find? target ≠ some .directory) :
    (tree.move source target (.file data)).Rooted := by
  refine Rooted.setMode ((rooted.erase source).put named ?_ fun found => ?_) _ _
  · have notSource : parentKey target ≠ source := fun same => by
      rw [same, isFile] at parent
      cases parent
    have notBelow : ¬Below (parentKey target) source := rooted.not_below_file isFile parent
    rw [find?_erase]
    simp [notSource, notBelow, parent]
  · rw [find?_erase] at found
    split at found
    · next root => exact absurd root named
    · split at found
      · cases found
      · exact absurd found notDirectory

/-- Renaming a file onto a path that is not a directory: when both name one key nothing changes,
otherwise the file moves there. -/
theorem rename_cases (rooted : tree.Rooted) {source target : String} {data : ByteArray} {after : Tree}
    (isFile : tree.find? (keyOf source) = some (.file data)) (renamed : tree.rename source target = .ok after) :
    keyOf target ≠ "" ∧ tree.find? (keyOf target) ≠ some .directory ∧
      (keyOf target = keyOf source ∧ after = tree ∨
        keyOf target ≠ keyOf source ∧ after = tree.move (keyOf source) (keyOf target) (.file data) ∧
          after.Rooted) := by
  cases sourceLocated : tree.locate source with
  | error errno => simp [rename, sourceLocated] at renamed
  | ok sourcePlace =>
  cases sourcePlace with
  | missing parent name => simp [rename, sourceLocated] at renamed
  | found sourceKey node =>
  have sourceKeyed : sourceKey = keyOf source := locate_key sourceLocated
  have sourceNode : tree.find? sourceKey = some node := locate_holds rooted sourceLocated
  rw [← sourceKeyed] at isFile ⊢
  rw [isFile] at sourceNode
  cases sourceNode
  cases targetLocated : tree.locate target with
  | error errno => simp [rename, sourceLocated, targetLocated] at renamed
  | ok targetPlace =>
  cases targetPlace with
  | found key old =>
    have keyed : key = keyOf target := locate_key targetLocated
    have found : tree.find? key = some old := locate_holds rooted targetLocated
    rw [← keyed]
    cases old with
    | directory => simp [rename, sourceLocated, targetLocated] at renamed
    | file oldData =>
      have named : key ≠ "" := by
        rintro rfl
        cases found
      have notDirectory : tree.find? key ≠ some .directory := by
        rw [found]
        simp
      simp only [rename, sourceLocated, targetLocated] at renamed
      by_cases same : key = sourceKey
      · simp only [same, beq_self_eq_true, if_true, Except.ok.injEq] at renamed
        exact ⟨named, notDirectory, .inl ⟨same, renamed.symm⟩⟩
      · simp only [same, beq_iff_eq, if_false, Except.ok.injEq] at renamed
        subst renamed
        exact ⟨named, notDirectory, .inr ⟨same, rfl, rooted.move isFile named (rooted key _ named found) notDirectory⟩⟩
  | missing parent name =>
    have keyed : childKey parent name = keyOf target := locate_key targetLocated
    obtain ⟨directory, absent, nameNamed, noSeparator⟩ := locate_holds rooted targetLocated
    have named : childKey parent name ≠ "" := childKey_ne_empty parent nameNamed
    have notDirectory : tree.find? (childKey parent name) ≠ some .directory := by
      rw [absent]
      simp
    have other : childKey parent name ≠ sourceKey := fun same => by
      rw [same, isFile] at absent
      cases absent
    simp only [rename, sourceLocated, targetLocated, Except.ok.injEq] at renamed
    subst renamed
    rw [← keyed]
    exact ⟨named, notDirectory, .inr ⟨other, rfl,
      rooted.move isFile named (by rwa [parentKey_childKey parent noSeparator]) notDirectory⟩⟩

end Tree

namespace Tree

variable {tree : Tree}

/-- A path and the paths above it, each the text before the last element of the one before. -/
inductive Upward : String → String → Prop
  | self (path : String) : Upward path path
  | parent {path ancestor : String} : Upward (parentText path) ancestor → Upward path ancestor

/-- What making directories toward a path did: every entry is as it was, or a directory made
where nothing was, at the key of the path or of a path above it. -/
def MadeToward (before after : Tree) (path : String) : Prop :=
  ∀ key, after.find? key = before.find? key ∨
    (before.find? key = none ∧ after.find? key = some .directory ∧
      ∃ ancestor, Upward path ancestor ∧ key = keyOf ancestor)

theorem MadeToward.refl (path : String) : MadeToward tree tree path := fun _ => .inl rfl

/-- Directories made toward the parent and then the one for the path are made toward the path. -/
theorem MadeToward.then_put {ready after : Tree} {path : String} (earlier : MadeToward tree ready (parentText path))
    (absent : ready.find? (keyOf path) = none)
    (made : ∀ key, after.find? key = (ready.put (keyOf path) .directory).find? key) : MadeToward tree after path := by
  intro key
  rw [made, find?_put]
  by_cases root : key = ""
  · subst root
    exact .inl rfl
  rw [if_neg root]
  by_cases same : key = keyOf path
  · rw [if_pos same]
    subst same
    refine .inr ⟨?_, rfl, path, .self path, rfl⟩
    rcases earlier (keyOf path) with unchanged | ⟨_, made, _⟩
    · rwa [← unchanged]
    · rw [made] at absent
      cases absent
  · rw [if_neg same]
    rcases earlier key with unchanged | ⟨missing, made, ancestor, above, keyed⟩
    · exact .inl unchanged
    · exact .inr ⟨missing, made, ancestor, .parent above, keyed⟩

theorem MadeToward.of_parent {ready : Tree} {path : String} (earlier : MadeToward tree ready (parentText path)) :
    MadeToward tree ready path := by
  intro key
  rcases earlier key with unchanged | ⟨missing, made, ancestor, above, keyed⟩
  · exact .inl unchanged
  · exact .inr ⟨missing, made, ancestor, .parent above, keyed⟩

theorem stat_of_locate {path key : String} {node : Node} (located : tree.locate path = .ok (.found key node)) :
    tree.stat path = .ok node := by
  simp [stat, located]

/-- Making one directory where nothing was: afterwards the path names a directory. -/
theorem mkdir_made (rooted : tree.Rooted) {path : String} {after : Tree} (made : tree.mkdir path = .ok after) :
    after.Rooted ∧ tree.find? (keyOf path) = none ∧
      (∀ key, after.find? key = (tree.put (keyOf path) .directory).find? key) ∧ after.stat path = .ok .directory := by
  obtain ⟨parent, name, located, rfl⟩ := mkdir_eq made
  have keyed : childKey parent name = keyOf path := locate_key located
  refine ⟨(rooted.put_missing .directory (locate_holds rooted located)).setMode _ _,
    keyed ▸ locate_missing_absent located, fun key => by rw [find?_setMode, keyed], ?_⟩
  rw [stat_setMode]
  exact stat_of_locate (locate_put_missing .directory located (.inl rfl))

/-- Making the parents of a path, when they are not the root, is making directories toward them. -/
theorem mkdirAll_parents (fuel : Nat) {path : String}
    (parents : ∀ {tree : Tree}, tree.Rooted →
      (∀ {after}, tree.mkdirAll (parentText path) fuel = .ok after →
        after.Rooted ∧ MadeToward tree after (parentText path)) ∧
      ∀ {stopped}, tree.mkdirAll (parentText path) fuel = .error stopped →
        stopped.2.Rooted ∧ MadeToward tree stopped.2 (parentText path))
    (rooted : tree.Rooted) :
    (∀ {ready}, (if (parentText path).isEmpty = true ∨ parentText path = "/" then .ok tree
        else tree.mkdirAll (parentText path) fuel) = .ok ready → ready.Rooted ∧ MadeToward tree ready (parentText path)) ∧
      ∀ {stopped}, (if (parentText path).isEmpty = true ∨ parentText path = "/" then .ok tree
        else tree.mkdirAll (parentText path) fuel) = .error stopped →
        stopped.2.Rooted ∧ MadeToward tree stopped.2 (parentText path) := by
  split
  · exact ⟨fun same => by cases same; exact ⟨rooted, .refl _⟩, fun same => by cases same⟩
  · exact parents rooted

/-- Making a directory with its parents adds directories where nothing was, toward the path: it
ends with the path naming a directory, or fails keeping the directories made before the failure. -/
theorem mkdirAll_outcome (fuel : Nat) :
    ∀ {tree : Tree} {path : String}, tree.Rooted →
      (∀ {after}, tree.mkdirAll path fuel = .ok after →
        after.Rooted ∧ MadeToward tree after path ∧ after.stat path = .ok .directory) ∧
      ∀ {stopped}, tree.mkdirAll path fuel = .error stopped → stopped.2.Rooted ∧ MadeToward tree stopped.2 path := by
  induction fuel with
  | zero =>
    intro tree path rooted
    simp only [mkdirAll]
    cases made : tree.mkdir path with
    | error failure =>
      refine ⟨fun finished => by simp [Except.mapError] at finished, fun stopped => ?_⟩
      simp only [Except.mapError, Except.error.injEq] at stopped
      subst stopped
      exact ⟨rooted, .refl path⟩
    | ok after =>
      refine ⟨fun finished => ?_, fun stopped => by simp [Except.mapError] at stopped⟩
      simp only [Except.mapError, Except.ok.injEq] at finished
      subst finished
      obtain ⟨afterRooted, absent, found, isDirectory⟩ := mkdir_made rooted made
      exact ⟨afterRooted, (MadeToward.refl (parentText path)).then_put absent found, isDirectory⟩
  | succ fuel ih =>
    intro tree path rooted
    unfold mkdirAll
    split
    · next isDirectory =>
      refine ⟨fun finished => ?_, fun stopped => ?_⟩
      · cases finished
        exact ⟨rooted, .refl path, isDirectory⟩
      · cases stopped
    · refine ⟨fun finished => ?_, fun stopped => ?_⟩
      · cases finished
      · cases stopped
        exact ⟨rooted, .refl path⟩
    · -- the parents first, then the directory itself
      have parents := @mkdirAll_parents _ fuel path
        (fun rooted => ⟨fun made => ((ih rooted).1 made).imp_right And.left, (ih rooted).2⟩) rooted
      dsimp only
      generalize (if (parentText path).isEmpty = true ∨ parentText path = "/" then Except.ok tree
        else tree.mkdirAll (parentText path) fuel) = prepared at parents ⊢
      cases prepared with
      | error stopped =>
        obtain ⟨stoppedRooted, grown⟩ := parents.2 rfl
        refine ⟨fun finished => ?_, fun same => ?_⟩
        · cases finished
        · cases same
          exact ⟨stoppedRooted, grown.of_parent⟩
      | ok ready =>
        obtain ⟨readyRooted, grown⟩ := parents.1 rfl
        dsimp only
        cases madeOne : ready.mkdir path with
        | ok done =>
          obtain ⟨doneRooted, absent, found, isDirectory⟩ := mkdir_made readyRooted madeOne
          refine ⟨fun finished => ?_, fun stopped => ?_⟩
          · cases finished
            exact ⟨doneRooted, grown.then_put absent found, isDirectory⟩
          · cases stopped
        | error failure =>
          dsimp only
          split
          · next isDirectory =>
            refine ⟨fun finished => ?_, fun stopped => ?_⟩
            · cases finished
              exact ⟨readyRooted, grown.of_parent, isDirectory⟩
            · cases stopped
          · refine ⟨fun finished => ?_, fun stopped => ?_⟩
            · cases finished
            · cases stopped
              exact ⟨readyRooted, grown.of_parent⟩

theorem mkdirAll_made (fuel : Nat) {tree after : Tree} {path : String} (rooted : tree.Rooted)
    (made : tree.mkdirAll path fuel = .ok after) :
    after.Rooted ∧ MadeToward tree after path ∧ after.stat path = .ok .directory :=
  (mkdirAll_outcome fuel rooted).1 made

end Tree

namespace Tree

variable {tree : Tree}

/-- A walk that ends at a directory passes only directories, so a tree that keeps every directory
walks it alike. -/
theorem walk_of_directories {other : Tree}
    (keeps : ∀ key, tree.find? key = some .directory → other.find? key = some .directory)
    {current key : String} {node : Node} {elements : List String}
    (walked : tree.walk current node elements = .ok (.found key .directory)) :
    other.walk current node elements = .ok (.found key .directory) := by
  induction elements generalizing current node with
  | nil => exact walked
  | cons element rest ih =>
    cases node with
    | file content => simp [walk] at walked
    | directory =>
      by_cases skipped : element.isEmpty = true ∨ element = "."
      · simp only [walk, if_pos skipped] at walked ⊢
        exact ih walked
      by_cases up : element = ".."
      · simp only [walk, if_neg skipped, if_pos up] at walked ⊢
        exact ih walked
      by_cases long : element.utf8ByteSize > nameLimit
      · simp only [walk, if_neg skipped, if_neg up, if_pos long] at walked
        cases walked
      simp only [walk, if_neg skipped, if_neg up, if_neg long] at walked ⊢
      cases found : tree.find? (childKey current element) with
      | some child =>
        rw [found] at walked
        cases child with
        | file content =>
          cases rest with
          | nil =>
            simp only [walk, Except.ok.injEq, Place.found.injEq] at walked
            cases walked.2
          | cons next later => simp [walk] at walked
        | directory =>
          rw [keeps _ found]
          exact ih walked
      | none =>
        rw [found] at walked
        by_cases empty : rest.all (·.isEmpty) = true <;> simp [empty] at walked

theorem locate_of_directories {other : Tree}
    (keeps : ∀ key, tree.find? key = some .directory → other.find? key = some .directory) {path key : String}
    (located : tree.locate path = .ok (.found key .directory)) :
    other.locate path = .ok (.found key .directory) := by
  unfold locate at located ⊢
  by_cases nul : path.toList.contains '\x00' = true
  · rw [if_pos nul] at located
    cases located
  by_cases unnamed : path.isEmpty = true
  · rw [if_neg nul, if_pos unnamed] at located
    cases located
  rw [if_neg nul, if_neg unnamed] at located ⊢
  exact walk_of_directories keeps located

theorem stat_of_directories {other : Tree}
    (keeps : ∀ key, tree.find? key = some .directory → other.find? key = some .directory) {path : String}
    (isDirectory : tree.stat path = .ok .directory) : other.stat path = .ok .directory := by
  unfold stat at isDirectory
  split at isDirectory
  · next key node located =>
    simp only [Except.ok.injEq] at isDirectory
    subst isDirectory
    exact stat_of_locate (locate_of_directories keeps located)
  · cases isDirectory
  · cases isDirectory

/-- Making directories toward a path that already names a directory changes nothing. -/
theorem makeDirectories_of_directory {path : String} (isDirectory : tree.stat path = .ok .directory) :
    tree.makeDirectories path = .ok tree := by
  simp [makeDirectories, mkdirAll, isDirectory]

end Tree

end Alembic.Files
