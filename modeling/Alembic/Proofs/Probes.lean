import Mathlib
import Alembic.Proofs.OutputFrame
/-! # Where a probe leads -/

namespace Alembic.Files

-- so that what a concrete tree holds at a path is decided
deriving instance DecidableEq for Node
deriving instance DecidableEq for SystemError

namespace Tree

open Alembic.Path

variable {tree : Tree}

/-- A walk along two lists of elements continues from where the walk along the first ends; a
name missing in the first ends it, unless every element after it is empty. -/
theorem walk_append (first second : List String) : ∀ (current : String) (node : Node),
    tree.walk current node (first ++ second) =
      match tree.walk current node first with
      | .ok (.found key child) => tree.walk key child second
      | .ok (.missing parent name) =>
        if second.all (·.isEmpty) then .ok (.missing parent name) else .error .notFound
      | .error errno => .error errno := by
  induction first with
  | nil => intro current node; rfl
  | cons element rest ih =>
    intro current node
    cases node with
    | file content => rfl
    | directory =>
      simp only [List.cons_append, walk]
      by_cases skipped : element.isEmpty = true ∨ element = "."
      · rw [if_pos skipped, if_pos skipped]
        exact ih current .directory
      rw [if_neg skipped, if_neg skipped]
      by_cases up : element = ".."
      · rw [if_pos up, if_pos up]
        exact ih (parentKey current) .directory
      rw [if_neg up, if_neg up]
      by_cases long : element.utf8ByteSize > nameLimit
      · rw [if_pos long, if_pos long]
      rw [if_neg long, if_neg long]
      cases tree.find? (childKey current element) with
      | some child => exact ih _ child
      | none =>
        -- the missing name is the last unless a later element of either list names something
        rw [List.all_append]
        cases rest.all (·.isEmpty) <;> rfl

/-- From a directory, a plain name is looked up among its entries, unless it is too long. -/
theorem walk_plain (key : String) {name : String} (plain : Plain name) :
    tree.walk key .directory [name] =
      if nameLimit < name.utf8ByteSize then .error .nameTooLong
      else
        match tree.find? (childKey key name) with
        | some child => .ok (.found (childKey key name) child)
        | none => .ok (.missing key name) := by
  obtain ⟨named, -, notDot, notDotDot⟩ := plain
  have kept : ¬(name.isEmpty = true ∨ name = ".") := by simp [named, notDot]
  by_cases long : nameLimit < name.utf8ByteSize
  · simp only [walk, kept, notDotDot, if_false, gt_iff_lt, List.all_nil, if_true, if_pos long]
  -- fix the lookup before unfolding, so that both matches on it reduce alike
  · cases found : tree.find? (childKey key name) <;>
      simp only [walk, kept, notDotDot, if_false, gt_iff_lt, List.all_nil, if_true, if_neg long, found]

theorem locate_dot : tree.locate "." = .ok (.found "" .directory) := by
  simp [locate, elements_of_separator_not_mem (show '/' ∉ ".".toList by simp), walk]

theorem locate_root : tree.locate "/" = .ok (.found "" .directory) := by
  have split : elements "/" = ["", ""] := by
    rw [show "/" = "" ++ "/" ++ "" from rfl, elements_append_separator, elements_empty]
    rfl
  simp [locate, split, walk]

/-- A path that holds no NUL and is not empty is walked from the root. -/
theorem locate_eq_walk {path : String} (noNul : '\x00' ∉ path.toList) (named : path ≠ "") :
    tree.locate path = tree.walk "" .directory (elements path) := by
  simp [locate, noNul, named]

/-- A name inside a directory path is one step from where the directory's path leads. -/
theorem locate_child {dir : String} (named : dir ≠ "") {name : String} (plain : Plain name)
    (noNul : '\x00' ∉ name.toList) :
    tree.locate (dir ++ "/" ++ name) =
      match tree.locate dir with
      | .ok (.found key node) => tree.walk key node [name]
      | .ok (.missing ..) => .error .notFound
      | .error errno => .error errno := by
  have nulFree : ('\x00' ∈ (dir ++ "/" ++ name).toList) ↔ '\x00' ∈ dir.toList := by
    simp [String.toList_append, noNul]
  by_cases nul : '\x00' ∈ dir.toList
  · simp [locate, nul]
  rw [locate_eq_walk (by rwa [nulFree]) (by simp [named]), locate_eq_walk nul named,
    elements_append_separator, elements_of_separator_not_mem plain.2.1, walk_append]
  have nonempty : [name].all (·.isEmpty) = false := by simpa using plain.1
  rcases tree.walk "" .directory (elements dir) with errno | (⟨key, node⟩ | ⟨parent, missing⟩)
  · rfl
  · rfl
  · simp [nonempty]

/-- A probe, the path of a folder joined with a plain name, is one step from where the cleaned
folder's path leads. -/
theorem locate_join_child (dir : String) {name : String} (plain : Plain name) (noNul : '\x00' ∉ name.toList) :
    tree.locate (join [dir, name]) =
      match tree.locate (clean dir) with
      | .ok (.found key node) => tree.walk key node [name]
      | .ok (.missing ..) => .error .notFound
      | .error errno => .error errno := by
  rcases join_plain dir plain with ⟨dot, joined⟩ | ⟨root, joined⟩ | ⟨named, joined⟩
  · rw [joined, dot, locate_dot, locate_eq_walk noNul plain.1, elements_of_separator_not_mem plain.2.1]
  · rw [joined, root, locate_root, show "/" ++ name = "" ++ "/" ++ name from rfl,
      locate_eq_walk (by simpa [String.toList_append] using noNul) (by simp), elements_append_separator,
      elements_empty, elements_of_separator_not_mem plain.2.1]
    simp [walk]
  · rw [joined, locate_child named plain noNul]

/-- A probe inside a folder that cannot be looked at fails as the folder does. -/
theorem stat_join_of_error {dir name : String} (plain : Plain name) (noNul : '\x00' ∉ name.toList)
    {problem : SystemError} (failed : tree.stat (clean dir) = .error problem) :
    tree.stat (join [dir, name]) = .error (.onPath "stat" (join [dir, name]) problem.errno) := by
  unfold stat at failed ⊢
  rw [locate_join_child dir plain noNul]
  cases located : tree.locate (clean dir) with
  | ok place =>
    rw [located] at failed
    cases place with
    | found key node => cases failed
    | missing parent missingName =>
      cases failed
      rfl
  | error errno =>
    rw [located] at failed
    cases failed
    rfl

/-- A name longer than a directory entry may be fails inside a directory with `nameTooLong`. -/
theorem stat_join_of_long {dir name : String} (plain : Plain name) (noNul : '\x00' ∉ name.toList)
    (isDirectory : tree.stat (clean dir) = .ok .directory) (long : nameLimit < name.utf8ByteSize) :
    tree.stat (join [dir, name]) = .error (.onPath "stat" (join [dir, name]) .nameTooLong) := by
  unfold stat at isDirectory ⊢
  rw [locate_join_child dir plain noNul]
  cases located : tree.locate (clean dir) with
  | ok place =>
    rw [located] at isDirectory
    cases place with
    | found key node =>
      cases isDirectory
      simp only [walk_plain key plain, long, if_true]
    | missing parent missingName => cases isDirectory
  | error errno =>
    rw [located] at isDirectory
    cases isDirectory

end Tree

end Alembic.Files

namespace Alembic.Resolve

open Files Alembic.Path

variable {tree : Tree} {id name : String} {folder : Folder} {rest : List Folder} {searched : List String}

/-- The probe of a folder whose path cleans to neither `.` nor `/` is the cleaned path, a separator
and the name. -/
theorem probe_path {dir : String} (plain : Plain name) (inner : clean dir ≠ "." ∧ clean dir ≠ "/") :
    join [dir, name] = clean dir ++ "/" ++ name := by
  rcases join_plain dir plain with ⟨dot, -⟩ | ⟨root, -⟩ | ⟨-, joined⟩
  · exact absurd dot inner.1
  · exact absurd root inner.2
  · exact joined

/-- A search passes over a folder that is not there. -/
theorem search_of_missing_folder (plain : Plain name) (noNul : '\x00' ∉ name.toList) {problem : SystemError}
    (missing : tree.stat (clean folder.dir) = .error problem) (absent : problem.errno = .notFound) :
    Resolver.search tree id name (folder :: rest) searched =
      Resolver.search tree id name rest (folder.root :: searched) := by
  have probed : (SystemError.onPath "stat" (join [folder.dir, name]) problem.errno).errno = .notFound := absent
  have skipped : (Errno.notFound == Errno.notFound) = true := rfl
  simp [Resolver.search, Tree.stat_join_of_error plain noNul missing, probed, skipped]

/-- A name too long for a directory entry stops a search at the first folder that is a directory. -/
theorem search_of_long_name (plain : Plain name) (noNul : '\x00' ∉ name.toList)
    (isDirectory : tree.stat (clean folder.dir) = .ok .directory) (long : nameLimit < name.utf8ByteSize) :
    Resolver.search tree id name (folder :: rest) searched =
      .error (.within ("error probing " ++ join [folder.dir, name])
        (.system (.onPath "stat" (join [folder.dir, name]) .nameTooLong))) := by
  have stops : (Errno.nameTooLong == Errno.notFound) = false := rfl
  simp [Resolver.search, Tree.stat_join_of_long plain noNul isDirectory long, SystemError.errno, stops]

end Alembic.Resolve
