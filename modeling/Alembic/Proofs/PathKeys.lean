import Alembic.Proofs.TreeWrites
/-! # The entry a path leads to -/

namespace Alembic.Files

open Alembic.Path

/-- The key is the other key or lies below it. -/
def Under (key ancestor : String) : Prop := key = ancestor ∨ Below key ancestor

instance (key ancestor : String) : Decidable (Under key ancestor) :=
  inferInstanceAs (Decidable (_ ∨ _))

theorem reach_append (current : String) (first second : List String) :
    reach current (first ++ second) = reach (reach current first) second := by
  induction first generalizing current with
  | nil => rfl
  | cons element rest ih =>
    simp only [List.cons_append, reach]
    split_ifs <;> exact ih _

theorem reach_plain (current : String) {name : String} (plain : Plain name) :
    reach current [name] = childKey current name := by
  obtain ⟨named, -, notHere, notClimb⟩ := plain
  simp [reach, named, notHere, notClimb]

/-- Empty elements, `.` and `..` leave a walk from the working directory where it started. -/
theorem reach_skipped {skipped : List String}
    (skips : ∀ element ∈ skipped, element = "" ∨ element = "." ∨ element = "..") : reach "" skipped = "" := by
  induction skipped with
  | nil => rfl
  | cons element rest ih =>
    have restSkips := ih fun other member => skips other (List.mem_cons_of_mem _ member)
    rcases skips element List.mem_cons_self with rfl | rfl | rfl
    · simpa [reach] using restSkips
    · simpa [reach] using restSkips
    · simpa [reach, parentKey_empty] using restSkips

theorem joined_concat {names : List String} (named : ∀ name ∈ names, name ≠ "") (last : String) :
    joined (names ++ [last]) = childKey (joined names) last := by
  cases names with
  | nil => simp [joined, childKey]
  | cons first rest =>
    have nonempty : joined (first :: rest) ≠ "" := by
      obtain ⟨after, split⟩ := toList_joined_cons first rest
      intro empty
      rw [empty, String.toList_empty] at split
      exact named first List.mem_cons_self (String.toList_eq_nil_iff.mp (List.append_eq_nil_iff.mp split.symm).1)
    rw [joined, String.intercalate_append_of_ne_nil (by simp) (by simp), childKey, if_neg (by simpa using nonempty)]
    rfl

/-- Walking plain names from a key reached by plain names joins them all. -/
theorem reach_joined {earlier : List String} (earlierPlain : ∀ name ∈ earlier, Plain name) {names : List String}
    (plainNames : ∀ name ∈ names, Plain name) : reach (joined earlier) names = joined (earlier ++ names) := by
  induction names generalizing earlier with
  | nil => simp [reach]
  | cons name rest ih =>
    have plain := plainNames name List.mem_cons_self
    have longerPlain : ∀ other ∈ earlier ++ [name], Plain other := by
      intro other member
      rcases List.mem_append.mp member with older | last
      · exact earlierPlain other older
      · rw [List.mem_singleton.mp last]
        exact plain
    rw [show name :: rest = [name] ++ rest from rfl, reach_append, reach_plain _ plain,
      ← joined_concat (fun other member => (earlierPlain other member).1),
      ih longerPlain fun other member => plainNames other (List.mem_cons_of_mem _ member)]
    simp

theorem reach_names {names : List String} (plainNames : ∀ name ∈ names, Plain name) :
    reach "" names = joined names := by
  simpa [joined] using @reach_joined [] (by simp) _ plainNames

/-! ## Straight paths -/

/-- A path whose elements are some that keep a walk at the working directory (empty ones, `.`
and `..`) followed by plain names. Every cleaned path is one. -/
def Straight (path : String) : Prop :=
  ∃ skipped names, elements path = skipped ++ names ∧
    (∀ element ∈ skipped, element = "" ∨ element = "." ∨ element = "..") ∧ ∀ name ∈ names, Plain name

theorem elements_empty : elements "" = [""] := rfl

theorem straight_clean (path : String) : Straight (clean path) := by
  unfold Straight
  obtain ⟨names, climbs, stack, plainNames, noClimbs⟩ := settled_kept path
  have keptEq : kept path = List.replicate climbs ".." ++ names.reverse := by
    rw [← List.reverse_reverse (kept path), stack]
    simp
  have reversedPlain : ∀ name ∈ names.reverse, Plain name := by simpa using plainNames
  have separatorFree : ∀ name ∈ names.reverse, '/' ∉ name.toList := fun name member =>
    (reversedPlain name member).2.1
  by_cases rooted : isAbs path = true
  · rw [clean_eq_kept, if_pos rooted, keptEq, noClimbs rooted, List.replicate_zero, List.nil_append,
      show "/" ++ joined names.reverse = "" ++ "/" ++ joined names.reverse by simp, elements_append_separator,
      elements_empty]
    by_cases nothing : names.reverse = []
    · refine ⟨["", ""], [], ?_, by simp, by simp⟩
      rw [nothing]
      rfl
    · exact ⟨[""], names.reverse, by rw [elements_joined nothing separatorFree], by simp, reversedPlain⟩
  · by_cases nothingKept : kept path = []
    · rw [clean_eq_kept, if_neg rooted, nothingKept]
      refine ⟨["."], [], ?_, by simp, by simp⟩
      simp only [joined, String.intercalate_nil]
      rw [elements_of_separator_not_mem (by decide)]
      simp
    · have notEmpty := joined_ne_empty (settled_kept path) nothingKept
      have separatorFreeKept : ∀ element ∈ kept path, '/' ∉ element.toList := fun element member =>
        ((settled_kept path).mem (List.mem_reverse.mpr member)).2
      rw [clean_eq_kept, if_neg rooted, if_neg (by simpa using notEmpty),
        elements_joined nothingKept separatorFreeKept, keptEq]
      exact ⟨List.replicate climbs "..", names.reverse, rfl,
        fun element member => .inr (.inr (List.eq_of_mem_replicate member)), reversedPlain⟩

theorem straight_join (parts : List String) : Straight (join parts) := by
  unfold join
  split
  · exact ⟨[""], [], rfl, by simp, by simp⟩
  · exact straight_clean _

theorem Straight.keyOf_eq {path : String} {skipped names : List String} (split : elements path = skipped ++ names)
    (skips : ∀ element ∈ skipped, element = "" ∨ element = "." ∨ element = "..")
    (plainNames : ∀ name ∈ names, Plain name) : keyOf path = joined names := by
  rw [keyOf, split, reach_append, reach_skipped skips, reach_names plainNames]

theorem joined_take (names : List String) (count : Nat) :
    joined (names.take count) = "" ∨ Under (joined names) (joined (names.take count)) := by
  by_cases rest : names.drop count = []
  · rw [List.drop_eq_nil_iff] at rest
    exact .inr (.inl (by rw [List.take_of_length_le rest]))
  · by_cases front : names.take count = []
    · left
      simp [front, joined]
    · have whole : joined (names.take count ++ names.drop count) =
          joined (names.take count) ++ "/" ++ joined (names.drop count) :=
        String.intercalate_append_of_ne_nil front rest
      rw [List.take_append_drop] at whole
      refine .inr (.inr ((below_iff _ _).mpr ⟨(joined (names.drop count)).toList, ?_⟩))
      simp [whole]

/-- Every step of a walk along a straight path reaches the working directory or a key at or
above the path's own key. -/
theorem Straight.reach_take {path : String} (straight : Straight path) (count : Nat) :
    reach "" ((elements path).take count) = "" ∨ Under (keyOf path) (reach "" ((elements path).take count)) := by
  obtain ⟨skipped, names, split, skips, plainNames⟩ := straight
  have takenSkips : ∀ element ∈ skipped.take count, element = "" ∨ element = "." ∨ element = ".." :=
    fun element member => skips element (List.mem_of_mem_take member)
  have takenPlain : ∀ name ∈ names.take (count - skipped.length), Plain name :=
    fun name member => plainNames name (List.mem_of_mem_take member)
  rw [Straight.keyOf_eq split skips plainNames, split, List.take_append, reach_append, reach_skipped takenSkips,
    reach_names takenPlain]
  exact joined_take names _

/-! ## Keys of joined paths -/

theorem keyOf_append_separator (first second : String) :
    keyOf (first ++ "/" ++ second) = reach (keyOf first) (elements second) := by
  rw [keyOf, elements_append_separator, reach_append]
  rfl

theorem keyOf_empty : keyOf "" = "" := rfl

theorem keyOf_dot : keyOf "." = "" := by
  rw [keyOf, elements_of_separator_not_mem (by decide)]
  simp [reach]

theorem keyOf_root : keyOf "/" = "" := by
  rw [show "/" = "" ++ "/" ++ "" from rfl, keyOf_append_separator, keyOf_empty, elements_empty]
  simp [reach]

/-- A plain name joined to a directory leads to the child of the directory's key with that name. -/
theorem keyOf_join_plain (directory : String) {name : String} (plain : Plain name) :
    keyOf (join [directory, name]) = childKey (keyOf (clean directory)) name := by
  have single : elements name = [name] := elements_of_separator_not_mem plain.2.1
  rcases join_plain directory plain with ⟨here, joinedEq⟩ | ⟨root, joinedEq⟩ | ⟨-, joinedEq⟩
  · rw [joinedEq, here, keyOf_dot, keyOf, single, reach_plain _ plain]
  · rw [joinedEq, root, show "/" ++ name = "" ++ "/" ++ name by simp, keyOf_append_separator, keyOf_root,
      keyOf_empty, single, reach_plain _ plain]
  · rw [joinedEq, keyOf_append_separator, single, reach_plain _ plain]

theorem join_resources (root : String) {name : String} (named : name ≠ "") :
    join [root, "resources", name] = join [if root = "" then "resources" else root ++ "/" ++ "resources", name] := by
  by_cases nothing : root = ""
  · subst nothing
    simp [join, named]
  · simp [join, nothing, named, String.append_assoc]
    rfl

theorem keyOf_join_resources (root : String) {name : String} (plain : Plain name) :
    keyOf (join [root, "resources", name]) = childKey (keyOf (join [root, "resources"])) name := by
  have resources : join [root, "resources"] = clean (if root = "" then "resources" else root ++ "/" ++ "resources") := by
    by_cases nothing : root = ""
    · subst nothing
      simp [join]
    · simp [join, nothing]
  rw [join_resources root plain.1, keyOf_join_plain _ plain, resources]

theorem keyOf_clean_join (parts : List String) : keyOf (clean (join parts)) = keyOf (join parts) := by
  unfold join
  split
  · rw [show clean "" = "." from rfl, keyOf_dot, keyOf_empty]
  · rw [clean_clean]

/-! ## Directories made toward a path -/

/-- The parent text of a path is empty, or the path is its parent text, a separator and more. -/
theorem parentText_split (path : String) :
    Tree.parentText path = "" ∨ ∃ rest, path = Tree.parentText path ++ "/" ++ rest := by
  simp only [Tree.parentText]
  split
  · exact .inl rfl
  · next first kept dropped =>
    right
    have slash : first = '/' := by
      have stops := List.head?_dropWhile_not (fun c => decide (c ≠ '/'))
        (path.toList.reverse.dropWhile fun c => decide (c = '/'))
      rw [dropped] at stops
      simpa using stops
    have lastElement := @List.takeWhile_append_dropWhile _ (fun c => decide (c ≠ '/'))
      (path.toList.reverse.dropWhile fun c => decide (c = '/'))
    have trailing := @List.takeWhile_append_dropWhile _ (fun c => decide (c = '/')) path.toList.reverse
    rw [dropped, slash] at lastElement
    refine ⟨String.ofList (((path.toList.reverse.dropWhile fun c => decide (c = '/')).takeWhile
      fun c => decide (c ≠ '/')).reverse ++ (path.toList.reverse.takeWhile fun c => decide (c = '/')).reverse), ?_⟩
    have whole : path.toList.reverse = (path.toList.reverse.takeWhile fun c => decide (c = '/')) ++
        (((path.toList.reverse.dropWhile fun c => decide (c = '/')).takeWhile fun c => decide (c ≠ '/')) ++
          '/' :: kept) := by
      rw [lastElement, trailing]
    rw [← String.toList_inj, ← List.reverse_inj]
    simpa using whole

/-- The key of a path above another is the working directory or a key the walk along the other
reaches on its way. -/
theorem keyOf_of_upward {path ancestor : String} (upward : Tree.Upward path ancestor) :
    keyOf ancestor = "" ∨ ∃ count, keyOf ancestor = reach "" ((elements path).take count) := by
  induction upward with
  | self path => exact .inr ⟨(elements path).length, by rw [List.take_length]; rfl⟩
  | @parent path ancestor _ ih =>
    rcases ih with empty | ⟨count, reached⟩
    · exact .inl empty
    · rcases parentText_split path with nothing | ⟨rest, split⟩
      · left
        rw [reached, nothing, elements_empty]
        cases count <;> simp [reach]
      · have extended : elements path = elements (Tree.parentText path) ++ elements rest := by
          rw [← elements_append_separator, ← split]
        refine .inr ⟨min count (elements (Tree.parentText path)).length, ?_⟩
        rw [reached, extended, List.take_append_of_le_length (Nat.min_le_right _ _), ← List.take_take,
          List.take_length]

/-- Every directory made toward a straight path lies at or above the path's key. -/
theorem Straight.under_of_upward {path ancestor : String} (straight : Straight path)
    (upward : Tree.Upward path ancestor) :
    keyOf ancestor = "" ∨ Under (keyOf path) (keyOf ancestor) := by
  rcases keyOf_of_upward upward with empty | ⟨count, reached⟩
  · exact .inl empty
  · rw [reached]
    exact straight.reach_take count

/-! ## Telling keys apart -/

theorem childKey_inj {first second name other : String} (noSeparator : '/' ∉ name.toList)
    (otherFree : '/' ∉ other.toList) (same : childKey first name = childKey second other) :
    first = second ∧ name = other := by
  have parents : first = second := by
    rw [← parentKey_childKey first noSeparator, same, parentKey_childKey second otherFree]
  subst parents
  refine ⟨rfl, ?_⟩
  unfold childKey at same
  split at same
  · exact same
  · simpa [String.append_assoc] using same

theorem Below.under_parent {parent name key : String} (noSeparator : '/' ∉ name.toList)
    (below : Below (childKey parent name) key) : Under parent key := by
  rcases parentKey_of_below below with same | ⟨lower, -⟩
  · exact .inl (by rw [← same, parentKey_childKey parent noSeparator])
  · exact .inr (by rwa [parentKey_childKey parent noSeparator] at lower)

theorem below_childKey {parent name : String} (named : parent ≠ "") (noSeparator : '/' ∉ name.toList) :
    Below (childKey parent name) parent := by
  have parentEq := parentKey_childKey parent noSeparator
  have below := @below_parentKey (childKey parent name) (by rw [parentEq]; exact named)
  rwa [parentEq] at below

/-- A key at or below a child of a directory lies below the directory. -/
theorem Under.below_of_childKey {key parent name : String} (named : parent ≠ "") (noSeparator : '/' ∉ name.toList)
    (under : Under key (childKey parent name)) : Below key parent := by
  rcases under with rfl | lower
  · exact below_childKey named noSeparator
  · exact lower.trans (below_childKey named noSeparator)

theorem joined_elements (path : String) : joined (elements path) = path := by
  rw [← String.toList_inj, joined, String.toList_intercalate, elements, List.map_map]
  simp [Function.comp_def, List.intercalate_splitOn]

/-- The extension only reads what follows the last separator. -/
theorem ext_append_separator (front : String) {last : String} (noSeparator : '/' ∉ last.toList) :
    ext (front ++ "/" ++ last) = ext last := by
  have allKept : ∀ c ∈ last.toList.reverse, decide (c ≠ '/') = true := by
    intro c member
    simpa using fun same : c = '/' => noSeparator (List.mem_reverse.mp (same ▸ member))
  have reversed : (front ++ "/" ++ last).toList.reverse = last.toList.reverse ++ '/' :: front.toList.reverse := by
    simp
  have lastElement : (front ++ "/" ++ last).toList.reverse.takeWhile (fun c => decide (c ≠ '/')) =
      last.toList.reverse.takeWhile (fun c => decide (c ≠ '/')) := by
    rw [reversed, List.takeWhile_append_of_pos allKept, List.takeWhile_eq_self_iff.mpr allKept,
      List.takeWhile_cons_of_neg (by simp), List.append_nil]
  unfold ext
  rw [lastElement]

theorem ext_resourceName (id : String) : ext (id ++ ".tres") = ".tres" := by
  unfold ext
  simp

/-- The extension of a path is the extension of its last element. -/
theorem ext_of_elements {path : String} {front : List String} {last : String} (split : elements path = front ++ [last]) :
    ext path = ext last := by
  have noSeparator : '/' ∉ last.toList := @separator_not_mem_of_elements path last (by simp [split])
  rw [← joined_elements path, split]
  by_cases nothing : front = []
  · subst nothing
    simp [joined]
  · rw [joined, String.intercalate_append_of_ne_nil nothing (by simp), String.intercalate_singleton]
    exact ext_append_separator _ noSeparator

/-! ## The key of a path beside the key of its directory -/

/-- Cleaning elements keeps where they lead from the root. -/
theorem reach_cleanElements (rooted : Bool) (elements' stack : List String)
    (noSeparator : ∀ element ∈ elements', '/' ∉ element.toList) (settled : Settled rooted stack) :
    reach "" (cleanElements rooted elements' stack) = reach (reach "" stack.reverse) elements' := by
  fun_induction cleanElements rooted elements' stack with
  | case1 stack => rfl
  | case2 element rest stack skipped ih =>
    rw [ih (by simp_all) settled]
    simp only [reach, if_pos skipped]
  | case3 rest below kept ih =>
    rw [ih (by simp_all) settled.climb]
    simp [reach, reach_append]
  | case4 rest top below other kept ih =>
    have plain := settled.plain_top other
    rw [ih (by simp_all) (settled.pop other), List.reverse_cons, reach_append, reach_plain _ plain]
    simp [reach, parentKey_childKey _ plain.2.1]
  | case5 rest isRooted kept ih =>
    rw [ih (by simp_all) settled]
    simp [reach, parentKey_empty]
  | case6 rest notRooted kept ih =>
    rw [ih (by simp_all) ⟨[], 1, rfl, by simp, by simpa using notRooted⟩]
    simp [reach, parentKey_empty]
  | case7 element rest stack kept climb ih =>
    have plain : Plain element := by
      simp only [not_or, String.isEmpty_iff] at kept
      exact ⟨kept.1, noSeparator element List.mem_cons_self, kept.2, climb⟩
    rw [ih (by simp_all) (settled.push plain), List.reverse_cons, reach_append, reach_plain _ plain]
    simp [reach, plain.1, plain.2.2.1, climb]

/-- A cleaned path leads where the path does. -/
theorem keyOf_clean (path : String) : keyOf (clean path) = keyOf path := by
  have keptKey : keyOf path = reach "" (kept path) := by
    rw [kept_eq, reach_cleanElements (isAbs path) (elements path) []
      (fun _ member => separator_not_mem_of_elements member) ⟨[], 0, rfl, by simp, fun _ => rfl⟩]
    rfl
  have separatorFree : ∀ element ∈ kept path, '/' ∉ element.toList := fun element member =>
    ((settled_kept path).mem (List.mem_reverse.mpr member)).2
  have joinedKey : keyOf (joined (kept path)) = reach "" (kept path) := by
    by_cases nothing : kept path = []
    · rw [nothing]
      rfl
    · rw [keyOf, elements_joined nothing separatorFree]
  rw [keptKey, clean_eq_kept]
  split
  · rw [show "/" ++ joined (kept path) = "" ++ "/" ++ joined (kept path) by simp, keyOf_append_separator,
      keyOf_empty]
    exact joinedKey
  · split
    · next empty =>
      have nothing : kept path = [] := by
        by_contra something
        exact joined_ne_empty (settled_kept path) something (by simpa using empty)
      rw [keyOf_dot, nothing]
      rfl
    · exact joinedKey

/-- One element leads from a key to the key itself, to its parent, or to its child of that name. -/
theorem reach_single (current : String) {element : String} (noSeparator : '/' ∉ element.toList) :
    reach current [element] = current ∨ reach current [element] = parentKey current ∨
      (Plain element ∧ reach current [element] = childKey current element) := by
  by_cases skipped : element.isEmpty = true ∨ element = "."
  · exact .inl (by simp only [reach, if_pos skipped])
  by_cases up : element = ".."
  · exact .inr (.inl (by simp [reach, up]))
  · simp only [not_or, String.isEmpty_iff] at skipped
    exact .inr (.inr ⟨⟨skipped.1, noSeparator, skipped.2, up⟩, by simp [reach, skipped.1, skipped.2, up]⟩)

/-- A path with a separator is the text before its last separator, the separator, and a last
element. -/
theorem exists_last_separator {path : String} (separated : '/' ∈ path.toList) :
    ∃ front last, path = front ++ "/" ++ last ∧ '/' ∉ last.toList := by
  have split := List.takeWhile_append_dropWhile (p := fun c => decide (c ≠ '/')) (l := path.toList.reverse)
  have lastFree : ∀ c ∈ path.toList.reverse.takeWhile (fun c => decide (c ≠ '/')), c ≠ '/' := fun c member => by
    simpa using List.mem_takeWhile_imp member
  have dropped : path.toList.reverse.dropWhile (fun c => decide (c ≠ '/')) ≠ [] := by
    intro empty
    simp only [List.dropWhile_eq_nil_iff, decide_eq_true_eq, ne_eq, List.mem_reverse] at empty
    exact empty '/' separated rfl
  obtain ⟨first, rest, dropEq⟩ := List.exists_cons_of_ne_nil dropped
  have isSeparator : first = '/' := by
    have := List.head?_dropWhile_not (fun c => decide (c ≠ '/')) path.toList.reverse
    rw [dropEq] at this
    simpa using this
  subst isSeparator
  rw [dropEq] at split
  generalize path.toList.reverse.takeWhile (fun c => decide (c ≠ '/')) = lastReversed at split lastFree
  refine ⟨String.ofList rest.reverse, String.ofList lastReversed.reverse, ?_, fun member => ?_⟩
  · have whole := congrArg List.reverse split
    simp only [List.reverse_append, List.reverse_cons, List.reverse_reverse] at whole
    apply String.ext
    rw [← whole]
    simp
  · simp only [String.toList_ofList, List.mem_reverse] at member
    exact lastFree '/' member rfl

/-- A path leads to the key of its directory, to the parent of that key, or to the child of that
key named by its last element. -/
theorem keyOf_beside_dir (path : String) :
    keyOf path = keyOf (dir path) ∨ keyOf path = parentKey (keyOf (dir path)) ∨
      (Plain (base path) ∧ keyOf path = childKey (keyOf (dir path)) (base path)) := by
  by_cases separated : '/' ∈ path.toList
  · obtain ⟨front, last, rfl, noSeparator⟩ := exists_last_separator separated
    have directoryKey : keyOf (dir (front ++ "/" ++ last)) = keyOf front := by
      rw [dir_append_name front noSeparator, keyOf_clean, show front ++ "/" = front ++ "/" ++ "" by simp,
        keyOf_append_separator, elements_empty]
      simp [reach]
    rw [directoryKey, keyOf_append_separator, elements_of_separator_not_mem noSeparator]
    rcases reach_single (keyOf front) noSeparator with here | up | ⟨plain, down⟩
    · exact .inl here
    · exact .inr (.inl up)
    · rw [base_of_reverse plain.1 noSeparator ('/' :: front.toList.reverse) (by simp) (.inr rfl)]
      exact .inr (.inr ⟨plain, down⟩)
  · rw [dir_of_separator_not_mem separated, keyOf_dot, keyOf, elements_of_separator_not_mem separated]
    rcases reach_single "" separated with here | up | ⟨plain, down⟩
    · exact .inl here
    · exact .inr (.inl up)
    · rw [base_of_reverse plain.1 separated [] (by simp) (.inl rfl)]
      exact .inr (.inr ⟨plain, down⟩)

end Alembic.Files
