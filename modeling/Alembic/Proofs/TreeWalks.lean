import Alembic.Files.Atomic
import Alembic.Proofs.CleanPaths
/-! # Walking the file tree -/

namespace Alembic.Files

/-- The key lies strictly below the other one: the other key and a separator start it. -/
def Below (key ancestor : String) : Prop := key.startsWith (ancestor ++ "/") = true

instance (key ancestor : String) : Decidable (Below key ancestor) :=
  inferInstanceAs (Decidable (_ = true))

theorem below_iff (key ancestor : String) : Below key ancestor ↔ (ancestor ++ "/").toList <+: key.toList := by
  simp [Below]

theorem parentKey_empty : parentKey "" = "" := rfl

theorem parentKey_childKey (parent : String) {name : String} (noSeparator : '/' ∉ name.toList) :
    parentKey (childKey parent name) = parent := by
  have allKept : ∀ c ∈ name.toList.reverse, decide (c ≠ '/') = true := by
    intro c member
    simp only [List.mem_reverse] at member
    simpa using fun same : c = '/' => noSeparator (same ▸ member)
  unfold childKey parentKey
  by_cases root : parent.isEmpty
  · simp only [root, if_true, List.dropWhile_eq_nil_iff.mpr allKept]
    simpa using root.symm
  · simp only [root, if_false, Bool.false_eq_true, String.toList_append, List.reverse_append,
      List.append_assoc, List.dropWhile_append_of_pos allKept]
    simp

/-- One step up from a key below another: the other key itself, or a shorter key still below it. -/
theorem parentKey_of_below {key ancestor : String} (below : Below key ancestor) :
    parentKey key = ancestor ∨
      (Below (parentKey key) ancestor ∧ (parentKey key).toList.length < key.toList.length) := by
  obtain ⟨rest, split⟩ := (below_iff _ _).mp below
  have reversed : key.toList.reverse = rest.reverse ++ '/' :: ancestor.toList.reverse := by
    rw [← split]
    simp
  unfold parentKey
  rw [reversed]
  by_cases plain : ∀ c ∈ rest.reverse, decide (c ≠ '/') = true
  · left
    rw [List.dropWhile_append_of_pos plain]
    simp
  · right
    have kept : rest.reverse.dropWhile (fun c => decide (c ≠ '/')) ≠ [] := by
      simpa [List.dropWhile_eq_nil_iff] using plain
    obtain ⟨first, mid, dropped⟩ := List.exists_cons_of_ne_nil kept
    have shorter : (first :: mid).length ≤ rest.reverse.length := by
      rw [← dropped]
      exact (List.dropWhile_suffix _).length_le
    rw [List.dropWhile_append, dropped]
    simp only [List.isEmpty_cons, Bool.false_eq_true, if_false, List.cons_append, String.toList_ofList,
      List.reverse_append, List.reverse_cons, List.reverse_reverse, List.length_reverse] at shorter ⊢
    refine ⟨(below_iff _ _).mpr ⟨mid.reverse, by simp⟩, ?_⟩
    rw [← split]
    simp only [List.length_append, List.length_reverse, List.length_cons, List.length_nil,
      String.toList_append] at shorter ⊢
    simp at shorter ⊢
    omega

namespace Tree

variable {tree : Tree}

@[simp] theorem find?_empty : tree.find? "" = some .directory := rfl

@[simp] theorem find?_temporaries (count : Nat) (key : String) :
    ({ tree with temporaries := count } : Tree).find? key = tree.find? key := rfl

@[simp] theorem find?_setMode (key : String) (mode : Option Nat) (other : String) :
    (tree.setMode key mode).find? other = tree.find? other := rfl

theorem modes_put (key : String) (node : Node) : (tree.put key node).modes = tree.modes := rfl

theorem modes_erase (key : String) : (tree.erase key).modes = tree.modes := rfl

theorem modeOf_eq (key : String) :
    tree.modeOf key = if (tree.find? key).isSome then (tree.modes.find? fun entry => entry.1 == key).map Prod.snd
      else none := rfl

theorem modes_setMode (key : String) (mode : Option Nat) :
    (tree.setMode key mode).modes = (tree.modes.filter fun entry => entry.1 != key) ++ (mode.map (key, ·)).toList :=
  rfl

/-- The mode an entry was last given, while the tree holds it. -/
theorem modeOf_setMode (key : String) (mode : Option Nat) (other : String) :
    (tree.setMode key mode).modeOf other =
      if other = key then (if (tree.find? key).isSome then mode else none) else tree.modeOf other := by
  rw [modeOf_eq, modeOf_eq, find?_setMode, modes_setMode, List.find?_append, List.find?_filter]
  by_cases same : other = key
  · subst same
    have none : tree.modes.find? (fun entry => decide ((entry.1 != other) = true ∧ (entry.1 == other) = true)) =
        none := List.find?_eq_none.mpr fun entry _ => by by_cases named : entry.1 = other <;> simp [named]
    rw [none]
    cases mode <;> simp
  · have kept : (fun entry : String × Nat => decide ((entry.1 != key) = true ∧ (entry.1 == other) = true)) =
        fun entry => entry.1 == other := by
      funext entry
      by_cases named : entry.1 = other
      · simp [named, same]
      · simp [named]
    rw [kept, if_neg same]
    split
    · cases tree.modes.find? (fun entry => entry.1 == other) <;> cases mode <;> simp [Ne.symm same]
    · rfl

theorem find?_of_ne_empty {key : String} (named : key ≠ "") :
    tree.find? key = (tree.entries.find? fun entry => entry.1 == key).map Prod.snd := by
  simp [find?, named]

theorem find?_put (key : String) (node : Node) (other : String) :
    (tree.put key node).find? other =
      if other = "" then some .directory else if other = key then some node else tree.find? other := by
  by_cases root : other = ""
  · subst root
    rfl
  · rw [if_neg root, find?_of_ne_empty root, find?_of_ne_empty root]
    simp only [put, List.find?_append, List.find?_filter]
    by_cases same : other = key
    · subst same
      have none : tree.entries.find? (fun entry => decide ((entry.1 != other) = true ∧ (entry.1 == other) = true)) =
          none := by
        refine List.find?_eq_none.mpr fun entry _ => ?_
        by_cases named : entry.1 = other <;> simp [named]
      rw [none]
      simp
    · have kept : (fun entry : String × Node => decide ((entry.1 != key) = true ∧ (entry.1 == other) = true)) =
          fun entry => entry.1 == other := by
        funext entry
        by_cases named : entry.1 = other
        · simp [named, same]
        · simp [named]
      rw [kept, if_neg same]
      cases tree.entries.find? (fun entry => entry.1 == other) <;> simp [Ne.symm same]

/-- Putting an entry at a key leaves the mode of every other key. -/
theorem modeOf_put_other {key other : String} (node : Node) (distinct : other ≠ key) :
    (tree.put key node).modeOf other = tree.modeOf other := by
  rw [modeOf_eq, modeOf_eq, modes_put, find?_put, if_neg distinct]
  split
  · next root => rw [root, find?_empty]
  · rfl

theorem find?_erase (key other : String) :
    (tree.erase key).find? other =
      if other = "" then some .directory else if other = key ∨ Below other key then none
      else tree.find? other := by
  by_cases root : other = ""
  · subst root
    rfl
  · rw [if_neg root, find?_of_ne_empty root, find?_of_ne_empty root]
    simp only [erase, List.find?_filter]
    have kept : (fun entry : String × Node =>
        decide ((!decide ((entry.1 == key) = true ∨ entry.1.startsWith (key ++ "/") = true)) = true ∧
          (entry.1 == other) = true)) =
        fun entry => (entry.1 == other) && !decide (other = key ∨ Below other key) := by
      funext entry
      by_cases named : entry.1 = other
      · simp [named, Below]
      · simp [named]
    rw [kept]
    by_cases gone : other = key ∨ Below other key
    · rw [if_pos gone, List.find?_eq_none.mpr (fun entry _ => by simp [gone])]
      rfl
    · rw [if_neg gone]
      simp [gone]

end Tree

theorem parentKey_shorter {key : String} (named : key ≠ "") :
    (parentKey key).toList.length < key.toList.length := by
  have nonempty : key.toList ≠ [] := by simpa using named
  unfold parentKey
  have suffix := (@List.dropWhile_suffix _ key.toList.reverse (fun c => decide (c ≠ '/'))).length_le
  split
  · simpa [List.length_pos_iff] using nonempty
  · next kept dropped =>
    rw [dropped] at suffix
    simp only [List.length_cons, List.length_reverse] at suffix
    simp
    omega

/-- A key with a parent other than the working directory lies below it. -/
theorem below_parentKey {key : String} (named : parentKey key ≠ "") : Below key (parentKey key) := by
  unfold parentKey at named ⊢
  split at named
  · exact absurd rfl named
  · next first kept dropped =>
    have slash : first = '/' := by
      have stops := List.head?_dropWhile_not (fun c => decide (c ≠ '/')) key.toList.reverse
      rw [dropped] at stops
      simpa using stops
    have whole := @List.takeWhile_append_dropWhile _ (fun c => decide (c ≠ '/')) key.toList.reverse
    rw [dropped, slash] at whole
    have restored := congrArg List.reverse whole
    simp only [List.reverse_append, List.reverse_cons, List.reverse_reverse] at restored
    rw [below_iff, ← restored]
    simp

theorem Below.trans {key middle ancestor : String} (lower : Below key middle) (upper : Below middle ancestor) :
    Below key ancestor := by
  rw [below_iff, String.toList_append] at lower upper ⊢
  exact upper.trans ((List.prefix_append _ _).trans lower)

namespace Tree

variable {tree : Tree}

/-- Every entry of the tree lies in one of its directories, as in a file system. -/
def Rooted (tree : Tree) : Prop :=
  ∀ key node, key ≠ "" → tree.find? key = some node → tree.find? (parentKey key) = some .directory

/-- In a rooted tree an entry below a key makes that key a directory. -/
theorem Rooted.directory_of_below (rooted : tree.Rooted) {key ancestor : String} {node : Node}
    (found : tree.find? key = some node) (below : Below key ancestor) : tree.find? ancestor = some .directory := by
  induction length : key.toList.length using Nat.strong_induction_on generalizing key node with
  | _ length ih =>
    have named : key ≠ "" := by
      rintro rfl
      simp [below_iff] at below
    have parent := rooted key node named found
    rcases parentKey_of_below below with same | ⟨stillBelow, shorter⟩
    · rwa [same] at parent
    · exact ih _ (length ▸ shorter) parent stillBelow rfl

theorem Rooted.put (rooted : tree.Rooted) {key : String} {node : Node} (named : key ≠ "")
    (parent : tree.find? (parentKey key) = some .directory)
    (keepsDirectory : tree.find? key = some .directory → node = .directory) : (tree.put key node).Rooted := by
  intro other otherNode otherNamed found
  rw [find?_put, if_neg otherNamed] at found
  rw [find?_put]
  by_cases same : other = key
  · subst same
    have notSelf : parentKey other ≠ other := fun loop => by
      have := parentKey_shorter named
      rw [loop] at this
      omega
    rw [if_neg notSelf]
    split <;> simp_all
  · rw [if_neg same] at found
    have above := rooted other otherNode otherNamed found
    split
    · rfl
    · next isKey =>
      split
      · next isParent => rw [keepsDirectory (isParent ▸ above)]
      · exact above

theorem Rooted.erase (rooted : tree.Rooted) (key : String) : (tree.erase key).Rooted := by
  intro other node named found
  rw [find?_erase, if_neg named] at found
  split at found
  · cases found
  · next kept =>
    rw [find?_erase]
    have above := rooted other node named found
    split
    · rfl
    · next parentNamed =>
      -- the parent of a kept entry is neither the erased key nor below it
      have parentKept : ¬(parentKey other = key ∨ Below (parentKey other) key) := by
        rintro (same | below)
        · exact kept (Or.inr (same ▸ below_parentKey parentNamed))
        · exact kept (Or.inr ((below_parentKey parentNamed).trans below))
      rw [if_neg parentKept]
      exact above

/-- Whether a tree is rooted depends only on what it holds at each key. -/
theorem Rooted.of_find?_eq {other : Tree} (rooted : tree.Rooted) (same : ∀ key, other.find? key = tree.find? key) :
    other.Rooted := fun key node named found => by
  rw [same] at found ⊢
  exact rooted key node named found

theorem Rooted.temporaries (rooted : tree.Rooted) (count : Nat) :
    ({ tree with temporaries := count } : Tree).Rooted :=
  rooted.of_find?_eq fun _ => rfl

theorem Rooted.setMode (rooted : tree.Rooted) (key : String) (mode : Option Nat) : (tree.setMode key mode).Rooted :=
  rooted.of_find?_eq fun _ => rfl

end Tree

/-- Where a walk along elements from a key ends, read off the elements alone: an empty element
or `.` stays, `..` goes to the parent and a name into the child. -/
def reach : String → List String → String
  | current, [] => current
  | current, element :: rest =>
    if element.isEmpty ∨ element = "." then reach current rest
    else if element = ".." then reach (parentKey current) rest
    else reach (childKey current element) rest

theorem reach_of_all_empty (current : String) {rest : List String} (empty : rest.all (·.isEmpty) = true) :
    reach current rest = current := by
  induction rest with
  | nil => rfl
  | cons element rest ih =>
    simp only [List.all_cons, Bool.and_eq_true] at empty
    simp [reach, empty.1, ih empty.2]

/-- The key of the place a walk ends at: of the entry found, or of the name that is missing. -/
def Place.key : Place → String
  | .found key _ => key
  | .missing parent name => childKey parent name

namespace Tree

variable {tree : Tree}

theorem walk_directory_of_all_empty (current : String) {rest : List String}
    (empty : rest.all (·.isEmpty) = true) : tree.walk current .directory rest = .ok (.found current .directory) := by
  induction rest with
  | nil => rfl
  | cons element rest ih =>
    simp only [List.all_cons, Bool.and_eq_true] at empty
    simp [walk, empty.1, ih empty.2]

/-- A walk ends where its elements lead, whatever the tree holds. -/
theorem walk_key {current : String} {node : Node} {elements : List String} {place : Place}
    (walked : tree.walk current node elements = .ok place) : place.key = reach current elements := by
  induction elements generalizing current node with
  | nil =>
    simp only [walk, Except.ok.injEq] at walked
    subst walked
    rfl
  | cons element rest ih =>
    cases node with
    | file content => simp [walk] at walked
    | directory =>
      by_cases skipped : element.isEmpty = true ∨ element = "."
      · simp only [walk, reach, if_pos skipped] at walked ⊢
        exact ih walked
      by_cases up : element = ".."
      · simp only [walk, reach, if_neg skipped, if_pos up] at walked ⊢
        exact ih walked
      by_cases long : element.utf8ByteSize > nameLimit
      · simp only [walk, if_neg skipped, if_neg up, if_pos long] at walked
        cases walked
      simp only [walk, reach, if_neg skipped, if_neg up, if_neg long] at walked ⊢
      cases found : tree.find? (childKey current element) with
      | some child =>
        rw [found] at walked
        exact ih walked
      | none =>
        rw [found] at walked
        by_cases empty : rest.all (·.isEmpty) = true
        · simp only [empty, if_true, Except.ok.injEq] at walked
          subst walked
          exact (reach_of_all_empty _ empty).symm
        · simp [empty] at walked

/-- Trees that hold the same at every key a walk may look at walk alike. -/
theorem walk_congr {other : Tree} (current : String) (node : Node) (elements : List String)
    (agree : ∀ count, tree.find? (reach current (elements.take count)) =
      other.find? (reach current (elements.take count))) :
    tree.walk current node elements = other.walk current node elements := by
  induction elements generalizing current node with
  | nil => rfl
  | cons element rest ih =>
    cases node with
    | file content => rfl
    | directory =>
      by_cases skipped : element.isEmpty = true ∨ element = "."
      · simp only [walk, if_pos skipped]
        exact ih current .directory fun count => by
          simpa only [List.take_succ_cons, reach, if_pos skipped] using agree (count + 1)
      by_cases up : element = ".."
      · simp only [walk, if_neg skipped, if_pos up]
        exact ih _ .directory fun count => by
          simpa only [List.take_succ_cons, reach, if_neg skipped, if_pos up] using agree (count + 1)
      have looked : tree.find? (childKey current element) = other.find? (childKey current element) := by
        simpa only [List.take_succ_cons, List.take_zero, reach, if_neg skipped, if_neg up] using agree 1
      simp only [walk, if_neg skipped, if_neg up]
      rw [looked]
      split
      · rfl
      · split
        · exact ih _ _ fun count => by
            simpa only [List.take_succ_cons, reach, if_neg skipped, if_neg up] using agree (count + 1)
        · rfl

end Tree

theorem childKey_ne_empty (parent : String) {name : String} (named : name ≠ "") : childKey parent name ≠ "" := by
  unfold childKey
  split
  · exact named
  · intro empty
    have := congrArg String.length empty
    simp at this

/-- What a tree holds at a place a walk reached: the entry found there, or nothing under a
directory for a missing name. -/
def Tree.Holds (tree : Tree) : Place → Prop
  | .found key node => tree.find? key = some node
  | .missing parent name =>
    tree.find? parent = some .directory ∧ tree.find? (childKey parent name) = none ∧ name ≠ "" ∧
      '/' ∉ name.toList

namespace Tree

variable {tree : Tree}

/-- A walk through a rooted tree from an entry ends at what the tree holds. -/
theorem walk_holds (rooted : tree.Rooted) {current : String} {node : Node} {elements : List String} {place : Place}
    (start : tree.find? current = some node) (noSeparator : ∀ element ∈ elements, '/' ∉ element.toList)
    (walked : tree.walk current node elements = .ok place) : tree.Holds place := by
  induction elements generalizing current node with
  | nil =>
    simp only [walk, Except.ok.injEq] at walked
    subst walked
    exact start
  | cons element rest ih =>
    have restPlain : ∀ element ∈ rest, '/' ∉ element.toList := fun e member =>
      noSeparator e (List.mem_cons_of_mem _ member)
    cases node with
    | file content => simp [walk] at walked
    | directory =>
      by_cases skipped : element.isEmpty = true ∨ element = "."
      · simp only [walk, if_pos skipped] at walked
        exact ih start restPlain walked
      by_cases up : element = ".."
      · simp only [walk, if_neg skipped, if_pos up] at walked
        refine ih ?_ restPlain walked
        by_cases top : current = ""
        · rw [top, parentKey_empty]
          rfl
        · exact rooted current _ top start
      by_cases long : element.utf8ByteSize > nameLimit
      · simp only [walk, if_neg skipped, if_neg up, if_pos long] at walked
        cases walked
      simp only [walk, if_neg skipped, if_neg up, if_neg long] at walked
      cases found : tree.find? (childKey current element) with
      | some child =>
        rw [found] at walked
        exact ih found restPlain walked
      | none =>
        rw [found] at walked
        by_cases empty : rest.all (·.isEmpty) = true
        · simp only [empty, if_true, Except.ok.injEq] at walked
          subst walked
          refine ⟨start, found, fun named => skipped (Or.inl (by simp [named])), noSeparator element
            List.mem_cons_self⟩
        · simp [empty] at walked

/-- A walk that misses a name misses it because nothing is there. -/
theorem walk_missing_absent {current : String} {node : Node} {elements : List String} {parent name : String}
    (walked : tree.walk current node elements = .ok (.missing parent name)) :
    tree.find? (childKey parent name) = none := by
  induction elements generalizing current node with
  | nil => simp [walk] at walked
  | cons element rest ih =>
    cases node with
    | file content => simp [walk] at walked
    | directory =>
      by_cases skipped : element.isEmpty = true ∨ element = "."
      · simp only [walk, if_pos skipped] at walked
        exact ih walked
      by_cases up : element = ".."
      · simp only [walk, if_neg skipped, if_pos up] at walked
        exact ih walked
      by_cases long : element.utf8ByteSize > nameLimit
      · simp only [walk, if_neg skipped, if_neg up, if_pos long] at walked
        cases walked
      simp only [walk, if_neg skipped, if_neg up, if_neg long] at walked
      cases found : tree.find? (childKey current element) with
      | some child =>
        rw [found] at walked
        exact ih walked
      | none =>
        rw [found] at walked
        by_cases empty : rest.all (·.isEmpty) = true
        · simp only [empty, if_true, Except.ok.injEq, Place.missing.injEq] at walked
          rw [← walked.1, ← walked.2]
          exact found
        · simp [empty] at walked

theorem getLast?_ne_of_cons {element other : String} {rest : List String}
    (ends : (element :: rest).getLast? ≠ some other) : rest.getLast? ≠ some other := by
  cases rest with
  | nil => simp
  | cons next later => simpa [List.getLast?_cons_cons] using ends

/-- An entry put at the name a walk missed is where the walk now ends, when it is a directory or
nothing follows the name. -/
theorem walk_put_missing {current : String} {node : Node} {elements : List String} {parent name : String}
    (entry : Node) (walked : tree.walk current node elements = .ok (.missing parent name))
    (ends : entry = .directory ∨ elements.getLast? ≠ some "") :
    (tree.put (childKey parent name) entry).walk current node elements =
      .ok (.found (childKey parent name) entry) := by
  have absent := walk_missing_absent walked
  induction elements generalizing current node with
  | nil => simp [walk] at walked
  | cons element rest ih =>
    have restEnds : entry = .directory ∨ rest.getLast? ≠ some "" := ends.imp_right getLast?_ne_of_cons
    cases node with
    | file content => simp [walk] at walked
    | directory =>
      by_cases skipped : element.isEmpty = true ∨ element = "."
      · simp only [walk, if_pos skipped] at walked ⊢
        exact ih walked restEnds
      by_cases up : element = ".."
      · simp only [walk, if_neg skipped, if_pos up] at walked ⊢
        exact ih walked restEnds
      by_cases long : element.utf8ByteSize > nameLimit
      · simp only [walk, if_neg skipped, if_neg up, if_pos long] at walked
        cases walked
      simp only [walk, if_neg skipped, if_neg up, if_neg long] at walked ⊢
      have named : childKey current element ≠ "" :=
        childKey_ne_empty current fun empty => skipped (Or.inl (by simp [empty]))
      cases found : tree.find? (childKey current element) with
      | some child =>
        rw [found] at walked
        have other : childKey current element ≠ childKey parent name := fun same => by
          rw [same, absent] at found
          cases found
        rw [find?_put, if_neg named, if_neg other, found]
        exact ih walked restEnds
      | none =>
        rw [found] at walked
        by_cases empty : rest.all (·.isEmpty) = true
        · simp only [empty, if_true, Except.ok.injEq, Place.missing.injEq] at walked
          obtain ⟨rfl, rfl⟩ := walked
          rw [find?_put, if_neg named, if_pos rfl]
          -- only empty elements follow the name: a directory stays there, and a file has none
          rcases ends with rfl | lastNamed
          · exact walk_directory_of_all_empty _ empty
          · cases rest with
            | nil => rfl
            | cons next later =>
              have lastEmpty : (element :: next :: later).getLast? = some "" := by
                rw [List.getLast?_cons_cons, List.getLast?_eq_some_getLast (List.cons_ne_nil next later)]
                have := List.all_eq_true.mp empty _ (List.getLast_mem (List.cons_ne_nil next later))
                simpa using this
              exact absurd lastEmpty lastNamed
        · simp [empty] at walked

end Tree

/-- The key of the entry a path names, read off the path alone. -/
def keyOf (path : String) : String := reach "" (Path.elements path)

namespace Tree

variable {tree : Tree}

theorem locate_key {path : String} {place : Place} (located : tree.locate path = .ok place) :
    place.key = keyOf path := by
  unfold locate at located
  split at located
  · cases located
  · split at located
    · cases located
    · exact walk_key located

theorem locate_holds (rooted : tree.Rooted) {path : String} {place : Place} (located : tree.locate path = .ok place) :
    tree.Holds place := by
  unfold locate at located
  split at located
  · cases located
  · split at located
    · cases located
    · exact walk_holds rooted find?_empty (fun _ member => Path.separator_not_mem_of_elements member) located

theorem locate_missing_absent {path parent name : String}
    (located : tree.locate path = .ok (.missing parent name)) : tree.find? (childKey parent name) = none := by
  unfold locate at located
  split at located
  · cases located
  · split at located
    · cases located
    · exact walk_missing_absent located

theorem locate_put_missing {path parent name : String} (entry : Node)
    (located : tree.locate path = .ok (.missing parent name))
    (ends : entry = .directory ∨ (Path.elements path).getLast? ≠ some "") :
    (tree.put (childKey parent name) entry).locate path = .ok (.found (childKey parent name) entry) := by
  unfold locate at located ⊢
  split at located
  · cases located
  · split at located
    · cases located
    · rw [if_neg ‹_›, if_neg ‹_›]
      exact walk_put_missing entry located ends

/-- Trees that hold the same at every key locate every path alike. -/
theorem locate_of_find?_eq {other : Tree} (same : ∀ key, other.find? key = tree.find? key) (path : String) :
    other.locate path = tree.locate path := by
  unfold locate
  rw [walk_congr "" .directory (Path.elements path) fun _ => same _]

@[simp] theorem locate_setMode (key : String) (mode : Option Nat) (path : String) :
    (tree.setMode key mode).locate path = tree.locate path :=
  locate_of_find?_eq (find?_setMode key mode) path

@[simp] theorem locate_temporaries (count : Nat) (path : String) :
    ({ tree with temporaries := count } : Tree).locate path = tree.locate path :=
  locate_of_find?_eq (find?_temporaries count) path

@[simp] theorem stat_setMode (key : String) (mode : Option Nat) (path : String) :
    (tree.setMode key mode).stat path = tree.stat path := by
  simp [stat]

/-- An entry added at a name missing from a directory keeps a rooted tree rooted. -/
theorem Rooted.put_missing (rooted : tree.Rooted) {parent name : String} (node : Node)
    (holds : tree.Holds (.missing parent name)) : (tree.put (childKey parent name) node).Rooted := by
  obtain ⟨directory, absent, named, noSeparator⟩ := holds
  refine rooted.put (childKey_ne_empty parent named) ?_ fun found => ?_
  · rwa [parentKey_childKey parent noSeparator]
  · rw [absent] at found
    cases found

/-- Making one directory adds it, with its mode, where nothing was. -/
theorem mkdir_eq {path : String} {after : Tree} (made : tree.mkdir path = .ok after) :
    ∃ parent name, tree.locate path = .ok (.missing parent name) ∧
      after = (tree.put (childKey parent name) .directory).setMode (childKey parent name) (some directoryMode) := by
  unfold mkdir at made
  split at made
  · cases made
  · next parent name located =>
    simp only [Except.ok.injEq] at made
    exact ⟨parent, name, located, made.symm⟩
  · cases made

/-- Creating a file adds it empty, with its mode, where nothing was, and opens it there. -/
theorem createFile_eq {path : String} {mode : Nat} {file : OpenFile} {after : Tree}
    (created : tree.createFile path mode = .ok (file, after)) :
    ∃ parent name, tree.locate path = .ok (.missing parent name) ∧ file = ⟨path, childKey parent name⟩ ∧
      after = (tree.put (childKey parent name) (.file ByteArray.empty)).setMode (childKey parent name) (some mode) := by
  unfold createFile at created
  split at created
  · cases created
  · next parent name located =>
    simp only [Except.ok.injEq, Prod.mk.injEq] at created
    exact ⟨parent, name, located, created.1.symm, created.2.symm⟩
  · cases created

end Tree

end Alembic.Files
