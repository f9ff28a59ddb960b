import Mathlib.Data.List.TakeWhile
import Alembic.Files.Path
/-! # Cleaned paths and their children -/

namespace Alembic.Path

/-- An element that names an entry of a directory. -/
def Plain (name : String) : Prop := name ≠ "" ∧ '/' ∉ name.toList ∧ name ≠ "." ∧ name ≠ ".."

/-- A stack of kept elements, top first: plain names over `..` that had nothing to cancel, and
no `..` at all on a rooted path. -/
def Settled (rooted : Bool) (stack : List String) : Prop :=
  ∃ names climbs, stack = names ++ List.replicate climbs ".." ∧ (∀ name ∈ names, Plain name) ∧
    (rooted = true → climbs = 0)

/-- The elements `clean` keeps of a path, in order. -/
def kept (path : String) : List String := cleanElements (isAbs path) (elements path) []

/-- Elements joined by separators. -/
def joined (elements : List String) : String := "/".intercalate elements

theorem kept_eq (path : String) : kept path = cleanElements (isAbs path) (elements path) [] := rfl

theorem clean_eq_kept (path : String) :
    clean path =
      if isAbs path then "/" ++ joined (kept path)
      else if (joined (kept path)).isEmpty then "." else joined (kept path) := rfl

theorem endsWith_iff_suffix (text ending : String) :
    text.endsWith ending = true ↔ ending.toList <:+ text.toList := by
  rw [← String.endsWith_toSlice, String.Slice.endsWith_string_iff, String.copy_toSlice]

theorem isAbs_iff (path : String) : isAbs path = true ↔ path.toList.head? = some '/' := by
  unfold isAbs
  rw [String.startsWith_string_iff]
  cases path.toList with
  | nil => simp
  | cons first rest => simp [eq_comm]

theorem isAbs_append {front : String} (nonempty : front ≠ "") (rest : String) :
    isAbs (front ++ rest) = isAbs front := by
  obtain ⟨first, others, split⟩ := List.exists_cons_of_ne_nil (show front.toList ≠ [] by simpa using nonempty)
  rw [Bool.eq_iff_iff, isAbs_iff, isAbs_iff, String.toList_append, split]
  rfl

/-! ## Elements -/

/-- A piece split off at a separator holds no separator. -/
theorem not_mem_of_mem_splitOn {separator : Char} :
    ∀ {path piece : List Char}, piece ∈ path.splitOn separator → separator ∉ piece
  | [], piece, member => by
    simp only [List.splitOn_nil, List.mem_singleton] at member
    simp [member]
  | first :: rest, piece, member => by
    rw [List.splitOn_cons_eq_if_modifyHead] at member
    obtain ⟨head, tail, pieces⟩ := List.exists_cons_of_ne_nil (List.splitOn_ne_nil separator rest)
    split at member
    · rcases List.mem_cons.mp member with rfl | later
      · simp
      · exact not_mem_of_mem_splitOn later
    · next other =>
      rw [pieces, List.modifyHead_cons] at member
      have headFree : separator ∉ head := not_mem_of_mem_splitOn (pieces ▸ List.mem_cons_self)
      rcases List.mem_cons.mp member with rfl | later
      · simp only [beq_iff_eq] at other
        simp [headFree, Ne.symm other]
      · exact not_mem_of_mem_splitOn (pieces ▸ List.mem_cons_of_mem _ later)

theorem separator_not_mem_of_elements {path element : String} (member : element ∈ elements path) :
    '/' ∉ element.toList := by
  simp only [elements, List.mem_map] at member
  obtain ⟨piece, pieceMember, rfl⟩ := member
  rw [String.toList_ofList]
  exact not_mem_of_mem_splitOn pieceMember

theorem elements_append_separator (first second : String) :
    elements (first ++ "/" ++ second) = elements first ++ elements second := by
  simp only [elements, String.toList_append, List.append_assoc]
  rw [show "/".toList ++ second.toList = '/' :: second.toList from rfl, List.splitOn_append_cons_self,
    List.map_append]

theorem elements_of_separator_not_mem {name : String} (noSeparator : '/' ∉ name.toList) :
    elements name = [name] := by
  simp [elements, List.splitOn_eq_singleton noSeparator]

theorem elements_joined {elements' : List String} (nonempty : elements' ≠ [])
    (noSeparator : ∀ element ∈ elements', '/' ∉ element.toList) : elements (joined elements') = elements' := by
  unfold elements joined
  rw [String.toList_intercalate, show "/".toList = ['/'] from rfl,
    List.splitOn_intercalate _ (by simpa using noSeparator) (by simpa using nonempty)]
  simp [Function.comp_def]

/-! ## The stack `clean` keeps -/

/-- Cleaning more elements goes on from the stack the first ones left. -/
theorem cleanElements_append (rooted : Bool) (first second stack : List String) :
    cleanElements rooted (first ++ second) stack =
      cleanElements rooted second (cleanElements rooted first stack).reverse := by
  fun_induction cleanElements rooted first stack with
  | case1 stack => rw [List.nil_append, List.reverse_reverse]
  | case2 element rest stack skipped ih =>
    simp only [List.cons_append, cleanElements, if_pos skipped]
    exact ih
  | case3 rest below kept ih =>
    simp only [List.cons_append, cleanElements, if_neg kept, if_true]
    exact ih
  | case4 rest top below other kept ih =>
    simp only [List.cons_append, cleanElements, if_neg kept, if_true, if_neg other]
    exact ih
  | case5 rest isRooted kept ih =>
    simp only [List.cons_append, cleanElements, if_neg kept, if_true, if_pos isRooted]
    exact ih
  | case6 rest notRooted kept ih =>
    simp only [List.cons_append, cleanElements, if_neg kept, if_true, if_neg notRooted]
    exact ih
  | case7 element rest stack kept climb ih =>
    simp only [List.cons_append, cleanElements, if_neg kept, if_neg climb]
    exact ih

theorem Settled.push {rooted : Bool} {stack : List String} {name : String} (plain : Plain name)
    (settled : Settled rooted stack) : Settled rooted (name :: stack) := by
  obtain ⟨names, climbs, rfl, plainNames, noClimbs⟩ := settled
  refine ⟨name :: names, climbs, rfl, ?_, noClimbs⟩
  simpa [plain] using plainNames

/-- A `..` on top of a settled stack has only `..` below it. -/
theorem Settled.climb {rooted : Bool} {below : List String} (settled : Settled rooted (".." :: below)) :
    Settled rooted (".." :: ".." :: below) := by
  obtain ⟨names, climbs, stack, plainNames, noClimbs⟩ := settled
  cases names with
  | cons name rest =>
    simp only [List.cons_append, List.cons.injEq] at stack
    exact absurd stack.1.symm (plainNames name List.mem_cons_self).2.2.2
  | nil =>
    cases climbs with
    | zero => simp at stack
    | succ climbs =>
      simp only [List.nil_append, List.replicate_succ, List.cons.injEq, true_and] at stack
      refine ⟨[], climbs + 2, by simp [stack, List.replicate_succ], by simp, fun rooted => ?_⟩
      simpa using noClimbs rooted

theorem Settled.pop {rooted : Bool} {top : String} {below : List String} (other : top ≠ "..")
    (settled : Settled rooted (top :: below)) : Settled rooted below := by
  obtain ⟨names, climbs, stack, plainNames, noClimbs⟩ := settled
  cases names with
  | nil =>
    cases climbs with
    | zero => simp at stack
    | succ climbs => simp [List.replicate_succ] at stack; exact absurd stack.1 other
  | cons name rest =>
    simp only [List.cons_append, List.cons.injEq] at stack
    exact ⟨rest, climbs, stack.2, fun name member => plainNames name (List.mem_cons_of_mem _ member),
      noClimbs⟩

/-- What stands on top of a settled stack, when it is not `..`, is a plain name. -/
theorem Settled.plain_top {rooted : Bool} {top : String} {below : List String} (other : top ≠ "..")
    (settled : Settled rooted (top :: below)) : Plain top := by
  obtain ⟨names, climbs, stack, plainNames, -⟩ := settled
  cases names with
  | nil =>
    cases climbs with
    | zero => simp at stack
    | succ climbs => simp [List.replicate_succ] at stack; exact absurd stack.1 other
  | cons name rest =>
    simp only [List.cons_append, List.cons.injEq] at stack
    exact stack.1 ▸ plainNames name List.mem_cons_self

/-- Whatever `clean` keeps is settled. -/
theorem settled_cleanElements (rooted : Bool) (elements' stack : List String)
    (noSeparator : ∀ element ∈ elements', '/' ∉ element.toList) (settled : Settled rooted stack) :
    Settled rooted (cleanElements rooted elements' stack).reverse := by
  fun_induction cleanElements rooted elements' stack with
  | case1 stack => simpa using settled
  | case2 element rest stack skipped ih => exact ih (by simp_all) settled
  | case3 rest below kept ih => exact ih (by simp_all) settled.climb
  | case4 rest top below other kept ih => exact ih (by simp_all) (settled.pop other)
  | case5 rest isRooted kept ih => exact ih (by simp_all) settled
  | case6 rest notRooted kept ih =>
    exact ih (by simp_all) ⟨[], 1, rfl, by simp, by simpa using notRooted⟩
  | case7 element rest stack kept climb ih =>
    have plain : Plain element := by
      simp only [not_or, String.isEmpty_iff] at kept
      exact ⟨kept.1, noSeparator element List.mem_cons_self, kept.2, climb⟩
    exact ih (by simp_all) (settled.push plain)

theorem cleanElements_names (rooted : Bool) {names : List String} (plainNames : ∀ name ∈ names, Plain name)
    (stack : List String) : cleanElements rooted names stack = stack.reverse ++ names := by
  induction names generalizing stack with
  | nil => simp [cleanElements]
  | cons name rest ih =>
    obtain ⟨nonempty, -, notHere, notClimb⟩ := plainNames name List.mem_cons_self
    have restPlain : ∀ other ∈ rest, Plain other := fun other member => plainNames other (List.mem_cons_of_mem _ member)
    simp [cleanElements, nonempty, notHere, notClimb, ih restPlain]

theorem cleanElements_climbs (rooted : Bool) (rest : List String) :
    ∀ climbs below, (rooted = true → climbs = 0) →
      cleanElements rooted (List.replicate climbs ".." ++ rest) (List.replicate below "..") =
        cleanElements rooted rest (List.replicate (climbs + below) "..")
  | 0, below, _ => by simp
  | climbs + 1, below, notRooted => by
    have unrooted : rooted = false := by simpa using mt notRooted (by simp)
    have step : cleanElements rooted (List.replicate (climbs + 1) ".." ++ rest) (List.replicate below "..") =
        cleanElements rooted (List.replicate climbs ".." ++ rest) (List.replicate (below + 1) "..") := by
      cases below with
      | zero => simp [List.replicate_succ, cleanElements, unrooted]
      | succ below => simp [List.replicate_succ, cleanElements]
    rw [step, cleanElements_climbs rooted rest climbs (below + 1) (fun _ => by simp_all)]
    congr 2
    omega

/-- Cleaning settled elements again keeps them. -/
theorem cleanElements_settled {rooted : Bool} {stack : List String} (settled : Settled rooted stack) :
    cleanElements rooted stack.reverse [] = stack.reverse := by
  obtain ⟨names, climbs, rfl, plainNames, noClimbs⟩ := settled
  have plainReversed : ∀ name ∈ names.reverse, Plain name := by simpa using plainNames
  simp only [List.reverse_append, List.reverse_replicate]
  rw [show ([] : List String) = List.replicate 0 ".." from rfl, cleanElements_climbs rooted _ climbs 0 noClimbs,
    cleanElements_names rooted plainReversed]
  simp

theorem settled_kept (path : String) : Settled (isAbs path) (kept path).reverse :=
  settled_cleanElements _ _ _ (fun _ member => separator_not_mem_of_elements member) ⟨[], 0, rfl, by simp, fun _ => rfl⟩

theorem Settled.mem {rooted : Bool} {stack : List String} (settled : Settled rooted stack) {element : String}
    (member : element ∈ stack) : element ≠ "" ∧ '/' ∉ element.toList := by
  obtain ⟨names, climbs, rfl, plainNames, -⟩ := settled
  rcases List.mem_append.mp member with named | climb
  · exact ⟨(plainNames element named).1, (plainNames element named).2.1⟩
  · rw [List.eq_of_mem_replicate climb]
    decide

/-! ## Cleaning twice -/

theorem toList_joined_cons (first : String) (rest : List String) :
    ∃ after, (joined (first :: rest)).toList = first.toList ++ after := by
  cases rest with
  | nil => exact ⟨[], by simp [joined]⟩
  | cons second others => exact ⟨_, by rw [joined, String.intercalate_cons_of_ne_nil (by simp),
      String.append_assoc, String.toList_append]⟩

/-- Settled elements, joined, neither vanish nor start with a separator. -/
theorem head?_joined {rooted : Bool} {kept' : List String} (settled : Settled rooted kept'.reverse)
    (nonempty : kept' ≠ []) : ∃ first, (joined kept').toList.head? = some first ∧ first ≠ '/' := by
  obtain ⟨element, rest, rfl⟩ := List.exists_cons_of_ne_nil nonempty
  obtain ⟨named, noSeparator⟩ := settled.mem (List.mem_reverse.mpr List.mem_cons_self)
  obtain ⟨first, others, split⟩ := List.exists_cons_of_ne_nil (show element.toList ≠ [] by simpa using named)
  obtain ⟨after, joinedList⟩ := toList_joined_cons element rest
  refine ⟨first, by simp [joinedList, split], fun separator => noSeparator ?_⟩
  simp [split, separator]

theorem joined_ne_empty {rooted : Bool} {kept' : List String} (settled : Settled rooted kept'.reverse)
    (nonempty : kept' ≠ []) : joined kept' ≠ "" := by
  obtain ⟨first, head, -⟩ := head?_joined settled nonempty
  intro empty
  simp [empty] at head

/-- Settled elements, joined, make a relative path. -/
theorem isAbs_joined {rooted : Bool} {kept' : List String} (settled : Settled rooted kept'.reverse)
    (nonempty : kept' ≠ []) : isAbs (joined kept') = false := by
  obtain ⟨first, head, notSeparator⟩ := head?_joined settled nonempty
  rw [Bool.eq_false_iff, ne_eq, isAbs_iff, head]
  simpa using notSeparator

theorem kept_of_kept {path : String} {rooted : Bool} (same : isAbs path = rooted) (nonempty : kept path ≠ []) :
    cleanElements rooted (elements (joined (kept path))) [] = kept path := by
  have settled := settled_kept path
  rw [same] at settled
  rw [elements_joined nonempty fun element member => (settled.mem (List.mem_reverse.mpr member)).2]
  simpa using cleanElements_settled settled

theorem clean_dot : clean "." = "." := by
  have unrooted : isAbs "." = false := by
    rw [Bool.eq_false_iff, ne_eq, isAbs_iff]
    decide
  rw [clean_eq_kept, kept_eq, unrooted, elements_of_separator_not_mem (by decide)]
  simp [cleanElements, joined]

theorem clean_root : clean "/" = "/" := by
  have rooted : isAbs "/" = true := by
    rw [isAbs_iff]
    decide
  rw [clean_eq_kept, kept_eq, rooted, show "/" = "" ++ "/" ++ "" from rfl, elements_append_separator]
  simp [cleanElements, joined, show elements "" = [""] from rfl]

/-- Cleaning keeps what it kept. -/
theorem kept_clean (path : String) : kept (clean path) = kept path := by
  have settled := settled_kept path
  by_cases rooted : isAbs path = true
  · have rootedAgain : isAbs ("/" ++ joined (kept path)) = true := by simp [isAbs_iff]
    rw [clean_eq_kept path, if_pos rooted, kept_eq ("/" ++ joined (kept path)), rootedAgain,
      show "/" ++ joined (kept path) = "" ++ "/" ++ joined (kept path) by simp, elements_append_separator,
      show elements "" = [""] from rfl]
    by_cases nothingKept : kept path = []
    · rw [nothingKept]
      rfl
    · simp only [List.singleton_append, cleanElements, String.isEmpty_iff, true_or, if_true]
      exact kept_of_kept rooted nothingKept
  · by_cases nothingKept : kept path = []
    · have unrooted : isAbs "." = false := by simp [isAbs]
      rw [clean_eq_kept path, if_neg rooted, nothingKept, kept_eq, if_pos (by simp [joined]), unrooted,
        elements_of_separator_not_mem (by decide)]
      simp [cleanElements]
    · rw [clean_eq_kept path, if_neg rooted, if_neg (by simpa using joined_ne_empty settled nothingKept),
        kept_eq (joined (kept path)), isAbs_joined settled nothingKept]
      exact kept_of_kept (by simpa using rooted) nothingKept

theorem isAbs_clean (path : String) : isAbs (clean path) = isAbs path := by
  by_cases rooted : isAbs path = true
  · rw [clean_eq_kept, if_pos rooted, rooted, isAbs_iff]
    simp
  · rw [clean_eq_kept, if_neg rooted]
    by_cases nothingKept : kept path = []
    · rw [nothingKept, Bool.eq_false_iff.mpr rooted]
      simp [joined, isAbs]
    · rw [if_neg (by simpa using joined_ne_empty (settled_kept path) nothingKept),
        isAbs_joined (settled_kept path) nothingKept, Bool.eq_false_iff.mpr rooted]

/-- Cleaning a cleaned path changes nothing. -/
theorem clean_clean (path : String) : clean (clean path) = clean path := by
  rw [clean_eq_kept (clean path), kept_clean, isAbs_clean, ← clean_eq_kept]

/-- A separator at the end changes nothing once cleaned. -/
theorem clean_append_separator {front : String} (nonempty : front ≠ "") : clean (front ++ "/") = clean front := by
  have again : kept (front ++ "/") = kept front := by
    rw [kept_eq (front ++ "/"), kept_eq front, isAbs_append nonempty, show front ++ "/" = front ++ "/" ++ "" by simp, elements_append_separator,
      show elements "" = [""] from rfl, cleanElements_append]
    simp [cleanElements]
  rw [clean_eq_kept, clean_eq_kept front, again, isAbs_append nonempty]

/-! ## A plain name under a directory -/

theorem clean_plain {name : String} (plain : Plain name) : clean name = name := by
  obtain ⟨named, noSeparator, -, -⟩ := id plain
  obtain ⟨first, others, split⟩ := List.exists_cons_of_ne_nil (show name.toList ≠ [] by simpa using named)
  have unrooted : isAbs name = false := by
    rw [Bool.eq_false_iff, ne_eq, isAbs_iff, split]
    simp only [List.head?_cons, Option.some.injEq]
    rintro rfl
    exact noSeparator (by simp [split])
  have keptName : kept name = [name] := by
    rw [kept_eq, elements_of_separator_not_mem noSeparator,
      cleanElements_names _ (by simpa using plain)]
    rfl
  rw [clean_eq_kept, unrooted, keptName]
  simp [joined, named]

/-- A plain name joined to a directory: the name alone under `.`, after the separator under the
root, and after a separator under every other cleaned directory. -/
theorem join_plain (directory : String) {name : String} (plain : Plain name) :
    (clean directory = "." ∧ join [directory, name] = name) ∨
      (clean directory = "/" ∧ join [directory, name] = "/" ++ name) ∨
      (clean directory ≠ "" ∧ join [directory, name] = clean directory ++ "/" ++ name) := by
  obtain ⟨named, noSeparator, -, -⟩ := id plain
  by_cases nothing : directory = ""
  · subst nothing
    left
    refine ⟨by decide, ?_⟩
    have kept : name.isEmpty = false := by simpa using named
    rw [show join ["", name] = clean name by simp [join, kept], clean_plain plain]
  · have settled := settled_kept directory
    have joinEq : join [directory, name] = clean (directory ++ "/" ++ name) := by
      simp [join, nothing, named]
    have rootedSame : isAbs (directory ++ "/" ++ name) = isAbs directory := by
      rw [String.append_assoc, isAbs_append nothing]
    have keptEq : kept (directory ++ "/" ++ name) = kept directory ++ [name] := by
      rw [kept_eq (directory ++ "/" ++ name), rootedSame, elements_append_separator, elements_of_separator_not_mem noSeparator, cleanElements_append,
        ← kept_eq, cleanElements_names _ (by simpa using plain) (kept directory).reverse, List.reverse_reverse]
    rw [joinEq, clean_eq_kept (directory ++ "/" ++ name), rootedSame, keptEq]
    by_cases nothingKept : kept directory = []
    · rw [nothingKept]
      by_cases rooted : isAbs directory = true
      · right; left
        simp [clean_eq_kept directory, rooted, nothingKept, joined]
      · left
        simp [clean_eq_kept directory, rooted, nothingKept, joined, named]
    · right; right
      have notEmpty := joined_ne_empty settled nothingKept
      have appended : joined (kept directory ++ [name]) = joined (kept directory) ++ "/" ++ name := by
        simp [joined, String.intercalate_append_of_ne_nil nothingKept]
      by_cases rooted : isAbs directory = true
      · simp [clean_eq_kept directory, rooted, appended, String.append_assoc]
      · simp [clean_eq_kept directory, rooted, appended, notEmpty, named]

theorem dir_of_separator_not_mem {path : String} (noSeparator : '/' ∉ path.toList) : dir path = "." := by
  unfold dir
  rw [List.dropWhile_eq_nil_iff.mpr fun c member => by
    have : c ≠ '/' := fun same => noSeparator (List.mem_reverse.mp (same ▸ member))
    simpa using this]

theorem dir_append_name (front : String) {name : String} (noSeparator : '/' ∉ name.toList) :
    dir (front ++ "/" ++ name) = clean (front ++ "/") := by
  have reversed : (front ++ "/" ++ name).toList.reverse = name.toList.reverse ++ '/' :: front.toList.reverse := by
    simp
  have kept : (name.toList.reverse ++ '/' :: front.toList.reverse).dropWhile (fun c => decide (c ≠ '/')) =
      '/' :: front.toList.reverse := by
    rw [List.dropWhile_append_of_pos fun c member => by
      simpa using fun same : c = '/' => noSeparator (List.mem_reverse.mp (same ▸ member))]
    simp
  have separated : String.ofList (front.toList ++ ['/']) = front ++ "/" := by
    rw [← String.toList_inj]
    simp
  unfold dir
  rw [reversed, kept]
  simp only [List.reverse_cons, List.reverse_reverse, separated]

/-- The last element of a path that ends in a name, alone or after a separator. -/
theorem base_of_reverse {path name : String} (named : name ≠ "") (noSeparator : '/' ∉ name.toList)
    (rest : List Char) (reversed : path.toList.reverse = name.toList.reverse ++ rest)
    (stops : rest = [] ∨ rest.head? = some '/') : base path = name := by
  obtain ⟨last, earlier, lastFirst⟩ :=
    List.exists_cons_of_ne_nil (show name.toList.reverse ≠ [] by simpa using named)
  have lastFree : last ≠ '/' := fun same => noSeparator (List.mem_reverse.mp (by simp [lastFirst, same]))
  have nameFree : ∀ c ∈ name.toList.reverse, decide (c ≠ '/') = true := fun c member => by
    simpa using fun same : c = '/' => noSeparator (List.mem_reverse.mp (same ▸ member))
  have untrimmed : path.toList.reverse.dropWhile (fun c => decide (c = '/')) = path.toList.reverse := by
    rw [reversed, lastFirst, List.cons_append, List.dropWhile_cons_of_neg (by simpa using lastFree)]
  have nameFirst : path.toList.reverse.takeWhile (fun c => decide (c ≠ '/')) = name.toList.reverse := by
    rw [reversed, List.takeWhile_append_of_pos nameFree]
    rcases stops with rfl | separator
    · simp
    · obtain ⟨first, after, rfl⟩ := List.exists_cons_of_ne_nil (show rest ≠ [] by rintro rfl; simp at separator)
      simp only [List.head?_cons, Option.some.injEq] at separator
      simp [separator]
  have nonempty : path.toList.reverse ≠ [] := by simp [reversed, lastFirst]
  unfold base
  rw [if_neg (by simpa using nonempty), untrimmed, if_neg (by simpa using nonempty), nameFirst, List.reverse_reverse,
    String.ofList_toList]

theorem dir_join_plain (directory : String) {name : String} (plain : Plain name) :
    dir (join [directory, name]) = clean directory := by
  rcases join_plain directory plain with ⟨here, joinedEq⟩ | ⟨root, joinedEq⟩ | ⟨nonempty, joinedEq⟩
  · rw [joinedEq, here, dir_of_separator_not_mem plain.2.1]
  · rw [joinedEq, root, show "/" ++ name = "" ++ "/" ++ name by simp, dir_append_name _ plain.2.1,
      String.empty_append, clean_root]
  · rw [joinedEq, dir_append_name _ plain.2.1, clean_append_separator nonempty, clean_clean]

theorem base_join_plain (directory : String) {name : String} (plain : Plain name) :
    base (join [directory, name]) = name := by
  have named := plain.1
  have noSeparator := plain.2.1
  rcases join_plain directory plain with ⟨-, joinedEq⟩ | ⟨-, joinedEq⟩ | ⟨-, joinedEq⟩
  · exact base_of_reverse named noSeparator [] (by rw [joinedEq]; simp) (.inl rfl)
  · exact base_of_reverse named noSeparator ['/'] (by rw [joinedEq]; simp) (.inr rfl)
  · exact base_of_reverse named noSeparator ('/' :: (clean directory).toList.reverse) (by rw [joinedEq]; simp)
      (.inr rfl)

/-! ## Relative paths -/

/-- The elements `rel` compares of a cleaned path are those cleaning keeps. -/
theorem cleanedElements_clean (path : String) : cleanedElements (clean path) = kept path := by
  have settled := settled_kept path
  have kept_named : ∀ element ∈ kept path, !element.isEmpty ∧ element ≠ "." := by
    intro element member
    obtain ⟨named, -⟩ := settled.mem (List.mem_reverse.mpr member)
    obtain ⟨names, climbs, split, plainNames, -⟩ := settled
    have inStack : element ∈ names ++ List.replicate climbs ".." := split ▸ List.mem_reverse.mpr member
    refine ⟨by simpa using named, ?_⟩
    rcases List.mem_append.mp inStack with name | climb
    · exact (plainNames element name).2.2.1
    · rw [List.eq_of_mem_replicate climb]
      decide
  have filtered : (kept path).filter (fun element => !element.isEmpty ∧ element ≠ ".") = kept path :=
    List.filter_eq_self.mpr fun element member => by simpa using kept_named element member
  by_cases nothingKept : kept path = []
  · by_cases rooted : isAbs path = true
    · rw [clean_eq_kept, if_pos rooted, nothingKept]
      rfl
    · rw [clean_eq_kept, if_neg rooted, nothingKept]
      rfl
  · have separated := elements_joined nothingKept fun element member => (settled.mem (List.mem_reverse.mpr member)).2
    by_cases rooted : isAbs path = true
    · rw [clean_eq_kept, if_pos rooted, cleanedElements, show "/" ++ joined (kept path) = "" ++ "/" ++ joined (kept path) by simp,
        elements_append_separator, separated, show elements "" = [""] from rfl, List.singleton_append,
        List.filter_cons_of_neg (by simp), filtered]
    · rw [clean_eq_kept, if_neg rooted, if_neg (by simpa using joined_ne_empty settled nothingKept), cleanedElements,
        separated, filtered]

theorem dropCommon_append (common rest : List String) : dropCommon common (common ++ rest) = ([], rest) := by
  induction common with
  | nil => cases rest <;> rfl
  | cons element others ih => simp [dropCommon, ih]

/-- A path whose cleaned elements are those of a base and then some more is reached from the base
by those. -/
theorem rel_inside {base target : String} {names : List String} (sameRoot : isAbs target = isAbs base)
    (inside : kept target = kept base ++ names) (named : names ≠ []) : rel base target = .ok (joined names) := by
  have longer : kept target ≠ kept base := by
    rw [inside]
    simpa using named
  have apart : clean target ≠ clean base := fun same => longer (by
    rw [← cleanedElements_clean, same, cleanedElements_clean])
  have notDot : clean target ≠ "." := fun dot => by
    have := cleanedElements_clean target
    rw [dot, inside] at this
    simp [cleanedElements, elements_of_separator_not_mem (show '/' ∉ ".".toList by decide), named] at this
  unfold rel
  rw [if_neg apart, if_neg (by rw [isAbs_clean, isAbs_clean, sameRoot]; simp), if_neg notDot]
  simp only [cleanedElements_clean, inside, dropCommon_append]
  rfl

/-- Plain names joined stay below the place they are taken from. -/
theorem isLocal_joined {names : List String} (named : names ≠ []) (plainNames : ∀ name ∈ names, Plain name) :
    isLocal (joined names) = true := by
  have settled : Settled false names.reverse := ⟨names.reverse, 0, by simp, by simpa using plainNames, by simp⟩
  have relative := isAbs_joined settled named
  have nonempty := joined_ne_empty settled named
  have separated : elements (joined names) = names :=
    elements_joined named fun name member => (plainNames name member).2.1
  have cleaned : clean (joined names) = joined names := by
    rw [clean_eq_kept, kept_eq, relative, separated, cleanElements_names false plainNames]
    simp [nonempty]
  -- a path that climbs out starts with a `..` element, and no plain name is `..`
  have firstPlain : ∀ rest, names ≠ ".." :: rest := fun rest same =>
    (plainNames ".." (by simp [same])).2.2.2 rfl
  have notUp : joined names ≠ ".." := fun up => by
    rw [up, elements_of_separator_not_mem (by decide)] at separated
    exact firstPlain [] separated.symm
  have notClimbing : (joined names).startsWith "../" = false := by
    rw [Bool.eq_false_iff, ne_eq, String.startsWith_string_iff]
    rintro ⟨rest, split⟩
    have whole : joined names = ".." ++ "/" ++ String.ofList rest := by
      apply String.ext
      simp [← split]
    rw [whole, elements_append_separator, elements_of_separator_not_mem (by decide)] at separated
    exact firstPlain _ separated.symm
  unfold isLocal
  simp [relative, nonempty, cleaned, notUp, notClimbing]

end Alembic.Path
