import Alembic.Proofs.AtomicWrites
import Alembic.Proofs.LookupCongruence
/-! # What writing the resources leaves unchanged -/

namespace Alembic.Files

open Alembic.Path

namespace Tree

variable {tree : Tree}

theorem locate_congr {other : Tree} {path : String}
    (agree : ∀ count, tree.find? (reach "" ((elements path).take count)) =
      other.find? (reach "" ((elements path).take count))) :
    tree.locate path = other.locate path := by
  unfold locate
  rw [walk_congr "" .directory (elements path) agree]

theorem stat_congr {other : Tree} {path : String}
    (agree : ∀ count, tree.find? (reach "" ((elements path).take count)) =
      other.find? (reach "" ((elements path).take count))) :
    tree.stat path = other.stat path := by
  unfold stat
  rw [locate_congr agree]

theorem stat_found (rooted : tree.Rooted) {path : String} {node : Node} (stated : tree.stat path = .ok node) :
    tree.find? (keyOf path) = some node := by
  unfold stat at stated
  split at stated
  · next key found located =>
    cases stated
    have holds := locate_holds rooted located
    rw [← locate_key located]
    exact holds
  · cases stated
  · cases stated

/-- A walk that ends at a file ends on its last element, a name looked up in a directory. -/
theorem walk_file_last {current : String} {node : Node} {elements : List String} {key : String} {data : ByteArray}
    (walked : tree.walk current node elements = .ok (.found key (.file data))) :
    elements = [] ∨ ∃ front last parent, elements = front ++ [last] ∧ key = childKey parent last := by
  induction elements generalizing current node with
  | nil => exact .inl rfl
  | cons element rest ih =>
    right
    cases node with
    | file content => simp [walk] at walked
    | directory =>
      have onRest : ∀ {next : String}, tree.walk next .directory rest = .ok (.found key (.file data)) →
          ∃ front last parent, element :: rest = front ++ [last] ∧ key = childKey parent last := by
        intro next rested
        rcases ih rested with nothing | ⟨front, last, parent, split, keyed⟩
        · subst nothing
          simp [walk] at rested
        · exact ⟨element :: front, last, parent, by simp [split], keyed⟩
      by_cases skipped : element.isEmpty = true ∨ element = "."
      · simp only [walk, if_pos skipped] at walked
        exact onRest walked
      by_cases up : element = ".."
      · simp only [walk, if_neg skipped, if_pos up] at walked
        exact onRest walked
      by_cases long : element.utf8ByteSize > nameLimit
      · simp only [walk, if_neg skipped, if_neg up, if_pos long] at walked
        cases walked
      simp only [walk, if_neg skipped, if_neg up, if_neg long] at walked
      cases found : tree.find? (childKey current element) with
      | none =>
        rw [found] at walked
        by_cases empty : rest.all (·.isEmpty) = true <;> simp [empty] at walked
      | some child =>
        rw [found] at walked
        cases child with
        | directory => exact onRest walked
        | file content =>
          cases rest with
          | nil =>
            simp only [walk, Except.ok.injEq, Place.found.injEq] at walked
            exact ⟨[], element, current, rfl, walked.1.symm⟩
          | cons next more => simp [walk] at walked

/-- A walk that ends at a file looks only at directories and at that file, so a tree that keeps
both walks alike. -/
theorem walk_of_kept {other : Tree} (keeps : ∀ key, tree.find? key = some .directory → other.find? key = some .directory)
    {key : String} {data : ByteArray} (kept : other.find? key = tree.find? key) {current : String} {node : Node}
    {elements : List String} (walked : tree.walk current node elements = .ok (.found key (.file data))) :
    other.walk current node elements = .ok (.found key (.file data)) := by
  induction elements generalizing current node with
  | nil => simpa only [walk] using walked
  | cons element rest ih =>
    cases node with
    | file content => simp [walk] at walked
    | directory =>
      by_cases skipped : element.isEmpty = true ∨ element = "."
      · simp only [walk, if_pos skipped] at walked ⊢
        exact ih walked
      by_cases up : element = ".."
      · simp only [walk, if_neg skipped, if_pos up] at walked ⊢
        exact ih walked
      by_cases long : element.utf8ByteSize > nameLimit
      · simp only [walk, if_neg skipped, if_neg up, if_pos long] at walked
        cases walked
      simp only [walk, if_neg skipped, if_neg up, if_neg long] at walked ⊢
      cases found : tree.find? (childKey current element) with
      | none =>
        rw [found] at walked
        by_cases empty : rest.all (·.isEmpty) = true <;> simp [empty] at walked
      | some child =>
        rw [found] at walked
        cases child with
        | directory =>
          rw [keeps _ found]
          exact ih walked
        | file content =>
          cases rest with
          | nil =>
            simp only [walk, Except.ok.injEq, Place.found.injEq, Node.file.injEq] at walked
            obtain ⟨rfl, rfl⟩ := walked
            rw [kept, found]
            rfl
          | cons next more => simp [walk] at walked

/-- A tree is rooted when the parent of every entry it lists is one of its directories. -/
theorem rooted_of_entries (parents : ∀ entry ∈ tree.entries, entry.1 ≠ "" →
    (tree.find? (parentKey entry.1)).any Node.isDirectory = true) : tree.Rooted := by
  intro key node named found
  have listed : ∃ entry ∈ tree.entries, entry.1 = key := by
    simp only [find?, String.isEmpty_iff, named, if_false] at found
    obtain ⟨entry, foundEntry, -⟩ := Option.map_eq_some_iff.mp found
    exact ⟨entry, List.mem_of_find?_eq_some foundEntry, by simpa using List.find?_some foundEntry⟩
  obtain ⟨entry, member, rfl⟩ := listed
  have parent := parents entry member named
  revert parent
  cases tree.find? (parentKey entry.1) with
  | none => simp
  | some parentNode => cases parentNode <;> simp [Node.isDirectory]

/-- How writing a run's resources leaves a tree: directories stay, and other entries change only
by directories made toward the output directory and resource files inside it. -/
structure WrittenInto (before after : Tree) (out : String) : Prop where
  rooted : after.Rooted
  output : after.stat out = .ok .directory
  keeps : ∀ key, before.find? key = some .directory → after.find? key = some .directory
  changes : ∀ key, after.find? key = before.find? key ∨
    (before.find? key = none ∧ key ≠ "" ∧ Under (keyOf out) key) ∨
    ∃ name, Plain name ∧ ext name = ".tres" ∧ key = childKey (keyOf out) name

/-- Making a cleaned output directory and then writing resource files directly inside it. -/
theorem written_into {out : String} (cleaned : clean out = out) {α : Type} {items : List α} {path : α → String}
    {content : α → ByteArray}
    (resources : ∀ item ∈ items, ∃ name, Plain name ∧ ext name = ".tres" ∧ path item = join [out, name])
    (rooted : tree.Rooted) {prepared final : Tree} (made : tree.makeDirectories out = .ok prepared)
    (written : items.foldlM (fun current item => Files.writeAtomic current (path item) (content item)) prepared =
      .ok final) :
    WrittenInto tree final out := by
  have straight : Straight out := by
    rw [← cleaned]
    exact straight_clean out
  obtain ⟨preparedRooted, toward, madeDirectory⟩ := mkdirAll_made _ rooted made
  obtain ⟨finalRooted, kept, lastly⟩ := foldlM_writeAtomic path content items preparedRooted written
  have keeps : ∀ key, tree.find? key = some .directory → final.find? key = some .directory := by
    intro key isDirectory
    apply kept
    rcases toward key with same | ⟨absent, -, -⟩
    · rw [same]
      exact isDirectory
    · rw [absent] at isDirectory
      cases isDirectory
  refine ⟨finalRooted, stat_of_directories kept madeDirectory, keeps, fun key => ?_⟩
  by_cases touched : ∃ item ∈ items, keyOf (path item) = key
  · obtain ⟨item, member, rfl⟩ := touched
    obtain ⟨name, plain, resource, pathEq⟩ := resources item member
    refine .inr (.inr ⟨name, plain, resource, ?_⟩)
    rw [pathEq, keyOf_join_plain _ plain, cleaned]
  · have untouched : ∀ item ∈ items, keyOf (path item) ≠ key := fun item member same =>
      touched ⟨item, member, same⟩
    rw [lastly key, lastWritten_of_not_mem untouched]
    rcases toward key with same | ⟨absent, -, ancestor, upward, rfl⟩
    · exact .inl same
    · have named : keyOf ancestor ≠ "" := fun empty => by
        rw [empty, find?_empty] at absent
        cases absent
      rcases straight.under_of_upward upward with empty | under
      · exact absurd empty named
      · exact .inr (.inl ⟨absent, named, under⟩)

/-- After such writes a probe of a plain name in a folder outside the output directory finds
what it found before. -/
theorem WrittenInto.stat_probe {before after : Tree} {out : String} (frame : WrittenInto before after out)
    (rooted : before.Rooted) {directory parent folderName name : String}
    (folderKey : keyOf (clean directory) = childKey parent folderName) (folderPlain : Plain folderName)
    (folderOther : ext folderName ≠ ".tres") (parentDirectory : before.find? parent = some .directory)
    (outside : ¬Under (keyOf out) (keyOf (clean directory))) (plain : Plain name) :
    after.stat (join [directory, name]) = before.stat (join [directory, name]) := by
  have folderNamed : keyOf (clean directory) ≠ "" := by
    rw [folderKey]
    exact childKey_ne_empty parent folderPlain.1
  have aboveParent : ∀ key, Under parent key → after.find? key = before.find? key := by
    intro key under
    have isDirectory : before.find? key = some .directory := by
      rcases under with rfl | below
      · exact parentDirectory
      · exact rooted.directory_of_below parentDirectory below
    rw [frame.keeps key isDirectory, isDirectory]
  apply stat_congr
  intro count
  rcases (straight_join [directory, name]).reach_take count with empty | under
  · rw [empty, find?_empty, find?_empty]
  · rw [keyOf_join_plain _ plain] at under
    generalize reach "" ((elements (join [directory, name])).take count) = key at under ⊢
    rcases under with rfl | below
    · -- the name itself: made only inside the output directory, written only if the output
      -- directory were the folder
      rcases frame.changes (childKey (keyOf (clean directory)) name) with
        same | ⟨-, -, made⟩ | ⟨resource, resourcePlain, -, written⟩
      · exact same
      · exact absurd (.inr (made.below_of_childKey folderNamed plain.2.1)) outside
      · exact absurd (.inl (childKey_inj plain.2.1 resourcePlain.2.1 written).1.symm) outside
    · rcases below.under_parent plain.2.1 with rfl | belowFolder
      · -- the folder: made only at or above the output directory, and its name is no resource name
        rcases frame.changes (keyOf (clean directory)) with
          same | ⟨-, -, made⟩ | ⟨resource, resourcePlain, resourceExt, written⟩
        · exact same
        · exact absurd made outside
        · rw [folderKey] at written
          rw [← (childKey_inj folderPlain.2.1 resourcePlain.2.1 written).2] at resourceExt
          exact absurd resourceExt folderOther
      · rw [folderKey] at belowFolder
        exact aboveParent key (belowFolder.under_parent folderPlain.2.1)

/-- After such writes, a path to a file whose extension is not the resource extension finds what
it found before. -/
theorem WrittenInto.stat_file {before after : Tree} {out : String} (frame : WrittenInto before after out)
    (rooted : before.Rooted) {path : String} {data : ByteArray} (isFile : before.stat path = .ok (.file data))
    (other : ext path ≠ ".tres") :
    after.stat path = before.stat path := by
  unfold stat at isFile ⊢
  cases located : before.locate path with
  | error errno =>
    rw [located] at isFile
    cases isFile
  | ok place =>
    rw [located] at isFile
    cases place with
    | missing parent name => cases isFile
    | found key node =>
      cases isFile
      have walked : before.walk "" .directory (elements path) = .ok (.found key (.file data)) := by
        simp only [locate] at located
        split_ifs at located
        exact located
      have kept : after.find? key = before.find? key := by
        rcases frame.changes key with same | ⟨absent, -, -⟩ | ⟨name, plain, resource, written⟩
        · exact same
        · rw [locate_holds rooted located] at absent
          cases absent
        · rcases walk_file_last walked with nothing | ⟨front, last, parent, split, keyed⟩
          · exact absurd nothing (by simp [elements])
          have noSeparator : '/' ∉ last.toList := @separator_not_mem_of_elements path last (by simp [split])
          have sameName := (childKey_inj noSeparator plain.2.1 (keyed.symm.trans written)).2
          exact absurd (by rw [ext_of_elements split, sameName, resource]) other
      have walkedAfter : after.locate path = .ok (.found key (.file data)) := by
        simp only [locate] at located ⊢
        split_ifs at located ⊢
        exact walk_of_kept frame.keeps kept walked
      rw [walkedAfter]

end Tree

end Alembic.Files

namespace Alembic.Resolve

open Files Alembic.Path

theorem idProblem_eq_none_iff (id : String) : idProblem id = none ↔ Recipe.recipeIdProblem id = none := by
  unfold idProblem Recipe.recipeIdProblem
  split_ifs <;> simp

theorem search_congr {first second : Tree} {id name : String} :
    ∀ {folders : List Folder},
      (∀ folder ∈ folders, first.stat (join [folder.dir, name]) = second.stat (join [folder.dir, name])) →
      ∀ searched, Resolver.search first id name folders searched = Resolver.search second id name folders searched
  | [], _, _ => rfl
  | folder :: rest, same, searched => by
    have restSame := @search_congr first second id name rest fun other member =>
      same other (List.mem_cons_of_mem _ member)
    simp only [Resolver.search, same folder List.mem_cons_self, restSame]

/-- Two trees look every identifier up alike when every resource file of every folder looks
alike in them. -/
theorem sameLookups_of_stat {first second : Tree} {folders : List Folder}
    (same : ∀ folder ∈ folders, ∀ name, Plain name →
      first.stat (join [folder.dir, name]) = second.stat (join [folder.dir, name])) :
    SameLookups first second folders := by
  intro id
  unfold lookup
  cases valid : idProblem id with
  | some reason => rfl
  | none =>
    have plain := Recipe.plain_of_recipeIdProblem ((idProblem_eq_none_iff id).mp valid)
    exact search_congr (fun folder member => same folder member _ plain) []

/-- Each default folder is a plain name, not a resource name, inside the resources directory of
the root. -/
theorem defaultFolders_key {root : String} {folder : Folder} (member : folder ∈ defaultFolders root) :
    ∃ name, Plain name ∧ ext name ≠ ".tres" ∧
      keyOf (clean folder.dir) = childKey (keyOf (join [root, "resources"])) name := by
  simp only [defaultFolders, List.mem_cons, List.not_mem_nil, or_false] at member
  rcases member with rfl | rfl
  · have plain : Plain "potions" := ⟨by decide, by decide, by decide, by decide⟩
    exact ⟨"potions", plain, by unfold ext; simp, by rw [keyOf_clean_join, keyOf_join_resources root plain]⟩
  · have plain : Plain "items" := ⟨by decide, by decide, by decide, by decide⟩
    exact ⟨"items", plain, by unfold ext; simp, by rw [keyOf_clean_join, keyOf_join_resources root plain]⟩

theorem keyOf_clean_folder {root : String} {folder : Folder} (member : folder ∈ defaultFolders root) :
    keyOf (clean folder.dir) = keyOf folder.dir := by
  simp only [defaultFolders, List.mem_cons, List.not_mem_nil, or_false] at member
  rcases member with rfl | rfl <;> exact keyOf_clean_join _

/-- A resource file found in a default folder makes the resources directory of the root a
directory of a rooted tree. -/
theorem resources_directory {tree : Tree} (rooted : tree.Rooted) {root name : String} (plain : Plain name)
    {folder : Folder} (member : folder ∈ defaultFolders root) {data : ByteArray}
    (found : tree.stat (join [folder.dir, name]) = .ok (.file data)) :
    tree.find? (keyOf (join [root, "resources"])) = some .directory := by
  obtain ⟨folderName, folderPlain, -, folderKey⟩ := defaultFolders_key member
  have isFile := Tree.stat_found rooted found
  rw [keyOf_join_plain _ plain, folderKey] at isFile
  by_cases nothing : keyOf (join [root, "resources"]) = ""
  · rw [nothing]
    exact Tree.find?_empty
  · exact rooted.directory_of_below isFile
      ((below_childKey (childKey_ne_empty _ folderPlain.1) plain.2.1).trans (below_childKey nothing folderPlain.2.1))

end Alembic.Resolve

namespace ByteArray

/-- Reading bytes one by one from an index on gives the array's list from that index. -/
theorem toList_loop_eq (bytes : ByteArray) (index : Nat) (read : List UInt8) :
    ByteArray.toList.loop bytes index read = read.reverse ++ bytes.data.toList.drop index := by
  fun_induction ByteArray.toList.loop bytes index read with
  | case1 index read inside ih =>
    rw [ih]
    have inList : index < bytes.data.toList.length := by rw [Array.length_toList]; exact inside
    have got : bytes.get! index = bytes.data.toList[index] := by
      rw [Array.getElem_toList]
      exact getElem!_pos bytes.data index inside
    rw [List.drop_eq_getElem_cons inList, got]
    simp
  | case2 index read past =>
    have beyond : bytes.data.toList.length ≤ index := by rw [Array.length_toList]; exact Nat.le_of_not_lt past
    rw [List.drop_eq_nil_of_le beyond, List.append_nil]

theorem toList_eq_data (bytes : ByteArray) : bytes.toList = bytes.data.toList := by
  simp [ByteArray.toList, toList_loop_eq]

end ByteArray

namespace Alembic.Table

open Files Alembic.Path

theorem load_congr {first second : Tree} {logger : Logging.Logger} {path : String}
    (same : first.stat path = second.stat path) : load first logger path = load second logger path := by
  unfold load
  rw [same]

/-- A table that loads was a file with the extension of a table syntax. -/
theorem load_ok {tree : Tree} {logger : Logging.Logger} {path : String} {table : Table} {lines : List String}
    (loaded : load tree logger path = (.ok table, lines)) :
    ∃ data, tree.stat path = .ok (.file data) ∧ dialectOf path ≠ none := by
  unfold load at loaded
  split at loaded
  · split at loaded <;> cases loaded
  · cases loaded
  · next data stated =>
    refine ⟨data, stated, fun unsupported => ?_⟩
    rw [unsupported] at loaded
    cases loaded

theorem ext_of_dialect {path : String} (dialect : dialectOf path ≠ none) : ext path ≠ ".tres" := by
  intro resource
  apply dialect
  unfold dialectOf
  rw [resource, show Text.lowerText ".tres" = ".tres" by decide]
  simp

/-- The steps `load` takes once the file is read, over the file's bytes. -/
def loadBytes (logger : Logging.Logger) (path : String) (bytes : List UInt8) : Except Failure Table × List String :=
  let started := logger.emit Logging.debug "Table loader started." [("path", .text path)]
  let malformed (reason : String) (cause : Option String) : Except Failure Table × List String :=
    (.error (.malformedTable path reason cause), started)
  match dialectOf path with
  | none => malformed "unsupported table format, expected .json or .hcl" none
  | some dialect =>
    match documentAttributes dialect path bytes with
    | .error diagnostics => malformed "failed to parse recipe table" (some (diagnosticsText diagnostics))
    | .ok (attributes, problems) =>
      if !problems.isEmpty then
        malformed "top level must be an object of attributes" (some (diagnosticsText problems))
      else
        match entryNamed attributes recipesAttribute with
        | none => malformed ("'" ++ recipesAttribute ++ "' must be a list") none
        | some found =>
          let (value, diagnostics) := found.evaluate
          if !diagnostics.isEmpty then
            malformed ("cannot evaluate '" ++ recipesAttribute ++ "'") (some (diagnosticsText diagnostics))
          else if value.isNull ∨ !value.isSequence then
            malformed ("'" ++ recipesAttribute ++ "' must be a list") none
          else
            let entries := value.elements.zipIdx
            match entries.find? fun entry => entry.1.isNull ∨ !entry.1.isObjectLike with
            | some (_, index) =>
              malformed ("recipe entry #" ++ toString (index + 1) ++ " must be an object") none
            | none =>
              let records := entries.map fun entry => (⟨entry.2, entry.1⟩ : Record)
              (.ok ⟨path, records⟩, started ++ logger.emit Logging.debug "Table loading complete."
                [("path", .text path), ("recipes", .int records.length)])

theorem load_file {tree : Tree} {path : String} {content : ByteArray} (stated : tree.stat path = .ok (.file content))
    (logger : Logging.Logger) : load tree logger path = loadBytes logger path content.data.toList := by
  rw [← ByteArray.toList_eq_data]
  -- the two copies match on the same values, one after another: fix each value first, so that
  -- both sides reduce to one term whether or not the copies share their matchers
  cases dialect : dialectOf path with
  | none => simp only [load, loadBytes, stated, dialect]
  | some format =>
    cases parsed : documentAttributes format path content.toList with
    | error diagnostics => simp only [load, loadBytes, stated, dialect, parsed]
    | ok document =>
      obtain ⟨attributes, problems⟩ := document
      cases named : entryNamed attributes recipesAttribute with
      | none => simp only [load, loadBytes, stated, dialect, parsed, named]
      | some found =>
        cases evaluated : found.evaluate with
        | mk value diagnostics =>
          cases refused : value.elements.zipIdx.find? fun entry => entry.1.isNull ∨ !entry.1.isObjectLike with
          | none => simp only [load, loadBytes, stated, dialect, parsed, named, evaluated, refused]
          | some entry =>
            obtain ⟨element, index⟩ := entry
            simp only [load, loadBytes, stated, dialect, parsed, named, evaluated, refused]

/-- `load`, with the bytes of the file read through its array: the kernel evaluates this
without the byte-by-byte loop of `ByteArray.toList`. -/
def loadData (tree : Tree) (logger : Logging.Logger) (path : String) : Except Failure Table × List String :=
  match tree.stat path with
  | .ok (.file content) => loadBytes logger path content.data.toList
  | _ => load tree logger path

theorem load_eq_loadData (tree : Tree) (logger : Logging.Logger) (path : String) :
    load tree logger path = loadData tree logger path := by
  unfold loadData
  split
  · next content stated => exact load_file stated logger
  · rfl

end Alembic.Table

namespace Alembic.Resolve.Resolver

open Files

/-- A resolver that remembers only what lookups find in one tree also does in another tree with the
same lookups. -/
theorem Sound.transfer {first second : Tree} {resolver : Resolver} (sound : resolver.Sound first)
    (same : SameLookups second first resolver.folders) : resolver.Sound second := by
  intro id path remembered
  rw [same id]
  exact sound id path remembered

end Alembic.Resolve.Resolver

namespace Alembic.Compile

theorem Agree.transfer {first second : Files.Tree} {compiler other : Compiler} (agree : Agree first compiler other)
    (same : Resolve.SameLookups second first compiler.resolver.folders) : Agree second compiler other :=
  ⟨agree.folders, agree.options, agree.firstSound.transfer same, agree.secondSound.transfer (agree.folders ▸ same)⟩

end Alembic.Compile

namespace Alembic.Files.Tree

open Alembic.Path Resolve

variable {before after : Tree} {out : String}

/-- What a run wrote outside both default folders changes no lookup, once the resources directory
of the root is a directory. -/
theorem WrittenInto.sameLookups (frame : WrittenInto before after out) (rooted : before.Rooted) {root : String}
    (outside : ∀ folder ∈ defaultFolders root, ¬Under (keyOf out) (keyOf folder.dir))
    (resources : before.find? (keyOf (join [root, "resources"])) = some .directory) :
    SameLookups after before (defaultFolders root) := by
  apply sameLookups_of_stat
  intro folder member name plain
  obtain ⟨folderName, folderPlain, folderOther, folderKey⟩ := defaultFolders_key member
  exact frame.stat_probe rooted folderKey folderPlain folderOther resources
    (by rw [keyOf_clean_folder member]; exact outside folder member) plain

/-- A table that loaded before the writes loads the same after them. -/
theorem WrittenInto.load (frame : WrittenInto before after out) (rooted : before.Rooted) {logger : Logging.Logger}
    {path : String} {table : Table.Table} {lines : List String}
    (loaded : Table.load before logger path = (.ok table, lines)) : Table.load after logger path = (.ok table, lines) := by
  obtain ⟨data, isFile, dialect⟩ := Table.load_ok loaded
  rw [Table.load_congr (frame.stat_file rooted isFile (Table.ext_of_dialect dialect))]
  exact loaded

end Alembic.Files.Tree
