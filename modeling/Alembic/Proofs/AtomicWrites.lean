import Alembic.Proofs.PathKeys
/-! # Atomic writes: the temporary file, its removal, and the tree a failure leaves -/

namespace Alembic.Files

open Alembic.Path

/-- The last element of the name of a path's temporary file. -/
def temporaryElement (path : String) (number : Nat) : String :=
  "." ++ base path ++ "." ++ toString number ++ ".tmp"

theorem temporaryParts_pattern (directory path : String) :
    Tree.temporaryParts directory (temporaryPattern path) =
      ((if directory.endsWith "/" then directory else directory ++ "/") ++ ("." ++ base path ++ "."), ".tmp") := by
  have chars : (temporaryPattern path).toList = ('.' :: (base path).toList) ++ ['.', '*', '.', 't', 'm', 'p'] := by
    simp [temporaryPattern]
  have found : ((temporaryPattern path).toList.reverse.findIdx? (· = '*')) = some 4 := by
    rw [chars]
    simp [List.findIdx?_cons]
  have length : (temporaryPattern path).toList.length - 1 - 4 = ('.' :: (base path).toList).length + 1 := by
    rw [chars]
    simp
  unfold Tree.temporaryParts
  simp only [found, length]
  rw [chars, List.take_append, List.drop_append]
  split <;> simp [String.append_assoc, List.take_of_length_le (Nat.le_succ _)]

/-- A temporary name is the path's directory, a separator and the temporary element. -/
theorem temporaryName_split (directory path : String) (number : Nat) :
    ∃ front, Tree.temporaryName directory (temporaryPattern path) number =
      front ++ "/" ++ temporaryElement path number ∧ keyOf front = keyOf directory := by
  unfold Tree.temporaryName
  rw [temporaryParts_pattern]
  split
  · next ends =>
    obtain ⟨front, split⟩ := (endsWith_iff_suffix directory "/").mp ends
    have directoryEq : directory = String.ofList front ++ "/" := by
      apply String.ext
      rw [← split]
      simp
    refine ⟨String.ofList front, ?_, ?_⟩
    · rw [directoryEq]
      simp [temporaryElement, String.append_assoc]
    · rw [directoryEq, show String.ofList front ++ "/" = String.ofList front ++ "/" ++ "" by simp,
        keyOf_append_separator, elements_empty]
      simp [reach]
  · exact ⟨directory, by simp [temporaryElement, String.append_assoc], rfl⟩

theorem separator_not_mem_toString (number : Nat) : '/' ∉ (toString number).toList := by
  intro member
  rw [Nat.toString_eq_ofList_toDigits, String.toList_ofList] at member
  have := Nat.isDigit_of_mem_toDigits (by decide) (by decide) member
  simp [Char.isDigit] at this

theorem length_temporaryElement (path : String) (number : Nat) :
    (temporaryElement path number).toList.length = (base path).toList.length + (toString number).toList.length + 6 := by
  simp [temporaryElement]
  omega

/-- The temporary element is a plain name when the path's last element has no separator. -/
theorem temporaryElement_plain (path : String) (number : Nat) (noSeparator : '/' ∉ (base path).toList) :
    Plain (temporaryElement path number) := by
  have long := length_temporaryElement path number
  refine ⟨fun empty => ?_, fun member => ?_, fun dot => ?_, fun dots => ?_⟩
  · rw [empty] at long
    simp at long
  · simp only [temporaryElement, String.toList_append, List.mem_append] at member
    rcases member with (((dot | inBase) | dot) | inNumber) | tmp
    · simp at dot
    · exact noSeparator inBase
    · simp at dot
    · exact separator_not_mem_toString number inNumber
    · simp at tmp
  · rw [dot] at long
    simp at long
  · rw [dots] at long
    simp at long

theorem keyOf_temporaryName (path : String) (number : Nat) (noSeparator : '/' ∉ (base path).toList) :
    keyOf (Tree.temporaryName (dir path) (temporaryPattern path) number) =
      childKey (keyOf (dir path)) (temporaryElement path number) := by
  obtain ⟨front, named, frontKey⟩ := temporaryName_split (dir path) path number
  have plain := temporaryElement_plain path number noSeparator
  rw [named, keyOf_append_separator, elements_of_separator_not_mem plain.2.1, reach_plain _ plain, frontKey]

/-- Nothing follows the last element of a temporary file's name. -/
theorem temporaryName_ends (path : String) (number : Nat) (noSeparator : '/' ∉ (base path).toList) :
    (elements (Tree.temporaryName (dir path) (temporaryPattern path) number)).getLast? ≠ some "" := by
  obtain ⟨front, named, -⟩ := temporaryName_split (dir path) path number
  have plain := temporaryElement_plain path number noSeparator
  rw [named, elements_append_separator, elements_of_separator_not_mem plain.2.1, List.getLast?_append]
  simpa using plain.1

theorem length_lt_childKey (parent : String) {name : String} (named : name ≠ "") :
    parent.toList.length < (childKey parent name).toList.length := by
  have nonempty : 0 < name.toList.length := by
    simpa [List.length_pos_iff] using named
  unfold childKey
  split
  · next empty =>
    simp only [String.isEmpty_iff] at empty
    subst empty
    simpa using nonempty
  · simp

/-- A path never leads to the key of its own temporary file. -/
theorem keyOf_ne_temporary (path : String) (number : Nat) (noSeparator : '/' ∉ (base path).toList) :
    keyOf path ≠ keyOf (Tree.temporaryName (dir path) (temporaryPattern path) number) := by
  rw [keyOf_temporaryName path number noSeparator]
  have plain := temporaryElement_plain path number noSeparator
  have longer := length_lt_childKey (keyOf (dir path)) plain.1
  rcases keyOf_beside_dir path with here | up | ⟨basePlain, down⟩
  · rw [here]
    exact fun same => by rw [← same] at longer; omega
  · rw [up]
    intro same
    have shorter : (parentKey (keyOf (dir path))).toList.length ≤ (keyOf (dir path)).toList.length := by
      by_cases root : keyOf (dir path) = ""
      · rw [root]
        rfl
      · exact (parentKey_shorter root).le
    rw [same] at shorter
    omega
  · rw [down]
    intro same
    have sameName := (childKey_inj basePlain.2.1 plain.2.1 same).2
    have long := length_temporaryElement path number
    rw [← sameName] at long
    omega

namespace Tree

variable {tree : Tree}

/-- `current` is `tree` with the open temporary file added where nothing was. -/
structure HoldsTemporary (tree current : Tree) (file : OpenFile) (data : ByteArray) (mode : Nat) : Prop where
  missing : ∃ parent name, tree.locate file.name = .ok (.missing parent name) ∧ file.key = childKey parent name
  ends : (elements file.name).getLast? ≠ some ""
  find : ∀ key, current.find? key = (tree.put file.key (.file data)).find? key
  modes : ∀ key, current.modeOf key = if key = file.key then some mode else tree.modeOf key

namespace HoldsTemporary

variable {current : Tree} {file : OpenFile} {data : ByteArray} {mode : Nat}

theorem keyed (holds : HoldsTemporary tree current file data mode) : file.key = keyOf file.name := by
  obtain ⟨parent, name, located, keyEq⟩ := holds.missing
  rw [keyEq]
  exact locate_key located

theorem absent (holds : HoldsTemporary tree current file data mode) : tree.find? file.key = none := by
  obtain ⟨parent, name, located, keyEq⟩ := holds.missing
  rw [keyEq]
  exact locate_missing_absent located

theorem named (holds : HoldsTemporary tree current file data mode) : file.key ≠ "" := fun empty => by
  have := holds.absent
  rw [empty, find?_empty] at this
  cases this

theorem find_other (holds : HoldsTemporary tree current file data mode) {key : String} (other : key ≠ file.key) :
    current.find? key = tree.find? key := by
  rw [holds.find, find?_put, if_neg other]
  split
  · next root => rw [root, find?_empty]
  · rfl

theorem find_temporary (holds : HoldsTemporary tree current file data mode) :
    current.find? file.key = some (.file data) := by
  rw [holds.find, find?_put, if_neg holds.named, if_pos rfl]

theorem rooted (holds : HoldsTemporary tree current file data mode) (treeRooted : tree.Rooted) : current.Rooted := by
  obtain ⟨parent, name, located, keyEq⟩ := holds.missing
  refine (treeRooted.put_missing (.file data) (locate_holds treeRooted located)).of_find?_eq fun key => ?_
  rw [holds.find, keyEq]

theorem located (holds : HoldsTemporary tree current file data mode) :
    current.locate file.name = .ok (.found file.key (.file data)) := by
  obtain ⟨parent, name, located, keyEq⟩ := holds.missing
  rw [locate_of_find?_eq holds.find, keyEq]
  exact locate_put_missing (.file data) located (.inr holds.ends)

/-- Writing the open temporary file replaces its content. -/
theorem write (holds : HoldsTemporary tree current file data mode) (content : ByteArray) :
    HoldsTemporary tree (current.put file.key (.file content)) file content mode where
  missing := holds.missing
  ends := holds.ends
  find key := by
    rw [find?_put, find?_put]
    split
    · rfl
    · split
      · rfl
      · exact holds.find_other ‹_›
  modes key := by
    rw [← holds.modes]
    by_cases same : key = file.key
    · rw [same, modeOf_eq, modeOf_eq, modes_put, find?_put, if_neg holds.named, if_pos rfl, holds.find_temporary]
      rfl
    · exact modeOf_put_other _ same

/-- Changing the mode of the open temporary file. -/
theorem chmod (holds : HoldsTemporary tree current file data mode) (perm : Nat) :
    HoldsTemporary tree (current.setMode file.key (some perm)) file data perm where
  missing := holds.missing
  ends := holds.ends
  find key := by rw [find?_setMode, holds.find]
  modes key := by
    rw [modeOf_setMode, holds.find_temporary, holds.modes]
    split <;> simp_all

/-- Removing the temporary file again leaves the tree the file was added to. -/
theorem removed (holds : HoldsTemporary tree current file data mode) (treeRooted : tree.Rooted) (key : String) :
    ((current.remove file.name).getD current).find? key = tree.find? key ∧
      ((current.remove file.name).getD current).modeOf key = tree.modeOf key := by
  have erased : current.remove file.name = some (current.erase file.key) := by
    simp [remove, holds.located, holds.named, Node.isDirectory]
  rw [erased, Option.getD_some]
  have found : (current.erase file.key).find? key = tree.find? key := by
    rw [find?_erase]
    split
    · next root => rw [root, find?_empty]
    · split
      · next gone =>
        rcases gone with same | below
        · rw [same, holds.absent]
        · cases treeFound : tree.find? key with
          | none => rfl
          | some node =>
            have := treeRooted.directory_of_below treeFound below
            rw [holds.absent] at this
            cases this
      · next kept => exact holds.find_other (fun same => kept (.inl same))
  refine ⟨found, ?_⟩
  rw [modeOf_eq, modes_erase, found]
  by_cases same : key = file.key
  · rw [same, holds.absent, modeOf_eq, holds.absent]
    rfl
  · rw [← holds.find_other same, ← modeOf_eq, holds.modes, if_neg same]

end HoldsTemporary

/-- A numbered file is created empty, with the temporary mode, at a free name. -/
theorem createNumbered_ok {directory pattern : String} {tries : Nat} {file : OpenFile} {opened : Tree}
    (made : tree.createNumbered directory pattern tries = .ok (file, opened)) :
    ∃ count number parent name, file = ⟨temporaryName directory pattern number, childKey parent name⟩ ∧
      tree.locate (temporaryName directory pattern number) = .ok (.missing parent name) ∧
      opened = (({ tree with temporaries := count } : Tree).put (childKey parent name) (.file .empty)).setMode
        (childKey parent name) (some temporaryMode) := by
  induction tries generalizing tree with
  | zero => cases made
  | succ tries ih =>
    unfold createNumbered at made
    dsimp only at made
    split at made
    · obtain ⟨count, number, parent, name, fileEq, located, openedEq⟩ := ih made
      exact ⟨count, number, parent, name, fileEq, by simpa using located, openedEq⟩
    · obtain ⟨parent, name, located, fileEq, openedEq⟩ := createFile_eq made
      exact ⟨tree.temporaries + 1, 1000 + tree.temporaries, parent, name, fileEq, by simpa using located, openedEq⟩

/-- The temporary file for a path is made empty beside it. -/
theorem createTemp_ok (path : String) {file : OpenFile} {opened : Tree}
    (made : tree.createTemp (dir path) (temporaryPattern path) = .ok (file, opened)) :
    '/' ∉ (base path).toList ∧
      ∃ number, file.name = temporaryName (dir path) (temporaryPattern path) number ∧
        HoldsTemporary tree opened file .empty temporaryMode := by
  unfold createTemp at made
  split at made
  · cases made
  · next clean =>
    have noSeparator : '/' ∉ (base path).toList := fun member =>
      clean (by simp [temporaryPattern, member])
    obtain ⟨count, number, parent, name, rfl, located, rfl⟩ := createNumbered_ok made
    refine ⟨noSeparator, number, rfl, ⟨⟨parent, name, located, rfl⟩, temporaryName_ends path number noSeparator,
      fun key => ?_, fun key => ?_⟩⟩
    · simp [find?_put]
    · rw [modeOf_setMode]
      by_cases same : key = childKey parent name
      · rw [if_pos same, if_pos same, find?_put, if_pos rfl]
        split <;> rfl
      · rw [if_neg same, if_neg same, modeOf_put_other _ same]
        rfl


theorem remove_of_absent (rooted : tree.Rooted) {path : String} (absent : tree.find? (keyOf path) = none) :
    tree.remove path = none := by
  unfold remove
  split
  · next key node located =>
    have keyed : key = keyOf path := locate_key located
    have held : tree.find? key = some node := locate_holds rooted located
    rw [keyed, absent] at held
    cases held
  · rfl

namespace HoldsTemporary

variable {current : Tree} {file : OpenFile} {data : ByteArray} {mode : Nat}

/-- Moving the temporary file into place leaves nothing for the deferred removal. -/
theorem moved (holds : HoldsTemporary tree current file data mode) (treeRooted : tree.Rooted) {path : String}
    (distinct : keyOf path ≠ file.key) {moved : Tree} (renamed : current.rename file.name path = .ok moved) :
    ((moved.remove file.name).getD moved).Rooted ∧ tree.find? (keyOf path) ≠ some .directory ∧
      ∀ key, ((moved.remove file.name).getD moved).find? key =
          (if key = keyOf path then some (.file data) else tree.find? key) ∧
        ((moved.remove file.name).getD moved).modeOf key = if key = keyOf path then some mode else tree.modeOf key := by
  have currentRooted := holds.rooted treeRooted
  have isFile : current.find? (keyOf file.name) = some (.file data) := by
    rw [← holds.keyed]
    exact holds.find_temporary
  obtain ⟨named, notDirectory, outcome⟩ := rename_cases currentRooted isFile renamed
  rcases outcome with ⟨same, -⟩ | ⟨-, movedEq, movedRooted⟩
  · exact absurd (same.trans holds.keyed.symm) distinct
  rw [← holds.keyed] at movedEq
  have gone : moved.remove file.name = none := by
    apply remove_of_absent movedRooted
    rw [← holds.keyed, movedEq, find?_move currentRooted holds.find_temporary named, if_neg (Ne.symm distinct),
      if_pos rfl]
  rw [gone, Option.getD_none]
  refine ⟨movedRooted, by rwa [← holds.find_other distinct], fun key => ⟨?_, ?_⟩⟩
  · rw [movedEq, find?_move currentRooted holds.find_temporary named]
    split
    · rfl
    · split
      · next here => rw [here, holds.absent]
      · next other => exact holds.find_other other
  · rw [movedEq, modeOf_move currentRooted holds.find_temporary named]
    split
    · rw [holds.modes, if_pos rfl]
    · split
      · next here =>
        rw [here, modeOf_eq, holds.absent]
        rfl
      · next other => rw [holds.modes, if_neg other]

end HoldsTemporary

theorem writeOpen_ok {file : OpenFile} {content : ByteArray} {after : Tree}
    (written : tree.writeOpen file content = .ok after) : after = tree.put file.key (.file content) := by
  unfold writeOpen at written
  split at written
  · cases written
  · exact (Except.ok.inj written).symm

theorem chmodOpen_ok {file : OpenFile} {mode : Nat} {after : Tree}
    (changed : tree.chmodOpen file mode = .ok after) : after = tree.setMode file.key (some mode) := by
  unfold chmodOpen at changed
  split at changed
  · cases changed
  · exact (Except.ok.inj changed).symm

end Tree

/-- The failures of an atomic write, one for each of its five steps. -/
inductive WriteStopped (path : String) : Failure → Prop
  | create (problem : SystemError) :
    WriteStopped path (.within ("failed to create temp file in " ++ dir path) (.system problem))
  | write (number : Nat) (problem : SystemError) :
    WriteStopped path
      (.within ("failed to write " ++ Tree.temporaryName (dir path) (temporaryPattern path) number) (.system problem))
  | chmod (number : Nat) (problem : SystemError) :
    WriteStopped path
      (.within ("failed to chmod " ++ Tree.temporaryName (dir path) (temporaryPattern path) number) (.system problem))
  | close (number : Nat) (problem : SystemError) :
    WriteStopped path
      (.within ("failed to close " ++ Tree.temporaryName (dir path) (temporaryPattern path) number) (.system problem))
  | move (problem : SystemError) :
    WriteStopped path (.within ("failed to move " ++ path ++ " into place") (.system problem))

namespace Tree

variable {tree : Tree}

/-- Each step after the temporary file is made may fail, leaving that file as it then was. -/
theorem placeTemporary_cases {file : OpenFile} {opened : Tree} (holds : HoldsTemporary tree opened file .empty temporaryMode)
    {path : String} {number : Nat} (named : file.name = temporaryName (dir path) (temporaryPattern path) number)
    (content : ByteArray) (perm : Nat) :
    (∃ failure current data mode, placeTemporary opened file path content perm = .error (failure, current) ∧
        HoldsTemporary tree current file data mode ∧ WriteStopped path failure) ∨
      ∃ current moved, placeTemporary opened file path content perm = .ok moved ∧
        HoldsTemporary tree current file content perm ∧ current.rename file.name path = .ok moved := by
  unfold placeTemporary
  cases wrote : opened.writeOpen file content with
  | error problem =>
    refine .inl ⟨_, opened, .empty, temporaryMode, rfl, holds, ?_⟩
    rw [named]
    exact .write number problem
  | ok written =>
    have filled : HoldsTemporary tree written file content temporaryMode := writeOpen_ok wrote ▸ holds.write content
    dsimp only
    cases changedResult : written.chmodOpen file perm with
    | error problem =>
      refine .inl ⟨_, written, content, temporaryMode, rfl, filled, ?_⟩
      rw [named]
      exact .chmod number problem
    | ok changed =>
      have modeSet : HoldsTemporary tree changed file content perm := chmodOpen_ok changedResult ▸ filled.chmod perm
      dsimp only
      cases closed : changed.closeOpen file with
      | error problem =>
        refine .inl ⟨_, changed, content, perm, rfl, modeSet, ?_⟩
        rw [named]
        exact .close number problem
      | ok _ =>
        dsimp only
        cases renamed : changed.rename file.name path with
        | error problem => exact .inl ⟨_, changed, content, perm, rfl, modeSet, .move problem⟩
        | ok moved => exact .inr ⟨changed, moved, rfl, modeSet, renamed⟩

end Tree

section

variable {tree : Tree}

/-- A successful atomic write changes only the path's entry, which was no directory. -/
theorem writeFileAtomic_ok (rooted : tree.Rooted) {path : String} {content : ByteArray} {perm : Nat} {after : Tree}
    (written : writeFileAtomic tree path content perm = .ok after) :
    after.Rooted ∧ tree.find? (keyOf path) ≠ some .directory ∧
      ∀ key, after.find? key = (if key = keyOf path then some (.file content) else tree.find? key) ∧
        after.modeOf key = if key = keyOf path then some perm else tree.modeOf key := by
  unfold writeFileAtomic at written
  cases made : tree.createTemp (dir path) (temporaryPattern path) with
  | error problem => simp [made] at written
  | ok created =>
    obtain ⟨file, opened⟩ := created
    obtain ⟨noSeparator, number, named, holds⟩ := Tree.createTemp_ok path made
    have distinct : keyOf path ≠ file.key := by
      rw [holds.keyed, named]
      exact keyOf_ne_temporary path number noSeparator
    simp only [made] at written
    rcases Tree.placeTemporary_cases holds named content perm with
      ⟨failure, current, data, mode, placed, -, -⟩ | ⟨current, moved, placed, filled, renamed⟩
    · rw [placed] at written
      cases written
    · rw [placed] at written
      cases written
      exact filled.moved rooted distinct renamed

/-- A failed atomic write names its step and leaves the tree it was given. -/
theorem writeFileAtomic_error (rooted : tree.Rooted) {path : String} {content : ByteArray} {perm : Nat}
    {failure : Failure} {left : Tree} (failed : writeFileAtomic tree path content perm = .error (failure, left)) :
    WriteStopped path failure ∧ ∀ key, left.find? key = tree.find? key ∧ left.modeOf key = tree.modeOf key := by
  unfold writeFileAtomic at failed
  cases made : tree.createTemp (dir path) (temporaryPattern path) with
  | error problem =>
    simp only [made, Except.error.injEq, Prod.mk.injEq] at failed
    obtain ⟨rfl, rfl⟩ := failed
    exact ⟨.create problem, fun _ => ⟨rfl, rfl⟩⟩
  | ok created =>
    obtain ⟨file, opened⟩ := created
    obtain ⟨-, number, named, holds⟩ := Tree.createTemp_ok path made
    simp only [made] at failed
    rcases Tree.placeTemporary_cases holds named content perm with
      ⟨stopped, current, data, mode, placed, filled, step⟩ | ⟨current, moved, placed, -, -⟩
    · rw [placed] at failed
      simp only [Except.error.injEq, Prod.mk.injEq] at failed
      obtain ⟨rfl, rfl⟩ := failed
      exact ⟨step, filled.removed rooted⟩
    · rw [placed] at failed
      cases failed

/-- An atomic write replaces the path's file with its mode, or fails and changes nothing. -/
theorem writeFileAtomic_all_or_nothing (rooted : tree.Rooted) (path : String) (content : ByteArray) (perm : Nat) :
    (∃ after, writeFileAtomic tree path content perm = .ok after ∧ after.Rooted ∧
        tree.find? (keyOf path) ≠ some .directory ∧
        ∀ key, after.find? key = (if key = keyOf path then some (.file content) else tree.find? key) ∧
          after.modeOf key = if key = keyOf path then some perm else tree.modeOf key) ∨
      ∃ failure left, writeFileAtomic tree path content perm = .error (failure, left) ∧ WriteStopped path failure ∧
        ∀ key, left.find? key = tree.find? key ∧ left.modeOf key = tree.modeOf key := by
  cases written : writeFileAtomic tree path content perm with
  | ok after => exact .inl ⟨after, rfl, writeFileAtomic_ok rooted written⟩
  | error stopped =>
    obtain ⟨failure, left⟩ := stopped
    exact .inr ⟨failure, left, rfl, writeFileAtomic_error rooted written⟩

end

/-- A device that refuses to change the mode of a file. -/
def refusingChmod : Tree := { refusals := [(.chmod, .ioFailure)] }

theorem rooted_refusingChmod : refusingChmod.Rooted := by
  intro key node named found
  simp [Tree.find?, named, refusingChmod] at found

theorem writeFileAtomic_all_or_nothing_refusingChmod :
    refusingChmod.Rooted ∧
      ((∃ after, writeFileAtomic refusingChmod "a.png" ByteArray.empty fileMode = .ok after ∧ after.Rooted ∧
          refusingChmod.find? (keyOf "a.png") ≠ some .directory ∧
          ∀ key, after.find? key =
              (if key = keyOf "a.png" then some (.file ByteArray.empty) else refusingChmod.find? key) ∧
            after.modeOf key = if key = keyOf "a.png" then some fileMode else refusingChmod.modeOf key) ∨
        ∃ failure left, writeFileAtomic refusingChmod "a.png" ByteArray.empty fileMode = .error (failure, left) ∧
          WriteStopped "a.png" failure ∧
          ∀ key, left.find? key = refusingChmod.find? key ∧ left.modeOf key = refusingChmod.modeOf key) :=
  ⟨rooted_refusingChmod, writeFileAtomic_all_or_nothing rooted_refusingChmod "a.png" ByteArray.empty fileMode⟩

/-- What a key holds after files are written in order. -/
def lastWritten {α : Type} (path : α → String) (content : α → ByteArray) (items : List α) (key : String)
    (before : Option Node) : Option Node :=
  items.foldl (fun held item => if keyOf (path item) = key then some (.file (content item)) else held) before

theorem lastWritten_of_not_mem {α : Type} {path : α → String} {content : α → ByteArray} {items : List α}
    {key : String} (untouched : ∀ item ∈ items, keyOf (path item) ≠ key) (before : Option Node) :
    lastWritten path content items key before = before := by
  induction items generalizing before with
  | nil => rfl
  | cons item rest ih =>
    simp only [lastWritten, List.foldl_cons, if_neg (untouched item List.mem_cons_self)]
    exact ih (fun other member => untouched other (List.mem_cons_of_mem _ member)) before

theorem lastWritten_of_mem {α : Type} {path : α → String} {content : α → ByteArray} {items : List α}
    {key : String} (touched : ∃ item ∈ items, keyOf (path item) = key) (first second : Option Node) :
    lastWritten path content items key first = lastWritten path content items key second := by
  induction items generalizing first second with
  | nil => simp at touched
  | cons item rest ih =>
    simp only [lastWritten, List.foldl_cons]
    by_cases here : keyOf (path item) = key
    · rw [if_pos here, if_pos here]
    · rw [if_neg here, if_neg here]
      obtain ⟨other, member, keyed⟩ := touched
      rcases List.mem_cons.mp member with rfl | later
      · exact absurd keyed here
      · exact ih ⟨other, later, keyed⟩ first second

/-- Writing the same files twice leaves what writing them once left. -/
theorem lastWritten_twice {α : Type} (path : α → String) (content : α → ByteArray) (items : List α) (key : String)
    (before : Option Node) :
    lastWritten path content items key (lastWritten path content items key before) =
      lastWritten path content items key before := by
  by_cases touched : ∃ item ∈ items, keyOf (path item) = key
  · exact lastWritten_of_mem touched _ _
  · have untouched : ∀ item ∈ items, keyOf (path item) ≠ key := fun item member same =>
      touched ⟨item, member, same⟩
    rw [lastWritten_of_not_mem untouched, lastWritten_of_not_mem untouched]

/-- A key that every write gives the same content ends with that content. -/
theorem lastWritten_of_all {α : Type} {path : α → String} {content : α → ByteArray} {items : List α}
    {key : String} {data : ByteArray} (touching : ∀ item ∈ items, keyOf (path item) = key → content item = data)
    (touched : ∃ item ∈ items, keyOf (path item) = key) (before : Option Node) :
    lastWritten path content items key before = some (.file data) := by
  induction items generalizing before with
  | nil => simp at touched
  | cons item rest ih =>
    have restTouching : ∀ other ∈ rest, keyOf (path other) = key → content other = data :=
      fun other member => touching other (List.mem_cons_of_mem _ member)
    simp only [lastWritten, List.foldl_cons]
    by_cases later : ∃ other ∈ rest, keyOf (path other) = key
    · exact ih restTouching later _
    · have here : keyOf (path item) = key := by
        obtain ⟨other, member, keyed⟩ := touched
        rcases List.mem_cons.mp member with rfl | inRest
        · exact keyed
        · exact absurd ⟨other, inRest, keyed⟩ later
      have untouched : ∀ other ∈ rest, keyOf (path other) ≠ key := fun other member same =>
        later ⟨other, member, same⟩
      rw [if_pos here, touching item List.mem_cons_self here]
      exact lastWritten_of_not_mem untouched _

namespace Tree

/-- Atomic writes in order keep every directory and leave each key its last write. -/
theorem foldlM_writeAtomic {α : Type} (path : α → String) (content : α → ByteArray) (items : List α) :
    ∀ {tree after : Tree}, tree.Rooted →
      items.foldlM (fun current item => Files.writeAtomic current (path item) (content item)) tree = .ok after →
      after.Rooted ∧ (∀ key, tree.find? key = some .directory → after.find? key = some .directory) ∧
        ∀ key, after.find? key = lastWritten path content items key (tree.find? key) := by
  induction items with
  | nil =>
    intro tree after rooted written
    simp only [List.foldlM_nil, pure, Except.pure, Except.ok.injEq] at written
    subst written
    exact ⟨rooted, fun _ kept => kept, fun _ => rfl⟩
  | cons item rest ih =>
    intro tree after rooted written
    simp only [List.foldlM_cons] at written
    cases once : Files.writeAtomic tree (path item) (content item) with
    | error failure => simp [once, bind, Except.bind] at written
    | ok next =>
      simp only [once, bind, Except.bind] at written
      obtain ⟨nextRooted, notDirectory, nextFind⟩ := writeFileAtomic_ok rooted once
      obtain ⟨afterRooted, keeps, afterFind⟩ := ih nextRooted written
      refine ⟨afterRooted, fun key isDirectory => keeps key ?_, fun key => ?_⟩
      · rw [(nextFind key).1]
        split
        · next same => exact absurd (same ▸ isDirectory) notDirectory
        · exact isDirectory
      · rw [afterFind, (nextFind key).1]
        simp only [lastWritten, List.foldl_cons]
        by_cases same : key = keyOf (path item)
        · rw [if_pos same, if_pos same.symm]
        · rw [if_neg same, if_neg (Ne.symm same)]

end Tree


end Alembic.Files
