import Alembic.Proofs.Probes
import Alembic.Image.Batch
/-! # Finding files by extension -/

namespace Alembic.Files

/-- What a directory listing holds on a file system: every name is one plain path element, and no
two entries share a name. -/
structure ProperListing (listing : List (String × Node)) : Prop where
  plain : ∀ entry ∈ listing, Path.Plain entry.1
  distinct : (listing.map Prod.fst).Nodup

instance : DecidablePred Path.Plain := fun _ => inferInstanceAs (Decidable (_ ∧ _ ∧ _ ∧ _))

instance (listing : List (String × Node)) : Decidable (ProperListing listing) :=
  decidable_of_iff ((∀ entry ∈ listing, Path.Plain entry.1) ∧ (listing.map Prod.fst).Nodup)
    ⟨fun ⟨plain, distinct⟩ => ⟨plain, distinct⟩, fun proper => ⟨proper.plain, proper.distinct⟩⟩

/-- Whether a directory entry is a regular file with one of the extensions. -/
def picks (extensions : List String) (entry : String × Node) : Bool :=
  !entry.2.isDirectory && hasExtension extensions entry.1

theorem hasExtension_iff (extensions : List String) (name : String) :
    hasExtension extensions name = true ↔
      ∃ extension ∈ extensions, (Text.lowerText extension).toList <:+ (Text.lowerText name).toList := by
  simp [hasExtension, Path.endsWith_iff_suffix]

/-- The files found are the picked entries' paths, sorted. -/
theorem findFiles_eq {extensions : List String} (named : extensions ≠ []) (tree : Tree) (directory : String) :
    findFiles tree directory extensions =
      some ((tree.readDir directory).map fun listing =>
        ((listing.filter (picks extensions)).map fun entry => Path.join [directory, entry.1]).mergeSort
          fun a b => decide (a ≤ b)) := by
  unfold findFiles
  rw [if_neg (by simpa using named)]
  congr 2
  funext listing
  dsimp only
  congr 1
  induction listing with
  | nil => rfl
  | cons entry rest ih =>
    obtain ⟨name, node⟩ := entry
    cases node <;> by_cases matching : hasExtension extensions name <;>
      simp [picks, Node.isDirectory, matching, ih]

/-- Paths joined to one directory from distinct plain names are distinct. -/
theorem nodup_join_names (directory : String) {listing : List (String × Node)} (proper : ProperListing listing)
    (extensions : List String) :
    ((listing.filter (picks extensions)).map fun entry => Path.join [directory, entry.1]).Nodup := by
  have distinctEntries : listing.Nodup := List.Nodup.of_map Prod.fst proper.distinct
  refine (distinctEntries.filter _).map_on fun first firstMember second secondMember same => ?_
  have firstListed := (List.mem_filter.mp firstMember).1
  have secondListed := (List.mem_filter.mp secondMember).1
  -- the last element of a joined path is the name, so equal paths come from one name
  have sameName : first.1 = second.1 := by
    rw [← Path.base_join_plain directory (proper.plain first firstListed),
      ← Path.base_join_plain directory (proper.plain second secondListed), same]
  exact List.inj_on_of_nodup_map proper.distinct firstListed secondListed sameName

/-- A path is found exactly when it joins the name of a regular file with one of the extensions. -/
theorem mem_found_iff {directory : String} {listing : List (String × Node)} {extensions : List String}
    (path : String) :
    path ∈ (listing.filter (picks extensions)).map (fun entry => Path.join [directory, entry.1]) ↔
      ∃ name content, (name, Node.file content) ∈ listing ∧
        (∃ extension ∈ extensions, (Text.lowerText extension).toList <:+ (Text.lowerText name).toList) ∧
        path = Path.join [directory, name] := by
  simp only [List.mem_map, List.mem_filter, ← hasExtension_iff]
  constructor
  · rintro ⟨⟨name, node⟩, ⟨listed, chosen⟩, rfl⟩
    cases node with
    | directory => simp [picks, Node.isDirectory] at chosen
    | file content => exact ⟨name, content, listed, by simpa [picks, Node.isDirectory] using chosen, rfl⟩
  · rintro ⟨name, content, listed, matching, rfl⟩
    exact ⟨(name, .file content), ⟨listed, by simp [picks, Node.isDirectory, matching]⟩, rfl⟩

/-- A listing is sorted by path. -/
theorem findFiles_sorted {tree : Tree} {directory : String} {extensions files : List String}
    (listed : findFiles tree directory extensions = some (.ok files)) : files.Pairwise (· ≤ ·) := by
  unfold findFiles at listed
  split_ifs at listed
  cases read : tree.readDir directory with
  | error problem => simp [read, Except.map] at listed
  | ok entries =>
    simp only [read, Except.map, Option.some.injEq, Except.ok.injEq] at listed
    rw [← listed]
    have sorted := @List.pairwise_mergeSort String (fun a b => decide (a ≤ b))
      (fun _ _ _ first second => by simpa using le_trans (of_decide_eq_true first) (of_decide_eq_true second))
      (fun a b => by simpa using le_total a b)
    exact (sorted _).imp (fun ordered => by simpa using ordered)

/-- Where the file system lists each name once, the paths found rise strictly. -/
theorem findFiles_rising {tree : Tree} {directory : String} {extensions files : List String}
    (proper : ∀ listing, tree.readDir directory = .ok listing → ProperListing listing)
    (found : findFiles tree directory extensions = some (.ok files)) : files.Pairwise (· < ·) := by
  have named : extensions ≠ [] := by
    rintro rfl
    simp [findFiles] at found
  have sorted := findFiles_sorted found
  rw [findFiles_eq named] at found
  cases listed : tree.readDir directory with
  | error problem => simp [listed, Except.map] at found
  | ok listing =>
    simp only [listed, Except.map, Option.some.injEq, Except.ok.injEq] at found
    have distinct : files.Nodup := by
      rw [← found]
      exact (List.mergeSort_perm _ _).nodup_iff.mpr (nodup_join_names directory (proper listing listed) extensions)
    exact (sorted.and distinct).imp fun ⟨ordered, apart⟩ => lt_of_le_of_ne ordered apart

/-- Listing a directory by extension gives the directory's matching regular files, rising
strictly, and no directory. -/
theorem findFiles_listing {tree : Tree} {directory : String} {extensions : List String}
    {listing : List (String × Node)} (named : extensions ≠ []) (listed : tree.readDir directory = .ok listing)
    (proper : ProperListing listing) :
    ∃ files, findFiles tree directory extensions = some (.ok files) ∧
      files.Pairwise (· < ·) ∧
      (∀ path, path ∈ files ↔
        ∃ name content, (name, Node.file content) ∈ listing ∧
          (∃ extension ∈ extensions, (Text.lowerText extension).toList <:+ (Text.lowerText name).toList) ∧
          path = Path.join [directory, name]) ∧
      ∀ name, (name, Node.directory) ∈ listing → Path.join [directory, name] ∉ files := by
  have found := findFiles_eq named tree directory
  rw [listed] at found
  simp only [Except.map] at found
  refine ⟨_, found, ?_, fun path => ?_, fun name isDirectory member => ?_⟩
  · exact findFiles_rising (fun other read => (Except.ok.inj (read.symm.trans listed)) ▸ proper) found
  · rw [List.mem_mergeSort, mem_found_iff]
  · rw [List.mem_mergeSort, mem_found_iff] at member
    obtain ⟨other, content, fileListed, -, same⟩ := member
    -- the directory and the file would share a name, so they would be one entry
    have sameName : name = other := by
      have namePlain : Path.Plain name := proper.plain _ isDirectory
      have otherPlain : Path.Plain other := proper.plain _ fileListed
      rw [← Path.base_join_plain directory namePlain, ← Path.base_join_plain directory otherPlain, same]
    subst sameName
    have oneEntry := List.inj_on_of_nodup_map proper.distinct isDirectory fileListed rfl
    simp at oneEntry

/-- A listing in another order is as proper. -/
theorem ProperListing.perm {listing other : List (String × Node)} (proper : ProperListing listing)
    (reordered : listing.Perm other) : ProperListing other where
  plain entry member := proper.plain entry (reordered.mem_iff.mpr member)
  distinct := (reordered.map Prod.fst).nodup_iff.mp proper.distinct

deriving instance DecidableEq for Place

/-- A directory laid out as the finder's own test has it: JPEG files under three spellings of the
extension, a PNG file, a text file, and a directory named like a JPEG file. -/
def picturesTree : Tree :=
  { entries := [("pictures", .directory), ("pictures/b.jpg", .file .empty), ("pictures/a.JPG", .file .empty),
      ("pictures/c.jpeg", .file .empty), ("pictures/d.png", .file .empty), ("pictures/notes.txt", .file .empty),
      ("pictures/nested.jpg", .directory)] }

theorem readDir_pictures : picturesTree.readDir "pictures" = .ok (picturesTree.children "pictures") := by
  have located : picturesTree.locate "pictures" = .ok (.found "pictures" .directory) := by decide +kernel
  rw [Tree.readDir, located]

/-- The listing is the entries under the directory, sorted; the sort only reorders them. -/
theorem properListing_pictures : ProperListing (picturesTree.children "pictures") := by
  unfold Tree.children
  exact ProperListing.perm (by decide +kernel) (List.mergeSort_perm _ _).symm

theorem findFiles_listing_pictures :
    Image.jpegExtensions ≠ [] ∧ picturesTree.readDir "pictures" = .ok (picturesTree.children "pictures") ∧
      ProperListing (picturesTree.children "pictures") ∧
      ∃ files, findFiles picturesTree "pictures" Image.jpegExtensions = some (.ok files) ∧
        files.Pairwise (· < ·) ∧
        (∀ path, path ∈ files ↔
          ∃ name content, (name, Node.file content) ∈ picturesTree.children "pictures" ∧
            (∃ extension ∈ Image.jpegExtensions,
              (Text.lowerText extension).toList <:+ (Text.lowerText name).toList) ∧
            path = Path.join ["pictures", name]) ∧
        ∀ name, (name, Node.directory) ∈ picturesTree.children "pictures" →
          Path.join ["pictures", name] ∉ files := by
  have named : Image.jpegExtensions ≠ [] := by decide
  exact ⟨named, readDir_pictures, properListing_pictures,
    findFiles_listing named readDir_pictures properListing_pictures⟩

end Alembic.Files
