import DevicetreeHeader.Proofs.Files.Writing

/-!
# Reading files

A path leads to a regular file if looking it up gives one (`isFile_iff`), and reading it gives the
text of this file (`read_eq_ok_iff`). What it leads to does not depend on other files: it stays the
same in a tree that keeps the directories (`KeepsDirectories`), unless it is itself what has been
changed (`KeepsDirectories.lookup_eq`). Only a path whose walk does not come to an end leads to
nothing for a reason that other files can change, since something on its way is missing or no
directory (`lookup_of_not_walks`).
-/

set_option autoImplicit false
set_option relaxedAutoImplicit false

namespace DevicetreeHeader.Files

namespace Disk

variable {disk : Disk} {path : Text}

theorem isFile_eq_true_iff :
    disk.isFile path = true ↔ ∃ content, disk.entry path = .ok (.file content) := by
  rw [isFile]
  split
  · rename_i content hentry
    simp [hentry]
  · rename_i hother
    simpa using hother

theorem read_eq_ok_iff_entry {source : Text} : disk.read path = .ok source ↔
    ∃ content chars, disk.entry path = .ok (.file content) ∧
      content.utf8Decode? = some chars ∧ chars.toList = source := by
  rw [read]
  cases disk.entry path with
  | error cause => simp
  | ok entry =>
    cases entry with
    | directory => simp
    | file content => cases hdecode : content.utf8Decode? <;> simp [hdecode]

end Disk

namespace Tree

/-! ### Regular files -/

/-- A path leads to a regular file. -/
def LeadsToFile (tree : Tree) (path : Text) : Prop :=
  ∃ location content, tree.lookup path = .ok (location, .file content)

theorem entry_disk (tree : Tree) (path : Text) :
    tree.disk.entry path = (tree.lookup path).map Prod.snd :=
  rfl

theorem entry_disk_eq_ok_iff {tree : Tree} {path : Text} {entry : Entry} :
    tree.disk.entry path = .ok entry ↔ ∃ location, tree.lookup path = .ok (location, entry) := by
  rw [entry_disk]
  cases tree.lookup path with
  | error cause => simp [Except.map]
  | ok found => simp [Except.map, Prod.ext_iff]

theorem isFile_iff {tree : Tree} {path : Text} :
    tree.disk.isFile path = true ↔ tree.LeadsToFile path := by
  simp only [Disk.isFile_eq_true_iff, entry_disk_eq_ok_iff]
  exact exists_comm

theorem isFile_eq_false_iff {tree : Tree} {path : Text} :
    tree.disk.isFile path = false ↔ ¬ tree.LeadsToFile path := by
  rw [← isFile_iff, Bool.not_eq_true]

theorem read_eq_ok_iff {tree : Tree} {path source : Text} : tree.disk.read path = .ok source ↔
    ∃ location content chars, tree.lookup path = .ok (location, .file content) ∧
      content.utf8Decode? = some chars ∧ chars.toList = source := by
  rw [Disk.read_eq_ok_iff_entry]
  simp only [entry_disk_eq_ok_iff]
  constructor
  · rintro ⟨content, chars, ⟨location, hlookup⟩, hdecode, hsource⟩
    exact ⟨location, content, chars, hlookup, hdecode, hsource⟩
  · rintro ⟨location, content, chars, hlookup, hdecode, hsource⟩
    exact ⟨content, chars, ⟨location, hlookup⟩, hdecode, hsource⟩

/-! ### Other files -/

/-- A later tree has the directories of a tree. -/
structure KeepsDirectories (tree later : Tree) : Prop where
  workingDirectory : later.workingDirectory = tree.workingDirectory
  directories : ∀ location, tree.entry? location = some .directory →
    later.entry? location = some .directory

/-- The walk along a path comes to an end at a location. -/
def Walks (tree : Tree) (path : Text) (location : Location) : Prop :=
  tree.resolve (tree.start path) (path.splitOn '/') = .ok location

variable {tree later : Tree} {path : Text} {location : Location}

theorem keepsDirectories_put {entry : Entry} (hlocation : tree.entry? location ≠ some .directory) :
    tree.KeepsDirectories (tree.put location entry) where
  workingDirectory := rfl
  directories := directory_put hlocation

/-- A file that is put where no directory stands brings no directory with it. -/
theorem keepsDirectories_of_put {content : ByteArray}
    (hlocation : tree.entry? location ≠ some .directory) :
    (tree.put location (.file content)).KeepsDirectories tree where
  workingDirectory := rfl
  directories other hother := by
    have hne : other ≠ location := by
      rintro rfl
      rw [entry?_put_self hlocation] at hother
      cases hother
    rwa [entry?_put_of_ne hne] at hother

theorem KeepsDirectories.walks (hkeeps : tree.KeepsDirectories later)
    (hwalk : tree.Walks path location) : later.Walks path location := by
  have hstart : later.start path = tree.start path := by
    rw [start, start, hkeeps.workingDirectory]
  rw [Walks, hstart]
  exact resolve_of_directories hkeeps.directories hwalk

/-- A path leads to the same if nothing has been changed where its walk ends. -/
theorem KeepsDirectories.lookup_eq (hkeeps : tree.KeepsDirectories later)
    (hwalk : tree.Walks path location) (hentry : later.entry? location = tree.entry? location) :
    later.lookup path = tree.lookup path := by
  have hlater : later.Walks path location := hkeeps.walks hwalk
  rw [Walks] at hwalk hlater
  rw [lookup, lookup, hwalk, hlater]
  simp only [hentry]

/-- A walk that does not come to an end meets nothing or a file on its way. -/
theorem resolve_eq_error {here : Location} {pieces : List Text} {cause : Cause}
    (hwalk : tree.resolve here pieces = .error cause) :
    cause ∈ [Cause.notFound, Cause.notDirectory] := by
  induction pieces generalizing here with
  | nil => cases hwalk
  | cons piece pieces ih =>
    rw [resolve] at hwalk
    split at hwalk
    · obtain rfl := Except.error.inj hwalk
      simp
    · obtain rfl := Except.error.inj hwalk
      simp
    · exact ih hwalk

theorem lookup_of_not_walks (hwalk : ∀ location, ¬ tree.Walks path location) :
    ∃ cause ∈ [Cause.notFound, Cause.notDirectory], tree.lookup path = .error cause := by
  cases hresolve : tree.resolve (tree.start path) (path.splitOn '/') with
  | ok location => exact absurd hresolve (hwalk location)
  | error cause =>
    rw [lookup]
    split
    · exact ⟨.notFound, by simp, rfl⟩
    · exact ⟨cause, resolve_eq_error hresolve, by rw [hresolve]⟩

end Tree

end DevicetreeHeader.Files
