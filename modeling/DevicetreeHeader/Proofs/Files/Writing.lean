import DevicetreeHeader.Files.Tree

/-!
# Writing a file

Writing to a path at which a file can be created changes what stands at one location, the place of
the path (`entry?_put_self`, `entry?_put_of_ne`). The place holds no directory, neither before nor
after, so that every walk over directories ends where it ended before (`resolve_put`), and the path
leads to the file that has been written (`lookup_put_place`). `Rewritten` sums up how the tree then
differs from what it was.
-/

set_option autoImplicit false
set_option relaxedAutoImplicit false

namespace DevicetreeHeader.Files.Tree

variable {tree : Tree} {location : Location} {entry : Entry}

/-! ### One location -/

theorem entry?_put_self (hlocation : tree.entry? location ≠ some .directory) :
    Tree.entry? (tree.put location entry) location = some entry := by
  have habove : ¬ location.isPrefixOf tree.workingDirectory = true := by
    intro habove
    exact hlocation (by rw [ entry?, if_pos habove])
  have hworking : (tree.put location entry).workingDirectory = tree.workingDirectory := rfl
  rw [ entry?, hworking, if_neg habove, put, List.lookup_cons_self]

theorem lookup_filter_of_ne {entries : List (Location × Entry)} {other : Location}
    (hother : other ≠ location) :
    (entries.filter fun old ↦ old.1 ≠ location).lookup other = entries.lookup other := by
  induction entries with
  | nil => rfl
  | cons old entries ih =>
    by_cases hold : old.1 = location
    · have hskip : (other == old.1) = false := by rw [hold, beq_eq_false_iff_ne]; exact hother
      rw [List.filter_cons_of_neg (by simp [hold]), ih, List.lookup_cons, hskip]
    · rw [List.filter_cons_of_pos (by simp [hold]), List.lookup_cons, List.lookup_cons, ih]

theorem entry?_put_of_ne {other : Location} (hother : other ≠ location) :
    Tree.entry? (tree.put location entry) other = tree.entry? other := by
  have hskip : (other == location) = false := by rwa [beq_eq_false_iff_ne]
  rw [ entry?, entry?, put]
  simp only [List.lookup_cons, hskip, lookup_filter_of_ne hother]

/-! ### Walks -/

theorem resolve_append (here : Location) (first last : List Text) :
    tree.resolve here (first ++ last) =
      (tree.resolve here first).bind fun there ↦ tree.resolve there last := by
  induction first generalizing here with
  | nil => rfl
  | cons piece first ih =>
    rw [List.cons_append, resolve, resolve]
    cases tree.entry? here with
    | none => rfl
    | some found =>
      cases found with
      | file content => rfl
      | directory => exact ih (step here piece)

/-- A walk starts every step from a directory, so that it is the same in a tree that has the
directories of this one. -/
theorem resolve_of_directories {later : Tree}
    (hdirectories : ∀ location, tree.entry? location = some .directory →
      later.entry? location = some .directory)
    {here there : Location} {pieces : List Text} (hwalk : tree.resolve here pieces = .ok there) :
    later.resolve here pieces = .ok there := by
  induction pieces generalizing here with
  | nil => exact hwalk
  | cons piece pieces ih =>
    rw [resolve] at hwalk ⊢
    split at hwalk
    · cases hwalk
    · cases hwalk
    · rename_i hdirectory
      rw [hdirectories here hdirectory]
      exact ih hwalk

/-- An entry that is put at a place without a directory takes no directory away. -/
theorem directory_put (hlocation : tree.entry? location ≠ some .directory) (other : Location)
    (hother : tree.entry? other = some .directory) :
    Tree.entry? (tree.put location entry) other = some .directory := by
  have hne : other ≠ location := by
    rintro rfl
    exact hlocation hother
  rw [entry?_put_of_ne hne, hother]

theorem resolve_put (hlocation : tree.entry? location ≠ some .directory) {here there : Location}
    {pieces : List Text} (hwalk : tree.resolve here pieces = .ok there) :
    (tree.put location entry).resolve here pieces = .ok there :=
  resolve_of_directories (directory_put hlocation) hwalk

/-! ### The place of a path -/

/-- A place is named in a directory by the last piece of the path, and no directory is there. -/
structure IsPlace (tree : Tree) (path : Text) (location : Location) : Prop where
  path_ne_nil : path ≠ []
  /-- The walk to the directory, and the name in it. -/
  walk : ∃ front name parent, path.splitOn '/' = front ++ [name] ∧
    tree.resolve (tree.start path) front = .ok parent ∧ tree.entry? parent = some .directory ∧
    Path.isSilent name = false ∧ name ≠ ['.', '.'] ∧ location = parent ++ [name]
  no_directory : tree.entry? location ≠ some .directory

/-- The last piece that is not empty is the last of all if no pieces have been dropped behind it. -/
theorem eq_of_length_dropEmpty {pieces : List Text} {last : Text}
    (hlast : (pieces.reverse.dropWhile List.isEmpty).reverse.getLast? = some last)
    (hlength : ¬ (pieces.reverse.dropWhile List.isEmpty).reverse.length < pieces.length) :
    (pieces.reverse.dropWhile List.isEmpty).reverse = pieces ∧ last ≠ [] := by
  constructor
  · have hstarts : (pieces.reverse.dropWhile List.isEmpty).reverse <+: pieces := by
      rw [← List.reverse_suffix, List.reverse_reverse]
      exact List.dropWhile_suffix _
    exact hstarts.eq_of_length_le (Nat.not_lt.mp hlength)
  · rintro rfl
    rw [List.getLast?_reverse] at hlast
    have hnot := List.head?_dropWhile_not List.isEmpty pieces.reverse
    rw [hlast] at hnot
    exact absurd hnot (by decide)

theorem isPlace_of_place {path : Text} (hplace : tree.place path = .ok location) :
    IsPlace tree path location := by
  rw [place] at hplace
  split at hplace
  · cases hplace
  rename_i hpath
  dsimp only at hplace
  split at hplace
  · cases hplace
  rename_i last hlast
  split at hplace
  · cases hplace
  rename_i parent hwalk
  split at hplace
  · cases hplace
  · cases hplace
  rename_i hparent
  split at hplace
  · cases hplace
  rename_i hname
  rw [not_or, not_or] at hname
  obtain ⟨hpieces, hempty⟩ := eq_of_length_dropEmpty hlast hname.1
  split at hplace
  · cases hplace
  rename_i hdirectory
  obtain rfl := Except.ok.inj hplace
  obtain ⟨front, hfront⟩ := List.getLast?_eq_some_iff.mp hlast
  rw [hfront, List.dropLast_concat] at hwalk
  have hsilent : Path.isSilent last = false := by simp [Path.isSilent, hempty, hname.2.1]
  exact ⟨hpath, ⟨front, last, parent, hpieces ▸ hfront, hwalk, hparent, hsilent, hname.2.2, rfl⟩,
    hdirectory⟩

/-! ### After writing -/

/-- The path leads to the entry that has been put at its place. -/
theorem lookup_put_of_isPlace {path : Text} (hplace : IsPlace tree path location) :
    (tree.put location entry).lookup path = .ok (location, entry) := by
  obtain ⟨front, name, parent, hpieces, hwalk, hparent, hsilent, hup, hname⟩ := hplace.walk
  have hstart : (tree.put location entry).start path = tree.start path := rfl
  have hend : (tree.put location entry).resolve (tree.start path) (path.splitOn '/') =
      .ok location := by
    have hother : parent ≠ location := by
      rintro rfl
      exact hplace.no_directory hparent
    rw [hpieces, resolve_append, resolve_put hplace.no_directory hwalk]
    show (tree.put location entry).resolve parent [name] = .ok location
    rw [resolve, entry?_put_of_ne hother, hparent, hname]
    simp [resolve, step, hsilent, hup]
  rw [lookup, if_neg hplace.path_ne_nil, hstart, hend]
  simp only [entry?_put_self hplace.no_directory]

/-- The later tree differs from the tree in the file at one location: the path leads there, and
reading it gives the content. -/
structure Rewritten (tree later : Tree) (path content : Text) (location : Location) : Prop where
  place : tree.place path = .ok location
  lookup : later.lookup path = .ok (location, .file (String.ofList content).toUTF8)
  read : later.disk.read path = .ok content
  others : ∀ other, other ≠ location → later.entry? other = tree.entry? other
  workingDirectory : later.workingDirectory = tree.workingDirectory

/-- What has been encoded is decoded again. -/
theorem read_of_lookup {path content : Text}
    (hlookup : tree.lookup path = .ok (location, .file (String.ofList content).toUTF8)) :
    tree.disk.read path = .ok content := by
  have hentry : tree.disk.entry path = .ok (.file (String.ofList content).toUTF8) := by
    show (tree.lookup path).map Prod.snd = _
    rw [hlookup]
    rfl
  have hdecode : (String.ofList content).toUTF8.utf8Decode? = some content.toArray :=
    List.utf8Decode?_utf8Encode
  rw [Disk.read, hentry]
  simp only [hdecode]

theorem rewritten_write {path : Text} (hplace : tree.place path = .ok location) (content : Text) :
    Rewritten tree (tree.write path content) path content location := by
  have hwrite : tree.write path content =
      tree.put location (.file (String.ofList content).toUTF8) := by
    rw [write, hplace]
  have hlookup : (tree.put location (.file (String.ofList content).toUTF8)).lookup path =
      .ok (location, .file (String.ofList content).toUTF8) :=
    lookup_put_of_isPlace (isPlace_of_place hplace)
  rw [hwrite]
  exact ⟨hplace, hlookup, read_of_lookup hlookup, fun other hother ↦ entry?_put_of_ne hother, rfl⟩

end DevicetreeHeader.Files.Tree
