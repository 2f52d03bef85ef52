import DevicetreeHeader.Files.Disk
import DevicetreeHeader.Files.Path

/-!
# Directory trees

A tree holds directories and files at locations, the lists of names on the way down from its root,
and has a working directory from which relative paths start. A path is walked piece by piece, and
every piece, silent ones included, has to start from a directory; two dots lead one level up.

`Tree.resolve` is the walk, `Tree.place` finds where a path would create a file, and `Tree.write`
puts a text there. `Tree.disk` is the tree as a program sees it.
-/

set_option autoImplicit false
set_option relaxedAutoImplicit false

namespace DevicetreeHeader.Files

/-- A place in a tree, by the names on the way down from the root. -/
abbrev Location := List Text

/-- Directories and files. -/
structure Tree where
  entries : List (Location × Entry) := []
  /-- The directory from which relative paths start. -/
  workingDirectory : Location := []

namespace Tree

variable (tree : Tree)

/-- What stands at a location. The working directory and those above it are always there. -/
def entry? (location : Location) : Option Entry :=
  if location.isPrefixOf tree.workingDirectory then some .directory
  else tree.entries.lookup location

/-- Where a piece of a path leads from a directory. -/
def step (location : Location) (piece : Text) : Location :=
  if Path.isSilent piece then location
  else if piece = ['.', '.'] then location.dropLast
  else location ++ [piece]

/-- Where pieces of a path lead from a location; nothing need stand at the end. -/
def resolve (location : Location) : List Text → Except Cause Location
  | [] => .ok location
  | piece :: rest =>
    match tree.entry? location with
    | none => .error .notFound
    | some (.file _) => .error .notDirectory
    | some .directory => resolve (step location piece) rest

/-- The location from which a path starts. -/
def start (path : Text) : Location :=
  if path.head? = some '/' then [] else tree.workingDirectory

/-- The location of what stands at a path, with what stands there. -/
def lookup (path : Text) : Except Cause (Location × Entry) :=
  if path = [] then .error .notFound
  else
    match tree.resolve (tree.start path) (path.splitOn '/') with
    | .error cause => .error cause
    | .ok location =>
      match tree.entry? location with
      | none => .error .notFound
      | some entry => .ok (location, entry)

/-- The location at which a path creates or overwrites a file. Its last component has to be a name
with no slash after it, in a directory that is there, and no directory may have it. -/
def place (path : Text) : Except Cause Location :=
  if path = [] then .error .notFound
  else
    let pieces := path.splitOn '/'
    let spoken := (pieces.reverse.dropWhile List.isEmpty).reverse
    match spoken.getLast? with
    | none => .error .isDirectory
    | some last =>
      match tree.resolve (tree.start path) spoken.dropLast with
      | .error cause => .error cause
      | .ok parent =>
        match tree.entry? parent with
        | none => .error .notFound
        | some (.file _) => .error .notDirectory
        | some .directory =>
          if spoken.length < pieces.length ∨ last = ['.'] ∨ last = ['.', '.'] then
            .error .isDirectory
          else
            match tree.entry? (parent ++ [last]) with
            | some .directory => .error .isDirectory
            | _ => .ok (parent ++ [last])

/-- The tree as seen through paths. -/
def disk : Disk where
  entry path := (tree.lookup path).map Prod.snd
  creation path := (tree.place path).map fun _ ↦ ()

/-- The tree with an entry at a location. -/
def put (location : Location) (entry : Entry) : Tree where
  entries := (location, entry) :: tree.entries.filter fun old ↦ old.1 ≠ location
  workingDirectory := tree.workingDirectory

/-- The tree with a text at a path; unchanged if no file can be created there. -/
def write (path content : Text) : Tree :=
  match tree.place path with
  | .ok location => tree.put location (.file (String.ofList content).toUTF8)
  | .error _ => tree

/-- The location of a path that starts from the working directory and has no dots in it. -/
def below (path : Text) : Location :=
  tree.workingDirectory ++ (path.splitOn '/').filter fun piece ↦ !Path.isSilent piece

/-- The tree with a directory and the directories above it. -/
def addDirectory (location : Location) : Tree :=
  (List.range location.length).foldl
    (fun grown depth ↦ grown.put (location.take (depth + 1)) .directory) tree

/-- The tree with a file and the directories above it. -/
def addFile (location : Location) (content : ByteArray) : Tree :=
  (tree.addDirectory location.dropLast).put location (.file content)

/-- The files that a later tree has at locations where this one does not have the same. -/
def changedFiles (later : Tree) : List (Location × ByteArray) :=
  later.entries.filterMap fun entry ↦
    match entry.2 with
    | .file content => if tree.entry? entry.1 = some (.file content) then none
        else some (entry.1, content)
    | .directory => none

end Tree

end DevicetreeHeader.Files
