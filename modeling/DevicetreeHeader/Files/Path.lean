import DevicetreeHeader.Text.Basic

/-!
# Paths

A path is a text whose pieces are separated by slashes. Empty pieces and dots are silent: they name
nothing, except that a dot at the very start of a relative path is a component. Two paths agree if
their components do.

The parent of a path keeps the spelling of what it keeps: it drops the last component and the silent
pieces on either side of it. `ancestors` goes on to the root, or to the empty path if the path is
relative.
-/

set_option autoImplicit false
set_option relaxedAutoImplicit false

namespace DevicetreeHeader.Files

/-- What a piece of a path stands for. -/
inductive Component
  /-- The slash at the start of an absolute path. -/
  | root
  /-- A dot at the start of a relative path. -/
  | here
  /-- Two dots. -/
  | up
  /-- Any other piece. -/
  | name (text : Text)
  deriving DecidableEq, Repr

namespace Path

/-- Whether a piece names nothing: it is empty or a dot. -/
def isSilent (piece : Text) : Bool :=
  piece == [] || piece == ['.']

/-- The component of a piece that is not silent. -/
def component (piece : Text) : Component :=
  if piece = ['.', '.'] then .up else .name piece

/-- The components of pieces behind the start of a path. -/
def named (pieces : List Text) : List Component :=
  (pieces.filter fun piece ↦ !isSilent piece).map component

/-- The components of a path. -/
def components : Text → List Component
  | '/' :: rest => .root :: named (rest.splitOn '/')
  | path =>
    match path.splitOn '/' with
    | ['.'] :: rest => .here :: named rest
    | pieces => named pieces

/-- The pieces without the silent ones at their end. -/
def dropSilent (pieces : List Text) : List Text :=
  (pieces.reverse.dropWhile isSilent).reverse

/-- The pieces without the last component and the silent ones around it, if there is one. -/
def cut? (pieces : List Text) : Option (List Text) :=
  match dropSilent pieces with
  | [] => none
  | first :: rest => some (dropSilent (first :: rest).dropLast)

/-- The path with given pieces. -/
def ofPieces (pieces : List Text) : Text :=
  ['/'].intercalate pieces

/-- The path without its last component; the root and the empty path have no parent. -/
def parent? : Text → Option Text
  | '/' :: rest => (cut? (rest.splitOn '/')).map fun pieces ↦ '/' :: ofPieces pieces
  | path =>
    match path.splitOn '/' with
    | ['.'] :: rest =>
      match cut? rest with
      | some pieces => some (ofPieces (['.'] :: pieces))
      | none => some []
    | pieces => (cut? pieces).map ofPieces

/-- A path, its parent, the parent of that and so on. -/
def ancestors (path : Text) : List Text :=
  path :: match parent? path with
    | some parent => if parent.length < path.length then ancestors parent else []
    | none => []
termination_by path.length

/-- The path of a file named from a directory. An absolute name stands for itself; otherwise a slash
separates the two unless the directory ends in one or is empty. -/
def join (directory name : Text) : Text :=
  if name.head? = some '/' then name
  else if directory = [] ∨ directory.getLast? = some '/' then directory ++ name
  else directory ++ '/' :: name

end Path

end DevicetreeHeader.Files
