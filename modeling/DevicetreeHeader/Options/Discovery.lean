import DevicetreeHeader.Files.Disk
import DevicetreeHeader.Files.Search
import DevicetreeHeader.Options.ConfigFile

/-!
# Finding the configuration file

The configuration file of an input is the first regular file of its name in the directory of the
input or an ancestor of that directory. It is found by its path, loaded, and has to be sound: a
broken file is an error, and the search does not go on behind it.
-/

set_option autoImplicit false
set_option relaxedAutoImplicit false

namespace DevicetreeHeader

open Files (Disk FileFailure)

/-- Why a configuration file cannot be loaded. -/
inductive ConfigFailure
  | unreadable (failure : FileFailure)
  /-- The file is no TOML document, or an option in it is no string. What the reader of TOML says of
  it is given where the failure is told. -/
  | malformed
  deriving DecidableEq, Repr

namespace ConfigFailure

/-- What went wrong, the outermost cause first. What stands below a file that is malformed are the
words of the reader of TOML, its message and those of the causes below it, as they are given. -/
def chain (failure : ConfigFailure) (refusal : List Text := []) : List Text :=
  match failure with
  | unreadable failure => ["Failed to read config".toList, failure.message]
  | malformed => "Failed to deserialize config".toList :: refusal

end ConfigFailure

namespace Layer

/-- The name of a configuration file. -/
def fileName : Text :=
  ".dt-header.toml".toList

/-- Loads a configuration file. -/
def load (disk : Disk) (path : Text) : Except ConfigFailure Layer :=
  match disk.read path with
  | .error failure => .error (.unreadable failure)
  | .ok text =>
    match ofToml? text with
    | some layer => .ok layer
    | none => .error .malformed

/-- The path of the configuration file that applies to a directory. -/
def find? (disk : Disk) (start : Text) : Option Text :=
  (Files.search start fileName disk.isFile).found.map Files.Candidate.path

/-- The directory of an input: its parent, or a dot if it has none or an empty one. -/
def directoryOf (input : Text) : Text :=
  match Files.Path.parent? input with
  | none | some [] => ['.']
  | some parent => parent

/-- Loads the configuration file that applies to an input, if there is one. -/
def discover (disk : Disk) (input : Text) : Except ConfigFailure (Option Layer) :=
  match find? disk (directoryOf input) with
  | none => .ok none
  | some path => (load disk path).map some

end Layer

end DevicetreeHeader
