import DevicetreeHeader.Text.Basic

/-!
# Disks

A disk is what a program can ask of a file system by paths: what stands at a path, and whether a
file can be created or overwritten there. Reading a file fails if nothing or a directory stands at
the path, or if the file is not valid UTF-8.
-/

set_option autoImplicit false
set_option relaxedAutoImplicit false

namespace DevicetreeHeader.Files

/-- Why something cannot be done with a file. -/
inductive Cause
  /-- Nothing stands at the path, or a directory on the way is missing. -/
  | notFound
  /-- Something on the way is no directory. -/
  | notDirectory
  /-- The path names a directory. -/
  | isDirectory
  /-- The content is no text. -/
  | notUtf8
  /-- Anything else, in the words of the system. -/
  | other (wording : Text)
  deriving DecidableEq, Repr

/-- The wording of a cause. -/
def Cause.message : Cause → Text
  | notFound => "No such file or directory (os error 2)".toList
  | notDirectory => "Not a directory (os error 20)".toList
  | isDirectory => "Is a directory (os error 21)".toList
  | notUtf8 => "stream did not contain valid UTF-8".toList
  | other wording => wording

/-- What was to be done with a file. -/
inductive Action
  | opening
  | reading
  | creating
  deriving DecidableEq, Repr

/-- The wording of an action that failed. -/
def Action.message : Action → Text
  | opening => "failed to open file".toList
  | reading => "failed to read from file".toList
  | creating => "failed to create file".toList

/-- An action that failed, with the path as it was given. -/
structure FileFailure where
  action : Action
  path : Text
  cause : Cause
  deriving DecidableEq, Repr

/-- The wording of a failure. -/
def FileFailure.message (failure : FileFailure) : Text :=
  failure.action.message ++ " `".toList ++ failure.path ++ "`: ".toList ++ failure.cause.message

/-- What stands at a place. -/
inductive Entry
  | directory
  | file (content : ByteArray)

instance : DecidableEq Entry
  | .directory, .directory => isTrue rfl
  | .directory, .file _ => isFalse nofun
  | .file _, .directory => isFalse nofun
  | .file first, .file second =>
    if h : first.data = second.data then isTrue (congrArg Entry.file (ByteArray.ext h))
    else isFalse fun heq ↦ h (congrArg ByteArray.data (Entry.file.inj heq))

/-- A file system as seen through paths. -/
structure Disk where
  /-- What stands at a path, or why nothing can be opened there. -/
  entry : Text → Except Cause Entry
  /-- Whether a file can be created or overwritten at a path. -/
  creation : Text → Except Cause Unit

namespace Disk

/-- The disk on which only the observed paths lead to something, and every file can be created or
none. -/
def ofObserved (observed : List (Text × Except Cause Entry)) (creation : Except Cause Unit) :
    Disk where
  entry path := (observed.lookup path).getD (.error .notFound)
  creation _ := creation

variable (disk : Disk)

/-- Whether a path leads to a regular file. -/
def isFile (path : Text) : Bool :=
  match disk.entry path with
  | .ok (.file _) => true
  | _ => false

/-- The text of a file. -/
def read (path : Text) : Except FileFailure Text :=
  match disk.entry path with
  | .error cause => .error ⟨.opening, path, cause⟩
  | .ok .directory => .error ⟨.reading, path, .isDirectory⟩
  | .ok (.file content) =>
    match content.utf8Decode? with
    | some chars => .ok chars.toList
    | none => .error ⟨.reading, path, .notUtf8⟩

end Disk

end DevicetreeHeader.Files
