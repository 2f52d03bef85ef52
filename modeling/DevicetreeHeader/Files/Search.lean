import DevicetreeHeader.Files.Path

/-!
# Searching upward

A file is looked for in a directory and then in each of its ancestors, by the paths that join them
with the name of the file. The search ends with the first path that is accepted.
-/

set_option autoImplicit false
set_option relaxedAutoImplicit false

namespace DevicetreeHeader.Files

/-- A directory and the path of a file in it. -/
structure Candidate where
  directory : Text
  path : Text
  deriving DecidableEq, Repr

/-- The places where a file may be, the nearest first. -/
def candidates (start name : Text) : List Candidate :=
  (Path.ancestors start).map fun directory ↦ ⟨directory, Path.join directory name⟩

/-- What a search has tried and what it has found. -/
structure Search where
  /-- The paths tried, in order. -/
  probed : List Text
  found : Option Candidate
  deriving DecidableEq, Repr

/-- Tries candidates in order up to the first that is accepted. -/
def probe (accept : Text → Bool) : List Candidate → Search
  | [] => ⟨[], none⟩
  | candidate :: rest =>
    if accept candidate.path then ⟨[candidate.path], some candidate⟩
    else
      let later := probe accept rest
      ⟨candidate.path :: later.probed, later.found⟩

/-- Looks for a file from a directory upward. -/
def search (start name : Text) (accept : Text → Bool) : Search :=
  probe accept (candidates start name)

end DevicetreeHeader.Files
