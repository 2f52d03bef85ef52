import DevicetreeHeader.Options.Discovery
import DevicetreeHeader.Proofs.Files.Walks

/-!
# Which configuration file is found

The search for a configuration file goes up along the path of a directory, not up the tree. What it
finds is in the directory that is reached if some components at the end of that path are dropped
(`Reached`). If none of these is two dots, this is the directory itself or one above it, and the
nearest that has such a file (`discover_nearest`). Dropping two dots leads down, and the file may be
that of a directory beside the input, while nothing is found in the directory of the input and above
it.
-/

set_option autoImplicit false
set_option relaxedAutoImplicit false

namespace DevicetreeHeader.Layer

open Files (Component Location Tree move)
open Files.Path (components join)

/-- A directory has a regular file of the name of a configuration file. -/
def HasFile (tree : Tree) (location : Location) : Prop :=
  ∃ content, tree.entry? (location ++ [fileName]) = some (.file content)

/-- A directory is the first with a configuration file on the way up from another, itself or above
it. -/
structure Nearest (tree : Tree) (here holder : Location) : Prop where
  above : holder <+: here
  hasFile : HasFile tree holder
  nearer : ∀ between, holder <+: between → between <+: here → between ≠ holder →
    ¬ HasFile tree between

/-- A path leads to the configuration file of a directory, the holder. The path where the search has
started is the path of the holder with the dropped components behind it. They lead from the holder
to the directory where the search has started, and no stop on this way has a configuration file. -/
structure Reached (tree : Tree) (start path : Text) (here holder : Location)
    (dropped : List Component) : Prop where
  directory : ∃ directory, path = join directory fileName ∧
    components start = components directory ++ dropped ∧ tree.Leads directory holder
  file : ∃ content, tree.lookup path = .ok (holder ++ [fileName], .file content)
  way : dropped.foldl move holder = here
  passed : ∀ front, front <+: dropped → front ≠ [] → ¬ HasFile tree (front.foldl move holder)

variable {tree : Tree} {start path : Text} {here holder : Location} {dropped : List Component}

theorem isName_fileName : Files.IsName fileName := by
  constructor <;> decide

theorem Reached.hasFile (hreached : Reached tree start path here holder dropped) :
    HasFile tree holder := by
  obtain ⟨content, hlookup⟩ := hreached.file
  exact ⟨content, (Files.Tree.walk_of_lookup hlookup).2⟩

/-- If it is the directory where the search has started or one above it, what has been found is the
nearest: the way leads past all directories between the two. -/
theorem Reached.nearest_iff (hreached : Reached tree start path here holder dropped) :
    Nearest tree here holder ↔ holder <+: here := by
  refine ⟨Nearest.above, fun habove ↦ ⟨habove, hreached.hasFile, fun between hlow hhigh hne ↦ ?_⟩⟩
  rw [← hreached.way] at hhigh
  obtain ⟨front, hfront, hsome, rfl⟩ := Files.exists_front_of_between hlow hne hhigh
  exact hreached.passed front hfront hsome

theorem exists_reached (hleads : tree.Leads start here)
    (hfound : find? tree.disk start = some path) :
    ∃ holder dropped, .root ∉ dropped ∧ Reached tree start path here holder dropped := by
  obtain ⟨candidate, hcandidate, rfl⟩ := Option.map_eq_some_iff.mp hfound
  obtain ⟨before, directory, after, hancestors, rfl, haccept, hrefused⟩ :=
    Files.of_search_found hcandidate
  obtain ⟨dropped, hdropped, hroot, hfronts⟩ := Files.Path.dropped_of_ancestors hancestors
  obtain ⟨holder, hholder⟩ := Files.Tree.leads_of_mem_ancestors hleads
    (hancestors ▸ List.mem_append_right before List.mem_cons_self)
  have hway := hleads.foldl_move hholder hdropped
  obtain ⟨content, hcontent⟩ := (Files.Tree.isFile_join isName_fileName hholder).mp haccept
  have hfile : tree.lookup (join directory fileName) =
      .ok (holder ++ [fileName], .file content) := by
    rw [Files.Tree.lookup_join isName_fileName hholder, hcontent]
  refine ⟨holder, dropped, hroot, ⟨directory, rfl, hdropped, hholder⟩, ⟨content, hfile⟩, hway, ?_⟩
  intro front hfront hsome hhasFile
  obtain ⟨nearer, hnearer, hcomponents⟩ := hfronts front hfront hsome
  obtain ⟨stop, hstop⟩ := Files.Tree.leads_of_mem_ancestors hleads
    (hancestors ▸ List.mem_append_left _ hnearer)
  rw [hstop.foldl_move hholder hcomponents] at hhasFile
  have haccepted := (Files.Tree.isFile_join isName_fileName hstop).mpr hhasFile
  rw [hrefused nearer hnearer] at haccepted
  cases haccepted

/-- If a configuration file is found for an input whose directory is there, this file is loaded, and
it is reached by dropping components from the path of that directory. It is the nearest one exactly
if it is there or above, which holds if none of the dropped components is two dots. -/
theorem discover_nearest {input : Text}
    (hhere : tree.lookup (directoryOf input) = .ok (here, .directory))
    (hfound : find? tree.disk (directoryOf input) = some path) :
    discover tree.disk input = (load tree.disk path).map some ∧
      ∃ holder dropped, Reached tree (directoryOf input) path here holder dropped ∧
        (Nearest tree here holder ↔ holder <+: here) ∧
        (.up ∉ dropped → Nearest tree here holder) := by
  obtain ⟨holder, dropped, hroot, hreached⟩ :=
    exists_reached (Files.Tree.leads_of_lookup hhere) hfound
  refine ⟨by rw [discover, hfound], holder, dropped, hreached, hreached.nearest_iff, fun hup ↦ ?_⟩
  have habove : holder <+: here := hreached.way ▸ Files.prefix_foldl_move hroot hup holder
  exact hreached.nearest_iff.mpr habove

/-- Configuration files in the working directory and in `b`, and a directory `c` without one. -/
def nestedTree : Tree :=
  let root : Tree := { workingDirectory := ["w".toList] }
  ((root.addFile ["w".toList, fileName] "macro-prefix = \"W\"\n".toUTF8).addFile
    ["w".toList, "b".toList, fileName] "macro-prefix = \"B\"\n".toUTF8).addDirectory
    ["w".toList, "c".toList]

/-- From `b/..//c` the search goes by `b/..` to the file of the working directory, not to that of
`b`. -/
theorem discover_nearest_nestedTree :
    nestedTree.lookup (directoryOf "b/..//c/./x.dts".toList) =
        .ok (["w".toList, "c".toList], .directory) ∧
      find? nestedTree.disk (directoryOf "b/..//c/./x.dts".toList) =
        some "b/../.dt-header.toml".toList ∧
      discover nestedTree.disk "b/..//c/./x.dts".toList = .ok (some ⟨some "W".toList, none⟩) ∧
      Nearest nestedTree ["w".toList, "c".toList] ["w".toList] := by
  have hhere : nestedTree.lookup (directoryOf "b/..//c/./x.dts".toList) =
      .ok (["w".toList, "c".toList], .directory) := by decide
  have hfound : find? nestedTree.disk (directoryOf "b/..//c/./x.dts".toList) =
      some "b/../.dt-header.toml".toList := by decide +kernel
  have hload : load nestedTree.disk "b/../.dt-header.toml".toList =
      .ok ⟨some "W".toList, none⟩ := by decide +kernel
  obtain ⟨hdiscover, holder, dropped, hreached, hiff, -⟩ := discover_nearest hhere hfound
  have hholder : holder = ["w".toList] := by
    have hfile : nestedTree.lookup "b/../.dt-header.toml".toList =
        .ok (["w".toList] ++ [fileName], .file "macro-prefix = \"W\"\n".toUTF8) := by decide +kernel
    obtain ⟨content, hcontent⟩ := hreached.file
    rw [hfile] at hcontent
    exact (List.append_inj_left' (Prod.mk.inj (Except.ok.inj hcontent)).1 rfl).symm
  subst hholder
  exact ⟨hhere, hfound, by rw [hdiscover, hload]; rfl, hiff.mpr (by decide)⟩

/-- The only configuration file is in the directory `b` of the working directory. -/
def besideTree : Tree :=
  let root : Tree := { workingDirectory := ["w".toList] }
  root.addFile ["w".toList, "b".toList, fileName] "macro-prefix = \"B\"\n".toUTF8

/-- The directory of `b/../x.dts` is the working directory. No configuration file is there or above,
yet that of `b` is found, since the search drops the two dots. -/
theorem discover_besideTree :
    besideTree.lookup (directoryOf "b/../x.dts".toList) = .ok (["w".toList], .directory) ∧
      find? besideTree.disk (directoryOf "b/../x.dts".toList) =
        some "b/.dt-header.toml".toList ∧
      discover besideTree.disk "b/../x.dts".toList = .ok (some ⟨some "B".toList, none⟩) ∧
      ∀ holder, ¬ Nearest besideTree ["w".toList] holder := by
  refine ⟨by decide, by decide +kernel, by decide +kernel, fun holder hnearest ↦ ?_⟩
  obtain ⟨content, hcontent⟩ := hnearest.hasFile
  rcases List.prefix_cons_iff.mp hnearest.above with rfl | ⟨rest, rfl, hrest⟩
  · have hnone : besideTree.entry? ([] ++ [fileName]) = none := by decide
    rw [hnone] at hcontent
    cases hcontent
  · obtain rfl := List.prefix_nil.mp hrest
    have hnone : besideTree.entry? (["w".toList] ++ [fileName]) = none := by decide
    rw [hnone] at hcontent
    cases hcontent

end DevicetreeHeader.Layer
