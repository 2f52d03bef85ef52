import DevicetreeHeader.Program.Generation
import DevicetreeHeader.Proofs.Files.Reading
import DevicetreeHeader.Proofs.Files.SearchOrder

/-!
# How the options of a run are settled

A request names its configuration file, or it takes the first regular file that the search upward
comes to, or none (`Chooses`). Whichever it is, this file alone decides what configuration files
set: if it makes a layer, each option has the first value among those of the command line, the
environment and this layer (`Settled`), and if it makes none, the run fails, whatever other files
there are (`decided_of_chooses`).

A file that is named is read where the walk along its path ends, and no other file matters
(`settle_of_keepsDirectories`). If the walk does not come to an end, the run fails in any case, but
the reason that it gives depends on whether a file stands where a directory should be
(`settle_fileInTheWay_ne`).
-/

set_option autoImplicit false
set_option relaxedAutoImplicit false

namespace DevicetreeHeader.Program

open Files (Cause Tree)
open Files.Tree (isFile_iff isFile_eq_false_iff read_eq_ok_iff)
open Files.Path (ancestors join)
open Layer (directoryOf fileName)

/-! ### The configuration file -/

/-- A path leads to a regular file with a text that makes a layer. -/
def Makes (tree : Tree) (path : Text) (layer : Layer) : Prop :=
  ∃ location content source, tree.lookup path = .ok (location, .file content) ∧
    content.utf8Decode? = some source ∧ Layer.ofToml? source.toList = some layer

/-- The configuration file of a request: the one that it names, or else the first regular file among
those that the search tries, or none if there is no such file. -/
inductive Chooses (tree : Tree) (request : Request) : Option Text → Prop
  | named {path : Text} (hconfig : request.config = some path) : Chooses tree request (some path)
  | found {before : List Text} {directory : Text} {after : List Text}
      (hconfig : request.config = none)
      (hancestors : ancestors (directoryOf request.input) = before ++ directory :: after)
      (hfile : tree.LeadsToFile (join directory fileName))
      (hnearer : ∀ nearer ∈ before, ¬ tree.LeadsToFile (join nearer fileName)) :
      Chooses tree request (some (join directory fileName))
  | nothing (hconfig : request.config = none)
      (hnone : ∀ directory ∈ ancestors (directoryOf request.input),
        ¬ tree.LeadsToFile (join directory fileName)) :
      Chooses tree request none

variable {tree : Tree} {path : Text}

theorem load_eq_ok_iff {layer : Layer} :
    Layer.load tree.disk path = .ok layer ↔ Makes tree path layer := by
  have hload : Layer.load tree.disk path = .ok layer ↔
      ∃ source, tree.disk.read path = .ok source ∧ Layer.ofToml? source = some layer := by
    rw [Layer.load]
    cases tree.disk.read path with
    | error failure => simp
    | ok source =>
      cases hmade : Layer.ofToml? source with
      | none => simp [hmade]
      | some made => simp [hmade]
  rw [hload]
  constructor
  · rintro ⟨source, hread, hlayer⟩
    obtain ⟨location, content, chars, hlookup, hdecode, rfl⟩ := read_eq_ok_iff.mp hread
    exact ⟨location, content, chars, hlookup, hdecode, hlayer⟩
  · rintro ⟨location, content, chars, hlookup, hdecode, hlayer⟩
    exact ⟨chars.toList, read_eq_ok_iff.mpr ⟨location, content, chars, hlookup, hdecode, rfl⟩,
      hlayer⟩

theorem exists_chooses (tree : Tree) (request : Request) :
    ∃ choice, Chooses tree request choice := by
  cases hconfig : request.config with
  | some path => exact ⟨some path, .named hconfig⟩
  | none =>
    rcases Files.refused_or_first_accepted (directoryOf request.input) fileName
      tree.disk.isFile with hrefused | ⟨before, directory, after, hancestors, hbefore, haccept⟩
    · exact ⟨none, .nothing hconfig fun directory hmem ↦
        isFile_eq_false_iff.mp (hrefused directory hmem)⟩
    · exact ⟨some (join directory fileName), .found hconfig hancestors (isFile_iff.mp haccept)
        fun nearer hnearer ↦ isFile_eq_false_iff.mp (hbefore nearer hnearer)⟩

/-- The file that is chosen is loaded, and no other. -/
theorem fileLayer_of_chooses {request : Request} {choice : Option Text}
    (hchoice : Chooses tree request choice) :
    fileLayer tree.disk request =
      choice.elim (.ok none) fun path ↦ (Layer.load tree.disk path).map some := by
  cases hchoice with
  | named hconfig =>
    rw [fileLayer, hconfig]
    rfl
  | found hconfig hancestors hfile hnearer =>
    have hsearch := Files.search_of_accepted hancestors
      (fun nearer hmem ↦ isFile_eq_false_iff.mpr (hnearer nearer hmem)) (isFile_iff.mpr hfile)
    rw [fileLayer, hconfig]
    simp only [Layer.discover, Layer.find?, hsearch, Option.map_some, Option.elim_some]
  | nothing hconfig hnone =>
    have hsearch := Files.search_of_refused fun directory hmem ↦
      isFile_eq_false_iff.mpr (hnone directory hmem)
    rw [fileLayer, hconfig]
    simp only [Layer.discover, Layer.find?, hsearch, Option.map_none, Option.elim_none]

/-! ### The options -/

section Settled

variable (tree : Tree) (environment : Environment) (request : Request)

/-- The options are settled with what the configuration file sets, if there is one: each is the
first value that the command line, the environment or this file gives it, an empty text being a
value, and its default if none does. An environment that makes no layer is the failure. -/
def Settled (file : Option Layer) : Prop :=
  match environment.layer with
  | .error field =>
    settle tree.disk environment request = ([.loaded file], .error (.environment field))
  | .ok layer =>
    settle tree.disk environment request = ([.loaded file], .ok
      { macroPrefix := ((request.layer.macroPrefix.or layer.macroPrefix).or
          (file.bind Layer.macroPrefix)).getD "DT".toList
        includeGuard := (request.layer.includeGuard.or layer.includeGuard).or
          (file.bind Layer.includeGuard) })

/-- What the choice of a configuration file decides: without one, or with one that makes a layer,
the options are settled, and otherwise the run fails. -/
def Decided : Option Text → Prop
  | none => Settled tree environment request none
  | some path =>
    (∃ layer, Makes tree path layer ∧ Settled tree environment request (some layer)) ∨
    (∀ layer, ¬ Makes tree path layer) ∧
      ∃ cause, settle tree.disk environment request = ([], .error (.config cause))

variable {tree environment request}

theorem ofLayers_eq (first second : Layer) (file : Option Layer) :
    Options.ofLayers (first :: second :: file.toList) =
      { macroPrefix := ((first.macroPrefix.or second.macroPrefix).or
          (file.bind Layer.macroPrefix)).getD "DT".toList
        includeGuard := (first.includeGuard.or second.includeGuard).or
          (file.bind Layer.includeGuard) } := by
  have hcons (get : Layer → Option Text) (layer : Layer) (rest : List Layer) :
      (layer :: rest).findSome? get = (get layer).or (rest.findSome? get) := by
    rw [List.findSome?_cons]
    cases get layer <;> rfl
  have hfile (get : Layer → Option Text) : file.toList.findSome? get = file.bind get := by
    cases file with
    | none => rfl
    | some layer => rw [Option.toList_some, hcons, List.findSome?_nil, Option.or_none]; rfl
  simp only [Options.ofLayers, hcons, hfile, Option.or_assoc]

theorem settled_of_fileLayer {file : Option Layer}
    (hfile : fileLayer tree.disk request = .ok file) :
    Settled tree environment request file := by
  rw [Settled, settle, hfile]
  cases environment.layer with
  | error field => rfl
  | ok layer => simp only [ofLayers_eq]

theorem decided_of_chooses {choice : Option Text} (hchoice : Chooses tree request choice) :
    Decided tree environment request choice := by
  have hfile := fileLayer_of_chooses hchoice
  cases choice with
  | none => exact settled_of_fileLayer hfile
  | some path =>
    rw [Option.elim_some] at hfile
    cases hload : Layer.load tree.disk path with
    | ok layer =>
      rw [hload] at hfile
      exact .inl ⟨layer, load_eq_ok_iff.mp hload, settled_of_fileLayer hfile⟩
    | error cause =>
      rw [hload] at hfile
      refine .inr ⟨fun layer hmakes ↦ ?_, cause, by rw [settle, hfile]; rfl⟩
      rw [load_eq_ok_iff.mpr hmakes] at hload
      cases hload

/-! ### Other files -/

variable {later : Tree}

theorem settle_of_named (hconfig : request.config = some path) :
    settle tree.disk environment request =
      match Layer.load tree.disk path with
      | .error cause => ([], .error (.config cause))
      | .ok file =>
        match environment.layer with
        | .error field => ([.loaded file], .error (.environment field))
        | .ok layer =>
          ([.loaded file], .ok (Options.ofLayers [request.layer, layer, file])) := by
  rw [settle, fileLayer, hconfig]
  dsimp only
  cases Layer.load tree.disk path <;> rfl

theorem load_congr (hlookup : later.lookup path = tree.lookup path) :
    Layer.load later.disk path = Layer.load tree.disk path := by
  have hentry : later.disk.entry path = tree.disk.entry path := by
    rw [Tree.entry_disk, Tree.entry_disk, hlookup]
  rw [Layer.load, Layer.load, Files.Disk.read, Files.Disk.read, hentry]

/-- A named configuration file decides alone: whatever happens to files to which its path does not
lead, the options are settled in the same way. -/
theorem settle_of_keepsDirectories (hconfig : request.config = some path)
    (hkeeps : tree.KeepsDirectories later) {location : Files.Location}
    (hwalk : tree.Walks path location) (hentry : later.entry? location = tree.entry? location) :
    settle later.disk environment request = settle tree.disk environment request := by
  have hload := load_congr (hkeeps.lookup_eq hwalk hentry)
  rw [settle_of_named hconfig, settle_of_named hconfig, hload]

theorem settle_of_not_walks (hconfig : request.config = some path)
    (hwalk : ∀ location, ¬ tree.Walks path location) :
    ∃ cause ∈ [Cause.notFound, Cause.notDirectory], settle tree.disk environment request =
      ([], .error (.config (.unreadable ⟨.opening, path, cause⟩))) := by
  obtain ⟨cause, hcause, hlookup⟩ := Files.Tree.lookup_of_not_walks hwalk
  have hentry : tree.disk.entry path = .error cause := by
    rw [Tree.entry_disk, hlookup]
    rfl
  have hload : Layer.load tree.disk path = .error (.unreadable ⟨.opening, path, cause⟩) := by
    rw [Layer.load, Files.Disk.read, hentry]
  exact ⟨cause, hcause, by rw [settle_of_named hconfig, hload]⟩

end Settled

/-- One configuration file is chosen, or none. If it makes a layer, the options are settled with it,
and if it makes none, the run fails. If it has been named, changing, adding or removing other files
has no effect; only where the walk to it does not come to an end, so that the run fails in any case,
may the reason be another. -/
theorem chosen_file_decides (tree : Tree) (environment : Environment) (request : Request) :
    (∃ choice, Chooses tree request choice) ∧
    (∀ choice, Chooses tree request choice → Decided tree environment request choice) ∧
    ∀ path, request.config = some path → ∀ later : Tree, tree.KeepsDirectories later →
      (∀ location, tree.Walks path location → later.entry? location = tree.entry? location →
        settle later.disk environment request = settle tree.disk environment request) ∧
      ((∀ location, ¬ tree.Walks path location) → later.KeepsDirectories tree →
        ∀ either ∈ [tree, later], ∃ cause ∈ [Cause.notFound, Cause.notDirectory],
          settle either.disk environment request =
            ([], .error (.config (.unreadable ⟨.opening, path, cause⟩)))) := by
  refine ⟨exists_chooses tree request, fun choice ↦ decided_of_chooses, ?_⟩
  intro path hconfig later hkeeps
  refine ⟨fun location ↦ settle_of_keepsDirectories hconfig hkeeps, fun hwalk hback ↦ ?_⟩
  have hlater : ∀ location, ¬ later.Walks path location :=
    fun location hreached ↦ hwalk location (hback.walks hreached)
  simp only [List.forall_mem_cons, List.not_mem_nil, false_implies, implies_true, and_true]
  exact ⟨settle_of_not_walks hconfig hwalk, settle_of_not_walks hconfig hlater⟩

/-- A configuration file in the working directory, a directory of that name in `b`, and another
configuration file that sets an empty prefix. -/
def layeredTree : Tree :=
  let root : Tree := { workingDirectory := ["w".toList] }
  ((root.addFile ["w".toList, fileName] "include-guard = \"W\"\n".toUTF8).addDirectory
    ["w".toList, "b".toList, fileName]).addFile
    ["w".toList, "c.toml".toList] "macro-prefix = \"\"\n".toUTF8

/-- The request of the input `b/x.dts`, with a configuration file if one is given. -/
def boardRequest (config : Option Text) : Request where
  input := "b/x.dts".toList
  output := "x.h".toList
  config := config

/-- The search passes over the directory, and the environment comes before the file. A file that is
named is not affected if the one in the working directory is broken. -/
theorem chosen_file_decides_layeredTree :
    let environment : Environment := [("DT_HEADER_MACRO_PREFIX".toList, "E".toList)]
    let broken := layeredTree.put ["w".toList, fileName] (.file "[".toUTF8)
    Chooses layeredTree (boardRequest none) (some fileName) ∧
    settle layeredTree.disk environment (boardRequest none) =
      ([.loaded (some ⟨none, some "W".toList⟩)], .ok ⟨"E".toList, some "W".toList⟩) ∧
    layeredTree.KeepsDirectories broken ∧
    layeredTree.Walks "c.toml".toList ["w".toList, "c.toml".toList] ∧
    settle broken.disk [] (boardRequest (some "c.toml".toList)) =
      settle layeredTree.disk [] (boardRequest (some "c.toml".toList)) := by
  intro environment broken
  have hancestors : ancestors (directoryOf "b/x.dts".toList) = [['b']] ++ [] :: [] := by
    decide +kernel
  have hfile : layeredTree.LeadsToFile (join [] fileName) := isFile_iff.mp (by decide +kernel)
  have hnearer : ∀ nearer ∈ [['b']], ¬ layeredTree.LeadsToFile (join nearer fileName) := by
    rw [List.forall_mem_singleton]
    exact isFile_eq_false_iff.mp (by decide +kernel)
  have hchosen : Chooses layeredTree (boardRequest none) (some fileName) :=
    .found rfl hancestors hfile hnearer
  have hmakes : Layer.load layeredTree.disk fileName = .ok ⟨none, some ['W']⟩ := by decide +kernel
  have hlayer : environment.layer = .ok ⟨some ['E'], none⟩ := by decide
  have hplain : layeredTree.entry? ["w".toList, fileName] ≠ some .directory := by decide +kernel
  have hwalk : layeredTree.Walks "c.toml".toList ["w".toList, "c.toml".toList] := by
    rw [Tree.Walks]
    decide +kernel
  have hkeeps : layeredTree.KeepsDirectories broken := Files.Tree.keepsDirectories_put hplain
  have hsame := ((chosen_file_decides layeredTree [] (boardRequest (some "c.toml".toList))).2.2 _
    rfl broken hkeeps).1 _ hwalk (by decide +kernel)
  refine ⟨hchosen, ?_, hkeeps, hwalk, hsame⟩
  rcases (chosen_file_decides layeredTree environment (boardRequest none)).2.1 _ hchosen with
    ⟨layer, hmade, hsettled⟩ | ⟨hnone, -⟩
  · rw [← load_eq_ok_iff, hmakes] at hmade
    obtain rfl := Except.ok.inj hmade
    rw [Settled, hlayer] at hsettled
    exact hsettled
  · exact absurd (load_eq_ok_iff.mp hmakes) (hnone _)

/-- The configuration file would be in a directory that is missing. A file in the place of this
directory is another file, and yet the run then fails for another reason. -/
theorem settle_fileInTheWay_ne :
    let tree : Tree := { workingDirectory := ["w".toList] }
    let later := tree.put ["w".toList, "a".toList] (.file "".toUTF8)
    let request := boardRequest (some "a/c.toml".toList)
    tree.KeepsDirectories later ∧ later.KeepsDirectories tree ∧
    (∀ location, location ≠ ["w".toList, "a".toList] →
      later.entry? location = tree.entry? location) ∧
    (settle tree.disk [] request).2 =
      .error (.config (.unreadable ⟨.opening, "a/c.toml".toList, .notFound⟩)) ∧
    (settle later.disk [] request).2 =
      .error (.config (.unreadable ⟨.opening, "a/c.toml".toList, .notDirectory⟩)) ∧
    (settle later.disk [] request).2 ≠ (settle tree.disk [] request).2 := by
  intro tree later request
  have hplace : tree.entry? ["w".toList, "a".toList] ≠ some .directory := by decide
  have hbefore : (settle tree.disk [] request).2 =
      .error (.config (.unreadable ⟨.opening, "a/c.toml".toList, .notFound⟩)) := by decide +kernel
  have hafter : (settle later.disk [] request).2 =
      .error (.config (.unreadable ⟨.opening, "a/c.toml".toList, .notDirectory⟩)) := by
    decide +kernel
  exact ⟨Files.Tree.keepsDirectories_put hplace, Files.Tree.keepsDirectories_of_put hplace,
    fun location hne ↦ Files.Tree.entry?_put_of_ne hne, hbefore, hafter, by simp [hbefore, hafter]⟩

end DevicetreeHeader.Program
