import DevicetreeHeader.Proofs.Header.Grouping
import DevicetreeHeader.Proofs.Node.Account
import DevicetreeHeader.Proofs.Program.Stages
import Mathlib.Data.Finset.Card

/-!
# The log of a run

What a run reports is decided by the stage at which it fails (`events_generate`). Loading the
configuration file is reported once it has succeeded, and after that nothing before the input has
been read. Then come the account of the source and the names that are defined twice (`reported`),
and at the end, if the output has been written, the event that says so.

This event is the only one of its kind. So it is there exactly if the run has succeeded, and a run
that fails to write has reported what it would have reported otherwise, but for the last event
(`events_tell_run`).
-/

set_option autoImplicit false
set_option relaxedAutoImplicit false

namespace DevicetreeHeader

open Files (Disk Tree)
open Log (Event)

/-- The output that an event reports as written. -/
def Log.Event.output? : Event → Option Text
  | wrote _ _ output => some output
  | _ => none

/-- Reading a source reports nothing as written. -/
theorem Node.filterMap_output?_sourceEvents (source : Text) :
    (sourceEvents source).filterMap Event.output? = [] := by
  rw [List.filterMap_eq_nil_iff, sourceEvents_eq]
  intro event hevent
  rcases List.mem_append.mp hevent with hblocks | hcount
  · obtain ⟨block, -, hreport⟩ := List.mem_flatMap.mp hblocks
    rw [events_eq_account, account] at hreport
    obtain ⟨entry, -, hpair⟩ := List.mem_flatMap.mp hreport
    rw [reports, List.mem_cons, Option.mem_toList, Option.map_eq_some_iff] at hpair
    rcases hpair with rfl | ⟨old, -, rfl⟩
    · rfl
    · rfl
  · obtain rfl := List.mem_singleton.mp hcount
    rfl

namespace Program

/-- The names that the document of a source defines twice. -/
def clashes (options : Options) (source : Text) : List Text :=
  (Header.ofNodes options (Node.ofSource source)).collisions

/-- What a run reports before it comes to its output. -/
def reported (file : Option Layer) (options : Options) (source : Text) : List Event :=
  .loaded file :: (Node.sourceEvents source ++ (clashes options source).map Event.collision)

/-- The report that the document of a source has been written, with the number of its nodes and that
of their types. -/
def conclusion (output source : Text) : Event :=
  .wrote (Node.ofSource source).length ((Node.ofSource source).map Node.type).toFinset.card output

/-- What a run has loaded, settled and read when it comes to its output. -/
structure Composed (disk : Disk) (environment : Environment) (request : Request)
    (file : Option Layer) (options : Options) (source : Text) : Prop where
  loaded : fileLayer disk request = .ok file
  settled : ∃ layer, environment.layer = .ok layer ∧
    options = Options.ofLayers (request.layer :: layer :: file.toList)
  read : disk.read request.input = .ok source

variable {disk : Disk} {environment : Environment} {request : Request}

/-- A document has a section for each of the types of its nodes. -/
theorem length_sections (options : Options) (nodes : List Node) :
    (Header.ofNodes options nodes).sections.length = (nodes.map Node.type).toFinset.card := by
  have htypes : (nodes.map Node.type).toFinset = (Header.types nodes).toFinset := by
    ext type
    rw [List.mem_toFinset, List.mem_toFinset, Header.types, List.mem_eraseDups]
  rw [htypes, List.toFinset_card_of_nodup (Header.nodup_types nodes), Header.sections_ofNodes,
    List.length_map]

theorem filterMap_output?_reported (file : Option Layer) (options : Options) (source : Text) :
    (reported file options source).filterMap Event.output? = [] := by
  have hclashes : ((clashes options source).map Event.collision).filterMap Event.output? = [] := by
    rw [List.filterMap_map, List.filterMap_eq_nil_iff]
    exact fun _ _ ↦ rfl
  rw [reported, List.filterMap_cons, List.filterMap_append, Node.filterMap_output?_sourceEvents,
    hclashes]
  rfl

/-- A run that comes to its output has told what it has composed, and tells one thing more if the
output can be created. -/
theorem Composed.generate_eq {file : Option Layer} {options : Options} {source : Text}
    (hcomposed : Composed disk environment request file options source) :
    generate disk environment request =
      match disk.creation request.output with
      | .error cause => ⟨reported file options source, some options,
          .error (.output ⟨.creating, request.output, cause⟩)⟩
      | .ok () => ⟨reported file options source ++ [conclusion request.output source], some options,
          .ok (convert options source)⟩ := by
  obtain ⟨hfile, ⟨layer, hlayer, rfl⟩, hsource⟩ := hcomposed
  have hsettle : settle disk environment request =
      ([.loaded file], .ok (Options.ofLayers (request.layer :: layer :: file.toList))) := by
    rw [settle, hfile, hlayer]
  rw [generate, hsettle]
  simp only [render, hsource]
  cases disk.creation request.output with
  | error cause => simp [reported, clashes]
  | ok _ => simp [reported, clashes, conclusion, convert, length_sections]

/-- A run composes the same wherever the same is loaded, settled and read. -/
theorem Composed.transfer {other : Disk} {asked : Request} {file : Option Layer} {options : Options}
    {source : Text} (hcomposed : Composed disk environment request file options source)
    (hfile : fileLayer other asked = fileLayer disk request) (hlayer : asked.layer = request.layer)
    (hread : other.read asked.input = disk.read request.input) :
    Composed other environment asked file options source where
  loaded := hfile.trans hcomposed.loaded
  settled := hlayer ▸ hcomposed.settled
  read := hread.trans hcomposed.read

/-- The events of a run, by the stage at which it fails. -/
theorem events_generate (disk : Disk) (environment : Environment) (request : Request) :
    match firstFailure? disk environment request with
    | some (.config _) => (generate disk environment request).events = []
    | some (.environment _) | some (.input _) => ∃ file, fileLayer disk request = .ok file ∧
        (generate disk environment request).events = [.loaded file]
    | some (.output _) => ∃ file options source,
        Composed disk environment request file options source ∧
        (generate disk environment request).events = reported file options source
    | none => ∃ file options source, Composed disk environment request file options source ∧
        (generate disk environment request).events =
          reported file options source ++ [conclusion request.output source] := by
  unfold firstFailure? Stage.all
  cases hfile : fileLayer disk request with
  | error cause => simp [Stage.failure?, failed?, hfile, generate, settle]
  | ok file =>
    cases hlayer : environment.layer with
    | error field => simp [Stage.failure?, failed?, hfile, hlayer, generate, settle]
    | ok layer =>
      cases hsource : disk.read request.input with
      | error cause =>
        simp [Stage.failure?, failed?, hfile, hlayer, hsource, generate, settle, render]
      | ok source =>
        have hcomposed : Composed disk environment request file
            (Options.ofLayers (request.layer :: layer :: file.toList)) source :=
          ⟨hfile, ⟨layer, hlayer, rfl⟩, hsource⟩
        rw [hcomposed.generate_eq]
        cases hcreation : disk.creation request.output with
        | error cause =>
          simp only [Stage.failure?, failed?, hfile, hlayer, hsource, hcreation,
            List.findSome?_cons, Option.map_some, Option.map_none]
          exact ⟨file, _, source, hcomposed, rfl⟩
        | ok _ =>
          simp only [Stage.failure?, failed?, hfile, hlayer, hsource, hcreation,
            List.findSome?_cons, List.findSome?_nil, Option.map_none]
          exact ⟨file, _, source, hcomposed, rfl⟩

/-- A run that fails reports nothing as written. -/
theorem filterMap_output?_of_failure {failure : Failure}
    (hfirst : firstFailure? disk environment request = some failure) :
    (generate disk environment request).events.filterMap Event.output? = [] := by
  have hevents := events_generate disk environment request
  rw [hfirst] at hevents
  cases failure with
  | config cause => rw [hevents, List.filterMap_nil]
  | environment field =>
    obtain ⟨file, -, hevents⟩ := hevents
    rw [hevents]
    rfl
  | input cause =>
    obtain ⟨file, -, hevents⟩ := hevents
    rw [hevents]
    rfl
  | output cause =>
    obtain ⟨file, options, source, -, hevents⟩ := hevents
    rw [hevents, filterMap_output?_reported]

/-- A run that succeeds reports its output as written, once and at the end. -/
theorem conclusion_of_success (hfirst : firstFailure? disk environment request = none) :
    (generate disk environment request).events.filterMap Event.output? = [request.output] ∧
      ∃ source, (generate disk environment request).events.getLast? =
        some (conclusion request.output source) := by
  have hevents := events_generate disk environment request
  rw [hfirst] at hevents
  obtain ⟨file, options, source, -, hevents⟩ := hevents
  rw [hevents]
  refine ⟨?_, source, List.getLast?_concat⟩
  rw [List.filterMap_append, filterMap_output?_reported]
  rfl

theorem firstFailure?_of_result {failure : Failure}
    (hresult : (generate disk environment request).result = .error failure) :
    firstFailure? disk environment request = some failure := by
  rcases generate_cases disk environment request with
    ⟨other, hfirst, herror⟩ | ⟨options, source, -, -, hok⟩
  · obtain rfl := Except.error.inj (herror.symm.trans hresult)
    exact hfirst
  · rw [hresult] at hok
    cases hok

/-- A run that fails to write has told all that the run would have told that can write, but for the
conclusion. -/
theorem events_eq_dropLast {other : Disk} {asked : Request} {cause : Files.FileFailure}
    {document : Text} (hfile : fileLayer other asked = fileLayer disk request)
    (hlayer : asked.layer = request.layer)
    (hread : other.read asked.input = disk.read request.input)
    (hfailed : (generate disk environment request).result = .error (.output cause))
    (hwritten : (generate other environment asked).result = .ok document) :
    (generate disk environment request).events =
      (generate other environment asked).events.dropLast := by
  have hevents := events_generate disk environment request
  rw [firstFailure?_of_result hfailed] at hevents
  obtain ⟨file, options, source, hcomposed, hevents⟩ := hevents
  have hother := (hcomposed.transfer hfile hlayer hread).generate_eq
  rw [hother] at hwritten ⊢
  rw [hevents]
  cases hcreation : other.creation asked.output with
  | error cause =>
    rw [hcreation] at hwritten
    cases hwritten
  | ok _ => exact List.dropLast_concat.symm

/-- The events of a run are decided by the stage at which it fails, and tell its outcome: the output
is reported as written, once and at the end, exactly if it has been written. A run that fails to
write has the events of the run that can write but for the last. -/
theorem events_tell_run (tree : Tree) (environment : Environment) (request : Request) :
    let report := generate tree.disk environment request
    let later := report.applyTo request tree
    (match firstFailure? tree.disk environment request with
      | some (.config _) => report.events = []
      | some (.environment _) | some (.input _) => ∃ file,
          fileLayer tree.disk request = .ok file ∧ report.events = [.loaded file]
      | some (.output _) => ∃ file options source,
          Composed tree.disk environment request file options source ∧
          report.events = reported file options source
      | none => ∃ file options source,
          Composed tree.disk environment request file options source ∧
          report.events = reported file options source ++ [conclusion request.output source]) ∧
    (match report.result with
      | .error _ => report.events.filterMap Event.output? = [] ∧ later = tree
      | .ok document => report.events.filterMap Event.output? = [request.output] ∧
          (∃ source, report.events.getLast? = some (conclusion request.output source)) ∧
          ∃ location, tree.Rewritten later request.output document location) ∧
    ∀ (other : Tree) (output : Text) (cause : Files.FileFailure) (document : Text),
      fileLayer other.disk request = fileLayer tree.disk request →
      other.disk.read request.input = tree.disk.read request.input →
      report.result = .error (.output cause) →
      (generate other.disk environment { request with output }).result = .ok document →
      report.events =
        (generate other.disk environment { request with output }).events.dropLast := by
  intro report later
  refine ⟨events_generate tree.disk environment request, ?_,
    fun other output cause document hfile hread ↦ events_eq_dropLast hfile rfl hread⟩
  rcases generate_cases tree.disk environment request with
    ⟨failure, hfirst, hresult⟩ | ⟨options, source, hprepared, -, hresult⟩
  · have hlater : later = tree := by
      show report.applyTo request tree = tree
      rw [Report.applyTo, hresult]
    simp only [report, hresult]
    exact ⟨filterMap_output?_of_failure hfirst, hlater⟩
  · obtain ⟨location, hplace⟩ := place_of_creation hprepared.creation
    have hlater : later = tree.write request.output (convert options source) := by
      show report.applyTo request tree = _
      rw [Report.applyTo, hresult]
    obtain ⟨honce, hlast⟩ := conclusion_of_success hprepared.firstFailure?_eq_none
    simp only [report, hresult]
    exact ⟨honce, hlast, location, hlater ▸ Files.Tree.rewritten_write hplace _⟩

/-- A source that sets a value twice and defines a name twice. -/
def clashSource : String :=
  "a: t { k = <1>; k = <2>; }; A: u { k = x; };"

/-- The source in the working directory, which has nothing else in it. -/
def clashTree : Tree :=
  let root : Tree := { workingDirectory := ["w".toList] }
  root.addFile ["w".toList, "x.dts".toList] clashSource.toUTF8

/-- The output is in a directory that is missing, or beside the input. -/
theorem events_tell_run_clashTree :
    let request : Request := { input := "x.dts".toList, output := "no/x.h".toList }
    let written := generate clashTree.disk [] { request with output := "x.h".toList }
    (generate clashTree.disk [] request).result =
      .error (.output ⟨.creating, "no/x.h".toList, .notFound⟩) ∧
    written.result = .ok (convert {} clashSource.toList) ∧
    written.events = [.loaded none, .classified ['a'] ['k'] (.integer 1),
      .classified ['a'] ['k'] (.integer 2), .overwritten ['a'] ['k'] (.integer 1),
      .classified ['A'] ['k'] (.token ['x']), .extracted 2, .collision "DT_A_K".toList,
      .wrote 2 2 "x.h".toList] ∧
    (generate clashTree.disk [] request).events = written.events.dropLast := by
  intro request written
  have hfailed : (generate clashTree.disk [] request).result =
      .error (.output ⟨.creating, "no/x.h".toList, .notFound⟩) := by decide +kernel
  have hwritten : written.result = .ok (convert {} clashSource.toList) := by decide +kernel
  exact ⟨hfailed, hwritten, by decide +kernel,
    (events_tell_run clashTree [] request).2.2 clashTree _ _ _ rfl rfl hfailed hwritten⟩

end Program

end DevicetreeHeader
