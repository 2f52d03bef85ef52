import DevicetreeHeader.Program.Generation
import DevicetreeHeader.Proofs.Files.Writing

/-!
# The stages of a run

A run has four stages: loading the configuration file, taking in the environment, reading the input
and creating the output. Each can be looked at by itself, on the disk as it is before the run
(`Stage.failure?`). The failure of a run is that of the first stage that fails, whatever the later
ones would have done, and a run in which no stage fails gives the document of its input under the
options that the layers make (`generate_cases`).

A run that fails leaves the tree as it is, and one that succeeds rewrites the file at the place of
its output and no other. The document is that of the input as it was before the run, so that the
output may be the input itself or the configuration file (`generate_all_or_nothing`).
-/

set_option autoImplicit false
set_option relaxedAutoImplicit false

namespace DevicetreeHeader.Program

open Files (Disk FileFailure Location Tree)

/-- A stage of a run that may fail. -/
inductive Stage
  | config
  | environment
  | input
  | output
  deriving DecidableEq, Repr

/-- The stages in the order in which they are run. -/
def Stage.all : List Stage :=
  [config, environment, input, output]

/-- The error of something that has failed. -/
def failed? {ε α : Type} : Except ε α → Option ε
  | .error cause => some cause
  | .ok _ => none

section Disk

variable (disk : Disk) (environment : Environment) (request : Request)

/-- The failure of a stage looked at by itself. -/
def Stage.failure? : Stage → Option Failure
  | .config => (failed? (fileLayer disk request)).map .config
  | .environment => (failed? environment.layer).map .environment
  | .input => (failed? (disk.read request.input)).map .input
  | .output => (failed? (disk.creation request.output)).map fun cause ↦
      .output ⟨.creating, request.output, cause⟩

/-- The failure of the first stage that fails. -/
def firstFailure? : Option Failure :=
  Stage.all.findSome? (Stage.failure? disk environment request)

/-- What a run has read and settled when no stage fails: the options that the layers make, and the
source in the input. -/
structure Prepared (options : Options) (source : Text) : Prop where
  options : ∃ file layer, fileLayer disk request = .ok file ∧ environment.layer = .ok layer ∧
    options = Options.ofLayers (request.layer :: layer :: file.toList)
  source : disk.read request.input = .ok source
  creation : disk.creation request.output = .ok ()

variable {disk environment request} in
theorem Prepared.firstFailure?_eq_none {options : Options} {source : Text}
    (hprepared : Prepared disk environment request options source) :
    firstFailure? disk environment request = none := by
  obtain ⟨⟨file, layer, hfile, hlayer, -⟩, hsource, hcreation⟩ := hprepared
  simp [firstFailure?, Stage.all, Stage.failure?, failed?, hfile, hlayer, hsource, hcreation]

/-- A run fails with the failure of the first stage that fails, or gives the document of what it has
read and settled. -/
theorem generate_cases :
    (∃ failure, firstFailure? disk environment request = some failure ∧
      (generate disk environment request).result = .error failure) ∨
    ∃ options source, Prepared disk environment request options source ∧
      (generate disk environment request).options = some options ∧
      (generate disk environment request).result = .ok (convert options source) := by
  unfold generate settle render firstFailure? Stage.all
  cases hfile : fileLayer disk request with
  | error cause =>
    exact .inl ⟨.config cause, by simp [Stage.failure?, failed?, hfile], rfl⟩
  | ok file =>
    cases hlayer : environment.layer with
    | error field =>
      exact .inl ⟨.environment field, by simp [Stage.failure?, failed?, hfile, hlayer], rfl⟩
    | ok layer =>
      cases hsource : disk.read request.input with
      | error cause =>
        exact .inl ⟨.input cause, by simp [Stage.failure?, failed?, hfile, hlayer, hsource], rfl⟩
      | ok source =>
        cases hcreation : disk.creation request.output with
        | error cause =>
          refine .inl ⟨.output ⟨.creating, request.output, cause⟩, ?_, rfl⟩
          simp [Stage.failure?, failed?, hfile, hlayer, hsource, hcreation]
        | ok _ =>
          exact .inr ⟨_, source, ⟨⟨file, layer, hfile, hlayer, rfl⟩, hsource, hcreation⟩, rfl, rfl⟩

end Disk

/-! ### The tree after a run -/

theorem place_of_creation {tree : Tree} {path : Text}
    (hcreation : tree.disk.creation path = .ok ()) :
    ∃ location, tree.place path = .ok location := by
  cases hplace : tree.place path with
  | ok location => exact ⟨location, rfl⟩
  | error cause =>
    have hfailed : tree.disk.creation path = .error cause := by
      show (tree.place path).map _ = _
      rw [hplace]
      rfl
    rw [hfailed] at hcreation
    cases hcreation

/-- A run that fails gives the failure of the first stage that fails and leaves the tree as it is. A
run that succeeds rewrites the file to which the output leads, and no other, to the document of what
the input held before the run under the options of the run. -/
theorem generate_all_or_nothing (tree : Tree) (environment : Environment) (request : Request) :
    let report := generate tree.disk environment request
    let later := report.applyTo request tree
    match report.result with
    | .error failure =>
      firstFailure? tree.disk environment request = some failure ∧ later = tree
    | .ok document =>
      firstFailure? tree.disk environment request = none ∧
      ∃ options source location, Prepared tree.disk environment request options source ∧
        report.options = some options ∧ document = convert options source ∧
        tree.Rewritten later request.output document location := by
  intro report later
  rcases generate_cases tree.disk environment request with
    ⟨failure, hfirst, hresult⟩ | ⟨options, source, hprepared, hoptions, hresult⟩
  · have hlater : later = tree := by
      show report.applyTo request tree = tree
      rw [Report.applyTo, hresult]
    simp only [report, hresult]
    exact ⟨hfirst, hlater⟩
  · obtain ⟨location, hplace⟩ := place_of_creation hprepared.creation
    have hlater : later = tree.write request.output (convert options source) := by
      show report.applyTo request tree = _
      rw [Report.applyTo, hresult]
    simp only [report, hresult]
    exact ⟨hprepared.firstFailure?_eq_none, options, source, location, hprepared, hoptions, rfl,
      hlater ▸ Files.Tree.rewritten_write hplace _⟩

end DevicetreeHeader.Program
