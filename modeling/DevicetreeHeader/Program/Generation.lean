import DevicetreeHeader.Files.Tree
import DevicetreeHeader.Header.Basic
import DevicetreeHeader.Options.Discovery
import DevicetreeHeader.Options.Environment

/-!
# Generating a header file

A run loads the configuration file, takes in the environment, reads the input, and writes the header
to the output, in this order. The first stage that fails ends the run, and nothing is written unless
all succeed. `Program.generate` gives the report of a run on a disk: the events, the options if they
could be settled, and the document or the failure.
-/

set_option autoImplicit false
set_option relaxedAutoImplicit false

namespace DevicetreeHeader.Program

open Files (Disk FileFailure)
open Log (Event)

/-- Why a run has failed. -/
inductive Failure
  | config (cause : ConfigFailure)
  /-- Two variables of the environment set the same field. -/
  | environment (field : Field)
  | input (cause : FileFailure)
  | output (cause : FileFailure)
  deriving DecidableEq, Repr

namespace Failure

/-- What went wrong, the outermost cause first, down to what the reader of TOML says of a file that
it refuses. -/
def chain (failure : Failure) (refusal : List Text := []) : List Text :=
  match failure with
  | config cause => "Failed to load the config file".toList :: cause.chain refusal
  | environment field =>
    ["Invalid configuration in environment variables".toList,
      "duplicate field `".toList ++ fieldName field ++ "`".toList]
  | input cause => ["Failed to read the input".toList, cause.message]
  | output cause => ["Failed to write the output".toList, cause.message]
where
  /-- The name of a field in messages. -/
  fieldName : Field → Text
    | .macroPrefix => "macro_prefix".toList
    | .includeGuard => "include_guard".toList

/-- The wording of a failure: its causes, joined by colons. -/
def message (failure : Failure) (refusal : List Text := []) : Text :=
  ": ".toList.intercalate (failure.chain refusal)

end Failure

/-- What a run is asked to do. -/
structure Request where
  input : Text
  output : Text
  /-- The configuration file to use instead of searching for one. -/
  config : Option Text := none
  /-- What the command line sets. -/
  layer : Layer := {}
  deriving DecidableEq, Repr

/-- The layer of the configuration file of a request. -/
def fileLayer (disk : Disk) (request : Request) : Except ConfigFailure (Option Layer) :=
  match request.config with
  | some path => (Layer.load disk path).map some
  | none => Layer.discover disk request.input

/-- Settles the options of a request, with the events of doing so. -/
def settle (disk : Disk) (environment : Environment) (request : Request) :
    List Event × Except Failure Options :=
  match fileLayer disk request with
  | .error cause => ([], .error (.config cause))
  | .ok file =>
    match environment.layer with
    | .error field => ([.loaded file], .error (.environment field))
    | .ok layer =>
      ([.loaded file], .ok (Options.ofLayers (request.layer :: layer :: file.toList)))

/-- Renders the input of a request to a document that can be written to its output, with the events
of doing so. -/
def render (disk : Disk) (options : Options) (request : Request) :
    List Event × Except Failure Text :=
  match disk.read request.input with
  | .error cause => ([], .error (.input cause))
  | .ok text =>
    let nodes := Node.ofSource text
    let header := Header.ofNodes options nodes
    let events := Node.sourceEvents text ++ header.collisions.map Event.collision
    match disk.creation request.output with
    | .error cause => (events, .error (.output ⟨.creating, request.output, cause⟩))
    | .ok () =>
      (events ++ [.wrote nodes.length header.sections.length request.output], .ok header.text)

/-- What a run has done. -/
structure Report where
  events : List Event
  /-- The options, once they are settled. -/
  options : Option Options
  /-- The document for the output, or why there is none. -/
  result : Except Failure Text

/-- Runs a request. -/
def generate (disk : Disk) (environment : Environment) (request : Request) : Report :=
  match settle disk environment request with
  | (events, .error failure) => ⟨events, none, .error failure⟩
  | (events, .ok options) =>
    let (later, result) := render disk options request
    ⟨events ++ later, some options, result⟩

/-- The tree that a run on it leaves. -/
def Report.applyTo (report : Report) (request : Request) (tree : Files.Tree) : Files.Tree :=
  match report.result with
  | .ok document => tree.write request.output document
  | .error _ => tree

end DevicetreeHeader.Program
