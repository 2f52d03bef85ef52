import DevicetreeHeader.Log.Filter
import DevicetreeHeader.Program.Arguments
import DevicetreeHeader.Program.Help

/-!
# Whole runs

A run starts from the command line, the environment and a disk, and ends with an exit status, what
it has printed and logged, and perhaps a document for its output. The status is 0 if the document
has been written or a text was asked for, 1 if the run has failed, and 2 if the command line is
refused.
-/

set_option autoImplicit false
set_option relaxedAutoImplicit false

namespace DevicetreeHeader.Program

open Files (Disk)

/-- What the readers of TOML and of command lines say in words of their own. These are given with a
run, which prints them as they are; if they are not given they are left out. -/
structure Wording where
  /-- What is said of the configuration file of the run if it is refused: the message of the reader,
  and those of the causes below it. -/
  refusal : List Text := []
  /-- What is said of the command line if it is refused, with the usage. -/
  usage : Text := []
  deriving DecidableEq, Repr

/-- What a run leaves behind. -/
structure Outcome where
  exit : Nat
  stdout : Text := []
  /-- The error message, without a line end and without the log. A command line that is refused has
  no other message than `Wording.usage`, so that this is empty where these words are left out. -/
  stderr : Text := []
  /-- The lines of the log. -/
  log : List Text := []
  /-- The path of the output and its document, if it is to be written. -/
  written : Option (Text × Text) := none
  deriving DecidableEq, Repr

/-- The line that names the output of a run that has succeeded. -/
def successLine (output : Text) : Text :=
  "\x1b[32mHeader generated at\x1b[39m ".toList ++ output ++ ['\n']

/-- The text before the message of a failure. -/
def errorMark : Text :=
  "\x1b[1m\x1b[31merror\x1b[39m\x1b[0m: ".toList

/-- The filter of the log: the one in the environment, or warnings and, if asked for, notices. -/
def logFilter (environment : Environment) (verbose : Bool) : Log.Filter :=
  let usual := Log.Filter.upTo (if verbose then .info else .warn)
  match environment.get? "RUST_LOG".toList with
  | some text => Log.Filter.ofText usual text
  | none => usual

/-- The outcome of a request. -/
def Outcome.ofReport (filter : Log.Filter) (output : Text) (report : Report)
    (wording : Wording := {}) : Outcome :=
  let log := (report.events.filter filter.admits).map Log.Event.tracedLine
  match report.result with
  | .ok document =>
    { exit := 0, stdout := successLine output, log, written := some (output, document) }
  | .error failure => { exit := 1, stderr := errorMark ++ failure.message wording.refusal, log }

/-- The outcome of a command line that asks for no run. -/
def Outcome.ofStop (stop : Stop) (wording : Wording := {}) : Outcome :=
  match stop with
  | .help detailed => { exit := 0, stdout := if detailed then fullHelp else shortHelp }
  | .version => { exit := 0, stdout := versionText }
  | .refused _ => { exit := 2, stderr := wording.usage }

/-- Runs the program. -/
def run (disk : Disk) (environment : Environment) (arguments : List Text)
    (wording : Wording := {}) : Outcome :=
  match Arguments.ofList arguments with
  | .error stop => .ofStop stop wording
  | .ok ⟨verbose, request⟩ =>
    .ofReport (logFilter environment verbose) request.output (generate disk environment request)
      wording

/-- The tree that an outcome leaves. -/
def Outcome.applyTo (outcome : Outcome) (tree : Files.Tree) : Files.Tree :=
  match outcome.written with
  | some (path, document) => tree.write path document
  | none => tree

/-- The paths from which a request may read. -/
def Request.sources (request : Request) : List Text :=
  request.input ::
    match request.config with
    | some path => [path]
    | none => (Files.candidates (Layer.directoryOf request.input) Layer.fileName).map (·.path)

/-- The paths from which a run with the given arguments may read. -/
def sources (arguments : List Text) : List Text :=
  match Arguments.ofList arguments with
  | .ok ⟨_, request⟩ => request.sources
  | .error _ => []

end DevicetreeHeader.Program
