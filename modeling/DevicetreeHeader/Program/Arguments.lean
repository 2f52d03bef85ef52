import DevicetreeHeader.Program.Generation

/-!
# Command-line arguments

The arguments are the paths of the input and the output, the switches and the options with a value,
in any order. They are read from left to right into a draft. A value or a path waits in the draft
until the next switch, option or path is recognised, or the arguments end; only then is it checked
and taken over. Hence an argument that nothing recognises is reported before a flaw of the value
that waits.

`Draft.feed` reads one argument and `Arguments.ofList` all of them.
-/

set_option autoImplicit false
set_option relaxedAutoImplicit false

namespace DevicetreeHeader.Program

/-- Why a command line is refused. -/
inductive UsageError
  /-- An unknown switch or option, or a third path. -/
  | unknownArgument
  /-- A value for a switch. -/
  | tooManyValues
  /-- A switch or an option that is given twice. -/
  | conflict
  /-- An option without its value, or an empty path. -/
  | invalidValue
  /-- Fewer than two paths. -/
  | missingArgument
  deriving DecidableEq, Repr

/-- What ends the reading of a command line before a run. -/
inductive Stop
  /-- The help is asked for, in full if `detailed` is set. -/
  | help (detailed : Bool)
  | version
  | refused (error : UsageError)
  deriving DecidableEq, Repr

/-- The options with a value. -/
inductive Setting
  | config
  | macroPrefix
  | includeGuard
  deriving DecidableEq, Repr

/-- What a word or a letter after hyphens can name. -/
inductive Flag
  | verbose
  | help
  | version
  | setting (setting : Setting)
  deriving DecidableEq, Repr

/-- The flag that a word after two hyphens names. -/
def Flag.ofWord? (word : Text) : Option Flag :=
  [("verbose", verbose), ("help", help), ("version", version), ("config", setting .config),
    ("macro-prefix", setting .macroPrefix), ("include-guard", setting .includeGuard)].findSome?
      fun named ↦ if named.1.toList = word then some named.2 else none

/-- The flag that a letter after one hyphen names. -/
def Flag.ofLetter? : Char → Option Flag
  | 'v' => some verbose
  | 'h' => some help
  | 'V' => some version
  | 'c' => some (setting .config)
  | _ => none

/-- An argument that waits to be taken over. -/
inductive Waiting
  /-- An option, with its value once that has been read. -/
  | value (setting : Setting) (value : Option Text)
  /-- The path of the input or the output. -/
  | path (path : Text)
  deriving DecidableEq, Repr

/-- A command line that has been read in part. -/
structure Draft where
  verbose : Bool := false
  config : Option Text := none
  layer : Layer := {}
  paths : List Text := []
  waiting : Option Waiting := none
  /-- Two hyphens have been read on their own: all that follows are paths. -/
  pathsOnly : Bool := false
  deriving DecidableEq, Repr

namespace Draft

/-- Sets an option: once, and to no empty path. -/
def set (draft : Draft) (value : Text) : Setting → Except Stop Draft
  | .config =>
    if draft.config.isSome then .error (.refused .conflict)
    else if value.isEmpty then .error (.refused .invalidValue)
    else .ok { draft with config := some value }
  | .macroPrefix => setField .macroPrefix
  | .includeGuard => setField .includeGuard
where
  /-- Sets a field of the layer, once. -/
  setField (field : Field) : Except Stop Draft :=
    if (draft.layer.get? field).isSome then .error (.refused .conflict)
    else .ok { draft with layer := draft.layer.set value field }

/-- Takes over what waits. -/
def settle (draft : Draft) : Except Stop Draft :=
  let free := { draft with waiting := none }
  match draft.waiting with
  | none => .ok draft
  | some (.value _ none) => .error (.refused .invalidValue)
  | some (.value setting (some value)) => free.set value setting
  | some (.path path) =>
    if path.isEmpty then .error (.refused .invalidValue)
    else .ok { free with paths := draft.paths ++ [path] }

/-- The number of paths that have been read. -/
def pathCount (draft : Draft) : Nat :=
  match draft.waiting with
  | some (.path _) => draft.paths.length + 1
  | _ => draft.paths.length

/-- Reads a path. -/
def feedPath (draft : Draft) (path : Text) : Except Stop Draft :=
  if 2 ≤ draft.pathCount then .error (.refused .unknownArgument)
  else draft.settle.map fun settled ↦ { settled with waiting := some (.path path) }

/-- Reads a switch. The help comes in full if `detailed` is set. -/
def feedSwitch (draft : Draft) (detailed : Bool) : Flag → Except Stop Draft
  | .verbose =>
    draft.settle.bind fun settled ↦
      if settled.verbose then .error (.refused .conflict) else .ok { settled with verbose := true }
  | .help => draft.settle.bind fun _ ↦ .error (.help detailed)
  | .version => draft.settle.bind fun _ ↦ .error .version
  | .setting setting =>
    draft.settle.map fun settled ↦ { settled with waiting := some (.value setting none) }

/-- Reads a word after two hyphens, with the value that follows its equals sign if it has one. -/
def feedWord (draft : Draft) (word : Text) (value : Option Text) : Except Stop Draft :=
  match Flag.ofWord? word, value with
  | none, _ => .error (.refused .unknownArgument)
  | some flag, none => draft.feedSwitch true flag
  | some (.setting setting), some value => draft.settle.bind fun settled ↦ settled.set value setting
  | some _, some _ => .error (.refused .tooManyValues)

/-- Reads the letters after one hyphen. A letter that names an option takes the rest for its value,
without the equals sign that may come first; if nothing is left the value is still to come. -/
def feedLetters (draft : Draft) : Text → Except Stop Draft
  | [] => .ok draft
  | letter :: rest =>
    match Flag.ofLetter? letter with
    | none => .error (.refused .unknownArgument)
    | some (.setting setting) =>
      match rest with
      | [] => draft.feedSwitch false (.setting setting)
      | '=' :: value => draft.settle.bind fun settled ↦ settled.set value setting
      | value => draft.settle.bind fun settled ↦ settled.set value setting
    | some flag => (draft.feedSwitch false flag).bind fun next ↦ next.feedLetters rest

/-- Reads one argument. A hyphen alone is a value or a path. -/
def feed (draft : Draft) (argument : Text) : Except Stop Draft :=
  if draft.pathsOnly then draft.feedPath argument
  else match argument with
    | ['-', '-'] => .ok { draft with pathsOnly := true }
    | '-' :: '-' :: word =>
      draft.feedWord (word.takeWhile (· ≠ '=')) (word.dropWhile (· ≠ '=')).tail?
    | '-' :: letter :: letters => draft.feedLetters (letter :: letters)
    | _ =>
      match draft.waiting with
      | some (.value setting none) =>
        .ok { draft with waiting := some (.value setting (some argument)) }
      | _ => draft.feedPath argument

end Draft

/-- A command line that asks for a run. -/
structure Arguments where
  verbose : Bool
  request : Request
  deriving DecidableEq, Repr

namespace Arguments

/-- The arguments of a draft that nothing is added to. -/
def ofDraft (draft : Draft) : Except Stop Arguments :=
  draft.settle.bind fun settled ↦
    match settled.paths with
    | [input, output] =>
      .ok {
        verbose := settled.verbose
        request := { input, output, config := settled.config, layer := settled.layer } }
    | _ => .error (.refused .missingArgument)

/-- Reads a command line without the name of the program. -/
def ofList (arguments : List Text) : Except Stop Arguments :=
  (arguments.foldlM Draft.feed {}).bind ofDraft

end Arguments

end DevicetreeHeader.Program
