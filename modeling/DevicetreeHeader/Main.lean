import DevicetreeHeader.Program.Run

/-!
# The program

The outer layer of the command line program. It takes the arguments and the variables of the
process, looks at the files that a run may read, and hands all of this to `Program.run`; then it
writes, prints and exits as the outcome says. If the output cannot be created, the run is done once
more on a disk that says so.
-/

set_option autoImplicit false
set_option relaxedAutoImplicit false

namespace DevicetreeHeader.Program

open Files (Cause Entry)

/-- The number of an error of the system, which may be given negated. -/
def errorNumber (code : UInt32) : Nat :=
  min code.toNat (-code).toNat

/-- The cause of an error of the system. -/
def causeOf (error : IO.Error) : Cause :=
  match error with
  | .noFileOrDirectory .. => .notFound
  | .inappropriateType _ code _ => if errorNumber code = 21 then .isDirectory else .notDirectory
  | .permissionDenied _ code _ =>
    .other ("Permission denied (os error ".toList ++ Text.ofNat (errorNumber code) ++ [')'])
  | other => .other other.toString.toList

/-- What stands at a path. -/
def observe (path : Text) : IO (Text × Except Cause Entry) := do
  try
    return (path, .ok (.file (← IO.FS.readBinFile (String.ofList path))))
  catch error =>
    match causeOf error with
    | .isDirectory => return (path, .ok .directory)
    | cause => return (path, .error cause)

/-- Runs the program and writes what it has to write. The readers of TOML and of command lines have
no words of their own here. -/
def perform (arguments : List Text) : IO Outcome := do
  let block := String.fromUTF8? (← IO.FS.readBinFile "/proc/self/environ")
  let environment := Environment.ofBlock (block.getD "").toList
  let observed ← (sources arguments).mapM observe
  let outcome := run (.ofObserved observed (.ok ())) environment arguments
  match outcome.written with
  | none => return outcome
  | some (path, document) =>
    try
      IO.FS.writeFile (String.ofList path) (String.ofList document)
      return outcome
    catch error =>
      return run (.ofObserved observed (.error (causeOf error))) environment arguments

end DevicetreeHeader.Program

open DevicetreeHeader in
/-- Runs the program on the arguments of the process. -/
def main (arguments : List String) : IO UInt32 := do
  let outcome ← Program.perform (arguments.map String.toList)
  for line in outcome.log do
    IO.eprintln (String.ofList line)
  unless outcome.stderr.isEmpty do
    IO.eprintln (String.ofList outcome.stderr)
  IO.print (String.ofList outcome.stdout)
  return outcome.exit.toUInt32
