import Treebank.CommandLine.Run

/-!
# The program

Looks up the files that the arguments name, and shows the outcome of the run.
-/

namespace Treebank.CommandLine

/-- The cause that the system tells. -/
def causeOf : IO.Error → File.Cause
  | .noFileOrDirectory .. => .missing
  | .permissionDenied .. => .denied
  | .alreadyExists _ n t | .otherError n t | .resourceBusy n t | .resourceVanished n t
  | .unsupportedOperation n t | .hardwareFault n t | .unsatisfiedConstraints n t
  | .illegalOperation n t | .protocolError n t | .timeExpired n t | .interrupted _ n t
  | .invalidArgument _ n t | .resourceExhausted _ n t | .inappropriateType _ n t
  | .noSuchThing _ n t =>
    match n with
    | 20 => .notFolder
    | 21 => .isFolder
    | 36 => .tooLong
    | _ => .other n.toNat t
  | .unexpectedEof => .other 5 "Input/output error"
  | .userError t => .other 5 t

/-- The bytes of a file. -/
def readBytes (path : String) : IO (Except File.Cause (List Nat)) := do
  try return .ok ((← IO.FS.readBinFile path).toList.map UInt8.toNat)
  catch e => return .error (causeOf e)

/-- A file can be written; whether it is there or not, nothing is changed by this. -/
def tryWriting (path : String) : IO (Except File.Cause Unit) := do
  let before ← readBytes path
  try
    let _ ← IO.FS.Handle.mk path .append
    match before with
    | .error .missing => IO.FS.removeFile path
    | _ => pure ()
    return .ok ()
  catch e => return .error (causeOf e)

/-- The paths of the files that are read. -/
def pathsToRead (o : Options) : List String :=
  (o.ruleFiles ++ if o.treeFile == "-" then [] else [o.treeFile]).map File.normalize

/-- What the run works on, as the system tells it. -/
def lookAround (o : Options) : IO Surroundings := do
  let contents ← (pathsToRead o).mapM fun p => return (p, ← readBytes p)
  let traces ← o.traceFile.toList.mapM fun p => return (p, ← tryWriting p)
  let input ← if o.treeFile == "-" then (← IO.getStdin).readToEnd else pure ""
  return {
    files := {
      read := fun p => (contents.lookup p).getD (.error .missing)
      write := fun p => (traces.lookup p).getD (.error .missing) }
    input }

/-- More rounds than any run takes. -/
def manyRounds : Nat := 18446744073709551616

/-- Shows the outcome of a run. -/
def present (o : Outcome) : IO UInt32 := do
  match o.written with
  | none => pure ()
  | some (path, text) => IO.FS.writeFile path text
  IO.print o.output
  IO.eprint o.errors
  return o.code.toUInt32

end Treebank.CommandLine

open Treebank Treebank.CommandLine in
def main (args : List String) : IO UInt32 := do
  let surroundings ← match readArguments HeadFinder.names args with
    | .ok (.work o) => lookAround o
    | _ => pure ⟨⟨fun _ => .error .missing, fun _ => .error .missing⟩, ""⟩
  present (CommandLine.run args surroundings manyRounds)
