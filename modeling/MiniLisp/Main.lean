import MiniLisp.CommandLine

/-! # The executable

The command line on the real system. -/

namespace MiniLisp.CommandLine

/-- What the system's refusal of a path says. Refusals that are not about paths say nothing. The
    number of a refusal comes with either sign. -/
def FileError.ofSystem? (path : String) : IO.Error → Option FileError
  | .noFileOrDirectory .. => some (.notFound path)
  | .inappropriateType _ n _ =>
    if n = 20 ∨ n = -20 then some (.notDirectory path) else some (.isDirectory path)
  | .invalidArgument _ n _ => if n = 36 ∨ n = -36 then some (.nameTooLong path) else none
  | _ => none

/-- Uses a path, with the refusals that are about it as results. -/
def usePath {α : Type} (path : String) (use : IO α) : IO (Except FileError α) := do
  if path.toList.contains '\x00' then return .error .nullInPath
  try
    return .ok (← use)
  catch e =>
    match FileError.ofSystem? path e with
    | some refusal => return .error refusal
    | none => throw e

/-- The system that the executable runs on. -/
def realSystem : System IO where
  stdin := do (← IO.getStdin).readToEnd
  read path := usePath path (IO.FS.readFile path)
  write path := usePath path do
    let handle ← IO.FS.Handle.mk path .write
    return handle.putStr

end MiniLisp.CommandLine

open MiniLisp MiniLisp.CommandLine in
/-- Runs the program on the arguments of the command line. -/
def main (args : List String) : IO UInt32 := do
  let debug ← IO.getEnv Settings.debugVariable
  match ← realSystem.run ampleFuel debug args with
  | none => return 1
  | some result =>
    IO.eprint result.stderr
    IO.print result.stdout
    match result.ending with
    | .status n | .exit n => return UInt32.ofNat n
    | .failed e => throw (IO.userError e.message)
