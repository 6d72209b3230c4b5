import MazeChase.CommandLine

/-!
# The program

Reads the files that the options name, plays the session and prints the report. The exit code is 0
after a session, 1 if the session cannot start, and 2 if the arguments describe none.
-/

set_option autoImplicit false

namespace MazeChase

/-- The system reports an error by this code, or by its negative. -/
def isCode (code expected : UInt32) : Bool := code == expected || -code == expected

/-- Why the system does not give the text of a file. -/
def fileErrorOf : IO.Error → FileError
  | .noFileOrDirectory .. => .missing
  | .inappropriateType _ code _ => if isCode code 21 then .isFolder else .notFolder
  | .invalidArgument filename code details =>
    if isCode code 36 then .tooLong
    else .other (toString (IO.Error.invalidArgument filename code details))
  | e => .other (toString e)

/-- The text of a file, or the reason why it cannot be read. -/
def readFile (path : String) : IO (Except FileError String) := do
  try
    return .ok (← IO.FS.readFile path)
  catch e => return .error (fileErrorOf e)

/-- The files that an invocation names. -/
def readFiles (i : Invocation) : IO (List (String × Except FileError String)) :=
  i.paths.mapM fun path => return (path, ← readFile path)

end MazeChase

open MazeChase in
def main (args : List String) : IO UInt32 := do
  match Invocation.ofArgs? args with
  | none =>
    IO.eprintln "usage: maze-chase [--config FILE] [--layout FILE] [--ticks N] [--seed N]"
    IO.eprintln "  [--update-period N] [--moves SCRIPT] [--chase-at N] [--sequential]"
    IO.eprintln "  [--stop-on-outcome]"
    return 2
  | some i =>
    let files ← readFiles i
    match i.run fun path => (files.lookup path).getD (.error .missing) with
    | .ok summary =>
      summary.report.forM IO.println
      return 0
    | .error failure =>
      failure.report.forM IO.eprintln
      return 1
