import SchemaSieve.Command.Basic

/-!
# The program

Gives the commands the files, the arguments and the environment of the machine, and prints what they
say.
-/

namespace SchemaSieve

open Files (FileAccess FileError)

namespace Machine

/-- Why the machine refused to read or write. -/
private def fileError : IO.Error → FileError
  | .noFileOrDirectory .. => .notFound
  | .inappropriateType _ 20 _ => .notDirectory
  | .inappropriateType _ 21 _ => .isDirectory
  | .permissionDenied _ code details | .inappropriateType _ code details
  | .resourceExhausted _ code details | .invalidArgument _ code details =>
    .other s!"{details} (os error {code})"
  | .otherError code details => .other s!"{details} (os error {code})"
  | e => .other (toString e)

private def attempt {α : Type} (action : IO α) : IO (Except FileError α) :=
  try return .ok (← action) catch e => return .error (fileError e)

/-- The files of the machine. -/
def files : FileAccess IO where
  readBytes path := attempt (IO.FS.readBinFile path)
  writeText path text := attempt (IO.FS.writeFile path text)
  isPresent path := do
    try
      discard (IO.FS.realPath path)
      return true
    catch _ => return false

/-- The variables of the environment that stand in for options. -/
def environment : IO (List (String × String)) :=
  (Command.Flag.sources.filterMap Command.Flag.envName?).filterMapM fun name => do
    return (← IO.getEnv name).map (name, ·)

end Machine

end SchemaSieve

open SchemaSieve in
def main (args : List String) : IO UInt32 := do
  let environment ← Machine.environment
  let outcome ← Command.runProgram Machine.files (environment.lookup ·) args
  (← IO.getStdout).putStr outcome.printed.results
  (← IO.getStderr).putStr outcome.printed.messages
  return outcome.exitCode.toUInt32
