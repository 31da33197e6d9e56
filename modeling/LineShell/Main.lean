import LineShell.Userland
/-!
    The shell as an executable.

    It runs on a machine of its own, whose files live as long as the program does: the built
    programs, the devices and a directory for temporary files. Input, output, arguments and a few
    variables are those of the process. -/

namespace LineShell

/-- The variables that are taken over from the process. -/
def inheritedVars : List String := ["HISTFILE", "HOME", "PATH", "TERM"]

/-- The variables of the process that are set, with a search path in any case. -/
def readVars : IO Vars := do
  let given ← inheritedVars.mapM fun name => do
    pure ((← IO.getEnv name).map (name, ·))
  let vars : Vars := given.filterMap id
  pure (if (vars.lookup "PATH").isSome then vars else vars.set "PATH" defaultSearchPath)

/-- All that is left to read from a stream. -/
partial def readAll (stream : IO.FS.Stream) (sofar : ByteArray) : IO ByteArray := do
  let chunk ← stream.read 4096
  if chunk.isEmpty then pure sofar else readAll stream (sofar ++ chunk)

end LineShell

open LineShell in
/-- Runs the shell and ends with its exit status. -/
def main (args : List String) : IO UInt32 := do
  let input ← readAll (← IO.getStdin) .empty
  let done := runInSystem args (← readVars) input.toList
  (← IO.getStdout).write done.machine.output.toByteArray
  (← IO.getStderr).write done.machine.diagnostics.toByteArray
  pure done.status.toUInt32
