import LineShell.Invocation
import LineShell.Userland.Editor.Reading
import LineShell.Userland.Programs.System
/-!
    The shell in a system of its own.

    How programs are loaded and how lines are read is not the shell's business: it is given a
    `Loader` and a `LineReader`, and what is proved of it holds for all of them. Here is one system
    that it can run in, with a line editor, a shell for scripts and the usual utilities. Nothing but
    the executable depends on it. -/

namespace LineShell

/-- Runs the shell in the root of the system, with arguments, variables and all of its input. -/
def runInSystem (args : List String) (vars : Vars) (input : Bytes) : Exit :=
  runProgram loadProgram typedLines args ⟨vars, "/", false⟩ ⟨systemTree, .root, input, 0, [], []⟩

end LineShell
