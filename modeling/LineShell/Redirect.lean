import LineShell.Environment
import LineShell.Error
import LineShell.Line.Command
/-!
    Opening the targets of a command's redirections.

    Targets are opened as seen from the current directory, the output's before the error's. If the
    second cannot be opened the first has been opened all the same, so its file is there and, unless
    it is appended to, empty. -/

namespace LineShell

/-- The files that a command's channels are redirected to. -/
structure Redirects where
  output : Option OpenFile
  error : Option OpenFile
  deriving DecidableEq, Repr

/-- No redirection at all. -/
def Redirects.none : Redirects := ⟨.none, .none⟩

/-- Opens a target, if there is one. -/
def openChannel (e : Environment) (m : Machine) :
    Option Target → Except Failure (Option OpenFile) × Machine
  | .none => (.ok .none, m)
  | some target =>
    let path := e.fromHere target.path
    match m.openFile path target.append with
    | (.ok file, m)     => (.ok (some file), m)
    | (.error fault, m) => (.error (.redirect path fault), m)

/-- Opens the targets of a command. -/
def openChannels (e : Environment) (m : Machine) (c : Command) :
    Except Failure Redirects × Machine :=
  match openChannel e m c.output with
  | (.error err, m) => (.error err, m)
  | (.ok output, m) => match openChannel e m c.error with
    | (.error err, m) => (.error err, m)
    | (.ok error, m)  => (.ok ⟨output, error⟩, m)

end LineShell
