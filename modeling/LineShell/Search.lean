import LineShell.Builtin.Name
import LineShell.Environment
/-!
    What a command name means.

    A builtin is never searched for. Any other name has a leading `~` expanded and is then looked
    up: an absolute path is itself, a path of one component is looked for in the directories of the
    search path, and any other path is seen from the current directory. What is found is always an
    executable file. -/

namespace LineShell

/-- What a command name means. -/
inductive Meaning where
  | builtin (b : Builtin)
  /-- An executable file, under the path that it was found by. -/
  | program (path : String)
  | unknown
  deriving DecidableEq, Repr

/-- A path, if it means an executable file. -/
def executable? (m : Machine) (path : String) : Option String :=
  if m.isExecutable path then some path else none

/-- The first executable file with a name in the directories of a search path. Empty elements of
    the search path are no directories. -/
def searchCommand (m : Machine) (search name : String) : Option String :=
  (((searchElements search).filter (· ≠ "")).map (joinPath · name)).find? m.isExecutable

/-- The executable file that a path means, if it does. -/
def findCommand (m : Machine) (search path dir : String) : Option String :=
  if isAbsolute path then executable? m path
  else match pathComponents path, endsInSlash path with
    | [], _         => none
    | [name], false => searchCommand m search name
    | _, _          => executable? m (joinPath dir path)

/-- What a command name means in an environment. -/
def meaningOf (e : Environment) (m : Machine) (name : String) : Meaning :=
  match Builtin.ofName? name with
  | some b => .builtin b
  | none => match findCommand m e.commandPath (e.underHome name) e.directory with
    | some path => .program path
    | none => .unknown

end LineShell
