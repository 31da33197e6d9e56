import LineShell.Machine
/-!
    What commands are run in: variables, the current directory, and whether the shell is to end.

    The current directory is a text, and the machine has a place that the process is in; `moveTo`
    moves both to the same directory or neither. -/

namespace LineShell

/-- The variables, each name once. -/
abbrev Vars := List (String × String)

/-- The variables with one of them set. -/
def Vars.set (vars : Vars) (name value : String) : Vars :=
  (name, value) :: vars.filter (·.1 ≠ name)

/-- The variables in the order of their names. -/
def Vars.sorted (vars : Vars) : Vars := vars.mergeSort fun a b => a.1 ≤ b.1

/-- The name and the value in a text `name=value`; the value may hold the sign again. -/
def splitVariable (text : String) : String × String :=
  let name := text.toList.takeWhile (· ≠ '=')
  (String.ofList name, String.ofList (text.toList.drop (name.length + 1)))

/-- The variables as a program is given them: in the order of their names, each as one text. A
    program that reads a text ends the name at the first sign. -/
def Vars.handed (vars : Vars) : Vars :=
  vars.sorted.map fun v => splitVariable (v.1 ++ "=" ++ v.2)

/-- Where the programs of every system are. -/
def defaultSearchPath : String := "/usr/local/sbin:/usr/local/bin:/usr/sbin:/usr/bin:/sbin:/bin"

/-- What commands are run in. -/
structure Environment where
  vars : Vars
  directory : String
  closing : Bool

namespace Environment

/-- The value of a variable. -/
def get? (e : Environment) (name : String) : Option String := e.vars.lookup name

/-- The environment with a variable set. -/
def set (e : Environment) (name value : String) : Environment :=
  { e with vars := e.vars.set name value }

/-- The value of a variable, unless it is empty. -/
def getNonempty? (e : Environment) (name : String) : Option String :=
  (e.get? name).filter (· ≠ "")

/-- The home directory. -/
def homeDirectory? (e : Environment) : Option String := e.getNonempty? "HOME"

/-- The file that keeps the history. -/
def historyFile? (e : Environment) : Option String := e.getNonempty? "HISTFILE"

/-- Where commands are searched. -/
def commandPath (e : Environment) : String := (e.get? "PATH").getD ""

/-- A word with the home directory in the place of a leading `~` that is followed by a slash or by
    nothing. Without a home directory words stay as they are. -/
def underHome (e : Environment) (word : String) : String :=
  match word.toList, e.homeDirectory? with
  | ['~'], some home => joinPath home ""
  | '~' :: '/' :: rest, some home => joinPath home (String.ofList (rest.dropWhile (· = '/')))
  | _, _ => word

/-- A path as seen from the current directory. -/
def fromHere (e : Environment) (path : String) : String := joinPath e.directory path

/-- Moves to a directory: the path of its own place, without links, is found first, then the process
    goes there, and only then does the text of the current directory follow it. -/
def moveTo (e : Environment) (m : Machine) (path : String) :
    Except Fault (Environment × Machine) :=
  match m.tree.resolveDirectory m.workDir (e.fromHere path) with
  | .error f => .error f
  | .ok s => match m.enter (FileTree.placeText s.place) with
    | .error f => .error f
    | .ok m => .ok ({ e with directory := FileTree.placeText s.place }, m)

end Environment

end LineShell
