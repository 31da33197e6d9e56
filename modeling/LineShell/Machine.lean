import LineShell.File.Access
/-!
    The machine that the shell works on: its files, the directory the shell's process is in, what is
    left of the shell's standard input, and what its standard output and error have received. -/

namespace LineShell

/-- The machine as the shell's process sees it. -/
structure Machine where
  tree : FileTree
  workDir : Seat
  /-- What is left to read from the standard input. -/
  input : Bytes
  /-- How many bytes of the standard input have been read. -/
  inputRead : Nat
  /-- What the standard output has received. -/
  output : Bytes
  /-- What the standard error has received. -/
  diagnostics : Bytes

namespace Machine

/-- The machine after text on the process's standard output. -/
def print (m : Machine) (text : String) : Machine :=
  { m with output := m.output ++ Bytes.ofText text }

/-- The machine after text on the process's standard error. -/
def complain (m : Machine) (text : String) : Machine :=
  { m with diagnostics := m.diagnostics ++ Bytes.ofText text }

/-- The machine after bytes of the standard input have been read. -/
def readInput (m : Machine) (count : Nat) : Machine :=
  { m with input := m.input.drop count, inputRead := m.inputRead + count }

/-- Writes bytes to an open file, whether or not that is possible. -/
def writeOpen (m : Machine) (f : OpenFile) (bytes : Bytes) : OpenFile × Machine :=
  let (f, tree) := m.tree.writeAnyway f bytes
  (f, { m with tree })

/-- Whether a path means a regular file with an execute bit. -/
def isExecutable (m : Machine) (path : String) : Bool := m.tree.isExecutable m.workDir path

/-- Opens a file for writing. -/
def openFile (m : Machine) (path : String) (append : Bool) : Except Fault OpenFile × Machine :=
  let (r, tree) := m.tree.openFile m.workDir path append
  (r, { m with tree })

/-- Moves the process to the directory that a path means. -/
def enter (m : Machine) (path : String) : Except Fault Machine :=
  match m.tree.enterDirectory m.workDir path with
  | .ok s => .ok { m with workDir := s }
  | .error f => .error f

/-- Removes what is at a place, and everything below it. A process in a directory that goes stays
    there. -/
def remove (m : Machine) (p : Place) : Machine :=
  { m with tree := m.tree.remove p, workDir := m.workDir.afterRemoval p }

/-- Writes text to an open file, whether or not that is possible. -/
def writeText (m : Machine) (f : OpenFile) (text : String) : Machine :=
  (m.writeOpen f (Bytes.ofText text)).2

/-- Opens a file, writes text to it and closes it. -/
def writeFile (m : Machine) (path : String) (append : Bool) (text : String) :
    Except Fault Unit × Machine :=
  let (r, tree) := m.tree.writeFile m.workDir path append (Bytes.ofText text)
  (r, { m with tree })

end Machine

end LineShell
