import LineShell.History.Request
import LineShell.Search
import LineShell.Session.State
/-!
    Running the shell's own commands.

    A builtin hands its texts back and writes to no channel itself. Its failures have code 0; the
    error text is what tells of them. In a pipeline of several stages the builtins that change the
    session, `cd`, `history` and `exit`, change nothing. -/

namespace LineShell

/-- The exit code that the arguments of `exit` name; 0 if the first is no 32-bit integer. -/
def codeArgument (args : List String) : Int :=
  (args.head?.bind (signedNumeral? 32)).getD 0

/-- Ends the shell, unless as a stage of a pipeline (`exit`). -/
def exitShell (args : List String) (staged : Bool) (s : Session) : Outcome × Session :=
  (.ofCode (codeArgument args),
    if staged then s else { s with env := { s.env with closing := true } })

/-- Says what a name means (`type`). -/
def describeName (name : String) (s : Session) : Outcome :=
  match meaningOf s.env s.machine name with
  | .builtin _     => .printing (name ++ " is a shell builtin\n")
  | .program path  => .printing (name ++ " is " ++ path ++ "\n")
  | .unknown       => .failing 0 (name ++ ": not found\n")

/-- The directory that `cd` goes to: home for no target and for `~`, `none` if there is no home. -/
def cdDestination? (e : Environment) (target : String) : Option String :=
  if target = "" ∨ target = "~" then e.homeDirectory? else some (e.underHome target)

/-- Moves the session to a directory or leaves it where it is (`cd`). -/
def changeDirectory (args : List String) (s : Session) : Outcome × Session :=
  let target := spaced args
  match cdDestination? s.env target with
  | none => (.silent, s)
  | some dir =>
    let missing := Outcome.failing 0 ("cd: " ++ target ++ ": No such file or directory\n")
    if s.machine.tree.isDirectory s.machine.workDir (s.env.fromHere dir) then
      match s.env.moveTo s.machine dir with
      | .ok (env, machine) => (.silent, { s with env, machine })
      | .error _ => (missing, s)
    else (missing, s)

/-- What `history` says of arguments that make no request. -/
def badHistoryArgs (args : List String) : Outcome :=
  .failing 0 ("history: " ++ spaced args ++ ": is not a valid argument\n")

/-- Adds the lines of a file, which has to be a regular file, to the history. -/
def loadEntries (args : List String) (file : String) (s : Session) : Outcome × Session :=
  let path := s.env.fromHere file
  if s.machine.tree.isFile s.machine.workDir path then
    match s.history.load s.machine path with
    | .ok (_, history) => (.silent, { s with history })
    | .error e => (.failing 0 e.report, s)
  else (badHistoryArgs args, s)

/-- Puts all entries of the history into a file. -/
def storeEntries (file : String) (s : Session) : Outcome × Session :=
  match s.history.store s.machine (s.env.fromHere file) with
  | (.ok _, machine) => (.silent, { s with machine })
  | (.error e, machine) => (.failing 0 e.report, { s with machine })

/-- Appends the pending entries of the history to a file. -/
def flushEntries (file : String) (s : Session) : Outcome × Session :=
  match s.history.flush s.machine (s.env.fromHere file) with
  | (.ok (_, history), machine) => (.silent, { s with history, machine })
  | (.error e, machine) => (.failing 0 e.report, { s with machine })

/-- Does with the history what the arguments ask for (`history`). -/
def consultHistory (args : List String) (s : Session) : Outcome × Session :=
  match HistoryRequest.ofArgs? args with
  | none => (badHistoryArgs args, s)
  | some (.list last) => (.printing (s.history.listing last), s)
  | some (.read file) => loadEntries args file s
  | some (.write file) => storeEntries file s
  | some (.append file) => flushEntries file s

/-- A builtin with its arguments; `staged` says that it is a stage of a pipeline. -/
def Builtin.run (b : Builtin) (args : List String) (staged : Bool) (s : Session) :
    Outcome × Session :=
  match b with
  | .echo    => (.printing (spaced args ++ "\n"), s)
  | .pwd     => (.printing (s.env.directory ++ "\n"), s)
  | .type    => (describeName (spaced args) s, s)
  | .exit    => exitShell args staged s
  | .cd      => if staged then (.silent, s) else changeDirectory args s
  | .history => if staged then (.silent, s) else consultHistory args s

end LineShell
