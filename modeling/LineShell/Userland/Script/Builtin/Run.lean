import LineShell.Userland.Script.Builtin.Control
import LineShell.Userland.Script.Builtin.Place
import LineShell.Userland.Script.Builtin.Variables
import LineShell.Userland.Script.Condition
import LineShell.Userland.Script.Format
import LineShell.Userland.Script.Redirect
/-!
    Running programs and builtins for a script. -/

namespace LineShell.Script

/-! ### Programs -/

/-- What a program that could not be started ends with. -/
def startCode (fault : Fault) : Nat :=
  match fault with
  | .notFound | .notDirectory | .linkLoop | .nameTooLong => 127
  | _ => 126

/-- Runs a loaded program on the descriptors of a script. -/
def runProgram (b : Behaviour) : Action WaitStatus := modifyGet fun s =>
  let (input, inlet) := s.readable 0
  let done := b ⟨input, inlet, s.outlet 1, s.outlet 2⟩ s.tree
  let s := { s with tree := done.tree }.take 0 done.taken
  (done.status,
    done.writes.foldl (fun s w => s.deliver (if w.1 = .output then 1 else 2) w.2) s)

/-- The program that scripts are run by. -/
def shellPath : Text := "/bin/sh"

/-- Starts a program and waits for it; how it ends, or why it cannot be started. A file that is no
    program is run as a script. -/
def start (load : Loader) (name : Text) (args : List Text) (path : Text) :
    Action (Except Fault WaitStatus) := do
  let s ← get
  let launch : Launch :=
    ⟨path, name, args, s.environment, FileTree.placeText s.dir.place, s.handedSignals⟩
  let loaded := match load launch s.dir s.tree with
    | .error .notExecutable =>
      load { launch with path := shellPath, name := shellPath, args := path :: launch.args }
        s.dir s.tree
    | loaded => loaded
  match loaded with
  | .error fault => return .error fault
  | .ok behaviour => return .ok (← runProgram behaviour)

/-- Tells why a program cannot be started; the exit code. -/
def startFailure (name : Text) (fault : Fault) : Action Nat := do
  complain (name ++ ": " ++ startFault fault)
  return startCode fault

/-- Ends the process as a program has ended that it has become. -/
def endAs {α : Type} (status : WaitStatus) : Action α := do
  modify fun s => { s with traps := [] }
  if status.signalBits ≠ 0 then die status.signalBits
  setStatus status.code.toNat
  throw .exit

/-- Whether a program takes time and does nothing else. -/
def sleeps (name : Text) : Bool := (cutNonempty '/' name).getLast? = some "sleep".toList

/-- Runs a program as a command. -/
def callProgram (load : Loader) (run : Runner) (final : Bool) (name : Text) (args : List Text)
    (path : Text) : Action Unit := do
  if sleeps name then settleAll run
  match ← start load name args path with
  | .error fault =>
    setStatus (← startFailure name fault)
    if final then throw .exit
  | .ok status =>
    if final then endAs status
    reportEnd status
    setStatus status.code.toNat

/-! ### Builtins -/

/-- Runs words as a command line. -/
def evalWords (run : Runner) (tested : Bool) (words : List Text) : Action Nat := do
  if words = [] then return 0
  let ran ← runText run tested false (([' '] : Text).intercalate words)
  let s ← get
  return if ran then s.status else 0

/-- The file that a script asks to be read. -/
def sourceFile (name : Text) : Action Text := do
  let s ← get
  if '/' ∈ name then return name
  let found := ((cut ':' s.searchPath).map (underDirectory · name)).find? fun path =>
    s.tree.isFile s.dir path.toString
  match found with
  | some path => return path
  | none => abort (name ++ ": not found")

/-- Runs the commands of a file. -/
def sourceWords (run : Runner) (words : List Text) : Action Nat := do
  let (_, words) ← readOptions [] words
  match words with
  | [] => return 0
  | name :: _ =>
    let path ← sourceFile name
    let s ← get
    match s.tree.read s.dir (Text.toString path) with
    | .error .isDirectory => return 0
    | .error fault => abort (openFault false path fault)
    | .ok content =>
      modify fun s => { s with command := some path }
      let ran ← runFile run content
      modify fun s => if s.skip = some .function then { s with skip := none } else s
      let s ← get
      return if ran then s.status else 0

/-- Becomes another program; nothing is to be done without one. -/
def become (load : Loader) (words : List Text) : Action Nat := do
  match words with
  | [] => return 0
  | name :: args =>
    let s ← get
    let outcome ← match findProgram s s.searchPath name with
      | .ok path => start load name args path
      | .error fault => pure (.error fault)
    match outcome with
    | .ok status => endAs status
    | .error fault =>
      setStatus (← startFailure name fault)
      throw .exit

/-- The search path that finds the programs of every system. -/
def systemSearch : Text := Text.ofString defaultSearchPath

/-- Tells about a command instead of running it. -/
def describeWords (words : List Text) : Action Nat := do
  let (options, names) ← readOptions "pvV" words
  match options.find? (·.1 ∈ ['v', 'V']), names with
  | some (letter, _), name :: _ =>
    let search := if options.any (·.1 = 'p') then some systemSearch else none
    describe (letter = 'V') search name
  | _, _ => return 0

/-- Waits for tasks. -/
def waitWords (run : Runner) (words : List Text) : Action Nat := do
  let (_, words) ← readOptions [] words
  if words = [] then
    settleAll run
    return 0
  let mut code := 127
  for word in words do
    let process ← if word.head? = some '%' then Builtin.taskOf word else number word
    let s ← get
    let unsettled := s.pending.any fun (t : Task) => t.process = process && !t.awaited
    match ← settle run process with
    | some status =>
      if unsettled ∧ process ∈ s.tasks then reportEnd status
      code := status.code.toNat
    | none => code := 127
  return code

/-- What a builtin does with its arguments; the exit code. -/
def builtinAction (load : Loader) (run : Runner) (tested : Bool) (name : String)
    (args : List Text) : Action Nat :=
  match name with
  | ":" | "true" => return 0
  | "false" => return 1
  | "echo" => do
    say (echoed args)
    return 0
  | "printf" => do
    let (_, words) ← readOptions [] args
    match words with
    | [] => abort "usage: printf format [arg ...]"
    | format :: args => printFormatted format args
  | "test" => test args
  | "[" =>
    if (args.getLast?.bind (·.head?)) = some ']' then test args.dropLast else abort "missing ]"
  | "." => sourceWords run args
  | "eval" => evalWords run tested args
  | "exec" => become load args
  | "command" => describeWords args
  | "wait" => waitWords run args
  | "break" => Builtin.leaveLoops false args
  | "continue" => Builtin.leaveLoops true args
  | "return" => Builtin.doReturn args
  | "exit" => Builtin.doExit args
  | "export" => Builtin.doExport args
  | "readonly" => Builtin.doReadOnly args
  | "local" => Builtin.localize args
  | "unset" => Builtin.unset args
  | "set" => Builtin.doSet args
  | "shift" => Builtin.shift args
  | "getopts" => Builtin.getOptions args
  | "read" => Builtin.read args
  | "alias" => Builtin.aliases args
  | "unalias" => Builtin.unalias args
  | "cd" | "chdir" => Builtin.cd args
  | "pwd" => Builtin.pwd args
  | "umask" => Builtin.umask args
  | "trap" => Builtin.trap args
  | "kill" => Builtin.kill args
  | "type" => Builtin.type args
  | "hash" => Builtin.hash args
  | "fg" | "bg" => Builtin.foreground args
  | "times" => Builtin.times
  | "ulimit" => Builtin.limits args
  | _ => return 0

/-- Runs a builtin as a command. Its errors end the script only if it is special. -/
def callBuiltin (load : Loader) (run : Runner) (tested special : Bool) (name : Text)
    (args : List Text) : Action Unit := do
  let outer ← get
  set { outer with command := some name, said := [], failed := false }
  let stop ← try
      let code ← builtinAction load run tested (String.ofList name) args
      flush
      let failed := (← get).failed
      if failed then complain (name ++ ": I/O error")
      setStatus (if failed then code ||| 1 else code)
      pure none
    catch stop => pure (some stop)
  modify fun s => { s with command := outer.command, said := outer.said, failed := outer.failed }
  match stop with
  | none => return
  | some .failure =>
    if special then throw .failure
    modify fun s => { s with loops := outer.loops }
  | some stop => throw stop

end LineShell.Script
