import LineShell.Userland.Programs.Call
import LineShell.Userland.Programs.QuotedName
import LineShell.Userland.Script.Run
/-!
    The program `sh`: a script from its arguments, from a file or from the standard input. -/

namespace LineShell

open Script

/-- A program with a place to load other programs from. -/
abbrev Program := Loader → Launch → Seat → Behaviour

/-- A utility as a program, which calls itself as it was called in its messages. -/
def Utility.program (u : Utility) : Program := fun _ l dir streams tree =>
  u.run ⟨l.name, l.args, l.vars, dir, l.signals, streams, tree⟩

namespace Script

/-- The number of the process that a script is started as. -/
def shellProcess : Nat := 4242

/-- The variables that every script starts with. -/
def initialVariables : List (Text × Variable) :=
  let plain (value : Text) : Variable := ⟨some value, false, false⟩
  [("IFS", plain " \t\n"), ("PATH", plain systemSearch), ("PS1", plain "$ "),
   ("PS2", plain "> "), ("PS4", plain "+ "), ("OPTIND", plain "1")]

/-- The variables that come with a launch. What has no form of a variable is left out, and what
    separates fields never comes from outside. -/
def importVariables (vars : RawVars) (s : State) : State :=
  let settled : List Text := ["IFS", "OPTIND"]
  vars.foldl (fun s (name, value) =>
    let old := s.vars.lookup name
    if ¬ isName name then s
    else
      let value := if name ∈ settled then old.bind (·.value) else some value
      s.setVariable name ⟨value, true, false⟩) s

/-- The path that a script takes its directory to have: what it was told, if that is true. -/
def startPath (vars : RawVars) (dir : Seat) (tree : FileTree) : Text :=
  let told := (vars.lookup "PWD".toList).filter fun path =>
    path.head? = some '/' ∧ (tree.find .root path.toString).toOption = some dir
  told.getD (Text.ofString (FileTree.placeText dir.place))

/-- The streams that a process starts with, and the descriptors that are open on them. -/
def startStreams (streams : Streams) : Array Stream × List (Nat × Nat) :=
  let input : Stream := match streams.inlet with
    | .directory => .directory
    | .writeOnly => .own .output
    | inlet => .source streams.input inlet
  let opened : List (Nat × Nat) :=
    (if streams.inlet = .closed then [] else [(0, 0)])
      ++ (if streams.output = .closed then [] else [(1, 1)])
      ++ (if streams.error = .closed then [] else [(2, 2)])
  (#[input, .own .output, .own .error], opened)

/-- What a shell starts with. -/
def State.start (l : Launch) (dir : Seat) (streams : Streams) (tree : FileTree) : State :=
  let (opened, descriptors) := startStreams streams
  let logical := startPath l.vars dir tree
  let s : State :=
    { name := l.name, args := [], vars := initialVariables
      functions := [], aliases := [], options := [], descriptors, dir, logical, traps := []
      hidden := l.signals, documents := [], nextDocument := 0, loops := 0, loopStatus := 0
      skip := none, frames := [], depth := 0, command := none, line := 0, nextLine := 1
      status := 0, substituted := 0, process := shellProcess, shell := shellProcess
      lastTask := none, tasks := [], tracked := [], optionIndex := 1, optionOffset := none
      mask := 0o022, tree, streams := opened, writes := []
      ownOutput := streams.output, ownError := streams.error, said := [], failed := false
      pending := [], nextProcess := shellProcess + 1, signals := [] }
  let s := importVariables l.vars s
  let s := s.setVariable "PPID" ⟨some (Text.ofNat (shellProcess - 1)), false, false⟩
  s.setVariable "PWD" ⟨some logical, true, false⟩

/-- How much of what the process was given to read is left. -/
def State.unread (s : State) : Nat :=
  match s.streams.toList.head? with
  | some (.source rest _) => rest.length
  | _ => 0

/-- Runs the script that the arguments of a shell ask for. -/
def runArguments (run : Runner) (args : List Text) : Action Unit := do
  let a ← readShellOptions true (args.length + 1) false args
  match a.command, a.rest with
  | true, [] => abort "-c requires an argument"
  | true, text :: rest =>
    modify fun s => { s with name := rest.headD s.name, args := rest.tail }
    let _ ← runText run false true text
  | false, rest =>
    if rest = [] ∨ (← get).has 's' then
      setOption 's' true
      let s ← get
      let content := (s.readable 0).1
      set { s.take 0 content.length with args := rest }
      let _ ← runFile run content
    else
      let path := rest.headD []
      let s ← get
      match s.tree.read s.dir (Text.toString path) with
      | .error .isDirectory => modify fun s => { s with name := path, args := rest.tail }
      | .error fault => abort (openFault false path fault)
      | .ok content =>
        modify fun s => { s with name := path, args := rest.tail }
        let _ ← runFile run content

end Script

/-- The program that runs scripts. -/
def Program.shell : Program := fun load l dir streams tree =>
  let run := exec load nestingLimit
  let process : Action WaitStatus := do
    let status ← toEnd run (runArguments run l.args)
    settleAll run
    return status
  let finish (status : WaitStatus) (s : State) : Execution :=
    ⟨mergeWrites s.writes [], streams.input.length - s.unread, s.tree, status⟩
  match process.run (.start l dir streams tree) with
  | .ok status s => finish status s
  | .error _ s => finish (.exited s.status) s

end LineShell
