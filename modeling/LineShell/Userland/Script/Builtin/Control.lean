import LineShell.Userland.Script.Lookup
import LineShell.Userland.Script.Options
/-!
    The builtins that say how a script goes on, and those about signals and other processes. -/

namespace LineShell.Script.Builtin

/-- Leaves loops, or goes on with the last of them. -/
def leaveLoops (again : Bool) (args : List Text) : Action Nat := do
  let n ← match args with
    | arg :: _ => do
      let n ← number arg
      if n = 0 then abort ("Illegal number: " ++ arg)
      pure n
    | [] => pure 1
  let n := min n (← get).loops
  if n > 0 then modify fun s => { s with skip := some (.loops n again) }
  return 0

/-- Leaves a function or a file. -/
def doReturn (args : List Text) : Action Nat := do
  let status ← match args with
    | arg :: _ => number arg
    | [] => pure (← get).status
  modify fun s => { s with skip := some .function }
  return status

/-- Ends the shell. -/
def doExit (args : List Text) : Action Nat := do
  match args with
  | arg :: _ => setStatus (← number arg)
  | [] => pure ()
  throw .exit

/-- What the word of a trap does to the signal: no action takes the trap back. -/
def setTrap (signal : Signal) (action : Option Text) : Action Unit := modify fun s =>
  let others := s.traps.filter (·.1 ≠ signal)
  match action with
  | some text => { s with traps := (signal, text) :: others }
  | none => { s with traps := others }

/-- Sets what is done about signals, or lists it. -/
def trap (args : List Text) : Action Nat := do
  let (_, words) ← readOptions [] args
  match words with
  | [] =>
    let s ← get
    for signal in List.range signalLimit do
      match s.trap? signal with
      | some action =>
        say ("trap -- " ++ quotedWord action ++ " " ++ (Signal.name signal).toList ++ "\n")
      | none => pure ()
    return 0
  | first :: rest =>
    let numeric := first ≠ [] && first.all Char.isDigit && (Signal.ofText? 0 first).isSome
    let (action, names) : Option Text × List Text :=
      if rest = [] ∨ numeric then (none, words)
      else (if first = ['-'] then none else some first, rest)
    for name in names do
      match Signal.ofText? 0 name with
      | some signal => setTrap signal action
      | none =>
        let _ ← write 2 ("trap: " ++ name ++ ": bad trap\n")
        return 1
    return 0

/-! ### Processes -/

/-- How a command that runs beside the shell is to end when it gets a signal before it has run. -/
def Task.signaled (t : Task) (signal : Signal) : Task :=
  match t.outcome with
  | some _ => t
  | none => if signal = 0 ∨ Signal.isHarmless signal ∨ t.scope.hidden.hides signal then t
      else { t with outcome := some (.signaled signal) }

/-- Sends a signal; whether there is such a process. -/
def send (process : Nat) (signal : Signal) : Action Bool := do
  let s ← get
  if process = s.process ∨ process = s.shell then
    if signal ≠ 0 ∧ (process, signal) ∉ s.signals then
      set { s with signals := s.signals ++ [(process, signal)] }
    return true
  else if s.pending.any fun (t : Task) => t.process = process && !t.awaited then
    set { s with pending := s.pending.map fun (t : Task) =>
      if t.process = process then Task.signaled t signal else t }
    return true
  else return false

/-- The task that a word such as `%1` means. -/
def taskOf (word : Text) : Action Nat := do
  let s ← get
  let tasks := s.tasks
  let found := match word with
    | ['%'] | ['%', '%'] | ['%', '+'] => tasks.getLast?
    | '%' :: ds => if ds ≠ [] ∧ ds.all Char.isDigit then
        let n := digitsIn 10 ds
        if n = 0 then none else tasks[n - 1]?
      else none
    | _ => none
  match found with
  | some process => return process
  | none => abort ("No such job: " ++ word)

/-- How `kill` is called. -/
def killUsage : Text :=
  "Usage: kill [-s sigspec | -signum | -sigspec] [pid | job]... or\nkill -l [exitstatus]"

/-- Lists signals, or tells the one that a number stands for. -/
def listSignals (words : List Text) : Action Nat := do
  match words with
  | [] => say (Text.ofLines ("0".toList :: signalNames.map String.toList))
  | word :: _ =>
    let n ← number word
    let signal := if n > 128 then n - 128 else n
    if 0 < signal ∧ signal < signalLimit then say ((Signal.name signal).toList ++ "\n")
    else abort ("invalid signal number or exit status: " ++ word)
  return 0

/-- Sends a signal to processes. -/
def kill (args : List Text) : Action Nat := do
  if args = [] then abort killUsage
  let (signal, lists, words) ← match args with
    | ('-' :: name) :: rest => match Signal.ofText? 1 name with
      | some signal => pure (some signal, false, rest)
      | none =>
        let (options, rest) ← readOptions "ls:" args
        let mut signal : Option Signal := none
        for (letter, value) in options do
          if letter = 's' then
            match Signal.ofText? 1 value with
            | some s => signal := some s
            | none => abort ("invalid signal number or name: " ++ value)
        pure (signal, options.any (·.1 = 'l'), rest)
    | _ => pure (none, false, args)
  if lists then
    if signal.isSome then abort killUsage
    return ← listSignals words
  if words = [] then abort killUsage
  let mut code := 0
  for word in words do
    let process ← if word.head? = some '%' then taskOf word
      else if word.head? = some '-' then (do let _ ← number (word.drop 1); pure 0)
      else number word
    if !(← send process (signal.getD terminateSignal)) then
      complain "No such process\n"
      code := 1
  return code

/-- The jobs of a shell that has none to show. -/
def foreground (words : List Text) : Action Nat := do
  match words with
  | word :: _ =>
    let _ ← taskOf word
    abort "job not created under job control"
  | [] => abort "No current job"

/-! ### Names -/

/-- Tells what names mean. -/
def type (args : List Text) : Action Nat := do
  let mut code := 0
  for name in args do
    let found ← describe true none name
    if found ≠ 0 then code := found
  return code

/-- The programs whose places are remembered. -/
def hash (args : List Text) : Action Nat := do
  let (options, names) ← readOptions "r" args
  if options ≠ [] then
    modify fun s => { s with tracked := [] }
    return 0
  let mut code := 0
  if names = [] then
    let s ← get
    for (name, stale) in State.inSlots 31 s.tracked do
      match findProgram s s.searchPath name with
      | .ok path => say (path ++ (if stale then "*\n" else "\n"))
      | .error _ => pure ()
  for name in names do
    let s ← get
    match senseOf s false s.searchPath name with
    | .program _ =>
      modify fun s => { s with tracked := s.tracked.filter (·.1 ≠ name) ++ [(name, false)] }
    | .missing _ =>
      complain (name ++ ": not found")
      code := 1
    | _ => pure ()
  return code

/-- The time that the shell and its programs have taken. -/
def times : Action Nat := do
  say "0m0.000000s 0m0.000000s\n0m0.000000s 0m0.000000s\n"
  return 0

/-- The limits of the shell, none of which is set. -/
def limits (args : List Text) : Action Nat := do
  let (_, words) ← readOptions "HSacdflmnprstvw" args
  if 1 < words.length then abort "too many arguments"
  say "unlimited\n"
  return 0

end LineShell.Script.Builtin
