import LineShell.Userland.Script.Expand
import LineShell.Userland.Script.Grammar
/-!
    The processes of a script: what they read, which signals they get, and how they end.

    A process that is started is run at once and to its end, with a scope of its own. One in the
    background is kept as a task, which is run when it is waited for, when the shell sleeps, or when
    its shell ends. -/

namespace LineShell.Script

/-- How the commands inside a command are run. `tested` says that somebody looks at what the command
    ends with, `final` that the process ends with it. -/
abbrev Runner := (tested final : Bool) → Cmd → Action Unit

/-! ### Streams -/

/-- Makes a stream; its number. -/
def newStream (stream : Stream) : Action Nat := modifyGet fun s =>
  (s.streams.size, { s with streams := s.streams.push stream })

/-- Points a descriptor to a stream. -/
def point (fd id : Nat) : Action Unit := modify fun s =>
  { s with descriptors := (fd, id) :: s.descriptors.filter (·.1 ≠ fd) }

/-- Takes what has been written to a pipe out of it, which is closed then. -/
def drain (id : Nat) : Action Bytes := modifyGet fun (s : State) => match s.streams[id]? with
  | some (.pipe chunks _) =>
    (chunks.reverse.flatten, { s with streams := s.streams.setIfInBounds id (.pipe [] 0) })
  | _ => ([], s)

/-- Whether all that could be read from a stream has been. -/
def isExhausted (id : Nat) : Action Bool := do
  match (← get).streams[id]? with
  | some (.source rest _) => return rest = []
  | _ => return true

/-! ### Texts as scripts -/

/-- The reader at the end of the line that has been begun since only a certain text was left. -/
def Reader.atNextLine (r : Reader) (before : Text) : Reader :=
  let taken := before.take (before.length - r.rest.length)
  if taken.getLast?.all (· = '\n') then r
  else { r with rest := (r.rest.dropWhile (· ≠ '\n')).tail }

/-- Runs the commands of a text; whether there are any. The last of them may be final. -/
def runReader (run : Runner) (tested final : Bool) : Nat → Bool → Reader → Action Bool
  | 0, ran, _ => return ran
  | n + 1, ran, reader => do
    let s ← get
    let reader := { reader with
      aliases := s.aliases, nextDocument := s.nextDocument, documents := [] }
    let echo (r : Reader) : Action Unit := do
      if reader.shows ∧ s.has 'v' then
        let _ ← write 2 (reader.rest.take (reader.rest.length - r.rest.length))
    match readCommand.run reader with
    | .error message r =>
      echo (r.atNextLine reader.rest)
      modify fun s => { s with line := r.line }
      abort ("Syntax error: " ++ message)
    | .ok reply r =>
      echo r
      modify fun s => { s with
        documents := r.documents ++ s.documents, nextDocument := r.nextDocument
        nextLine := r.line }
      match reply with
      | .ending => return ran
      | .command .skip _ => runReader run tested final n ran r
      | .command c atEnd =>
        run tested (final && atEnd) c
        if (← get).skip.isSome then return true
        runReader run tested final n true r

/-- Runs the commands of a text; whether there are any. -/
def runText (run : Runner) (tested final : Bool) (text : Text) : Action Bool := do
  let s ← get
  let ran ← runReader run tested final (text.length + 2) false
    (.ofText text s.aliases s.nextDocument false)
  modify fun t => { t with nextLine := s.nextLine }
  return ran

/-- Runs the commands of a file; whether there are any. Bytes of zero count for nothing. -/
def runFile (run : Runner) (content : Bytes) : Action Bool := do
  let s ← get
  let text := (Text.ofBytes content).filter (· ≠ border)
  let ran ← runReader run false false (text.length + 2) false
    (.ofText text s.aliases s.nextDocument true)
  modify fun t => { t with nextLine := s.nextLine }
  return ran

/-! ### Signals -/

/-- Does what is to be done about the signals that the process has got. -/
def answerSignals (run : Runner) : Action Unit := do
  let s ← get
  if s.signals = [] then return
  let (mine, others) := s.signals.partition (·.1 = s.process)
  set { s with signals := others }
  for (_, signal) in mine do
    let s ← get
    let action := if signal = killSignal then none else s.trap? signal
    if !s.hidden.hides signal then
      match action with
      | none => if ¬ Signal.isHarmless signal then die signal
      | some [] => pure ()
      | some action =>
        let _ ← runText run false false action
        if (← get).skip ≠ some .function then setStatus s.status

/-- Tells how a program that was waited for ended, if a signal ended it. -/
def reportEnd (status : WaitStatus) : Action Unit := do
  match Signal.report? status.signalBits with
  | some text =>
    let _ ← write 2 (text.toList ++ "\n")
  | none => pure ()

/-! ### Processes -/

/-- Runs a body to the end of its process, with what its trap for the end asks for. -/
def toEnd (run : Runner) (body : Action Unit) : Action WaitStatus := do
  let stop ← try
      body
      pure none
    catch stop => pure (some stop)
  match stop with
  | some (.killed signal) => return .signaled signal
  | _ =>
    let s ← get
    match s.trap? 0 with
    | some (c :: cs) =>
      set { s with traps := s.traps.filter (·.1 ≠ 0), skip := none }
      let stop ← try
          let _ ← runText run false false (c :: cs)
          pure none
        catch stop => pure (some stop)
      match stop with
      | some (.killed signal) => return .signaled signal
      | some _ => return .exited (← get).status
      | none => return .exited s.status
    | _ => return .exited s.status

/-- Runs a body with another scope as a process of its own, and then what goes on without it. -/
def inScope (run : Runner) (scope : Scope) (body others : Action Unit) : Action WaitStatus := do
  let outer ← get
  set (outer.withScope scope)
  let status ← toEnd run body
  others
  modify fun s => s.withScope outer.toScope
  return status

/-- How deep tasks can be started by tasks. -/
def taskDepth : Nat := 1000

/-- Finds out how a task ends, which is run now unless it has been before, and its own tasks after
    it. -/
def settleTask (run : Runner) : Nat → Nat → Action (Option WaitStatus)
  | 0, _ => return none
  | n + 1, process => do
    let s ← get
    match s.pending.find? fun (t : Task) => t.process = process with
    | none => return none
    | some t =>
      let record (status : WaitStatus) : Action Unit := modify fun s =>
        { s with pending := s.pending.map fun (t : Task) =>
            if t.process = process then { t with outcome := some status, awaited := true } else t }
      record (t.outcome.getD (.exited 0))
      match t.outcome with
      | some status => return some status
      | none =>
        let status ← inScope run t.scope (run false true t.body) do
          for inner in (← get).tasks do
            let _ ← settleTask run n inner
        record status
        return some status

/-- Finds out how a task ends, which is run now unless it has been before. -/
def settle (run : Runner) (process : Nat) : Action (Option WaitStatus) :=
  settleTask run taskDepth process

/-- Runs the tasks of the process that have not been run. -/
def settleAll (run : Runner) : Action Unit := do
  for process in (← get).tasks do
    let _ ← settle run process

/-- The scope of a process that the script starts. -/
def childScope : Action Scope := modifyGet fun s =>
  ({ s.toScope with
      process := s.nextProcess, traps := s.traps.filter (·.2 = []), tasks := [], skip := none },
    { s with nextProcess := s.nextProcess + 1 })

/-- Runs a body as a process that is waited for. -/
def fork (run : Runner) (body : Action Unit) : Action WaitStatus := do
  let scope ← childScope
  inScope run scope body (settleAll run)

/-- Starts a command as a process that is not waited for. -/
def spawn (body : Cmd) : Action Unit := do
  let scope ← childScope
  let input ← newStream (.source [] .stream)
  let scope := { scope with
    descriptors := (0, input) :: scope.descriptors.filter (·.1 ≠ 0)
    hidden := scope.hidden.ignoring [interruptSignal, quitSignal] }
  modify fun s => { s with
    pending := ⟨scope.process, scope, body, none, false⟩ :: s.pending
    tasks := s.tasks ++ [scope.process]
    lastTask := some scope.process }
  setStatus 0

/-- What a command writes, as a word takes it up. -/
def substitute (run : Runner) : Substitution
  | .skip => do
    modify fun s => { s with substituted := 0 }
    return []
  | body => do
    let pipe ← newStream (.pipe [] largestRoom)
    let status ← fork run do
      point 1 pipe
      run false true body
    reportEnd status
    modify fun s => { s with substituted := status.code.toNat }
    return .ofBytes (← drain pipe)

end LineShell.Script
