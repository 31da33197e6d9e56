import LineShell.Pipeline.Start
/-!
    Running what a pipeline has started, and what the pipeline ends with.

    The programs run in the order of their stages, each on what the one before it has written. The
    pipeline ends with what its last stage ends with: nothing that the other stages end with
    matters. A command on its own is no pipeline: it acts on the session itself, and its program
    writes to the shell's own channels. -/

namespace LineShell

/-- What a command that was not found ends with. -/
def unknownOutcome (c : Command) : Outcome :=
  .failing unknownCode (c.name ++ ": command not found\n")

/-- What a command that could not be started ends with. -/
def unstartableOutcome (c : Command) (fault : Fault) : Outcome :=
  .failing cannotStartCode (launchError c fault).report

/-- The exit code of a line whose last redirections could not be opened. -/
def redirectCode : Int := 1

/-- What comes down a pipe. -/
structure Flow where
  bytes : Bytes
  /-- Whether there would have been more if the pipe had had more room. -/
  short : Bool
  deriving DecidableEq, Repr

/-- Nothing comes. -/
def Flow.none : Flow := ⟨[], false⟩

/-- What a program finds to read, and where it comes from. -/
def Source.contents (fed : Flow) (m : Machine) : Source → Bytes × Inlet
  | .inherited => (m.input, .file Option.none m.inputRead)
  | .nothing => ([], .stream)
  | .text t => (Bytes.ofText t, .stream)
  | .previous => (fed.bytes, .stream)

/-- What is left of the shell's standard input after a program has taken bytes. -/
def Source.consume (taken : Nat) (m : Machine) : Source → Machine
  | .inherited => m.readInput taken
  | _ => m

/-- What is known after a program has run. -/
structure Finished where
  status : WaitStatus
  sinks : Outflows
  machine : Machine
  /-- Whether the program would have gone on with more from the pipe that it reads. -/
  starved : Bool

/-- Runs a program. `fed` is what comes down the pipe from the stage before it, and `output` what
    becomes of what it writes. -/
def Behaviour.run (b : Behaviour) (source : Source) (fed : Flow) (sinks : Outflows)
    (output : Outlet) (m : Machine) : Finished :=
  let (input, inlet) := source.contents fed m
  let done := b ⟨input, inlet, output, sinks.error.outlet m⟩ m.tree
  let m := source.consume done.taken { m with tree := done.tree }
  let (sinks, m) := sinks.deliver done.writes m
  ⟨done.status, sinks, m, source = .previous && fed.short && fed.bytes.length ≤ done.taken
    && done.status.signalBits ≠ brokenPipeSignal⟩

/-- Whether a stage has a program that reads what the program before it writes. -/
def Stage.readsPrevious (st : Stage) : Bool :=
  match st.start with
  | .program _ => st.source = .previous
  | _ => false

/-- Runs the program of a stage that is not the last, if there is one; what it puts into the pipe to
    the next stage, in which there is so much room. -/
def Stage.pass (st next : Stage) (room : Nat) (fed : Flow) (m : Machine) : Flow × Machine :=
  match st.start with
  | .program b =>
    let sinks : Outflows :=
      ⟨.ofRedirect st.redirects.output (.pipe []), .ofRedirect st.redirects.error .shell⟩
    let output : Outlet := match st.redirects.output with
      | some _ => sinks.output.outlet m
      | Option.none => .pipe (if next.readsPrevious then room else 0)
    let done := b.run st.source fed sinks output m
    let bytes := done.sinks.output.held
    (⟨bytes, done.starved || room ≤ bytes.length⟩, done.machine)
  | _ => (.none, m)

/-- The text of captured errors, if there are any. -/
def capturedText (bytes : Bytes) : Option String :=
  some (Bytes.repaired bytes) |>.filter (· ≠ "")

/-- Runs the program of the last stage, if there is one; what the stage ends with, and whether it
    would have gone on with more to read. -/
def Stage.finish (st : Stage) (fed : Flow) (m : Machine) : Outcome × Bool × Machine :=
  match st.start with
  | .refused e => (.failing redirectCode e.report, false, m)
  | .builtin outcome => (outcome, false, m)
  | .unknown => (unknownOutcome st.command, false, m)
  | .unstartable fault => (unstartableOutcome st.command fault, false, m)
  | .program b =>
    let sinks : Outflows :=
      ⟨.ofRedirect st.redirects.output .shell, .ofRedirect st.redirects.error (.pipe [])⟩
    let done := b.run st.source fed sinks (sinks.output.outlet m) m
    (⟨done.status.code, Option.none, capturedText done.sinks.error.held⟩, done.starved,
      done.machine)

/-- Runs the programs of all stages, the first of them on what is fed to it, with so much room in
    the pipes between them. -/
def runStarted (room : Nat) : Flow → List Stage → Machine → Outcome × Bool × Machine
  | _, [], m => (.silent, false, m)
  | fed, [st], m => st.finish fed m
  | fed, st :: next :: rest, m =>
    let (fed, m) := st.pass next room fed m
    runStarted room fed (next :: rest) m

/-- Runs the programs of all stages, and once more with more room if the last of them wants it. -/
def runWidening (stages : List Stage) (m : Machine) : Nat → Nat → Outcome × Machine
  | 0, room => let (outcome, _, m) := runStarted room .none stages m; (outcome, m)
  | n + 1, room => match runStarted room .none stages m with
    | (outcome, false, m) => (outcome, m)
    | (_, true, _) => runWidening stages m n (widened room)

/-- Runs a pipeline whose last stage has its files open. -/
def runPiped (load : Loader) (stages : List Command) (files : Redirects) (s : Session) :
    Outcome × Session :=
  let (started, s) := startStages load files true .nothing stages s
  let (outcome, machine) := runWidening started s.machine widenings firstRoom
  (outcome, { s with machine })

/-- Runs a command on its own with its files open. -/
def runAlone (load : Loader) (c : Command) (files : Redirects) (s : Session) :
    Outcome × Session :=
  match startCommand load c false s with
  | (.refused e, s) => (.failing redirectCode e.report, s)
  | (.builtin outcome, s) => (outcome, s)
  | (.unknown, s) => (unknownOutcome c, s)
  | (.unstartable fault, s) => (unstartableOutcome c fault, s)
  | (.program b, s) =>
    let sinks : Outflows := ⟨.ofRedirect files.output .shell, .ofRedirect files.error .shell⟩
    let done := b.run .inherited .none sinks (sinks.output.outlet s.machine) s.machine
    (.ofCode done.status.code, { s with machine := done.machine })

/-- Runs the stages of a line. -/
def runStages (load : Loader) (stages : List Command) (files : Redirects) (s : Session) :
    Outcome × Session :=
  match stages with
  | [] => (.silent, s)
  | [c] => runAlone load c files s
  | _ => runPiped load stages files s

end LineShell
