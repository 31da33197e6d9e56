import LineShell.Builtin.Run
import LineShell.Redirect
import LineShell.Pipeline.Outflow
/-!
    Starting the stages of a pipeline, from left to right.

    Each stage opens its files, finds out what its name means, and is run if it is a builtin or
    loaded if it is a program. What it hands on goes to the next stage only, and only a program
    takes it: the output of a builtin as a text, the output of a program by a pipe. A stage that is
    redirected, that could not be opened, found or started, or that has nothing to say, hands on
    nothing. None of this keeps the other stages from being started. -/

namespace LineShell

/-- What a stage hands on to the next one. -/
inductive Feed where
  | nothing
  /-- The output of a builtin. -/
  | text (t : String)
  /-- Whatever the stage's program writes. -/
  | program
  deriving DecidableEq, Repr

/-- What the output of a builtin hands on: no output and empty output are both nothing. -/
def Feed.ofOutput (output : Option String) : Feed :=
  match output with
  | some t => if t = "" then .nothing else .text t
  | none => .nothing

/-- The text that is handed on. -/
def Feed.held : Feed → String
  | .text t => t
  | _ => ""

/-- Where a stage's program reads. -/
inductive Source where
  /-- The shell's own standard input. -/
  | inherited
  | nothing
  | text (t : String)
  /-- What the program of the stage before it writes. -/
  | previous
  deriving DecidableEq, Repr

/-- Where a program reads that is given what the stage before it hands on; only the first stage of
    a pipeline shares the shell's input. -/
def Feed.source (first : Bool) : Feed → Source
  | .text t => .text t
  | .program => .previous
  | .nothing => if first then .inherited else .nothing

/-- What comes of starting a stage. -/
inductive Start where
  /-- A target could not be opened, so the stage was left alone. -/
  | refused (e : Failure)
  | builtin (outcome : Outcome)
  | unknown
  | unstartable (fault : Fault)
  | program (behaviour : Behaviour)

/-- A stage that has been started, or not. -/
structure Stage where
  command : Command
  redirects : Redirects
  source : Source
  start : Start

/-- What a stage hands on to the next. -/
def Stage.feed (st : Stage) : Feed :=
  match st.redirects.output, st.start with
  | none, .builtin outcome => .ofOutput outcome.output
  | none, .program _ => .program
  | _, _ => .nothing

/-- What the program at a path is started with for a command. -/
def launchOf (e : Environment) (c : Command) (path : String) : Launch where
  path := .ofString path
  name := .ofString c.name
  args := c.args.map .ofString
  vars := e.vars.handed.map fun v => (.ofString v.1, .ofString v.2)
  dir := e.directory
  signals := .clear

/-- Runs the command if it is a builtin, and loads its program if it is not. -/
def startCommand (load : Loader) (c : Command) (staged : Bool) (s : Session) : Start × Session :=
  match meaningOf s.env s.machine c.name with
  | .unknown => (.unknown, s)
  | .builtin b => let (outcome, s) := b.run c.args staged s; (.builtin outcome, s)
  | .program path =>
    match (launchOf s.env c path).load load s.machine with
    | .error fault => (.unstartable fault, s)
    | .ok behaviour => (.program behaviour, s)

/-- Text that goes to a file if there is one, and to the shell's standard error if there is none. -/
def Machine.report (m : Machine) (file : Option OpenFile) (text : String) : Machine :=
  match file with
  | some f => m.writeText f text
  | none => m.complain text

/-- The error of a command that was found and could not be started. -/
def launchError (c : Command) (fault : Fault) : Failure := .launch c.name fault

/-- What the shell itself writes for a stage that is not the last. A program's files are the
    program's own, so that it could not be started is told on the shell's standard error. -/
def Stage.settle (st : Stage) (m : Machine) : Machine :=
  match st.start with
  | .refused e => m.complain e.report
  | .builtin outcome =>
    let m := m.report st.redirects.error (outcome.error.getD "")
    match st.redirects.output with
    | some f => m.writeText f (outcome.output.getD "")
    | none => m
  | .unknown => m
  | .unstartable fault => m.complain (launchError st.command fault).report
  | .program _ => m

/-- Starts a stage that is not the last. -/
def startInner (load : Loader) (c : Command) (source : Source) (s : Session) : Stage × Session :=
  let (stage, s) := match openChannels s.env s.machine c with
    | (.error e, machine) => ((⟨c, .none, source, .refused e⟩ : Stage), { s with machine })
    | (.ok redirects, machine) =>
      let (start, s) := startCommand load c true { s with machine }
      (⟨c, redirects, source, start⟩, s)
  (stage, { s with machine := stage.settle s.machine })

/-- Starts all stages. The files of the last one are open already. -/
def startStages (load : Loader) (files : Redirects) :
    Bool → Feed → List Command → Session → List Stage × Session
  | _, _, [], s => ([], s)
  | first, feed, [c], s =>
    let (start, s) := startCommand load c true s
    ([⟨c, files, feed.source first, start⟩], s)
  | first, feed, c :: rest, s =>
    let (stage, s) := startInner load c (feed.source first) s
    let (stages, s) := startStages load files false stage.feed rest s
    (stage :: stages, s)

end LineShell
