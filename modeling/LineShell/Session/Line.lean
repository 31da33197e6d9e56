import LineShell.Pipeline.Run
/-!
    Running a line in a session.

    The targets of the last stage are opened before anything else happens; if that fails nothing is
    run. What the last stage says goes to its targets, and to the reply where there is none. A line
    that cannot be read as commands does nothing. -/

namespace LineShell

/-- What a line answers: its exit code, and the texts that are not redirected. -/
structure Reply where
  code : Int
  output : String
  error : String
  deriving DecidableEq, Repr

/-- A text goes to the file if there is one; what is left for the reply. -/
def route (m : Machine) (file : Option OpenFile) (text : String) : String × Machine :=
  match file with
  | some f => ("", m.writeText f text)
  | none => (text, m)

namespace Session

/-- The texts of an outcome go where the last stage's redirections say. -/
def deliver (s : Session) (files : Redirects) (o : Outcome) : Reply × Session :=
  let (output, machine) := route s.machine files.output (o.output.getD "")
  let (error, machine) := route machine files.error (o.error.getD "")
  (⟨o.code, output, error⟩, { s with machine })

/-- Runs the stages of a line, of which `last` is the last. -/
def performStages (load : Loader) (stages : List Command) (last : Command) (s : Session) :
    Reply × Session :=
  match openChannels s.env s.machine last with
  | (.error e, machine) => (⟨redirectCode, "", e.report⟩, { s with machine })
  | (.ok files, machine) =>
    let (outcome, s) := runStages load stages files { s with machine }
    s.deliver files outcome

/-- Runs a line. -/
def perform (load : Loader) (line : String) (s : Session) : Reply × Session :=
  match parseLine line with
  | .error _ => (⟨0, "", ""⟩, s)
  | .ok stages => match stages.getLast? with
    | none => (⟨0, "", ""⟩, s)
    | some last => performStages load stages last s

/-- The session with a line in its history, unless the line is blank. -/
def record (line : String) (s : Session) : Session :=
  if isBlankText line then s else { s with history := s.history.record line }

/-- Records a line and runs it. -/
def submit (load : Loader) (line : String) (s : Session) : Reply × Session :=
  perform load line (s.record line)

/-- Writes the history to its file, if it has one; a failure goes unnoticed. -/
def keepHistory (s : Session) : Session :=
  match s.env.historyFile? with
  | none => s
  | some path => { s with machine := (s.history.store s.machine path).2 }

/-- Accepts one line and saves the history. -/
def submitOnly (load : Loader) (line : String) (s : Session) : Reply × Session :=
  let (reply, s) := submit load line s
  (reply, s.keepHistory)

/-- The history that an environment's history file holds; empty if there is none or it cannot be
    read. -/
def recalledHistory (e : Environment) (m : Machine) : History :=
  match e.historyFile? with
  | none => .empty
  | some path =>
    if m.tree.isFile m.workDir path then
      match History.empty.load m path with
      | .ok (_, history) => history
      | .error _ => .empty
    else .empty

/-- The session that starts in an environment. -/
def start (e : Environment) (m : Machine) : Session := ⟨e, recalledHistory e m, m⟩

end Session

end LineShell
