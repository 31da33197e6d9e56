import LineShell.Arguments
import LineShell.Dialogue
/-!
    The shell as a program: its arguments, what it does with them, and its exit status.

    With a line among the arguments that line is run and the shell ends; otherwise the lines come
    from the standard input. A terminal that cannot be edited on gets a prompt before each line. -/

namespace LineShell

/-- The options of the program. -/
inductive ProgramOption where
  | line | historyFile
  deriving DecidableEq, Repr

namespace ProgramOption

/-- The option that an argument is. -/
def ofArg? (arg : String) : Option ProgramOption :=
  if arg = "-c" ∨ arg = "--command" then some .line
  else if arg = "--histfile" then some .historyFile
  else none

/-- The arguments that the program takes: its options and no operand. -/
def grammar : ArgumentGrammar ProgramOption Unit where
  option? := ofArg?
  operand? := fun _ => none

end ProgramOption

/-- What the program says of itself. -/
def helpText : String :=
  "Usage: pipesh [-c <command>] [--histfile <histfile>]\n\n"
    ++ "An interactive shell with pipelines, redirections and history.\n\n"
    ++ "Options:\n"
    ++ "  -c, --command     run a single command line and exit with its status\n"
    ++ "  --histfile        history file to load and save, overriding HISTFILE\n"
    ++ "  --help, help      display usage information\n\n"

/-- The wording of a usage error; asking for help is none. -/
def UsageError.message : UsageError → String
  | .help => ""
  | .optionAfterHelp => "Trailing arguments are not allowed after `help`."
  | .unrecognized arg => "Unrecognized argument: " ++ arg ++ "\n"
  | .missingValue option => "No value provided for option '" ++ option ++ "'.\n"
  | .duplicateValue option value =>
    "Error parsing option '" ++ option ++ "' with value '" ++ value
      ++ "': duplicate values provided\n"

/-- What a usage error is reported as. -/
def UsageError.report (e : UsageError) : String :=
  e.message ++ "\nRun pipesh --help for more information.\n"

/-- What is reported when the dialogue could not go on. -/
def Fault.failureReport (f : Fault) : String :=
  "Error: " ++ f.message ++ "\n\nCaused by:\n    " ++ f.message ++ "\n"

/-- The terminals on which a line cannot be edited. -/
def plainTerminals : List String := ["dumb", "cons25", "emacs"]

/-- The prompt on a terminal on which a line cannot be edited. -/
def plainPrompt : String := "$ "

/-- The prompt that an environment asks for when the input is no terminal. -/
def Environment.prompt (e : Environment) : String :=
  match e.get? "TERM" with
  | some term => if term.toLower ∈ plainTerminals then plainPrompt else ""
  | none => ""

/-- How the program ends: its exit status, and the machine that it leaves. -/
structure Exit where
  status : Nat
  machine : Machine

/-- The exit status that tells of a failure of the program itself. -/
def failureStatus : Nat := 1

/-- The exit status of a dialogue that ended on the spot. -/
def abandonedStatus : Nat := 101

/-- The exit status for an exit code: what eight bits hold of it. -/
def exitStatus (code : Int) : Nat := (code % 256).toNat

/-- The environment with the history file that the arguments name. -/
def Environment.withHistoryFile (e : Environment) (file : Option String) : Environment :=
  match file with
  | some path => e.set "HISTFILE" path
  | none => e

/-- How the program ends after a dialogue. -/
def Ending.exit (s : Session) : Ending → Exit
  | .finished code => ⟨exitStatus code, s.machine⟩
  | .unreadable fault => ⟨failureStatus, s.machine.complain fault.failureReport⟩
  | .abandoned => ⟨abandonedStatus, s.machine⟩

/-- Runs the program with accepted arguments. -/
def runAccepted (load : Loader) (read : LineReader) (a : Arguments ProgramOption Unit)
    (e : Environment) (m : Machine) : Exit :=
  let s := Session.start (e.withHistoryFile (a.value? .historyFile)) m
  match a.value? .line with
  | some line =>
    let (reply, s) := s.submitOnly load line
    ⟨exitStatus reply.code, (s.answer reply).machine⟩
  | none =>
    let (ending, s) := s.dialogue load read e.prompt
    ending.exit s

/-- Runs the program. -/
def runProgram (load : Loader) (read : LineReader) (args : List String) (e : Environment)
    (m : Machine) : Exit :=
  match ProgramOption.grammar.read args with
  | .ok a => runAccepted load read a e m
  | .error .help => ⟨0, m.print helpText⟩
  | .error err => ⟨failureStatus, m.complain err.report⟩

end LineShell
