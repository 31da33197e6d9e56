import LineShell.Environment
import LineShell.History.Store
/-!
    What a session of the shell consists of, and what a command leaves behind. -/

namespace LineShell

/-- The environment, the history and the machine that lines act on. -/
structure Session where
  env : Environment
  history : History
  machine : Machine

/-- What a command ends with: its exit code, and the texts for its two channels. A text that is
    empty differs from none. -/
structure Outcome where
  code : Int
  output : Option String
  error : Option String
  deriving DecidableEq, Repr

namespace Outcome

/-- Success with text for the output. -/
def printing (text : String) : Outcome := ⟨0, some text, none⟩

/-- A code with text for the errors. -/
def failing (code : Int) (text : String) : Outcome := ⟨code, none, some text⟩

/-- Success with no text at all. -/
def silent : Outcome := ⟨0, none, none⟩

/-- A code with no text at all. -/
def ofCode (code : Int) : Outcome := ⟨code, none, none⟩

end Outcome

end LineShell
