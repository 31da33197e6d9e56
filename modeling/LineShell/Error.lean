import LineShell.File.Fault
/-!
    The errors that the shell reports, and their wording. -/

namespace LineShell

/-- What the shell reports when something could not be done. -/
inductive Failure where
  /-- The target of a redirection could not be opened. -/
  | redirect (path : String) (fault : Fault)
  /-- A command was found and could not be started. -/
  | launch (command : String) (fault : Fault)
  /-- A history file could not be read or written. -/
  | history (path : String) (fault : Fault)
  deriving DecidableEq, Repr

/-- The wording of an error. -/
def Failure.message : Failure → String
  | .redirect path fault  => path ++ ": " ++ fault.message
  | .launch command fault => command ++ ": " ++ fault.message
  | .history path fault   => "history: " ++ path ++ ": " ++ fault.message

/-- The line that reports an error. -/
def Failure.report (e : Failure) : String := e.message ++ "\n"

end LineShell
