/-!
    The shell's own commands and their names. -/

namespace LineShell

/-- A command of the shell itself. -/
inductive Builtin where
  | cd | echo | exit | history | pwd | type
  deriving DecidableEq, Repr

namespace Builtin

/-- Every builtin, in the order in which they are offered. -/
def all : List Builtin := [.cd, .echo, .exit, .history, .pwd, .type]

/-- The name that runs the builtin. -/
def name : Builtin → String
  | .cd      => "cd"
  | .echo    => "echo"
  | .exit    => "exit"
  | .history => "history"
  | .pwd     => "pwd"
  | .type    => "type"

/-- The builtin with a name. -/
def ofName? (s : String) : Option Builtin := all.find? (·.name = s)

theorem mem_all (b : Builtin) : b ∈ all := by cases b <;> decide

theorem ofName?_name (b : Builtin) : ofName? b.name = some b := by cases b <;> decide

/-- Only its own name finds a builtin. -/
theorem ofName?_eq_some_iff {s : String} {b : Builtin} : ofName? s = some b ↔ s = b.name := by
  constructor
  · intro h
    have := List.find?_some h
    simpa using (of_decide_eq_true this).symm
  · rintro rfl
    exact ofName?_name b

end Builtin

end LineShell
