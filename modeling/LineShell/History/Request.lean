import LineShell.Arguments
import LineShell.Text.Numeral
/-!
    What the arguments of `history` ask for: a listing, or reading, writing or appending a file.

    A single argument that is an integer is a count, a negative one counts as zero. Otherwise the
    arguments hold either one option with its file or at most one count. -/

namespace LineShell

/-- What `history` is asked to do. -/
inductive HistoryRequest where
  | list (last : Option Nat)
  | read (file : String)
  | write (file : String)
  | append (file : String)
  deriving DecidableEq, Repr

/-- The options of `history`. -/
inductive HistoryOption where
  | read | write | append
  deriving DecidableEq, Repr

namespace HistoryRequest

/-- The option that an argument is. -/
def option? (arg : String) : Option HistoryOption :=
  if arg = "-r" ∨ arg = "--read" then some .read
  else if arg = "-w" ∨ arg = "--write" then some .write
  else if arg = "-a" ∨ arg = "--append" then some .append
  else none

/-- The arguments that `history` takes. -/
def grammar : ArgumentGrammar HistoryOption Nat where
  option? := option?
  operand? := unsignedNumeral? 64

/-- The request that an accepted argument list makes, if it makes one. -/
def ofArguments? (a : Arguments HistoryOption Nat) : Option HistoryRequest :=
  match a.values, a.operand with
  | [], count => some (.list count)
  | [(.read, file)], none => some (.read file)
  | [(.write, file)], none => some (.write file)
  | [(.append, file)], none => some (.append file)
  | _, _ => none

/-- The count that an argument list is, if it is one integer. -/
def count? : List String → Option Nat
  | [arg] => (signedNumeral? 64 arg).map Int.toNat
  | _ => none

/-- The request that the arguments make, if they make one. -/
def ofArgs? (args : List String) : Option HistoryRequest :=
  match count? args with
  | some n => some (.list (some n))
  | none => match grammar.read args with
    | .ok a => ofArguments? a
    | .error _ => none

end HistoryRequest

end LineShell
