/-!
    Argument lists with options that take a value.

    Arguments are read from left to right. `help` or `--help` asks for help, `--` ends the options,
    an option takes the very next argument as its value whatever that looks like, and anything else
    that starts with a dash is unknown. What is no option is an operand, which the grammar accepts
    or not. After a request for help no option may follow. -/

namespace LineShell

/-- What an argument list may hold: the options by their spellings, and which text may stand as the
    one operand. -/
structure ArgumentGrammar (κ ω : Type) where
  option? : String → Option κ
  operand? : String → Option ω

/-- What an argument list says. -/
structure Arguments (κ ω : Type) where
  values : List (κ × String)
  operand : Option ω

/-- Why an argument list is not accepted. -/
inductive UsageError where
  /-- Help was asked for. -/
  | help
  | optionAfterHelp
  | unrecognized (arg : String)
  | missingValue (option : String)
  | duplicateValue (option value : String)
  deriving DecidableEq, Repr

/-- The arguments that ask for help. -/
def helpWords : List String := ["--help", "help"]

/-- What the arguments read so far have settled. -/
structure ArgumentState (κ ω : Type) where
  helpAsked : Bool
  optionsEnded : Bool
  found : Arguments κ ω

/-- Nothing read yet. -/
def ArgumentState.initial {κ ω : Type} : ArgumentState κ ω := ⟨false, false, ⟨[], none⟩⟩

namespace ArgumentGrammar

variable {κ ω : Type} [DecidableEq κ]

/-- Reads the arguments one by one. -/
def readFrom (g : ArgumentGrammar κ ω) (s : ArgumentState κ ω) :
    List String → Except UsageError (Arguments κ ω)
  | [] => if s.helpAsked then .error .help else .ok s.found
  | arg :: rest =>
    if arg ∈ helpWords ∧ ¬ s.optionsEnded then g.readFrom { s with helpAsked := true } rest
    else if arg.toList.head? = some '-' ∧ ¬ s.optionsEnded then
      if arg = "--" then g.readFrom { s with optionsEnded := true } rest
      else if s.helpAsked then .error .optionAfterHelp
      else match g.option? arg, rest with
        | none, _ => .error (.unrecognized arg)
        | some _, [] => .error (.missingValue arg)
        | some key, value :: rest =>
          if (s.found.values.lookup key).isSome then .error (.duplicateValue arg value)
          else g.readFrom
            { s with found := { s.found with values := s.found.values ++ [(key, value)] } } rest
    else match s.found.operand, g.operand? arg with
      | none, some operand =>
        g.readFrom { s with found := { s.found with operand := some operand } } rest
      | _, _ => .error (.unrecognized arg)

/-- What an argument list says, or why it is not accepted. -/
def read (g : ArgumentGrammar κ ω) (args : List String) : Except UsageError (Arguments κ ω) :=
  g.readFrom .initial args

end ArgumentGrammar

/-- The value of an option. -/
def Arguments.value? {κ ω : Type} [DecidableEq κ] (a : Arguments κ ω) (key : κ) : Option String :=
  a.values.lookup key

end LineShell
