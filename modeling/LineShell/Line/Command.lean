import LineShell.Line.Words
/-!
    Commands: the words of a segment with the redirections taken out.

    The first word is the name whatever it is. After it, a word that follows a redirection operator
    is the operator's target, and any other word that is no operator is an argument. An operator
    followed by another operator, or by nothing, has no effect; of two targets for one channel the
    later counts. -/

namespace LineShell

/-- The two channels that a command writes to. -/
inductive Channel where
  | output | error
  deriving DecidableEq, Repr

/-- A redirection operator: the channel it redirects, and whether it appends. -/
structure Operator where
  channel : Channel
  append : Bool
  deriving DecidableEq, Repr

/-- The operator that a word is, if it is one. -/
def Operator.ofWord? (word : String) : Option Operator :=
  if word = ">" ∨ word = "1>" then some ⟨.output, false⟩
  else if word = ">>" ∨ word = "1>>" then some ⟨.output, true⟩
  else if word = "2>" then some ⟨.error, false⟩
  else if word = "2>>" then some ⟨.error, true⟩
  else none

/-- Where a channel is redirected to, and whether what is there is kept. -/
structure Target where
  path : String
  append : Bool
  deriving DecidableEq, Repr

/-- One stage of a pipeline. -/
structure Command where
  name : String
  args : List String
  output : Option Target
  error : Option Target
  deriving DecidableEq, Repr

/-- A command with nothing but its name. -/
def Command.named (name : String) : Command := ⟨name, [], none, none⟩

/-- The command with one more argument. -/
def Command.addArg (c : Command) (arg : String) : Command := { c with args := c.args ++ [arg] }

/-- The command with a channel redirected. -/
def Command.redirect (c : Command) (op : Operator) (path : String) : Command :=
  match op.channel with
  | .output => { c with output := some ⟨path, op.append⟩ }
  | .error  => { c with error := some ⟨path, op.append⟩ }

/-- The words after the name, read one by one; `pending` is the operator that the last word was. -/
def Command.addWords (c : Command) (pending : Option Operator) : List String → Command
  | [] => c
  | word :: rest =>
    match Operator.ofWord? word, pending with
    | some op, _       => c.addWords (some op) rest
    | none,    some op => (c.redirect op word).addWords none rest
    | none,    none    => (c.addArg word).addWords none rest

/-- Why a line cannot be read as commands. -/
inductive ParseError where
  /-- A segment, or the whole line, has no words. -/
  | noCommand
  deriving DecidableEq, Repr

/-- The wording of a parse error. -/
def ParseError.message : ParseError → String
  | .noCommand => "empty command"

/-- The command that a list of words is. -/
def Command.ofWords : List String → Except ParseError Command
  | [] => .error .noCommand
  | name :: rest => .ok ((Command.named name).addWords none rest)

/-- The command that a segment is. -/
def Command.parse (segment : String) : Except ParseError Command :=
  Command.ofWords (words segment)

/-- The stages of a line; there is always one at least, and one for each segment. -/
def parseLine (line : String) : Except ParseError (List Command) :=
  match (segments line).mapM Command.parse with
  | .ok [] => .error .noCommand
  | r => r

end LineShell
