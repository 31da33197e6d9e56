import LineShell.Text.Octet
/-!
    Options of utilities.

    An option is a letter after one dash or a word after two. Letters can share a dash, and a word
    can be cut short as long as no other word starts with what is left. An option may want a value:
    a letter's stands after it or is the next argument, a word's stands after a sign `=` or is the
    next argument. Two dashes alone end the options. -/

namespace LineShell

/-- Whether an option has a value. -/
inductive Valued where
  | never
  /-- Only in the same argument. -/
  | maybe
  | always
  deriving DecidableEq, Repr

/-- An option that is a word, and the name by which the utility knows it. If the word may have a
    value and has one, a sign `=` ends the name. -/
structure OptionWord where
  word : String
  name : String
  valued : Valued
  deriving DecidableEq, Repr

/-- The options of a utility. The name of a letter is the letter. -/
structure OptionTable where
  letters : List (Char × Valued)
  words : List OptionWord
  /-- Whether the first operand ends the options. -/
  ordered : Bool
  /-- What is an operand although it starts with a dash. -/
  isOperand : Text → Bool := fun _ => false

/-- What is wrong with an option. -/
inductive OptionFault where
  /-- The character is no letter of an option. -/
  | unknownLetter (c : Char)
  | letterWithoutValue (c : Char)
  | unknownWord (text : Text)
  | ambiguous (text : Text) (words : List String)
  | wordWithValue (word : String)
  | wordWithoutValue (word : String)
  deriving DecidableEq, Repr

/-- What is wrong with an option, in words. -/
def OptionFault.message : OptionFault → Text
  | .unknownLetter c => "invalid option -- '" ++ [c] ++ "'"
  | .letterWithoutValue c => "option requires an argument -- '" ++ [c] ++ "'"
  | .unknownWord text => "unrecognized option '--" ++ text ++ "'"
  | .ambiguous text words => "option '--" ++ text ++ "' is ambiguous; possibilities:"
      ++ words.flatMap fun w => (" '--" ++ w ++ "'").toList
  | .wordWithValue word => "option '--" ++ word ++ "' doesn't allow an argument"
  | .wordWithoutValue word => "option '--" ++ word ++ "' requires an argument"

/-- Options by their names, with their values, and operands. -/
structure Options where
  given : List (String × Text)
  operands : List Text
  /-- What is wrong with the option after those that are given. -/
  fault : Option OptionFault

namespace Options

/-- Whether an option is given. -/
def has (o : Options) (name : String) : Bool := o.given.any (·.1 = name)

/-- The values that an option is given. -/
def values (o : Options) (name : String) : List Text :=
  o.given.filterMap fun e => if e.1 = name then some e.2 else none

/-- The last value that an option is given. -/
def value? (o : Options) (name : String) : Option Text := (o.values name).getLast?

/-- Options put before others. -/
def add (given : List (String × Text)) (o : Options) : Options :=
  { o with given := given ++ o.given }

/-- An operand put before others. -/
def addOperand (operand : Text) (o : Options) : Options :=
  { o with operands := operand :: o.operands }

end Options

namespace OptionTable

/-- A table without operands that start with a dash. -/
def of (letters : List (Char × Valued)) (words : List OptionWord) (ordered : Bool) : OptionTable :=
  { letters, words, ordered }

/-- The words of every utility. -/
def commonWords : List OptionWord := [⟨"help", "help", .never⟩, ⟨"version", "version", .never⟩]

/-- The option that a word or the start of one means. -/
def findWord (g : OptionTable) (text : Text) : Except OptionFault OptionWord :=
  let start := text.takeWhile (· ≠ '=')
  let words := g.words ++ commonWords
  match words.find? (·.word.toList = start) with
  | some w => .ok w
  | none => match words.filter fun w => start.isPrefixOf w.word.toList with
    | [] => .error (.unknownWord text)
    | w :: others =>
      if others.all fun u => u.name = w.name then .ok w
      else .error (.ambiguous text ((w :: others).map (·.word)))

/-- What follows the options that an argument gives. -/
inductive ArgumentEnd where
  | done
  | failed (fault : OptionFault)
  /-- An option that still wants its value, and what is wrong if there is none. -/
  | wants (name : String) (fault : OptionFault)

/-- The options that an argument gives, and what follows. -/
abbrev ArgumentReading := List (String × Text) × ArgumentEnd

/-- Letters after one dash. -/
def readLetters (g : OptionTable) : Text → ArgumentReading
  | [] => ([], .done)
  | c :: cs =>
    let name := String.singleton c
    match g.letters.lookup c with
    | none => ([], .failed (.unknownLetter c))
    | some .never =>
      let (given, rest) := g.readLetters cs
      ((name, []) :: given, rest)
    | some .maybe => ([(name, cs)], .done)
    | some .always =>
      if cs = [] then ([], .wants name (.letterWithoutValue c))
      else ([(name, cs)], .done)

/-- A word after two dashes. -/
def readWord (g : OptionTable) (text : Text) : ArgumentReading :=
  match g.findWord text with
  | .error fault => ([], .failed fault)
  | .ok w => match w.valued, text.dropWhile (· ≠ '=') with
    | .never, _ :: _ => ([], .failed (.wordWithValue w.word))
    | .always, [] => ([], .wants w.name (.wordWithoutValue w.word))
    | .maybe, _ :: value => ([(w.name ++ "=", value)], .done)
    | _, value => ([(w.name, value.drop 1)], .done)

/-- What an argument gives, unless it is an operand. -/
def reading? (g : OptionTable) (arg : Text) : Option ArgumentReading :=
  if g.isOperand arg then none
  else match arg with
    | '-' :: '-' :: word => some (g.readWord word)
    | '-' :: c :: cs => some (g.readLetters (c :: cs))
    | _ => none

/-- Options and operands, up to an option that is wrong. -/
def read (g : OptionTable) : List Text → Options
  | [] => ⟨[], [], none⟩
  | arg :: rest =>
    if arg = ['-', '-'] then ⟨[], rest, none⟩
    else match g.reading? arg, rest with
      | none, rest =>
        if g.ordered then ⟨[], arg :: rest, none⟩ else (g.read rest).addOperand arg
      | some (given, .failed fault), _ => ⟨given, [], some fault⟩
      | some (given, .done), rest => (g.read rest).add given
      | some (given, .wants _ fault), [] => ⟨given, [], some fault⟩
      | some (given, .wants name _), value :: rest => (g.read rest).add (given ++ [(name, value)])

end OptionTable

end LineShell
