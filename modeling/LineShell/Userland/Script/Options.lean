import LineShell.Userland.Script.State
/-!
    The options of builtins and of the shell itself. -/

namespace LineShell.Script

/-- Whether a letter is an option, and if so whether it takes a value; a colon after a letter says
    that it does. -/
def optionKind? (letters : Text) (c : Char) : Option Bool :=
  match letters with
  | [] => none
  | l :: rest =>
    let valued := rest.head? = some ':'
    if l = c then some valued else optionKind? (if valued then rest.tail else rest) c
termination_by letters.length
decreasing_by
  simp only [List.length_cons]
  split
  · simp only [List.length_tail]; omega
  · omega

/-- Reads the options at the start of some arguments; they and the other arguments. -/
def readOptions (letters : Text) : List Text → Action (List (Char × Text) × List Text)
  | [] => return ([], [])
  | arg :: rest => do
    match arg with
    | ['-', '-'] => return ([], rest)
    | '-' :: c :: cs =>
      let (given, wanting) ← cluster (c :: cs)
      match wanting, rest with
      | none, rest =>
        let (more, operands) ← readOptions letters rest
        return (given ++ more, operands)
      | some l, value :: rest =>
        let (more, operands) ← readOptions letters rest
        return (given ++ (l, value) :: more, operands)
      | some l, [] => abort ("No arg for -" ++ [l] ++ " option")
    | _ => return ([], arg :: rest)
where
  /-- The options in one argument, and the one at its end that still wants a value. -/
  cluster : Text → Action (List (Char × Text) × Option Char)
    | [] => return ([], none)
    | c :: cs => do
      match optionKind? letters c with
      | none => abort ("Illegal option -" ++ [c])
      | some false =>
        let (given, wanting) ← cluster cs
        return ((c, []) :: given, wanting)
      | some true => return if cs = [] then ([], some c) else ([(c, cs)], none)

/-- Reads a single option without a value; whether it is there, and the arguments after the one it
    stands in. What stands behind it in the same argument is not looked at. -/
def readFirstOption (letter : Char) : List Text → Action (Bool × List Text)
  | ['-', '-'] :: rest => return (false, rest)
  | ('-' :: c :: _) :: rest =>
    if c = letter then return (true, rest) else abort ("Illegal option -" ++ [c])
  | args => return (false, args)

/-- The options of the shell, by name; those without a letter do nothing. -/
def shellOptions : List (String × Option Char) :=
  [("errexit", some 'e'), ("noglob", some 'f'), ("ignoreeof", some 'I'),
   ("interactive", some 'i'), ("monitor", some 'm'), ("noexec", some 'n'), ("stdin", some 's'),
   ("xtrace", some 'x'), ("verbose", some 'v'), ("vi", some 'V'), ("emacs", some 'E'),
   ("noclobber", some 'C'), ("allexport", some 'a'), ("notify", some 'b'),
   ("nounset", some 'u'), ("privileged", some 'p'), ("nolog", none), ("debug", none)]

/-- Sets an option or takes it back. -/
def setOption (letter : Char) (on : Bool) : Action Unit := modify fun s =>
  let others := s.options.filter (· ≠ letter)
  { s with options := if on then letter :: others else others }

/-- Sets an option by its letter. -/
def setLetter (letter : Char) (on : Bool) : Action Unit := do
  if shellOptions.any (·.2 = some letter) then setOption letter on
  else abort ("Illegal option -" ++ [letter])

/-- Sets an option by its name; without a name all are listed. -/
def setByName (name : Option Text) (on : Bool) : Action Unit := do
  let s ← get
  match name with
  | none =>
    if on then say "Current option settings\n"
    for (option, letter) in shellOptions do
      let set := letter.any s.options.contains
      if on then
        say (option.toList ++ List.replicate (16 - option.length) ' '
          ++ (if set then "on\n" else "off\n"))
      else say ("set " ++ (if set then "-o " else "+o ") ++ option.toList ++ "\n")
  | some name => match shellOptions.find? fun o => o.1.toList = name with
    | some (_, some letter) => setOption letter on
    | some (_, none) => return
    | none => abort ("Illegal option -o " ++ name)

/-- What the arguments of the shell or of `set` come to. -/
structure ShellArguments where
  /-- A command is given in the arguments. -/
  command : Bool
  rest : List Text
  /-- The parameters are replaced even if there are none. -/
  replaces : Bool

/-- Sets options by arguments. `starting` says that these are the arguments of the shell itself. -/
def readShellOptions (starting : Bool) : Nat → Bool → List Text → Action ShellArguments
  | 0, command, args => return ⟨command, args, false⟩
  | n + 1, command, args => do
    match args with
    | ['-'] :: rest =>
      if !starting then
        setOption 'x' false
        setOption 'v' false
      return ⟨command, rest, false⟩
    | ['-', '-'] :: rest => return ⟨command, rest, true⟩
    | (sign :: letters) :: rest =>
      if sign = '-' ∨ sign = '+' then
        let (command, rest) ← cluster (sign = '-') command letters rest
        readShellOptions starting n command rest
      else return ⟨command, args, false⟩
    | _ => return ⟨command, args, false⟩
where
  /-- Sets the options of one argument. -/
  cluster (on command : Bool) : Text → List Text → Action (Bool × List Text)
    | [], rest => return (command, rest)
    | 'o' :: letters, rest => do
      setByName rest.head? on
      cluster on command letters rest.tail
    | c :: letters, rest => do
      if starting ∧ c = 'c' then cluster on true letters rest
      else if starting ∧ c = 'l' then cluster on command letters rest
      else
        setLetter c on
        cluster on command letters rest

end LineShell.Script
