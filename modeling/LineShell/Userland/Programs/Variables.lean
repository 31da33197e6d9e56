import LineShell.Userland.Programs.Shell
import LineShell.Userland.Programs.Variables.SignalPlan
import LineShell.Userland.Programs.Variables.Split
/-!
    The program `env`: another program with other variables, or the variables themselves.

    Options take variables away, choose the directory, and say what becomes of signals; after them
    come new variables and the command. What is done can be noted step by step (`Noted`): notes come
    before anything that the command writes. -/

namespace LineShell

/-- The options of `env`. -/
def variableOptions : OptionTable where
  letters := [('i', .never), ('0', .never), ('v', .never), ('u', .always), ('C', .always),
    ('S', .always)]
  words := [⟨"ignore-environment", "i", .never⟩, ⟨"null", "0", .never⟩, ⟨"unset", "u", .always⟩,
    ⟨"chdir", "C", .always⟩, ⟨"default-signal", "default-signal", .maybe⟩,
    ⟨"ignore-signal", "ignore-signal", .maybe⟩, ⟨"block-signal", "block-signal", .maybe⟩,
    ⟨"list-signal-handling", "list", .never⟩, ⟨"debug", "v", .never⟩,
    ⟨"split-string", "S", .always⟩]
  ordered := true

/-- The exit code of `env` when it does not come to starting a command. -/
def cancelCode : Nat := 125

/-- How `env` takes it that its output cannot be written. -/
def variableSetback : Setback := ⟨cancelCode, none, writeError⟩

/-- A hint for a text of arguments that was taken for one argument. -/
def splitHint : Text := "use -[v]S to pass options in shebang lines"

/-- What is done under notes. It may come to an early end with an account. -/
abbrev Noted := ExceptT Account (StateM (List Text))

/-- Notes lines. -/
def note (lines : List Text) : Noted Unit := modify (· ++ lines)

/-! ### Variables -/

/-- Variables with one of them set. A new one comes last. -/
def putVariable (vars : RawVars) (name value : Text) : RawVars :=
  if (vars.lookup name).isSome then vars.map fun v => if v.1 = name then (name, value) else v
  else vars ++ [(name, value)]

/-- The name and the value that an operand gives, if it is for a variable. -/
def givenVariable? (operand : Text) : Option (Text × Text) :=
  let name := operand.takeWhile (· ≠ '=')
  if '=' ∈ operand then some (name, operand.drop (name.length + 1)) else none

/-- The variables without those that options take away. -/
def unsetVariables (c : Call) (noting : Bool) : List Text → RawVars → Noted RawVars
  | [], vars => return vars
  | name :: rest, vars => do
    if noting then note ["unset:    " ++ name]
    if name = [] ∨ '=' ∈ name then
      throw (c.complain cancelCode
        ("cannot unset " ++ c.charset.quotedWord name ++ ": " ++ Fault.invalid.reason))
    unsetVariables c noting rest (vars.filter (·.1 ≠ name))

/-- The variables after those that operands give. -/
def assignVariables (noting : Bool) : List Text → RawVars → Noted RawVars
  | [], vars => return vars
  | operand :: rest, vars => do
    if noting then note ["setenv:   " ++ operand]
    let changed := match givenVariable? operand with
      | some (name, value) => putVariable vars name value
      | none => vars
    assignVariables noting rest changed

/-- A variable on a line of its own, or ended by U+0000. -/
def variableLine (nul : Bool) (v : Text × Text) : Bytes :=
  (v.1 ++ "=" ++ v.2).toBytes ++ [if nul then 0 else 10]

/-! ### The command -/

/-- Loads a command from the first of several paths that can be executed. What is no program is
    taken for a script. -/
def loadFirst (load : Loader) (l : Launch) (dir : Seat) (tree : FileTree) (denied : Bool) :
    List Text → Except Fault Behaviour
  | [] => .error (if denied then .permissionDenied else .notFound)
  | path :: rest => match load { l with path } dir tree with
    | .ok behaviour => .ok behaviour
    | .error .notExecutable =>
      load { l with path := "/bin/sh", name := "/bin/sh", args := path :: l.args } dir tree
    | .error .permissionDenied => loadFirst load l dir tree true rest
    | .error fault =>
      if fault = .notFound ∨ fault = .notDirectory then loadFirst load l dir tree denied rest
      else .error fault

/-- The paths under which a command is looked for. -/
def commandPaths (vars : RawVars) (name : Text) : List Text :=
  if '/' ∈ name then [name]
  else (cut ':' ((vars.lookup "PATH".toList).getD "/bin:/usr/bin")).map fun dir =>
    if dir = [] then name else dir ++ ['/'] ++ name

/-- The program of a command. -/
def loadCommand (load : Loader) (c : Call) (l : Launch) (dir : Seat) : Noted Behaviour :=
  let found := if l.name = [] then .error .notFound
    else loadFirst load l dir c.tree false (commandPaths l.vars l.name)
  match found with
  | .ok behaviour => return behaviour
  | .error fault =>
    let missing := fault = .notFound
    let message := c.complain (if missing then 127 else 126)
      (c.charset.quotedWord l.name ++ ": " ++ fault.reason)
    let hints := missing && l.name.any fun c => c = ' ' || (9 ≤ c.toNat && c.toNat ≤ 13)
    throw (if hints then message.andThen (c.complain 0 splitHint) else message)

/-- The directory that a command works in, and its path. -/
def commandDirectory (c : Call) (noting : Bool) (path : Option Text) (here : String) :
    Noted (Seat × String) :=
  match path with
  | none => return (c.dir, here)
  | some path => do
    let shown := c.charset.nameInQuotes path
    if noting then note ["chdir:    " ++ shown]
    match c.tree.enterDirectory c.dir path.toString with
    | .ok dir => return (dir, path.toString)
    | .error fault => throw (c.complain cancelCode
        ("cannot change directory to " ++ shown ++ ": " ++ fault.reason))

/-! ### The program -/

/-- What is noted of the words of a command. -/
def commandNotes (cs : Charset) (words : List Text) : List Text :=
  ("executing: " ++ words.headD []) :: words.zipIdx.map fun (word, n) =>
    "   arg[" ++ Text.ofNat n ++ "]= " ++ cs.quotedWord word

/-- What `env` does with its options: finds the program to start, or says something. -/
def runVariables (load : Loader) (l : Launch) (c : Call) (o : Options) (plan : SignalPlan) :
    Noted Behaviour := do
  let noting := o.has "v"
  let dash := o.operands.head? = some ['-']
  let operands := if dash then o.operands.drop 1 else o.operands
  let kept ←
    if dash ∨ o.has "i" then do
      if noting then note ["cleaning environ"]
      pure []
    else unsetVariables c noting (o.values "u") l.vars
  let given := operands.takeWhile fun operand => '=' ∈ operand
  let vars ← assignVariables noting given kept
  match operands.drop given.length with
  | [] =>
    if o.has "C" then throw (c.misuse cancelCode "must specify command with --chdir (-C)")
    throw (.output (vars.flatMap (variableLine (o.has "0"))))
  | name :: args =>
    if o.has "0" then throw (c.misuse cancelCode "cannot specify --null (-0) with command")
    if noting then note plan.notes
    if let some n := plan.fault? then
      throw (c.complain cancelCode ("failed to set signal action for signal " ++ Text.ofNat n
        ++ ": " ++ Fault.invalid.reason))
    let signals := plan.apply l.signals
    if o.has "list" then note (SignalPlan.listing signals)
    let (dir, path) ← commandDirectory c noting (o.value? "C") l.dir
    if noting then note (commandNotes c.charset (name :: args))
    loadCommand load c ⟨name, name, args, vars, path, signals⟩ dir

/-- What is said of an option that there is not. A blank in its place tells of a text that was not
    split. -/
def variableMisuse (c : Call) (fault : OptionFault) : Account :=
  let hint : Text := match fault with
    | .unknownLetter letter =>
      if letter = ' ' ∨ (9 ≤ letter.toNat ∧ letter.toNat ≤ 13) then
        "\n" ++ c.name ++ ": " ++ splitHint
      else []
    | _ => []
  c.misuse cancelCode (fault.message ++ hint)

/-- What `env` does with arguments whose texts have been split. -/
def runExpanded (load : Loader) (l : Launch) (c : Call) (e : ExpandedArguments) :
    Noted Behaviour := do
  let o := variableOptions.read e.args
  let wrong (o : Options) : Option Account := match SignalPlan.ofOptions o with
    | .ok _ => none
    | .error word =>
      some (c.misuse cancelCode (c.charset.quotedWord word ++ ": invalid signal"))
  let notice := Notice.madeBy "env" ["Richard Mlynarik", "David MacKenzie", "Assaf Gordon"]
  note e.notes
  match o.objection? notice wrong (variableMisuse c), e.fault with
  | some account, _ => throw account
  | none, some message => throw (c.complain cancelCode message)
  | none, none => runVariables load l c o ((SignalPlan.ofOptions o).toOption.getD .none)

/-- How many arguments are looked at for texts that are to be split. -/
def expansionLimit (args : List Text) : Nat :=
  args.foldl (fun n arg => n + arg.length) (args.length + 1000)

/-- The program that starts another one with other variables, or lists the variables. -/
def Program.env : Program := fun load l dir streams tree =>
  let c : Call := ⟨l.name, l.args, l.vars, dir, l.signals, streams, tree⟩
  let e := expandArguments c.charset l.vars (expansionLimit l.args) false l.args
  let (ending, lines) := (runExpanded load l c e).run []
  let notes : List (Channel × Bytes) :=
    if lines = [] then [] else [(.error, (Text.ofLines lines).toBytes)]
  match ending with
  | .ok behaviour =>
    let done := behaviour streams tree
    { done with writes := notes ++ done.writes }
  | .error account =>
    let said : Account := { account with writes := notes ++ account.writes }
    Utility.run ⟨variableSetback, fun _ => said⟩ c

end LineShell
