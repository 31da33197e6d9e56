import LineShell.Userland.Script.Fields
import LineShell.Userland.Script.Options
import LineShell.Userland.Script.Quote
/-!
    The builtins that change variables, parameters and aliases. -/

namespace LineShell.Script.Builtin

/-- The name and the value in a word `name=value`; the value is missing without the sign. -/
def splitAssignment (word : Text) : Text × Option Text :=
  let name := word.takeWhile (· ≠ '=')
  (name, if name.length < word.length then some (word.drop (name.length + 1)) else none)

/-- Marks variables as exported or protected, and sets those that a value is given for; without
    names those that are marked are listed. -/
def declare (command : Text) (mark : Variable → Variable) (marked : Variable → Bool)
    (args : List Text) : Action Nat := do
  let (listing, words) ← readFirstOption 'p' args
  if words = [] ∨ listing then
    say (variableListing (command ++ " ") ((← get).vars.filter fun e => marked e.2))
  else
    for word in words do
      let (name, value) := splitAssignment word
      match value, (← get).vars.lookup name with
      | none, some v => modify fun s => s.setVariable name (mark v)
      | value, _ =>
        changeVar name fun v => mark { v with value }
        if name = "OPTIND".toList then setVar name (value.getD []) false
        modify fun s => match s.vars.lookup name with
          | some v => s.setVariable name (mark v)
          | none => s
  return 0

/-- Exports variables. -/
def doExport (args : List Text) : Action Nat :=
  declare "export" ({ · with exported := true }) (·.exported) args

/-- Protects variables. -/
def doReadOnly (args : List Text) : Action Nat :=
  declare "readonly" ({ · with readOnly := true }) (·.readOnly) args

/-- Forgets variables or functions. -/
def unset (args : List Text) : Action Nat := do
  let (options, names) ← readOptions "vf" args
  let functions := options.getLast?.any (·.1 = 'f')
  for name in names do
    if functions then
      modify fun s => { s with functions := s.functions.filter (·.1 ≠ name) }
    else
      let name := (splitAssignment name).1
      let old ← lookup name
      if old.any (·.readOnly) then abort (name ++ ": is read only")
      modify fun s => (s.dropVariable name).afterChange name
  return 0

/-- Keeps what is known of a variable until the running function ends. -/
def keepVariable (name : Text) : Action Unit := modify fun s =>
  match s.frames with
  | frame :: frames =>
    if frame.any (·.1 = name) then s
    else { s with frames := ((name, s.vars.lookup name) :: frame) :: frames }
  | [] => s

/-- The name under which the options are kept. -/
def optionFrame : Text := ['-']

/-- Makes variables local to the running function. What is given a value may be called anything,
    until it is to be given back. -/
def localize (args : List Text) : Action Nat := do
  if (← get).frames = [] then abort "not in a function"
  for word in args do
    if word = optionFrame then
      modify fun s => match s.frames with
        | frame :: frames =>
          let kept : Variable := ⟨some s.options, false, false⟩
          { s with frames := ((optionFrame, some kept) :: frame) :: frames }
        | [] => s
    else
      let (name, value) := splitAssignment word
      keepVariable name
      match value with
      | some value =>
        if isName name then setVar name value false
        else modify fun s => s.setVariable name ⟨some value, false, false⟩
      | none =>
        if (← lookup name).isNone then changeVar name id
  return 0

/-- Sets options and parameters; without arguments the variables are listed. -/
def doSet (args : List Text) : Action Nat := do
  if args = [] then
    say (variableListing [] ((← get).vars.filter fun e => e.2.value.isSome))
  else
    let a ← readShellOptions false (args.length + 1) false args
    if a.replaces ∨ a.rest ≠ [] then
      modify fun s => { s with args := a.rest, optionIndex := 1, optionOffset := none }
  return 0

/-- Drops parameters from the start. -/
def shift (args : List Text) : Action Nat := do
  let n ← match args with
    | arg :: _ => number arg
    | [] => pure 1
  if n > (← get).args.length then abort "can\x27t shift that many"
  modify fun s => { s with args := s.args.drop n, optionIndex := 1, optionOffset := none }
  return 0

/-! ### Options of scripts -/

/-- The option that comes next in some arguments. -/
structure FoundOption where
  letter : Char
  value : Option Text
  message : Text
  index : Nat
  offset : Option Nat
  finished : Bool

/-- Finds the option that comes next. `quiet` says that missing values are told by the letter. -/
def nextOption (letters : Text) (args : List Text) (index : Nat) (offset : Option Nat) :
    FoundOption :=
  let quiet := letters.head? = some ':'
  let inside : Text := match offset with
    | some n => if index ≤ 1 then [] else (args.getD (index - 2) []).drop n
    | none => []
  let start : Option (Text × Nat) :=
    if inside ≠ [] then some (inside, index)
    else match args[index - 1]? with
      | some ('-' :: c :: cs) => some (c :: cs, index + 1)
      | _ => none
  match start with
  | none => ⟨'?', none, [], index, none, true⟩
  | some ([], index) => ⟨'?', none, [], index, none, true⟩
  | some (c :: cs, next) =>
    if inside = [] ∧ c = '-' ∧ cs = [] then ⟨'?', none, [], next, none, true⟩
    else
      let offset : Option Nat :=
        if cs = [] then some ((args.getD (next - 2) []).length)
        else some ((args.getD (next - 2) []).length - cs.length)
      match optionKind? letters c with
      | none =>
        if quiet then ⟨'?', some [c], [], next, offset, false⟩
        else ⟨'?', none, "Illegal option -" ++ [c] ++ "\n", next, offset, false⟩
      | some false => ⟨c, some [], [], next, offset, false⟩
      | some true =>
        if cs ≠ [] then ⟨c, some cs, [], next, none, false⟩
        else match args[next - 1]? with
          | some value => ⟨c, some value, [], next + 1, none, false⟩
          | none =>
            if quiet then ⟨':', some [c], [], next, offset, false⟩
            else ⟨'?', none, "No arg for -" ++ [c] ++ " option\n", next, offset, false⟩

/-- Reads the options of a script one by one. -/
def getOptions (args : List Text) : Action Nat := do
  match args with
  | letters :: name :: given =>
    let s ← get
    let args := if given = [] then s.args else given
    let outside := s.optionIndex > args.length + 1
    let found := nextOption letters args (if outside then 1 else s.optionIndex)
      (if outside then none else s.optionOffset)
    if found.message ≠ [] then let _ ← write 2 found.message
    match found.finished, found.value with
    | true, _ => pure ()
    | false, some value => setVar "OPTARG" value false
    | false, none => modify fun s => s.dropVariable "OPTARG"
    setVar "OPTIND" (Text.ofNat found.index) false
    setVar name [found.letter] false
    modify fun s => { s with optionIndex := found.index, optionOffset := found.offset }
    return if found.finished then 1 else 0
  | _ => abort "Usage: getopts optstring var [arg...]"

/-! ### Lines of input -/

/-- The characters of a line of input, each with whether it may separate, how many bytes have been
    taken, and whether the line has an end. A backslash joins lines and escapes what follows it. -/
def readLine (raw : Bool) : Bytes → List (Char × Bool) → Nat → List (Char × Bool) × Nat × Bool
  | [], line, taken => (line.reverse, taken, false)
  | b :: rest, line, taken =>
    if b = 10 then (line.reverse, taken + 1, true)
    else if b = 0 then readLine raw rest line (taken + 1)
    else if b ≠ 0x5C ∨ raw then
      readLine raw rest ((Char.ofNat b.toNat, true) :: line) (taken + 1)
    else match rest with
      | [] => (line.reverse, taken + 1, false)
      | c :: rest =>
        if c = 10 then readLine raw rest line (taken + 2)
        else readLine raw rest ((Char.ofNat c.toNat, false) :: line) (taken + 2)

/-- Reads a line of input into variables. -/
def read (args : List Text) : Action Nat := do
  let (options, names) ← readOptions "p:r" args
  if names = [] then abort "arg count"
  let s ← get
  let (line, taken, ended) :=
    readLine (options.any (·.1 = 'r')) (s.readable 0).1 [] 0
  set (s.take 0 taken)
  let parts := cutLine s.separators (line.length + 1) names.length line [] []
  for (name, i) in names.zipIdx do setVar name (parts.getD i []) false
  return if ended then 0 else 1

/-! ### Aliases -/

/-- Sets or lists aliases. -/
def aliases (args : List Text) : Action Nat := do
  if args = [] then
    for a in State.inSlots 39 (← get).aliases do say (aliasText a ++ "\n")
    return 0
  let mut code := 0
  for word in args do
    let name := word.take 1 ++ (word.drop 1).takeWhile (· ≠ '=')
    if name.length < word.length then
      let value := word.drop (name.length + 1)
      modify fun s => { s with aliases := s.aliases.filter (·.1 ≠ name) ++ [(name, value)] }
    else match (← get).aliases.lookup name with
      | some value => say (aliasText (name, value) ++ "\n")
      | none =>
        let _ ← write 2 ("alias: " ++ name ++ " not found\n")
        code := 1
  return code

/-- Forgets aliases. -/
def unalias (args : List Text) : Action Nat := do
  let (all, names) ← readFirstOption 'a' args
  if all then
    modify fun s => { s with aliases := [] }
    return 0
  let mut code := 0
  for name in names do
    if ((← get).aliases.lookup name).isSome then
      modify fun s => { s with aliases := s.aliases.filter (·.1 ≠ name) }
    else
      let _ ← write 2 ("unalias: " ++ name ++ " not found\n")
      code := 1
  return code

end LineShell.Script.Builtin
