import LineShell.Userland.Script.Builtin.Run
/-!
    Running functions and simple commands.

    The first word that makes fields names what is called; `command` before it leaves functions out.
    Assignments before the name last as long as the command, unless a special builtin is called. -/

namespace LineShell.Script

/-! ### Functions -/

/-- The state with variables as they were before. -/
def State.restore (s : State) (kept : List (Text × Option Variable)) : State :=
  kept.foldl (fun s (name, old) => match old with
    | some v =>
      if name = Builtin.optionFrame then { s with options := v.value.getD [] }
      else (s.setVariable name v).afterChange name
    | none => (s.dropVariable name).afterChange name) s

/-- How many functions can be running. -/
def functionLimit : Nat := 1000

/-- Runs a function as a command. -/
def callFunction (run : Runner) (tested : Bool) (body : Cmd) (args : List Text) : Action Unit := do
  let outer ← get
  if functionLimit ≤ outer.depth then
    abort ("Maximum function recursion depth (" ++ Text.ofNat functionLimit ++ ") reached")
  set { outer with
    args, optionIndex := 1, optionOffset := none, loops := 0, frames := [] :: outer.frames
    depth := outer.depth + 1 }
  try
    run tested false body
    match ((← get).frames.headD []).find? fun e => e.2.isNone && !isName e.1 with
    | some (name, _) => abort (name ++ ": bad variable name")
    | none => pure ()
  finally
    modify fun s =>
      let s := s.restore (s.frames.headD [])
      { s with
        args := outer.args, optionIndex := outer.optionIndex, optionOffset := outer.optionOffset
        loops := outer.loops, frames := outer.frames, depth := outer.depth }
  modify fun s => if s.skip = some .function then { s with skip := none } else s

/-! ### Simple commands -/

/-- Expands words up to the first one that makes fields; the fields and the other words. -/
def firstFields (run : Runner) : List Word → Action (List Text × List Word)
  | [] => return ([], [])
  | w :: rest => do
    match ← expandFields (substitute run) w with
    | [] => firstFields run rest
    | fields => return (fields, rest)

/-- A simple command whose name is known. -/
structure Called where
  /-- The name and the arguments that have been expanded. -/
  fields : List Text
  rest : List Word
  kind : Option BuiltinKind
  special : Bool
  /-- The words before the name, which are shown and do nothing else any more. -/
  before : List Text
  /-- Functions are left out. -/
  plain : Bool
  search : Option Text

/-- Takes the options of `command`. The result says whether a command to run follows. -/
def commandOptions (run : Runner) : Nat → Called → List Text → Action (Bool × Called)
  | 0, c, _ => return (false, c)
  | n + 1, c, after => do
    let (after, c) ← match after with
      | [] => do
        let (fields, rest) ← firstFields run c.rest
        pure (fields, { c with fields := c.fields ++ fields, rest })
      | after => pure (after, c)
    let proceed (fields : List Text) (c : Called) : Action (Bool × Called) :=
      let before := c.before ++ c.fields.take (c.fields.length - fields.length)
      return (true, { c with fields, before, plain := true })
    match after with
    | [] => return (false, c)
    | ['-', '-'] :: more =>
      if more ≠ [] then proceed more c
      else
        let (fields, rest) ← firstFields run c.rest
        let c := { c with fields := c.fields ++ fields, rest }
        if fields = [] then return (false, c) else proceed fields c
    | ('-' :: letter :: letters) :: more =>
      if (letter :: letters).all (· = 'p') then
        commandOptions run n { c with search := some systemSearch } more
      else return (false, c)
    | after => proceed after c

/-- Finds out what is called, past any `command` before it. -/
def resolve (run : Runner) : Nat → Option Bool → Called → Action Called
  | 0, _, c => return c
  | n + 1, special, c => do
    let name := c.fields.headD []
    let s ← get
    match (if c.plain then none else s.functions.lookup name) with
    | some _ => return { c with kind := none, special := special.getD false }
    | none => match builtinKinds.lookup (String.ofList name) with
      | none => return { c with kind := none, special := special.getD false }
      | some kind =>
        let special := special.getD kind.special
        let c := { c with kind := some kind, special }
        if name ≠ "command".toList then return c
        match ← commandOptions run (n + 1) c c.fields.tail with
        | (false, c) => return c
        | (true, c) => resolve run n (some special) c

/-- Expands the words after the name of a command. -/
def restFields (run : Runner) (assigns : Bool) : List Word → Action (List Text)
  | [] => return []
  | w :: rest => do
    let fields ← match (if assigns then w.assignment? else none) with
      | some (name, value) =>
        pure [name ++ '=' :: (← expandText (substitute run) .value value)]
      | none => expandFields (substitute run) w
    return fields ++ (← restFields run assigns rest)

/-- Shows a command before it is run, where the errors went before it was redirected. -/
def trace (run : Runner) (descriptors : List (Nat × Nat)) (words : List Text) : Action Unit := do
  let s ← get
  if s.has 'x' then
    set { s with options := s.options.filter (· ≠ 'x') }
    let sign ← expandText (substitute run) .document (documentWord ((s.get? "PS4").getD []))
    modify fun s => { s with options := 'x' :: s.options, descriptors }
    let _ ← write 2 (sign ++ ([' '] : Text).intercalate words ++ "\n")
    modify fun t => { t with descriptors := s.descriptors }

/-- Expands assignments and makes them; how they are shown. -/
def assign (run : Runner) (exporting : Bool) : List Word → Action (List Text)
  | [] => return []
  | w :: rest => do
    match w.assignment? with
    | none => assign run exporting rest
    | some (name, word) =>
      let value ← expandText (substitute run) .value word
      setVar name value exporting
      return (name ++ '=' :: value) :: (← assign run exporting rest)

/-- What is known of the variables that assignments change. -/
def knownBefore (s : State) (assigns : List Word) : List (Text × Option Variable) :=
  (assigns.filterMap Word.assignment?).map fun (name, _) => (name, s.vars.lookup name)

/-- Runs a simple command without words. -/
def performAssignments (run : Runner) (assigns : List Word) (redirects : List Redirection) :
    Action Unit := do
  let outer ← get
  try
    if ← openAll run redirects then
      let shown ← assign run false assigns
      trace run outer.descriptors shown
      setStatus (← get).substituted
  finally modify (·.withoutRedirects redirects outer.toScope)


/-- Runs what a simple command calls. -/
def performCall (load : Loader) (run : Runner) (tested final : Bool) (c : Called)
    (words : List Text) : Action Unit := do
  let s ← get
  let name := words.headD []
  let search := c.search.getD s.searchPath
  match senseOf s c.plain search name with
  | .function body => callFunction run tested body words.tail
  | .builtin _ => callBuiltin load run tested c.special name words.tail
  | .missing fault =>
    complain (name ++ ": " ++ startFault fault)
    setStatus 127
  | .program path =>
    if '/' ∉ name ∧ c.search.isNone then track name
    callProgram load run (final && !s.hasTraps) name words.tail path

/-- Runs a simple command. -/
def performSimple (load : Loader) (run : Runner) (tested final : Bool) (line : Nat)
    (assigns words : List Word) (redirects : List Redirection) : Action Unit := do
  modify fun s => { s with line, substituted := 0 }
  let (fields, rest) ← firstFields run words
  if fields = [] then performAssignments run assigns redirects
  else
    let c ← resolve run (words.length + 1) none ⟨fields, rest, none, false, [], false, none⟩
    let words := c.fields ++ (← restFields run (c.kind.any (·.assigns)) c.rest)
    let keeps := c.kind.isSome && words.head? = some "exec".toList
    let outer ← get
    let before := if c.special then [] else knownBefore outer assigns
    let undo : Action Unit := modify fun s =>
      (s.restore before).withoutRedirects redirects outer.toScope
    try
      if ← openAll run redirects then
        let exporting := !c.special || (keeps && 1 < words.length)
        let shown ← assign run exporting assigns
        trace run outer.descriptors (shown ++ c.before ++ words)
        performCall load run tested final c words
      else if c.special then throw .failure
    catch stop =>
      undo
      throw stop
    if keeps then modify (·.restore before) else undo

end LineShell.Script
