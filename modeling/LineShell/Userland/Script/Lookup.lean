import LineShell.Userland.Script.Grammar
import LineShell.Userland.Script.Quote
/-!
    What the name of a command means to a script. -/

namespace LineShell.Script

/-- What kind of command a builtin is. -/
structure BuiltinKind where
  /-- Its errors end the script, and the variables set for it stay set. -/
  special : Bool
  /-- Its words that look like assignments are expanded like those. -/
  assigns : Bool

/-- The builtins. -/
def builtinKinds : List (String × BuiltinKind) :=
  [".", ":", "break", "continue", "eval", "exec", "exit", "return", "set", "shift", "times", "trap",
    "unset"].map (·, ⟨true, false⟩) ++
  ["export", "local", "readonly"].map (·, ⟨true, true⟩) ++
  [("alias", ⟨false, true⟩)] ++
  ["[", "bg", "cd", "chdir", "command", "echo", "false", "fg", "getopts", "hash", "jobs", "kill",
    "printf", "pwd", "read", "test", "true", "type", "ulimit", "umask", "unalias", "wait"].map
    (·, ⟨false, false⟩)

/-- What the name of a command means. -/
inductive Sense where
  | function (body : Cmd)
  | builtin (kind : BuiltinKind)
  /-- A program, which may turn out to be missing when it is started. -/
  | program (path : Text)
  /-- No program; something of the name may have been found and refused. -/
  | missing (fault : Fault)

/-- The path of a name in a directory of a search path. -/
def underDirectory (dir name : Text) : Text := if dir = [] then name else dir ++ '/' :: name

/-- What a name of a program leads to on a search path. -/
def findProgram (s : State) (search name : Text) : Except Fault Text :=
  if '/' ∈ name then .ok name else go .notFound (cut ':' search)
where
  /-- The first place where a program is found; the last reason why one was refused. -/
  go (fault : Fault) : List Text → Except Fault Text
    | [] => .error fault
    | dir :: rest =>
      let path := underDirectory dir name
      match s.tree.node? s.dir path.toString with
      | some (.file mode _) =>
        if mode &&& 0o100 ≠ 0 then .ok path else go .permissionDenied rest
      | some _ => go .permissionDenied rest
      | none => go fault rest

/-- The search path of a script. -/
def State.searchPath (s : State) : Text := (s.get? "PATH").getD []

/-- What a name means; `plain` leaves functions out. -/
def senseOf (s : State) (plain : Bool) (search name : Text) : Sense :=
  match (if plain then none else s.functions.lookup name) with
  | some body => .function body
  | none => match builtinKinds.lookup (String.ofList name) with
    | some kind => .builtin kind
    | none => match findProgram s search name with
      | .ok path => .program path
      | .error fault => .missing fault

/-- What is said of a fault when a program is started. -/
def startFault (fault : Fault) : Text :=
  match fault with
  | .notFound | .notDirectory => "not found"
  | fault => fault.reason.toList

/-- Remembers the place of a program. -/
def track (name : Text) : Action Unit := modify fun s =>
  let tracked := if (s.tracked.lookup name).isSome then
      s.tracked.map fun e => if e.1 = name then (name, false) else e
    else s.tracked ++ [(name, false)]
  { s with tracked }

/-- Tells what a name means, at length or as it would be written; the exit code. -/
def describe (verbose : Bool) (search : Option Text) (name : Text) : Action Nat := do
  let s ← get
  let tell (long short : Text) : Action Nat := do
    say ((if verbose then name ++ long else short) ++ "\n")
    return 0
  if String.ofList name ∈ reservedWords then return ← tell " is a shell keyword" name
  match s.aliases.lookup name with
  | some value =>
    return ← tell (" is an alias for " ++ value) ("alias " ++ aliasText (name, value))
  | none => pure ()
  match senseOf s false (search.getD s.searchPath) name with
  | .function _ => tell " is a shell function" name
  | .builtin kind =>
    tell (" is a " ++ (if kind.special then "special " else "") ++ "shell builtin") name
  | .program path =>
    if '/' ∈ name ∧ (s.tree.node? s.dir path.toString).isNone then absent
    else
      let known := search.isNone && (s.tracked.lookup name).isSome
      if search.isNone ∧ '/' ∉ name then track name
      tell (" is" ++ (if known then " a tracked alias for " else " ") ++ path) path
  | .missing _ => absent
where
  /-- Tells that a name means nothing. -/
  absent : Action Nat := do
    if verbose then say (name ++ ": not found\n")
    return 127

end LineShell.Script
