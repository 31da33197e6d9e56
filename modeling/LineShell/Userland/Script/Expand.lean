import LineShell.Userland.Script.Arithmetic
import LineShell.Userland.Script.Fields
import LineShell.Userland.Script.Glob
import LineShell.Userland.Script.State
/-!
    Expanding words.

    A word is expanded piece after piece, and so are the words inside its pieces. How a command in
    a word is run is a parameter. Fields are split and file names are found only where a command
    wants its words that way. -/

namespace LineShell.Script

/-- How the output of a command in a word is obtained. -/
abbrev Substitution := Cmd → Action Text

/-- What a word is expanded for. -/
structure Purpose where
  /-- It stands between double quotes. -/
  quoted : Bool
  /-- It is to be split into fields. -/
  split : Bool
  /-- It stands in the braces of a parameter. -/
  inBraces : Bool
  /-- A tilde is looked for after every colon. -/
  colons : Bool

/-- A word of a command. -/
def Purpose.word : Purpose := ⟨false, true, false, false⟩

/-- A text that is not split. -/
def Purpose.text : Purpose := ⟨false, false, false, false⟩

/-- The value of an assignment. -/
def Purpose.value : Purpose := ⟨false, false, false, true⟩

/-- The text of a here-document. -/
def Purpose.document : Purpose := ⟨true, false, false, false⟩

/-! ### Parameters -/

/-- The option letters in the order in which they are listed. -/
def optionOrder : List Char := "pubaCEVvxsnmiIfe".toList

/-- Arguments with the border that a purpose wants between them. -/
def joinedArguments (p : Purpose) (quoted : Bool) (single : Bool) (s : State) : Text :=
  let separator : Text :=
    if p.split ∧ (¬ quoted ∨ ¬ single) then [border]
    else s.separators.take 1
  separator.intercalate s.args

/-- The value of a parameter. -/
def parameter? (p : Purpose) (quoted : Bool) (name : Text) (s : State) : Option Text :=
  match name with
  | ['@'] => some (joinedArguments p quoted false s)
  | ['*'] => some (joinedArguments p quoted true s)
  | ['#'] => some (Text.ofNat s.args.length)
  | ['?'] => some (Text.ofNat s.status)
  | ['$'] => some (Text.ofNat s.shell)
  | ['!'] => s.lastTask.map Text.ofNat
  | ['-'] => some (optionOrder.filter s.options.contains)
  | c :: _ =>
    if c.isDigit then
      let n := digitsIn 10 name
      if n = 0 then some s.name else s.args[n - 1]?
    else s.get? name
  | [] => none

/-- The stretch that a value makes in a word. -/
def valueStretch (quoted : Bool) (list : Bool) (value : Text) : Stretch :=
  if quoted then ⟨if list then .list else .whole, value.map .escaped⟩
  else ⟨.fields, value.map .char⟩

/-- A parameter without a value where one is wanted. -/
def missingParameter {α : Type} (name message : Text) : Action α :=
  abort (name ++ ": " ++ message)

/-- What is said of a parameter without a value. -/
def notSet (colon : Bool) : Text :=
  if colon then "parameter not set or null" else "parameter not set"

/-- The users of every machine, with their home directories. -/
def userHomes : List (String × String) :=
  [("root", "/root"), ("daemon", "/usr/sbin"), ("bin", "/bin"), ("sys", "/dev"), ("sync", "/bin"),
    ("games", "/usr/games"), ("man", "/var/cache/man"), ("lp", "/var/spool/lpd"),
    ("mail", "/var/mail"), ("news", "/var/spool/news"), ("uucp", "/var/spool/uucp"),
    ("proxy", "/bin"), ("www-data", "/var/www"), ("backup", "/var/backups"), ("list", "/var/list"),
    ("irc", "/run/ircd"), ("_apt", "/nonexistent"), ("nobody", "/nonexistent")]

/-- The home directory that a tilde with a name means. -/
def homeOf? (name : Text) (s : State) : Option Text :=
  if name = [] then s.get? "HOME" else (userHomes.lookup (String.ofList name)).map String.toList

/-- The name after a tilde, and the pieces after the name. -/
def tildeName? (colons : Bool) : Word → Text → Option (Text × Word)
  | [], done => some (done.reverse, [])
  | .char c :: rest, done =>
    if c = '/' ∨ (colons ∧ c = ':') then some (done.reverse, .char c :: rest)
    else tildeName? colons rest (c :: done)
  | _ :: _, _ => none

/-- A text without the line feeds at its end. -/
def withoutFinalNewlines (t : Text) : Text := (t.reverse.dropWhile (· = '\n')).reverse

/-! ### Words -/

mutual

/-- Expands pieces. `quoted` says that a quotation mark is open, `tilde` that a tilde may stand
    here. A value with a colon goes on with the word in its braces; nothing after them counts. -/
def expandPieces (run : Substitution) : Nat → Purpose → Bool → Bool → Word → Action Expansion
  | 0, _, _, _, _ => return []
  | _ + 1, _, _, _, [] => return []
  | n + 1, p, quoted, tilde, piece :: rest => do
    let inQuotes := quoted || p.quoted
    match piece with
    | .quote => match quoted, rest with
      | false, .parameter ['@'] .value false [] :: .quote :: rest =>
        let here ← expandPiece run n p true (.parameter ['@'] .value false [])
        return here ++ (← expandPieces run n p false false rest)
      | _, _ => return ⟨.whole, [.mark]⟩ :: (← expandPieces run n p (!quoted) false rest)
    | .escaped c => return ⟨.whole, [.escaped c]⟩ :: (← expandPieces run n p quoted false rest)
    | .char c =>
      let s ← get
      let home := if tilde ∧ c = '~' then
          (tildeName? p.colons rest []).bind fun (name, after) =>
            (homeOf? name s).map fun home => (home, after)
        else none
      match home with
      | some (home, after) =>
        return ⟨.whole, home.map .escaped⟩ :: (← expandPieces run n p quoted false after)
      | none =>
        let region : Region := if p.inBraces ∧ ¬ inQuotes then .fields else .whole
        let more ← expandPieces run n p quoted (p.colons ∧ c = ':') rest
        match more with
        | ⟨region', gs⟩ :: stretches =>
          if region' = region ∧ region = .whole then
            return ⟨region, .char c :: gs⟩ :: stretches
          else return ⟨region, [.char c]⟩ :: more
        | [] => return [⟨region, [.char c]⟩]
    | .parameter name .value true word =>
      let here ← expandPiece run n p inQuotes (.parameter name .value true [])
      return here ++ (← expandPieces run n p quoted false word)
    | piece =>
      let here ← expandPiece run n p inQuotes piece
      return here ++ (← expandPieces run n p quoted false rest)

/-- Expands a piece that stands for something else. -/
def expandPiece (run : Substitution) : Nat → Purpose → Bool → Piece → Action Expansion
  | 0, _, _, _ => return []
  | n + 1, p, quoted, piece => do
    match piece with
    | .command body =>
      let output := withoutFinalNewlines (← run body)
      return [valueStretch quoted false (output.filter (· ≠ border))]
    | .arithmetic body =>
      let e ← expandPieces run n ⟨false, false, false, false⟩ false false body
      let s ← get
      let (result, assigned) := calculate s.get? e.text
      for (name, value) in assigned do setVar name value false
      match result with
      | .ok v => return [valueStretch quoted false (Text.ofInt v)]
      | .error message => abort message
    | .parameter name modifier colon word =>
      if modifier = .malformed then abort "Bad substitution"
      let s ← get
      let value := parameter? p quoted name s
      let missing := value.isNone || (colon && value = some [])
      let list := name = ['@'] && !s.args.isEmpty && p.split
      let given : Action Expansion := match value with
        | some v => do
          if modifier = .value ∧ missing ∧ s.has 'u' then missingParameter name (notSet false)
          return [valueStretch quoted list v]
        | none => do
          if s.has 'u' then missingParameter name (notSet false)
          return []
      let replaced : Action Expansion :=
        expandPieces run n { p with quoted := quoted, inBraces := true } false true word
      let pattern : Action Text :=
        return (← expandPieces run n .text false true word).pattern
      let cut (f : (Text → Bool) → Text → Text → Option Text) : Action Expansion := do
        match value with
        | some v =>
          let p := Pattern.ofText (← pattern)
          let first := v.takeWhile (· ≠ border)
          let left := f (fun t => p.accepts (t.takeWhile (· ≠ border))) first (v.drop first.length)
          return [valueStretch quoted list (left.getD v)]
        | none =>
          if s.has 'u' then missingParameter name (notSet false)
          return []
      match modifier with
      | .value => given
      | .length =>
        if value.isNone ∧ s.has 'u' then missingParameter name (notSet false)
        let measured := parameter? { p with split := false } quoted name s
        return [valueStretch quoted false (Text.ofNat (measured.getD []).length)]
      | .otherwise => if missing then replaced else given
      | .alternative => if missing then return [] else replaced
      | .assign =>
        if ¬ missing then given
        else
          let text := (← expandPieces run n .text false true word).text
          if ¬ isName name then abort (name ++ ": bad variable name")
          setVar name text false
          return [valueStretch quoted list (((← get).get? name).getD [])]
      | .demand =>
        if ¬ missing then given
        else
          let text := (← expandPieces run n .text false true word).text
          missingParameter name (if word = [] then notSet colon else text)
      | .cutStart true => cut fun accepts first others => cutStart? accepts true (first ++ others)
      | .cutStart false => cut fun accepts first others =>
        (cutStart? accepts false first).map (· ++ others)
      | .cutEnd true => cut fun accepts first _ => cutEnd? accepts true first
      | .cutEnd false => cut fun accepts first others => cutEnd? accepts false (first ++ others)
      | .malformed => abort "Bad substitution"
    | _ => return []

end

/-- How deep words may be nested in each other. -/
def wordDepth (w : Word) : Nat := w.length + 100000

/-- The text that a word stands for where it is not split. -/
def expandText (run : Substitution) (p : Purpose) (w : Word) : Action Text :=
  return (← expandPieces run (wordDepth w) p false (!p.quoted) w).text

/-- The pattern that a word writes. -/
def expandPattern (run : Substitution) (w : Word) : Action Pattern :=
  return .ofText (← expandPieces run (wordDepth w) .text false true w).pattern

/-- The fields that a word makes, with the files that they mean. -/
def expandFields (run : Substitution) (w : Word) : Action (List Text) := do
  let e ← expandPieces run (wordDepth w) .word false true w
  let s ← get
  return (e.fields s.separators).flatMap fun gs =>
    let pattern := glyphPattern gs
    let found := if s.has 'f' ∨ ¬ hasMeta pattern then [] else globbed s.tree s.dir pattern
    if found = [] then [glyphText gs] else found

end LineShell.Script
