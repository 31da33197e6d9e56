import LineShell.Userland.Programs.Call
/-!
    Splitting a text into arguments.

    Arguments stand between blanks. Quotes keep blanks together, a backslash starts an escape, and a
    name between braces after a dollar sign stands for the value of a variable. A number sign where
    an argument could start ends the text. -/

namespace LineShell

/-- What quotes a splitter is between. -/
inductive SplitQuote where
  | none | single | double
  deriving DecidableEq

/-- What came of splitting a text. -/
structure SplitText where
  args : List Text
  /-- The variables that were looked up, with their values. -/
  used : List (Text × Option Text)

/-- Where a splitter of arguments stands: the quotes, the argument that has begun, and those before
    it, both from the last to the first. -/
structure Splitter where
  quote : SplitQuote
  current : Option Text
  done : List Text
  used : List (Text × Option Text)

namespace Splitter

/-- The splitter after characters of an argument. -/
def add (s : Splitter) (t : Text) : Splitter :=
  { s with current := some (t.reverse ++ s.current.getD []) }

/-- The splitter after the end of an argument. -/
def close (s : Splitter) : Splitter :=
  match s.current with
  | some t => { s with current := none, done := t.reverse :: s.done }
  | none => s

/-- The splitter between other quotes. -/
def between (s : Splitter) (quote : SplitQuote) : Splitter := { s.add [] with quote }

/-- The splitter after the value of a variable. -/
def expand (s : Splitter) (name : Text) (value : Option Text) : Splitter :=
  let s := { s with used := (name, value) :: s.used }
  match value with
  | some value => s.add value
  | none => s

/-- What has been split. -/
def result (s : Splitter) : SplitText := ⟨s.done.reverse, s.used.reverse⟩

/-- The name of a variable between braces after a dollar sign, and what follows. -/
def variableName? (t : Text) : Option (Text × Text) :=
  let isLetter (c : Char) : Bool := c.isAlpha || c = '_'
  match t with
  | '\x7b' :: c :: rest =>
    let name := (c :: rest).takeWhile fun c => isLetter c || c.isDigit
    if isLetter c ∧ ((c :: rest).drop name.length).head? = some '\x7d' then
      some (name, (c :: rest).drop (name.length + 1))
    else none
  | _ => none

/-- The character that a letter after a backslash stands for. -/
def escaped? (c : Char) : Option Char :=
  match c with
  | 'f' => some '\x0c'
  | 'n' => some '\n'
  | 'r' => some '\r'
  | 't' => some '\t'
  | 'v' => some '\x0b'
  | c => if c ∈ "\"#$'\\".toList then some c else none

/-- The arguments of a text, read in so many steps at most. -/
def run (vars : RawVars) : Nat → Splitter → Text → Except Text SplitText
  | 0, s, _ | _, s, [] =>
    if s.quote = .none then .ok s.close.result else .error "no terminating quote in -S string"
  | steps + 1, s, c :: cs =>
    let next := run vars steps
    if s.quote = .single then
      match c, cs with
      | '\x27', cs => next (s.between .none) cs
      | '\\', '\x27' :: cs => next (s.add ['\x27']) cs
      | '\\', '\\' :: cs => next (s.add ['\\']) cs
      | c, cs => next (s.add [c]) cs
    else if c = '"' then next (s.between (if s.quote = .double then .none else .double)) cs
    else if c = '\x27' ∧ s.quote = .none then next (s.between .single) cs
    else if c = '\\' then
      match cs with
      | [] => .error "invalid backslash at end of string in -S"
      | '_' :: cs => next (if s.quote = .double then s.add [' '] else s.close) cs
      | 'c' :: _ =>
        if s.quote = .double then .error "'\\c' must not appear in double-quoted -S string"
        else .ok s.close.result
      | e :: cs => match escaped? e with
        | some e => next (s.add [e]) cs
        | none => .error ("invalid sequence '\\" ++ [e] ++ "' in -S")
    else if c = '$' then
      match variableName? cs with
      | some (name, cs) => next (s.expand name (vars.lookup name)) cs
      | none => .error ("only $\x7bVARNAME\x7d expansion is supported, error at: " ++ (c :: cs))
    else if s.quote = .none ∧ (c = ' ' ∨ (9 ≤ c.toNat ∧ c.toNat ≤ 13)) then next s.close cs
    else if s.quote = .none ∧ c = '#' ∧ s.current.isNone then .ok s.result
    else next (s.add [c]) cs

end Splitter

/-- The arguments of a text. -/
def splitArguments (vars : RawVars) (text : Text) : Except Text SplitText :=
  Splitter.run vars (text.length + 1) ⟨.none, none, [], []⟩ text

/-! ### Options that hold arguments -/

/-- What an argument with a text of further arguments holds: the letters before, and the text if it
    stands in the same argument. -/
def splitOption? (arg : Text) : Option (Text × Option Text) :=
  match arg with
  | '-' :: '-' :: word =>
    let name := word.takeWhile (· ≠ '=')
    if name ≠ [] ∧ name.isPrefixOf "split-string".toList then
      some ([], if name.length < word.length then some (word.drop (name.length + 1)) else none)
    else none
  | '-' :: letters =>
    let before := letters.takeWhile (· ∈ ['i', '0', 'v'])
    match letters.drop before.length with
    | ['S'] => some (before, none)
    | 'S' :: text => some (before, some text)
    | _ => none
  | _ => none

/-- Whether an option has its value in the next argument. -/
def wantsNext (arg : Text) : Bool :=
  match arg with
  | '-' :: '-' :: word =>
    !word.contains '=' && word ≠ []
      && ["unset", "chdir"].any fun name => word.isPrefixOf name.toList
  | '-' :: letters => ["u", "C"].any fun letter =>
      letters.dropWhile (· ∈ ['i', '0', 'v']) = letter.toList
  | _ => false

/-- Whether an option asks for notes about what is done. -/
def asksForNotes (arg : Text) : Bool :=
  match arg with
  | '-' :: '-' :: word => 2 < word.length && word.isPrefixOf "debug".toList
  | '-' :: letters => (letters.takeWhile (· ∈ ['i', '0', 'v'])).contains 'v'
  | _ => false

/-- Arguments whose texts of further arguments have been split. -/
structure ExpandedArguments where
  args : List Text
  /-- What is noted about it. -/
  notes : List Text
  /-- What is wrong with a text, if something is. What stands before it is kept. -/
  fault : Option Text := none

namespace ExpandedArguments

/-- Arguments put before others. -/
def after (args notes : List Text) (e : ExpandedArguments) : ExpandedArguments :=
  { e with args := args ++ e.args, notes := notes ++ e.notes }

end ExpandedArguments

/-- What is noted about a text that is split. -/
def splitNotes (cs : Charset) (text : Text) (s : SplitText) : List Text :=
  let lookup (e : Text × Option Text) : Text := match e.2 with
    | some value => "expanding $\x7b" ++ e.1 ++ "\x7d into " ++ cs.quotedWord value
    | none => "replacing $\x7b" ++ e.1 ++ "\x7d with null string"
  let split : List Text := match s.args with
    | [] => []
    | arg :: rest => ["split -S:  " ++ cs.quotedWord text, " into:    " ++ cs.quotedWord arg]
        ++ rest.map fun arg => "     &    " ++ cs.quotedWord arg
  s.used.map lookup ++ split

/-- Arguments with texts of further arguments split, as long as options are read, in so many steps
    at most; `noting` says that it is noted what is done. -/
def expandArguments (cs : Charset) (vars : RawVars) :
    Nat → Bool → List Text → ExpandedArguments
  | 0, _, args => ⟨args, [], none⟩
  | _, _, [] => ⟨[], [], none⟩
  | steps + 1, noting, arg :: rest =>
    let noting := noting || asksForNotes arg
    if arg = ['-', '-'] ∨ arg = ['-'] ∨ arg.head? ≠ some '-' then ⟨arg :: rest, [], none⟩
    else match splitOption? arg with
      | some (before, text) =>
        match text.orElse fun _ => rest.head? with
        | none => ⟨arg :: rest, [], none⟩
        | some value =>
          let rest := if text.isSome then rest else rest.drop 1
          let kept := if before = [] then [] else ['-' :: before]
          match splitArguments vars value with
          | .error message => ⟨kept, [], some message⟩
          | .ok split =>
            (expandArguments cs vars steps noting (split.args ++ rest)).after kept
              (if noting then splitNotes cs value split else [])
      | none =>
        let size := if wantsNext arg then 1 else 0
        (expandArguments cs vars steps noting (rest.drop size)).after (arg :: rest.take size) []

end LineShell
