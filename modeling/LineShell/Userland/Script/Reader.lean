import LineShell.Userland.Script.Command
/-!
    Reading the text of a script character by character.

    A backslash before a line feed takes both away wherever continuations are allowed. The lines of
    here-documents are taken out of the text as soon as the line that asks for them has ended. -/

namespace LineShell.Script

/-- What a redirection sign asks for. -/
inductive RedirectKind where
  | file (mode : OpenMode)
  | duplicate
  | document (stripsTabs : Bool)
  deriving DecidableEq, Repr

/-- The words of the language. -/
inductive Token where
  | ending
  | newline
  | redirection (descriptor : Nat) (kind : RedirectKind)
  | word (w : Word)
  | reserved (name : String)
  | sign (text : String)

/-- A here-document that has been asked for and not been read. -/
structure AwaitedDocument where
  number : Nat
  delimiter : Text
  stripsTabs : Bool
  /-- Whether its lines are taken as they stand. -/
  literal : Bool

/-- The text of an alias that is being read: how much text stands after it, and whether the word
    after it is looked up too. -/
structure OpenAlias where
  name : Text
  behind : Nat
  chains : Bool

/-- What is left to read of a script. -/
structure Reader where
  rest : Text
  line : Nat
  /-- The last token, and whether it is to be read again. -/
  last : Token
  again : Bool
  aliases : List (Text × Text)
  openAliases : List OpenAlias
  awaited : List AwaitedDocument
  documents : List (Nat × Word)
  nextDocument : Nat
  /-- The here-document that is being read, as long as its end has not been found. -/
  document : Option AwaitedDocument
  /-- What is left behind the end of that here-document. -/
  behind : Text
  /-- Whether the text may be shown as it is read. -/
  shows : Bool

/-- A reader at the start of a text. -/
def Reader.ofText (text : Text) (aliases : List (Text × Text)) (nextDocument : Nat)
    (shows : Bool) : Reader :=
  ⟨text, 1, .newline, false, aliases, [], [], [], nextDocument, none, [], shows⟩

/-- Reading, which may fail with a message. -/
abbrev Reading := EStateM Text Reader

namespace Reading

/-- A message about the form of a script. -/
def fail {α : Type} (message : Text) : Reading α := throw message

/-- The next character, which stays. -/
def peek : Reading (Option Char) := return (← get).rest.head?

/-- Takes the next character. -/
def advance : Reading Unit := modify fun r => match r.rest with
  | [] => r
  | c :: rest => { r with rest, line := if c = '\n' then r.line + 1 else r.line }

/-- Takes characters as long as they are of a kind. -/
def takeWhile (p : Char → Bool) : Reading Text := do
  let r ← get
  let taken := r.rest.takeWhile p
  set { r with rest := r.rest.drop taken.length, line := r.line + taken.count '\n' }
  return taken

/-- A text without the continuations that it starts with, and how many there were. -/
def skipContinuations : Text → Nat → Text × Nat
  | '\\' :: '\n' :: rest, n => skipContinuations rest (n + 1)
  | text, n => (text, n)

/-- The next character after continuations, which are taken. -/
def peekOn : Reading (Option Char) := do
  let r ← get
  let (rest, lines) := skipContinuations r.rest 0
  set { r with rest, line := r.line + lines }
  return rest.head?

/-- Takes the next character if it is the given one. -/
def accept (c : Char) : Reading Bool := do
  if (← peekOn) = some c then
    advance
    return true
  else return false

/-- Takes the characters that may go on a name. -/
def name : Nat → Text → Reading Text
  | 0, done => return done.reverse
  | n + 1, done => do
    match ← peekOn with
    | some c =>
      if isNameChar c then
        advance
        name n (c :: done)
      else return done.reverse
    | none => return done.reverse

/-- Takes digits. -/
def digits : Nat → Text → Reading Text
  | 0, done => return done.reverse
  | n + 1, done => do
    match ← peekOn with
    | some c =>
      if c.isDigit then
        advance
        digits n (c :: done)
      else return done.reverse
    | none => return done.reverse

/-- Takes the text between single quotes. -/
def singleQuoted : Reading Text := do
  let text ← takeWhile (· ≠ '\x27')
  if (← peek).isNone then fail "Unterminated quoted string"
  advance
  return text

/-- Takes one line with its end. -/
def wholeLine : Reading Text := do
  let text ← takeWhile (· ≠ '\n')
  return if ← accepts '\n' then text ++ ['\n'] else text
where
  /-- Takes the next character if it is the given one. -/
  accepts (c : Char) : Reading Bool := do
    if (← peek) = some c then
      advance
      return true
    else return false

/-- Takes the lines of a here-document as they stand, and its delimiter. -/
def documentLines (d : AwaitedDocument) : Nat → Text → Reading Text
  | 0, done => return done
  | n + 1, done => do
    if (← peek).isNone then return done
    if d.stripsTabs then
      let _ ← takeWhile (· = '\t')
    let line ← wholeLine
    if line = d.delimiter ++ ['\n'] ∨ line = d.delimiter then return done
    documentLines d n (done ++ line)

/-- Starts a line. If it ends the here-document that is being read, nothing seems to be left from
    then on; tabs at its start are taken if they do not count. -/
def startLine : Reading Unit := do
  match (← get).document with
  | none => return
  | some d =>
    if d.stripsTabs then
      let _ ← takeWhile (· = '\t')
    let r ← get
    let mark := d.delimiter ++ ['\n']
    if mark.isPrefixOf r.rest then
      let behind := r.rest.drop mark.length
      set { r with rest := [], behind, document := none, line := r.line + 1 }
    else if r.rest = d.delimiter then set { r with rest := [], document := none }

/-- Puts text before what is left, as what an alias stands for. -/
def openAlias (name value : Text) : Reading Unit := modify fun r =>
  { r with
    rest := value ++ r.rest
    openAliases := ⟨name, r.rest.length, value.getLast?.any (· ∈ [' ', '\t'])⟩ :: r.openAliases }

/-- What an alias means here, unless its own text is being read. -/
def alias? (name : Text) : Reading (Option Text) := do
  let r ← get
  if r.aliases = [] then return none
  let length := r.rest.length
  if r.openAliases.any fun a => a.name = name ∧ a.behind ≤ length then return none
  return r.aliases.lookup name

/-- Leaves the aliases whose text has been read; whether the next word is to be looked up. -/
def closeAliases : Reading Bool := do
  let r ← get
  if r.openAliases = [] then return false
  let length := r.rest.length
  let (closed, stillOpen) := r.openAliases.partition fun a => length ≤ a.behind
  set { r with openAliases := stillOpen }
  return closed.any (·.chains)

end Reading

end LineShell.Script
