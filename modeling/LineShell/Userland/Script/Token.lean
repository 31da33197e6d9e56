import LineShell.Userland.Script.Reader
/-!
    The tokens of scripts, and the redirections that they start.

    What a word means depends on where it stands: `Checks` says what is to be done about a token
    before it is given. -/

namespace LineShell.Script

open Reading

/-- The words that have a meaning at the start of a command. -/
def reservedWords : List String :=
  ["!", "case", "do", "done", "elif", "else", "esac", "fi", "for", "if", "in", "then", "until",
   "while", "\x7b", "\x7d"]

/-- The commands that no function may be called like. -/
def specialBuiltins : List String :=
  [".", ":", "break", "continue", "eval", "exec", "exit", "export", "readonly", "return", "set",
   "shift", "times", "trap", "unset"]

/-- A token as messages name it. -/
def Token.shown : Token → Text
  | .ending => "end of file"
  | .newline => "newline"
  | .redirection _ _ => "redirection"
  | .word _ => "word"
  | .reserved name | .sign name => "\x22" ++ name.toList ++ "\x22"

/-- Whether a token ends a list of commands. -/
def Token.endsList : Token → Bool
  | .ending => true
  | .sign text => text ∈ [")", ";;"]
  | .reserved name => name ∈ ["do", "done", "elif", "else", "esac", "fi", "then", "\x7d"]
  | _ => false

/-- What is to be done about a token before it is given. -/
structure Checks where
  /-- Line feeds are skipped. -/
  newlines : Bool
  /-- Words of the language are told from others. -/
  reserved : Bool
  aliases : Bool

/-- Tokens as they stand. -/
def Checks.none : Checks := ⟨false, false, false⟩

/-- Tokens at the start of a command. -/
def Checks.command : Checks := ⟨false, true, true⟩

/-- Tokens at the start of a command that may stand on a later line. -/
def Checks.later : Checks := ⟨true, true, true⟩

/-- Gives the last token again. -/
def pushBack : Reading Unit := modify fun r => { r with again := true }

/-- A token that does not belong where it stands. -/
def unexpected {α : Type} (wanted : Option Token) : Reading α := do
  let found := (← get).last.shown ++ " unexpected"
  match wanted with
  | some token => fail (found ++ " (expecting " ++ token.shown ++ ")")
  | none => fail found

/-! ### Redirections -/

/-- The sign of a redirection after its first character, which has been taken. -/
def readRedirectSign (first : Char) (descriptor : Option Nat) : Reading Token := do
  let token (standard : Nat) (kind : RedirectKind) : Token :=
    .redirection (descriptor.getD standard) kind
  if first = '>' then
    if ← accept '>' then return token 1 (.file .append)
    if ← accept '|' then return token 1 (.file .overwrite)
    if ← accept '&' then return token 1 .duplicate
    return token 1 (.file .write)
  if ← accept '<' then return token 0 (.document (← accept '-'))
  if ← accept '&' then return token 0 .duplicate
  if ← accept '>' then return token 0 (.file .readWrite)
  return token 0 (.file .read)

/-- The redirection that a word completes. A here-document is awaited from then on. -/
def redirectionOf (descriptor : Nat) (kind : RedirectKind) (w : Word) : Reading Redirection := do
  match kind with
  | .file mode => return .file descriptor mode w
  | .duplicate => match w with
    | [.char c] =>
      if c.isDigit then return .duplicate descriptor (some (c.toNat - '0'.toNat))
      if c = '-' then return .duplicate descriptor none
      return .duplicateNamed descriptor w
    | _ => return .duplicateNamed descriptor w
  | .document stripsTabs =>
    let r ← get
    let awaited : AwaitedDocument := ⟨r.nextDocument, w.unquoted, stripsTabs, w.isQuoted⟩
    set { r with nextDocument := r.nextDocument + 1, awaited := r.awaited ++ [awaited] }
    return .document descriptor awaited.number

end LineShell.Script
