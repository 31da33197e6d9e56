import LineShell.Userland.Script.Name
/-!
    The commands of scripts.

    A word is a list of pieces. Quotation marks stay in it as pieces of their own, because an empty
    pair of them makes a field where nothing else does. The lines of a here-document are read only
    after the command that names it, so the command knows the document by a number. -/

namespace LineShell.Script

/-- What `${name…}` asks of a parameter. -/
inductive Modifier where
  | value
  | length
  /-- `-`: a word in the stead of a missing value. -/
  | otherwise
  /-- `=`: the same, and the word becomes the value. -/
  | assign
  /-- `?`: a missing value ends the script. -/
  | demand
  /-- `+`: a word if there is a value. -/
  | alternative
  /-- `#` and `##`: without the shortest or longest start that matches a pattern. -/
  | cutStart (longest : Bool)
  /-- `%` and `%%`: without the shortest or longest end that matches a pattern. -/
  | cutEnd (longest : Bool)
  | malformed
  deriving DecidableEq, Repr

/-- How a redirection opens its file. -/
inductive OpenMode where
  | read
  | write
  /-- `>|`: even where files are protected. -/
  | overwrite
  | append
  | readWrite
  deriving DecidableEq, Repr

mutual

/-- A piece of a word. -/
inductive Piece where
  | char (c : Char)
  /-- A character that means only itself. -/
  | escaped (c : Char)
  /-- A quotation mark. -/
  | quote
  /-- The value of a parameter; `colon` counts an empty value as missing. -/
  | parameter (name : Text) (modifier : Modifier) (colon : Bool) (word : List Piece)
  /-- The output of a command. -/
  | command (body : Cmd)
  | arithmetic (body : List Piece)

/-- What happens to a descriptor. -/
inductive Redirection where
  | file (descriptor : Nat) (mode : OpenMode) (path : List Piece)
  /-- A copy of another descriptor; closed if there is none. -/
  | duplicate (descriptor : Nat) (target : Option Nat)
  /-- A copy of the descriptor that a word names. -/
  | duplicateNamed (descriptor : Nat) (target : List Piece)
  | document (descriptor number : Nat)

/-- A command, with the line it starts on where messages need it. -/
inductive Cmd where
  /-- Nothing. -/
  | skip
  | simple (line : Nat) (assigns words : List (List Piece)) (redirects : List Redirection)
  | pipeline (stages : List Cmd) (background : Bool)
  | next (a b : Cmd)
  | also (a b : Cmd)
  | otherwise (a b : Cmd)
  | negate (a : Cmd)
  | branch (condition yes : Cmd) (no : Option Cmd)
  /-- `while`, or `until` if the condition is to fail. -/
  | loop (succeeding : Bool) (condition body : Cmd)
  | each (line : Nat) (name : Text) (words : List (List Piece)) (body : Cmd)
  | choose (line : Nat) (subject : List Piece) (cases : List (List (List Piece) × Cmd))
  | subshell (line : Nat) (body : Cmd) (redirects : List Redirection)
  | background (line : Nat) (body : Cmd) (redirects : List Redirection)
  | redirected (line : Nat) (body : Cmd) (redirects : List Redirection)
  | define (name : Text) (body : Cmd)

end

/-- A word. -/
abbrev Word := List Piece

namespace Word

/-- The text of a word that is nothing but characters, each as it stands. -/
def plain? : Word → Option Text
  | [] => some []
  | .char c :: rest => (plain? rest).map (c :: ·)
  | _ :: _ => none

/-- Whether a word holds quotation marks or escapes. -/
def isQuoted (w : Word) : Bool := w.any fun
  | .quote | .escaped _ => true
  | _ => false

/-- The text of a word without its quotation marks. -/
def unquoted (w : Word) : Text := w.filterMap fun
  | .char c | .escaped c => some c
  | _ => none

/-- The characters that a word starts with, up to its first piece of another kind. -/
def start : Word → Text
  | .char c :: rest => c :: start rest
  | _ => []

/-- The name and the value word of an assignment. -/
def assignment? (w : Word) : Option (Text × Word) :=
  match Script.assignment? w.start with
  | some (name, _) => some (name, w.drop (name.length + 1))
  | none => none

end Word

/-- The word `"$@"`. -/
def allArguments : Word := [.quote, .parameter ['@'] .value false [], .quote]

end LineShell.Script
