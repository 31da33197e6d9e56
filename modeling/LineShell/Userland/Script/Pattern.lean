import LineShell.Userland.Script.Name
/-!
    Patterns that texts are matched against as a whole.

    In the text of a pattern a backslash makes the character after it mean only itself. A bracket
    that is not closed means only itself, too. Ranges go by the bytes as signed numbers. -/

namespace LineShell.Script

/-- What a set of characters lists. -/
inductive SetItem where
  | range (low high : Char)
  | cls (holds : Char → Bool)

/-- A part of a pattern that takes a part of a text. -/
inductive Atom where
  /-- Anything, also nothing. -/
  | anything
  /-- One character. -/
  | one
  | char (c : Char)
  | set (negated : Bool) (items : List SetItem)

/-- A pattern. -/
abbrev Pattern := List Atom

/-! ### Sets -/

/-- A byte as a signed number. -/
def signedByte (c : Char) : Int := if c.toNat < 128 then c.toNat else c.toNat - 256

/-- Whether a set lists a character. -/
def SetItem.holds (c : Char) : SetItem → Bool
  | .range low high => signedByte low ≤ signedByte c && signedByte c ≤ signedByte high
  | .cls p => p c

/-- Whether a character can be seen. -/
def isVisible (c : Char) : Bool := 33 ≤ c.toNat && c.toNat < 127

/-- Whether a character is one of the six blanks. -/
def isSpace (c : Char) : Bool := c = ' ' || (9 ≤ c.toNat && c.toNat ≤ 13)

/-- Whether a character controls something and shows nothing. -/
def isControl (c : Char) : Bool := c.toNat < 32 || c.toNat = 127

/-- Whether a character is a hexadecimal digit. -/
def isHexDigit (c : Char) : Bool := c.isDigit || "abcdefABCDEF".toList.contains c

/-- The named classes of characters. -/
def characterClasses : List (String × (Char → Bool)) :=
  [("alnum", Char.isAlphanum), ("alpha", Char.isAlpha), ("blank", (· ∈ [' ', '\t'])),
   ("cntrl", isControl), ("digit", Char.isDigit), ("graph", isVisible), ("lower", Char.isLower),
   ("print", fun c => isVisible c || c = ' '),
   ("punct", fun c => isVisible c && !c.isAlphanum), ("space", isSpace),
   ("upper", Char.isUpper), ("xdigit", isHexDigit)]

/-- The class that a text starts with, written `:name:]`, and the rest of the text. -/
def classAt? (t : Text) : Option ((Char → Bool) × Text) :=
  characterClasses.findSome? fun (name, p) =>
    let written : Text := ":" ++ name.toList ++ ":]"
    if written.isPrefixOf t then some (p, t.drop written.length) else none

/-- The items of a set up to its closing bracket, and the text after that. `first` says that a
    closing bracket would mean only itself. -/
def readSet : Nat → Bool → List SetItem → Text → Option (List SetItem × Text)
  | 0, _, _, _ => none
  | n + 1, first, items, t =>
    match t with
    | [] => none
    | ']' :: rest =>
      if first then readItem n ']' items rest else some (items, rest)
    | '[' :: rest => match classAt? rest with
      | some (p, rest) => readSet n false (.cls p :: items) rest
      | none => readItem n '[' items rest
    | '\\' :: c :: rest => readItem n c items rest
    | c :: rest => readItem n c items rest
where
  /-- The item that starts with a character. -/
  readItem (n : Nat) (c : Char) (items : List SetItem) (t : Text) :
      Option (List SetItem × Text) :=
    match t with
    | '-' :: ']' :: _ => readSet n false (.range c c :: items) t
    | '-' :: '\\' :: high :: rest => readSet n false (.range c high :: items) rest
    | '-' :: high :: rest => readSet n false (.range c high :: items) rest
    | t => readSet n false (.range c c :: items) t

/-- The pattern that a text writes. -/
def Pattern.read : Nat → Text → Pattern
  | 0, _ => []
  | n + 1, t =>
    match t with
    | [] => []
    | '*' :: rest => .anything :: read n rest
    | '?' :: rest => .one :: read n rest
    | '\\' :: c :: rest => .char c :: read n rest
    | '[' :: rest =>
      let (negated, body) : Bool × Text := match rest with
        | '!' :: body => (true, body)
        | body => (false, body)
      match readSet (2 * t.length) true [] body with
      | some (items, rest) => .set negated items :: read n rest
      | none => .char '[' :: read n rest
    | c :: rest => .char c :: read n rest

/-- The pattern that a text writes. -/
def Pattern.ofText (t : Text) : Pattern := Pattern.read t.length t

/-- Whether a text matches a pattern. -/
def Pattern.accepts : Pattern → Text → Bool
  | [], t => t = []
  | .anything :: p, [] => accepts p []
  | .anything :: p, c :: cs => accepts p (c :: cs) || accepts (.anything :: p) cs
  | .one :: p, _ :: cs => accepts p cs
  | .char a :: p, c :: cs => a = c && accepts p cs
  | .set negated items :: p, c :: cs => (items.any (·.holds c)) ≠ negated && accepts p cs
  | _ :: _, [] => false
termination_by p t => (t.length, p.length)

/-- The shortest or the longest part of a text, from its start, that is accepted; what is left of
    the text without it, if there is such a part. -/
def cutStart? (accepts : Text → Bool) (longest : Bool) (t : Text) : Option Text :=
  let sizes := List.range (t.length + 1)
  ((if longest then sizes.reverse else sizes).find? fun n => accepts (t.take n)).map t.drop

/-- The shortest or the longest part of a text, up to its end, that is accepted; what is left of
    the text without it, if there is such a part. -/
def cutEnd? (accepts : Text → Bool) (longest : Bool) (t : Text) : Option Text :=
  let starts := List.range (t.length + 1)
  ((if longest then starts else starts.reverse).find? fun n => accepts (t.drop n)).map t.take

/-! ### File names -/

/-- Whether a bracket that stands before a text is closed before the next slash. -/
def closesBracket : Nat → Text → Bool
  | 0, _ => false
  | n + 1, t =>
    let t := match t with
      | '\\' :: rest => rest
      | t => t
    match t with
    | [] | '/' :: _ => false
    | _ :: ']' :: _ => true
    | _ :: rest => closesBracket n rest

/-- Whether a text, as a part of a path, is a pattern. -/
def hasMeta : Text → Bool
  | [] => false
  | '*' :: _ | '?' :: _ => true
  | '[' :: rest =>
    let body := match rest with
      | '!' :: body => body
      | body => body
    closesBracket (body.length + 1) body || hasMeta rest
  | '\\' :: _ :: rest => hasMeta rest
  | _ :: rest => hasMeta rest

/-- The text that a pattern without active characters stands for. -/
def unescaped : Text → Text
  | '\\' :: c :: rest => c :: unescaped rest
  | c :: rest => c :: unescaped rest
  | [] => []

end LineShell.Script
