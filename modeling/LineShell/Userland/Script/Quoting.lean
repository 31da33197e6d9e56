import LineShell.Userland.Script.Reader
/-!
    What characters mean where they stand: in quotes, in braces, in a here-document.

    A place (`Place`) says which characters are active there, and whether text may end in it. -/

namespace LineShell.Script

open Reading

/-- Where pieces are read. -/
inductive Setting where
  /-- Outside quotes. -/
  | word
  /-- The delimiter of a here-document, in which nothing is expanded. -/
  | delimiter
  /-- Between double quotes. -/
  | quotes
  /-- Between double quotes in the delimiter of a here-document. -/
  | delimiterQuotes
  /-- In braces outside quotes. -/
  | braces
  /-- In braces between double quotes. -/
  | quotedBraces
  /-- Between double quotes in braces between double quotes. -/
  | innerQuotes
  /-- In an arithmetic expression. -/
  | arithmetic
  /-- In a here-document. -/
  | document
  deriving DecidableEq

/-- Where pieces are read, and what is around it. -/
structure Place where
  setting : Setting
  /-- Braces are open around it. -/
  inBraces : Bool
  /-- It belongs to a here-document. -/
  inDocument : Bool

/-- Whether nothing is expanded there. -/
def Place.isDelimiter (p : Place) : Bool := p.setting ∈ [.delimiter, .delimiterQuotes]

/-- Whether most characters mean only themselves. -/
def Place.isQuoted (p : Place) : Bool := p.setting ∉ [.word, .delimiter, .braces]

/-- The place in the braces of a parameter; the pattern of a cut is read as if outside quotes. -/
def Place.braces (p : Place) (pattern : Bool) : Place :=
  ⟨if p.isQuoted ∧ ¬ pattern then .quotedBraces else .braces, true, p.inDocument⟩

/-- The message for text that ends in a place where it must not. -/
def Place.unfinished (p : Place) : Option Text :=
  match p.setting with
  | .word | .delimiter | .document => none
  | .quotes | .delimiterQuotes | .innerQuotes =>
    if p.inDocument then none else some "Unterminated quoted string"
  | .quotedBraces => some (if p.inDocument then "Missing \x27\x7d\x27"
      else "Unterminated quoted string")
  | .braces => some "Missing \x27\x7d\x27"
  | .arithmetic => some "Missing \x27))\x27"

/-- Whether a backslash between quotes escapes a character. -/
def Place.escapes (p : Place) (c : Char) : Bool :=
  c ∈ ['\\', '\x60', '$'] || (c = '\x22' && !(p.inDocument && !p.inBraces)) ||
    (c = '\x7d' && p.inBraces)

/-- A character as a piece. -/
def Place.piece (p : Place) (c : Char) : Piece := if p.isQuoted then .escaped c else .char c

/-- The characters that end a word outside quotes. -/
def endsWord (c : Char) : Bool := c ∈ "\n \t<>();&|".toList

/-- The characters that may mean more than themselves in some place. -/
def isActive (c : Char) : Bool := endsWord c || c ∈ "\\\x27\x22$\x60\x7d".toList

/-- The text between old-style command quotes, without the escapes that protect it there. -/
def commandQuoted (quoted : Bool) : Nat → Text → Reading Text
  | 0, done => return done.reverse
  | n + 1, done => do
    match ← peekOn with
    | none => fail "EOF in backquote substitution"
    | some '\x60' =>
      advance
      return done.reverse
    | some '\\' =>
      advance
      match ← peek with
      | none => commandQuoted quoted n ('\\' :: done)
      | some c =>
        advance
        let plain := c ∈ ['\\', '\x60', '$'] || (quoted && c = '\x22')
        commandQuoted quoted n (if plain then c :: done else c :: '\\' :: done)
    | some c =>
      advance
      commandQuoted quoted n (c :: done)

/-- Takes a line feed that stands where the braces of a parameter need something else. It does not
    count as the end of a line. -/
def takeBreak : Reading Unit := modify fun r => { r with rest := r.rest.tail }

/-- The operator after the name of a parameter in braces. A brace after a colon does not end the
    parameter. -/
def readModifier : Reading (Modifier × Bool) := do
  let colon ← accept ':'
  match ← peekOn with
  | none => return (.malformed, colon)
  | some c =>
    if !colon ∧ c ∈ ['#', '%'] then
      advance
      let longest ← accept c
      return (if c = '#' then .cutStart longest else .cutEnd longest, false)
    if c = '\n' then takeBreak else advance
    return match c with
    | '\x7d' => (.value, colon)
    | '-' => (.otherwise, colon)
    | '=' => (.assign, colon)
    | '?' => (.demand, colon)
    | '+' => (.alternative, colon)
    | _ => (.malformed, colon)

/-- Whether the pattern of a modifier is read as if outside quotes. -/
def Modifier.cuts : Modifier → Bool
  | .cutStart _ | .cutEnd _ => true
  | _ => false

/-- The name of a parameter in braces and what is asked of it. `none` stands for a value that the
    closing brace has ended already. -/
def readBraced (n : Nat) : Reading (Text × Option (Modifier × Bool)) := do
  let finish (name : Text) : Reading (Text × Option (Modifier × Bool)) := do
    match ← readModifier with
    | (.value, false) => return (name, none)
    | asked => return (name, some asked)
  let measured (name : Text) : Reading (Text × Option (Modifier × Bool)) := do
    if (← peekOn) = some '\x7d' then return (name, some (.length, false))
    else return (name, some (.malformed, false))
  match ← peekOn with
  | none | some '\x7d' => return ([], some (.malformed, false))
  | some '\n' =>
    takeBreak
    return ([], some (.malformed, false))
  | some c =>
    if isNameStart c then finish (← name n [])
    else if c.isDigit then finish (← digits n [])
    else
      advance
      if c = '#' then
        match ← peekOn with
        | none => finish ['#']
        | some d =>
          if isNameStart d then measured (← name n [])
          else if d.isDigit then measured (← digits n [])
          else if d = '\x7d' then finish ['#']
          else
            let r ← get
            advance
            if (← peekOn) = some '\x7d' then
              if isSpecialParameter d then return ([d], some (.length, false))
              else return ([], some (.malformed, false))
            set r
            finish ['#']
      else if isSpecialParameter c then finish [c]
      else return ([], some (.malformed, false))

end LineShell.Script
