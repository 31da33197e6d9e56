import LineShell.Text.Octet
/-!
    The words that scripts are written in: the names of variables and of special parameters, and
    assignments. -/

namespace LineShell.Script

/-- Whether a name may start with a character. -/
def isNameStart (c : Char) : Bool := c.isAlpha || c = '_'

/-- Whether a name may go on with a character. -/
def isNameChar (c : Char) : Bool := c.isAlphanum || c = '_'

/-- Whether a text is the name of a variable. -/
def isName : Text → Bool
  | [] => false
  | c :: cs => isNameStart c && cs.all isNameChar

/-- Whether a character names a special parameter. -/
def isSpecialParameter (c : Char) : Bool := c.isDigit || c ∈ "!#?$*@-".toList

/-- The name and the value of an assignment `name=value`. -/
def assignment? (t : Text) : Option (Text × Text) :=
  let name := t.takeWhile isNameChar
  match t.drop name.length with
  | '=' :: value => if isName name then some (name, value) else none
  | _ => none

end LineShell.Script
