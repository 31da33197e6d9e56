import LineShell.Userland.Programs.Pattern.Notation
import LineShell.Userland.Programs.Pattern.Ordered
import LineShell.Userland.Text.Floating
/-!
    Ordered patterns as they are written: escapes and classes of symbols.

    A backslash before a letter or a digit gives it a meaning, and takes the meaning away from
    anything else. A class lists symbols, ranges, escapes and named classes between brackets. -/

namespace LineShell

/-- What is wrong with an ordered pattern. -/
inductive OrderedFault where
  | backslashAtEnd | controlAtEnd | controlSymbol | unknownEscape | unsupportedEscape
  | countOrder | countTooBig | nothingToRepeat
  | openClass | escapeInClass | rangeOrder | badRange | classOutside | collating | unknownClass
  | newlineInClass
  | codeTooLarge | octalTooLarge | surrogate | notHexadecimal | notOctal | noDigits | octalBrace
  | unicodeOnly
  | badProperty | unknownProperty
  | openGroup | strayClosing | unknownGroup | unknownAfterP | openComment
  | nameExpected | nameDigit | nameTooLong | openName | sameName | otherName
  | missingGroup | numberTooBig | zeroOffset | digitExpected | callEnd | recallLetter | recallName
  | openCondition | conditionBranches | defineBranches | assertionExpected
  | notFixed | unknownVerb | unknownAssertion | markArgument | optionHyphen
  | calloutTooBig | openCallout
  deriving DecidableEq, Repr

/-- What is wrong with an ordered pattern, in words. -/
def OrderedFault.message : OrderedFault → String
  | .backslashAtEnd => "\\ at end of pattern"
  | .controlAtEnd => "\\c at end of pattern"
  | .controlSymbol => "\\c must be followed by a printable ASCII character"
  | .unknownEscape => "unrecognized character follows \\"
  | .unsupportedEscape =>
    "PCRE2 does not support \\F, \\L, \\l, \\N\x7bname\x7d, \\U, or \\u"
  | .countOrder => "numbers out of order in \x7b\x7d quantifier"
  | .countTooBig => "number too big in \x7b\x7d quantifier"
  | .nothingToRepeat => "quantifier does not follow a repeatable item"
  | .openClass => "missing terminating ] for character class"
  | .escapeInClass => "escape sequence is invalid in character class"
  | .rangeOrder => "range out of order in character class"
  | .badRange => "invalid range in character class"
  | .classOutside => "POSIX named classes are supported only within a class"
  | .collating => "POSIX collating elements are not supported"
  | .unknownClass => "unknown POSIX class name"
  | .newlineInClass => "\\N is not supported in a class"
  | .codeTooLarge => "character code point value in \\x\x7b\x7d or \\o\x7b\x7d is too large"
  | .octalTooLarge => "octal value is greater than \\377 in 8-bit non-UTF-8 mode"
  | .surrogate => "disallowed Unicode code point (>= 0xd800 && <= 0xdfff)"
  | .notHexadecimal => "non-hex character in \\x\x7b\x7d (closing brace missing?)"
  | .notOctal => "non-octal character in \\o\x7b\x7d (closing brace missing?)"
  | .noDigits => "digits missing in \\x\x7b\x7d or \\o\x7b\x7d or \\N\x7bU+\x7d"
  | .octalBrace => "missing opening brace after \\o"
  | .unicodeOnly => "\\N\x7bU+dddd\x7d is supported only in Unicode (UTF) mode"
  | .badProperty => "malformed \\P or \\p sequence"
  | .unknownProperty => "unknown property after \\P or \\p"
  | .openGroup => "missing closing parenthesis"
  | .strayClosing => "unmatched closing parenthesis"
  | .unknownGroup => "unrecognized character after (? or (?-"
  | .unknownAfterP => "unrecognized character after (?P"
  | .openComment => "missing ) after (?# comment"
  | .nameExpected => "subpattern name expected"
  | .nameDigit => "subpattern name must start with a non-digit"
  | .nameTooLong => "subpattern name is too long (maximum 32 code units)"
  | .openName => "syntax error in subpattern name (missing terminator?)"
  | .sameName => "two named subpatterns have the same name (PCRE2_DUPNAMES not set)"
  | .otherName => "different names for subpatterns of the same number are not allowed"
  | .missingGroup => "reference to non-existent subpattern"
  | .numberTooBig => "subpattern number is too big"
  | .zeroOffset => "a relative value of zero is not allowed"
  | .digitExpected => "digit expected after (?+ or (?-"
  | .callEnd => "(?R (recursive pattern call) must be followed by a closing parenthesis"
  | .recallLetter => "\\g is not followed by a braced, angle-bracketed, or quoted name/number or "
      ++ "by a plain number"
  | .recallName => "\\k is not followed by a braced, angle-bracketed, or quoted name"
  | .openCondition => "missing closing parenthesis for condition"
  | .conditionBranches => "conditional subpattern contains more than two branches"
  | .defineBranches => "DEFINE subpattern contains more than one branch"
  | .assertionExpected => "assertion expected after (?( or (?(?C)"
  | .notFixed => "lookbehind assertion is not fixed length"
  | .unknownVerb => "(*VERB) not recognized or malformed"
  | .unknownAssertion => "(*alpha_assertion) not recognized"
  | .markArgument => "(*MARK) must have an argument"
  | .optionHyphen => "invalid hyphen in option setting"
  | .calloutTooBig => "number after (?C is greater than 255"
  | .openCallout => "closing parenthesis for (?C expected"

/-! ### Named sets -/

/-- Blanks within a line. -/
def isHorizontalSpace (s : Symbol) : Bool :=
  [9, 0x20, 0xA0, 0x1680, 0x180E, 0x202F, 0x205F, 0x3000].contains s || (0x2000 ≤ s && s ≤ 0x200A)

/-- What ends a line or a page. -/
def isVerticalSpace (s : Symbol) : Bool := (10 ≤ s && s ≤ 13) || [0x85, 0x2028, 0x2029].contains s

/-- The members of a class that is named by a letter after a backslash; a capital means all
    others. -/
def letterClass? (c : Char) : Option (Symbol → Bool) :=
  let members? : Option (Symbol → Bool) := match c.toLower with
    | 'd' => some Charset.isDigit
    | 'w' => some isOrderedWord
    | 's' => some Charset.single.isSpace
    | 'h' => some isHorizontalSpace
    | 'v' => some isVerticalSpace
    | _ => none
  members?.map fun p => if c.isUpper then fun s => !s.isStray && !p s else p

/-- The members of a class with a name between colons. -/
def colonClass? (name : String) : Option (Symbol → Bool) :=
  if name = "word" then some isOrderedWord
  else if name = "ascii" then some (· < 0x80)
  else Charset.single.inClass? name

/-- The members of a property of characters. -/
def property? (cs : Charset) (name : String) : Option (Symbol → Bool) :=
  let letter (s : Symbol) : Bool := cs.isLetter s
  let small (s : Symbol) : Bool := letter s && cs.large s ≠ s
  let large (s : Symbol) : Bool := letter s && cs.small s ≠ s
  let sign (s : Symbol) : Bool := s < 0x80 && "$+<=>^`|~".toList.contains (Char.ofNat s)
  let mark (s : Symbol) : Bool := s < 0x80 && !sign s && ((cs.inClass? "punct").any (· s))
  let space (s : Symbol) : Bool := s = 0x20 || s = 0xA0 || (0x80 < s && Charset.utf8.isSpace s)
  match name with
  | "Any" => some fun _ => true
  | "L" => some letter
  | "L&" => some fun s => small s || large s
  | "Lu" => some large
  | "Ll" => some small
  | "Lt" | "Lm" => some fun _ => false
  | "Lo" => some fun s => letter s && !small s && !large s
  | "N" | "Nd" => some Charset.isDigit
  | "Nl" | "No" => some fun _ => false
  | "P" => some mark
  | "Pc" => some (· = 0x5F)
  | "Pd" => some (· = 0x2D)
  | "Ps" => some fun s => s < 0x80 && "([\x7b".toList.contains (Char.ofNat s)
  | "Pe" => some fun s => s < 0x80 && ")]\x7d".toList.contains (Char.ofNat s)
  | "Po" => some fun s => mark s && !"_-([\x7b)]\x7d".toList.contains (Char.ofNat s)
  | "S" => some sign
  | "Sc" => some (· = 0x24)
  | "Sk" => some fun s => s = 0x5E || s = 0x60
  | "Sm" => some fun s => sign s && s ∉ [0x24, 0x5E, 0x60]
  | "So" => some fun _ => false
  | "Z" => some fun s => space s || s = 0x2028 || s = 0x2029
  | "Zs" => some space
  | "Zl" => some (· = 0x2028)
  | "Zp" => some (· = 0x2029)
  | "C" | "Cc" => some cs.isControl
  | "M" | "Mn" | "Mc" | "Me" | "Cf" | "Cn" | "Co" | "Cs" => some fun _ => false
  | "Xan" => some fun s => letter s || Charset.isDigit s
  | "Xwd" => some fun s => letter s || Charset.isDigit s || s = 0x5F
  | "Xps" | "Xsp" => some fun s => cs.isSpace s
  | _ => none

/-! ### Escapes -/

/-- What an escape stands for. -/
inductive OrderedEscape where
  | literal (s : Symbol)
  | members (p : Symbol → Bool)
  | milestone (m : Milestone)
  /-- Something that can be repeated. -/
  | piece (e : Ordered)
  | keep
  | again (number : Nat)
  /-- A reference by a letter that has still to be read. -/
  | reference (letter : Char)

/-- The hexadecimal digits at the start of symbols, of so many at most. -/
def hexDigitsOf (most : Nat) (text : List Symbol) : List Symbol :=
  (text.take most).takeWhile fun s => Charset.ascii (Floating.isDigitIn 16) s

/-- The value of digits in a base. -/
def digitsOf (base : Nat) (digits : List Symbol) : Nat :=
  Floating.digits base (digits.map Symbol.ascii)

/-- The symbol of a number, if the charset has it. -/
def symbolOf (cs : Charset) (n : Nat) : Except OrderedFault Symbol :=
  match cs with
  | .single => if n < 0x100 then .ok n else .error .codeTooLarge
  | .utf8 =>
    if 0x10FFFF < n then .error .codeTooLarge
    else if 0xD800 ≤ n ∧ n ≤ 0xDFFF then .error .surrogate
    else .ok n

/-- A number between braces, of which the opening one has been read; and what follows. -/
def bracedCode (cs : Charset) (base : Nat) (fault : OrderedFault) (text : List Symbol) :
    Except OrderedFault (Symbol × List Symbol) :=
  let digits := text.takeWhile fun s => Charset.ascii (Floating.isDigitIn base) s
  if text = [] ∨ text.head? = some 0x7D then .error .noDigits
  else match symbolOf cs (digitsOf base digits) with
    | .error fault' => if digits = [] then .error fault else .error fault'
    | .ok s =>
      if (text.drop digits.length).head? = some 0x7D then .ok (s, text.drop (digits.length + 1))
      else .error fault

/-- Digits after a backslash as a number in octal, and what follows. -/
def octalCode (cs : Charset) (text : List Symbol) : Except OrderedFault (Symbol × List Symbol) :=
  let digits := (text.take 3).takeWhile fun s => Charset.ascii (Floating.isDigitIn 8) s
  let n := digitsOf 8 digits
  if cs = .single ∧ 0xFF < n then .error .octalTooLarge else .ok (n, text.drop digits.length)

/-- A property after its letter, and what follows. -/
def readProperty (cs : Charset) (capital : Bool) (text : List Symbol) :
    Except OrderedFault ((Symbol → Bool) × List Symbol) :=
  let named (turned : Bool) (name : String) (rest : List Symbol) :
      Except OrderedFault ((Symbol → Bool) × List Symbol) :=
    match property? cs name with
    | some p => .ok (fun s => !s.isStray && p s != (turned != capital), rest)
    | none => .error .unknownProperty
  match text with
  | [] => .error .badProperty
  | 0x7B :: rest =>
    let turned := rest.head? = some 0x5E
    let rest := if turned then rest.drop 1 else rest
    let name := rest.takeWhile (· ≠ 0x7D)
    if name.length = rest.length ∨ name = [] then .error .badProperty
    else
      let bare := name.filter fun s => decide (s ∉ [0x20, 0x5F, 0x2D])
      named turned (String.ofList (bare.map Symbol.ascii)) (rest.drop (name.length + 1))
  | s :: rest =>
    if Charset.ascii Char.isAlpha s then named false (String.singleton s.ascii) rest
    else .error .badProperty

/-- What ends a line, as an ordered pattern. -/
def Ordered.lineBreak : Ordered :=
  .firstWay (.either (.both (.one (· = 13)) (.one (· = 10))) (.one isVerticalSpace))

/-- A character with what is joined to it. -/
def Ordered.cluster : Ordered :=
  let joined (s : Symbol) : Bool := inRanges Column.emptyRanges s
  .firstWay (.either (.both (.one (· = 13)) (.one (· = 10)))
    (.both (.one fun s => !s.isStray) (.repeated (.one joined) 0 none .all)))

/-- What symbols after a backslash stand for, and what follows; `groups` is the number of groups
    before. -/
def readEscape (cs : Charset) (inClass : Bool) (groups : Nat) (text : List Symbol) :
    Except OrderedFault (OrderedEscape × List Symbol) :=
  match text with
  | [] => .error .backslashAtEnd
  | s :: rest =>
    let c := s.ascii
    let literal (n : Nat) : Except OrderedFault (OrderedEscape × List Symbol) :=
      .ok (.literal n, rest)
    let milestone (m : Milestone) : Except OrderedFault (OrderedEscape × List Symbol) :=
      if inClass then .error .escapeInClass else .ok (.milestone m, rest)
    let piece (e : Ordered) : Except OrderedFault (OrderedEscape × List Symbol) :=
      if inClass then .error .escapeInClass else .ok (.piece e, rest)
    let numbered (r : Except OrderedFault (Symbol × List Symbol)) :
        Except OrderedFault (OrderedEscape × List Symbol) :=
      r.map fun (s, rest) => (.literal s, rest)
    if ¬ c.isAlphanum then literal s
    else if c.isDigit then
      let digits := text.takeWhile fun s => Charset.ascii Char.isDigit s
      let n := digitsOf 10 digits
      if c ≠ '0' ∧ ¬ inClass ∧ n < 214748364 ∧ (n < 10 ∨ '8' ≤ c ∨ n ≤ groups) then
        .ok (.again n, text.drop digits.length)
      else if '8' ≤ c then literal s
      else numbered (octalCode cs text)
    else match letterClass? c with
      | some p => .ok (.members p, rest)
      | none => match c with
        | 'a' => literal 7
        | 'e' => literal 27
        | 'f' => literal 12
        | 'n' => literal 10
        | 'r' => literal 13
        | 't' => literal 9
        | 'b' => if inClass then literal 8 else milestone .wordEdge
        | 'B' => milestone .noWordEdge
        | 'A' => milestone .start
        | 'z' => milestone .stop
        | 'Z' => milestone .lastFeed
        | 'G' => milestone .origin
        | 'K' => if inClass then .error .escapeInClass else .ok (.keep, rest)
        | 'R' => piece .lineBreak
        | 'X' => piece .cluster
        | 'C' => piece (.one fun _ => true)
        | 'N' =>
          if rest.take 3 = [0x7B, 0x55, 0x2B] then
            if cs = .single then .error .unicodeOnly
            else numbered (bracedCode cs 16 .notHexadecimal (rest.drop 3))
          else if rest.head? = some 0x7B ∧ ¬ (rest.drop 1).head?.any Charset.isDigit then
            .error .unsupportedEscape
          else if inClass then .error .newlineInClass
          else .ok (.piece (.one fun s => !s.isStray && s ≠ 10), rest)
        | 'p' | 'P' => (readProperty cs (c = 'P') rest).map fun (p, rest) => (.members p, rest)
        | 'x' => match rest with
          | 0x7B :: rest => numbered (bracedCode cs 16 .notHexadecimal rest)
          | rest =>
            let digits := hexDigitsOf 2 rest
            .ok (.literal (digitsOf 16 digits), rest.drop digits.length)
        | 'o' => match rest with
          | 0x7B :: rest => numbered (bracedCode cs 8 .notOctal rest)
          | _ => .error .octalBrace
        | 'c' => match rest with
          | [] => .error .controlAtEnd
          | s :: rest =>
            if s < 32 ∨ 126 < s then .error .controlSymbol
            else .ok (.literal (s.ascii.toUpper.toNat ^^^ 0x40), rest)
        | 'g' => if inClass then literal s else .ok (.reference c, rest)
        | 'k' => if inClass then .error .escapeInClass else .ok (.reference c, rest)
        | 'F' | 'l' | 'L' | 'u' | 'U' => .error .unsupportedEscape
        | _ => .error .unknownEscape

/-! ### Classes -/

/-- Whether symbols after an opening bracket and a mark are a name up to the mark and a closing
    bracket; the name and what follows. -/
def closedClassName? (mark : Symbol) : Nat → List Symbol → List Symbol →
    Option (List Symbol × List Symbol)
  | 0, _, _ => none
  | steps + 1, before, a :: b :: rest =>
    if a = 0x5C ∧ (b = 0x5D ∨ b = 0x5C) then closedClassName? mark steps (before ++ [a, b]) rest
    else if (a = 0x5B ∧ b = mark) ∨ a = 0x5D then none
    else if a = mark ∧ b = 0x5D then some (before, rest)
    else closedClassName? mark steps (before ++ [a]) (b :: rest)
  | _, _, _ => none

/-- The named class that symbols after an opening bracket are, and what follows; nothing if they are
    none. -/
def readNamedClass? (text : List Symbol) :
    Option (Except OrderedFault ((Symbol → Bool) × List Symbol)) :=
  match text with
  | mark :: rest =>
    if mark ∉ [0x3A, 0x2E, 0x3D] then none
    else (closedClassName? mark rest.length [] rest).map fun (name, rest) =>
      if mark ≠ 0x3A then .error .collating
      else
        let turned := name.head? = some 0x5E
        let name := if turned then name.drop 1 else name
        match colonClass? (String.ofList (name.map Symbol.ascii)) with
        | some p => .ok (fun s => !s.isStray && p s != turned, rest)
        | none => .error .unknownClass
  | [] => none

/-- How a class of an ordered pattern is read. -/
structure ClassStyle where
  charset : Charset
  /-- Whether blanks do not count. -/
  spaced : Bool

/-- What has been read of a class: its members, and the symbol that a range could start with. -/
structure ClassReader where
  members : Symbol → Bool
  last : Option Symbol
  /-- Whether a hyphen after that symbol waits for the end of the range. -/
  ranging : Bool
  quoting : Bool

namespace ClassReader

/-- More members, after which no range starts. -/
def add (r : ClassReader) (p : Symbol → Bool) : ClassReader :=
  { r with members := fun s => r.members s || p s, last := none, ranging := false }

/-- One more symbol, which may end a range. -/
def symbol (r : ClassReader) (s : Symbol) : Except OrderedFault ClassReader :=
  match r.ranging, r.last with
  | true, some lo =>
    if s < lo then .error .rangeOrder else .ok (r.add fun x => lo ≤ x && x ≤ s)
  | _, _ => .ok { r.add (· = s) with last := some s }

/-- More members that can be no part of a range; `rest` follows them. -/
def set (r : ClassReader) (p : Symbol → Bool) (rest : List Symbol) :
    Except OrderedFault ClassReader :=
  let hyphen := rest.head? = some 0x2D && (rest.drop 1).head?.any (· ≠ 0x5D)
  if r.ranging ∨ hyphen then .error .badRange else .ok (r.add p)

/-- What belongs to a class up to its closing bracket, and what follows; read in so many steps at
    most. `first` says that a closing bracket would be a member. -/
def read (style : ClassStyle) :
    Nat → Bool → ClassReader → List Symbol → Except OrderedFault ((Symbol → Bool) × List Symbol)
  | 0, _, _, _ => .error .openClass
  | _, _, _, [] => .error .openClass
  | steps + 1, first, r, s :: rest => do
    if r.quoting then
      if s = 0x5C ∧ rest.head? = some 0x45 then
        read style steps first { r with quoting := false } (rest.drop 1)
      else read style steps false (← r.symbol s) rest
    else if s = 0x5C ∧ rest.head? = some 0x51 then
      read style steps first { r with quoting := true } (rest.drop 1)
    else if s = 0x5C ∧ rest.head? = some 0x45 then read style steps first r (rest.drop 1)
    else if style.spaced ∧ (s = 0x20 ∨ s = 9) then read style steps first r rest
    else if s = 0x5D ∧ ¬ first then
      return (if r.ranging then fun x => r.members x || x = 0x2D else r.members, rest)
    else if s = 0x2D ∧ r.last.isSome ∧ ¬ r.ranging then
      read style steps false { r with ranging := true } rest
    else match if s = 0x5B then readNamedClass? rest else none with
      | some named =>
        let (p, rest) ← named
        read style steps false (← r.set p rest) rest
      | none =>
        if s ≠ 0x5C then read style steps false (← r.symbol s) rest
        else
          let (escape, rest) ← readEscape style.charset true 0 rest
          match escape with
          | .literal s => read style steps false (← r.symbol s) rest
          | .members p => read style steps false (← r.set p rest) rest
          | _ => throw .escapeInClass

end ClassReader

/-- A class after its opening bracket, and what follows. -/
def readClass (style : PatternStyle) (spaced : Bool) (text : List Symbol) :
    Except OrderedFault ((Symbol → Bool) × List Symbol) := do
  let unquoted := dropQuotes text.length text
  let negated := unquoted.head? = some 0x5E
  let body := if negated then unquoted.drop 1 else unquoted
  let (members, rest) ← ClassReader.read ⟨style.charset, spaced⟩ (body.length + 1) true
    ⟨fun _ => false, none, false, false⟩ body
  let members := style.loosen members
  return (fun x => !x.isStray && members x != negated, rest)
where
  /-- Symbols without quotations of nothing at the start. -/
  dropQuotes : Nat → List Symbol → List Symbol
    | steps + 1, 0x5C :: 0x45 :: rest => dropQuotes steps rest
    | steps + 1, 0x5C :: 0x51 :: 0x5C :: 0x45 :: rest => dropQuotes steps rest
    | _, text => text

end LineShell
