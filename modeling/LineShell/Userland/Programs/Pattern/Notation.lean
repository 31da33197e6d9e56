import LineShell.Userland.Programs.Pattern.Match
import LineShell.Text.Numeral
/-!
    Patterns as they are written.

    There are two notations: in the basic one most operators have a backslash before them, in the
    extended one they have none. What cannot be an operator where it stands is a plain byte in the
    basic notation, and in the extended one acts on nothing. -/

namespace LineShell

/-- What is wrong with a pattern. -/
inductive PatternFault where
  | backslash | bracket | range | className | classSyntax | collation | noExpression
  | opening | closing | brace | braceContent | tooBig | again
  deriving DecidableEq, Repr

/-- What is wrong with a pattern, in words. -/
def PatternFault.message : PatternFault → String
  | .backslash => "Trailing backslash"
  | .bracket => "Unmatched [, [^, [:, [., or [="
  | .range => "Invalid range end"
  | .className => "Invalid character class name"
  | .classSyntax => "character class syntax is [[:space:]], not [:space:]"
  | .collation => "Invalid collation character"
  | .noExpression => "Invalid regular expression"
  | .opening => "Unmatched ( or \\("
  | .closing => "Unmatched ) or \\)"
  | .brace => "Unmatched \\\x7b"
  | .braceContent => "Invalid content of \\\x7b\\\x7d"
  | .tooBig => "Regular expression too big"
  | .again => "Invalid back reference"

/-- How a pattern is written, and what counts as the same in it. -/
structure PatternStyle where
  charset : Charset
  extended : Bool
  /-- Whether large and small letters are the same. -/
  caseless : Bool

/-- What is as good as the members of a class. -/
def PatternStyle.loosen (style : PatternStyle) (p : Symbol → Bool) : Symbol → Bool :=
  if style.caseless then fun x => p x || p (style.charset.large x) || p (style.charset.folded x)
  else p

/-- What is as good as a symbol. -/
def PatternStyle.like (style : PatternStyle) (s : Symbol) : Symbol → Bool := style.loosen (· = s)

/-- The symbols that a text stands for if nothing in it is an operator. A backslash at its end
    stands for itself. -/
def PatternStyle.literal? (style : PatternStyle) : List Symbol → Option (List Symbol)
  | [] => some []
  | [0x5C] => some [0x5C]
  | 0x5C :: s :: rest =>
    let operators := "\nBSW'<bsw\x60>123456789" ++ if style.extended then "" else "()+?\x7b|\x7d"
    if operators.toList.any (·.toNat = s) then none else (style.literal? rest).map (s :: ·)
  | s :: rest =>
    let operators := "$*.[^" ++ if style.extended then "(+?\x7b|" else ""
    if operators.toList.any (·.toNat = s) then none else (style.literal? rest).map (s :: ·)

/-! ### Brackets -/

/-- The symbols up to a mark and a closing bracket, and what follows. -/
def bracketName (mark : Symbol) : List Symbol → Option (List Symbol × List Symbol)
  | a :: b :: rest =>
    if a = mark ∧ b = 0x5D then some ([], rest)
    else (bracketName mark (b :: rest)).map fun r => (a :: r.1, r.2)
  | _ => none

/-- An element of a bracket expression. -/
inductive BracketElement where
  | one (s : Symbol)
  /-- A symbol that cannot end a range. -/
  | like (s : Symbol)
  | members (p : Symbol → Bool)

/-- The name of a class, if it is one of ASCII. -/
def asciiName (name : List Symbol) : String :=
  String.ofList (name.map fun s => if s < 0x80 then Char.ofNat s else '?')

/-- One element of a bracket expression, and what follows. -/
def bracketElement (cs : Charset) :
    List Symbol → Except PatternFault (BracketElement × List Symbol)
  | 0x5B :: mark :: rest =>
    if mark ∉ [0x3A, 0x2E, 0x3D] then .ok (.one 0x5B, mark :: rest)
    else match bracketName mark rest with
      | none => .error .bracket
      | some (name, rest) =>
        if mark = 0x3A then match cs.inClass? (asciiName name) with
          | some p => .ok (.members p, rest)
          | none => .error .className
        else match name with
          | [s] =>
            if cs.isWide s then .error .collation
            else .ok (if mark = 0x2E then .one s else .like s, rest)
          | _ => .error .collation
  | s :: rest => .ok (.one s, rest)
  | [] => .error .bracket

/-- What belongs to an element. -/
def BracketElement.has : BracketElement → Symbol → Bool
  | .one s, x | .like s, x => x = s
  | .members p, x => p x

/-- What belongs to a range. Only characters of one byte can be its ends. -/
def bracketRange (cs : Charset) (lo hi : BracketElement) : Except PatternFault (Symbol → Bool) :=
  match lo, hi with
  | .one a, .one b =>
    if cs.isWide a || cs.isWide b then .error .collation
    else if b < a then .error .range
    else .ok fun x => a ≤ x && x ≤ b
  | _, _ => .error .range

/-- What belongs to a bracket expression up to its closing bracket, and what follows; read in so
    many steps at most. -/
def bracketMembers (cs : Charset) :
    Nat → Bool → List Symbol → Except PatternFault ((Symbol → Bool) × List Symbol)
  | 0, _, _ => .error .bracket
  | _, _, [] => .error .bracket
  | steps + 1, first, s :: rest => do
    if s = 0x5D ∧ ¬ first then return (fun _ => false, rest)
    let (lo, rest) ← bracketElement cs (s :: rest)
    match rest with
    | 0x2D :: next :: after =>
      if next = 0x5D then
        let (more, rest) ← bracketMembers cs steps false rest
        return (fun x => lo.has x || more x, rest)
      let (hi, rest) ← bracketElement cs (next :: after)
      let range ← bracketRange cs lo hi
      let (more, rest) ← bracketMembers cs steps false rest
      return (fun x => range x || more x, rest)
    | rest =>
      let (more, rest) ← bracketMembers cs steps false rest
      return (fun x => lo.has x || more x, rest)

/-- Whether what is between brackets is a class that lacks its inner brackets. -/
def lacksBrackets (body : List Symbol) : Bool :=
  body.head? = some 0x3A && body.getLast? = some 0x3A && body.any (· ≠ 0x3A)
    && !body.contains 0x5B

/-- A bracket expression after its opening bracket, and what follows. -/
def readBracket (style : PatternStyle) (text : List Symbol) :
    Except PatternFault ((Symbol → Bool) × List Symbol) := do
  let negated := text.head? = some 0x5E
  let body := if negated then text.drop 1 else text
  if body = [] then throw .noExpression
  let (members, rest) ← bracketMembers style.charset body.length true body
  if lacksBrackets (body.take (body.length - rest.length - 1)) then throw .classSyntax
  let members := style.loosen members
  return (fun x => !(negated && x.isStray) && members x != negated, rest)

/-! ### Reading -/

/-- An expression that is being read: the alternatives before, what stands before the last piece,
    and the last piece, which an operator may still act on. -/
structure PatternFrame where
  /-- The number of the group. -/
  number : Nat
  alternatives : Pattern
  done : Pattern
  last : Option Pattern

namespace PatternFrame

/-- Nothing read yet. -/
def start (number : Nat) : PatternFrame := ⟨number, .never, .nothing, none⟩

/-- All that the last alternative consists of. -/
def sequence (f : PatternFrame) : Pattern := f.done.before (f.last.getD .nothing)

/-- All that has been read. -/
def close (f : PatternFrame) : Pattern := f.alternatives.or f.sequence

/-- One more piece. -/
def push (f : PatternFrame) (p : Pattern) : PatternFrame :=
  { f with done := f.sequence, last := some p }

/-- The last piece repeated. -/
def repeated (f : PatternFrame) (least : Nat) (most : Option Nat) : PatternFrame :=
  { f with last := some (.repeated (f.last.getD .nothing) least most) }

/-- The next alternative. -/
def next (f : PatternFrame) : PatternFrame := ⟨f.number, f.close, .nothing, none⟩

end PatternFrame

/-- Where a reader of a pattern stands. -/
structure PatternReader where
  frame : PatternFrame
  /-- The frames of the groups that are still open. -/
  outer : List PatternFrame
  groups : Nat
  /-- The groups that are closed. -/
  closed : List Nat
  /-- Whether no piece stands before in the alternative, or only the start of the line. -/
  fresh : Bool
  /-- What acts on nothing. -/
  warnings : List String

/-- What a symbol means. -/
inductive PatternSign where
  | plain (s : Symbol)
  | piece (p : Pattern)
  | opens | closes | bar | brace
  | star (least : Nat) (most : Option Nat) (shown : String)
  | again (number : Nat)

/-- The character that a symbol of ASCII is; U+0000 for any other. -/
def Symbol.ascii (s : Symbol) : Char := if s < 0x80 then Char.ofNat s else '\x00'

/-- What a symbol after a backslash means in both notations. -/
def escapedSign? (cs : Charset) (s : Symbol) : Option PatternSign :=
  let among (p : Symbol → Bool) : Option PatternSign := some (.piece (.one p))
  match s.ascii with
  | 'w' => among cs.isWord
  | 'W' => among fun x => !x.isStray && !cs.isWord x
  | 's' => among cs.isSpace
  | 'S' => among fun x => !x.isStray && !cs.isSpace x
  | 'b' => some (.piece (.place .wordEdge))
  | 'B' => some (.piece (.place .noWordEdge))
  | '<' => some (.piece (.place .wordStart))
  | '>' => some (.piece (.place .wordEnd))
  | '\x60' => some (.piece (.place .lineStart))
  | '\x27' => some (.piece (.place .lineEnd))
  | c => if '1' ≤ c ∧ c ≤ '9' then some (.again (c.toNat - '0'.toNat)) else none

/-- The operators that have a backslash in one notation and none in the other. -/
def operatorSign? (s : Symbol) : Option PatternSign :=
  match s.ascii with
  | '(' => some .opens
  | ')' => some .closes
  | '|' => some .bar
  | '\x7b' => some .brace
  | '+' => some (.star 1 none "+")
  | '?' => some (.star 0 (some 1) "?")
  | _ => none

/-- Whether a dollar sign before this is the end of the line in the basic notation. -/
def endsBasic (rest : List Symbol) : Bool :=
  rest = [] || rest.take 2 = [0x5C, 0x29] || rest.take 2 = [0x5C, 0x7C]

/-- What the next symbol or two mean where a reader stands, and what follows. -/
def readSign (style : PatternStyle) (r : PatternReader) (s : Symbol) (rest : List Symbol) :
    Except PatternFault (PatternSign × List Symbol) :=
  let extended := style.extended
  let demoted (sign : PatternSign) (s : Symbol) : PatternSign := match sign with
    | .star .. | .brace => if r.fresh ∧ ¬ extended then .plain s else sign
    | sign => sign
  if s = 0x5C then match rest with
    | [] => .error .backslash
    | c :: rest =>
      let operator := if extended then none else (operatorSign? c).map (demoted · c)
      .ok ((operator.orElse fun _ => escapedSign? style.charset c).getD (.plain c), rest)
  else if s = 0x5B then
    (readBracket style rest).map fun (p, rest) => (.piece (.one p), rest)
  else if s = 0x2E then .ok (.piece (.one fun x => !x.isStray), rest)
  else if s = 0x2A then .ok (demoted (.star 0 none "*") s, rest)
  else if s = 0x5E then
    let isStart := extended || (r.fresh && r.frame.last.isNone)
    .ok (if isStart then .piece (.place .lineStart) else .plain s, rest)
  else if s = 0x24 then
    .ok (if extended || endsBasic rest then .piece (.place .lineEnd) else .plain s, rest)
  else .ok (((if extended then operatorSign? s else none)).getD (.plain s), rest)

/-! ### Counts of repetitions -/

/-- The greatest count of repetitions. -/
def repeatLimit : Nat := 32767

/-- What follows a count. -/
inductive CountEnd where
  | comma | brace | nothing
  deriving DecidableEq

/-- A count, if it is made of nothing but digits; what follows it, and the rest. -/
def readCountUpTo (extended : Bool) :
    List Symbol → List Symbol → List Symbol × CountEnd × List Symbol
  | before, [] => (before, .nothing, [])
  | before, s :: rest =>
    if s = 0x2C then (before, .comma, rest)
    else if extended ∧ s = 0x7D then (before, .brace, rest)
    else if s = 0x5C then match rest with
      | [] => (before ++ [s], .nothing, [])
      | c :: rest =>
        if c = 0x2C then (before, .comma, rest)
        else if ¬ extended ∧ c = 0x7D then (before, .brace, rest)
        else readCountUpTo extended (before ++ [s]) rest
    else readCountUpTo extended (before ++ [s]) rest

/-- Counts of repetitions after an opening brace, and what follows; nothing if these are none and
    the brace is a plain one. One count, or two with a comma between them of which each can be
    missing, must be all that stands between the braces. What is not even a count makes the brace a
    plain one in the extended notation. -/
def readCounts (extended : Bool) (text : List Symbol) :
    Except PatternFault (Option (Nat × Option Nat × List Symbol)) :=
  let value (symbols : List Symbol) : Option Nat := digitsValue? (symbols.map Symbol.ascii)
  let isCount (symbols : List Symbol) : Bool := symbols = [] || (value symbols).isSome
  let (first, stop, rest) := readCountUpTo extended [] text
  let (second, stop', rest') := if stop = .comma then readCountUpTo extended [] rest
    else (first, stop, rest)
  if first = [] ∧ stop = .brace then .error .braceContent
  else if stop = .nothing ∨ ¬ isCount first then
    if extended then .ok none
    else .error (if stop = .nothing then .brace else .braceContent)
  else if stop' = .nothing ∨ ¬ isCount second then
    if extended then .ok none
    else .error (if stop' = .nothing then .brace else .braceContent)
  else
    let least := (value first).getD 0
    let most := value second
    if most.any (· < least) ∨ stop' ≠ .brace then .error .braceContent
    else if repeatLimit < max least (most.getD 0) then .error .tooBig
    else .ok (some (least, most, rest'))

namespace PatternReader

/-- Before the first byte. -/
def start : PatternReader := ⟨.start 0, [], 0, [], true, []⟩

/-- One more piece. -/
def push (r : PatternReader) (p : Pattern) : PatternReader :=
  { r with
    frame := r.frame.push p
    fresh := r.fresh && (p matches .place .lineStart) && r.frame.last.isNone }

/-- The last piece repeated. -/
def repeated (r : PatternReader) (least : Nat) (most : Option Nat) (shown : String) :
    PatternReader :=
  { r with
    frame := r.frame.repeated least most
    fresh := false
    warnings := if r.fresh then r.warnings ++ [shown ++ " at start of expression"]
      else r.warnings }

/-- The end of a group, or a plain byte where none is open. -/
def closeGroup (r : PatternReader) (extended : Bool) : Except PatternFault PatternReader :=
  match r.outer with
  | [] => if extended then .ok (r.push (.one (· = 0x29))) else .error .closing
  | outer :: rest => .ok { r with
      frame := outer.push (.group r.frame.number r.frame.close)
      outer := rest
      closed := r.frame.number :: r.closed
      fresh := false }

/-- Reads a pattern in so many steps at most. -/
def read (style : PatternStyle) :
    Nat → PatternReader → List Symbol → Except PatternFault PatternReader
  | 0, r, _ => .ok r
  | _, r, [] => .ok r
  | steps + 1, r, s :: rest => do
    let (sign, rest) ← readSign style r s rest
    match sign with
    | .plain s => read style steps (r.push (.one (style.like s))) rest
    | .piece p => read style steps (r.push p) rest
    | .star least most shown => read style steps (r.repeated least most shown) rest
    | .bar => read style steps { r with frame := r.frame.next, fresh := true } rest
    | .opens =>
      let number := r.groups + 1
      read style steps { r with
        frame := .start number, outer := r.frame :: r.outer, groups := number, fresh := true } rest
    | .closes => read style steps (← r.closeGroup style.extended) rest
    | .again n =>
      if n ∉ r.closed then throw .again
      read style steps (r.push (.again n)) rest
    | .brace => match ← readCounts style.extended rest with
      | none => read style steps (r.push (.one (· = 0x7B))) rest
      | some (least, most, rest) =>
        read style steps (r.repeated least most "\x7b...\x7d") rest

end PatternReader

/-- The pattern that symbols write, and what acts on nothing in it. -/
def Pattern.read (style : PatternStyle) (text : List Symbol) :
    Except PatternFault (Pattern × List String) :=
  match PatternReader.start.read style text.length text with
  | .error fault => .error fault
  | .ok r => if r.outer ≠ [] then .error .opening else .ok (r.frame.close, r.warnings)

end LineShell
