import LineShell.Userland.Text.ByteClass
import LineShell.Userland.Text.LetterClass
import LineShell.Text.Octet
import LineShell.Userland.Text.WidthClass
/-!
    How bytes are taken for characters.

    Which characters the bytes of a text stand for is settled by variables. Either each byte is a
    character of its own, of which only those of ASCII have a meaning, or the bytes are read as
    UTF-8. A byte that belongs to no character is a stray, and is written as it was read. -/

namespace LineShell

/-- How bytes are taken for characters. -/
inductive Charset where
  /-- Each byte is a character. -/
  | single
  | utf8
  deriving DecidableEq, Repr

/-- A character of a text by its code point, or a stray byte by its value beyond all of them. -/
abbrev Symbol := Nat

/-- The value of a stray byte of zero. -/
def strayBase : Nat := 0x110000

/-- Whether a symbol is a stray byte. -/
def Symbol.isStray (s : Symbol) : Bool := strayBase ≤ s

/-- The bytes of UTF-8 of a symbol. -/
def Symbol.bytes (s : Symbol) : Bytes :=
  if s.isStray then [UInt8.ofNat (s - strayBase)] else String.utf8EncodeChar (Char.ofNat s)

/-- Whether a code point lies in one of several closed ranges. -/
def inRanges (ranges : List (Nat × Nat)) (n : Nat) : Bool :=
  ranges.any fun r => r.1 ≤ n && n ≤ r.2

namespace Letter

/-- How far the partner of a code point lies from it, if it has one. -/
def distance? (runs : List Run) (n : Nat) : Option Int :=
  (runs.find? fun r => r.first ≤ n ∧ n ≤ r.last ∧ (n - r.first) % r.step = 0).map (·.distance)

/-- A code point after the way to its partner. -/
def moved (runs : List Run) (n : Nat) : Nat :=
  match distance? runs n with
  | some d => (n + d).toNat
  | none => n

end Letter

namespace Charset

/-! ### Reading and writing -/

/-- The symbols of bytes that are read as UTF-8, put behind others. -/
def readUtf8 (before : List Symbol) : Bytes → List Symbol
  | [] => before.reverse
  | b :: bs =>
    if b < 0x80 then readUtf8 (b.toNat :: before) bs
    else match Bytes.firstChar? (b :: bs) with
      | some c => readUtf8 (c.toNat :: before) ((b :: bs).drop c.utf8Size)
      | none => readUtf8 ((strayBase + b.toNat) :: before) bs
termination_by bs => bs.length
decreasing_by
  · simp
  · exact Bytes.drop_size_length_lt c
  · simp

/-- The symbols that bytes stand for. -/
def read (cs : Charset) (bytes : Bytes) : List Symbol :=
  match cs with
  | .single => bytes.map UInt8.toNat
  | .utf8 => readUtf8 [] bytes

/-- The bytes of a symbol. -/
def symbolBytes (cs : Charset) (s : Symbol) : Bytes :=
  match cs with
  | .single => [UInt8.ofNat s]
  | .utf8 => s.bytes

/-! ### Classes of characters -/

/-- Whether a symbol is a character that has a meaning beyond ASCII. -/
def isWide (cs : Charset) (s : Symbol) : Bool := cs = .utf8 && 0x80 ≤ s && !s.isStray

/-- Whether a symbol is of ASCII and the character has a property. -/
def ascii (p : Char → Bool) (s : Symbol) : Bool := s < 0x80 && p (Char.ofNat s)

/-- Whether a symbol is a letter. -/
def isLetter (cs : Charset) (s : Symbol) : Bool :=
  ascii Char.isAlpha s || (cs.isWide s && inRanges Letter.ranges s)

/-- Whether a symbol is a decimal digit. -/
def isDigit (s : Symbol) : Bool := ascii Char.isDigit s

/-- Whether a symbol is part of a word. -/
def isWord (cs : Charset) (s : Symbol) : Bool := cs.isLetter s || isDigit s || s = 0x5F

/-- White space beyond ASCII at which words end. -/
def wideSpaces : List (Nat × Nat) :=
  [(0x1680, 0x1680), (0x2000, 0x2006), (0x2008, 0x200A), (0x2028, 0x2029), (0x205F, 0x205F),
   (0x3000, 0x3000)]

/-- Whether a symbol is white space. -/
def isSpace (cs : Charset) (s : Symbol) : Bool :=
  s = 0x20 || (9 ≤ s && s ≤ 13) || (cs.isWide s && inRanges wideSpaces s)

/-- What controls something or divides lines beyond ASCII. -/
def wideControls : List (Nat × Nat) := [(0x80, 0x9F), (0x2028, 0x2029)]

/-- Whether a symbol controls something and shows nothing. -/
def isControl (cs : Charset) (s : Symbol) : Bool :=
  s < 0x20 || s = 0x7F || (cs.isWide s && inRanges wideControls s)

/-- Whether a symbol can be printed. -/
def isPrintable (cs : Charset) (s : Symbol) : Bool :=
  (0x20 ≤ s && s < 0x7F) || (cs.isWide s && !cs.isControl s)

/-- The small letter for a large one. -/
def small (cs : Charset) (s : Symbol) : Symbol :=
  if s < 0x80 then (Char.ofNat s).toLower.toNat
  else if cs.isWide s then Letter.moved Letter.toSmall s else s

/-- The large letter for a small one. -/
def large (cs : Charset) (s : Symbol) : Symbol :=
  if s < 0x80 then (Char.ofNat s).toUpper.toNat
  else if cs.isWide s then Letter.moved Letter.toLarge s else s

/-- Whether a symbol belongs to a class that has a name; nothing if no class has the name. -/
def inClass? (cs : Charset) (name : String) : Option (Symbol → Bool) :=
  let visible (s : Symbol) : Bool := cs.isPrintable s && !cs.isSpace s
  match name with
  | "alpha" => some cs.isLetter
  | "digit" => some isDigit
  | "alnum" => some fun s => cs.isLetter s || isDigit s
  | "lower" => some fun s => ascii Char.isLower s || (cs.isWide s && cs.large s ≠ s)
      || (cs.isWide s && [0xAA, 0xBA, 0xDF].contains s)
  | "upper" => some fun s => ascii Char.isUpper s || (cs.isWide s && cs.small s ≠ s)
  | "space" => some cs.isSpace
  | "blank" => some fun s => s = 0x20 || s = 9 || (0x80 ≤ s && cs.isSpace s && !cs.isControl s)
  | "punct" => some fun s => visible s && !(cs.isLetter s || isDigit s)
  | "print" => some cs.isPrintable
  | "graph" => some visible
  | "cntrl" => some cs.isControl
  | "xdigit" => some (ascii fun c => c.isDigit || "abcdefABCDEF".toList.contains c)
  | _ => none

/-- How many columns a symbol takes; none if it cannot be shown. -/
def columns? (cs : Charset) (s : Symbol) : Option Nat :=
  if ¬ cs.isPrintable s then none
  else if s < 0x80 then some 1
  else if inRanges Column.emptyRanges s then some 0
  else if inRanges Column.doubleRanges s then some 2 else some 1

/-! ### The choice -/

/-- The kinds of customs that can be chosen. -/
def customs : List Text :=
  ["CTYPE", "NUMERIC", "TIME", "COLLATE", "MONETARY", "MESSAGES", "PAPER", "NAME", "ADDRESS",
    "TELEPHONE", "MEASUREMENT", "IDENTIFICATION"].map String.toList

/-- The charset that a name means, if the system has customs of that name. -/
def ofName? (name : Text) : Option Charset :=
  if name = "C".toList ∨ name = "POSIX".toList then some .single
  else match name with
    | 'C' :: '.' :: codes =>
      if (codes.filter Char.isAlphanum).map Char.toLower = "utf8".toList then some .utf8 else none
    | _ => none

/-- The charset that variables choose. A kind of customs that the system does not have leaves
    everything as if nothing had been chosen. -/
def ofVars (vars : List (Text × Text)) : Charset :=
  let given? (name : Text) : Option Text := (vars.lookup name).filter (· ≠ [])
  let chosen (kind : Text) : Text :=
    (((given? "LC_ALL").orElse fun _ => given? ("LC_" ++ kind)).orElse fun _ => given? "LANG").getD
      "C"
  if customs.all fun kind => (ofName? (chosen kind)).isSome then
    (ofName? (chosen "CTYPE")).getD .single
  else .single

end Charset

end LineShell
