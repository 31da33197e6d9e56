import LineShell.Userland.Programs.Order.Value
/-!
    The parts of lines that decide their order.

    A key starts at a field, or at a byte of one, and ends in the same way or with the line. Fields
    are separated by one given byte, or each has blanks at its start. -/

namespace LineShell

/-- How a part of a line is ordered. -/
structure OrderStyle where
  /-- The letters for what it is ordered by, and for what is left out of it. -/
  letters : List Char
  /-- Whether blanks do not count at its start, and at its end. -/
  skipsStart : Bool
  skipsEnd : Bool
  reverse : Bool

namespace OrderStyle

/-- Bytes as they are. -/
def plain : OrderStyle := ⟨[], false, false, false⟩

/-- Whether a letter is given. -/
def has (s : OrderStyle) (letter : Char) : Bool := s.letters.contains letter

/-- Whether nothing is said but perhaps that the order is turned round. -/
def isPlain (s : OrderStyle) : Bool := s.letters = [] && !s.skipsStart && !s.skipsEnd

/-- The letters for what a part of a line is ordered by. -/
def kindLetters : List (Char × OrderKind) :=
  [('n', .numeric), ('g', .general), ('h', .units), ('M', .month), ('R', .random),
    ('V', .version)]

/-- What a part of a line is ordered by. -/
def kind (s : OrderStyle) : OrderKind :=
  ((kindLetters.find? fun e => s.has e.1).map (·.2)).getD .bytes

/-- The style after one more letter; nothing if the letter means none. `start` and `ending` say what
    a letter for blanks is about. -/
def add? (s : OrderStyle) (start ending : Bool) (letter : Char) : Option OrderStyle :=
  match letter with
  | 'b' => some { s with skipsStart := s.skipsStart || start, skipsEnd := s.skipsEnd || ending }
  | 'r' => some { s with reverse := true }
  | 'i' => some { s with letters := if s.has 'd' then s.letters else 'i' :: s.letters }
  | 'd' => some { s with letters := 'd' :: s.letters.filter (· ≠ 'i') }
  | 'f' | 'g' | 'h' | 'M' | 'n' | 'R' | 'V' => some { s with letters := letter :: s.letters }
  | _ => none

/-- The style after as many letters as mean one, and what follows. -/
def addAll (start ending : Bool) : OrderStyle → List Char → OrderStyle × List Char
  | s, [] => (s, [])
  | s, letter :: rest => match s.add? start ending letter with
    | some s => addAll start ending s rest
    | none => (s, letter :: rest)

/-- The letters that cannot go together, if that is so. -/
def clash? (s : OrderStyle) : Option Text :=
  let alone := ['n', 'g', 'h', 'M'].countP s.has
    + (if s.has 'V' || s.has 'R' || s.has 'd' || s.has 'i' then 1 else 0)
  if 1 < alone then some ("dfghiMnRV".toList.filter s.has) else none

/-- The bytes that count, as they count. -/
def counted (s : OrderStyle) (bytes : Bytes) : Bytes :=
  let isWordByte (b : UInt8) : Bool := isLetterByte b || isDigitByte b || isFieldBlank b
  let kept := if s.has 'd' then bytes.filter isWordByte
    else if s.has 'i' then bytes.filter isPrintable else bytes
  if s.has 'f' then kept.map fun b => if 0x61 ≤ b && b ≤ 0x7A then b - 0x20 else b else kept

/-- What a part of a line is ordered by. -/
def value (s : OrderStyle) (scatter : Option Scatter) (bytes : Bytes) : OrderValue :=
  s.kind.value scatter (s.counted bytes)

end OrderStyle

/-- A place in a line: after so many fields, and after so many bytes of the next one. -/
structure FieldPlace where
  field : Nat
  byte : Nat

/-- A part of a line that decides the order. -/
structure OrderKey where
  start : FieldPlace
  /-- The end; none if the end of the line is meant. A place without bytes is the end of its
      field. -/
  stop : Option FieldPlace
  style : OrderStyle
  /-- Whether it was given in the old way, as an operand with a sign. -/
  old : Bool

/-- The whole line. -/
def OrderKey.whole (style : OrderStyle) : OrderKey := ⟨⟨0, 0⟩, none, style, false⟩

/-! ### Finding the part -/

/-- The length of a field with the blanks before it. -/
def blankField (bytes : Bytes) : Nat :=
  let blanks := bytes.takeWhile isFieldBlank
  blanks.length + ((bytes.drop blanks.length).takeWhile (¬ isFieldBlank ·)).length

/-- The offset after so many fields, each with the separator after it. -/
def fieldOffset (separator : Option UInt8) : Nat → Bytes → Nat
  | 0, _ => 0
  | fields + 1, bytes =>
    let length := match separator with
      | none => blankField bytes
      | some b => min bytes.length ((bytes.takeWhile (· ≠ b)).length + 1)
    length + fieldOffset separator fields (bytes.drop length)

/-- The offset after so many fields of a line, which has no more of them than bytes. -/
def fieldsOffset (separator : Option UInt8) (fields : Nat) (line : Bytes) : Nat :=
  fieldOffset separator (min fields line.length) line

/-- The number of blanks at an offset. -/
def blanksAt (bytes : Bytes) (offset : Nat) : Nat :=
  ((bytes.drop offset).takeWhile isFieldBlank).length

/-- The offset where the part starts. -/
def OrderKey.startOffset (k : OrderKey) (separator : Option UInt8) (line : Bytes) : Nat :=
  let offset := fieldsOffset separator k.start.field line
  let offset := if k.style.skipsStart then offset + blanksAt line offset else offset
  min line.length (offset + k.start.byte)

/-- The offset where the part ends. -/
def OrderKey.stopOffset (k : OrderKey) (separator : Option UInt8) (line : Bytes) : Nat :=
  match k.stop with
  | none => line.length
  | some ⟨field, 0⟩ =>
    let offset := fieldsOffset separator field line
    let rest := line.drop offset
    offset + match separator with
      | none => blankField rest
      | some b => (rest.takeWhile (· ≠ b)).length
  | some ⟨field, byte⟩ =>
    let offset := fieldsOffset separator field line
    let offset := if k.style.skipsEnd then offset + blanksAt line offset else offset
    min line.length (offset + byte)

/-- What the part of a line is ordered by. -/
def OrderKey.value (k : OrderKey) (scatter : Option Scatter) (separator : Option UInt8)
    (line : Bytes) : OrderValue :=
  let start := k.startOffset separator line
  k.style.value scatter ((line.take (k.stopOffset separator line)).drop start)

/-! ### Reading keys -/

/-- The number that a text starts with, and what follows; the error says what it should be. -/
def readCount (cs : Charset) (what text : Text) : Except Text (Nat × Text) :=
  let isBlank (c : Char) : Bool := c = ' ' || (9 ≤ c.toNat && c.toNat ≤ 13)
  let body := text.dropWhile isBlank
  let body := if body.head? = some '+' then body.drop 1 else body
  let digits := body.takeWhile Char.isDigit
  match digitsValue? digits with
  | some n => .ok (n, body.drop digits.length)
  | none => .error (what ++ ": invalid count at start of " ++ cs.quotedWord text)

/-- What is wrong with a key. -/
def badKey (cs : Charset) (what text : Text) : Text :=
  what ++ ": invalid field specification " ++ cs.quotedWord text

/-- A field, and what follows. -/
def readField (cs : Charset) (what text t : Text) : Except Text (Nat × Text) :=
  match readCount cs what t with
  | .error message => .error message
  | .ok (0, _) => .error (badKey cs "field number is zero" text)
  | .ok (n + 1, rest) => .ok (n, rest)

/-- The bytes after a point, if there is one; otherwise a number that is meant without it. -/
def readByte (cs : Charset) (absent : Nat) (t : Text) : Except Text (Nat × Text) :=
  match t with
  | '.' :: rest => readCount cs "invalid number after '.'" rest
  | rest => .ok (absent, rest)

/-- A key as it is written after the letter of its option. -/
def OrderKey.read (cs : Charset) (old : Bool) (text : Text) : Except Text OrderKey := do
  let (field, rest) ← readField cs "invalid number at field start" text text
  let (byte, rest) ← readByte cs 1 rest
  if byte = 0 then .error (badKey cs "character offset is zero" text)
  let (style, rest) := OrderStyle.plain.addAll true false rest
  let (stop, style, rest) ← match rest with
    | ',' :: rest => do
      let (field, rest) ← readField cs "invalid number after ','" text rest
      let (byte, rest) ← readByte cs 0 rest
      let (style, rest) := style.addAll false true rest
      pure (some (⟨field, byte⟩ : FieldPlace), style, rest)
    | rest => pure (none, style, rest)
  if rest = [] then .ok ⟨⟨field, byte - 1⟩, stop, style, old⟩
  else .error (badKey cs "stray character in field spec" text)

/-- A place after a sign, counted from zero, and the letters after it; nothing if it is none. -/
def signedPlace? (sign : Char) (text : Text) : Option (FieldPlace × Text) :=
  let read : Except Text (FieldPlace × Text) := do
    let (field, rest) ← readCount .single [] (text.drop 1)
    let (byte, rest) ← readByte .single 0 rest
    pure (⟨field, byte⟩, rest)
  match read with
  | .ok (place, letters) =>
    let known := letters.all fun c => (OrderStyle.plain.add? true true c).isSome
    if text.head? = some sign ∧ known then some (place, letters) else none
  | .error _ => none

/-- The letter of the option for a key that was given in the old way. No argument can hold it. -/
def oldKeyLetter : Char := '\x00'

end LineShell
