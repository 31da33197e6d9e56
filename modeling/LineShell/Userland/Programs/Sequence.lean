import LineShell.Userland.Programs.Call
import LineShell.Userland.Text.Conversion
import LineShell.Text.Numeral
/-!
    The utility `seq`: numbers from one to another, at equal steps.

    Numbers are kept in 64 bits and a power of two; whole numbers without a sign are kept exactly.
    They are written with as many places as the first number and the step have, or as a format
    says. A number just past the last one counts if it is written like the last. -/

namespace LineShell

/-- A number of an argument, and how it was written. -/
structure SequenceNumber where
  value : Floating
  /-- How many places it has; nothing if that cannot be told. -/
  places : Option Nat
  /-- How wide it is written. -/
  width : Int

/-- The value of a number, as far as that is finite. -/
def SequenceNumber.rational (n : SequenceNumber) : Rat :=
  match n.value with
  | .finite negative value => if negative then -value else value
  | _ => 0

/-- Whether a number is finite. -/
def SequenceNumber.isFinite (n : SequenceNumber) : Bool := n.value matches .finite _ _

/-- The exponent after a letter `e`. -/
def exponentOf (text : List Char) : Int :=
  let (negative, body) := Floating.readSign text
  let n := Floating.digits 10 (body.takeWhile Char.isDigit)
  if negative then -n else n

/-- How many places a number has as it is written, and how wide it is without an exponent. -/
def writtenShape (text : List Char) : Nat × Int :=
  let isExponent (c : Char) : Bool := c = 'e' || c = 'E'
  let mantissa := text.takeWhile (¬ isExponent ·)
  let whole := mantissa.takeWhile (· ≠ '.')
  let pointed := whole.length < mantissa.length
  let fraction := mantissa.drop (whole.length + 1)
  let pointWidth : Int := if ¬ pointed then 0
    else if fraction = [] then -1
    else if whole.getLast?.any Char.isDigit then 0 else 1
  let width : Int := mantissa.length + pointWidth
  match text.drop mantissa.length with
  | [] => (fraction.length, width)
  | _ :: rest =>
    let exponent := exponentOf rest
    let places := if exponent < 0 then fraction.length + exponent.natAbs
      else fraction.length - exponent.natAbs
    if exponent < 0 then
      let unmarked := ¬ pointed ∨ fraction = []
      (places, width + (if unmarked then 1 else 0) + exponent.natAbs)
    else
      let point := if pointed ∧ places = 0 ∧ fraction ≠ [] then 1 else 0
      (places, width - point + (exponent.natAbs - fraction.length : Nat))

/-- The number that a text writes. -/
def readSequenceNumber? (text : Text) : Option SequenceNumber :=
  match Floating.read? .extended text with
  | some (value, []) =>
    let isBlank (c : Char) : Bool := c = ' ' || (9 ≤ c.toNat && c.toNat ≤ 13)
    let body := text.dropWhile fun c => isBlank c || c = '+'
    let hexadecimal := body.any fun c => c = 'x' || c = 'X'
    let named := body.any fun c => c = 'n' || c = 'N'
    if (value matches .infinite _) && !named then none
    else if hexadecimal ∨ ¬ (value matches .finite _ _) then
      some ⟨value, if body.any fun c => c = '.' || c = 'p' then none else some 0, 0⟩
    else
      let (places, width) := writtenShape body
      some ⟨value, some places, width⟩
  | _ => none

/-! ### Formats -/

/-- How numbers are written: a conversion between two texts. -/
structure SequenceFormat where
  before : List Char
  conversion : Conversion
  after : List Char

/-- How many bits beyond its first the digit before the point of a number has in hexadecimal. -/
def extendedLead : Nat := 3

/-- A number as it is written. -/
def SequenceFormat.write (f : SequenceFormat) (x : Floating) : List Char :=
  f.before ++ f.conversion.real extendedLead x ++ f.after

/-- Text of a format up to a sign that starts a conversion, with doubled signs made single; and
    what follows. -/
def formatText : List Char → List Char × List Char
  | '%' :: '%' :: rest => let r := formatText rest; ('%' :: r.1, r.2)
  | '%' :: rest => ([], '%' :: rest)
  | c :: rest => let r := formatText rest; (c :: r.1, r.2)
  | [] => ([], [])

/-- The format that a text writes; the error says what is wrong with it. -/
def readSequenceFormat (cs : Charset) (text : Text) : Except Text SequenceFormat :=
  let fault (what : Text) : Except Text SequenceFormat :=
    .error ("format " ++ cs.quotedWord text ++ " " ++ what)
  let (before, rest) := formatText text
  if rest = [] then fault "has no % directive"
  else
    let body := rest.drop 1
    let flags := body.takeWhile (· ∈ "-+#0 \x27".toList)
    let body := body.drop flags.length
    let width := body.takeWhile Char.isDigit
    let body := body.drop width.length
    let pointed := body.head? = some '.'
    let body := if pointed then body.drop 1 else body
    let places := if pointed then body.takeWhile Char.isDigit else []
    let body := body.drop places.length
    let body := if body.head? = some 'L' then body.drop 1 else body
    match body with
    | [] => fault "ends in %"
    | letter :: rest =>
      let (after, rest) := formatText rest
      if letter ∉ "efgaEFGA".toList then
        fault ("has unknown %" ++ [letter] ++ " directive")
      else if rest ≠ [] then fault "has too many % directives"
      else .ok ⟨before, ⟨flags, Floating.digits 10 width,
        if pointed then some (Floating.digits 10 places) else none, letter⟩, after⟩

/-- The format when none is given: with places enough for the first number and the step, and wide
    enough for all numbers if that is wanted. -/
def usualFormat (wide : Bool) (first step last : SequenceNumber) : SequenceFormat :=
  match first.places, step.places, last.places with
  | some p, some q, some r =>
    let places := max p q
    let point (places : Nat) : Int := if 0 < places then 1 else 0
    let widthOf (n : SequenceNumber) (own : Nat) : Int :=
      n.width + ((places : Int) - own) + point places - point own
    let width := if wide then max (widthOf first p) (widthOf last r) else 0
    ⟨[], ⟨if wide then ['0'] else [], width.toNat, some places, 'f'⟩, []⟩
  | _, _, _ => ⟨[], ⟨[], 0, none, 'g'⟩, []⟩

/-! ### Counting -/

/-- A value rounded to the bits that are kept. -/
def keptValue (x : Rat) : Rat :=
  let size := if x < 0 then -x else x
  let kept := (Floating.round? .extended size).getD size
  if x < 0 then -kept else kept

/-- A value as a number that can be written. -/
def floatingOf (x : Rat) : Floating := .finite (x < 0) (if x < 0 then -x else x)

/-- Whether a number stands below another one. -/
def Floating.isBelow : Floating → Floating → Bool
  | .nan _, _ | _, .nan _ => false
  | .infinite negative, .infinite negative' => negative && !negative'
  | .infinite negative, .finite _ _ => negative
  | .finite _ _, .infinite negative => !negative
  | .finite negative x, .finite negative' y =>
    (if negative then -x else x) < (if negative' then -y else y)

/-- Whether a number is past the last one of a sequence that runs down or up. -/
def Floating.isPast (x last : Floating) (down : Bool) : Bool :=
  if down then x.isBelow last else last.isBelow x

/-- The numbers of a sequence after others that are written, at most so many; `i` steps lead to the
    next. The others are given the latest first. -/
def countOn (f : SequenceFormat) (first step : Rat) (last : Floating) :
    Nat → Nat → List Text → List Text
  | 0, _, written => written.reverse
  | most + 1, i, written =>
    let x := floatingOf (keptValue (first + keptValue (step * i)))
    let text := f.write x
    if x.isPast last (step < 0) then
      let same : Bool := match Floating.read? .extended (f.conversion.real extendedLead x) with
        | some (shown, []) => !shown.isBelow last && !last.isBelow shown
        | _ => false
      (if same ∧ some text ≠ written.head? then text :: written else written).reverse
    else countOn f first step last most (i + 1) (text :: written)

/-- The greatest step by which whole numbers are counted as they are written. -/
def fastStepLimit : Nat := 200

/-- How many whole numbers a sequence has that goes up, of so many at most. -/
def wholeCount (most : Nat) (first step : Int) (last : Option Int) : Nat :=
  match last with
  | none => most
  | some last => if last < first then 0 else min most (((last - first) / step).toNat + 1)

/-- The whole numbers of a sequence, at most so many. -/
def wholeTexts (most : Nat) (first step : Int) (last : Option Int) : List Text :=
  let count := if step < 0 then wholeCount most (-first) (-step) (last.map Neg.neg)
    else wholeCount most first step last
  (List.range count).map fun (i : Nat) => Text.ofInt (first + i * step)

/-- The number as a whole number of which all sums in a sequence are exact. -/
def SequenceNumber.small? (n : SequenceNumber) : Option Int :=
  let x := n.rational
  if n.isFinite ∧ x.den = 1 ∧ x.num.natAbs < numbersOf 62 then some x.num else none

/-- Whether a format writes whole numbers as they are but for zeros before them. -/
def SequenceFormat.isWhole (f : SequenceFormat) : Bool :=
  f.before = [] && f.after = [] && f.conversion.letter = 'f' && f.conversion.precision = some 0
    && (f.conversion.flags = [] || f.conversion.flags = ['0'])

/-- The numbers of a sequence, as they are written, at most so many. One that cannot be reached by
    whole steps is left out; a first one that no step leads away from is written without end. -/
def sequenceTexts (most : Nat) (f : SequenceFormat) (first step last : SequenceNumber) :
    List Text :=
  let down := step.value.isNegative
  let text := f.write first.value
  let whole := f.isWhole && !(first.value matches .finite true 0)
  match (if whole then first.small? else none), step.small?, last.small? with
  | some a, some d, some b => (wholeTexts most a d (some b)).map fun t =>
      let size := f.conversion.width - t.length
      match t with
      | '-' :: ds => '-' :: List.replicate size '0' ++ ds
      | t => List.replicate size '0' ++ t
  | _, _, _ =>
    if first.value.isPast last.value down then []
    else if ¬ first.isFinite then List.replicate most text
    else if step.isFinite then
      countOn f first.rational step.rational last.value (most - 1) 1 [text]
    else if step.value.isPast last.value down then [text]
    else text :: List.replicate (most - 1) (f.write step.value)

/-! ### The utility -/

/-- The options of `seq`. A negative number is none. -/
def sequenceOptions : OptionTable :=
  { letters := [('f', .always), ('s', .always), ('w', .never)]
    words := [⟨"equal-width", "w", .never⟩, ⟨"format", "f", .always⟩, ⟨"separator", "s", .always⟩]
    ordered := true
    isOperand := fun cs => match cs with
      | '-' :: c :: _ => c.isDigit || c = '.'
      | _ => false }

/-- The numbers that arguments write; the step must not be zero. -/
def readSequenceNumbers (c : Call) : Nat → List Text → Except Account (List SequenceNumber)
  | _, [] => .ok []
  | i, text :: rest =>
    let shown := c.charset.quotedWord text
    match readSequenceNumber? text with
    | none => .error (c.misuse 1 ("invalid floating point argument: " ++ shown))
    | some n =>
      if n.value matches .nan _ then .error (c.misuse 1 ("invalid "
        ++ c.charset.quotedWord "not-a-number".toList ++ " argument: " ++ shown))
      else if i = 1 ∧ rest ≠ [] ∧ n.isFinite ∧ n.rational = 0 then
        .error (c.misuse 1 ("invalid Zero increment value: " ++ shown))
      else (readSequenceNumbers c (i + 1) rest).map (n :: ·)

/-- A sequence: its first number, the step, and the last. -/
def sequenceEnds? {α : Type} (one : α) : List α → Option (α × α × α)
  | [last] => some (one, one, last)
  | [first, last] => some (first, one, last)
  | [first, step, last] => some (first, step, last)
  | _ => none

/-- How many numbers are written at most. A sequence that has no end is cut off where it cannot be
    told how many are read. -/
def Call.mostNumbers (c : Call) (mostWithin : Nat → Nat) : Nat :=
  match c.streams.output with
  | .pipe room => mostWithin room
  | _ => 4000000

/-- A number of texts, with separators so long, that are longer together than some room: each has
    one character at least. -/
def anyWithin (separator room : Nat) : Nat := room / (1 + separator) + 1

/-- A number of whole numbers, rising from the first, that are longer together than some room: but
    for the first ten, hundred and so on each has two digits, three digits and so on. -/
def risingWithin (room : Nat) : Nat :=
  (List.range 8).foldl (fun most d => min most (Nat.pow 10 d + room / (d + 2) + 1)) (room + 1)

/-- A step by which whole numbers can be counted as they are written. -/
def isFastStep (n : Rat) : Bool := 0 < n && n ≤ fastStepLimit

/-- What is written of a sequence. -/
def sequenceAccount (c : Call) (o : Options) (format : Option SequenceFormat) : Account :=
  let separator := (o.value? "s").getD ['\n']
  let listing (texts : List Text) : Account :=
    if texts = [] then .silent 0
    else .output (Text.toBytes (separator.intercalate texts) ++ [10])
  let one : SequenceNumber := ⟨.finite false 1, some 0, 1⟩
  let most := c.mostNumbers (anyWithin separator.length)
  let simple := !o.has "w" && !o.has "f" && separator.length = 1
  let digits := if simple then (o.operands.mapM digitsValue?).bind (sequenceEnds? 1) else none
  match digits.filter fun (_, step, _) => isFastStep step with
  | some (first, step, last) =>
    listing (wholeTexts (c.mostNumbers risingWithin) first step (some last))
  | none => match readSequenceNumbers c 0 o.operands with
    | .error account => account
    | .ok numbers => match sequenceEnds? one numbers with
      | none => .silent 0
      | some (first, step, last) =>
        let whole (n : SequenceNumber) : Bool := n.places = some 0 && !n.value.isNegative
        let fast := simple && [first, step, last].all whole && first.isFinite
          && isFastStep step.rational
        if fast then
          let stop := if last.isFinite then some last.rational.num else none
          listing (wholeTexts (c.mostNumbers risingWithin) first.rational.num step.rational.num
            stop)
        else listing (sequenceTexts most (format.getD (usualFormat (o.has "w") first step last))
          first step last)

/-- The utility that counts from a number to another. -/
def Utility.seq : Utility := ⟨.usual, fun c =>
  c.withOptions (.madeBy "seq" ["Ulrich Drepper"]) sequenceOptions 1 (fun _ => none) fun o =>
    if o.operands = [] then c.misuse 1 "missing operand"
    else if 3 < o.operands.length then
      c.misuse 1 ("extra operand " ++ c.charset.quotedWord (o.operands.getD 3 []))
    else match (o.value? "f").map (readSequenceFormat c.charset) with
      | some (.error message) => c.complain 1 message
      | some (.ok format) =>
        if o.has "w" then c.misuse 1
          "format string may not be specified when printing equal width strings"
        else sequenceAccount c o (some format)
      | none => sequenceAccount c o none⟩

end LineShell
