import LineShell.Text.Numeral
/-!
    Sizes: numerals of 64 bits with a letter for a multiple.

    A letter may be followed by a sign of its base: `B` for powers of 1000, `iB` for powers of 1024
    as without a sign. A letter without a numeral means one of it. -/

namespace LineShell

/-- Why a text is no size. -/
inductive SizeFault where
  | invalid
  | tooLarge
  deriving DecidableEq, Repr

/-- The power of the base that a letter stands for. -/
def sizePower? (letter : Char) : Option Nat :=
  match letter with
  | 'k' | 'K' => some 1
  | 'm' | 'M' => some 2
  | 'G' => some 3
  | 'T' => some 4
  | 'P' => some 5
  | 'E' => some 6
  | 'Z' => some 7
  | 'Y' => some 8
  | _ => none

/-- The multiple that a suffix stands for. -/
def sizeMultiple? (suffix : List Char) : Option Nat :=
  match suffix with
  | [] => some 1
  | ['b'] => some 512
  | [letter] | [letter, 'i', 'B'] => (sizePower? letter).map (Nat.pow 1024)
  | [letter, 'B'] => (sizePower? letter).map (Nat.pow 1000)
  | _ => none

/-- The size that a text stands for. -/
def readSize (text : List Char) : Except SizeFault Nat :=
  let isBlank (c : Char) : Bool := c = ' ' || (9 ≤ c.toNat && c.toNat ≤ 13)
  let text := text.dropWhile isBlank
  let body := if text.head? = some '+' then text.drop 1 else text
  let digits := body.takeWhile Char.isDigit
  let suffix := if digits = [] then text else body.drop digits.length
  match digitsValue? digits, sizeMultiple? suffix with
  | _, none => .error .invalid
  | none, some multiple => if suffix = [] then .error .invalid else .ok multiple
  | some n, some multiple =>
    if n * multiple < numbersOf 64 then .ok (n * multiple) else .error .tooLarge

/-- What is wrong with a text that is no size, in words after the text. -/
def SizeFault.message : SizeFault → String
  | .invalid => ""
  | .tooLarge => ": Value too large for defined data type"

end LineShell
