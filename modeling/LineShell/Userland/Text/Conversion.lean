import LineShell.Userland.Text.Floating
/-!
    Conversions of values to text in a field: `%5d`, `%-8.3f` and the like. -/

namespace LineShell

/-- How a value is to be written. -/
structure Conversion where
  flags : List Char
  width : Nat
  precision : Option Nat
  letter : Char

namespace Conversion

/-- Whether a flag is given. -/
def has (c : Conversion) (flag : Char) : Bool := c.flags.contains flag

/-- A text in its field. -/
def inField (c : Conversion) (t : List Char) : List Char :=
  let blanks := List.replicate (c.width - t.length) ' '
  if c.has '-' then t ++ blanks else blanks ++ t

/-- A sign or mark and digits in their field; zeros may fill the field between them. -/
def numberInField (c : Conversion) (zeros : Bool) (mark digits : List Char) : List Char :=
  if zeros ∧ c.has '0' ∧ ¬ c.has '-' then
    mark ++ List.replicate (c.width - mark.length - digits.length) '0' ++ digits
  else c.inField (mark ++ digits)

/-- The sign of a number. -/
def sign (c : Conversion) (negative : Bool) : List Char :=
  if negative then ['-'] else if c.has '+' then ['+'] else if c.has ' ' then [' '] else []

/-- A text, cut at the precision. -/
def text (c : Conversion) (t : List Char) : List Char :=
  c.inField (match c.precision with
    | some n => t.take n
    | none => t)

/-- The digits of a number; there are none for zero if none are asked for. -/
def digitsOf (c : Conversion) (base n : Nat) : List Char :=
  let ds := if n = 0 ∧ c.precision = some 0 then [] else Nat.toDigits base n
  List.replicate (c.precision.getD 1 - ds.length) '0' ++ ds

/-- A number with a sign. -/
def signed (c : Conversion) (n : Int) : List Char :=
  c.numberInField c.precision.isNone (c.sign (n < 0)) (c.digitsOf 10 n.natAbs)

/-- A number without a sign. -/
def unsigned (c : Conversion) (n : Nat) : List Char :=
  match c.letter with
  | 'o' =>
    let ds := c.digitsOf 8 n
    c.numberInField c.precision.isNone []
      (if c.has '#' ∧ ds.head? ≠ some '0' then '0' :: ds else ds)
  | 'x' =>
    c.numberInField c.precision.isNone (if c.has '#' ∧ n ≠ 0 then ['0', 'x'] else [])
      (c.digitsOf 16 n)
  | 'X' =>
    c.numberInField c.precision.isNone (if c.has '#' ∧ n ≠ 0 then ['0', 'X'] else [])
      ((c.digitsOf 16 n).map Char.toUpper)
  | _ => c.numberInField c.precision.isNone [] (c.digitsOf 10 n)

/-- A number with a point; in hexadecimal, the digit before the point has so many bits beyond its
    first. -/
def real (c : Conversion) (bits : Nat) (x : Floating) : List Char :=
  let cased (t : List Char) : List Char := if c.letter.isUpper then t.map Char.toUpper else t
  let mark := c.sign x.isNegative
  match x with
  | .infinite _ => c.inField (mark ++ cased "inf".toList)
  | .nan _ => c.inField (mark ++ cased "nan".toList)
  | .finite _ value =>
    let pointed := c.has '#'
    let places := c.precision.getD 6
    let body := match c.letter.toLower with
      | 'f' => Floating.fixed places pointed value
      | 'e' => Floating.scientific places pointed value
      | 'a' => Floating.hexadecimal bits c.precision pointed value
      | _ => Floating.general places pointed value
    match c.letter.toLower with
    | 'a' => c.numberInField true (mark ++ cased (body.take 2)) (cased (body.drop 2))
    | _ => c.numberInField true mark (cased body)

end Conversion

end LineShell
