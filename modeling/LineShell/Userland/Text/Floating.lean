/-!
    Numbers with a point, as programs read, keep and write them.

    A number is kept exactly, after it has been rounded to the bits that a format has for it. It is
    written by rounding the exact value to the digits that are asked for; of two decimals that are
    equally near the even one is taken. -/

namespace LineShell

/-- A number with a point. A zero has a sign, too. -/
inductive Floating where
  /-- The value is never negative; the sign stands beside it. -/
  | finite (negative : Bool) (value : Rat)
  | infinite (negative : Bool)
  | nan (negative : Bool)

/-- How many bits a number is kept in, and between which powers of two. -/
structure FloatingFormat where
  bits : Nat
  /-- The power of two of the least bit that a number can have. -/
  least : Int
  /-- The power of two that no number reaches. -/
  limit : Int

/-- Numbers of 53 bits. -/
def FloatingFormat.double : FloatingFormat := ⟨53, -1074, 1024⟩

/-- Numbers of 64 bits. -/
def FloatingFormat.extended : FloatingFormat := ⟨64, -16445, 16384⟩

namespace Floating

/-- A base to a whole power. -/
def power (base : Nat) (e : Int) : Rat :=
  let size : Rat := base.pow e.natAbs
  if e < 0 then 1 / size else size

/-- The whole number that is nearest to a number that is not negative, the even one of two. -/
def nearest (x : Rat) : Nat :=
  let whole := x.floor.toNat
  let left := x - (whole : Rat)
  if left < 1 / 2 then whole
  else if left = 1 / 2 ∧ whole % 2 = 0 then whole
  else whole + 1

/-- The greatest power of a base that is not above a positive number. -/
def magnitude (base : Nat) (x : Rat) : Int :=
  let digits (n : Nat) : Int := if base = 2 then Nat.log2 n else (toString n).length - 1
  let guess := digits x.num.natAbs - digits x.den
  if x < power base guess then guess - 1 else guess

/-- A number that is not negative in the bits of a format; none if it is out of range. -/
def round? (f : FloatingFormat) (x : Rat) : Option Rat :=
  if x = 0 then some 0
  else
    let unit := max (magnitude 2 x - f.bits + 1) f.least
    let rounded := (nearest (x / power 2 unit) : Rat) * power 2 unit
    if rounded < power 2 f.limit then some rounded else none

/-- A number in the bits of a format. -/
def ofRat (f : FloatingFormat) (negative : Bool) (x : Rat) : Floating :=
  match round? f x with
  | some value => .finite negative value
  | none => .infinite negative

/-- Whether a number stands below zero, or is written as if it did. -/
def isNegative : Floating → Bool
  | .finite negative _ | .infinite negative | .nan negative => negative

/-! ### Reading -/

/-- The value of a digit. -/
def digit (c : Char) : Nat :=
  if c.isDigit then c.toNat - '0'.toNat else c.toLower.toNat - 'a'.toNat + 10

/-- The number that digits write in a base. -/
def digits (base : Nat) (ds : List Char) : Nat := ds.foldl (fun n c => base * n + digit c) 0

/-- Whether a character is a digit in a base of at most sixteen. -/
def isDigitIn (base : Nat) (c : Char) : Bool := c.isAlphanum && digit c < base

/-- A sign and what stands after it. -/
def readSign (t : List Char) : Bool × List Char :=
  match t with
  | '-' :: rest => (true, rest)
  | '+' :: rest => (false, rest)
  | rest => (false, rest)

/-- The exponent that a letter announces, if digits follow, and the rest. -/
def readExponent (letter : Char) (t : List Char) : Int × List Char :=
  match t with
  | c :: rest =>
    if c.toLower = letter then
      let (negative, body) := readSign rest
      let ds := body.takeWhile Char.isDigit
      if ds = [] then (0, t)
      else
        let n : Int := min (digits 10 ds) 100000
        (if negative then -n else n, body.drop ds.length)
    else (0, t)
  | [] => (0, t)

/-- The value that digits with a point and an exponent write, and the rest. -/
def readDigits? (base : Nat) (f : FloatingFormat) (negative : Bool) (t : List Char) :
    Option (Floating × List Char) :=
  let whole := t.takeWhile (isDigitIn base)
  let after := t.drop whole.length
  let places := match after with
    | '.' :: rest => rest.takeWhile (isDigitIn base)
    | _ => []
  if whole = [] ∧ places = [] then none
  else
    let rest := match after with
      | '.' :: rest => rest.drop places.length
      | rest => rest
    let (exponent, rest) := readExponent (if base = 16 then 'p' else 'e') rest
    let n := digits base (whole ++ places)
    let scale : Int := exponent - (if base = 16 then 4 else 1) * places.length
    let size : Int := (toString n).length
    let value :=
      if n = 0 then .finite negative 0
      else if scale + size > 20000 then .infinite negative
      else if scale + size < -20000 then .finite negative 0
      else ofRat f negative ((n : Rat) * power (if base = 16 then 2 else 10) scale)
    some (value, rest)

/-- What follows a word between parentheses, if one stands there. -/
def readMark (t : List Char) : List Char :=
  match t with
  | '(' :: rest => match rest.dropWhile fun c => c.isAlphanum || c = '_' with
    | ')' :: rest => rest
    | _ => t
  | _ => t

/-- The number that a text starts with, after blanks, and the rest of the text. -/
def read? (f : FloatingFormat) (t : List Char) : Option (Floating × List Char) :=
  let (negative, body) := readSign (t.dropWhile fun c => c = ' ' || (9 ≤ c.toNat && c.toNat ≤ 13))
  let lower := body.map Char.toLower
  if "infinity".toList.isPrefixOf lower then some (.infinite negative, body.drop 8)
  else if "inf".toList.isPrefixOf lower then some (.infinite negative, body.drop 3)
  else if "nan".toList.isPrefixOf lower then some (.nan negative, readMark (body.drop 3))
  else match body with
    | '0' :: x :: rest =>
      if x ∈ ['x', 'X'] then (readDigits? 16 f negative rest).orElse fun _ =>
        some (.finite negative 0, x :: rest)
      else readDigits? 10 f negative body
    | body => readDigits? 10 f negative body

/-! ### Writing -/

/-- At least so many digits of a whole number. -/
def padded (size n : Nat) : List Char :=
  let ds := (toString n).toList
  List.replicate (size - ds.length) '0' ++ ds

/-- A whole number with a point before its last digits; `pointed` writes the point in any case. -/
def withPoint (places : Nat) (pointed : Bool) (n : Nat) : List Char :=
  let ds := padded (places + 1) n
  let whole := ds.take (ds.length - places)
  if places = 0 then whole ++ (if pointed then ['.'] else [])
  else whole ++ '.' :: ds.drop (ds.length - places)

/-- A number with so many places after the point. -/
def fixed (places : Nat) (pointed : Bool) (x : Rat) : List Char :=
  withPoint places pointed (nearest (x * power 10 places))

/-- The digits and the exponent of a number with one digit before the point. -/
def scientificParts (places : Nat) (x : Rat) : Nat × Int :=
  if x = 0 then (0, 0)
  else
    let e := magnitude 10 x
    let n := nearest (x * power 10 (places - e))
    if n < Nat.pow 10 (places + 1) then (n, e) else (n / 10, e + 1)

/-- The exponent of a number as it is written. -/
def exponentText (letter : Char) (size : Nat) (e : Int) : List Char :=
  letter :: (if e < 0 then '-' else '+') :: padded size e.natAbs

/-- A number with one digit before the point and so many after it. -/
def scientific (places : Nat) (pointed : Bool) (x : Rat) : List Char :=
  let (n, e) := scientificParts places x
  withPoint places pointed n ++ exponentText 'e' 2 e

/-- Digits without the zeros at the end, and without a point that nothing follows. -/
def trimmed (t : List Char) : List Char :=
  if '.' ∈ t then
    let kept := (t.reverse.dropWhile (· = '0')).reverse
    if kept.getLast? = some '.' then kept.dropLast else kept
  else t

/-- A number with so many digits, in the shorter of both forms. `full` keeps zeros at the end. -/
def general (precision : Nat) (full : Bool) (x : Rat) : List Char :=
  let p := max precision 1
  let (n, e) := scientificParts (p - 1) x
  if -4 ≤ e ∧ e < p then
    let t := fixed (p - 1 - e).toNat full x
    if full then t else trimmed t
  else
    let t := withPoint (p - 1) full n
    (if full then t else trimmed t) ++ exponentText 'e' 2 e

/-- A hexadecimal digit. -/
def hexDigit (n : Nat) : Char := "0123456789abcdef".toList.getD n '0'

/-- So many hexadecimal digits of a whole number. -/
def hexDigits : Nat → Nat → List Char
  | 0, _ => []
  | size + 1, n => hexDigits size (n / 16) ++ [hexDigit (n % 16)]

/-- A number in hexadecimal digits and with a power of two. The digit before the point has so many
    bits beyond its first. -/
def hexadecimal (bits : Nat) (precision : Option Nat) (pointed : Bool) (x : Rat) : List Char :=
  let e := if x = 0 then 0 else magnitude 2 x - bits
  let places := precision.getD 16
  let n := nearest (x / power 2 e * power 16 places)
  let carries := n / Nat.pow 16 places = 16
  let (n, e) := if carries then (n / 16, e + 4) else (n, e)
  let ds := hexDigits places (n % Nat.pow 16 places)
  let ds := if precision.isSome then ds else (ds.reverse.dropWhile (· = '0')).reverse
  "0x".toList ++ [hexDigit (n / Nat.pow 16 places)]
    ++ (if ds = [] ∧ ¬ pointed then [] else '.' :: ds) ++ exponentText 'p' 1 e

end Floating

end LineShell
