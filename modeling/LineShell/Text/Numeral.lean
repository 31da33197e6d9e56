/-!
    Decimal numerals with a range.

    A numeral is one digit or more, after an optional sign; one whose value lies outside the range
    is no numeral of it. An unsigned numeral may have a plus sign, a signed one either sign. -/

namespace LineShell

/-- The value of a run of decimal digits, `none` if it is empty or holds anything else. -/
def digitsValue? (cs : List Char) : Option Nat :=
  if cs ≠ [] ∧ cs.all Char.isDigit then
    some (cs.foldl (fun n c => 10 * n + (c.toNat - '0'.toNat)) 0)
  else none

/-- Digits after an optional sign: whether the sign is a minus, and the value of the digits. -/
def signedDigits? : List Char → Option (Bool × Nat)
  | '+' :: cs => (digitsValue? cs).map (false, ·)
  | '-' :: cs => (digitsValue? cs).map (true, ·)
  | cs => (digitsValue? cs).map (false, ·)

/-- How many numbers can be written in so many bits. -/
def numbersOf (bits : Nat) : Nat := Nat.pow 2 bits

/-- The integer a signed numeral of `bits` bits stands for, in two's complement. -/
def signedNumeral? (bits : Nat) (s : String) : Option Int :=
  match signedDigits? s.toList with
  | some (true, n) => if n ≤ numbersOf (bits - 1) then some (-n) else none
  | some (false, n) => if n < numbersOf (bits - 1) then some n else none
  | none => none

/-- The number an unsigned numeral of `bits` bits stands for. -/
def unsignedNumeral? (bits : Nat) (s : String) : Option Nat :=
  let digits := match s.toList with
    | '+' :: cs => cs
    | cs => cs
  match digitsValue? digits with
  | some n => if n < numbersOf bits then some n else none
  | none => none

end LineShell
