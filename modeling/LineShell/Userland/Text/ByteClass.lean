import LineShell.Text.Bytes
/-!
    Classes of bytes. All letters, digits and marks are those of ASCII. -/

namespace LineShell

/-- Whether a byte can be printed. -/
def isPrintable (b : UInt8) : Bool := 0x20 ≤ b && b < 0x7F

/-- Whether a byte is a decimal digit. -/
def isDigitByte (b : UInt8) : Bool := 0x30 ≤ b && b ≤ 0x39

/-- Whether a byte is a letter. -/
def isLetterByte (b : UInt8) : Bool := (Char.ofNat b.toNat).isAlpha

/-- The bytes from one to another. -/
def byteRange (lo hi : UInt8) : List UInt8 :=
  (List.range (hi.toNat + 1 - lo.toNat)).map fun k => UInt8.ofNat (lo.toNat + k)

/-- The bytes of a class, in order. -/
def classBytes (name : String) : Option (List UInt8) :=
  let among (p : Char → Bool) : List UInt8 :=
    ((List.range 128).filter fun n => p (Char.ofNat n)).map UInt8.ofNat
  match name with
  | "lower" => some (among Char.isLower)
  | "upper" => some (among Char.isUpper)
  | "digit" => some (among Char.isDigit)
  | "alpha" => some (among Char.isAlpha)
  | "alnum" => some (among Char.isAlphanum)
  | "space" => some [9, 10, 11, 12, 13, 0x20]
  | "blank" => some [9, 0x20]
  | "punct" => some (among fun c => 0x20 < c.toNat && c.toNat < 0x7F && !c.isAlphanum)
  | "print" => some (among fun c => 0x20 ≤ c.toNat && c.toNat < 0x7F)
  | "graph" => some (among fun c => 0x20 < c.toNat && c.toNat < 0x7F)
  | "cntrl" => some (among fun c => c.toNat < 0x20 || c.toNat = 0x7F)
  | "xdigit" => some (among fun c => c.isDigit || ('a' ≤ c && c ≤ 'f') || ('A' ≤ c && c ≤ 'F'))
  | _ => none

end LineShell
