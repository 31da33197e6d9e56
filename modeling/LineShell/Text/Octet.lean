import LineShell.Text.Bytes
/-!
    Text whose characters each stand for one byte.

    What programs hand to each other, arguments and variables and the text of scripts, is made of
    bytes that need not be the UTF-8 form of anything. As such text it can be cut and compared
    character by character. Text that came from bytes gives the same bytes back
    (`Text.toBytes_ofBytes`), and text that came from a string gives the string back
    (`Text.toString_ofString`). -/

namespace LineShell

/-- Text whose characters each stand for one byte. -/
abbrev Text := List Char

/-- Words of ASCII are written as strings. -/
scoped instance : Coe String Text := ⟨String.toList⟩

/-- Texts that are compared as equal are equal. -/
instance Text.lawful : LawfulBEq Text := inferInstance

namespace Text

/-- The text of some bytes. -/
def ofBytes (bytes : Bytes) : Text := bytes.map fun b => Char.ofNat b.toNat

/-- The bytes of a text. -/
def toBytes (t : Text) : Bytes := t.map fun c => UInt8.ofNat c.toNat

/-- The text of the UTF-8 form of a string. -/
def ofString (s : String) : Text := ofBytes (Bytes.ofText s)

/-- The string that a text encodes, with repairs where it encodes none. -/
def toString (t : Text) : String := Bytes.repaired t.toBytes

/-- The decimal digits of a number. -/
def ofNat (n : Nat) : Text := (ToString.toString n).toList

/-- The decimal digits of a number, with a sign if it is negative. -/
def ofInt (n : Int) : Text := (ToString.toString n).toList

/-- The order of texts by their bytes. -/
def le : Text → Text → Bool
  | [], _ => true
  | _ :: _, [] => false
  | x :: xs, y :: ys => if x = y then le xs ys else x.toNat < y.toNat

/-- Lines, each with its end. -/
def ofLines (lines : List Text) : Text := lines.flatMap (· ++ ['\n'])

/-- Words with one space between them. -/
def spaced (words : List Text) : Text := [' '].intercalate words

theorem toNat_ofNat_byte (b : UInt8) : (Char.ofNat b.toNat).toNat = b.toNat := by
  have valid : b.toNat.isValidChar := Or.inl (by have := b.toNat_lt; omega)
  rw [Char.ofNat, dif_pos valid]
  rfl

/-- Bytes come through text unchanged. -/
theorem toBytes_ofBytes (bytes : Bytes) : toBytes (ofBytes bytes) = bytes := by
  simp [toBytes, ofBytes, Function.comp_def, toNat_ofNat_byte]

/-- Strings come through text unchanged. -/
theorem toString_ofString (s : String) : toString (ofString s) = s := by
  simp [toString, ofString, toBytes_ofBytes, Bytes.repaired_ofText]

end Text

end LineShell
