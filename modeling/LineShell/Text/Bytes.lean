/-!
    Byte strings and the UTF-8 form of text.

    A byte string is read strictly (`Bytes.text?`: every byte belongs to the encoding of a
    character) or with repair (`Bytes.repaired`: each maximal stretch of bytes that starts a
    character and does not complete it becomes one U+FFFD). Reading an encoded text gives the text
    back either way (`text?_ofText`, `repaired_ofText`). -/

namespace LineShell

/-- The bytes of a file or a stream. -/
abbrev Bytes := List UInt8

namespace Bytes

/-- The UTF-8 form of a list of characters. -/
def ofChars (cs : List Char) : Bytes := cs.flatMap String.utf8EncodeChar

/-- The UTF-8 form of a text. -/
def ofText (s : String) : Bytes := ofChars s.toList

/-- The character whose encoding the bytes start with. -/
def firstChar? (bs : Bytes) : Option Char := (bs.take 4).toByteArray.utf8DecodeChar? 0

theorem firstChar?_append (c : Char) (bs : Bytes) :
    firstChar? (String.utf8EncodeChar c ++ bs) = some c := by
  have hlen : (String.utf8EncodeChar c).length ≤ 4 := by
    simpa using Char.utf8Size_le_four c
  rw [firstChar?, List.take_append, List.take_of_length_le hlen, List.toByteArray_append]
  exact ByteArray.utf8DecodeChar?_utf8EncodeChar_append

theorem drop_size_length_lt (c : Char) {b : UInt8} {bs : Bytes} :
    ((b :: bs).drop c.utf8Size).length < (b :: bs).length := by
  have := c.utf8Size_pos
  simp only [List.length_drop, List.length_cons]
  omega

/-- The characters that the bytes encode, if they are nothing but encodings of characters. -/
def chars? : Bytes → Option (List Char)
  | [] => some []
  | b :: bs =>
    match firstChar? (b :: bs) with
    | some c => (chars? ((b :: bs).drop c.utf8Size)).map (c :: ·)
    | none => none
termination_by bs => bs.length
decreasing_by exact drop_size_length_lt c

/-- The text that the bytes encode, if they are valid UTF-8. -/
def text? (bs : Bytes) : Option String := (chars? bs).map String.ofList

/-! ### Repair -/

/-- Whether a byte lies in the closed range. -/
def within (lo hi b : UInt8) : Bool := lo ≤ b && b ≤ hi

/-- For a first byte of more than one: the range of the second byte, and how many bytes in all. -/
def leadShape (b : UInt8) : Option (UInt8 × UInt8 × Nat) :=
  if within 0xC2 0xDF b then some (0x80, 0xBF, 2)
  else if b = 0xE0 then some (0xA0, 0xBF, 3)
  else if b = 0xED then some (0x80, 0x9F, 3)
  else if within 0xE1 0xEF b then some (0x80, 0xBF, 3)
  else if b = 0xF0 then some (0x90, 0xBF, 4)
  else if within 0xF1 0xF3 b then some (0x80, 0xBF, 4)
  else if b = 0xF4 then some (0x80, 0x8F, 4)
  else none

/-- How many bytes after the first belong to the stretch that one replacement stands for, when the
    bytes do not start with the encoding of a character. -/
def brokenTail (b : UInt8) (bs : Bytes) : Nat :=
  match leadShape b, bs with
  | some (lo, hi, size), c :: cs =>
    if within lo hi c then 1 + ((cs.take (size - 2)).takeWhile (within 0x80 0xBF)).length else 0
  | _, _ => 0

/-- The character that stands for bytes that encode none. -/
def replacement : Char := '\ufffd'

/-- The characters of the bytes, with one replacement for each broken stretch. -/
def repairedChars : Bytes → List Char
  | [] => []
  | b :: bs =>
    match firstChar? (b :: bs) with
    | some c => c :: repairedChars ((b :: bs).drop c.utf8Size)
    | none => replacement :: repairedChars (bs.drop (brokenTail b bs))
termination_by bs => bs.length
decreasing_by
  · exact drop_size_length_lt c
  · simp only [List.length_drop, List.length_cons]; omega

/-- The text of the bytes, with one replacement for each broken stretch. -/
def repaired (bs : Bytes) : String := String.ofList (repairedChars bs)

/-! ### Reading what was encoded -/

theorem ofChars_cons (c : Char) (cs : List Char) :
    ofChars (c :: cs) = String.utf8EncodeChar c ++ ofChars cs := by
  simp [ofChars]

theorem exists_cons_of_encode (c : Char) (bs : Bytes) :
    ∃ b rest, String.utf8EncodeChar c ++ bs = b :: rest := by
  have h : (String.utf8EncodeChar c).length ≠ 0 := by
    rw [String.length_utf8EncodeChar]; exact Nat.ne_of_gt c.utf8Size_pos
  match hc : String.utf8EncodeChar c, h with
  | b :: rest, _ => exact ⟨b, rest ++ bs, rfl⟩

theorem chars?_ofChars : ∀ cs : List Char, chars? (ofChars cs) = some cs
  | [] => by simp [ofChars, chars?]
  | c :: cs => by
    obtain ⟨b, rest, h⟩ := exists_cons_of_encode c (ofChars cs)
    rw [ofChars_cons, h, chars?, ← h, firstChar?_append]
    simp [chars?_ofChars cs]

theorem repairedChars_ofChars : ∀ cs : List Char, repairedChars (ofChars cs) = cs
  | [] => by simp [ofChars, repairedChars]
  | c :: cs => by
    obtain ⟨b, rest, h⟩ := exists_cons_of_encode c (ofChars cs)
    rw [ofChars_cons, h, repairedChars, ← h, firstChar?_append]
    simp [repairedChars_ofChars cs]

/-- Strict reading undoes encoding. -/
theorem text?_ofText (s : String) : text? (ofText s) = some s := by
  simp [text?, ofText, chars?_ofChars]

/-- Reading with repair undoes encoding. -/
theorem repaired_ofText (s : String) : repaired (ofText s) = s := by
  simp [repaired, ofText, repairedChars_ofChars]

end Bytes

end LineShell
