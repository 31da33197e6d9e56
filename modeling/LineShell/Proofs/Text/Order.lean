import LineShell.Text.Bytes
/-!
    Texts in the order of their bytes.

    UTF-8 keeps the order of the characters: the encodings of two characters differ at a byte that
    both have, and there they are ordered as the characters are (`encode_append_lt`). So texts in
    order have their bytes in order (`ofText_lt`). -/

namespace LineShell

namespace Bytes

/-- Whatever follows it, the encoding of a character is before that of a greater one. -/
theorem encode_append_lt {c d : Char} (h : c < d) (bs bs' : Bytes) :
    String.utf8EncodeChar c ++ bs < String.utf8EncodeChar d ++ bs' := by
  have hlt : c.val.toNat < d.val.toNat := by
    rw [Char.lt_def, UInt32.lt_iff_toNat_lt] at h
    exact h
  have hmax : d.val.toNat < 0x110000 := by
    have hvalid := d.valid
    simp only [UInt32.isValidChar, Nat.isValidChar] at hvalid
    omega
  unfold String.utf8EncodeChar
  dsimp only
  generalize c.val.toNat = v at hlt
  generalize d.val.toNat = w at hlt hmax
  -- for each pair of lengths: no byte exceeds its range, so the first that differs decides
  repeat' split
  all_goals
    simp only [List.cons_append, List.nil_append, List.cons_lt_cons_iff, UInt8.lt_iff_toNat_lt,
      ← UInt8.toNat_inj, UInt8.toNat_ofNat']
    simp (disch := omega) only [Nat.mod_eq_of_lt]
    omega

theorem ofChars_lt {cs ds : List Char} (h : cs < ds) : ofChars cs < ofChars ds := by
  induction h with
  | @nil d ds =>
    obtain ⟨b, rest, hb⟩ := exists_cons_of_encode d (ofChars ds)
    rw [ofChars_cons, hb]
    exact .nil
  | @rel c cs d ds hcd => exact encode_append_lt hcd _ _
  | @cons c cs ds _ ih =>
    rw [ofChars_cons, ofChars_cons]
    exact List.append_left_lt ih

/-- The bytes of texts are in the order of the texts. -/
theorem ofText_lt {s t : String} (h : s < t) : ofText s < ofText t := ofChars_lt h

end Bytes

end LineShell
