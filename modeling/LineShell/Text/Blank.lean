/-!
    White space as Unicode's `White_Space` property has it, and the trimming of it.

    `trim` cuts blanks from both ends of a text and nothing else: what is left starts and ends with
    a character that is no blank, or is empty (`trim_of_ends`). -/

namespace LineShell

/-- The code points with the `White_Space` property, as closed ranges. -/
def blankRanges : List (Nat × Nat) :=
  [(0x9, 0xD), (0x20, 0x20), (0x85, 0x85), (0xA0, 0xA0), (0x1680, 0x1680), (0x2000, 0x200A),
   (0x2028, 0x2029), (0x202F, 0x202F), (0x205F, 0x205F), (0x3000, 0x3000)]

/-- Whether a character is white space. -/
def isBlank (c : Char) : Bool :=
  blankRanges.any fun r => r.1 ≤ c.toNat && c.toNat ≤ r.2

/-- The text without the blanks it starts with. -/
def trimStart (cs : List Char) : List Char := cs.dropWhile isBlank

/-- The text without the blanks it ends with. -/
def trimEnd (cs : List Char) : List Char := (cs.reverse.dropWhile isBlank).reverse

/-- The text without the blanks at either end. -/
def trim (cs : List Char) : List Char := trimEnd (trimStart cs)

/-- Whether a text holds blanks only. -/
def isBlankText (s : String) : Bool := s.toList.all isBlank

/-! ### What trimming leaves alone -/

theorem trimStart_of_head {c : Char} {cs : List Char} (h : isBlank c = false) :
    trimStart (c :: cs) = c :: cs := by
  simp [trimStart, h]

theorem trimEnd_of_last {cs : List Char} {c : Char} (h : isBlank c = false) :
    trimEnd (cs ++ [c]) = cs ++ [c] := by
  simp [trimEnd, h]

/-- A text that starts and ends with characters that are no blanks is its own trim. -/
theorem trim_of_ends {c d : Char} {cs ds : List Char} (hc : isBlank c = false)
    (hd : isBlank d = false) (h : c :: cs = ds ++ [d]) : trim (c :: cs) = c :: cs := by
  rw [trim, trimStart_of_head hc, h, trimEnd_of_last hd]

end LineShell
