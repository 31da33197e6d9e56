import LineShell.Userland.Script.Pattern
/-!
    From an expanded word to the fields that it makes.

    An expanded word remembers of each character whether it was quoted, and of each stretch of it
    how it may be split: not at all, at separators, or only where one of a list of values ends and
    the next begins. That border is written as U+0000, which no value holds. Blanks among the
    separators come in any number and leave nothing between them; any other separator ends a field
    even if that is empty. -/

namespace LineShell.Script

/-- A character of an expanded word. -/
inductive Glyph where
  | char (c : Char)
  /-- A character that was quoted. -/
  | escaped (c : Char)
  /-- A quotation mark. -/
  | mark
  deriving DecidableEq

/-- How a stretch of an expanded word may be split. -/
inductive Region where
  | whole
  | fields
  | list
  deriving DecidableEq

/-- A stretch of an expanded word. -/
structure Stretch where
  region : Region
  glyphs : List Glyph

/-- An expanded word. -/
abbrev Expansion := List Stretch

/-- The border between two values of a list. -/
def border : Char := '\x00'

/-- The character of a glyph. -/
def Glyph.char? : Glyph → Option Char
  | .char c | .escaped c => some c
  | .mark => none

/-- The text of glyphs. -/
def glyphText (gs : List Glyph) : Text := gs.filterMap Glyph.char?

/-- The text of glyphs as a pattern: what was quoted means only itself. -/
def glyphPattern (gs : List Glyph) : Text := gs.flatMap fun
  | .char c => [c]
  | .escaped c => ['\\', c]
  | .mark => []

/-- The glyphs of an expanded word. -/
def Expansion.glyphs (e : Expansion) : List Glyph := e.flatMap (·.glyphs)

/-- The text of an expanded word that is not split. -/
def Expansion.text (e : Expansion) : Text := glyphText e.glyphs

/-- The pattern that an expanded word writes. -/
def Expansion.pattern (e : Expansion) : Text := glyphPattern e.glyphs

/-! ### Splitting -/

/-- What has been split off: the fields so far and the field that is open, the latest first. -/
structure Splitting where
  fields : List (List Glyph)
  current : List Glyph

/-- Ends the open field. -/
def Splitting.close (s : Splitting) : Splitting := ⟨s.current.reverse :: s.fields, []⟩

/-- Puts glyphs into the open field. -/
def Splitting.add (s : Splitting) (gs : List Glyph) : Splitting :=
  { s with current := gs.reverse ++ s.current }

/-- Whether a character separates fields. -/
def isSeparator (separators : Text) (c : Char) : Bool := c = border || separators.contains c

/-- Whether a separator is a blank, of which any number counts as one. -/
def isSoft (c : Char) : Bool := c = border || c = ' ' || c = '\t' || c = '\n'

/-- The glyphs after a soft separator has ended a field: without more of the same, and without one
    other separator among them. -/
def skipSeparators (separators : Text) : Bool → List Glyph → List Glyph
  | _, [] => []
  | hard, g :: gs => match g.char? with
    | none => g :: gs
    | some c =>
      if ¬ isSeparator separators c then g :: gs
      else if isSoft c then skipSeparators separators hard gs
      else if hard then skipSeparators separators false gs
      else g :: gs

/-- Splits a stretch at separators. `plain` says that no separator is soft. -/
def splitStretch (separators : Text) (plain : Bool) :
    Nat → List Glyph → Splitting → Splitting
  | 0, _, s => s
  | _ + 1, [], s => s
  | n + 1, g :: gs, s => match g.char? with
    | none => splitStretch separators plain n gs (s.add [g])
    | some c =>
      if ¬ isSeparator separators c then splitStretch separators plain n gs (s.add [g])
      else
        let soft := isSoft c && !plain
        if soft ∧ s.current = [] then splitStretch separators plain n gs s
        else if soft then
          splitStretch separators plain n (skipSeparators separators true gs) s.close
        else splitStretch separators plain n gs s.close

/-- Splits a list of values at their borders. -/
def splitList : List Glyph → Splitting → Splitting
  | [], s => s
  | g :: gs, s => splitList gs (if g.char? = some border then s.close else s.add [g])

/-- Splits stretch after stretch; `afterList` says that the last stretch that could be split was a
    list. -/
def splitAll (separators : Text) : Bool → Expansion → Splitting → Bool × Splitting
  | afterList, [], s => (afterList, s)
  | afterList, ⟨.whole, gs⟩ :: rest, s => splitAll separators afterList rest (s.add gs)
  | _, ⟨.list, gs⟩ :: rest, s => splitAll separators true rest (splitList gs s)
  | afterList, ⟨.fields, gs⟩ :: rest, s =>
    splitAll separators false rest (splitStretch separators afterList (gs.length + 1) gs s)

/-- The fields of an expanded word. -/
def Expansion.fields (separators : Text) (e : Expansion) : List (List Glyph) :=
  let (afterList, s) := splitAll separators false e ⟨[], []⟩
  (if s.current = [] ∧ ¬ afterList then s else s.close).fields.reverse

/-! ### A line in so many parts -/

/-- What is left of a line for its last part: everything, without the soft separators at the end,
    and without one other separator if only soft ones stand beside it. `cut` is the length that
    would be kept if the line ended here, and `soft` says that the separator that began the cut is
    soft. The kept characters stand with the latest first. -/
def lastPart (separators : Text) : Option Nat → Bool → List (Char × Bool) → Text → Text
  | cut, _, [], kept => match cut with
    | some n => kept.reverse.take n
    | none => kept.reverse
  | cut, soft, (c, splits) :: rest, kept =>
    let next := c :: kept
    if ¬ splits then lastPart separators cut soft rest next
    else
      let separates := isSeparator separators c
      if separates ∧ isSoft c then
        lastPart separators (cut.orElse fun _ => some kept.length) soft rest next
      else if separates ∧ soft then lastPart separators cut false rest next
      else lastPart separators none false rest next

/-- The characters after a soft separator: without more of the same, and without one other
    separator among them. -/
def skipBlanks (separators : Text) : Bool → List (Char × Bool) → List (Char × Bool)
  | _, [] => []
  | hard, (c, splits) :: rest =>
    if ¬ (splits && isSeparator separators c) then (c, splits) :: rest
    else if isSoft c then skipBlanks separators hard rest
    else if hard then skipBlanks separators false rest
    else (c, splits) :: rest

/-- Cuts a line into at most so many parts; each character tells whether it may separate. The
    latest part stands first in `parts`, the latest character first in `kept`. -/
def cutLine (separators : Text) :
    Nat → Nat → List (Char × Bool) → Text → List Text → List Text
  | 0, _, _, _, parts => parts.reverse
  | _ + 1, _, [], kept, parts => (if kept = [] then parts else kept.reverse :: parts).reverse
  | n + 1, most, (c, splits) :: rest, kept, parts =>
    if ¬ (splits && isSeparator separators c) then
      cutLine separators n most rest (c :: kept) parts
    else if isSoft c ∧ kept = [] then cutLine separators n most rest [] parts
    else if most ≤ 1 then
      (lastPart separators (some kept.length) (isSoft c) rest (c :: kept) :: parts).reverse
    else
      let rest := if isSoft c then skipBlanks separators true rest else rest
      cutLine separators n (most - 1) rest [] (kept.reverse :: parts)

end LineShell.Script
