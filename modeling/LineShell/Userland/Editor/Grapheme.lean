import LineShell.Text.Bytes
import LineShell.Userland.Editor.GraphemeClass
/-!
    User-perceived characters (extended grapheme clusters), and backspaces typed into a text.

    A text falls into clusters by looking, at each place between two characters, at the character
    that follows and at a bounded summary (`Edge`) of the cluster that precedes. A backspace takes
    away itself and the cluster before it, if there is one; the size of a cluster is counted in a
    byte, so of a cluster of `clusterSizeLimit` bytes or more only a part goes. -/

namespace LineShell
namespace Grapheme

/-- What a character is to the cluster rules. -/
inductive Kind where
  | carriageReturn | lineFeed | control | extend | joiner | regional | prepended | spacing
  | leading | vowel | trailing | openSyllable | closedSyllable | other
  deriving DecidableEq

/-- Whether a character lies in one of the ranges. -/
def among (ranges : List (Nat × Nat)) (c : Char) : Bool :=
  ranges.any fun r => r.1 ≤ c.toNat && c.toNat ≤ r.2

/-- The kind of a character. -/
def kind (c : Char) : Kind :=
  if c = '\r' then .carriageReturn
  else if c = '\n' then .lineFeed
  else if c.toNat = 0x200D then .joiner
  else if c.toNat < 0x300 ∧ ¬ among controlRanges c then .other
  else if among extendRanges c then .extend
  else if among controlRanges c then .control
  else if among prependRanges c then .prepended
  else if among spacingRanges c then .spacing
  else if among [(0x1F1E6, 0x1F1FF)] c then .regional
  else if among leadingRanges c then .leading
  else if among vowelRanges c then .vowel
  else if among trailingRanges c then .trailing
  else if among [(0xAC00, 0xD7A3)] c then
    if (c.toNat - 0xAC00) % 28 = 0 then .openSyllable else .closedSyllable
  else .other

/-- How far a cluster has come that a joiner or a linker may continue. -/
inductive Chain where
  | none | started | linked
  deriving DecidableEq

/-- What the rules need to know of the cluster before a character. -/
structure Edge where
  last : Kind
  /-- A pictograph, then marks; linked: then a joiner. -/
  pictograph : Chain
  /-- A consonant, then marks; linked: with a linker among them. -/
  conjunct : Chain
  /-- The cluster ends in an odd number of regional indicators. -/
  oddRegional : Bool

/-- The summary of a cluster that holds one character. -/
def Edge.single (c : Char) : Edge where
  last := kind c
  pictograph := if among pictographRanges c then .started else .none
  conjunct := if among conjunctConsonants c then .started else .none
  oddRegional := kind c = .regional

/-- The summary after one more character has joined the cluster. -/
def Edge.extend (e : Edge) (c : Char) : Edge where
  last := kind c
  pictograph :=
    if among pictographRanges c then .started
    else match kind c, e.pictograph with
      | .extend, .started => .started
      | .joiner, .started => .linked
      | _, _ => .none
  conjunct :=
    if among conjunctConsonants c then .started
    else if e.conjunct = .none ∨ c.toNat = 0x200C then .none
    else if among conjunctLinkers c then .linked
    else match kind c with
      | .extend | .joiner => e.conjunct
      | _ => .none
  oddRegional := kind c = .regional && !e.oddRegional

/-- Whether a character belongs to the cluster before it. -/
def Edge.joins (e : Edge) (c : Char) : Bool :=
  match e.last, kind c with
  | .carriageReturn, .lineFeed => true
  | .carriageReturn, _ | .lineFeed, _ | .control, _ => false
  | _, .carriageReturn | _, .lineFeed | _, .control => false
  | _, .extend | _, .joiner | _, .spacing | .prepended, _ => true
  | .leading, .leading | .leading, .vowel | .leading, .openSyllable
  | .leading, .closedSyllable => true
  | .openSyllable, .vowel | .openSyllable, .trailing | .vowel, .vowel | .vowel, .trailing => true
  | .closedSyllable, .trailing | .trailing, .trailing => true
  | .regional, .regional => e.oddRegional
  | _, _ =>
    (e.pictograph = .linked && among pictographRanges c)
      || (e.conjunct = .linked && among conjunctConsonants c)

/-- The clusters of a text, after a cluster that is still open. -/
def clustersAfter (e : Edge) (cluster : List Char) : List Char → List (List Char)
  | [] => [cluster]
  | c :: cs =>
    if e.joins c then clustersAfter (e.extend c) (cluster ++ [c]) cs
    else cluster :: clustersAfter (.single c) [c] cs

/-- The clusters of a text. -/
def clusters : List Char → List (List Char)
  | [] => []
  | c :: cs => clustersAfter (.single c) [c] cs

end Grapheme

/-- The character that takes back the one before it. -/
def backspace : Char := '\x08'

/-- What has been typed: the characters, the latest first, and how many bytes each cluster is
    taken to hold, the latest first as well. -/
structure Typed where
  chars : List Char
  sizes : List Nat

/-- The number of bytes at which the counted size of a cluster starts from nothing again. -/
def clusterSizeLimit : Nat := 256

/-- Characters without so many bytes at their start, if that many bytes are whole characters. -/
def dropBytes? : Nat → List Char → Option (List Char)
  | 0, cs => some cs
  | _, [] => none
  | n, c :: cs => if c.utf8Size ≤ n then dropBytes? (n - c.utf8Size) cs else none

/-- One cluster typed after others. A backspace takes back as many bytes as the cluster before it
    was counted for, if there is one. -/
def Typed.press (t : Typed) (cluster : List Char) : Option Typed :=
  if cluster = [backspace] then
    match t.sizes with
    | [] => some t
    | size :: sizes => (dropBytes? size t.chars).map (⟨·, sizes⟩)
  else
    let size := (Bytes.ofChars cluster).length % clusterSizeLimit
    some ⟨cluster.reverse ++ t.chars, size :: t.sizes⟩

/-- The text that is left after every backspace has taken back what it can; none if one of them
    would take back a part of a character. -/
def applyBackspaces? (cs : List Char) : Option (List Char) :=
  if backspace ∈ cs then
    ((Grapheme.clusters cs).foldlM Typed.press ⟨[], []⟩).map fun t => t.chars.reverse
  else some cs

end LineShell
