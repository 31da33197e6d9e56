import LineShell.Userland.Text.Charset
/-!
    Patterns of symbols within a line.

    A pattern leads from some places of a line to others. The places that it leads to are found all
    at once, so that a place that can be reached in many ways is gone on from only once. A group
    keeps what it has matched, so that the same symbols can be asked for again. -/

namespace LineShell

/-- Something about a place between two symbols. -/
inductive Assertion where
  | lineStart | lineEnd
  | wordStart | wordEnd
  | wordEdge | noWordEdge
  /-- No part of a word stands before the place, or after it. -/
  | afterWord | beforeWord
  deriving DecidableEq, Repr

/-- A line in which patterns are looked for. -/
structure Subject where
  symbols : Array Symbol
  charset : Charset
  /-- Whether large and small letters are the same. -/
  caseless : Bool

/-- The symbol of a line that stands for all that count as the same. -/
def Charset.folded (cs : Charset) (s : Symbol) : Symbol := cs.small (cs.large s)

/-- How many symbols a line has. -/
def Subject.size (s : Subject) : Nat := s.symbols.size

/-- A pattern of symbols. -/
inductive Pattern where
  /-- Matches nothing. -/
  | never
  /-- Matches the empty string. -/
  | nothing
  | one (p : Symbol → Bool)
  | place (a : Assertion)
  | both (a b : Pattern)
  | either (a b : Pattern)
  | repeated (a : Pattern) (least : Nat) (most : Option Nat)
  | group (number : Nat) (a : Pattern)
  /-- The symbols that a group has matched. -/
  | again (number : Nat)

/-- A place in a line, with the groups that have been matched on the way there: where each starts
    and ends. -/
structure Cursor where
  position : Nat
  groups : List (Nat × Nat × Nat)
  deriving DecidableEq

/-- Whether something is so at a place. -/
def Assertion.holds (s : Subject) (i : Nat) (a : Assertion) : Bool :=
  let before := 0 < i && (s.symbols[i - 1]?.any s.charset.isWord)
  let after := s.symbols[i]?.any s.charset.isWord
  match a with
  | .lineStart => i = 0
  | .lineEnd => i = s.size
  | .wordStart => !before && after
  | .wordEnd => before && !after
  | .wordEdge => before != after
  | .noWordEdge => before == after
  | .afterWord => !before
  | .beforeWord => !after

namespace Cursor

/-- The cursor further on. -/
def forward (c : Cursor) (n : Nat) : Cursor := { c with position := c.position + n }

/-- The cursor after a group that started at a place. -/
def closing (c : Cursor) (number start : Nat) : Cursor :=
  { c with groups := (number, start, c.position) :: c.groups.filter (·.1 ≠ number) }

/-- The cursor after what a group has matched stands there again. -/
def again? (s : Subject) (number : Nat) (c : Cursor) : Option Cursor :=
  (c.groups.lookup number).bind fun (start, stop) =>
    let fold (x : Symbol) : Symbol := if s.caseless then s.charset.folded x else x
    let part (i n : Nat) : List Symbol := ((s.symbols.extract i (i + n)).toList).map fold
    if part start (stop - start) = part c.position (stop - start) then
      some (c.forward (stop - start))
    else none

/-- The cursors of two lists in order, without repetitions of neighbours. -/
def unite : List Cursor → List Cursor → List Cursor
  | [], cs => cs
  | cs, [] => cs
  | a :: as, b :: bs =>
    if a = b then a :: unite as bs
    else if b.position < a.position then b :: unite (a :: as) bs
    else a :: unite as (b :: bs)
termination_by as bs => as.length + bs.length

/-- The cursors of a list in order that another list in order does not have. -/
def without : List Cursor → List Cursor → List Cursor
  | [], _ => []
  | cs, [] => cs
  | a :: as, b :: bs =>
    if a = b then without as (b :: bs)
    else if b.position < a.position then without (a :: as) bs
    else if a.groups = [] then a :: without as (b :: bs)
    else if (b :: bs).contains a then without as (b :: bs) else a :: without as (b :: bs)
termination_by as bs => as.length + bs.length

/-- All cursors that steps lead to, at most so many. -/
def many (step : List Cursor → List Cursor) : Nat → List Cursor → List Cursor → List Cursor
  | 0, _, reached => reached
  | steps + 1, front, reached =>
    let front := without (step front) reached
    if front = [] then reached else many step steps front (unite reached front)

/-- The cursors that so many steps lead to. -/
def after (step : List Cursor → List Cursor) : Nat → List Cursor → List Cursor
  | 0, cs => cs
  | steps + 1, cs => if cs = [] then [] else after step steps (step cs)

end Cursor

namespace Pattern

/-- One pattern after another, with no more parts than needed. -/
def before (a b : Pattern) : Pattern :=
  match a, b with
  | .never, _ => .never
  | _, .never => .never
  | .nothing, b => b
  | a, .nothing => a
  | a, b => .both a b

/-- One pattern or another, with no more parts than needed. -/
def or (a b : Pattern) : Pattern :=
  match a, b with
  | .never, b => b
  | a, .never => a
  | a, b => .either a b

/-- Symbols that belong to one class after another. -/
def sequence (classes : List (Symbol → Bool)) : Pattern :=
  classes.foldr (fun p rest => (one p).before rest) .nothing

/-- The groups whose symbols are asked for again. -/
def recalled : Pattern → List Nat
  | .both a b | .either a b => a.recalled ++ b.recalled
  | .repeated a _ _ | .group _ a => a.recalled
  | .again n => [n]
  | _ => []

/-- The pattern without the groups that are not asked for again. -/
def withGroups (kept : List Nat) : Pattern → Pattern
  | .both a b => (a.withGroups kept).before (b.withGroups kept)
  | .either a b => (a.withGroups kept).or (b.withGroups kept)
  | .repeated a least most => .repeated (a.withGroups kept) least most
  | .group n a => if n ∈ kept then .group n (a.withGroups kept) else a.withGroups kept
  | p => p

/-- Where a pattern leads to from some places. -/
def ends (s : Subject) : Pattern → List Cursor → List Cursor
  | .never, _ => []
  | .nothing, cs => cs
  | .one p, cs => (cs.filter fun c => s.symbols[c.position]?.any p).map (·.forward 1)
  | .place a, cs => cs.filter fun c => a.holds s c.position
  | .both a b, cs => b.ends s (a.ends s cs)
  | .either a b, cs => Cursor.unite (a.ends s cs) (b.ends s cs)
  | .repeated a least most, cs =>
    let step := a.ends s
    let cs := Cursor.after step least cs
    Cursor.many step (most.elim (s.size + 1) fun n => min (n - least) (s.size + 1)) cs cs
  | .group n a, cs => cs.flatMap fun c => (a.ends s [c]).map (·.closing n c.position)
  | .again n, cs => cs.filterMap (·.again? s n)

/-- Whether some part of a line matches. -/
def isIn (p : Pattern) (s : Subject) : Bool :=
  p.ends s ((List.range (s.size + 1)).map (⟨·, []⟩)) ≠ []

/-- The end of the longest match from a place. -/
def longest? (p : Pattern) (s : Subject) (start : Nat) : Option Nat :=
  ((p.ends s [⟨start, []⟩]).map (·.position)).max?

/-- The matches in a line that hold something, from left to right, each the longest where it starts
    and none within another; so many places are tried from a place on. -/
def parts (p : Pattern) (s : Subject) : Nat → Nat → List (Nat × Nat)
  | 0, _ => []
  | places + 1, i =>
    if s.size ≤ i then []
    else match p.longest? s i with
      | some stop =>
        if i < stop then (i, stop) :: p.parts s places stop else p.parts s places (i + 1)
      | none => p.parts s places (i + 1)

end Pattern

end LineShell
