import LineShell.Userland.Programs.Pattern.Match
/-!
    Patterns whose alternatives are tried in order.

    Where there are several ways to match, such a pattern says which is tried first, and the first
    that leads to the end is taken. Ways are tried one after the other: what remains to be matched
    is a function of the state that a way leads to, and when it fails the next way is tried
    (`Ordered.run`). The number of nested steps is bounded. -/

namespace LineShell

/-- In which order numbers of repetitions are tried. -/
inductive Eagerness where
  | most | least
  /-- As many as there are, and no fewer. -/
  | all
  deriving DecidableEq, Repr

/-- Something about a place that a pattern asks for. -/
inductive Milestone where
  | start | stop
  /-- The end, or the place before a line feed at the end. -/
  | lastFeed
  /-- The start of a line, and the end of one. -/
  | lineStart | lineEnd
  | wordEdge | noWordEdge
  /-- Where the search has started. -/
  | origin
  deriving DecidableEq, Repr

/-- A pattern whose alternatives are tried in order. -/
inductive Ordered where
  | nothing
  | never
  | one (p : Symbol → Bool)
  | milestone (m : Milestone)
  | both (a b : Ordered)
  | either (a b : Ordered)
  | repeated (a : Ordered) (least : Nat) (most : Option Nat) (how : Eagerness)
  | group (number : Nat) (a : Ordered)
  /-- What the first of some groups that is set has matched. -/
  | again (numbers : List Nat) (caseless : Bool)
  /-- What follows has the form, or has not; nothing is passed over. -/
  | ahead (wanted : Bool) (a : Ordered)
  /-- A form of so many symbols, looked for before the place. -/
  | back (count : Nat) (a : Ordered)
  /-- The first way to match and no other. -/
  | firstWay (a : Ordered)
  /-- What has been passed over before does not belong to the match. -/
  | keep
  | ifSet (numbers : List Nat) (yes no : Ordered)
  /-- Whether a group, or any at all, is being called. -/
  | ifCalled (number : Option Nat) (yes no : Ordered)
  | ifAhead (wanted : Bool) (test yes no : Ordered)
  /-- The form of a group once more; that of the whole for zero. -/
  | call (number : Nat)
  /-- The match is complete. -/
  | accept
  /-- When this place is come back to, the search goes on after so much: from the next place, from
      here, or not at all. -/
  | prune | skip | commit

/-- How far a match has come. -/
structure Progress where
  position : Nat
  /-- Where the match starts. -/
  start : Nat
  /-- Where the groups that are set start and end. -/
  groups : List (Nat × Nat × Nat)
  /-- The groups that are being called. -/
  calls : List Nat

/-- What comes of trying to match. -/
inductive Attempt where
  | found (p : Progress)
  | failed
  /-- There is no match that starts before a place. -/
  | barred (next : Nat)

/-- Part of a word for ordered patterns. -/
def isOrderedWord (s : Symbol) : Bool := Charset.single.isWord s

/-- Whether something is so at a place. -/
def Milestone.holds (s : Subject) (origin i : Nat) (m : Milestone) : Bool :=
  let before := 0 < i && (s.symbols[i - 1]?.any isOrderedWord)
  let after := s.symbols[i]?.any isOrderedWord
  match m with
  | .start => i = 0
  | .stop => i = s.size
  | .lastFeed => i = s.size || (i + 1 = s.size && s.symbols[i]? = some 10)
  | .lineStart => i = 0 || (i < s.size && s.symbols[i - 1]? = some 10)
  | .lineEnd => i = s.size || s.symbols[i]? = some 10
  | .wordEdge => before != after
  | .noWordEdge => before == after
  | .origin => i = origin

namespace Progress

/-- The progress at another place. -/
def moved (p : Progress) (position : Nat) : Progress := { p with position }

/-- The progress after a group that has started at a place. -/
def closing (p : Progress) (number start : Nat) : Progress :=
  { p with groups := (number, start, p.position) :: p.groups.filter (·.1 ≠ number) }

/-- The progress after what a group has matched stands there again. -/
def again? (s : Subject) (numbers : List Nat) (caseless : Bool) (p : Progress) :
    Option Progress :=
  (numbers.findSome? fun k => p.groups.lookup k).bind fun (start, stop) =>
    let fold (x : Symbol) : Symbol := if caseless then s.charset.folded x else x
    let part (i n : Nat) : List Symbol := (s.symbols.extract i (i + n)).toList.map fold
    if part start (stop - start) = part p.position (stop - start) then
      some (p.moved (p.position + (stop - start)))
    else none

end Progress

namespace Ordered

/-- How many symbols that belong to a class stand at a place, of so many at most. -/
def countOf (s : Subject) (p : Symbol → Bool) : Nat → Nat → Nat
  | 0, _ => 0
  | most + 1, i => if s.symbols[i]?.any p then countOf s p most (i + 1) + 1 else 0

/-- Goes on after the most symbols, then after fewer, down to the least. -/
def downFrom (go : Nat → Attempt) (least : Nat) : Nat → Attempt
  | 0 => go 0
  | n + 1 =>
    if n + 1 ≤ least then go (n + 1)
    else match go (n + 1) with
      | .failed => downFrom go least n
      | outcome => outcome

/-- Goes on after the least symbols, then after more; so many more at most. -/
def upFrom (go : Nat → Attempt) : Nat → Nat → Attempt
  | 0, n => go n
  | more + 1, n => match go n with
    | .failed => upFrom go more (n + 1)
    | outcome => outcome

/-- Tries to match from a state, and then what remains. `table` holds the forms of the groups. -/
def run (s : Subject) (table : List (Nat × Ordered)) (origin : Nat) :
    Nat → Ordered → Progress → (Progress → Attempt) → Attempt
  | 0, _, _, _ => .failed
  | n + 1, e, p, go =>
    let run := run s table origin n
    match e with
    | .nothing => go p
    | .never => .failed
    | .one c => if s.symbols[p.position]?.any c then go (p.moved (p.position + 1)) else .failed
    | .milestone m => if m.holds s origin p.position then go p else .failed
    | .both a b => run a p fun p => run b p go
    | .either a b => match run a p go with
      | .failed => run b p go
      | outcome => outcome
    | .repeated (.one c) least most how =>
      let left := s.size - p.position
      let count := countOf s c (min (most.getD left) left) p.position
      let goAt (k : Nat) : Attempt := go (p.moved (p.position + k))
      if count < least then .failed
      else match how with
        | .all => goAt count
        | .most => downFrom goAt least count
        | .least => upFrom goAt (count - least) least
    | .repeated a (least + 1) most how =>
      run a p fun p => run (.repeated a least (most.map (· - 1)) how) p go
    | .repeated _ 0 (some 0) _ => go p
    | .repeated a 0 most how =>
      let more (how : Eagerness) (go : Progress → Attempt) : Attempt :=
        run a p fun q =>
          if q.position = p.position then go q
          else run (.repeated a 0 (most.map (· - 1)) how) q go
      match how with
      | .most => match more .most go with
        | .failed => go p
        | outcome => outcome
      | .least => match go p with
        | .failed => more .least go
        | outcome => outcome
      | .all => match more .most .found with
        | .found q => go q
        | .failed => go p
        | outcome => outcome
    | .group number a => run a p fun q => go (q.closing number p.position)
    | .again numbers caseless => match p.again? s numbers caseless with
      | some p => go p
      | none => .failed
    | .ahead wanted a => match run a p .found with
      | .found q => if wanted then go { p with groups := q.groups } else .failed
      | .failed => if wanted then .failed else go p
      | .barred next => if wanted then .barred next else go p
    | .back count a =>
      if p.position < count then .failed else run a (p.moved (p.position - count)) go
    | .firstWay a => match run a p .found with
      | .found q => go q
      | outcome => outcome
    | .keep => go { p with start := p.position }
    | .ifSet numbers yes no =>
      run (if numbers.any fun k => (p.groups.lookup k).isSome then yes else no) p go
    | .ifCalled number yes no =>
      let called : Bool := match number with
        | none => p.calls ≠ []
        | some k => p.calls.head? = some k
      run (if called then yes else no) p go
    | .ifAhead wanted test yes no => match run test p .found with
      | .found q => if wanted then run yes { p with groups := q.groups } go else run no p go
      | _ => run (if wanted then no else yes) p go
    | .call number => match table.lookup number with
      | some a => run a { p with calls := number :: p.calls } fun q =>
          go { q with groups := p.groups, calls := p.calls }
      | none => .failed
    | .accept => .found p
    | .prune => match go p with
      | .failed => .barred 0
      | outcome => outcome
    | .skip => match go p with
      | .failed => .barred p.position
      | outcome => outcome
    | .commit => match go p with
      | .failed => .barred (s.size + 1)
      | outcome => outcome

/-- The number of nested steps that a match may take. -/
def depthLimit : Nat := 40000

/-- The first match that starts at a place or after it, looked for at so many places. -/
def search (e : Ordered) (s : Subject) (table : List (Nat × Ordered)) (origin : Nat) :
    Nat → Nat → Option (Nat × Nat)
  | 0, _ => none
  | places + 1, i =>
    if s.size < i then none
    else match e.run s table origin depthLimit ⟨i, i, [], []⟩ .found with
      | .found p => some (p.start, p.position)
      | .failed => e.search s table origin places (i + 1)
      | .barred next => e.search s table origin places (max (i + 1) next)
/-- The groups of a pattern with their forms. -/
def groups : Ordered → List (Nat × Ordered)
  | .both a b | .either a b | .ifSet _ a b | .ifCalled _ a b => a.groups ++ b.groups
  | .ifAhead _ a b c => a.groups ++ b.groups ++ c.groups
  | .repeated a _ _ _ | .ahead _ a | .back _ a | .firstWay a => a.groups
  | .group number a => (number, .group number a) :: a.groups
  | _ => []

/-- How many symbols every match of a pattern has, if that is so; calls are followed so deep at
    most. -/
def width? (table : List (Nat × Ordered)) : Nat → Ordered → Option Nat
  | 0, _ => none
  | n + 1, e =>
    let width? := width? table n
    let same (x y : Option Nat) : Option Nat := if x = y then x else none
    match e with
    | .nothing | .never | .milestone _ | .ahead _ _ | .keep | .prune | .skip | .commit => some 0
    | .one _ => some 1
    | .both a b => (width? a).bind fun x => (width? b).map (x + ·)
    | .either a b => same (width? a) (width? b)
    | .repeated a least most _ => if most = some least then (width? a).map (least * ·) else none
    | .group _ a | .firstWay a => width? a
    | .again [k] _ | .call k => (table.lookup k).bind width?
    | .back _ _ => some 0
    | .ifSet _ a b | .ifCalled _ a b | .ifAhead _ _ a b => same (width? a) (width? b)
    | .again _ _ | .accept => none

end Ordered

end LineShell
