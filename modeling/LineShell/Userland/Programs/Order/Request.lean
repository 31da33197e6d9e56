import LineShell.Userland.Programs.Order.Key
/-!
    Lines in order.

    Lines are compared by their keys, one after the other, and in the end byte by byte. Lines whose
    keys are equal can be kept as they stand, or reduced to the first of them. Turning the order
    round turns the last comparison and the keys that have no style of their own round. -/

namespace LineShell

/-- How lines are sorted. -/
structure OrderRequest where
  keys : List OrderKey
  separator : Option UInt8
  /-- The style of keys without one. -/
  style : OrderStyle
  stable : Bool
  unique : Bool
  /-- What ends a line. -/
  feed : UInt8
  scatter : Option Scatter

/-- A line with what it is ordered by. -/
structure OrderedLine where
  bytes : Bytes
  values : List OrderValue

namespace OrderRequest

/-- The keys as they are used: those without a style have the common one, and if there is none the
    whole line can be one. -/
def usedKeys (q : OrderRequest) : List OrderKey :=
  if q.keys = [] then if q.style.isPlain then [] else [.whole q.style]
  else q.keys.map fun k =>
    if k.style.isPlain ∧ ¬ k.style.reverse then { k with style := q.style } else k

/-- The comparison turned round if so. -/
def turned (reverse : Bool) (o : Ordering) : Ordering := if reverse then o.swap else o

/-- Values of keys in order. -/
def compareValues : List Bool → List OrderValue → List OrderValue → Ordering
  | reverse :: rs, a :: as, b :: bs =>
    (turned reverse (a.compare b)).then (compareValues rs as bs)
  | _, _, _ => .eq

/-- Lines in order, by keys that are turned round or not. -/
def compare (q : OrderRequest) (turns : List Bool) (a b : OrderedLine) : Ordering :=
  let byKeys := compareValues turns a.values b.values
  if turns ≠ [] ∧ (q.unique ∨ q.stable) then byKeys
  else byKeys.then (turned q.style.reverse (compareBytes a.bytes b.bytes))

/-- The lines of some bytes with what they are ordered by. -/
def lines (q : OrderRequest) (bytes : Bytes) : List OrderedLine :=
  let keys := q.usedKeys
  (feedLines q.feed bytes).map fun line =>
    let line := if line.getLast? = some q.feed then line.dropLast else line
    ⟨line, keys.map (·.value q.scatter q.separator line)⟩

/-- Which keys are turned round. -/
def turns (q : OrderRequest) : List Bool := q.usedKeys.map (·.style.reverse)

/-- Lines without those that are equal to the one before. -/
def dropRepeated (q : OrderRequest) (lines : List OrderedLine) : List OrderedLine :=
  let turns := q.turns
  let add (kept : List OrderedLine) (line : OrderedLine) : List OrderedLine :=
    match kept with
    | last :: _ => if q.compare turns last line = .eq then kept else line :: kept
    | [] => [line]
  (lines.foldl add []).reverse

/-- Where the least of the first lines is; of equal ones the first. -/
def leastHead (q : OrderRequest) : List (List OrderedLine) → Option (OrderedLine × Nat)
  | [] => none
  | [] :: rest => (q.leastHead rest).map fun (line, i) => (line, i + 1)
  | (line :: _) :: rest => match q.leastHead rest with
    | some (other, i) =>
      if q.compare q.turns line other = .gt then some (other, i + 1) else some (line, 0)
    | none => some (line, 0)

/-- Several lists of lines merged behind others, with so many lines at most. -/
def merge (q : OrderRequest) (before : List OrderedLine) : Nat → List (List OrderedLine) →
    List OrderedLine
  | 0, _ => before.reverse
  | steps + 1, lists => match q.leastHead lists with
    | some (line, i) => q.merge (line :: before) steps (lists.modify i List.tail)
    | none => before.reverse

/-- The lines of some byte strings in order; `merging` says that each is in order already. -/
def sort (q : OrderRequest) (merging : Bool) (texts : List Bytes) : List OrderedLine :=
  let lists := texts.map q.lines
  let turns := q.turns
  let sorted := if merging then q.merge [] lists.flatten.length lists
    else lists.flatten.mergeSort fun a b => q.compare turns a b ≠ .gt
  if q.unique then q.dropRepeated sorted else sorted

/-- The first line that is not where it should be, and its number. -/
def firstDisorder (q : OrderRequest) (lines : List OrderedLine) : Option (OrderedLine × Nat) :=
  let turns := q.turns
  let wrong (a b : OrderedLine) : Bool := match q.compare turns a b with
    | .gt => true
    | .eq => q.unique
    | .lt => false
  ((lines.zip (lines.drop 1)).zipIdx 2).findSome? fun ((a, b), n) =>
    if wrong a b then some (b, n) else none

end OrderRequest

end LineShell
