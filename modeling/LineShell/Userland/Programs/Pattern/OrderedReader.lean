import LineShell.Userland.Programs.Pattern.OrderedClass
/-!
    Reading ordered patterns symbol by symbol: numbers, names, repetitions and flags. -/

namespace LineShell

/-- How what comes next in an ordered pattern is taken. -/
structure OrderedFlags where
  caseless : Bool
  /-- Whether lines start and end at line feeds. -/
  multiline : Bool
  /-- Whether a point stands for a line feed, too. -/
  dotAll : Bool
  /-- Whether blanks do not count, and whether they do not in classes either. -/
  spaced : Bool
  classSpaced : Bool
  /-- Whether groups without names are not kept. -/
  unkept : Bool
  /-- Whether few repetitions are tried before many. -/
  lazy : Bool
  /-- Whether several groups may have one name. -/
  shared : Bool
  deriving DecidableEq

/-- What is known of a pattern as a whole. -/
structure OrderedContext where
  charset : Charset
  names : List (List Symbol × Nat)
  table : List (Nat × Ordered)
  /-- Whether the pattern is read for the first time, when not all of that is known. -/
  first : Bool

/-- Where a reader of an ordered pattern stands. -/
structure OrderedReader where
  rest : List Symbol
  flags : OrderedFlags
  /-- Whether symbols are taken as they are. -/
  quoting : Bool
  /-- The number of groups before. -/
  groups : Nat
  names : List (List Symbol × Nat)
  /-- The greatest number of a group that is referred to. -/
  referred : Nat
  /-- Whether a name is referred to that no group has. -/
  unnamed : Bool

/-- Reading an ordered pattern. -/
abbrev OrderedRead := EStateM OrderedFault OrderedReader

namespace OrderedRead

/-- Takes symbols away. -/
def skip (n : Nat) : OrderedRead Unit := modify fun r => { r with rest := r.rest.drop n }

/-- The symbols that are left. -/
def rest : OrderedRead (List Symbol) := return (← get).rest

/-- Whether the symbols that are left start with a text, which is taken away. -/
def accept (text : String) : OrderedRead Bool := do
  let start := text.toList.map Char.toNat
  if start.isPrefixOf (← rest) then
    skip start.length
    return true
  return false

/-- Takes a closing parenthesis away, or fails. -/
def close (fault : OrderedFault) : OrderedRead Unit := do
  if ¬ (← accept ")") then throw fault

/-- Runs a reader of symbols. -/
def lift {α : Type} (read : List Symbol → Except OrderedFault (α × List Symbol)) :
    OrderedRead α := do
  match read (← rest) with
  | .error fault => throw fault
  | .ok (value, rest) =>
    modify fun r => { r with rest }
    return value

/-- Remembers that a group is referred to. -/
def refer (number : Nat) : OrderedRead Unit := modify fun r =>
  { r with referred := max r.referred number }

/-! ### Numbers and names -/

/-- A number, which a sign makes relative to the groups before; nothing if there is none. -/
def number? (signed : Bool) : OrderedRead (Option Nat) := do
  let r ← get
  let sign := r.rest.head?.filter fun s => signed && (s = 0x2B || s = 0x2D)
  let body := if sign.isSome then r.rest.drop 1 else r.rest
  let digits := body.takeWhile Charset.isDigit
  if digits = [] then return none
  let n := digitsOf 10 digits
  if 65535 < n then throw .numberTooBig
  set { r with rest := body.drop digits.length }
  match sign with
  | none => return some n
  | some s =>
    if n = 0 then throw .zeroOffset
    if s = 0x2B then return some (r.groups + n)
    if r.groups < n then throw .missingGroup
    return some (r.groups - n + 1)

/-- A name up to its end, which is taken away. -/
def name (stop : Symbol) : OrderedRead (List Symbol) := do
  let text ← rest
  let name := text.takeWhile isOrderedWord
  if text.head?.any Charset.isDigit then throw .nameDigit
  if name = [] then throw .nameExpected
  if 32 < name.length then throw .nameTooLong
  skip name.length
  if (← rest).head? ≠ some stop then throw .openName
  skip 1
  return name

/-- The groups that have a name. -/
def groupsNamed (k : OrderedContext) (name : List Symbol) : OrderedRead (List Nat) := do
  let numbers := (k.names.filter (·.1 = name)).map (·.2)
  if numbers = [] then modify fun r => { r with unnamed := true }
  return numbers.eraseDups

/-- What the groups of a name have matched. -/
def again (k : OrderedContext) (name : List Symbol) : OrderedRead Ordered := do
  return .again (← groupsNamed k name) (← get).flags.caseless

/-- The form of the first group of a name. -/
def callNamed (k : OrderedContext) (name : List Symbol) : OrderedRead Ordered := do
  return .call ((← groupsNamed k name).headD 0)

/-- What the group of a number has matched. -/
def againNumber (number : Nat) : OrderedRead Ordered := do
  if number = 0 then throw .missingGroup
  refer number
  return .again [number] (← get).flags.caseless

/-! ### Repetitions -/

/-- The counts that symbols after an opening brace are, and what follows. -/
def counts? (text : List Symbol) : Option (Nat × Option Nat × List Symbol) :=
  let first := text.takeWhile Charset.isDigit
  let rest := text.drop first.length
  let comma := rest.head? = some 0x2C
  let second := if comma then (rest.drop 1).takeWhile Charset.isDigit else first
  let rest := if comma then (rest.drop 1).drop second.length else rest
  if first = [] ∨ rest.head? ≠ some 0x7D then none
  else some (digitsOf 10 first, if second = [] then none else some (digitsOf 10 second),
    rest.drop 1)

/-- The counts of the repetition that comes next, if one does. -/
def repetition? : OrderedRead (Option (Nat × Option Nat)) := do
  let r ← get
  let found (least : Nat) (most : Option Nat) : OrderedRead (Option (Nat × Option Nat)) := do
    skip 1
    return some (least, most)
  if r.quoting then return none
  match r.rest with
  | 0x2A :: _ => found 0 none
  | 0x2B :: _ => found 1 none
  | 0x3F :: _ => found 0 (some 1)
  | 0x7B :: rest => match counts? rest with
    | none => return none
    | some (least, most, rest) =>
      if 65535 < max least (most.getD 0) then throw .countTooBig
      if most.any (· < least) then throw .countOrder
      set { r with rest }
      return some (least, most)
  | _ => return none

/-- What stands between pieces and means nothing: the marks of quotations, comments, and blanks
    where they do not count. -/
def skipVoid : Nat → OrderedRead Unit
  | 0 => return
  | steps + 1 => do
    let r ← get
    if r.quoting then
      if ← accept "\\E" then
        modify fun r => { r with quoting := false }
        skipVoid steps
    else if ← accept "\\E" then skipVoid steps
    else if ← accept "\\Q" then
      modify fun r => { r with quoting := true }
      skipVoid steps
    else if ← accept "(?#" then
      let after := (← rest).dropWhile (· ≠ 0x29)
      if after = [] then throw .openComment
      modify fun r => { r with rest := after.drop 1 }
      skipVoid steps
    else if r.flags.spaced then
      match r.rest with
      | s :: _ =>
        if Charset.single.isSpace s then
          skip 1
          skipVoid steps
        else if s = 0x23 then
          modify fun r => { r with rest := (r.rest.dropWhile (· ≠ 10)).drop 1 }
          skipVoid steps
      | [] => return

/-- A piece with the repetition that follows it. -/
def repeated (e : Ordered) : OrderedRead Ordered := do
  skipVoid (← rest).length
  match ← repetition? with
  | none => return e
  | some (least, most) =>
    skipVoid (← rest).length
    let lazy := (← get).flags.lazy
    let quoting := (← get).quoting
    let how : Eagerness ← if quoting then pure (if lazy then .least else .most)
      else if ← accept "+" then pure .all
      else if ← accept "?" then pure (if lazy then .most else .least)
      else pure (if lazy then .least else .most)
    return .repeated e least most how

/-! ### Flags -/

/-- The flags after letters; a hyphen turns off what comes after it. -/
def readFlags : Nat → Bool → Bool → OrderedRead Unit
  | 0, _, _ => throw .openGroup
  | steps + 1, off, plain => do
    let r ← get
    let change (flags : OrderedFlags) (n : Nat) : OrderedRead Unit := do
      set { r with flags, rest := r.rest.drop n }
      readFlags steps off plain
    let f := r.flags
    match r.rest.map Symbol.ascii with
    | [] => throw .openGroup
    | ')' :: _ | ':' :: _ => return
    | '-' :: _ =>
      if off ∨ plain then throw .optionHyphen
      skip 1
      readFlags steps true plain
    | 'i' :: _ => change { f with caseless := !off } 1
    | 'm' :: _ => change { f with multiline := !off } 1
    | 's' :: _ => change { f with dotAll := !off } 1
    | 'n' :: _ => change { f with unkept := !off } 1
    | 'U' :: _ => change { f with lazy := !off } 1
    | 'J' :: _ => change { f with shared := !off } 1
    | 'x' :: 'x' :: _ => change { f with spaced := !off, classSpaced := !off } 2
    | 'x' :: _ => change { f with spaced := !off, classSpaced := false } 1
    | _ => throw .unknownGroup

end OrderedRead

end LineShell
