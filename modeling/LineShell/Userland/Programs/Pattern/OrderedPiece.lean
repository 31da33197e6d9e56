import LineShell.Userland.Programs.Pattern.OrderedReader
/-!
    The pieces of ordered patterns that hold no others, and the beginnings of groups. -/

namespace LineShell

namespace OrderedRead

/-! ### Groups -/

/-- The next group, with a name if it has one; its number. -/
def openGroup (name : Option (List Symbol)) : OrderedRead Nat := do
  let r ← get
  let number := r.groups + 1
  set { r with groups := number }
  match name with
  | none => return number
  | some name =>
    let same := r.names.filter (·.1 = name)
    if r.names.any fun e => e.2 = number && e.1 ≠ name then throw .otherName
    if same.any (·.2 ≠ number) ∧ ¬ r.flags.shared then throw .sameName
    modify fun r => { r with names := r.names ++ [(name, number)] }
    return number

/-- Reads with the flags that hold before, and lets them hold after it again. -/
def within {α : Type} (body : OrderedRead α) : OrderedRead α := do
  let flags := (← get).flags
  let value ← body
  modify fun r => { r with flags }
  return value

/-- Reads each branch as if it were the only one, so that their groups have the same numbers. -/
def aligned (k : Nat) (most : Nat) (body : OrderedRead Ordered) : Nat → OrderedRead Ordered
  | 0 => body
  | steps + 1 => do
    let e ← body
    let most := max most (← get).groups
    if ← accept "|" then
      modify fun r => { r with groups := k }
      return .either e (← aligned k most body steps)
    modify fun r => { r with groups := most }
    return e

/-- Alternatives of a pattern, from the first to the last. -/
def oneOf : List Ordered → Ordered
  | [] => .nothing
  | [e] => e
  | e :: rest => .either e (oneOf rest)

/-- What stands before the place: each alternative has a width of its own. -/
def behind (k : OrderedContext) (wanted : Bool) (branches : List Ordered) :
    OrderedRead Ordered := do
  let backs ← branches.mapM fun e => match e.width? k.table 100 with
    | some n => pure (.back n e)
    | none => if k.first then pure .nothing else throw .notFixed
  return .ahead wanted (oneOf backs)

/-- The name of a verb with its argument, and what it does. -/
def verb : OrderedRead Ordered := do
  let text ← rest
  let name := text.takeWhile fun s => Charset.ascii (fun c => c.isAlphanum || c = '_') s
  let after := text.drop name.length
  let argument := after.head? = some 0x3A
  let body := if argument then (after.drop 1).takeWhile (· ≠ 0x29) else []
  let after := if argument then after.drop (body.length + 1) else after
  if after.head? ≠ some 0x29 then throw .unknownVerb
  modify fun r => { r with rest := after.drop 1 }
  match String.ofList (name.map Symbol.ascii) with
  | "" | "MARK" => if body = [] then throw .markArgument else return .nothing
  | "ACCEPT" => return .accept
  | "F" | "FAIL" => return .never
  | "COMMIT" => return .commit
  | "PRUNE" | "THEN" => return .prune
  | "SKIP" => return .skip
  | _ => throw .unknownVerb

/-- What lookarounds and other groups are called by words. -/
inductive GroupKind where
  | plain | ahead (wanted : Bool) | behind (wanted : Bool) | firstWay
  deriving DecidableEq

/-- The kind of group that a word means. -/
def groupWord? (word : String) : Option GroupKind :=
  if word ∈ ["pla", "positive_lookahead", "napla", "non_atomic_positive_lookahead"] then
    some (.ahead true)
  else if word ∈ ["nla", "negative_lookahead"] then some (.ahead false)
  else if word ∈ ["plb", "positive_lookbehind", "naplb", "non_atomic_positive_lookbehind"] then
    some (.behind true)
  else if word ∈ ["nlb", "negative_lookbehind"] then some (.behind false)
  else if word ∈ ["atomic", "asr", "atomic_script_run"] then some .firstWay
  else if word ∈ ["sr", "script_run"] then some .plain
  else none

/-- The kind of group that starts after a star, if a word says one. -/
def wordKind? : OrderedRead (Option GroupKind) := do
  let text ← rest
  let word := text.takeWhile fun s => Charset.ascii (fun c => c.isAlphanum || c = '_') s
  if ¬ text.head?.any (fun s => Charset.ascii Char.isLower s) then return none
  match groupWord? (String.ofList (word.map Symbol.ascii)) with
  | some kind =>
    if (text.drop word.length).head? ≠ some 0x3A then throw .unknownAssertion
    skip (word.length + 1)
    return some kind
  | none => throw .unknownAssertion

/-- The kind of the lookaround that starts after a question mark, if one does. -/
def lookKind? : OrderedRead (Option GroupKind) := do
  if (← accept "=") || (← accept "*") then return some (.ahead true)
  if ← accept "!" then return some (.ahead false)
  if (← accept "<=") || (← accept "<*") then return some (.behind true)
  if ← accept "<!" then return some (.behind false)
  return none

/-- What a condition asks. -/
inductive OrderedTest where
  | set (numbers : List Nat)
  | called (number : Option Nat)
  | never
  | ahead (wanted : Bool) (e : Ordered)

/-- A condition about groups, up to its closing parenthesis. -/
def readTest (k : OrderedContext) : OrderedRead OrderedTest := do
  let named (name : List Symbol) : OrderedRead OrderedTest := do
    return .set (← groupsNamed k name)
  match ← number? true with
  | some n =>
    if n = 0 then throw .missingGroup
    refer n
    close .openCondition
    return .set [n]
  | none =>
    if ← accept "R&" then
      let name ← name 0x29
      return .called ((← groupsNamed k name).head?)
    else if ← accept "<" then
      let name ← name 0x3E
      close .openCondition
      named name
    else if ← accept "'" then
      let name ← name 0x27
      close .openCondition
      named name
    else
      let name ← name 0x29
      let word := String.ofList (name.map Symbol.ascii)
      let number := name.drop 1
      if k.names.any (·.1 = name) then named name
      else if word = "DEFINE" then return .never
      else if word = "R" then return .called none
      else if name.head? = some 0x52 ∧ number.all Charset.isDigit then
        refer (digitsOf 10 number)
        return .called (some (digitsOf 10 number))
      else named name

/-- A call of a group by its number, up to its closing parenthesis. -/
def callNumber (fault : OrderedFault) : OrderedRead Ordered := do
  match ← number? true with
  | some n =>
    refer n
    close fault
    return .call n
  | none => throw .unknownGroup

/-- A reference by a letter after a backslash. -/
def reference (k : OrderedContext) (letter : Char) : OrderedRead Ordered := do
  let fault : OrderedFault := if letter = 'g' then .recallLetter else .recallName
  let text ← rest
  let call (stop : Symbol) : OrderedRead Ordered := do
    skip 1
    if letter = 'k' then again k (← name stop)
    else match ← number? true with
      | some n =>
        refer n
        if (← rest).head? ≠ some stop then throw .recallLetter
        skip 1
        return .call n
      | none => callNamed k (← name stop)
  match text with
  | 0x3C :: _ => call 0x3E
  | 0x27 :: _ => call 0x27
  | 0x7B :: _ =>
    skip 1
    if letter = 'k' then again k (← name 0x7D)
    else match ← number? true with
      | some n =>
        if ¬ (← accept "\x7d") then throw .recallLetter
        againNumber n
      | none => again k (← name 0x7D)
  | _ =>
    if letter = 'k' then throw fault
    match ← number? true with
    | some n => againNumber n
    | none => throw fault

/-- A call that is left to the program that searches, which does nothing. -/
def callout : OrderedRead Ordered := do
  let text ← rest
  match text with
  | s :: _ =>
    if Charset.isDigit s ∨ s = 0x29 then
      let digits := text.takeWhile Charset.isDigit
      if 255 < digitsOf 10 digits then throw .calloutTooBig
      skip digits.length
    else
      skip 1
      modify fun r => { r with rest := (r.rest.dropWhile (· ≠ s)).drop 1 }
  | [] => return .nothing
  close .openCallout
  return .nothing

/-- A piece, and whether it can be repeated. -/
abbrev Piece := Ordered × Bool

/-- What starts lines, what ends them, and what a point stands for, as the flags say. -/
def signPiece? (c : Char) : OrderedRead (Option Piece) := do
  let f := (← get).flags
  match c with
  | '^' => return some (.milestone (if f.multiline then .lineStart else .start), false)
  | '$' => return some (.milestone (if f.multiline then .lineEnd else .stop), false)
  | '.' => return some (.one fun s => !s.isStray && (f.dotAll || s ≠ 10), true)
  | _ => return none

/-- The piece that an escape is. -/
def escapePiece (k : OrderedContext) : OrderedRead Piece := do
  let r ← get
  match ← lift (readEscape k.charset false r.groups) with
  | .literal s => return (.one (PatternStyle.like ⟨k.charset, true, r.flags.caseless⟩ s), true)
  | .members p => return (.one p, true)
  | .milestone m => return (.milestone m, false)
  | .piece e => return (e, true)
  | .keep => return (.keep, false)
  | .again n => return (← againNumber n, true)
  | .reference letter => return (← reference k letter, true)

/-- A class after its opening bracket, or an edge of words that is written like one. -/
def classPiece (k : OrderedContext) : OrderedRead Piece := do
  let r ← get
  if ← accept "[:<:]]" then
    return (.both (.milestone .wordEdge) (.ahead true (.one isOrderedWord)), true)
  if ← accept "[:>:]]" then
    return (.both (.milestone .wordEdge) (.ahead true (.back 1 (.one isOrderedWord))), true)
  match r.rest with
  | mark :: rest =>
    if [0x3A, 0x2E, 0x3D].contains mark ∧ (closedClassName? mark rest.length [] rest).isSome then
      throw (if mark = 0x3A then .classOutside else .collating)
  | [] => pure ()
  let style : PatternStyle := ⟨k.charset, true, r.flags.caseless⟩
  return (.one (← lift (readClass style r.flags.classSpaced)), true)

end OrderedRead

end LineShell
