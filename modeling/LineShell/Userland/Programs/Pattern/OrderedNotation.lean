import LineShell.Userland.Programs.Pattern.OrderedPiece
/-!
    Ordered patterns as they are written.

    A pattern is read twice, for it can refer to groups that come later: the first reading finds the
    groups and their names, the second one builds the pattern (`OrderedPattern.read`). -/

namespace LineShell

namespace OrderedRead

mutual

/-- The alternatives up to a closing parenthesis or the end. -/
def branches (k : OrderedContext) : Nat → OrderedRead (List Ordered)
  | 0 => throw .openGroup
  | steps + 1 => do
    let e ← sequence k steps
    if ← accept "|" then return e :: (← branches k steps)
    return [e]

/-- Pieces up to the end of an alternative. -/
def sequence (k : OrderedContext) : Nat → OrderedRead Ordered
  | 0 => throw .openGroup
  | steps + 1 => do
    skipVoid (← rest).length
    let r ← get
    match r.rest with
    | [] => return .nothing
    | s :: _ =>
      if ¬ r.quoting ∧ (s = 0x7C ∨ s = 0x29) then return .nothing
      let (e, repeatable) ← piece k steps
      let e ← if repeatable then repeated e else pure e
      return .both e (← sequence k steps)

/-- The next piece, and whether it can be repeated. -/
def piece (k : OrderedContext) : Nat → OrderedRead Piece
  | 0 => throw .openGroup
  | steps + 1 => do
    let r ← get
    if (← repetition?).isSome then throw .nothingToRepeat
    match r.rest with
    | [] => return (.nothing, false)
    | s :: _ =>
      skip 1
      let style : PatternStyle := ⟨k.charset, true, r.flags.caseless⟩
      if r.quoting then return (.one (style.like s), true)
      match s.ascii with
      | '\\' => escapePiece k
      | '[' => classPiece k
      | '(' => group k steps
      | c => match ← signPiece? c with
        | some p => return p
        | none => return (.one (style.like s), true)

/-- A group after its opening parenthesis. -/
def group (k : OrderedContext) : Nat → OrderedRead Piece
  | 0 => throw .openGroup
  | steps + 1 => do
    let inside : OrderedRead (List Ordered) := within do
      let es ← branches k steps
      close .openGroup
      return es
    let kept (name : Option (List Symbol)) : OrderedRead Piece := do
      let number ← openGroup name
      return (.group number (oneOf (← inside)), true)
    let ofKind (kind : GroupKind) : OrderedRead Piece := do
      let es ← inside
      match kind with
      | .plain => return (oneOf es, true)
      | .firstWay => return (.firstWay (oneOf es), true)
      | .ahead wanted => return (.ahead wanted (oneOf es), true)
      | .behind wanted => return (← behind k wanted es, true)
    let text ← rest
    if text.head? = some 0x2A ∧ (text.drop 1).head?.any
        (fun s => Charset.ascii (fun c => c.isAlpha || c = ':') s) then
      skip 1
      match ← wordKind? with
      | some kind => ofKind kind
      | none => return (← verb, false)
    else if ¬ (← accept "?") then
      if (← get).flags.unkept then return (oneOf (← inside), true) else kept none
    else match ← lookKind? with
      | some kind => ofKind kind
      | none => special k steps kept ofKind

/-- A group after its opening parenthesis and a question mark. -/
def special (k : OrderedContext) (steps : Nat) (kept : Option (List Symbol) → OrderedRead Piece)
    (ofKind : GroupKind → OrderedRead Piece) : OrderedRead Piece :=
  match steps with
  | 0 => throw .openGroup
  | steps + 1 => do
    let text ← rest
    match text.map Symbol.ascii with
    | [] => throw .openGroup
    | ':' :: _ => skip 1; ofKind .plain
    | '>' :: _ => skip 1; ofKind .firstWay
    | '|' :: _ =>
      skip 1
      within do
        let groups := (← get).groups
        let e ← aligned groups groups (sequence k steps) text.length
        close .openGroup
        return (e, true)
    | '<' :: _ => skip 1; kept (some (← name 0x3E))
    | '\x27' :: _ => skip 1; kept (some (← name 0x27))
    | 'P' :: rest => match rest with
      | [] => throw .openGroup
      | '<' :: _ => skip 2; kept (some (← name 0x3E))
      | '=' :: _ => skip 2; return (← again k (← name 0x29), true)
      | '>' :: _ => skip 2; return (← callNamed k (← name 0x29), true)
      | _ => throw .unknownAfterP
    | '&' :: _ => skip 1; return (← callNamed k (← name 0x29), true)
    | 'R' :: _ =>
      skip 1
      close .callEnd
      return (.call 0, true)
    | 'C' :: _ => skip 1; return (← callout, false)
    | '(' :: _ => skip 1; condition k steps
    | '+' :: rest =>
      if ¬ rest.head?.any Char.isDigit then throw .digitExpected
      return (← callNumber .openGroup, true)
    | '-' :: d :: _ => if d.isDigit then return (← callNumber .openGroup, true) else flagged
    | c :: _ => if c.isDigit then return (← callNumber .openGroup, true) else flagged
where
  /-- Flags for what follows, or for a group of their own. -/
  flagged : OrderedRead Piece := do
    let before := (← get).flags
    let plain ← accept "^"
    if plain then
      modify fun r => { r with flags := { r.flags with
        caseless := false, multiline := false, dotAll := false, spaced := false
        classSpaced := false, unkept := false } }
    readFlags ((← rest).length + 1) false plain
    if ← accept ":" then
      let piece ← ofKind .plain
      modify fun r => { r with flags := before }
      return piece
    skip 1
    return (.nothing, false)

/-- A choice between two branches, after the parenthesis that opens its condition. -/
def condition (k : OrderedContext) : Nat → OrderedRead Piece
  | 0 => throw .openGroup
  | steps + 1 => do
    let text ← rest
    if text = [] then throw .openGroup
    let test : OrderedTest ←
      if text.head? = some 0x3F ∨ text.head? = some 0x2A then
        skip 1
        let kind ← if text.head? = some 0x3F then lookKind? else wordKind?
        let es : OrderedRead (List Ordered) := within do
          let es ← branches k steps
          close .openGroup
          return es
        match kind with
        | some (.ahead wanted) => pure (.ahead wanted (oneOf (← es)))
        | some (.behind wanted) => match ← behind k true (← es) with
          | .ahead _ e => pure (.ahead wanted e)
          | e => pure (.ahead wanted e)
        | _ => throw .assertionExpected
      else readTest k
    let es ← within do
      let es ← branches k steps
      close .openGroup
      return es
    let yes := es.headD .nothing
    let no := (es.drop 1).headD .nothing
    match test with
    | .never =>
      if 1 < es.length then throw .defineBranches
      return (.ifSet [] yes .nothing, true)
    | test =>
      if 2 < es.length then throw .conditionBranches
      match test with
      | .set numbers => return (.ifSet numbers yes no, true)
      | .called number => return (.ifCalled number yes no, true)
      | .ahead wanted e => return (.ifAhead wanted e yes no, true)
      | .never => return (.nothing, true)

end

end OrderedRead

/-- An ordered pattern with the forms of its groups. -/
structure OrderedPattern where
  form : Ordered
  table : List (Nat × Ordered)

/-- The settings that a pattern can start with, which change nothing here. -/
def openingSettings : List String :=
  ["(*UTF)", "(*UCP)", "(*CR)", "(*LF)", "(*CRLF)", "(*ANYCRLF)", "(*ANY)", "(*NUL)",
    "(*BSR_ANYCRLF)", "(*BSR_UNICODE)", "(*NO_AUTO_POSSESS)", "(*NO_START_OPT)", "(*NO_JIT)",
    "(*NO_DOTSTAR_ANCHOR)", "(*NOTEMPTY)", "(*NOTEMPTY_ATSTART)"]

/-- Symbols without the settings at their start. -/
def withoutSettings : Nat → List Symbol → List Symbol
  | 0, text => text
  | steps + 1, text =>
    match openingSettings.find? fun s => (s.toList.map Char.toNat).isPrefixOf text with
    | some s => withoutSettings steps (text.drop s.length)
    | none => text

namespace OrderedPattern

/-- Reads symbols once, with what is known of them. -/
def readOnce (k : OrderedContext) (flags : OrderedFlags) (text : List Symbol) :
    Except OrderedFault (Ordered × OrderedReader) :=
  let body : OrderedRead Ordered := do
    let es ← OrderedRead.branches k (8 * text.length + 16)
    if (← get).rest ≠ [] then throw .strayClosing
    return OrderedRead.oneOf es
  match body.run ⟨text, flags, false, 0, [], 0, false⟩ with
  | .ok e r => .ok (e, r)
  | .error fault _ => .error fault

/-- The pattern that symbols write. -/
def read (cs : Charset) (caseless multiline : Bool) (text : List Symbol) :
    Except OrderedFault OrderedPattern := do
  let flags : OrderedFlags := ⟨caseless, multiline, false, false, false, false, false, false⟩
  let text := withoutSettings text.length text
  let (e, r) ← readOnce ⟨cs, [], [], true⟩ flags text
  let (e, r') ← readOnce ⟨cs, r.names, (0, e) :: e.groups, false⟩ flags text
  if r'.unnamed ∨ r.groups < r'.referred then throw .missingGroup
  return ⟨e, (0, e) :: e.groups⟩

/-- The first match that starts at a place or after it: where it starts and where it ends. -/
def next? (p : OrderedPattern) (s : Subject) (start : Nat) : Option (Nat × Nat) :=
  p.form.search s p.table start (s.size + 1) start

end OrderedPattern

end LineShell
