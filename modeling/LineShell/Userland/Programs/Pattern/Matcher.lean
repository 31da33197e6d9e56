import LineShell.Userland.Programs.Pattern.OrderedNotation
/-!
    Looking for patterns in lines.

    Whatever notation a pattern is written in, what is asked of it is whether a line holds a match,
    and where the next one is. -/

namespace LineShell

/-- How patterns are written. -/
inductive PatternKind where
  | basic | extended | literal | ordered
  deriving DecidableEq, Repr

/-- What of a line has to match. -/
inductive MatchExtent where
  | part | word | line
  deriving DecidableEq, Repr

/-- Something that is looked for in lines. -/
structure Matcher where
  /-- Whether a line holds a match. -/
  isIn : Subject → Bool
  /-- The first match that starts at a place or after it: where it starts and where it ends. -/
  next? : Subject → Nat → Option (Nat × Nat)

namespace Matcher

/-- The first match of a pattern from a place on, the longest where it starts; so many places are
    tried. -/
def longestFrom (p : Pattern) (s : Subject) : Nat → Nat → Option (Nat × Nat)
  | 0, _ => none
  | places + 1, i => match p.longest? s i with
    | some stop => some (i, stop)
    | none => longestFrom p s places (i + 1)

/-- The matcher of a pattern. -/
def ofPattern (p : Pattern) : Matcher :=
  ⟨p.isIn, fun s i => longestFrom p s (s.size + 1 - i) i⟩

/-- The matcher of an ordered pattern. -/
def ofOrdered (p : OrderedPattern) : Matcher := ⟨fun s => (p.next? s 0).isSome, p.next?⟩

/-- The matches in a line that hold something, from left to right, none within another; so many
    places are tried from a place on. -/
def parts (m : Matcher) (s : Subject) : Nat → Nat → List (Nat × Nat)
  | 0, _ => []
  | places + 1, i =>
    if s.size ≤ i then []
    else match m.next? s i with
      | some (start, stop) =>
        if s.size ≤ start then []
        else if start < stop then (start, stop) :: m.parts s places stop
        else m.parts s places (start + 1)
      | none => []

end Matcher

/-- The text of a pattern. -/
structure WrittenPattern where
  symbols : List Symbol
  /-- The file and the number of the line that it stands in, if it is from a file. -/
  source : Option (Text × Nat)
  deriving DecidableEq, Repr

/-- Texts of patterns, each once. -/
def WrittenPattern.once (texts : List WrittenPattern) : List WrittenPattern :=
  (texts.foldl (fun kept text =>
    if kept.any (·.symbols = text.symbols) then kept else text :: kept) []).reverse

/-- What is asked of the texts of patterns. -/
structure PatternRequest where
  kind : PatternKind
  extent : MatchExtent
  caseless : Bool
  charset : Charset
  /-- Whether a line can hold line feeds. -/
  multiline : Bool

namespace PatternRequest

/-- The pattern for as much of a line as is asked for. -/
def whole (q : PatternRequest) (p : Pattern) : Pattern :=
  match q.extent with
  | .part => p
  | .word => .both (.place .afterWord) (.both p (.place .beforeWord))
  | .line => .both (.place .lineStart) (.both p (.place .lineEnd))

/-- The text of an ordered pattern for as much of a line as is asked for. -/
def wrapped (q : PatternRequest) (text : List Symbol) : List Symbol :=
  let codes (t : String) : List Symbol := t.toList.map Char.toNat
  match q.extent with
  | .part => text
  | .word => codes "(?<!\\w)(?:" ++ text ++ codes ")(?!\\w)"
  | .line => codes "^(?:" ++ text ++ codes ")$"

/-- How the texts are written. -/
def style (q : PatternRequest) : PatternStyle := ⟨q.charset, q.kind = .extended, q.caseless⟩

/-- Whether a symbol has no partner of another size that is as good. -/
def isPlainSymbol (q : PatternRequest) (s : Symbol) : Bool :=
  !q.caseless || q.charset = .single || (s < 0x80 && !"iIsS".toList.any (·.toNat = s))

/-- What several texts stand for if there is no operator in any of them: a backslash at the end of
    the last one is none. -/
def literals? (q : PatternRequest) (texts : List (List Symbol)) : Option (List (List Symbol)) :=
  let one (text : List Symbol) : Option (List Symbol) :=
    if text.all q.isPlainSymbol then q.style.literal? text else none
  match texts, texts.getLast? with
  | _ :: _ :: _, some last =>
    let before := texts.dropLast.mapM fun text => (one (text ++ [0x0A])).map (·.dropLast)
    before.bind fun before => (one last).map fun last => before ++ [last]
  | _, _ => none

/-- What is wrong with texts, in words: with each of them what can be found in it alone, or else
    with the first of them what can be found in all of them together. -/
def complaints (faults : List (WrittenPattern × PatternFault)) : List Text :=
  let own := faults.filter (·.2 ≠ .classSyntax)
  if own = [] then (faults.take 1).map fun e => e.2.message.toList
  else own.map fun (text, fault) => match text.source with
    | some (file, line) => file ++ ":" ++ Text.ofNat line ++ ": " ++ fault.message
    | none => fault.message.toList

/-- The matcher of lines that match one of several patterns. -/
def anyOf (q : PatternRequest) (patterns : List Pattern) : Matcher :=
  .ofPattern ((patterns.map fun p => q.whole (p.withGroups p.recalled)).foldl Pattern.or .never)

/-- The matcher of lines that match one of several texts, and what acts on nothing in them; the
    error is what is wrong, in words. -/
def matcher (q : PatternRequest) (texts : List WrittenPattern) :
    Except (List Text) (Matcher × List String) :=
  let exactly (texts : List (List Symbol)) : Matcher :=
    q.anyOf (texts.map fun text => .sequence (text.map q.style.like))
  let symbols := texts.map (·.symbols)
  match q.kind, symbols with
  | .ordered, [] => .ok (.ofPattern .never, [])
  | .ordered, [text] =>
    match OrderedPattern.read q.charset q.caseless q.multiline (q.wrapped text) with
    | .ok p => .ok (.ofOrdered p, [])
    | .error fault => .error [fault.message.toList]
  | .ordered, _ => .error ["the -P option only supports a single pattern"]
  | .literal, symbols => .ok (exactly symbols, [])
  | _, symbols => match q.literals? symbols with
    | some symbols => .ok (exactly symbols, [])
    | none =>
      let read := texts.map fun text => (text, Pattern.read q.style text.symbols)
      let faults := read.filterMap fun (text, result) => match result with
        | .error fault => some (text, fault)
        | .ok _ => none
      if faults ≠ [] then .error (complaints faults)
      else
        let done := read.filterMap (·.2.toOption)
        .ok (q.anyOf (done.map (·.1)), done.flatMap (·.2))

end PatternRequest

end LineShell
