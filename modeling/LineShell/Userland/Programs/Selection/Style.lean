import LineShell.Userland.Programs.Choice
import LineShell.Userland.Programs.Ends
import LineShell.Userland.Programs.Pattern.Matcher
/-!
    How lines are selected and shown.

    Before a line its operand, its number and its offset can stand. What is shown can be painted: a
    painted part stands between two sequences of control characters. -/

namespace LineShell

/-- What is said of the selected lines. -/
inductive SelectionReport where
  | lines | parts | number | nameIfAny | nameIfNone | nothing
  deriving DecidableEq, Repr

/-- The colors of what is shown. -/
structure Palette where
  matched : Text
  contextMatched : Text
  name : Text
  number : Text
  offset : Text
  mark : Text
  selectedLine : Text
  contextLine : Text
  /-- Whether the colors of selected lines and of others change places in an inverted selection. -/
  turned : Bool
  /-- Whether the rest of the line is not cleared. -/
  bare : Bool

/-- The usual colors. -/
def Palette.usual : Palette :=
  ⟨"01;31", "01;31", "35", "32", "32", "36", [], [], false, false⟩

/-- The colors after those that a text names; what is no color of its own ends the text. -/
def Palette.change (p : Palette) : List Text → Palette
  | [] => p
  | entry :: rest =>
    let name := entry.takeWhile (· ≠ '=')
    let value := entry.drop (name.length + 1)
    let changed : Option Palette :=
      if name.length = entry.length then match String.ofList name with
        | "rv" => some { p with turned := true }
        | "ne" => some { p with bare := true }
        | _ => if entry = [] then none else some p
      else if ¬ value.all fun c => c.isDigit || c = ';' then none
      else match String.ofList name with
        | "mt" => some { p with matched := value, contextMatched := value }
        | "ms" => some { p with matched := value }
        | "mc" => some { p with contextMatched := value }
        | "sl" => some { p with selectedLine := value }
        | "cx" => some { p with contextLine := value }
        | "fn" => some { p with name := value }
        | "ln" => some { p with number := value }
        | "bn" => some { p with offset := value }
        | "se" => some { p with mark := value }
        | _ => some p
    match changed with
    | some p => p.change rest
    | none => p

/-- The sequence that starts a color. -/
def Palette.start (p : Palette) (color : Text) : Bytes :=
  Text.toBytes ("\x1b[".toList ++ color ++ "m" ++ (if p.bare then "" else "\x1b[K"))

/-- Bytes in a color; with none they are as they are. -/
def Palette.paint (p : Palette) (color : Text) (bytes : Bytes) : Bytes :=
  if color = [] then bytes else p.start color ++ bytes ++ p.start []

/-- How lines are selected and shown. -/
structure Selection where
  matcher : Matcher
  charset : Charset
  caseless : Bool
  inverted : Bool
  report : SelectionReport
  /-- The most lines that are selected. -/
  most : Option Nat
  before : Nat
  after : Nat
  /-- What stands between groups of lines that do not follow each other. -/
  separator : Option Bytes
  named : Bool
  numbered : Bool
  offsets : Bool
  /-- Whether the text of a line starts at a tab stop. -/
  tabbed : Bool
  /-- Whether a name is ended by U+0000. -/
  nulNames : Bool
  /-- What ends a line. -/
  feed : UInt8
  /-- Whether every operand is taken for text. -/
  allText : Bool
  /-- Whether nothing is selected from what is no text. -/
  skipsBinary : Bool
  /-- Whether nothing is said of operands that cannot be read. -/
  quiet : Bool
  label : Text
  colors : Option Palette

/-- A line with its number, its offset and whether it is selected. -/
structure JudgedLine where
  bytes : Bytes
  number : Nat
  offset : Nat
  selected : Bool

namespace Selection

/-- Bytes in the color that is chosen for them, if there are colors. -/
def paint (s : Selection) (color : Palette → Text) (bytes : Bytes) : Bytes :=
  match s.colors with
  | some p => p.paint (color p) bytes
  | none => bytes

/-- A line as it is looked through. -/
def subject (s : Selection) (line : Bytes) : Subject :=
  ⟨(s.charset.read line).toArray, s.charset, s.caseless⟩

/-- Whether a line is selected. -/
def selects (s : Selection) (line : Bytes) : Bool := s.matcher.isIn (s.subject line) != s.inverted

/-- Whether bytes hold any that belong to no character. -/
def hasStrays (s : Selection) (line : Bytes) : Bool :=
  s.charset = .utf8 && (s.charset.read line).any Symbol.isStray

/-- The lines of some bytes, without their ends. -/
def linesOf (s : Selection) (bytes : Bytes) : List JudgedLine :=
  let add (r : List JudgedLine × Nat × Nat) (line : Bytes) : List JudgedLine × Nat × Nat :=
    let (lines, number, offset) := r
    let body := if line.getLast? = some s.feed then line.dropLast else line
    (⟨body, number, offset, s.selects body⟩ :: lines, number + 1, offset + line.length)
  ((feedLines s.feed bytes).foldl add ([], 1, 0)).1.reverse

/-- The lines with no more than so many selected, and only so many more after the last of them; put
    behind others. -/
def limited (s : Selection) (before : List JudgedLine) :
    Nat → List JudgedLine → List JudgedLine
  | _, [] => before.reverse
  | 0, lines =>
    before.reverse ++ (lines.take s.after).map fun line => { line with selected := false }
  | n + 1, line :: rest => s.limited (line :: before) (if line.selected then n else n + 1) rest

/-- The lines that count: all, or up to the last that may be selected. -/
def counted (s : Selection) (lines : List JudgedLine) : List JudgedLine :=
  match s.most with
  | some n => s.limited [] n lines
  | none => lines

/-- What stands before a line or a part of one: the operand, the number and the offset, each with a
    mark after it. Numbers have columns of a width. -/
def head (s : Selection) (width : Nat) (name : Text) (mark : UInt8) (number offset : Nat)
    (filled : Bool) : Bytes :=
  let marked : Bytes := s.paint (·.mark) [mark]
  let count (color : Palette → Text) (n : Nat) : Bytes :=
    let digits := Text.ofNat n
    s.paint color (Text.toBytes (List.replicate (width - digits.length) ' ' ++ digits)) ++ marked
  let parts := (if s.named then
      s.paint (·.name) name.toBytes ++ (if s.nulNames then [0] else marked) else [])
    ++ (if s.numbered then count (·.number) number else [])
    ++ (if s.offsets then count (·.offset) offset else [])
  if s.tabbed ∧ parts ≠ [] ∧ filled then parts ++ [9] else parts

/-- The matches of a line as offsets of bytes. -/
def partsOf (s : Selection) (line : Bytes) : List (Nat × Nat) :=
  let subject := s.subject line
  let sizes := subject.symbols.map fun x => (s.charset.symbolBytes x).length
  let places := (sizes.foldl (fun all n => all.push (all.getD (all.size - 1) 0 + n)) #[0])
  (s.matcher.parts subject (subject.size + 1) 0).map fun (i, j) =>
    (places.getD i 0, places.getD j 0)

/-- A line whose matches are painted. -/
def paintedLine (s : Selection) (p : Palette) (line : JudgedLine) : Bytes :=
  let own := line.selected != (s.inverted && p.turned)
  let lineColor := if own then p.selectedLine else p.contextLine
  let matchColor := if line.selected then p.matched else p.contextMatched
  let slice (i j : Nat) : Bytes := (line.bytes.take j).drop i
  let add (r : Bytes × Nat) (part : Nat × Nat) : Bytes × Nat :=
    (r.1 ++ (if r.2 < part.1 then p.paint lineColor (slice r.2 part.1) else [])
      ++ p.paint matchColor (slice part.1 part.2), part.2)
  let parts := if line.selected != s.inverted ∧ matchColor ≠ [] then s.partsOf line.bytes else []
  let (painted, last) := parts.foldl add ([], 0)
  painted ++ if last < line.bytes.length then p.paint lineColor (line.bytes.drop last) else []

/-- A line as it is shown; nothing if it is no text. -/
def shownLine? (s : Selection) (width : Nat) (name : Text) (line : JudgedLine) : Option Bytes :=
  let mark : UInt8 := if line.selected then 0x3A else 0x2D
  let isText (bytes : Bytes) : Bool := s.allText || !s.hasStrays bytes
  if s.report = .parts then
    if line.selected = s.inverted then some []
    else
      let parts := (s.partsOf line.bytes).map fun (i, j) =>
        (line.offset + i, (line.bytes.take j).drop i)
      if parts.all (isText ·.2) then
        some (parts.flatMap fun (offset, part) =>
          s.head width name mark line.number offset true ++ s.paint (·.matched) part ++ [s.feed])
      else none
  else if ¬ isText line.bytes then none
  else
    let shown := match s.colors with
      | some p => s.paintedLine p line
      | none => line.bytes
    some (s.head width name mark line.number line.offset (line.bytes ≠ []) ++ shown ++ [s.feed])

/-- The lines that stand near a selected line, or are one. -/
def nearby (s : Selection) (lines : List JudgedLine) : List JudgedLine :=
  if s.before = 0 ∧ s.after = 0 then lines.filter (·.selected)
  else
    let spread (r : List JudgedLine × Nat) (line : JudgedLine) : List JudgedLine × Nat :=
      if line.selected then (line :: r.1, s.after)
      else if 0 < r.2 then (line :: r.1, r.2 - 1)
      else ({ line with number := 0 } :: r.1, 0)
    -- Lines without a number are shown only if a selected line follows near.
    let marked := (lines.foldl spread ([], 0)).1
    let choose (r : List JudgedLine × Nat) (e : JudgedLine × JudgedLine) :
        List JudgedLine × Nat :=
      let (line, marked) := e
      if line.selected then (line :: r.1, s.before)
      else if marked.number ≠ 0 then (line :: r.1, r.2 - 1)
      else if 0 < r.2 then (line :: r.1, r.2 - 1)
      else (r.1, 0)
    ((lines.reverse.zip marked).foldl choose ([], 0)).1

/-- Lines as they are shown, with separators between groups, and whether one of them is no text.
    `last` is the number of the line before, if one has been shown at all. -/
def shownLines (s : Selection) (width : Nat) (name : Text) (last : Option Nat)
    (lines : List JudgedLine) : List Bytes × Bool :=
  let gap (last : Option Nat) (line : JudgedLine) : Bytes :=
    match last with
    | some n => if n + 1 = line.number then [] else
        s.separator.elim [] fun text => s.paint (·.mark) text ++ [10]
    | none => []
  let add (r : List Bytes × Option Nat × Bool) (line : JudgedLine) :
      List Bytes × Option Nat × Bool :=
    let (shown, last, strange) := r
    match s.shownLine? width name line with
    | some bytes => ((gap last line ++ bytes) :: shown, some line.number, strange)
    | none => (shown, last, true)
  let (shown, _, strange) := lines.foldl add ([], last, false)
  (shown.reverse, strange)

/-- How wide the columns of numbers are for an operand, whose size is known if it is a regular
    file. -/
def countWidth (s : Selection) (size : Option Nat) : Nat :=
  if ¬ s.tabbed then 0
  else match size with
    | some n => (Text.ofNat (n + if s.numbered then 1 else 0)).length
    | none => (Text.ofNat (numbersOf 64 - 1)).length

/-- What is said of one operand; `begun` says whether a line of another operand has been shown. The
    second result says whether a line was selected. -/
def accountOf (s : Selection) (c : Call) (begun : Bool) (size : Option Nat) (name : Text)
    (bytes : Bytes) : Account × Bool :=
  let binary := ¬ s.allText ∧ s.feed ≠ 0 ∧ bytes.contains 0
  -- In what is no text a zero ends a line, too.
  let bytes := if binary then bytes.map fun b => if b = 0 then s.feed else b else bytes
  let lines := if binary ∧ s.skipsBinary then [] else s.counted (s.linesOf bytes)
  let found := lines.countP (·.selected)
  let any := 0 < found
  let painted := s.paint (·.name) name.toBytes
  let ended : Bytes := painted ++ [if s.nulNames then 0 else 10]
  let remark : Account := c.complain 0 (name ++ ": binary file matches")
  let account : Account := match s.report with
    | .nothing => .silent 0
    | .nameIfAny => .output (if any then ended else [])
    | .nameIfNone => .output (if any then [] else ended)
    | .number =>
      let mark := painted ++ if s.nulNames then [0] else s.paint (·.mark) [0x3A]
      .output ((if s.named then mark else []) ++ Text.toBytes (Text.ofNat found ++ "\n"))
    | _ =>
      if binary then (if any then remark else .silent 0)
      else
        let last := if begun then some (lines.length + 1) else none
        let (shown, strange) := s.shownLines (s.countWidth size) name last (s.nearby lines)
        let account : Account := .output shown.flatten
        if strange ∧ ¬ s.skipsBinary then account.andThen remark else account
  (account, any)

/-- How many bytes of a pipe are read at once. -/
def pipeBlock : Nat := 65536

/-- How much of the standard input a selection takes: all, or up to the last line that may be
    selected. What comes down a pipe is taken in blocks. -/
def taken (s : Selection) (inlet : Inlet) (bytes : Bytes) : Nat :=
  let asks := s.report ∈ [.nothing, .nameIfAny, .nameIfNone]
  match s.most with
  | none => bytes.length
  | some 0 => 0
  | some most =>
    if asks ∧ inlet.isFile then bytes.length
    else match ((s.linesOf bytes).filter (·.selected))[most - 1]? with
      | none => bytes.length
      | some line =>
        let stop := min bytes.length (line.offset + line.bytes.length + 1)
        if inlet.isFile then stop
        else min bytes.length ((stop + pipeBlock - 1) / pipeBlock * pipeBlock)

end Selection

end LineShell
