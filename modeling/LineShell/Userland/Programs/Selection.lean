import LineShell.Userland.Programs.Count
import LineShell.Userland.Programs.Selection.Listing
import LineShell.Userland.Programs.Selection.Style
/-!
    The utility `grep`: the lines that match one of several patterns.

    Of each operand the selected lines are passed on, with lines around them if that is wanted, or
    the parts that match, or their number, or the operand's name. An operand that holds U+0000 is no
    text, and neither is a line with bytes that belong to no character: that there is a selected
    line is told, and the line is not shown. -/

namespace LineShell

/-! ### Options -/

/-- The words among the options of `grep`. -/
def selectionWords : List OptionWord :=
  [⟨"basic-regexp", "G", .never⟩, ⟨"extended-regexp", "E", .never⟩, ⟨"fixed-regexp", "F", .never⟩,
    ⟨"fixed-strings", "F", .never⟩, ⟨"perl-regexp", "P", .never⟩, ⟨"after-context", "A", .always⟩,
    ⟨"before-context", "B", .always⟩, ⟨"binary-files", "binary-files", .always⟩,
    ⟨"line-buffered", "line-buffered", .never⟩, ⟨"byte-offset", "b", .never⟩,
    ⟨"context", "C", .always⟩, ⟨"color", "color", .maybe⟩, ⟨"colour", "color", .maybe⟩,
    ⟨"count", "c", .never⟩, ⟨"devices", "D", .always⟩, ⟨"directories", "d", .always⟩,
    ⟨"exclude", "exclude", .always⟩, ⟨"exclude-from", "exclude-from", .always⟩,
    ⟨"exclude-dir", "exclude-dir", .always⟩, ⟨"file", "f", .always⟩,
    ⟨"files-with-matches", "l", .never⟩, ⟨"files-without-match", "L", .never⟩,
    ⟨"group-separator", "separator", .always⟩, ⟨"include", "include", .always⟩,
    ⟨"ignore-case", "i", .never⟩, ⟨"no-ignore-case", "no-ignore-case", .never⟩,
    ⟨"initial-tab", "T", .never⟩, ⟨"label", "label", .always⟩, ⟨"line-number", "n", .never⟩,
    ⟨"line-regexp", "x", .never⟩, ⟨"max-count", "m", .always⟩, ⟨"no-filename", "h", .never⟩,
    ⟨"no-group-separator", "no-separator", .never⟩, ⟨"no-messages", "s", .never⟩,
    ⟨"null", "Z", .never⟩, ⟨"null-data", "z", .never⟩, ⟨"only-matching", "o", .never⟩,
    ⟨"quiet", "q", .never⟩, ⟨"recursive", "r", .never⟩, ⟨"dereference-recursive", "R", .never⟩,
    ⟨"regexp", "e", .always⟩, ⟨"invert-match", "v", .never⟩, ⟨"silent", "q", .never⟩,
    ⟨"text", "a", .never⟩, ⟨"binary", "U", .never⟩, ⟨"unix-byte-offsets", "u", .never⟩,
    ⟨"with-filename", "H", .never⟩, ⟨"word-regexp", "w", .never⟩]

/-- The options of `grep`. -/
def selectionOptions : OptionTable :=
  .of ("0123456789EFGHILPTUVZabchilLnoqRrsuvwxyz".toList.map (·, .never)
      ++ "ABCDXdefm".toList.map (·, .always)) selectionWords false

/-- The number of lines that a text says, if it says one. -/
def contextCount? (text : Text) : Option Nat :=
  digitsValue? (text.dropWhile fun c => c = ' ' || c = '+')

/-- The words for what can be done with directories. -/
def directoryChoice : WordChoice DirectoryAction :=
  ⟨"directories", [("read", .read), ("recurse", .recurse), ("skip", .skip)]⟩

/-- How `grep` is called. -/
def selectionUsage : Text :=
  "Usage: grep [OPTION]... PATTERNS [FILE]...\nTry 'grep --help' for more information.\n"

/-- What is to be done with directories. -/
def directoryAction (c : Call) (o : Options) : DirectoryAction :=
  let action (e : String × Text) : Option DirectoryAction := match e.1 with
    | "r" | "R" => some .recurse
    | "d" => (directoryChoice.find c e.2).toOption
    | _ => none
  ((o.given.filterMap action).getLast?).getD .read

/-- The names of the ways to look for patterns. -/
def patternKinds : List (String × PatternKind) :=
  [("G", .basic), ("E", .extended), ("F", .literal), ("P", .ordered), ("grep", .basic),
    ("egrep", .extended), ("fgrep", .literal), ("awk", .extended), ("gawk", .extended),
    ("posixawk", .extended), ("perl", .ordered)]

/-- The kind of patterns that an option asks for. -/
def patternKind? (e : String × Text) : Option PatternKind :=
  if e.1 = "X" then patternKinds.lookup (String.ofList e.2)
  else if e.1.length = 1 then patternKinds.lookup e.1 else none

/-- What is wrong with the value of an option, or with an option after others. -/
def selectionFault (c : Call) (kind : Option PatternKind) (e : String × Text) : Option Account :=
  let isOne (words : List String) : Bool := words.any (·.toList = e.2)
  if e.1 ∈ ["A", "B", "C"] ∧ (contextCount? e.2).isNone then
    some (c.complain 2 (e.2 ++ ": invalid context length argument"))
  else if e.1 = "m" ∧ (signedDigits? (e.2.dropWhile (· = ' '))).isNone then
    some (c.complain 2 "invalid max count")
  else if e.1 = "d" then match directoryChoice.find c e.2 with
    | .ok _ => none
    | .error message => some ((c.complain 1 message).andThen (.error 1 selectionUsage))
  else if e.1 = "D" ∧ ¬ isOne ["read", "skip"] then
    some (c.complain 2 "unknown devices method")
  else if e.1 = "binary-files" ∧ ¬ isOne ["binary", "text", "without-match"] then
    some (c.complain 2 "unknown binary-files type")
  else match patternKind? e, kind with
    | some a, some b =>
      if a ≠ b then some (c.complain 2 "conflicting matchers specified") else none
    | none, _ => if e.1 = "X" then some (c.complain 2 ("invalid matcher " ++ e.2)) else none
    | some _, none => none

/-- What is warned of in an option that no longer does anything. -/
def obsoleteWarning (c : Call) (e : String × Text) : Account :=
  if e.1 = "u" then c.complain 0 "warning: --unix-byte-offsets (-u) is obsolete" else .silent 0

/-- What is wrong with the first option with which something is. -/
def selectionFaults (c : Call) : Option PatternKind → List (String × Text) → Option Account
  | _, [] => none
  | kind, e :: rest => match selectionFault c kind e with
    | some account => some account
    | none => (selectionFaults c (kind.orElse fun _ => patternKind? e) rest).map
        (obsoleteWarning c e).andThen

/-- The lines around a selected line on one side, by the letter of the side. Digits of options are
    one number. -/
def contextLines (o : Options) (letter : String) : Option Nat :=
  let add (r : Option Nat × Text) (e : String × Text) : Option Nat × Text :=
    if e.1 = "C" then (contextCount? e.2, [])
    else if e.1.length = 1 ∧ e.1.toList.all Char.isDigit then
      let digits := r.2 ++ e.1.toList
      (digitsValue? digits, digits)
    else (r.1, [])
  ((o.value? letter).bind contextCount?).orElse fun _ => (o.given.foldl add (none, [])).1

/-- The texts of patterns in the values of the options, or in the first operand; and the other
    operands. -/
def writtenPatterns (c : Call) (o : Options) :
    Except Account (Option (List WrittenPattern × List Text)) :=
  let plain (text : Text) : List WrittenPattern :=
    (cut 10 text.toBytes).map fun line => ⟨c.charset.read line, none⟩
  let one (e : String × Text) : Except Account (List WrittenPattern) :=
    if e.1 = "e" then .ok (plain e.2)
    else match c.contents true [e.2] with
      | (_, .error fault) :: _ => .error (c.complain 2 (e.2 ++ ": " ++ fault.reason))
      | (_, .ok bytes) :: _ => .ok (((feedLines 10 bytes).zipIdx 1).map fun (line, n) =>
          ⟨c.charset.read (if line.getLast? = some 10 then line.dropLast else line), some (e.2, n)⟩)
      | [] => .ok []
  match o.given.filter fun e => e.1 = "e" ∨ e.1 = "f", o.operands with
  | [], [] => .ok none
  | [], text :: operands => .ok (some (plain text, operands))
  | given, operands => (given.mapM one).map fun written => some (written.flatten, operands)

/-- The last of several options that is given. -/
def lastOf (o : Options) (names : List String) : Option String :=
  (o.given.filter (·.1 ∈ names)).getLast?.map (·.1)

/-- What is asked of the texts of patterns. -/
def PatternRequest.ofOptions (c : Call) (o : Options) : PatternRequest :=
  { kind := (o.given.findSome? patternKind?).getD .basic
    extent := if o.has "x" then .line else if o.has "w" then .word else .part
    caseless := (lastOf o ["i", "y", "no-ignore-case"]).any (· ≠ "no-ignore-case")
    charset := c.charset
    multiline := o.has "z" }

/-- When there are to be colors: always, never, or when somebody watches. -/
def colorTimes : List (String × Bool) :=
  [("always", true), ("yes", true), ("force", true), ("never", false), ("no", false),
    ("none", false), ("auto", false), ("tty", false), ("if-tty", false)]

/-- Whether there are to be colors by the value of an option; nothing if it is about other times. -/
def colorTime? (value : Text) : Option Bool :=
  (colorTimes.find? (·.1.toList = value.map Char.toLower)).map (·.2)

/-- The colors that are wanted, if there are to be any. -/
def wantedColors? (c : Call) (o : Options) : Option Palette :=
  let wanted : Bool := match (o.given.filter fun e => e.1 = "color" ∨ e.1 = "color=").getLast? with
    | some ("color=", value) => (colorTime? value).getD false
    | _ => false
  if !wanted then none
  else
    let value (name : Text) : Option Text := (c.vars.lookup name).filter (· ≠ [])
    let start : Palette := match value "GREP_COLOR" with
      | some color =>
        if color.all fun x => x.isDigit || x = ';' then
          { Palette.usual with matched := color, contextMatched := color }
        else .usual
      | none => .usual
    some (start.change ((value "GREP_COLORS").elim [] (cut ':')))

/-- What is warned of in the choice of colors. -/
def colorWarnings (c : Call) (o : Options) : Account :=
  let old := (c.vars.lookup "GREP_COLOR".toList).filter (· ≠ [])
  let named := ((c.vars.lookup "GREP_COLORS".toList).filter (· ≠ [])).isSome
  match wantedColors? c o, old with
  | some _, some color =>
    if named then .silent 0
    else c.complain 0 ("warning: GREP_COLOR='" ++ color
      ++ "' is deprecated; use GREP_COLORS='mt=" ++ color ++ "'")
  | _, _ => .silent 0

/-- The most lines that are to be selected. -/
def mostLines (o : Options) : Option Nat :=
  ((o.value? "m").bind fun t => signedDigits? (t.dropWhile (· = ' '))).bind fun (negative, n) =>
    if negative ∧ n ≠ 0 then none else some n

/-- The selection that options ask for. -/
def Selection.ofOptions (c : Call) (o : Options) (matcher : Matcher) (operands : List Text) :
    Selection :=
  let q := PatternRequest.ofOptions c o
  let before := contextLines o "B"
  let after := contextLines o "A"
  let report : SelectionReport :=
    if o.has "q" then .nothing
    else match lastOf o ["l", "L"] with
      | some "l" => .nameIfAny
      | some _ => .nameIfNone
      | none => if o.has "c" then .number else if o.has "o" then .parts else .lines
  let most := mostLines o
  let named := match lastOf o ["h", "H"] with
    | some name => name = "H"
    | none => 1 < operands.length || directoryAction c o = .recurse
        && (orInput operands).all fun operand => c.tree.isDirectory c.dir operand.toString
  let separator := match lastOf o ["separator", "no-separator"] with
    | some "separator" => (o.value? "separator").map Text.toBytes
    | some _ => none
    | none => some (Bytes.ofText "--")
  let binary := lastOf o ["a", "I", "binary-files"] |>.bind fun name =>
    if name = "binary-files" then (o.value? "binary-files").map String.ofList
    else some (if name = "a" then "text" else "without-match")
  { matcher, charset := q.charset, caseless := q.caseless, inverted := o.has "v", report
    most := if report ∈ [.nothing, .nameIfAny, .nameIfNone] ∧ most ≠ some 0 then some 1 else most
    before := before.getD 0
    after := after.getD 0
    separator := if before.isSome || after.isSome then separator else none
    named, numbered := o.has "n", offsets := o.has "b", tabbed := o.has "T"
    nulNames := o.has "Z", feed := if o.has "z" then 0 else 10
    allText := binary = some "text", skipsBinary := binary = some "without-match"
    quiet := o.has "s", label := (o.value? "label").getD "(standard input)"
    colors := wantedColors? c o }

/-! ### The utility -/

/-- One operand after the other: what is said of each, and whether a line was selected. -/
def selectFrom (c : Call) (s : Selection) :
    Bool → List (Text × Except Fault Bytes) → List (Account × Bool)
  | _, [] => []
  | begun, (operand, content) :: rest =>
    let name := if operand = inputOperand then s.label else operand
    match content with
    | .error fault =>
      let said := if s.quiet then .silent 2 else c.complain 2 (name ++ ": " ++ fault.reason)
      let empty := if fault.isUnreadable then (s.accountOf c begun none name []).1 else .silent 0
      (said.andThen empty, false) :: selectFrom c s begun rest
    | .ok bytes =>
      let shows := s.report ∈ [.lines, .parts, .number] ∧ s.most.all (1 < ·)
      if shows ∧ operand ≠ inputOperand ∧ bytes ≠ [] ∧ c.isOwnOutput operand then
        (c.complain 2 (name ++ ": input file is also the output"), false)
          :: selectFrom c s begun rest
      else
        let size := ((operandSize c operand).getD none)
        let result := s.accountOf c begun size name bytes
        if s.report = .nothing ∧ result.2 then [result]
        else result :: selectFrom c s (begun || result.2) rest

/-- How `grep` takes it that its output cannot be written. -/
def selectionSetback : Setback := ⟨2, some bufferSize, writeError⟩

/-- The rules about names that options give; the error is a file that was to hold some and cannot be
    read. -/
def readRules (c : Call) (o : Options) : Except Account (List NameRule) :=
  let lines (bytes : Bytes) : List Text := (cut 10 bytes).filterMap fun line =>
    let text := ((Text.ofBytes line).reverse.dropWhile Char.isWhitespace).reverse
    if text = [] then none else some text
  let one (e : String × Text) : Except Account (List NameRule) := match e.1 with
    | "include" => .ok [⟨true, e.2⟩]
    | "exclude" => .ok [⟨false, e.2⟩]
    | "exclude-from" => match c.contents true [e.2] with
      | (_, .ok bytes) :: _ => .ok ((lines bytes).map fun text => ⟨false, text⟩)
      | (_, .error fault) :: _ => .error (c.complain 2 (e.2 ++ ": " ++ fault.reason))
      | [] => .ok []
    | _ => .ok []
  (o.given.mapM one).map List.flatten

/-- How the files that are searched are chosen. -/
def fileChoice (c : Call) (o : Options) (rules : List NameRule) : FileChoice where
  action := directoryAction c o
  files := rules
  directories := (o.values "exclude-dir").map fun text =>
    ⟨false, if text.all (· = '/') then text else (text.reverse.dropWhile (· = '/')).reverse⟩
  followsLinks := lastOf o ["r", "R"] = some "R"
  skipsDevices := (o.value? "D").any (· = "skip".toList)

/-- What is selected from the operands of a call. -/
def selectOperands (c : Call) (o : Options) (s : Selection) (rules : List NameRule)
    (operands : List Text) : Account :=
  let listed := (fileChoice c o rules).listed c operands
  let results := selectFrom c s false (c.contents true listed)
  let account := Account.all (results.map (·.1))
  let found := results.any (·.2)
  let code := if account.code ≠ 0 ∧ ¬ (o.has "q" ∧ found) then account.code
    else if found then 0 else 1
  let taken := if inputOperand ∈ listed then s.taken c.streams.inlet c.streams.input else 0
  { account with code, taken }

/-- Whether nothing at all can be selected: no line is wanted, there is nothing to look for, or the
    lines without the empty text are wanted, which every line holds. -/
def selectsNothing (o : Options) (q : PatternRequest) (most : Option Nat)
    (texts : List (List Symbol)) : Bool :=
  let idle := match texts with
    | [] => !o.has "v"
    | texts => texts = [[]] && o.has "v" && q.extent = .part
  (most = some 0 || idle) && lastOf o ["l", "L"] ≠ some "L"

/-- The utility that selects lines. Its exit code tells whether there were any, or of an error. -/
def Utility.grep : Utility := ⟨selectionSetback, fun c =>
  let o := selectionOptions.read c.args
  let misuse (fault : OptionFault) : Account :=
    .all (o.given.map (obsoleteWarning c)
      ++ [c.complain 2 fault.message, .error 2 selectionUsage])
  match selectionFaults c none o.given, o.fault with
  | some account, _ => account
  | none, some fault => misuse fault
  | none, none =>
    let strange := (o.values "color=").any fun value => (colorTime? value).isNone
    if o.has "version" || o.has "V" then (Notice.ofSelection c.name).account
    else if strange || o.has "help" then .silent 0
    else match writtenPatterns c o with
      | .error account => account
      | .ok none => .error 2 selectionUsage
      | .ok (some (written, operands)) =>
        let texts := WrittenPattern.once written
        let q := PatternRequest.ofOptions c o
        let warned := Account.all (o.given.map (obsoleteWarning c))
        if selectsNothing o q (mostLines o) (texts.map (·.symbols)) then { warned with code := 1 }
        else
          let warned := warned.andThen (colorWarnings c o)
          match q.matcher texts, readRules c o with
          | _, .error account => account
          | .error messages, _ =>
            { warned.andThen (.all (messages.map (c.complain 2))) with code := 2 }
          | .ok (matcher, warnings), .ok rules =>
            let warned := warned.andThen
              (.all (warnings.map fun w => c.complain 0 ("warning: " ++ w.toList)))
            let account :=
              selectOperands c o (Selection.ofOptions c o matcher operands) rules operands
            { warned.andThen account with code := account.code }⟩

end LineShell
