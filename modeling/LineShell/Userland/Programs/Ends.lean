import LineShell.Userland.Programs.Choice
import LineShell.Userland.Programs.Concatenation
import LineShell.Userland.Text.Floating
import LineShell.Userland.Text.Size
/-!
    The utilities `head` and `tail`: one end of each operand.

    An extent says how much of an operand that is: so many lines or bytes from an end, or all but
    so many from the other one. Several operands have a line with their name before them. -/

namespace LineShell

/-- How much is passed on. -/
structure Extent where
  /-- Whether the count is from the other end: what is left out, or where it starts. -/
  turned : Bool
  count : Nat
  inBytes : Bool

/-- How many lines are passed on when nothing is said. -/
def defaultLineCount : Nat := 10

/-- How an end of operands is written. -/
structure EndStyle where
  extent : Extent
  /-- Whether operands have headers; when nothing is said, if there are several. -/
  headed : Option Bool
  /-- What ends a line. -/
  feed : UInt8

/-- Ten lines. -/
def EndStyle.start : EndStyle := ⟨⟨false, defaultLineCount, false⟩, none, 10⟩

/-- Bytes in lines, each with its end if it has one. -/
def feedLines (feed : UInt8) (bytes : Bytes) : List Bytes :=
  let pieces := cut feed bytes
  pieces.dropLast.map (· ++ [feed]) ++ pieces.getLast?.toList.filter (· ≠ [])

/-- The units that are counted. -/
def EndStyle.units (s : EndStyle) (bytes : Bytes) : List Bytes :=
  if s.extent.inBytes then bytes.map ([·]) else feedLines s.feed bytes

/-- The start of some bytes. -/
def EndStyle.head (s : EndStyle) (bytes : Bytes) : Bytes :=
  let units := s.units bytes
  let n := if s.extent.turned then units.length - s.extent.count else s.extent.count
  (units.take n).flatten

/-- The end of some bytes. -/
def EndStyle.tail (s : EndStyle) (bytes : Bytes) : Bytes :=
  let units := s.units bytes
  let n := if s.extent.turned then s.extent.count - 1 else units.length - s.extent.count
  (units.drop n).flatten

/-- How many bytes a program takes from a stream at a time. -/
def blockSize : Nat := 8192

/-- How much of some input the start of it takes. What comes down a pipe is taken in blocks, and
    cannot be put back. -/
def EndStyle.headTaken (s : EndStyle) (inlet : Inlet) (input : Bytes) : Nat :=
  let part := (s.head input).length
  if inlet.isFile ∨ s.extent.inBytes ∧ ¬ s.extent.turned then part
  else if s.extent.count = 0 ∧ ¬ s.extent.turned then 0
  else if s.extent.turned then input.length
  else min input.length ((part + blockSize - 1) / blockSize * blockSize)

/-- What each operand holds if the standard input is read as often as it is named, and how much of
    the input is taken in all. -/
def EndStyle.headContents (s : EndStyle) (c : Call) :
    Nat → List Text → List (Text × Except Fault Bytes) × Nat
  | taken, [] => ([], taken)
  | taken, operand :: rest =>
    let input := c.streams.input.drop taken
    let own := operand = inputOperand
    let content := if own then c.streams.contents.map fun _ => input
      else c.read operand
    let more := if own then s.headTaken c.streams.inlet input else 0
    let (contents, taken) := s.headContents c (taken + more) rest
    ((operand, content) :: contents, taken)

/-! ### Operands -/

/-- The name of an operand in headers and messages. -/
def shownOperand (operand : Text) : Text :=
  if operand = inputOperand then "standard input" else operand

/-- The line that names an operand. -/
def operandHeader (first : Bool) (operand : Text) : Text :=
  (if first then "" else "\n") ++ ("==> " ++ shownOperand operand ++ " <==\n")

/-- Parts of operands, with a header for each if that is wanted. `absent` is what cannot be done
    with a standard input that is closed, and `stops` says that nothing comes after a directory. -/
def operandParts (c : Call) (part : Bytes → Bytes) (headed stops : Bool) (absent : Text) :
    Bool → List (Text × Except Fault Bytes) → List Account
  | _, [] => []
  | first, (name, content) :: rest =>
    let header : Account := .text (if headed then operandHeader first name else [])
    let after (first : Bool) : List Account := operandParts c part headed stops absent first rest
    match content with
    | .ok bytes => header :: .output (part bytes) :: after false
    | .error fault =>
      let shown := c.charset.nameInQuotes (shownOperand name)
      if fault.isUnreadable then
        header :: c.complain 1 ("error reading " ++ shown ++ ": " ++ fault.reason)
          :: if stops then [] else after false
      else if fault = .badDescriptor ∧ name = inputOperand then
        header :: c.complain 1 (absent ++ " " ++ shown ++ ": " ++ fault.reason) :: after false
      else
        c.complain 1 ("cannot open " ++ shown ++ " for reading: " ++ fault.reason)
          :: after first

/-! ### Options -/

/-- The options of a utility that passes on one end. -/
def endOptions (letters : List (Char × Valued)) (words : List OptionWord) : OptionTable :=
  .of ([('c', .always), ('n', .always), ('q', .never), ('v', .never), ('z', .never)]
      ++ "0123456789".toList.map (·, .never) ++ letters)
    ([⟨"bytes", "c", .always⟩, ⟨"lines", "n", .always⟩, ⟨"quiet", "q", .never⟩,
      ⟨"silent", "q", .never⟩, ⟨"verbose", "v", .never⟩, ⟨"zero-terminated", "z", .never⟩]
      ++ words) false

/-- The style after one more option, unless its value is no count. `mark` is the sign before a
    count that turns it. -/
def EndStyle.change (mark : Char) (s : EndStyle) (name : String) (value : Text) :
    Except (Text × SizeFault) EndStyle :=
  match name with
  | "q" => .ok { s with headed := some false }
  | "v" => .ok { s with headed := some true }
  | "z" => .ok { s with feed := 0 }
  | _ =>
    if name ∉ ["c", "n"] then .ok s
    else
      let body := if value.head? = some '-' then value.drop 1 else value
      match readSize body with
      | .ok n =>
        let turned := value.head? = some mark || (mark = '+' && s.extent.turned)
        .ok { s with extent := ⟨turned, n, name = "c"⟩ }
      | .error fault => .error (body, fault)

/-- Whether an option is a digit. -/
def isDigitOption (name : String) : Bool := name.toList.any Char.isDigit

/-- The style that options ask for; `fault?` says what is wrong with an option that does not change
    it. -/
def readStyle (c : Call) (mark : Char) (fault? : String → Text → Option Account) :
    EndStyle → List (String × Text) → Except Account EndStyle
  | s, [] => .ok s
  | s, (name, value) :: rest => match fault? name value with
    | some account => .error account
    | none => match s.change mark name value with
      | .ok s => readStyle c mark fault? s rest
      | .error (text, fault) => .error (c.complain 1 ("invalid number of "
          ++ (if name = "c" then "bytes: " else "lines: ") ++ c.charset.quotedWord text
          ++ fault.message))

/-- A utility that passes on an end of its operands: with a style from its options, parts of its
    operands. -/
def Call.passOnEnds (c : Call) (n : Notice) (table : OptionTable) (start : EndStyle)
    (read : EndStyle → List (String × Text) → Except Account EndStyle)
    (body : EndStyle → Options → Account) : Account :=
  let check (o : Options) : Option Account := match read start o.given with
    | .error account => some account
    | .ok _ => none
  c.withOptions n table 1 check fun o => match read start o.given with
    | .error account => account
    | .ok s => body s o

/-! ### The start -/

/-- The style that letters after digits ask for, and the multiple of the digits; the error is a
    letter that means nothing there. -/
def readDigitLetters : EndStyle → Text → Text → Except Char (EndStyle × Text)
  | s, multiple, [] => .ok (s, multiple)
  | s, multiple, letter :: rest =>
    let counted (inBytes : Bool) : EndStyle := { s with extent := { s.extent with inBytes } }
    match letter with
    | 'c' => readDigitLetters (counted true) [] rest
    | 'b' | 'k' | 'm' => readDigitLetters (counted true) [letter] rest
    | 'l' => readDigitLetters (counted false) multiple rest
    | 'q' => readDigitLetters { s with headed := some false } multiple rest
    | 'v' => readDigitLetters { s with headed := some true } multiple rest
    | 'z' => readDigitLetters { s with feed := 0 } multiple rest
    | _ => .error letter

/-- The style that a first argument of a dash, digits and letters asks for, and the arguments that
    are left. -/
def readHeadCount (c : Call) : Except Account (EndStyle × List Text) :=
  match c.args with
  | [] => .ok (.start, [])
  | arg :: rest => match arg with
    | '-' :: d :: ds =>
      if ¬ d.isDigit then .ok (.start, arg :: rest)
      else
        let digits := (d :: ds).takeWhile Char.isDigit
        match readDigitLetters .start [] ((d :: ds).drop digits.length) with
        | .error letter => .error
            (c.misuse 1 ("invalid trailing option -- " ++ [letter]))
        | .ok (s, multiple) =>
          let name := if s.extent.inBytes then "c" else "n"
          (readStyle c '-' (fun _ _ => none) s [(name, digits ++ multiple)]).map (·, rest)
    | _ => .ok (.start, arg :: rest)

/-- How `head` and `tail` take it that their output cannot be written. -/
def endSetback : Setback :=
  let message (name : Text) (fault : Fault) (found : Discovery) : Text :=
    if found matches .early then
      name ++ ": error writing 'standard output': " ++ fault.reason ++ "\n"
    else writeError name fault found
  ⟨1, some (bufferSize - 1), message⟩

/-- The utility that passes on how its operands start. -/
def Utility.head : Utility := ⟨endSetback, fun c =>
  match readHeadCount c with
  | .error account => account
  | .ok (start, args) =>
    let fault? (name : String) (_ : Text) : Option Account :=
      if isDigitOption name then some (c.misuse 1 ("invalid trailing option -- " ++ name)) else none
    let c : Call := { c with args := args }
    let notice := Notice.madeBy "head" ["David MacKenzie", "Jim Meyering"]
    c.passOnEnds notice (endOptions [] []) start (readStyle c '-' fault?) fun s o =>
        let operands := orInput o.operands
        let headed := s.headed.getD (1 < operands.length)
        let nothing := s.extent.count = 0 ∧ ¬ s.extent.turned
        let (contents, taken) := s.headContents c 0 operands
        let contents := contents.map fun (name, content) =>
          (name, match content with
            | .error .isDirectory | .error .notReadable | .error .badDescriptor =>
              if nothing then .ok [] else content
            | content => content)
        let absent := if s.extent.turned then "cannot fstat" else "error reading"
        let parts := operandParts c s.head headed false absent true contents
        ((Account.all parts).andThen (c.closing operands "-")).taking taken⟩

/-! ### The end -/

/-- The extent that a first argument of a sign, digits and letters asks for; nothing if it is an
    option or an operand. The error is an argument whose number is too large. -/
def readTailCount (args : List Text) : Except Text (Option Extent) :=
  let alone : Bool := match args with
    | [_] => true
    | [_, ['-', '-']] | [_, ['-', '-'], _] => true
    | [_, other] => ¬ (other.head? = some '-' ∧ 1 < other.length)
    | _ => false
  match args.head? with
  | some (sign :: body) =>
    let digits := body.takeWhile Char.isDigit
    let letters := body.drop digits.length
    let unit := letters.head?.filter (· ∈ ['b', 'c', 'l'])
    let rest := if unit.isSome then letters.drop 1 else letters
    let option := sign = '-' ∧ (body = [] ∨ body = ['c'])
    if ¬ alone ∨ sign ∉ ['+', '-'] ∨ option ∨ ¬ (rest = [] ∨ rest = ['f']) then .ok none
    else
      let scale := if unit = some 'b' then 512 else 1
      let count := (digitsValue? digits).getD defaultLineCount * scale
      if numbersOf 64 ≤ count then .error (sign :: body)
      else .ok (some ⟨sign = '+', count, unit = some 'b' ∨ unit = some 'c'⟩)
  | _ => .ok none

/-- The options of `tail`. Nothing is followed after its end. -/
def tailOptions : OptionTable :=
  endOptions [('f', .never), ('F', .never), ('s', .always)]
    [⟨"follow", "follow", .maybe⟩, ⟨"retry", "retry", .never⟩, ⟨"sleep-interval", "s", .always⟩,
      ⟨"pid", "pid", .always⟩, ⟨"max-unchanged-stats", "max", .always⟩]

/-- Whether a text is a time in seconds. -/
def isSeconds (text : Text) : Bool :=
  match Floating.read? .double text with
  | some (.finite negative value, []) => !negative || value = 0
  | some (.infinite negative, []) => !negative && text.any Char.isAlpha
  | _ => false

/-- The number below a limit that a text writes, or why it is none. -/
def readBounded (limit : Nat) (text : Text) : Except SizeFault Nat :=
  match digitsValue? (if text.head? = some '+' then text.drop 1 else text) with
  | none => .error .invalid
  | some n => if n < limit then .ok n else .error .tooLarge

/-- What can be followed: what was opened, or whatever has the name. -/
def followChoice : WordChoice Bool := ⟨"follow", [("descriptor", false), ("name", true)]⟩

/-- What `tail` finds wrong with an option that changes no style. -/
def tailFault? (c : Call) (name : String) (value : Text) : Option Account :=
  let shown := c.charset.quotedWord value
  let bounded (what : Text) (limit : Nat) : Option Account :=
    match readBounded limit value with
    | .ok _ => none
    | .error fault => some (c.complain 1 ("invalid " ++ what ++ ": " ++ shown ++ fault.message))
  if isDigitOption name then
    some (c.complain 1 ("option used in invalid context -- " ++ name))
  else match name with
    | "s" => if isSeconds value then none
      else some (c.complain 1 ("invalid number of seconds: " ++ shown))
    | "pid" => bounded "PID" (numbersOf 31)
    | "max" => bounded "maximum number of unchanged stats between opens" (numbersOf 64)
    | "follow=" => match followChoice.find c value with
      | .ok _ => none
      | .error message => some (c.misuse 1 message)
    | _ => none

/-- What `tail` warns of: options that mean something only when files are followed. -/
def tailWarnings (c : Call) (o : Options) : Account :=
  let retries := o.has "retry" || o.has "F"
  let follows := o.given.filter fun e => ["f", "F", "follow", "follow="].contains e.1
  let byName : Bool := match follows.getLast? with
    | some ("F", _) => true
    | some ("follow=", value) => value.head? = some 'n'
    | _ => false
  let watched := (o.value? "pid").any fun value => value.any (· ≠ '0')
  let warn (wanted : Bool) (text : Text) : Account :=
    if wanted then c.complain 0 ("warning: " ++ text) else .silent 0
  .all
    [warn (retries && follows = []) "--retry ignored; --retry is useful only when following",
      warn (retries && follows ≠ [] && !byName) "--retry only effective for the initial open",
      warn (watched && follows = [])
        "PID ignored; --pid=PID is useful only when following",
      if byName && (orInput o.operands).contains inputOperand then
        c.complain 1 ("cannot follow " ++ c.charset.quotedWord inputOperand ++ " by name")
      else .silent 0]

/-- The utility that passes on how its operands end. -/
def Utility.tail : Utility := ⟨endSetback, fun c =>
  match readTailCount c.args with
  | .error arg => c.complain 1
      ("invalid number: " ++ c.charset.quotedWord arg ++ ": Numerical result out of range")
  | .ok given =>
    let start : EndStyle := { EndStyle.start with extent := given.getD EndStyle.start.extent }
    let c := { c with args := if given.isSome then c.args.drop 1 else c.args }
    let makers := ["Paul Rubin", "David MacKenzie", "Ian Lance Taylor", "Jim Meyering"]
    let notice := Notice.madeBy "tail" makers
    c.passOnEnds notice tailOptions start (readStyle c '+' (tailFault? c)) fun s o =>
      let operands := orInput o.operands
      let warnings := tailWarnings c o
      if warnings.code ≠ 0 ∨ s.extent.count = 0 ∧ ¬ s.extent.turned then warnings
      else
        let headed := s.headed.getD (1 < operands.length)
        let parts := operandParts c s.tail headed s.extent.inBytes "cannot fstat" true
          (c.contents true operands)
        (((warnings).andThen (Account.all parts)).andThen (c.closing operands "-")).taking
          (c.takenBy operands)⟩

end LineShell
