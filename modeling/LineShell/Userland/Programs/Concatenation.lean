import LineShell.Userland.Programs.Call
/-!
    The utility `cat`: operands passed on one after the other.

    On the way lines can be numbered, blank lines that repeat dropped, and bytes that cannot be
    seen shown by others. Lines are counted through all operands, and an operand that ends within a
    line leaves the line to the next. A carriage return is part of the end of its line if the line
    feed is the next byte, be it in the next operand, so it is held back until that is known. -/

namespace LineShell

/-- What is done to bytes on their way. -/
structure Finish where
  numbersAll : Bool
  numbersFilled : Bool
  marksEnds : Bool
  squeezes : Bool
  showsTabs : Bool
  showsHidden : Bool
  deriving DecidableEq

/-- What the options ask for. -/
def Finish.ofOptions (o : Options) : Finish :=
  let any (names : List String) : Bool := names.any o.has
  let filled := o.has "b"
  ⟨o.has "n" && !filled, filled, any ["A", "e", "E"], o.has "s", any ["A", "t", "T"],
    any ["A", "e", "t", "v"]⟩

/-- Whether bytes pass as they are. -/
def Finish.isPlain (f : Finish) : Bool := f = ⟨false, false, false, false, false, false⟩

/-- Where a writer of lines stands. -/
structure LinePlace where
  /-- How many blank lines stand before, at the start of a line; nothing within a line. -/
  blanks : Option Nat
  /-- How many lines have a number. -/
  number : Nat
  /-- Whether a carriage return has been held back. -/
  held : Bool

/-- Before the first line. -/
def LinePlace.start : LinePlace := ⟨some 0, 0, false⟩

/-- A byte below 128 so that it can be seen. -/
def caret (b : UInt8) : Bytes :=
  if b = 0x7F then [0x5E, 0x3F] else if b < 0x20 then [0x5E, b + 0x40] else [b]

/-- A byte other than a line feed so that it can be seen. -/
def Finish.shown (f : Finish) (b : UInt8) : Bytes :=
  if b = 9 then (if f.showsTabs then caret b else [b])
  else if ¬ f.showsHidden then [b]
  else if b < 0x80 then caret b
  else [0x4D, 0x2D] ++ caret (b - 0x80)

/-- The number before a line. -/
def numberMark (n : Nat) : Bytes :=
  let digits := toString n
  Bytes.ofText (String.ofList (List.replicate (6 - digits.length) ' ') ++ digits ++ "\t")

/-- What is written for one byte, and where the writer stands after it. -/
def Finish.step (f : Finish) (p : LinePlace) (b : UInt8) : Bytes × LinePlace :=
  let numbered (wanted : Bool) : Bytes × Nat :=
    if wanted then (numberMark (p.number + 1), p.number + 1) else ([], p.number)
  if b = 10 then
    let blank := p.blanks.isSome
    if f.squeezes ∧ p.blanks.any (0 < ·) then ([], p)
    else
      let (mark, number) := numbered (blank && f.numbersAll)
      let ending := (if p.held then caret 13 else []) ++ (if f.marksEnds then [0x24] else [])
      (mark ++ ending ++ [10], ⟨some (p.blanks.elim 0 (· + 1)), number, false⟩)
  else
    let (mark, number) := numbered (p.blanks.isSome && (f.numbersAll || f.numbersFilled))
    let holds := b = 13 && f.marksEnds && !f.showsHidden
    ((if p.held then [13] else []) ++ mark ++ (if holds then [] else f.shown b),
      ⟨none, number, holds⟩)

/-- Bytes on their way, and where the writer stands after them. -/
def Finish.apply (f : Finish) (p : LinePlace) (bytes : Bytes) : Bytes × LinePlace :=
  let add (r : List Bytes × LinePlace) (b : UInt8) : List Bytes × LinePlace :=
    let (written, p) := f.step r.2 b
    (written :: r.1, p)
  let (pieces, p) := bytes.foldl add ([], p)
  (pieces.reverse.flatten, p)

/-- The message about an operand that cannot be read. -/
def operandError (c : Call) (code : Nat) (operand : Text) (fault : Fault) : Account :=
  c.complain code (c.charset.quotedName operand ++ ": " ++ fault.reason)

/-- The place of an operand that is a file. -/
def Call.operandPlace? (c : Call) (operand : Text) : Option Place :=
  if operand = inputOperand then match c.streams.inlet with
    | .file p _ => p
    | _ => none
  else (c.tree.find c.dir operand.toString).toOption.map (·.place)

/-- Whether an operand is the file that the output goes to. -/
def Call.isOwnOutput (c : Call) (operand : Text) : Bool :=
  match c.streams.output with
  | .file p => c.operandPlace? operand = some p
  | _ => false

/-- Passes on operands; `begun` says that something has been written before. A file that the output
    goes to is passed on only if nothing could be read twice. -/
def passOn (c : Call) (f : Finish) :
    Bool → LinePlace → List (Text × Except Fault Bytes) → List Account
  | _, p, [] => if p.held then [.output [13]] else []
  | begun, p, (name, .error fault) :: rest => operandError c 1 name fault :: passOn c f begun p rest
  | begun, p, (name, .ok bytes) :: rest =>
    if (bytes ≠ [] ∨ begun) ∧ c.isOwnOutput name then
      c.complain 1 (c.charset.quotedName name ++ ": input file is output file")
        :: passOn c f begun p rest
    else
      let (shown, p) := if f.isPlain then (bytes, p) else f.apply p bytes
      .output shown :: passOn c f (begun || shown ≠ []) p rest

/-- The options of `cat`. -/
def catOptions : OptionTable :=
  .of ("beEnstTuvA".toList.map (·, .never))
    [⟨"number-nonblank", "b", .never⟩, ⟨"number", "n", .never⟩, ⟨"squeeze-blank", "s", .never⟩,
      ⟨"show-nonprinting", "v", .never⟩, ⟨"show-ends", "E", .never⟩, ⟨"show-tabs", "T", .never⟩,
      ⟨"show-all", "A", .never⟩] false

/-- How `cat` takes it that its output cannot be written. -/
def catSetback : Setback :=
  let message (name : Text) (fault : Fault) (found : Discovery) : Text :=
    if fault = .badDescriptor then name ++ ": standard output: " ++ fault.reason ++ "\n"
    else writeError name fault found
  ⟨1, some 0, message⟩

/-- The utility that passes on its operands one after the other. -/
def Utility.cat : Utility := ⟨catSetback, fun c =>
  let first := if c.charset = .utf8 then "Torbjörn Granlund" else "Torbjorn Granlund"
  let notice := Notice.madeBy "cat" [first, "Richard M. Stallman"]
  c.withOptions notice catOptions 1 (fun _ => none) fun o =>
    let operands := orInput o.operands
    let accounts := passOn c (.ofOptions o) false .start (c.contents true operands)
    ((Account.all accounts).andThen (c.closing operands "closing standard input")).taking
      (c.takenBy operands)⟩

end LineShell
