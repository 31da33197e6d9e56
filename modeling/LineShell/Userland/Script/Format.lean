import LineShell.Userland.Script.Escape
import LineShell.Userland.Script.State
import LineShell.Userland.Text.Conversion
import LineShell.Text.Numeral
/-!
    The builtin that prints by a format.

    The format is used again as long as it takes arguments and there are any left. Arguments that
    are missing count as empty or zero. -/

namespace LineShell.Script

/-- What is left to print. -/
structure Printing where
  format : Text
  args : List Text
  /-- Something could not be converted. -/
  faulty : Bool
  /-- Nothing more is to be printed. -/
  stopped : Bool

/-- Printing, which takes formats and arguments. -/
abbrev Printer := StateT Printing Action

namespace Printer

/-- The next argument. -/
def next? : Printer (Option Text) := modifyGet fun p => match p.args with
  | [] => (none, p)
  | a :: args => (some a, { p with args })

/-- A message about an argument. -/
def warn (text : Text) : Printer Unit := do
  complain text
  modify fun p => { p with faulty := true }

/-- Tells if an argument is not all number. -/
def check (arg rest : Text) (converted inRange : Bool) : Printer Unit := do
  if rest ≠ [] then
    if converted then warn (arg ++ ": not completely converted")
    else warn (arg ++ ": expected numeric value")
  else if ¬ inRange then warn (arg ++ ": Numerical result out of range")

/-- The next argument as a number; after a quote it is the code of a character. -/
def whole (signed : Bool) : Printer Int := do
  match ← next? with
  | none => return 0
  | some arg => match arg with
    | q :: rest =>
      if q ∈ ['\x27', '\x22'] then return ((rest.head?.map Char.toNat).getD 0 : Nat)
      match scanNumber? arg with
      | none =>
        check arg arg false true
        return 0
      | some (negative, size, rest) =>
        let n : Int := if negative then -size else size
        let (value, inRange) : Int × Bool :=
          if signed then
            if n > greatest then (greatest, false) else if n < least then (least, false)
            else (n, true)
          else if size < numbersOf 64 then (n % numbersOf 64, true)
          else (numbersOf 64 - 1, false)
        check arg rest true inRange
        return value
    | [] => return 0

/-- The next argument as a number with a point. -/
def real : Printer Floating := do
  match ← next? with
  | none => return .finite false 0
  | some arg => match arg with
    | q :: rest =>
      if q ∈ ['\x27', '\x22'] then
        return .finite false ((rest.head?.map Char.toNat).getD 0 : Nat)
      match Floating.read? .double arg with
      | none =>
        check arg arg false true
        return .finite false 0
      | some (x, rest) =>
        check arg rest true true
        return x
    | [] => return .finite false 0

/-- Takes a part of the format. -/
def takeFormat (f : Char → Bool) : Printer Text := modifyGet fun p =>
  let taken := p.format.takeWhile f
  (taken, { p with format := p.format.drop taken.length })

/-- Takes a character of the format if it comes next. -/
def accept (c : Char) : Printer Bool := modifyGet fun p => match p.format with
  | d :: rest => if c = d then (true, { p with format := rest }) else (false, p)
  | [] => (false, p)

/-- A number in the format, or in the arguments where the format has a star; of that only its lowest
    32 bits count. -/
def measure : Printer (Option Int) := do
  if ← accept '*' then
    return some ((← whole true).bmod (numbersOf 32))
  let ds ← takeFormat fun c => c = '*' || c.isDigit
  return if ds = [] then none else some (digitsIn 10 (ds.filter Char.isDigit))

/-- How wide fields can be at most. -/
def widestField : Nat := numbersOf 31 - 64

/-- Says text that a conversion makes, unless its field would be too wide. -/
def sayField (c : Conversion) (text : Unit → Text) : Printer Unit := do
  let digits := c.precision.getD 0
  let most := if c.letter ∈ ['b', 's'] then numbersOf 31 - 1 else widestField
  if widestField < c.width ∨ most < digits then abort "xvsnprintf failed"
  say (text ())

/-- Prints by a conversion whose percent sign has been taken. -/
def convert : Printer Unit := do
  let before := (← get).format
  let flags ← takeFormat (· ∈ "#-+ 0".toList)
  let width := (← measure).getD 0
  let precision : Option Int ← if ← accept '.' then pure (some ((← measure).getD 0)) else pure none
  match (← get).format with
  | [] => abort "missing format character"
  | letter :: format =>
    modify fun p => { p with format }
    let written := '%' :: before.take (before.length - format.length)
    let c : Conversion :=
      ⟨if width < 0 then '-' :: flags else flags, width.natAbs,
        precision.bind fun n => if n < 0 then none else some n.toNat, letter⟩
    if letter = 'b' then
      let arg := (← next?).getD []
      let (text, stop) := unescape (arg.length + 1) arg
      sayField c fun _ => c.text text
      if stop then modify fun p => { p with stopped := true }
    else if letter = 'c' then
      let arg := (← next?).getD []
      sayField c fun _ => c.inField [arg.headD '\x00']
    else if letter = 's' then
      let arg := (← next?).getD []
      sayField c fun _ => c.text arg
    else if letter ∈ ['d', 'i'] then
      let n ← whole true
      sayField c fun _ => c.signed n
    else if letter ∈ ['o', 'u', 'x', 'X'] then
      let n ← whole false
      sayField c fun _ => c.unsigned n.toNat
    else if letter ∈ "aAeEfFgG".toList then
      let x ← real
      sayField c fun _ => c.real 0 x
    else abort (written ++ ": invalid directive")

/-- Prints one part of the format. -/
def part : Printer Unit := do
  let p ← get
  match p.format with
  | [] => return
  | '\\' :: rest =>
    let (c, format) := readEscape rest
    set { p with format }
    say [c]
  | '%' :: '%' :: rest =>
    set { p with format := rest }
    say ['%']
  | '%' :: rest =>
    set { p with format := rest }
    convert
  | _ =>
    let text ← takeFormat fun c => c ≠ '\\' && c ≠ '%'
    say text

/-- Prints by what is left of the format. -/
def through : Nat → Printer Unit
  | 0 => return
  | n + 1 => do
    let p ← get
    if p.format = [] ∨ p.stopped then return
    part
    through n

/-- Prints by a format until the arguments are used up. -/
def all (format : Text) : Nat → Printer Unit
  | 0 => return
  | n + 1 => do
    let before := (← get).args.length
    modify fun p => { p with format }
    through (format.length + 1)
    let p ← get
    if p.stopped ∨ p.args = [] ∨ p.args.length = before then return
    all format n

end Printer

/-- Prints arguments by a format; the exit code. -/
def printFormatted (format : Text) (args : List Text) : Action Nat := do
  let (_, p) ← (Printer.all format (args.length + 1)).run ⟨format, args, false, false⟩
  return if p.faulty then 1 else 0

end LineShell.Script
