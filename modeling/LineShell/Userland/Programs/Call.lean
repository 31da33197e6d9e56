import LineShell.Process
import LineShell.Userland.Programs.Notice
import LineShell.Userland.Programs.Options
import LineShell.Userland.Programs.QuotedName
/-!
    Calling a utility: what it is given, and what it says.

    A utility reads its operands, or the standard input for a dash and for no operand at all.
    Writing output to where nobody reads ends it by a signal, and output that cannot be written is
    an error of its own (`Utility.run`). -/

namespace LineShell

/-- What a utility is called with. -/
structure Call where
  /-- The name that the utility gives itself in its messages. -/
  name : Text
  args : List Text
  vars : RawVars
  dir : Seat
  signals : SignalMask
  streams : Streams
  tree : FileTree

/-- How the bytes of a call are taken for characters. -/
def Call.charset (c : Call) : Charset := .ofVars c.vars

/-- What a utility says: what it writes, how much of the standard input it takes, and its exit
    code. -/
structure Account where
  writes : List (Channel × Bytes)
  taken : Nat
  code : Nat
  /-- The files that it writes in the end. -/
  saves : List (Text × Bytes) := []
  /-- Whether all of it is written in the end, whatever the utility does otherwise. -/
  atEnd : Bool := false

namespace Account

/-- Nothing, with an exit code. -/
def silent (code : Nat) : Account := { writes := [], taken := 0, code }

/-- Output. -/
def output (bytes : Bytes) : Account := { writes := [(.output, bytes)], taken := 0, code := 0 }

/-- A message, with an exit code. -/
def error (code : Nat) (text : Text) : Account :=
  { writes := [(.error, text.toBytes)], taken := 0, code }

/-- Text as output. -/
def text (t : Text) : Account := output t.toBytes

/-- One account and then another. -/
def andThen (a b : Account) : Account :=
  ⟨a.writes ++ b.writes, a.taken + b.taken, max a.code b.code, a.saves ++ b.saves,
    a.atEnd || b.atEnd⟩

/-- Several accounts, one after the other. -/
def all (as : List Account) : Account := as.foldr andThen (silent 0)

/-- The account with so many bytes of the input taken. -/
def taking (a : Account) (n : Nat) : Account := { a with taken := n }

end Account

/-- When a utility finds out that its output cannot be written. -/
inductive Discovery where
  /-- As it writes; it stops there. -/
  | early
  /-- In the end. The reason is known only if the last that it wrote was output. -/
  | late (known : Bool)

/-- How a utility takes it that its output cannot be written. -/
structure Setback where
  code : Nat
  /-- How many bytes it keeps back before it writes any; nothing if it writes in the end only. -/
  kept : Option Nat
  /-- What it says, by its name. -/
  message : Text → Fault → Discovery → Text

/-- How many bytes a utility keeps back if it does not write at once. -/
def bufferSize : Nat := 4096

/-- The usual message about output that cannot be written. -/
def writeError (name : Text) (fault : Fault) (found : Discovery) : Text :=
  let known : Bool := match found with
    | .early => true
    | .late known => known
  name ++ ": write error" ++ (if known then ": " ++ fault.reason else "") ++ "\n"

/-- How most utilities take it that their output cannot be written. -/
def Setback.usual : Setback := ⟨1, none, writeError⟩

/-- A utility: what it says in a call. -/
structure Utility where
  setback : Setback
  account : Call → Account

/-- How a utility takes it that it cannot write what an account says: what is written in the end is
    no output to a utility that keeps only some of its output back. -/
def Setback.for (b : Setback) (a : Account) : Setback :=
  if a.atEnd ∧ b.kept.isSome then ⟨b.code, none, writeError⟩ else b

/-- Whether a write is output that holds something. -/
def isOutput (w : Channel × Bytes) : Bool := w.1 = .output && w.2 ≠ []

/-- The account without its output. -/
def Account.withoutOutput (a : Account) : Account :=
  { a with writes := a.writes.filter (¬ isOutput ·) }

/-- The messages before output is more than is kept back; none if it is never more. -/
def messagesBefore? (kept : Nat) : List (Channel × Bytes) → Option (List (Channel × Bytes))
  | [] => none
  | w :: rest =>
    if ¬ isOutput w then (messagesBefore? kept rest).map (w :: ·)
    else if kept < w.2.length then some []
    else messagesBefore? (kept - w.2.length) rest

/-- What is said when output cannot be written. A utility that keeps nothing back looks first
    whether there is a place to write to. -/
def Setback.apply (b : Setback) (name : Text) (fault : Fault) (a : Account) : Account :=
  let say (found : Discovery) : List (Channel × Bytes) :=
    [(.error, (b.message name fault found).toBytes)]
  let writes :=
    if b.kept = some 0 ∧ fault = .badDescriptor then say .early
    else match b.kept.bind (messagesBefore? · a.writes) with
      | some before => before ++ say .early
      | none => a.withoutOutput.writes
          ++ say (.late (fault = .badDescriptor || a.writes.getLast?.any isOutput))
  { a with writes := writes, code := b.code }

/-- The writes up to the one for whose output there is no room any more; none if there is room for
    all of it. -/
def writesWithin? (room : Nat) : List (Channel × Bytes) → Option (List (Channel × Bytes))
  | [] => none
  | w :: rest =>
    if ¬ isOutput w then (writesWithin? room rest).map (w :: ·)
    else if room < w.2.length then some [(w.1, w.2.take room)]
    else (writesWithin? (room - w.2.length) rest).map (w :: ·)

/-- What a utility does in the place where it is called. -/
def Utility.run (u : Utility) (c : Call) : Execution :=
  let a := u.account c
  let finish (a : Account) : Execution :=
    let save (t : FileTree) (f : Text × Bytes) := (t.writeFile c.dir f.1.toString false f.2).2
    ⟨a.writes, a.taken, a.saves.foldl save c.tree, .exited a.code⟩
  let speaks := a.writes.any isOutput
  let setback := u.setback.for a
  match c.streams.output with
  | .pipe room => match writesWithin? room a.writes with
    | none => finish a
    | some writes =>
      if c.signals.hides brokenPipeSignal then finish (setback.apply c.name .brokenPipe a)
      else { finish a with writes, status := .signaled brokenPipeSignal }
  | .full => finish (if speaks then setback.apply c.name .noSpace a else a)
  | .closed =>
    finish (if speaks ∨ setback.kept = some 0 then setback.apply c.name .badDescriptor a else a)
  | _ => finish a

/-! ### Operands -/

/-- The operand that stands for the standard input. -/
def inputOperand : Text := ['-']

/-- The operands, or the standard input if there are none. -/
def orInput (operands : List Text) : List Text :=
  if operands = [] then [inputOperand] else operands

/-- What the standard input holds. -/
def Streams.contents (s : Streams) : Except Fault Bytes :=
  match s.inlet with
  | .directory => .error .isDirectory
  | .writeOnly => .error .notReadable
  | .closed => .error .badDescriptor
  | _ => .ok s.input

/-- What a file holds. -/
def Call.read (c : Call) (path : Text) : Except Fault Bytes := c.tree.read c.dir path.toString

/-- What each operand holds. The standard input can be read only once. -/
def Call.contents (c : Call) : Bool → List Text → List (Text × Except Fault Bytes)
  | _, [] => []
  | unread, name :: rest =>
    if name = inputOperand then
      (name, c.streams.contents.map fun bytes => if unread then bytes else [])
        :: c.contents false rest
    else (name, c.read name) :: c.contents unread rest

/-- How much of the standard input is taken when operands are read to their ends. -/
def Call.takenBy (c : Call) (operands : List Text) : Nat :=
  if inputOperand ∈ operands then c.streams.input.length else 0

/-- What a utility says in the end that was given no standard input and wanted it. -/
def Call.closing (c : Call) (operands : List Text) (what : Text) : Account :=
  if inputOperand ∈ operands ∧ c.streams.inlet = .closed then
    .error 1 (c.name ++ ": " ++ what ++ ": " ++ Fault.badDescriptor.reason ++ "\n")
  else .silent 0

/-- Where to look for help. -/
def Call.hint (c : Call) : Text := "Try '" ++ c.name ++ " --help' for more information.\n"

/-- A message with the name of the utility. -/
def Call.complain (c : Call) (code : Nat) (text : Text) : Account :=
  .error code (c.name ++ ": " ++ text ++ "\n")

/-- A message about how the utility is called. -/
def Call.misuse (c : Call) (code : Nat) (text : Text) : Account :=
  (c.complain code text).andThen (.error code c.hint)

/-- What a utility says that tells of itself. -/
def Notice.account (n : Notice) : Account := { Account.text n.text with atEnd := true }

/-- What is said at once of the options of a call, if something is: that something is wrong with an
    option or, as `check` finds, with the value of one before it. An option that asks for help or
    for the version is obeyed at once. -/
def Options.objection? (o : Options) (n : Notice) (check : Options → Option Account)
    (misuse : OptionFault → Account) : Option Account :=
  let asks (e : String × Text) : Bool := e.1 = "help" || e.1 = "version"
  let before := { o with given := o.given.takeWhile (¬ asks ·) }
  match check before, o.given.find? asks with
  | some account, _ => some account
  | none, some e => some (if e.1 = "version" then n.account else .silent 0)
  | none, none => o.fault.map misuse

/-- What is said with the options of a call, unless something is to be said of them at once. -/
def Call.withOptions (c : Call) (n : Notice) (g : OptionTable) (code : Nat)
    (check : Options → Option Account) (body : Options → Account) : Account :=
  let o := g.read c.args
  (o.objection? n check fun fault => c.misuse code fault.message).getD (body o)

end LineShell
