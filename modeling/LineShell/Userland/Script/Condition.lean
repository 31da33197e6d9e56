import LineShell.Userland.Script.State
/-!
    Conditions that scripts test.

    With up to four words the number of words decides what an operator is; otherwise `-o` binds
    weaker than `-a`, and that weaker than `!`. -/

namespace LineShell.Script

/-- What kind of operator a word is. -/
inductive Operator where
  | unary
  | binary
  | bang
  | both
  | either
  | open
  | close
  deriving DecidableEq

/-- The operators that take one operand. -/
def unaryOperators : List String :=
  ["-r", "-w", "-x", "-e", "-f", "-d", "-c", "-b", "-p", "-u", "-g", "-k", "-s", "-t", "-z",
   "-n", "-h", "-O", "-G", "-L", "-S"]

/-- The operators that take two operands. -/
def binaryOperators : List String :=
  ["=", "!=", "<", ">", "-eq", "-ne", "-ge", "-gt", "-le", "-lt", "-nt", "-ot", "-ef"]

/-- The operator that a word is. -/
def operator? (word : Text) : Option Operator :=
  let name := String.ofList word
  if name ∈ unaryOperators then some .unary
  else if name ∈ binaryOperators then some .binary
  else match name with
    | "!" => some .bang
    | "-a" => some .both
    | "-o" => some .either
    | "(" => some .open
    | ")" => some .close
    | _ => none

/-- Whether a word is an operator that stands between two others. -/
def isBinary (word : Option Text) : Bool := (word.bind operator?) = some .binary

/-- The part that the first of some words plays: none if there is no word, an operand, or an
    operator. A unary operator is an operand before a binary one and before nothing. -/
def role (words : List Text) : Option (Option Operator) :=
  match words with
  | [] => none
  | word :: rest => match operator? word with
    | some .unary =>
      if rest = [] ∨ (1 < rest.length ∧ isBinary rest.head?) then some none else some (some .unary)
    | some .open => if rest = [] then some none else some (some .open)
    | op => some op

/-- Whether a file passes a test. -/
def fileTest (s : State) (op : String) (path : Text) : Bool :=
  let name := Text.toString path
  let mode (bit : Nat) : Bool := match s.tree.node? s.dir name with
    | some (.file mode _) | some (.directory mode) => mode &&& bit ≠ 0
    | some _ => true
    | none => false
  let special (bit : Nat) : Bool := match s.tree.node? s.dir name with
    | some (.file mode _) | some (.directory mode) => mode &&& bit ≠ 0
    | _ => false
  let here (p : Node → Bool) : Bool := (s.tree.node? s.dir name).any p
  match op with
  | "-r" => mode 0o400
  | "-w" => mode 0o200
  | "-x" => here fun
    | .file mode _ | .directory mode => mode &&& 0o100 ≠ 0
    | _ => false
  | "-u" => special 0o4000
  | "-g" => special 0o2000
  | "-k" => special 0o1000
  | "-e" | "-O" | "-G" => here fun _ => true
  | "-f" => s.tree.isFile s.dir name
  | "-d" => s.tree.isDirectory s.dir name
  | "-c" => here fun
    | .device _ => true
    | _ => false
  | "-s" => here fun
    | .file _ content => content ≠ []
    | .directory _ => true
    | _ => false
  | "-h" | "-L" => match s.tree.locate .inspect s.dir name with
    | .ok (.taken seat) => match s.tree.at? seat with
      | some (.link _) => true
      | _ => false
    | _ => false
  | _ => false

/-- Whether two words pass a test. -/
def compareTest (op : String) (a b : Text) : Action Bool := do
  let s ← get
  let numbers (f : Int → Int → Bool) : Action Bool := do
    let x ← integer a
    return f x (← integer b)
  match op with
  | "=" => return a = b
  | "!=" => return a ≠ b
  | "<" => return a ≠ b ∧ Text.le a b
  | ">" => return a ≠ b ∧ Text.le b a
  | "-eq" => numbers (· = ·)
  | "-ne" => numbers (· ≠ ·)
  | "-ge" => numbers (· ≥ ·)
  | "-gt" => numbers (· > ·)
  | "-le" => numbers (· ≤ ·)
  | "-lt" => numbers (· < ·)
  | "-ef" =>
    match s.tree.find s.dir (Text.toString a), s.tree.find s.dir (Text.toString b) with
    | .ok x, .ok y => return x = y
    | _, _ => return false
  | _ => return false

/-- Whether a word passes a test of a unary operator. -/
def unaryTest (op : String) (word : Text) : Action Bool := do
  match op with
  | "-z" => return word = []
  | "-n" => return word ≠ []
  | "-t" =>
    let _ ← integer word
    return false
  | _ => return fileTest (← get) op word

/-- The words that are left, the next one first; some operand stays the first word after it has
    been used. -/
abbrev Testing := StateT (List Text) Action

namespace Testing

/-- Goes on to the next word. -/
def advance : Testing Unit := modify List.tail

/-- A message about an operator. -/
def reject {α : Type} (op message : Text) : Testing α :=
  abort (if op = [] then message else op ++ ": " ++ message)

mutual

/-- Alternatives. -/
def either : Nat → Testing Bool
  | 0 => return false
  | n + 1 => do
    let a ← both n
    let words ← get
    if role words.tail = some (some .either) then
      set (words.drop 2)
      let b ← either n
      return a || b
    return a

/-- Conditions that must all hold. -/
def both : Nat → Testing Bool
  | 0 => return false
  | n + 1 => do
    let a ← negated n
    let words ← get
    if role words.tail = some (some .both) then
      set (words.drop 2)
      let b ← both n
      return a && b
    return a

/-- A condition or its opposite. -/
def negated : Nat → Testing Bool
  | 0 => return false
  | n + 1 => do
    let words ← get
    if role words = some (some .bang) then
      if words.tail ≠ [] then
        advance
        return !(← negated n)
      else return true
    primary n

/-- A condition that is not made of others. -/
def primary : Nat → Testing Bool
  | 0 => return false
  | n + 1 => do
    let words ← get
    match role words, words with
    | none, _ | _, [] => return false
    | some (some .open), _ :: rest =>
      set rest
      if role rest = some (some .close) then return false
      let result ← either n
      advance
      if role (← get) ≠ some (some .close) then reject [] "closing paren expected"
      return result
    | some (some .unary), op :: rest =>
      match rest with
      | [] => reject op "argument expected"
      | word :: _ =>
        set rest
        unaryTest (String.ofList op) word
    | _, word :: rest =>
      if (role rest) = some (some .binary) then
        match rest with
        | [op] => reject op "argument expected"
        | op :: other :: more =>
          set (other :: more)
          compareTest (String.ofList op) word other
        | [] => return false
      else return word ≠ []

end

end Testing

/-- Whether words, taken as a condition from their start, hold. -/
def holds (words : List Text) : Action Bool := do
  let (result, left) ← (Testing.either (4 * words.length + 8)).run words
  match left with
  | word :: _ :: _ => Testing.reject word "unexpected operator" |>.run' []
  | _ => return result

/-- Whether exactly two operands stand around an operator. -/
def comparison (words : List Text) : Action Bool := do
  match words with
  | [a, op, b] => compareTest (String.ofList op) a b
  | _ => return false

/-- Tests the words of a condition; the exit code. A leading `!` and outer parentheses are taken
    off first, as the number of words asks for. -/
def testWords : Nat → Bool → List Text → Action Nat
  | 0, _, _ => return 1
  | n + 1, negated, words => do
    let code (b : Bool) : Nat := if b = negated then 1 else 0
    match words with
    | [] => return if negated then 0 else 1
    | first :: rest =>
      if words.length = 3 ∧ isBinary rest.head? then return code (← comparison words)
      if words.length = 3 ∨ words.length = 4 then
        if first = ['('] ∧ rest.getLast? = some [')'] then
          return ← testWords n negated rest.dropLast
        if first = ['!'] then return ← testWords n true rest
      return code (← holds words)

/-- Tests the words of a condition. -/
def test (words : List Text) : Action Nat := testWords (words.length + 1) false words

end LineShell.Script
