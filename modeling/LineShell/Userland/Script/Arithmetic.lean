import LineShell.Userland.Script.Pattern
/-!
    Arithmetic on 64-bit numbers.

    An expression is evaluated while it is read, so of two errors the one that stands further left
    is told. In the branch that is not taken names have no value and nothing is assigned. -/

namespace LineShell.Script

/-- The number that 64 bits keep of a whole number. -/
def wrapped (n : Int) : Int := (Int64.ofInt n).toInt

/-- The greatest and the least number of 64 bits. -/
def greatest : Int := 9223372036854775807

@[inherit_doc greatest]
def least : Int := -9223372036854775808

/-! ### Numbers in text -/

/-- The value of a digit in any base. -/
def digitValue (c : Char) : Nat :=
  if c.isDigit then c.toNat - '0'.toNat else c.toLower.toNat - 'a'.toNat + 10

/-- Whether a character is a digit in a base. -/
def isDigitIn (base : Nat) (c : Char) : Bool := c.isAlphanum && digitValue c < base

/-- The number that digits write. -/
def digitsIn (base : Nat) (ds : Text) : Nat := ds.foldl (fun n c => base * n + digitValue c) 0

/-- The base that the start of a number tells, the digits that it starts with, and the rest. -/
def numberParts (t : Text) : Nat × Text × Text :=
  let cut (base : Nat) (t : Text) : Nat × Text × Text :=
    let ds := t.takeWhile (isDigitIn base)
    (base, ds, t.drop ds.length)
  match t with
  | '0' :: x :: d :: rest =>
    if x ∈ ['x', 'X'] ∧ isHexDigit d then cut 16 (d :: rest) else cut 8 t
  | '0' :: _ => cut 8 t
  | _ => cut 10 t

/-- The sign of the number that a text starts with, its size, and the rest of the text, if there are
    any digits. -/
def scanNumber? (t : Text) : Option (Bool × Nat × Text) :=
  let (negative, body) : Bool × Text := match t.dropWhile isSpace with
    | '-' :: rest => (true, rest)
    | '+' :: rest => (false, rest)
    | rest => (false, rest)
  match numberParts body with
  | (_, [], _) => none
  | (base, ds, rest) => some (negative, digitsIn base ds, rest)

/-- The number that a text starts with, whether it is out of range, and the rest of the text.
    Nothing is read where there are no digits. -/
def readNumber (t : Text) : Int × Bool × Text :=
  match scanNumber? t with
  | none => (0, false, t)
  | some (negative, size, rest) =>
    let n : Int := if negative then -size else size
    if n > greatest then (greatest, true, rest)
    else if n < least then (least, true, rest)
    else (n, false, rest)

/-- The decimal number that is the whole of a text, with blanks around it, if it is in range. -/
def decimal? (t : Text) : Option Int :=
  let unspaced := t.dropWhile isSpace
  let (negative, body) : Bool × Text := match unspaced with
    | '-' :: rest => (true, rest)
    | '+' :: rest => (false, rest)
    | rest => (false, rest)
  let ds := body.takeWhile Char.isDigit
  let n : Int := digitsIn 10 ds
  let n := if negative then -n else n
  if ds ≠ [] ∧ (body.drop ds.length).all isSpace ∧ least ≤ n ∧ n ≤ greatest then some n else none

/-- The value of a variable in an expression; an empty one counts as zero. -/
def valueOf? (t : Text) : Option Int :=
  let (n, out, rest) := readNumber t
  if ¬ out ∧ rest.all isSpace then some n else none

/-! ### Tokens -/

/-- What an expression is made of. -/
inductive ArithToken where
  | number (n : Int)
  | name (t : Text)
  | sign (s : String)
  | ending
  | wrong
  deriving DecidableEq

/-- The signs, the longer ones first. -/
def arithSigns : List String :=
  ["<<=", ">>=", "==", ">=", ">>", "<=", "<<", "||", "|=", "&&", "&=", "!=", "*=", "/=", "%=",
   "+=", "-=", "^=", "=", ">", "<", "|", "&", "!", "(", ")", "*", "/", "%", "+", "-", "~", "^",
   "?", ":"]

/-- The token that a text starts with, and the rest of the text. -/
def arithToken (t : Text) : ArithToken × Text :=
  let t := t.dropWhile (· ∈ [' ', '\t', '\n'])
  match t with
  | [] => (.ending, [])
  | c :: rest =>
    if c.isDigit then
      let (n, _, rest) := readNumber t
      (.number n, rest)
    else if isNameStart c then
      let name := t.takeWhile isNameChar
      (.name name, t.drop name.length)
    else match arithSigns.find? fun s => s.toList.isPrefixOf t with
      | some s => (.sign s, t.drop s.length)
      | none => (.wrong, rest)

/-! ### Operators -/

/-- The operators that take two numbers, the binding ones first. -/
def precedence? : String → Option Nat
  | "*" | "/" | "%" => some 0
  | "+" | "-" => some 1
  | "<<" | ">>" => some 2
  | "<" | "<=" | ">" | ">=" => some 3
  | "==" | "!=" => some 4
  | "&" => some 5
  | "^" => some 6
  | "|" => some 7
  | _ => none

/-- A truth value as a number. -/
def ofBool (b : Bool) : Int := if b then 1 else 0

/-- The result of an operator; none for a division by zero. -/
def operate? (op : String) (a b : Int) : Option Int :=
  let bits (f : Int64 → Int64 → Int64) : Option Int :=
    some (f (Int64.ofInt a) (Int64.ofInt b)).toInt
  match op with
  | "*" => some (wrapped (a * b))
  | "/" => if b = 0 then none else some (wrapped (Int.tdiv a b))
  | "%" => if b = 0 then none else some (Int.tmod a b)
  | "+" => some (wrapped (a + b))
  | "-" => some (wrapped (a - b))
  | "<<" => bits (· <<< ·)
  | ">>" => bits (· >>> ·)
  | "<" => some (ofBool (a < b))
  | "<=" => some (ofBool (a ≤ b))
  | ">" => some (ofBool (a > b))
  | ">=" => some (ofBool (a ≥ b))
  | "==" => some (ofBool (a = b))
  | "!=" => some (ofBool (a ≠ b))
  | "&" => bits (· &&& ·)
  | "^" => bits (· ^^^ ·)
  | _ => bits (· ||| ·)

/-- The operator of an assignment sign; the empty one for a plain assignment. -/
def assignOperator? (s : String) : Option String :=
  if s ∈ ["==", "<=", ">=", "!="] then none
  else match s.toList.reverse with
    | '=' :: op => some (String.ofList op.reverse)
    | _ => none

/-! ### Evaluation -/

/-- An expression that is being evaluated. -/
structure Calculation where
  whole : Text
  rest : Text
  last : ArithToken
  value? : Text → Option Text
  /-- The assignments, the latest first. -/
  assigned : List (Text × Text)

/-- Evaluating, which may fail with a message. -/
abbrev Evaluating := EStateM Text Calculation

namespace Evaluating

/-- A message about the expression. -/
def fail {α : Type} (message : Text) : Evaluating α := do
  throw ("arithmetic expression: " ++ message ++ ": \x22" ++ (← get).whole ++ "\x22")

/-- Takes the next token. -/
def next : Evaluating ArithToken := modifyGet fun c =>
  let (token, rest) := arithToken c.rest
  (token, { c with rest })

/-- Keeps the token that ended what has been evaluated. -/
def keep (token : ArithToken) : Evaluating Unit := modify fun c => { c with last := token }

/-- The value of a name. -/
def lookup (name : Text) : Evaluating Int := do
  let c ← get
  let text := ((c.assigned.lookup name).orElse fun _ => c.value? name).getD []
  match valueOf? text with
  | some n => return n
  | none => throw ("Illegal number: " ++ text)

mutual

/-- An operand, whose first token and the token after that have been taken. -/
def primary : Nat → ArithToken → ArithToken → Bool → Evaluating Int
  | 0, _, _, _ => return 0
  | n + 1, token, op, idle => do
    match token with
    | .sign "(" =>
      let result ← assignment n op idle
      if (← get).last ≠ .sign ")" then fail "expecting \x27)\x27"
      keep (← next)
      return result
    | .number v =>
      keep op
      return v
    | .name name =>
      keep op
      if idle then return 0 else lookup name
    | .sign "+" => primary n op (← next) idle
    | .sign "-" => return wrapped (-(← primary n op (← next) idle))
    | .sign "!" => return ofBool ((← primary n op (← next) idle) = 0)
    | .sign "~" => return -(← primary n op (← next) idle) - 1
    | _ => fail "expecting primary"

/-- What an operator and those after it that bind as strongly make of a number. -/
def operators : Nat → Int → String → Nat → Bool → Evaluating Int
  | 0, a, _, _, _ => return a
  | n + 1, a, op, limit, idle => do
    let token ← next
    let b ← primary n token (← next) idle
    let rank := (precedence? op).getD 0
    let b ← match (← get).last with
      | .sign op2 => match precedence? op2 with
        | some rank2 => if rank2 < rank then operators n b op2 rank idle else pure b
        | none => pure b
      | _ => pure b
    let a ← if idle then pure b
      else match operate? op a b with
        | some a => pure a
        | none => fail "division by zero"
    match (← get).last with
    | .sign op2 => match precedence? op2 with
      | some rank2 => if rank2 ≥ limit then return a else operators n a op2 limit idle
      | none => return a
    | _ => return a

/-- Operands and operators between them. -/
def arithmetic : Nat → ArithToken → ArithToken → Bool → Evaluating Int
  | 0, _, _, _ => return 0
  | n + 1, token, op, idle => do
    let a ← primary n token op idle
    match (← get).last with
    | .sign op => if (precedence? op).isSome then operators n a op 8 idle else return a
    | _ => return a

/-- Both. -/
def conjunction : Nat → ArithToken → ArithToken → Bool → Evaluating Int
  | 0, _, _, _ => return 0
  | n + 1, token, op, idle => do
    let a ← arithmetic n token op idle
    if (← get).last ≠ .sign "&&" then return a
    let token ← next
    let b ← conjunction n token (← next) (idle || a = 0)
    return ofBool (a ≠ 0 ∧ b ≠ 0)

/-- One or the other. -/
def disjunction : Nat → ArithToken → ArithToken → Bool → Evaluating Int
  | 0, _, _, _ => return 0
  | n + 1, token, op, idle => do
    let a ← conjunction n token op idle
    if (← get).last ≠ .sign "||" then return a
    let token ← next
    let b ← disjunction n token (← next) (idle || a ≠ 0)
    return ofBool (a ≠ 0 ∨ b ≠ 0)

/-- A choice by a condition. -/
def conditional : Nat → ArithToken → ArithToken → Bool → Evaluating Int
  | 0, _, _, _ => return 0
  | n + 1, token, op, idle => do
    let a ← disjunction n token op idle
    if (← get).last ≠ .sign "?" then return a
    let b ← assignment n (← next) (idle || a = 0)
    if (← get).last ≠ .sign ":" then fail "expecting \x27:\x27"
    let token ← next
    let c ← conditional n token (← next) (idle || a ≠ 0)
    return if a ≠ 0 then b else c

/-- An assignment or a choice, whose first token has been taken. -/
def assignment : Nat → ArithToken → Bool → Evaluating Int
  | 0, _, _ => return 0
  | n + 1, token, idle => do
    let op ← next
    match token, op with
    | .name name, .sign s => match assignOperator? s with
      | some op =>
        let result ← assignment n (← next) idle
        if idle then return result
        let value ← if op = "" then pure result
          else match operate? op (← lookup name) result with
            | some v => pure v
            | none => fail "division by zero"
        modify fun c => { c with assigned := (name, Text.ofInt value) :: c.assigned }
        return value
      | none => conditional n token (.sign s) idle
    | token, op => conditional n token op idle

end

end Evaluating

/-- What comes of an expression: its value or a message, and the assignments in their order. -/
def calculate (value? : Text → Option Text) (t : Text) : Except Text Int × List (Text × Text) :=
  let run : Evaluating Int := do
    let result ← Evaluating.assignment (8 * t.length + 16) (← Evaluating.next) false
    if (← get).last ≠ .ending then Evaluating.fail "expecting EOF"
    return result
  match run.run ⟨t, t, .ending, value?, []⟩ with
  | .ok n c => (.ok n, c.assigned.reverse)
  | .error message c => (.error message, c.assigned.reverse)

end LineShell.Script
