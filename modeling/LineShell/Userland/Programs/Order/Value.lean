import LineShell.Userland.Programs.Count
import LineShell.Userland.Text.Digest
import LineShell.Userland.Text.Floating
/-!
    What lines are ordered by: bytes, numbers, months, versions, or digests. -/

namespace LineShell

/-- Byte strings in the order of their first difference. -/
def compareBytes : Bytes → Bytes → Ordering
  | [], [] => .eq
  | [], _ :: _ => .lt
  | _ :: _, [] => .gt
  | a :: as, b :: bs => (compare a b).then (compareBytes as bs)

/-- Whether a byte stands between fields. -/
def isFieldBlank (b : UInt8) : Bool := b = 0x20 || b = 9 || b = 10

/-! ### Numbers -/

/-- A decimal number: its sign, and its digits before and after the point without idle zeros. -/
structure LeadingNumber where
  negative : Bool
  whole : Bytes
  fraction : Bytes
  deriving DecidableEq

/-- The number that bytes start with, after blanks, and what follows; zero if there is none. -/
def leadingNumber (bytes : Bytes) : LeadingNumber × Bytes :=
  let bytes := bytes.dropWhile isFieldBlank
  let negative := bytes.head? = some 0x2D
  let bytes := if negative then bytes.drop 1 else bytes
  let whole := bytes.takeWhile isDigitByte
  let rest := bytes.drop whole.length
  let pointed := rest.head? = some 0x2E
  let fraction := if pointed then (rest.drop 1).takeWhile isDigitByte else []
  let rest := if pointed then (rest.drop 1).drop fraction.length else rest
  let whole := whole.dropWhile (· = 0x30)
  let fraction := (fraction.reverse.dropWhile (· = 0x30)).reverse
  (⟨negative && (whole ≠ [] || fraction ≠ []), whole, fraction⟩, rest)

/-- Whether a number is zero. -/
def LeadingNumber.isZero (n : LeadingNumber) : Bool := n.whole = [] && n.fraction = []

/-- The sizes of two numbers. -/
def compareSizes (a b : LeadingNumber) : Ordering :=
  ((compare a.whole.length b.whole.length).then (compareBytes a.whole b.whole)).then
    (compareBytes a.fraction b.fraction)

/-- Numbers by value. -/
def compareNumbers (a b : LeadingNumber) : Ordering :=
  match a.negative, b.negative with
  | false, false => compareSizes a b
  | true, true => compareSizes b a
  | true, false => .lt
  | false, true => .gt

/-- The letters for powers of thousand, from the first power on. -/
def unitLetters : List Char := "KMGTPEZY".toList

/-- The number that bytes start with, and the power of thousand that the letter after it means;
    turned round for numbers below zero. -/
def unitNumber (bytes : Bytes) : Int × LeadingNumber :=
  let (n, rest) := leadingNumber bytes
  let power : Nat := match rest with
    | [] => 0
    | b :: _ =>
      let letter := Char.ofNat b.toNat
      if letter = 'k' then 1
      else if letter ∈ unitLetters then unitLetters.idxOf letter + 1 else 0
  (if n.isZero then 0 else if n.negative then -power else power, n)

/-- What stands before all numbers with a point, and how those are ordered among themselves: first
    what is no number at all, then what is not a value. -/
def floatingRank : Option Floating → Int × Rat
  | none => (0, 0)
  | some (.nan _) => (1, 0)
  | some (.infinite true) => (2, 0)
  | some (.finite negative value) => (3, if negative then -value else value)
  | some (.infinite false) => (4, 0)

/-- Numbers with a point by value. -/
def compareFloatings (a b : Option Floating) : Ordering :=
  let (i, x) := floatingRank a
  let (j, y) := floatingRank b
  (compare i j).then (if x < y then .lt else if y < x then .gt else .eq)

/-! ### Months -/

/-- The names of the months. -/
def monthNames : List String :=
  ["JAN", "FEB", "MAR", "APR", "MAY", "JUN", "JUL", "AUG", "SEP", "OCT", "NOV", "DEC"]

/-- The month that bytes start with, after blanks; zero if there is none. -/
def leadingMonth (bytes : Bytes) : Nat :=
  let start := ((bytes.dropWhile isFieldBlank).take 3).map fun b => (Char.ofNat b.toNat).toUpper
  match monthNames.findIdx? (·.toList = start) with
  | some i => i + 1
  | none => 0

/-! ### Versions -/

/-- The rank of a byte that is no digit: the end of a version, where that comes before all. -/
def versionRank : Option UInt8 → Int
  | none => -1
  | some b =>
    if isDigitByte b then 0
    else if isLetterByte b then b.toNat
    else if b = 0x7E then -2
    else b.toNat + 256

/-- Versions in the order of their parts: what is no digit byte by byte, digits as numbers. The
    parts that are compared are at most as many as said. -/
def compareParts : Nat → Bytes → Bytes → Ordering
  | 0, _, _ => .eq
  | steps + 1, a, b =>
    let isWord (bytes : Bytes) : Bool := bytes.head?.any (¬ isDigitByte ·)
    if a = [] ∧ b = [] then .eq
    else if isWord a || isWord b then
      (compare (versionRank a.head?) (versionRank b.head?)).then
        (compareParts steps (a.drop 1) (b.drop 1))
    else
      let number (bytes : Bytes) := (bytes.takeWhile isDigitByte).dropWhile (· = 0x30)
      ((compare (number a).length (number b).length).then
        (compareBytes (number a) (number b))).then
        (compareParts steps (a.dropWhile isDigitByte) (b.dropWhile isDigitByte))

/-- Whether bytes are made of endings: each a point, a letter, and letters or digits. `inside` says
    whether an ending has begun, or only its point. -/
def isEnding : Option Bool → Bytes → Bool
  | inside, [] => inside ≠ some false
  | inside, b :: bs =>
    let letter := isLetterByte b || b = 0x7E
    match inside with
    | none => b = 0x2E && isEnding (some false) bs
    | some false => letter && isEnding (some true) bs
    | some true =>
      if b = 0x2E then isEnding (some false) bs
      else (letter || isDigitByte b) && isEnding (some true) bs

/-- A version without the endings of a file name, of which something is always left. -/
def versionStem (bytes : Bytes) : Bytes :=
  match (List.range bytes.length).find? fun i => isEnding none (bytes.drop (i + 1)) with
  | some i => bytes.take (i + 1)
  | none => bytes

/-- The rank of what comes before all other versions: nothing, one point, two points, and what
    starts with a point. -/
def pointRank (bytes : Bytes) : Nat :=
  if bytes = [] then 0
  else if bytes = [0x2E] then 1
  else if bytes = [0x2E, 0x2E] then 2
  else if bytes.head? = some 0x2E then 3
  else 4

/-- Versions, or file names with versions in them. -/
def compareVersions (a b : Bytes) : Ordering :=
  let parts (a b : Bytes) := compareParts (a.length + b.length) a b
  (compare (pointRank a) (pointRank b)).then
    ((parts (versionStem a) (versionStem b)).then (parts a b))

/-! ### Digests -/

/-- What makes an order that looks like none. -/
structure Scatter where
  /-- What stands before everything that is digested. -/
  seed : Bytes
  /-- Whether a zero stands behind everything that does not end in one and is not empty. -/
  closes : Bool
  deriving DecidableEq, Repr

/-- How many bytes a seed has. -/
def seedSize : Nat := 16

/-- The digest of some bytes. -/
def Scatter.digest (s : Scatter) (bytes : Bytes) : Bytes :=
  let closing := s.closes && bytes ≠ [] && bytes.getLast? ≠ some 0
  (Digest.ofBytes (s.seed ++ bytes ++ if closing then [0] else [])).toBytes

/-! ### Values -/

/-- How a part of a line is taken. -/
inductive OrderKind where
  | bytes | numeric | units | general | month | random | version
  deriving DecidableEq, Repr

/-- What a part of a line is ordered by. -/
inductive OrderValue where
  | bytes (bytes : Bytes)
  | numeric (n : LeadingNumber)
  | units (power : Int) (n : LeadingNumber)
  | general (x : Option Floating)
  | month (n : Nat)
  | random (digest bytes : Bytes)
  | version (bytes : Bytes)

/-- What some bytes are ordered by. Without a seed bytes that are equal stand together, and no more
    is said of their order; it is that of the bytes here. -/
def OrderKind.value (kind : OrderKind) (scatter : Option Scatter) (bytes : Bytes) : OrderValue :=
  match kind with
  | .bytes => .bytes bytes
  | .numeric => .numeric (leadingNumber bytes).1
  | .units => let (power, n) := unitNumber bytes; .units power n
  | .general => .general
      ((Floating.read? .extended (Text.ofBytes bytes)).map (·.1))
  | .month => .month (leadingMonth bytes)
  | .random => .random ((scatter.map (·.digest bytes)).getD []) bytes
  | .version => .version bytes

/-- Values of one kind in order. -/
def OrderValue.compare : OrderValue → OrderValue → Ordering
  | .bytes a, .bytes b => compareBytes a b
  | .numeric a, .numeric b => compareNumbers a b
  | .units p a, .units q b => (Ord.compare p q).then (compareNumbers a b)
  | .general x, .general y => compareFloatings x y
  | .month m, .month n => Ord.compare m n
  | .random d a, .random e b => (compareBytes d e).then (compareBytes a b)
  | .version a, .version b => compareVersions a b
  | _, _ => .eq

end LineShell
