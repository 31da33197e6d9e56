import LineShell.Userland.Programs.Ends
/-!
    The utility `tr`: each byte replaced, deleted or, where it repeats, written once.

    A set is written as bytes, escapes, ranges, classes and repetitions. The bytes of the first set
    become those at the same positions of the second, whose last byte stands for all the positions
    that it lacks. -/

namespace LineShell

/-- An element of a set. -/
inductive SetElement where
  | one (b : UInt8)
  | range (lo hi : UInt8)
  | members (name : String) (bytes : List UInt8)
  /-- All bytes that are as good as one. -/
  | like (b : UInt8)
  /-- A byte so many times; as often as needed if that is zero. -/
  | repeated (b : UInt8) (times : Nat)

/-- A byte of a set as it is written, and whether it stood after a backslash. -/
abbrev SetMark := UInt8 × Bool

/-! ### Reading a set -/

/-- The byte that a letter after a backslash stands for. -/
def escapedByte (b : UInt8) : UInt8 :=
  match Char.ofNat b.toNat with
  | 'a' => 7 | 'b' => 8 | 't' => 9 | 'n' => 10 | 'v' => 11 | 'f' => 12 | 'r' => 13
  | _ => b

/-- Whether a byte is an octal digit. -/
def isOctalByte (b : UInt8) : Bool := 0x30 ≤ b && b ≤ 0x37

/-- The value of octal digits. -/
def octalValue (bs : Bytes) : Nat := bs.foldl (fun n b => 8 * n + (b.toNat - 0x30)) 0

/-- The marks of a set, and warnings about how it is written. -/
def setMarks : Nat → Bytes → List SetMark × List Text
  | 0, _ => ([], [])
  | _, [] => ([], [])
  | steps + 1, b :: bs =>
    let follow (mark : SetMark) (warnings : List Text) (rest : Bytes) :=
      let (marks, more) := setMarks steps rest
      (mark :: marks, warnings ++ more)
    if b ≠ 0x5C then follow (b, false) [] bs
    else
      let three := (bs.take 3).takeWhile isOctalByte
      let large := 255 < octalValue three
      let digits := if large then three.take 2 else three
      let text (ds : Bytes) : Text := .ofBytes ds
      if digits ≠ [] then
        follow (UInt8.ofNat (octalValue digits), true)
          (if large then ["the ambiguous octal escape \\" ++ text three
            ++ " is being\n\tinterpreted as the 2-byte sequence \\0" ++ text digits ++ ", "
            ++ text (three.drop 2)] else [])
          (bs.drop digits.length)
      else match bs with
        | c :: cs => follow (escapedByte c, true) [] cs
        | [] => follow (b, false)
            ["an unescaped backslash at end of string is not portable".toList] []

/-- Whether a mark is a byte that did not stand after a backslash. -/
def SetMark.is (m : SetMark) (c : Char) : Bool := m = (UInt8.ofNat c.toNat, false)

/-- The marks up to a byte and a closing bracket, and what follows. -/
def closedName (delimiter : SetMark) : List SetMark → Option (List SetMark × List SetMark)
  | a :: b :: rest =>
    if a = delimiter ∧ b.is ']' then some ([], rest)
    else (closedName delimiter (b :: rest)).map fun r => (a :: r.1, r.2)
  | _ => none

/-- The bytes of some marks. -/
def markBytes (marks : List SetMark) : Bytes := marks.map (·.1)

/-- Bytes in a message. -/
def shownBytes (bytes : Bytes) : Text :=
  bytes.flatMap fun b =>
    if b = 0x5C then ['\\', '\\'] else if isPrintable b then [Char.ofNat b.toNat] else byteEscape b

/-- How often a byte is repeated, as a text says it: in octal digits if it starts with a zero. -/
def repeatCount? (bytes : Bytes) : Option Nat :=
  if bytes = [] then some 0
  else if bytes.head? = some 0x30 then
    if bytes.all isOctalByte then some (octalValue bytes) else none
  else (digitsValue? (bytes.map fun b => Char.ofNat b.toNat)).filter (· < numbersOf 64)

/-- What is wrong with a set: words and what stands between quotes in them. -/
structure SetFault where
  before : Text
  quoted : Option Text := none
  after : Text := []

/-- What is wrong with a set, in words. -/
def SetFault.message (f : SetFault) (cs : Charset) : Text :=
  f.before ++ (f.quoted.map cs.quotedWord).getD [] ++ f.after

/-- A fault in plain words. -/
def SetFault.plain (text : Text) : SetFault := ⟨text, none, []⟩

/-- What is between brackets after a byte and a star: the repetition, and what follows; nothing if
    this is none. -/
def readRepeat (marks : List SetMark) : Option (Except SetFault (SetElement × List SetMark)) :=
  match marks with
  | b :: star :: rest =>
    let count := rest.takeWhile fun m => ¬ m.2 ∧ m.1 ≠ 0x5D
    match star.is '*', rest.drop count.length with
    | true, (0x5D, false) :: rest => some (match repeatCount? (markBytes count) with
      | some n => .ok (.repeated b.1 n, rest)
      | none => .error ⟨"invalid repeat count ", some (shownBytes (markBytes count)),
          " in [c*n] construct"⟩)
    | _, _ => none
  | _ => none

/-- Whether marks are a star, digits and a closing bracket. -/
def isStarCount (marks : List SetMark) : Bool :=
  match marks with
  | star :: rest =>
    star.is '*' && ((rest.dropWhile fun m => 0x30 ≤ m.1 && m.1 ≤ 0x39).head?.any (·.is ']'))
  | [] => false

/-- What a name between colons means. -/
def namedClass (name : Bytes) : Except SetFault SetElement :=
  if name = [] then .error (.plain "missing character class name '[::]'")
  else match classBytes (Bytes.repaired name) with
    | some bytes => .ok (.members (Bytes.repaired name) bytes)
    | none => .error ⟨"invalid character class ", some (shownBytes name), []⟩

/-- What a byte between equals signs means. -/
def likeClass (name : Bytes) : Except SetFault SetElement :=
  match name with
  | [] => .error (.plain "missing equivalence class character '[==]'")
  | [b] => .ok (.like b)
  | _ => .error (.plain
      (shownBytes name ++ ": equivalence class operand must be a single character"))

/-- The construct after an opening bracket, and what follows; nothing if the bracket starts none. -/
def readConstruct (marks : List SetMark) : Option (Except SetFault (SetElement × List SetMark)) :=
  match marks with
  | delimiter :: body =>
    let reader := if delimiter.is ':' then some namedClass
      else if delimiter.is '=' then some likeClass
      else none
    match reader, closedName delimiter body with
    | some read, some (name, rest) => match read (markBytes name) with
      | .ok element => some (.ok (element, rest))
      | .error message =>
        if name ≠ [] ∧ isStarCount body then readRepeat marks else some (.error message)
    | _, _ => readRepeat marks
  | [] => none

/-- The elements of a set, read in so many steps at most. -/
def setElements : Nat → List SetMark → Except SetFault (List SetElement)
  | 0, _ => .ok []
  | steps + 1, a :: b :: c :: rest =>
    match if a.is '[' then readConstruct (b :: c :: rest) else none with
    | some (.error message) => .error message
    | some (.ok (element, rest)) => (setElements steps rest).map (element :: ·)
    | none =>
      if b.is '-' then
        if c.1 < a.1 then .error (.plain ("range-endpoints of '" ++ shownBytes [a.1] ++ "-"
          ++ shownBytes [c.1] ++ "' are in reverse collating sequence order"))
        else (setElements steps rest).map (.range a.1 c.1 :: ·)
      else (setElements steps (b :: c :: rest)).map (.one a.1 :: ·)
  | _, marks => .ok (marks.map (.one ·.1))

/-! ### Sets -/

/-- The bytes of an element, in order. -/
def SetElement.bytes : SetElement → List UInt8
  | .one b | .like b => [b]
  | .range lo hi => byteRange lo hi
  | .members _ bytes => bytes
  | .repeated b n => List.replicate n b

/-- The bytes of a set, in order. -/
def setBytes (set : List SetElement) : List UInt8 := set.flatMap SetElement.bytes

/-- Whether an element is a byte as often as needed. -/
def SetElement.isEndless : SetElement → Bool
  | .repeated _ 0 => true
  | _ => false

/-- The name of a class of letters of one case. -/
def SetElement.letterCase? : SetElement → Option String
  | .members name _ => if name ∈ ["upper", "lower"] then some name else none
  | _ => none

/-- Whether an element is a class. -/
def SetElement.isClass : SetElement → Bool
  | .members _ _ => true
  | _ => false

/-- The set with its endless byte repeated until the set has a length. -/
def fillSet (set : List SetElement) (length : Nat) : List SetElement :=
  let missing := length - (setBytes set).length
  set.map fun e => match e with
    | .repeated b 0 => .repeated b missing
    | e => e

/-- The bytes that are not in a set, in order. -/
def complementSet (set : List UInt8) : List UInt8 := (byteRange 0 255).filter (· ∉ set)

/-- Where the elements of a set start, with the case of those that are letters of one case. -/
def caseStarts (set : List SetElement) : List (Nat × Option String) :=
  (set.foldl (fun r e => (r.1 + e.bytes.length, (r.1, e.letterCase?) :: r.2)) (0, [])).2.reverse

/-- Whether each class of letters of one case in the second set, as far as the first set reaches,
    stands where the first set has one too. -/
def isAligned (first second : List SetElement) : Bool :=
  let reach := (setBytes first).length
  let starts := (caseStarts first).filter (·.2.isSome)
  ((caseStarts second).filter fun s => s.2.isSome ∧ s.1 ≤ reach).all fun s =>
    starts.any (·.1 = s.1)

/-! ### The utility -/

/-- What `tr` was asked to do. -/
structure MapRequest where
  deletes : Bool
  squeezes : Bool
  complements : Bool
  truncates : Bool

/-- What a replacement maps: each byte of the first set with what it becomes. -/
def replacementTable (q : MapRequest) (first second : List SetElement) :
    Except SetFault (List (UInt8 × UInt8) × List UInt8) :=
  let source := setBytes first
  let source := if q.complements then complementSet source else source
  let target := setBytes (fillSet second source.length)
  let isRestricted (e : SetElement) : Bool := e.isClass && e.letterCase?.isNone
  if second.any fun e => e matches .like _ then
    .error (.plain "[=c=] expressions may not appear in string2 when translating")
  else if second.any isRestricted then
    .error (.plain ("when translating, the only character classes that may appear in\n"
      ++ "string2 are 'upper' and 'lower'"))
  else if ¬ q.complements ∧ ¬ isAligned first second then
    .error (.plain "misaligned [:upper:] and/or [:lower:] construct")
  else
    let short := target.length < source.length ∧ ¬ q.truncates
    if short ∧ target = [] then
      .error (.plain "when not truncating set1, string2 must be non-empty")
    else if short ∧ second.getLast?.any SetElement.isClass then
      .error (.plain ("when translating with string1 longer than string2,\n"
        ++ "the latter string must not end with a character class"))
    else
      let target := if ¬ short then target
        else target ++ List.replicate (source.length - target.length) (target.getLastD 0)
      let uniform := target.length = source.length ∧ target.eraseDups.length = 1
      if q.complements ∧ first.any SetElement.isClass ∧ ¬ uniform then
        .error (.plain ("when translating with complemented character classes,\n"
          ++ "string2 must map all characters in the domain to one"))
      else .ok (source.zip target, target)

/-- What each byte becomes. The last of several positions counts. -/
def replacements (table : List (UInt8 × UInt8)) : Array UInt8 :=
  table.foldl (fun all e => all.setIfInBounds e.1.toNat e.2)
    (Array.ofFn fun i : Fin 256 => .ofNat i)

/-- For each byte whether it is in a set. -/
def membership (set : List UInt8) : Array Bool :=
  set.foldl (fun all b => all.setIfInBounds b.toNat true) (Array.replicate 256 false)

/-- Bytes without those of a set. -/
def dropMembers (set : List UInt8) (bytes : Bytes) : Bytes :=
  let drops := membership set
  bytes.filter fun b => !drops.getD b.toNat false

/-- Bytes of a set that repeat are written once. -/
def squeeze (set : List UInt8) (bytes : Bytes) : Bytes :=
  let once := membership set
  let add (kept : Bytes) (b : UInt8) : Bytes :=
    if once.getD b.toNat false && kept.head? = some b then kept else b :: kept
  (bytes.foldl add []).reverse

/-- What becomes of bytes with one set or two. -/
def MapRequest.function (q : MapRequest) (first : List SetElement)
    (second : Option (List SetElement)) : Except SetFault (Bytes → Bytes) :=
  let set := setBytes first
  let set := if q.complements then complementSet set else set
  if first.any SetElement.isEndless then
    .error (.plain "the [c*] repeat construct may not appear in string1")
  else match second with
    | none =>
      if q.squeezes then .ok (squeeze set) else .ok (dropMembers set)
    | some second =>
      let endless := second.countP SetElement.isEndless
      if 1 < endless then
        .error (.plain "only one [c*] repeat construct may appear in string2")
      else if q.deletes then
        if endless ≠ 0 then
          .error (.plain "the [c*] construct may appear in string2 only when translating")
        else .ok fun bs => squeeze (setBytes second) (dropMembers set bs)
      else (replacementTable q first second).map fun (table, target) bs =>
        let becomes := replacements table
        let replaced := bs.map fun b => becomes.getD b.toNat b
        if q.squeezes then squeeze target replaced else replaced

/-- The options of `tr`. -/
def mapOptions : OptionTable :=
  .of ("AcCdst".toList.map (·, .never))
    [⟨"complement", "c", .never⟩, ⟨"delete", "d", .never⟩, ⟨"squeeze-repeats", "s", .never⟩,
      ⟨"truncate-set1", "t", .never⟩] true

/-- What is wrong with the number of operands, if something is. -/
def MapRequest.misuse (q : MapRequest) (operands : List Text) : Option SetFault :=
  let least := if q.deletes = q.squeezes then 2 else 1
  let most := if q.deletes ∧ ¬ q.squeezes then 1 else 2
  if operands = [] then some (.plain "missing operand")
  else if operands.length < least then
    some ⟨"missing operand after ", operands.getLast?, "\nTwo strings must be given when "
      ++ (if q.squeezes then "both deleting and squeezing repeats." else "translating.")⟩
  else if most < operands.length then
    some ⟨"extra operand ", operands[most]?, if operands.length = 2 then
      "\nOnly one string may be given when deleting without squeezing repeats." else ""⟩
  else none

/-- Reads sets one after the other: all warnings, and the sets or what is wrong with one. -/
def readSets : List Text → List Text × Except SetFault (List (List SetElement))
  | [] => ([], .ok [])
  | text :: rest =>
    let bytes := text.toBytes
    let (marks, warnings) := setMarks bytes.length bytes
    match setElements marks.length marks with
    | .error fault => (warnings, .error fault)
    | .ok set =>
      let (more, sets) := readSets rest
      (warnings ++ more, sets.map (set :: ·))

/-- The utility that replaces bytes, or deletes them. -/
def Utility.tr : Utility := ⟨.usual, fun c =>
  c.withOptions (.madeBy "tr" ["Jim Meyering"]) mapOptions 1 (fun _ => none) fun o =>
    let q : MapRequest := ⟨o.has "d", o.has "s", o.has "c" || o.has "C", o.has "t"⟩
    match q.misuse o.operands with
    | some fault => c.misuse 1 (fault.message c.charset)
    | none =>
      let (warnings, sets) := readSets o.operands
      let warned := Account.all (warnings.map fun w => c.complain 0 ("warning: " ++ w))
      let function := sets.bind fun sets => q.function (sets.headD []) (sets.drop 1).head?
      match function, c.streams.contents with
      | .error fault, _ => warned.andThen (c.complain 1 (fault.message c.charset))
      | .ok _, .error fault => warned.andThen (c.complain 1 ("read error: " ++ fault.reason))
      | .ok f, .ok input => (warned.andThen (.output (f input))).taking input.length⟩

end LineShell
