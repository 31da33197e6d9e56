import LineShell.Userland.Programs.Order.Key
/-!
    What `sort` tells about its keys: marks below the parts of a line that are compared, and
    warnings about keys that may not mean what they seem to. -/

namespace LineShell

/-! ### Marks -/

/-- The columns that bytes take, where a tab is shown as one mark. -/
def Charset.markedWidth (cs : Charset) (bytes : Bytes) : Nat :=
  let width (s : Symbol) : Nat :=
    if s = 9 then 1
    else match cs.columns? s with
      | some n => n
      | none => if cs.isControl s then 0 else 1
  ((cs.read bytes).map width).foldl (· + ·) 0

/-- How many bytes at the start of a part without blanks count for its order. -/
def OrderStyle.tightLength (s : OrderStyle) (bytes : Bytes) : Nat :=
  match s.kind with
  | .month => if leadingMonth bytes = 0 then 0 else 3
  | .general => match Floating.read? .extended (Text.ofBytes bytes) with
    | some (_, rest) => bytes.length - rest.length
    | none => 0
  | .numeric | .units =>
    let rest := (leadingNumber bytes).2
    let number := bytes.take (bytes.length - rest.length)
    let unit := s.kind = .units ∧ rest.head?.any fun b =>
      Char.ofNat b.toNat = 'k' || Char.ofNat b.toNat ∈ unitLetters
    if number.any isDigitByte then number.length + (if unit then 1 else 0) else 0
  | .bytes | .random | .version => bytes.length

/-- Whether a style is about numbers. -/
def OrderStyle.isNumeric (s : OrderStyle) : Bool :=
  [OrderKind.numeric, .general, .units].contains s.kind

namespace OrderKey

/-- Whether the key starts with the line. -/
def isAtStart (k : OrderKey) : Bool := k.start.field = 0 && k.start.byte = 0

/-- Where the part of a line that counts starts and how long it is. -/
def markedSpan (k : OrderKey) (separator : Option UInt8) (line : Bytes) : Nat × Nat :=
  let start := if k.isAtStart then 0 else k.startOffset separator line
  let part := (line.take (k.stopOffset separator line)).drop start
  if (k.style.skipsStart && k.isAtStart) || k.style.isNumeric || k.style.kind = .month then
    let blanks := (part.takeWhile isFieldBlank).length
    (start + blanks, k.style.tightLength (part.drop blanks))
  else (start, part.length)

end OrderKey

/-- The marks below a part of a line. -/
def markLine (cs : Charset) (line : Bytes) (span : Nat × Nat) : Text :=
  let width := cs.markedWidth ((line.drop span.1).take span.2)
  List.replicate (cs.markedWidth (line.take span.1)) ' '
    ++ (if width = 0 then "^ no match for key".toList else List.replicate width '_') ++ "\n"

/-- A line with the marks of its keys; `whole` says that the line itself is compared in the end. -/
def annotatedLine (cs : Charset) (separator : Option UInt8) (keys : List OrderKey) (whole : Bool)
    (line : Bytes) : Bytes :=
  let spans := keys.map (·.markedSpan separator line)
    ++ if whole ∨ keys = [] then [(0, line.length)] else []
  line.map (fun b => if b = 9 then 0x3E else b) ++ [10]
    ++ Text.toBytes (spans.flatMap (markLine cs line))

/-! ### Warnings -/

/-- The letters of a style, as its options. -/
def OrderStyle.optionLetters (s : OrderStyle) : Text :=
  (if s.skipsStart || s.skipsEnd then ['b'] else [])
    ++ "dfghiMnRrV".toList.filter fun c => if c = 'r' then s.reverse else s.has c

/-- What is left of a style that a key does not have, too. -/
def OrderStyle.without (s other : OrderStyle) : OrderStyle :=
  ⟨s.letters.filter (!other.has ·), s.skipsStart && !other.skipsStart,
    s.skipsEnd && !other.skipsEnd, s.reverse && !other.reverse⟩

namespace OrderKey

/-- What is warned of in a key that was given in the old way. -/
def oldWarning (cs : Charset) (k : OrderKey) : Text :=
  let stop := k.stop.map fun p => (p.field + 1, p.byte)
  let old := "+".toList ++ Text.ofNat k.start.field
    ++ (stop.elim [] fun p => " -".toList ++ Text.ofNat p.1)
  let new := "-k ".toList ++ Text.ofNat (k.start.field + 1)
    ++ (stop.elim [] fun p => ",".toList ++ Text.ofNat p.1)
  "obsolescent key " ++ cs.quotedWord old ++ " used; consider " ++ cs.quotedWord new ++ " instead"

/-- Whether nothing of a line is in the key. -/
def isVoid (k : OrderKey) : Bool := !k.isAtStart && k.stop.any (·.field < k.start.field)

/-- Whether a numeric key goes on beyond the field that it starts in. -/
def spans (k : OrderKey) : Bool :=
  k.style.isNumeric
    && k.stop.all fun p => (if k.isAtStart then 1 else k.start.field + 1) < p.field + 1

/-- What is warned of in a key; `separated` says that fields have a separator. -/
def warnings (cs : Charset) (separated : Bool) (number : Nat) (k : OrderKey) : List Text :=
  let key : Text := "key " ++ Text.ofNat number
  let numeric := k.style.isNumeric
  let offset := k.stop.any fun p => p.field = 0 && p.byte ≠ 0
  let blanks := (!k.style.skipsStart && !numeric && k.style.kind ≠ .month)
    || (!k.style.skipsStart && k.start.byte ≠ 0)
    || (!k.style.skipsEnd && k.stop.any (·.byte ≠ 0))
  (if k.old then [k.oldWarning cs] else [])
    ++ (if k.isVoid then [key ++ " has zero width and will be ignored"] else [])
    ++ (if !k.isVoid && !separated && !offset && blanks then
        ["leading blanks are significant in " ++ key ++ "; consider also specifying 'b'"]
      else [])
    ++ (if k.spans then [key ++ " is numeric and spans multiple fields"] else [])

end OrderKey

/-- What is warned of for all keys together: that the separator is taken for part of numbers, and
    how numbers are written. -/
def numberWarnings (cs : Charset) (separator : Option UInt8) (keys : List OrderKey)
    (general : Bool) : List Text :=
  let taken (b : Char) (what : Text) : Text :=
    "field separator " ++ cs.quotedWord [b] ++ " is treated as a " ++ what ++ " in numbers"
  let spanning := keys.filter (·.spans)
  let isSeparator (c : Char) : Bool := separator = some (UInt8.ofNat c.toNat)
  let pointed := spanning ≠ [] && isSeparator '.'
  let field :=
    if spanning = [] then []
    else if pointed then [taken '.' "decimal point"]
    else if isSeparator '-' then [taken '-' "minus sign"]
    else if isSeparator '+' ∧ spanning.any (·.style.kind = .general) then [taken '+' "plus sign"]
    else []
  field ++ if general ∧ ¬ pointed then
      ["note numbers use " ++ cs.quotedWord ['.'] ++ " as a decimal point in this locale"]
    else []

/-- What is warned of that no key uses of the common style. -/
def idleWarnings (style : OrderStyle) (keys : List OrderKey) (last : Bool) : List Text :=
  let idle := keys.foldl (fun s k => s.without k.style) style
  let reverse := idle.reverse && keys ≠ []
  let letters := { idle with reverse := idle.reverse && !last }.optionLetters
  (if ¬ idle.isPlain ∨ (reverse ∧ ¬ last) then
      [if letters.length = 1 then "option '-".toList ++ letters ++ "' is ignored"
        else "options '-".toList ++ letters ++ "' are ignored"]
    else [])
    ++ if reverse ∧ last then ["option '-r' only applies to last-resort comparison".toList] else []

end LineShell
