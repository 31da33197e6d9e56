import LineShell.Userland.Programs.Choice
import LineShell.Userland.Programs.Order.Request
/-!
    What the options of `sort` ask for.

    Options are taken in turn, and the first of them that is wrong is told of. What cannot go
    together is found out when all of them have been taken (`OrderPlan.clash?`). -/

namespace LineShell

/-- What the order can be by. -/
def styleChoice : WordChoice Char :=
  ⟨"sort", [("general-numeric", 'g'), ("human-numeric", 'h'), ("month", 'M'), ("numeric", 'n'),
    ("random", 'R'), ("version", 'V')]⟩

/-- How the order can be checked. -/
def checkChoice : WordChoice Char :=
  ⟨"check", [("quiet", 'C'), ("silent", 'C'), ("diagnose-first", 'c')]⟩

/-- The options of `sort`. -/
def orderOptions : OptionTable :=
  .of ((oldKeyLetter, .always) :: "bcCdfghimMnrRsuVz".toList.map (·, .never)
      ++ "koStTy".toList.map (·, .always))
    [⟨"ignore-leading-blanks", "b", .never⟩, ⟨"check", "check", .maybe⟩,
      ⟨"compress-program", "compress-program", .always⟩, ⟨"debug", "debug", .never⟩,
      ⟨"dictionary-order", "d", .never⟩, ⟨"ignore-case", "f", .never⟩,
      ⟨"files0-from", "files", .always⟩, ⟨"general-numeric-sort", "g", .never⟩,
      ⟨"ignore-nonprinting", "i", .never⟩, ⟨"key", "k", .always⟩, ⟨"merge", "m", .never⟩,
      ⟨"month-sort", "M", .never⟩, ⟨"numeric-sort", "n", .never⟩,
      ⟨"human-numeric-sort", "h", .never⟩, ⟨"version-sort", "V", .never⟩,
      ⟨"random-sort", "R", .never⟩, ⟨"random-source", "random-source", .always⟩,
      ⟨"sort", "sort", .always⟩, ⟨"output", "o", .always⟩, ⟨"reverse", "r", .never⟩,
      ⟨"stable", "s", .never⟩, ⟨"batch-size", "batch-size", .always⟩,
      ⟨"buffer-size", "buffer-size", .always⟩, ⟨"field-separator", "t", .always⟩,
      ⟨"temporary-directory", "T", .always⟩, ⟨"unique", "u", .never⟩,
      ⟨"zero-terminated", "z", .never⟩, ⟨"parallel", "parallel", .always⟩] false

/-- An argument that ends in the letter of an option whose value is digits and counts for nothing:
    with such a value, unless the next argument is one. -/
def spellIdle (arg : Text) (next : Option Text) : Text :=
  if next.any fun t => t.any (¬ Char.isDigit ·) then arg ++ ['0'] else arg

/-- Arguments with the keys that operands with a sign say, together with an end after a dash, spelt
    as options: `+1.2n -3` for `-k2.3n,3`. So many arguments are looked at. -/
def spellKeys : Nat → List Text → List Text
  | 0, args => args
  | _, [] => []
  | steps + 1, arg :: rest =>
    if arg = "--".toList then arg :: rest
    else match signedPlace? '+' arg, orderOptions.reading? arg, rest with
      | none, some (_, .wants "y" _), rest =>
        let spelt := spellIdle arg rest.head?
        if spelt = arg then arg :: rest.take 1 ++ spellKeys steps (rest.drop 1)
        else spelt :: spellKeys steps rest
      | none, some (_, .wants _ _), rest =>
        arg :: rest.take 1 ++ spellKeys steps (rest.drop 1)
      | none, _, rest => arg :: spellKeys steps rest
      | some (start, letters), _, rest =>
        let key := ['-', oldKeyLetter] ++ Text.ofNat (start.field + 1) ++ "."
          ++ Text.ofNat (start.byte + 1) ++ letters
        match rest with
        | [] => [key]
        | next :: others => match signedPlace? '-' next with
          | some (⟨field, byte⟩, letters) =>
            let stop := if byte = 0 then Text.ofNat (max 1 field)
              else Text.ofNat (field + 1) ++ "." ++ Text.ofNat byte
            (key ++ "," ++ stop ++ letters) :: spellKeys steps others
          | none => key :: spellKeys steps rest

/-- What the options ask for. -/
structure OrderPlan where
  request : OrderRequest
  /-- Where the lines go, if not to the output. -/
  target : Option Text
  merging : Bool
  /-- The letter that asks for a check. -/
  check : Option Char
  /-- Whether the keys are shown. -/
  shows : Bool
  /-- The programs and files that can be named only once. -/
  helpers : List (String × Text)

/-- Lines byte by byte. -/
def OrderPlan.start : OrderPlan :=
  ⟨⟨[], none, .plain, false, false, 10, none⟩, none, false, none, false, []⟩

/-- The fault of options that cannot go together. -/
def incompatible (letters : Text) : Text := "options '-" ++ letters ++ "' are incompatible"

/-- The separator that a text means. -/
def readSeparator (cs : Charset) (text : Text) : Except Text UInt8 :=
  match text with
  | [] => .error "empty tab".toList
  | [c] => .ok (UInt8.ofNat c.toNat)
  | _ => if text = "\\0".toList then .ok 0
    else .error ("multi-character tab " ++ cs.quotedWord text)

/-- What a text is as a whole number: the number, the suffix after it, and whether the number is too
    large; nothing if it is none. -/
def leadingCount? (text : Text) : Option (Nat × Text) :=
  let body := text.dropWhile fun c => c = ' ' || (9 ≤ c.toNat && c.toNat ≤ 13)
  let body := if body.head? = some '+' then body.drop 1 else body
  let digits := body.takeWhile Char.isDigit
  (digitsValue? digits).map (·, body.drop digits.length)

/-- The fault of a value that is a number with a suffix. -/
def countFault (option : Text) (fault : Option SizeFault) (suffix : Bool) (text : Text) : Text :=
  match fault with
  | some .tooLarge => option ++ " argument '" ++ text ++ "' too large"
  | _ =>
    (if suffix then "invalid suffix in " else "invalid ") ++ option ++ " argument '" ++ text ++ "'"

/-- The number that is the value of an option; the error says what is wrong with it. -/
def readPlainCount (option text : Text) : Except Text Nat :=
  match leadingCount? text with
  | none => .error (countFault option none false text)
  | some (n, []) =>
    if n < numbersOf 64 then .ok n else .error (countFault option (some .tooLarge) false text)
  | some (_, _ :: _) => .error (countFault option none true text)

/-- What is wrong with the size of the buffer, if something is. -/
def bufferFault? (option text : Text) : Option Text :=
  let multiple? (suffix : Text) : Option Nat := match suffix with
    | [] => some 1024
    | ['b'] | ['%'] => some 1
    | [letter] =>
      (sizePower? (if letter = 'g' ∨ letter = 't' then letter.toUpper else letter)).map
        (Nat.pow 1024)
    | _ => none
  match leadingCount? text with
  | none =>
    if text ≠ [] ∧ (multiple? text).isSome ∧ text ≠ ['b'] ∧ text ≠ ['%'] then none
    else some (countFault option none false text)
  | some (n, suffix) => match multiple? suffix with
    | none => some (countFault option none true text)
    | some multiple =>
      if n * multiple < numbersOf 64 then none
      else some (countFault option (some .tooLarge) false text)

/-- How many files can be open at once. -/
def openFileLimit : Nat := 1048576

/-- What is wrong with the value of an option that says how to sort without being seen, if something
    is. -/
def effortFault? (c : Call) (name : String) (value : Text) : Option (List Text) :=
  let option : Text := if name.length = 1 then "-" ++ name else "--" ++ name
  match name with
  | "S" | "buffer-size" => (bufferFault? option value).map ([·])
  | "parallel" => match readPlainCount option value with
    | .ok 0 => some ["number in parallel must be nonzero"]
    | .ok _ => none
    | .error message => if (leadingCount? value).any (·.2 = []) then none else some [message]
  | "batch-size" => match readPlainCount option value with
    | .ok n =>
      if n < 2 then some ["invalid " ++ option ++ " argument " ++ c.charset.quotedWord value,
        "minimum " ++ option ++ " argument is " ++ c.charset.quotedWord ['2']]
      else if n ≤ openFileLimit - 3 then none else some tooLarge
    | .error message => some (if (leadingCount? value).any (·.2 = []) then tooLarge else [message])
  | _ => none
where
  /-- What is said of too many files. -/
  tooLarge : List Text :=
    ["--batch-size argument " ++ c.charset.quotedWord value ++ " too large",
      "maximum --batch-size argument with current rlimit is " ++ Text.ofNat (openFileLimit - 3)]

/-- The plan after one more option; the error is what is said. -/
def OrderPlan.change (c : Call) (p : OrderPlan) (name : String) (value : Text) :
    Except Account OrderPlan :=
  let q := p.request
  let plainly {α : Type} (r : Except Text α) : Except Account α := r.mapError (c.complain 2)
  let letter (p : OrderPlan) (l : Char) : OrderPlan :=
    { p with request := { q with style := (q.style.add? true true l).getD q.style } }
  let checking (l : Char) : Except Account OrderPlan :=
    if p.check.any (· ≠ l) then .error (c.complain 2 (incompatible "cC"))
    else .ok { p with check := some l }
  let once (what : Text) : Except Account OrderPlan :=
    if (p.helpers.lookup name).any (· ≠ value) then
      .error (c.complain 2 ("multiple " ++ what ++ " specified"))
    else .ok { p with helpers := (name, value) :: p.helpers }
  match name, effortFault? c name value with
  | _, some messages => .error (.all (messages.map (c.complain 2)))
  | "k", none | "\x00", none => (plainly (OrderKey.read c.charset (name ≠ "k") value)).map fun k =>
      { p with request := { q with keys := q.keys ++ [k] } }
  | "t", none => (plainly (readSeparator c.charset value)).bind fun b =>
      if q.separator.any (· ≠ b) then .error (c.complain 2 "incompatible tabs")
      else .ok { p with request := { q with separator := some b } }
  | "o", none =>
    if p.target.any (· ≠ value) then .error (c.complain 2 "multiple output files specified")
    else .ok { p with target := some value }
  | "s", none => .ok { p with request := { q with stable := true } }
  | "u", none => .ok { p with request := { q with unique := true } }
  | "z", none => .ok { p with request := { q with feed := 0 } }
  | "m", none => .ok { p with merging := true }
  | "c", none => checking 'c'
  | "C", none => checking 'C'
  | "check", none => checking 'c'
  | "check=", none => match checkChoice.find c value with
      | .ok l => checking l
      | .error message => .error (c.misuse 1 message)
  | "sort", none => match styleChoice.find c value with
    | .ok l => .ok (letter p l)
    | .error message => .error (c.misuse 1 message)
  | "debug", none => .ok { p with shows := true }
  | "compress-program", none => once "compress programs"
  | "random-source", none => once "random sources"
  | _, none => match name.toList with
    | [l] => .ok (letter p l)
    | _ => .ok p

/-- The plan after all options. -/
def OrderPlan.changeAll (c : Call) (p : OrderPlan) (given : List (String × Text)) :
    Except Account OrderPlan :=
  given.foldlM (fun p e => p.change c e.1 e.2) p

/-- What cannot go together in a plan. -/
def OrderPlan.clash? (p : OrderPlan) : Option Text :=
  match p.request.usedKeys.findSome? (·.style.clash?) with
  | some letters => some (incompatible letters)
  | none =>
    if ¬ p.shows then none
    else match p.check, p.target with
      | some letter, _ => some (incompatible ([letter] ++ " --debug"))
      | none, some _ => some (incompatible "o --debug")
      | none, none => none

end LineShell
