import LineShell.Userland.Programs.Ends
/-!
    The utility `wc`: the lines, words, characters and bytes of its operands.

    Counts stand in columns. The columns are as wide as the size of all regular operands needs, or
    seven wide if something else is read; a lone count of a lone operand has no column. Bytes alone
    are counted by the size of a regular file, which is not read for it (`Call.sizedInput?`). -/

namespace LineShell

/-- How symbols are counted. -/
structure CountStyle where
  charset : Charset
  /-- Whether spaces at which no line is broken part words, too. -/
  loose : Bool

/-- Spaces at which no line is broken. -/
def firmSpaces : List Symbol := [0xA0, 0x2007, 0x202F, 0x2060]

/-- The number of words and whether one has begun, after one more symbol. What cannot be printed
    neither starts nor ends a word. -/
def CountStyle.addWord (s : CountStyle) (words : Nat × Bool) (x : Symbol) : Nat × Bool :=
  let parts := s.charset.isSpace x || (s.loose && s.charset = .utf8 && firmSpaces.contains x)
  if parts then (words.1, false)
  else if s.charset.isPrintable x then (if words.2 then words.1 else words.1 + 1, true)
  else words

/-- The number of words. -/
def CountStyle.words (s : CountStyle) (symbols : List Symbol) : Nat :=
  (symbols.foldl s.addWord (0, false)).1

/-- How many symbols are characters. -/
def CountStyle.characters (symbols : List Symbol) : Nat := symbols.countP (!Symbol.isStray ·)

/-- How wide the widest line is shown. Tabs go on to the next multiple of eight. -/
def CountStyle.widest (s : CountStyle) (symbols : List Symbol) : Nat :=
  let step (widest : Nat × Nat) (x : Symbol) : Nat × Nat :=
    if x = 10 ∨ x = 12 ∨ x = 13 then (widest.1, 0)
    else
      let column := if x = 9 then widest.2 + 8 - widest.2 % 8
        else widest.2 + (s.charset.columns? x).getD 0
      (max widest.1 column, column)
  (symbols.foldl step (0, 0)).1

/-- A column of counts. -/
structure CountColumn where
  /-- The option that asks for it. -/
  name : String
  count : CountStyle → Bytes → Nat
  /-- How the counts of several operands are taken together. -/
  total : Nat → Nat → Nat

/-- All columns, in their order. -/
def countColumns : List CountColumn :=
  let bySymbols (f : CountStyle → List Symbol → Nat) (s : CountStyle) (bytes : Bytes) : Nat :=
    f s (s.charset.read bytes)
  [⟨"l", fun _ => List.count 10, (· + ·)⟩, ⟨"w", bySymbols CountStyle.words, (· + ·)⟩,
    ⟨"m", bySymbols fun _ => CountStyle.characters, (· + ·)⟩,
    ⟨"c", fun _ => List.length, (· + ·)⟩, ⟨"L", bySymbols CountStyle.widest, max⟩]

/-- The columns that the options ask for. -/
def wantedColumns (o : Options) : List CountColumn :=
  let names := if countColumns.any fun column => o.has column.name then o.given.map (·.1)
    else ["l", "w", "c"]
  countColumns.filter (·.name ∈ names)

/-- A number on the right of a column. -/
def padLeft (width : Nat) (text : Text) : Text := List.replicate (width - text.length) ' ' ++ text

/-- One line of counts. -/
def countLine (width : Nat) (counts : List Nat) (label : Option Text) : Account :=
  .text (Text.spaced (counts.map (fun n => padLeft width (.ofNat n)) ++ label.toList) ++ "\n")

/-- The size of an operand: of a regular file, if it is one; nothing if it is not there at all. -/
def operandSize (c : Call) (operand : Text) : Option (Option Nat) :=
  if operand = inputOperand then match c.streams.inlet with
    | .file _ before => some (some (before + c.streams.input.length))
    | .writeOnly | .closed => none
    | _ => some none
  else match c.tree.node? c.dir operand.toString with
    | some (.file _ content) => some (some content.length)
    | some _ => some none
    | none => none

/-- How wide the columns are. -/
def countWidth (c : Call) (columns : Nat) (operands : List Text) : Nat :=
  if operands.length = 1 ∧ columns = 1 then 1
  else
    let sizes := operands.filterMap (operandSize c)
    let least := if sizes.all Option.isSome then 1 else 7
    max least (Text.ofNat ((sizes.map (·.getD 0)).foldl (· + ·) 0)).length

/-- What is wrong with the name of an operand, if something is; `list` is the file that it stands
    in and its number there. -/
def countNameFault? (c : Call) (list : Option (Text × Nat)) (name : Text) : Option Account :=
  match list, name with
  | none, [] => some (c.complain 1 "invalid zero-length file name")
  | some (file, number), [] => some (c.complain 1 (c.charset.quotedName file ++ ":"
      ++ Text.ofNat number ++ ": invalid zero-length file name"))
  | some (['-'], _), ['-'] => some (c.complain 1
      ("when reading file names from stdin, no file name of "
        ++ c.charset.nameInQuotes inputOperand ++ " allowed"))
  | _, _ => none

/-- The name of an operand beside its counts. -/
def countLabel (c : Call) (name : Text) : Text :=
  if '\n' ∈ name then c.charset.quotedName name else name

/-- The counts of one operand. -/
def countOne (c : Call) (s : CountStyle) (columns : List CountColumn) (width : Nat)
    (labelled : Bool) (list : Option (Text × Nat)) (e : Text × Except Fault Bytes) : Account :=
  let line (bytes : Bytes) : Account :=
    countLine width (columns.map (·.count s bytes))
      (if labelled then some (countLabel c e.1) else none)
  match countNameFault? c list e.1, e.2 with
  | some account, _ => account
  | none, .ok bytes => line bytes
  | none, .error fault =>
    let message := operandError c 1 (if labelled then e.1 else shownOperand e.1) fault
    if fault.isUnreadable ∨ e.1 = inputOperand then message.andThen (line []) else message

/-- The options of `wc`. -/
def countOptions : OptionTable :=
  .of ("clLmw".toList.map (·, .never))
    [⟨"bytes", "c", .never⟩, ⟨"chars", "m", .never⟩, ⟨"lines", "l", .never⟩,
      ⟨"words", "w", .never⟩, ⟨"files0-from", "files", .always⟩,
      ⟨"max-line-length", "L", .never⟩] false

/-- The size of a page of memory. -/
def pageSize : Nat := 4096

/-- How much of the standard input is counted and how much of it is taken, if it is counted by its
    size. A file whose size is a multiple of a page is read, from a place that is so far beyond the
    current one as that is from the start of the last page. -/
def Call.sizedInput? (c : Call) (s : CountStyle) (columns : List CountColumn) :
    Option (Nat × Nat) :=
  let sized (name : String) : Bool := name = "c" || (name = "m" && s.charset = .single)
  match c.streams.inlet, columns.all (sized ·.name) with
  | .file _ before, true =>
    let rest := c.streams.input.length
    let size := before + rest
    let far := size - size % (pageSize + 1)
    if size % pageSize ≠ 0 then some (rest, 0)
    else if before < far then some ((far - before) + (size - (before + far)), rest)
    else none
  | _, _ => none

/-- What operands hold for counting, and how much of the standard input is taken. -/
def Call.countedContents (c : Call) (s : CountStyle) (columns : List CountColumn)
    (operands : List Text) : List (Text × Except Fault Bytes) × Nat :=
  match c.sizedInput? s columns with
  | some (counted, taken) =>
    let c := { c with streams := { c.streams with input := c.streams.input.take counted } }
    if taken = 0 then (operands.flatMap fun operand => c.contents true [operand], 0)
    else (c.contents true operands, if inputOperand ∈ operands then taken else 0)
  | none => (c.contents true operands, c.takenBy operands)

/-- Counts of operands, in columns unless they are to be narrow. `list` is the file that names the
    operands, if one does. -/
def countOperands (c : Call) (o : Options) (named narrow : Bool) (list : Option Text)
    (operands : List Text) : Account :=
  let s : CountStyle := ⟨c.charset, (c.vars.lookup "POSIXLY_CORRECT".toList).isNone⟩
  let columns := wantedColumns o
  let (entries, taken) := c.countedContents s columns operands
  let width := if narrow then 1 else countWidth c columns.length operands
  let lines := entries.mapIdx fun i e =>
    countOne c s columns width named (list.map fun file => (file, i + 1)) e
  let held := entries.map fun e => e.2.toOption.getD []
  let sums := columns.map fun column => (held.map (column.count s)).foldl column.total 0
  let total := if 1 < entries.length then countLine width sums (some "total".toList) else .silent 0
  ((Account.all (lines ++ [total])).andThen (c.closing operands "-")).taking taken

/-- The operands in a file, each ended by U+0000. -/
def listedOperands (bytes : Bytes) : List Text :=
  let pieces := cut 0 bytes
  (if pieces.getLast? = some [] then pieces.dropLast else pieces).map Text.ofBytes

/-- How `wc` takes it that its output cannot be written: each line is written at once. -/
def countSetback : Setback :=
  ⟨1, none, fun name fault _ => writeError name fault (.late (fault = .badDescriptor))⟩

/-- The utility that counts. -/
def Utility.wc : Utility := ⟨countSetback, fun c =>
  let notice := Notice.madeBy "wc" ["Paul Rubin", "David MacKenzie"]
  c.withOptions notice countOptions 1 (fun _ => none) fun o =>
    match o.value? "files", o.operands with
    | none, operands => countOperands c o (operands ≠ []) false none (orInput operands)
    | some _, extra :: _ => c.misuse 1 ("extra operand " ++ c.charset.nameInQuotes extra
        ++ "\nfile operands cannot be combined with --files0-from")
    | some file, [] => match c.contents true [file] with
      | (_, .ok bytes) :: _ =>
        let narrow := file = inputOperand ∧ ¬ c.streams.inlet.isFile
        let rest := { c with streams := { c.streams with
          input := if file = inputOperand then [] else c.streams.input } }
        let account := countOperands rest o true narrow (some file) (listedOperands bytes)
        account.taking (if file = inputOperand then bytes.length else account.taken)
      | (_, .error fault) :: _ =>
        if fault.isUnreadable ∨ file = inputOperand then
          c.complain 1 (c.charset.quotedName file ++ ": read error: " ++ fault.reason)
        else
          c.complain 1 ("cannot open " ++ c.charset.nameInQuotes file ++ " for reading: "
            ++ fault.reason)
      | [] => .silent 0⟩

end LineShell
