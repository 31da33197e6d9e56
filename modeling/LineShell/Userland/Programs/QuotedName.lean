import LineShell.Userland.Text.Charset
/-!
    File names and other words as messages show them.

    A name of harmless characters is shown as it is. Any other is shown as a word that a shell
    would read back as the name: between double quotes if only a single quote is in the way,
    otherwise between single quotes, with bytes that cannot be printed written as octal escapes. A
    word that is no name always stands between quotes, which are curved where the charset has
    those. -/

namespace LineShell

/-- The characters that quotes are needed for wherever they stand. -/
def quotedAnywhere : List Char := " !\"$&()*;<=>?[\\^`|:".toList

/-- The characters that quotes are needed for at the start. -/
def quotedAtStart : List Char := ['#', '~']

/-- The characters other than letters and digits that may stand between double quotes as they
    are. -/
def plainPunctuation : List Char := " %+,-./:@]_'".toList

/-- A byte as an octal escape. -/
def octalEscape (b : UInt8) : Text :=
  let n := b.toNat
  let digit (k : Nat) : Char := Char.ofNat ('0'.toNat + k % 8)
  ['\\', digit (n / 64), digit (n / 8), digit n]

/-- The escape of a byte that cannot be printed. -/
def byteEscape (b : UInt8) : Text :=
  if b = 7 then ['\\', 'a'] else if b = 8 then ['\\', 'b'] else if b = 9 then ['\\', 't']
  else if b = 10 then ['\\', 'n'] else if b = 11 then ['\\', 'v'] else if b = 12 then ['\\', 'f']
  else if b = 13 then ['\\', 'r'] else octalEscape b

namespace Charset

/-- The characters of a text, each with its bytes and whether it can be printed. -/
def glyphs (cs : Charset) (t : Text) : List (Symbol × Text) :=
  (cs.read t.toBytes).map fun s => (s, .ofBytes (cs.symbolBytes s))

/-- The escapes of the bytes of a character. -/
def escapes (bytes : Text) : Text := (Text.toBytes bytes).flatMap byteEscape

/-- Characters between single quotes; `escaping` says that an escape stands before them. -/
def inSingleQuotes (cs : Charset) : Bool → List (Symbol × Text) → Text
  | _, [] => []
  | escaping, (s, bytes) :: rest =>
    if s = 0x27 then ['\x27', '\\', '\x27', '\x27'] ++ cs.inSingleQuotes false rest
    else if cs.isPrintable s then
      (if escaping then ['\x27', '\x27'] else []) ++ bytes ++ cs.inSingleQuotes false rest
    else (if escaping then [] else ['\x27', '$', '\x27']) ++ escapes bytes
      ++ cs.inSingleQuotes true rest

/-- Whether a name is shown as it is. -/
def isPlainName (cs : Charset) (name : Text) : Bool :=
  let special (s : Symbol) : Bool :=
    !cs.isPrintable s || s = 0x27 || (s < 0x80 && Char.ofNat s ∈ quotedAnywhere)
  let start := match name with
    | c :: _ => c ∈ quotedAtStart
    | [] => true
  let lone : Bool := name = ['\x7b'] || name = ['\x7d']
  !((cs.read name.toBytes).any special || start || lone)

/-- Whether a name can stand between double quotes as it is. -/
def isDoubleQuotable (cs : Charset) (name : Text) : Bool :=
  let rest : Text := if name.head?.any (quotedAtStart.contains ·) then name.drop 1 else name
  name.contains '\x27' && (cs.read (Text.toBytes rest)).all fun s =>
    if s < 0x80 then
      let c := Char.ofNat s
      cs.isPrintable s && (c.isAlphanum || c ∈ plainPunctuation)
    else cs.isPrintable s

/-- A file name between quotes. One with a single quote in it and an escape at its end starts as if
    it came after an escape. -/
def nameInQuotes (cs : Charset) (name : Text) : Text :=
  let glyphs := cs.glyphs name
  let wraps := name.contains '\x27' && glyphs.getLast?.any fun g => !cs.isPrintable g.1
  if cs.isDoubleQuotable name then ['"'] ++ name ++ ['"']
  else '\x27' :: cs.inSingleQuotes wraps glyphs ++ ['\x27']

/-- A file name as messages show it. -/
def quotedName (cs : Charset) (name : Text) : Text :=
  if cs.isPlainName name then name else cs.nameInQuotes name

/-- The quotes around words. -/
def quotes (cs : Charset) : Text × Text :=
  match cs with
  | .single => (['\x27'], ['\x27'])
  | .utf8 => (.ofString "\u2018", .ofString "\u2019")

/-- A word other than a file name as messages show it: between quotes, with escapes. -/
def quotedWord (cs : Charset) (word : Text) : Text :=
  let shown (g : Symbol × Text) : Text :=
    if g.1 = 0x5C ∨ g.2 = cs.quotes.2 then '\\' :: g.2
    else if cs.isPrintable g.1 then g.2
    else escapes g.2
  cs.quotes.1 ++ (cs.glyphs word).flatMap shown ++ cs.quotes.2

end Charset

end LineShell
