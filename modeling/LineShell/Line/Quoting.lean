import LineShell.Text.Blank
/-!
    What each character of a line means once quotes and backslashes are taken into account.

    The meaning is read off by an automaton whose state is the quoting at the character. A backslash
    outside quotes makes the next character plain; between double quotes it makes a quote or a
    backslash plain and is itself kept before anything else; between single quotes nothing is
    special but the quote.

        bare ──'──▶ single ──'──▶ bare        bare ──\──▶ bareEscape ──any──▶ bare
        bare ──"──▶ double ──"──▶ bare      double ──\──▶ doubleEscape ──any──▶ double

    Both readings of a line, as words and as segments, run this automaton, so they agree on which
    bars are plain text. -/

namespace LineShell

/-- The quoting that a character is read in. -/
inductive Quoting where
  | bare | bareEscape | single | double | doubleEscape
  deriving DecidableEq, Repr

/-- What a character means in its quoting. -/
inductive Sense where
  /-- Literal text of the current word. -/
  | plain (cs : List Char)
  /-- A blank outside quotes. -/
  | blank
  /-- A bar outside quotes. -/
  | bar
  /-- A quote that opens or closes. -/
  | delimiter
  /-- A backslash that waits for the next character. -/
  | backslash
  deriving DecidableEq, Repr

/-- A character outside quotes with no backslash before it. -/
def bareSense (c : Char) : Quoting × Sense :=
  if c = '\\' then (.bareEscape, .backslash)
  else if c = '\x27' then (.single, .delimiter)
  else if c = '\x22' then (.double, .delimiter)
  else if c = '|' then (.bare, .bar)
  else if isBlank c then (.bare, .blank)
  else (.bare, .plain [c])

/-- A character between double quotes with no backslash before it. -/
def doubleSense (c : Char) : Quoting × Sense :=
  if c = '\\' then (.doubleEscape, .backslash)
  else if c = '\x22' then (.bare, .delimiter)
  else (.double, .plain [c])

/-- One character: the quoting after it, and what it means. -/
def Quoting.step : Quoting → Char → Quoting × Sense
  | .bare,         c => bareSense c
  | .bareEscape,   c => (.bare, .plain [c])
  | .single,       c => if c = '\x27' then (.bare, .delimiter) else (.single, .plain [c])
  | .double,       c => doubleSense c
  | .doubleEscape, c =>
    (.double, .plain (if c = '\\' ∨ c = '\x22' then [c] else ['\\', c]))

/-- The quoting after a stretch of characters. -/
def Quoting.after (q : Quoting) (cs : List Char) : Quoting :=
  cs.foldl (fun q c => (q.step c).1) q

end LineShell
