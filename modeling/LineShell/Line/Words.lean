import LineShell.Line.Quoting
/-!
    A line as words, and a line as the segments of a pipeline.

    Words are separated by blanks outside quotes; a pair of quotes makes a word even when nothing
    stands between them. Segments are separated by bars outside quotes, keep their quoting, have no
    blanks at their ends and are never empty. -/

namespace LineShell

/-- A line cut into words from inside: what is left of the word that the line starts in, if that
    is a word at all, and the words after it. -/
structure Cutting where
  first : Option (List Char)
  rest : List (List Char)
  deriving DecidableEq, Repr

/-- All the words of a cutting. -/
def Cutting.all (k : Cutting) : List (List Char) := k.first.toList ++ k.rest

/-- Text put before the word that a cutting starts in. -/
def Cutting.prepend (k : Cutting) (cs : List Char) : Cutting :=
  { k with first := some (cs ++ k.first.getD []) }

/-- A stretch of a line cut into words, from a quoting on. -/
def cutWords : Quoting → List Char → Cutting
  | _, [] => ⟨none, []⟩
  | q, c :: cs =>
    match q.step c with
    | (q, .plain t)   => (cutWords q cs).prepend t
    | (q, .bar)       => (cutWords q cs).prepend [c]
    | (q, .delimiter) => (cutWords q cs).prepend []
    | (q, .backslash) => cutWords q cs
    | (q, .blank)     => ⟨none, (cutWords q cs).all⟩

/-- The words of a line, with quotes and backslashes resolved. A bar is an ordinary character
    here. -/
def words (line : String) : List String :=
  (cutWords .bare line.toList).all.map String.ofList

/-- The stretches of a line between the bars outside quotes, from a quoting on. -/
def piecesFrom : Quoting → List Char → List (List Char)
  | _, [] => [[]]
  | q, c :: cs =>
    match q.step c with
    | (q, .bar) => [] :: piecesFrom q cs
    | (q, _)    => (piecesFrom q cs).modifyHead (c :: ·)

/-- The segments of a line: its stretches, trimmed, without those that hold nothing. -/
def segmentsOf (cs : List Char) : List (List Char) :=
  ((piecesFrom .bare cs).map trim).filter (· ≠ [])

/-- The segments of a line, one for each stage of the pipeline. -/
def segments (line : String) : List String :=
  (segmentsOf line.toList).map String.ofList

end LineShell
