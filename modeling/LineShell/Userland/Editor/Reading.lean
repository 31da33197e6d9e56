import LineShell.Dialogue
import LineShell.Userland.Editor.Grapheme
/-!
    How lines are read that do not come from a terminal.

    A line loses its line feed and a carriage return before that, and each backspace takes back the
    character before it. A backspace that would tear a character apart is more than the editor can
    bear. -/

namespace LineShell

/-- A line of the input as it was typed. `ended` says that a line feed stood at its end. -/
def typedLine (bytes : Bytes) (ended : Bool) : TypedLine :=
  match Bytes.chars? bytes with
  | none => .failed .notText
  | some cs => match applyBackspaces? (if ended then dropReturn cs else cs) with
    | some cs => .line (String.ofList cs)
    | none => .broken

/-- The lines of the input; what follows the last line feed is a line only if it holds something. -/
def typedLines : LineReader := fun input =>
  let pieces := cut 10 input
  pieces.dropLast.map (typedLine · true)
    ++ (pieces.getLast?.toList.filter (· ≠ [])).map (typedLine · false)

end LineShell
