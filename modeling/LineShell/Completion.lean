import LineShell.Search
import LineShell.Text.Blank
import LineShell.Text.Bytes
/-!
    Completing the command word.

    The completions are the builtins and the executable files of the search path whose names start
    with what has been typed, each once, in order, with a space after it. Several completions that
    agree on more than what has been typed are narrowed down to what they agree on. -/

namespace LineShell

/-- A name put where it belongs among names in strictly increasing order. -/
def insertName (name : String) : List String → List String
  | [] => [name]
  | n :: ns =>
    if name < n then name :: n :: ns
    else if name = n then n :: ns
    else n :: insertName name ns

/-- Whether a name starts with what has been typed. -/
def startsWith (typed name : String) : Bool := typed.toList.isPrefixOf name.toList

/-- The executable files in a directory. A directory that cannot be read has none. -/
def executablesIn (m : Machine) (dir : String) : List String :=
  match m.tree.listDirectory m.workDir dir with
  | .ok names => names.filter fun name => m.isExecutable (joinPath dir name)
  | .error _ => []

/-- Every name that runs something by way of a search path, in strictly increasing order. -/
def completedNames (m : Machine) (typed search : String) : List String :=
  let names := Builtin.all.map (·.name) ++ (searchElements search).flatMap (executablesIn m)
  (names.filter (startsWith typed)).foldr insertName []

/-- The names that complete what has been typed, each followed by a space. -/
def completions (m : Machine) (typed search : String) : List String :=
  (completedNames m typed search).map (· ++ " ")

/-- What two texts agree on from the start. -/
def agreement : List Char → List Char → List Char
  | c :: cs, d :: ds => if c = d then c :: agreement cs ds else []
  | _, _ => []

/-- What all of the texts agree on from the start. -/
def commonStart : List String → String
  | [] => ""
  | w :: ws => String.ofList (ws.foldl (fun cs v => agreement cs v.toList) w.toList)

/-- Several completions are narrowed down to what they agree on, if that says more than what has
    been typed. -/
def narrowed (typed : String) (found : List String) : List String :=
  if found.length < 2 then found
  else
    let common := commonStart found
    if typed.utf8ByteSize < common.utf8ByteSize then [common] else found

/-- One thing to put in the place of the typed word. -/
structure Suggestion where
  shown : String
  inserted : String
  deriving DecidableEq, Repr

/-- The longest start of a text that is no longer than a number of bytes. -/
def takeBytes : Nat → List Char → List Char
  | _, [] => []
  | n, c :: cs => if c.utf8Size ≤ n then c :: takeBytes (n - c.utf8Size) cs else []

/-- The number of bytes of a text. -/
def byteCount (cs : List Char) : Nat := (Bytes.ofChars cs).length

/-- The suggestions for a line with the cursor after `pos` bytes, and where the text that they
    replace starts. Only the first word of a line is completed. -/
def suggest (m : Machine) (search line : String) (pos : Nat) : Nat × List Suggestion :=
  let before := takeBytes pos line.toList
  let word := trimStart before
  if word.any isBlank then (pos, [])
  else
    let typed := String.ofList word
    (byteCount before - byteCount word,
      (narrowed typed (completions m typed search)).map fun name =>
        ⟨String.ofList (trimEnd name.toList), name⟩)

end LineShell
