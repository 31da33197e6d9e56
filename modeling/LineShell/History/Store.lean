import LineShell.Error
import LineShell.Machine
/-!
    The history: the lines that have been submitted, in order, and how many of them have been
    appended to files.

    Entries are only ever added at the end. A file holds an entry as a line. Appending writes what
    has not been appended before, and counts as done only once it has been written. -/

namespace LineShell

/-- The submitted lines. -/
structure History where
  entries : List String
  /-- How many entries have been appended to files. -/
  appended : Nat
  deriving DecidableEq, Repr

namespace History

/-- The history with nothing in it. -/
def empty : History := ⟨[], 0⟩

/-- The number of entries. -/
def length (h : History) : Nat := h.entries.length

/-- The history with one more entry. -/
def record (h : History) (line : String) : History := { h with entries := h.entries ++ [line] }

/-- The history with more entries. -/
def extend (h : History) (more : List String) : History :=
  { h with entries := h.entries ++ more }

/-- The entries that have not been appended to a file. -/
def pending (h : History) : List String := h.entries.drop h.appended

/-- One line of the listing. -/
def listingLine (number : Nat) (entry : String) : String :=
  "    " ++ toString number ++ "  " ++ entry ++ "\n"

/-- The listing of entries that are numbered from a number on. -/
def listingFrom : Nat → List String → String
  | _, [] => ""
  | number, entry :: rest => listingLine number entry ++ listingFrom (number + 1) rest

/-- The listing of the last entries, or of all. -/
def listing (h : History) (last : Option Nat) : String :=
  let start := match last with
    | some n => h.length - n
    | none => 0
  listingFrom (start + 1) (h.entries.drop start)

/-! ### Files -/

/-- The history with the lines of a file added, and how many they are. -/
def load (h : History) (m : Machine) (path : String) : Except Failure (Nat × History) :=
  match m.tree.readText m.workDir path with
  | .ok text => .ok ((lines text).length, h.extend (lines text))
  | .error f => .error (.history path f)

/-- Puts all entries in the place of what a file holds. -/
def store (h : History) (m : Machine) (path : String) : Except Failure Unit × Machine :=
  match m.writeFile path false (unlines h.entries) with
  | (.ok _, m)    => (.ok (), m)
  | (.error f, m) => (.error (.history path f), m)

/-- Appends the pending entries to a file; how many they were, and the history that has none
    pending. -/
def flush (h : History) (m : Machine) (path : String) :
    Except Failure (Nat × History) × Machine :=
  match m.writeFile path true (unlines h.pending) with
  | (.ok _, m)    => (.ok (h.pending.length, { h with appended := h.length }), m)
  | (.error f, m) => (.error (.history path f), m)

end History

end LineShell
