import LineShell.Text.Cut
/-!
    Paths as texts: joining, and the names a path is made of.

    Joining never normalises: a relative path is put after its base with one slash between them
    unless the base brings one, an absolute path replaces the base. So the empty path leaves a
    slash at the end. -/

namespace LineShell

/-- Whether a path starts at the root. -/
def isAbsolute (path : String) : Bool := path.toList.head? = some '/'

/-- Whether a path ends in a slash. -/
def endsInSlash (path : String) : Bool := path.toList.getLast? = some '/'

/-- A path as seen from a base. -/
def joinPath (base path : String) : String :=
  if isAbsolute path then path
  else if base = "" ∨ endsInSlash base then base ++ path
  else base ++ "/" ++ path

/-- The names between the slashes of a path, `.` and `..` among them. -/
def pathNames (path : String) : List String :=
  (cutNonempty '/' path.toList).map String.ofList

/-- The components of a relative path: its names without those `.` that do not stand at the
    start. -/
def pathComponents (path : String) : List String :=
  match pathNames path with
  | [] => []
  | name :: rest => name :: rest.filter (· ≠ ".")

/-- The elements of a search path, empty ones included. -/
def searchElements (search : String) : List String :=
  (cut ':' search.toList).map String.ofList

/-! ### Joining keeps what it should -/

theorem joinPath_absolute {base path : String} (h : isAbsolute path = true) :
    joinPath base path = path := by
  simp [joinPath, h]

theorem isAbsolute_append {s t : String} (h : isAbsolute s = true) :
    isAbsolute (s ++ t) = true := by
  simp only [isAbsolute, decide_eq_true_eq, String.toList_append] at h ⊢
  cases hs : s.toList with
  | nil => simp [hs] at h
  | cons c cs => simpa [hs] using h

end LineShell
