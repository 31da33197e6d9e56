import LineShell.File.Fault
import LineShell.File.Tree
/-!
    Finding the place that a path means.

    A walk goes through the names of a path from a directory. `.` stays, `..` goes up, a link sends
    the walk through its target, and every name but the last must be a directory. A name can be
    looked for only in a directory that may be searched, `.` and `..` as well. The first name that
    cannot be passed decides the fault. After `linkLimit` links the walk gives up, so it always
    ends.

    A process stays in its directory when that is removed from the tree. Nothing is found in such a
    directory and nothing can be put there, but `..` still leads up from it (`Seat`). -/

namespace LineShell

/-- What the path is wanted for. -/
inductive Aim where
  /-- What the path means, through all links. -/
  | use
  /-- The same, but a file is to be made if there is none. -/
  | create
  /-- What the last name stands for, even if that is a link. -/
  | inspect
  deriving DecidableEq, Repr

/-- A directory that a walk or a process is in: the place that it has, or had before some of the
    names at the end of the place were removed from the tree. -/
structure Seat where
  place : Place
  /-- How many names at the end of the place have been removed since. -/
  lost : Nat
  deriving DecidableEq, Repr

namespace Seat

/-- The directory that is at a place. -/
def ofPlace (p : Place) : Seat := ⟨p, 0⟩

/-- The root. -/
def root : Seat := .ofPlace []

/-- The directory above. -/
def parent (s : Seat) : Seat := ⟨s.place.dropLast, s.lost - 1⟩

/-- What is under a name in a directory. -/
def child (s : Seat) (name : String) : Seat := ⟨s.place ++ [name], s.lost⟩

/-- The directory after a place and everything below it has been removed. Once lost a directory
    stays lost, whatever is put in its place. -/
def afterRemoval (s : Seat) (p : Place) : Seat :=
  if p.isPrefixOf (s.place.take (s.place.length - s.lost)) ∧ p ≠ [] then
    ⟨s.place, s.place.length + 1 - p.length⟩
  else s

end Seat

/-- Where a walk ends. -/
inductive Spot where
  /-- Something is there; only a directory can be lost. -/
  | taken (s : Seat)
  /-- Nothing is there, but its directory is. -/
  | free (p : Place)
  deriving DecidableEq, Repr

/-- The longest name, in bytes. -/
def nameLimit : Nat := 255

/-- The length in bytes at which a path is too long. -/
def pathLimit : Nat := 4096

/-- The number of links that a walk may go through. -/
def linkLimit : Nat := 40

namespace FileTree

/-- What a seat or a name in it stands for; a lost directory is empty, and may be searched. -/
def at? (t : FileTree) (s : Seat) : Option Node :=
  if s.lost = 0 then t.get? s.place else some (.directory usualMode)

/-- Whether a seat or a name in it stands for a directory. -/
def isDirectoryAt (t : FileTree) (s : Seat) : Bool := (t.at? s).any Node.isDirectory

/-- Whether a directory lacks a permission bit. -/
def forbids (t : FileTree) (s : Seat) (bit : Nat) : Bool := (t.at? s).any (Node.forbids bit)

/-- A walk between two links; `enter` goes on after a link has been met. `slash` says that the path
    ends in a slash, so that its last name has to be a directory. -/
def walkUntilLink (t : FileTree) (aim : Aim)
    (enter : Seat → List String → Bool → Except Fault Spot) :
    Seat → List String → Bool → Except Fault Spot
  | here, [], _ => .ok (.taken here)
  | here, name :: rest, slash =>
    if t.forbids here searchBit then .error .permissionDenied
    else if name = "." then walkUntilLink t aim enter here rest slash
    else if name = ".." then walkUntilLink t aim enter here.parent rest slash
    else if aim = .create ∧ rest = [] ∧ slash then .error .isDirectory
    else if here.lost ≠ 0 then .error .notFound
    else if nameLimit < name.utf8ByteSize then .error .nameTooLong
    else match t.get? (here.place ++ [name]) with
      | none => if rest = [] then .ok (.free (here.place ++ [name])) else .error .notFound
      | some (.directory _) => walkUntilLink t aim enter (here.child name) rest slash
      | some (.link target) =>
        if aim = .inspect ∧ rest = [] ∧ ¬ slash then .ok (.taken (here.child name))
        else enter (if isAbsolute target then .root else here) (pathNames target ++ rest)
          (slash || (rest.isEmpty && endsInSlash target))
      | some _ =>
        if rest = [] ∧ ¬ slash then .ok (.taken (here.child name)) else .error .notDirectory

/-- A walk through at most `links` links. -/
def walk (t : FileTree) (aim : Aim) : Nat → Seat → List String → Bool → Except Fault Spot
  | 0 => t.walkUntilLink aim fun _ _ _ => .error .linkLoop
  | links + 1 => t.walkUntilLink aim (t.walk aim links)

/-- The end of the walk that a path of any length describes, seen from a directory. -/
def follow (t : FileTree) (aim : Aim) (dir : Seat) (path : String) : Except Fault Spot :=
  if '\x00' ∈ path.toList then .error .nulInPath
  else if path = "" then .error .notFound
  else
    let start := if isAbsolute path then .root else dir
    if t.isDirectoryAt start then
      t.walk aim linkLimit start (pathNames path) (endsInSlash path)
    else .error .notFound

/-- The end of the walk that a path describes, seen from a directory. -/
def locate (t : FileTree) (aim : Aim) (dir : Seat) (path : String) : Except Fault Spot :=
  if '\x00' ∉ path.toList ∧ pathLimit ≤ path.utf8ByteSize then .error .nameTooLong
  else t.follow aim dir path

/-- The place of what a walk has found, if that is something. -/
def found : Except Fault Spot → Except Fault Seat
  | .ok (.taken s) => .ok s
  | .ok (.free _)  => .error .notFound
  | .error f       => .error f

/-- The place of what a path means, if there is something. -/
def find (t : FileTree) (dir : Seat) (path : String) : Except Fault Seat :=
  found (t.locate .use dir path)

/-- What a path means, if there is something. -/
def node? (t : FileTree) (dir : Seat) (path : String) : Option Node :=
  match t.find dir path with
  | .ok s    => t.at? s
  | .error _ => none

/-- Whether a path means a regular file. -/
def isFile (t : FileTree) (dir : Seat) (path : String) : Bool :=
  match t.node? dir path with
  | some (.file _ _) => true
  | _ => false

/-- Whether a path means a directory. -/
def isDirectory (t : FileTree) (dir : Seat) (path : String) : Bool :=
  (t.node? dir path).any Node.isDirectory

/-- The permission bits that let anyone execute a file. -/
def executeBits : Nat := 0o111

/-- Whether a path means a regular file with an execute bit. -/
def isExecutable (t : FileTree) (dir : Seat) (path : String) : Bool :=
  match t.node? dir path with
  | some (.file mode _) => mode &&& executeBits ≠ 0
  | _ => false

/-- A directory that has been found, unless it is none. -/
def asDirectory (t : FileTree) (r : Except Fault Seat) : Except Fault Seat :=
  match r with
  | .ok s    => if t.isDirectoryAt s then .ok s else .error .notDirectory
  | .error f => .error f

/-- The directory that a path means. -/
def findDirectory (t : FileTree) (dir : Seat) (path : String) : Except Fault Seat :=
  t.asDirectory (t.find dir path)

/-- The directory that a path means, to work in: that takes the right to search it. -/
def enterDirectory (t : FileTree) (dir : Seat) (path : String) : Except Fault Seat :=
  match t.findDirectory dir path with
  | .ok s    => if t.forbids s searchBit then .error .permissionDenied else .ok s
  | .error f => .error f

/-- The directory that a path means, which may be longer than the system takes as long as the
    directory's own place is not. From a directory that is lost only absolute paths mean anything
    here, since the place that it has would have to be known. -/
def resolveDirectory (t : FileTree) (dir : Seat) (path : String) : Except Fault Seat :=
  if dir.lost ≠ 0 ∧ isAbsolute path = false then .error .notFound
  else match t.asDirectory (found (t.follow .use dir path)) with
    | .ok s =>
      if pathLimit ≤ (placeText s.place).utf8ByteSize then .error .nameTooLong else .ok s
    | .error f => .error f

/-- The names in the directory that a path means, if it may be read. -/
def listDirectory (t : FileTree) (dir : Seat) (path : String) : Except Fault (List String) :=
  match t.findDirectory dir path with
  | .ok s    =>
    if t.forbids s readBit then .error .permissionDenied
    else .ok (if s.lost = 0 then (t.children s.place).filterMap (·.getLast?) else [])
  | .error f => .error f

end FileTree

end LineShell
