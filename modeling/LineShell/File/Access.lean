import LineShell.File.Walk
/-!
    Reading files, and files that are open for writing.

    An open file remembers how far it has been written. Two that are open on one place know nothing
    of each other: each goes on where it stopped itself, unless it appends. A file is made where
    there is none, if the directory lets it be put there. -/

namespace LineShell

/-- The permission bits of a file that is made by opening it. -/
def newFileMode : Nat := 0o644

/-- A file that is open for writing. -/
structure OpenFile where
  place : Place
  append : Bool
  offset : Nat
  deriving DecidableEq, Repr

/-- The content after bytes have been written over it from an offset on. -/
def overwrite (content : Bytes) (offset : Nat) (bytes : Bytes) : Bytes :=
  content.take offset ++ List.replicate (offset - content.length) 0 ++ bytes
    ++ content.drop (offset + bytes.length)

theorem overwrite_length (content bytes : Bytes) :
    overwrite content content.length bytes = content ++ bytes := by
  simp [overwrite]

namespace FileTree

/-- The bytes of the file that a path means. -/
def read (t : FileTree) (dir : Seat) (path : String) : Except Fault Bytes :=
  match t.find dir path with
  | .error f => .error f
  | .ok s => match t.at? s with
    | some (.file mode content) =>
      if mode &&& readBit = 0 then .error .permissionDenied else .ok content
    | some (.directory mode) =>
      .error (if mode &&& readBit = 0 then .permissionDenied else .isDirectory)
    | _ => .ok []

/-- The text of the file that a path means. -/
def readText (t : FileTree) (dir : Seat) (path : String) : Except Fault String :=
  match t.read dir path with
  | .error f => .error f
  | .ok bytes => match Bytes.text? bytes with
    | some text => .ok text
    | none => .error .notText

/-- Opens what is at a place, emptied unless it is appended to. -/
def openPlace (t : FileTree) (p : Place) (append : Bool) : Except Fault OpenFile × FileTree :=
  match t.get? p with
  | some (.directory _) => (.error .isDirectory, t)
  | some (.file mode content) =>
    if mode &&& writeBit = 0 then (.error .permissionDenied, t)
    else (.ok ⟨p, append, 0⟩, t.put p (.file mode (if append then content else [])))
  | some _ => (.ok ⟨p, append, 0⟩, t)
  | none =>
    if t.forbids (.ofPlace p.dropLast) writeBit then (.error .permissionDenied, t)
    else (.ok ⟨p, append, 0⟩, t.put p (.file newFileMode []))

/-- Opens the file that a path means, emptied unless it is appended to. -/
def openFile (t : FileTree) (dir : Seat) (path : String) (append : Bool) :
    Except Fault OpenFile × FileTree :=
  match t.locate .create dir path with
  | .error f => (.error f, t)
  | .ok (.taken s) =>
    if s.lost = 0 then t.openPlace s.place append else (.error .isDirectory, t)
  | .ok (.free p) => t.openPlace p append

/-- Writes bytes to an open file: the file as it is open afterwards, or why it could not. -/
def write (t : FileTree) (f : OpenFile) (bytes : Bytes) : Except Fault OpenFile × FileTree :=
  if bytes = [] then (.ok f, t)
  else match t.get? f.place with
    | some (.file mode content) =>
      let start := if f.append then content.length else f.offset
      (.ok { f with offset := start + bytes.length },
        t.put f.place (.file mode (overwrite content start bytes)))
    | some (.device .full) => (.error .noSpace, t)
    | _ => (.ok f, t)

/-- Writes bytes to an open file, whether or not that is possible. -/
def writeAnyway (t : FileTree) (f : OpenFile) (bytes : Bytes) : OpenFile × FileTree :=
  match t.write f bytes with
  | (.ok f, t) => (f, t)
  | (.error _, t) => (f, t)

/-- Opens the file that a path means, writes bytes to it and closes it. -/
def writeFile (t : FileTree) (dir : Seat) (path : String) (append : Bool) (bytes : Bytes) :
    Except Fault Unit × FileTree :=
  match t.openFile dir path append with
  | (.error f, t) => (.error f, t)
  | (.ok file, t) => match t.write file bytes with
    | (.error f, t) => (.error f, t)
    | (.ok _, t) => (.ok (), t)

end FileTree

end LineShell
