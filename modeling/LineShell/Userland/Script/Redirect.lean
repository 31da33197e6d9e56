import LineShell.Userland.Script.Process
/-!
    What redirections do to the descriptors of a script.

    The words of all redirections are expanded before the first of them is opened. When the command
    ends, just those descriptors that it has redirected are as before. -/

namespace LineShell.Script

/-- A redirection whose words have been expanded. -/
inductive Opening where
  | file (descriptor : Nat) (mode : OpenMode) (path : Text)
  | duplicate (descriptor : Nat) (target : Option Nat)
  | document (descriptor : Nat) (body : Word)

/-- A redirection to what is no descriptor. This is found out when the command is run and counts as
    a fault of the text, at the line that is read next. -/
def badDescriptor : Action Opening := do
  modify fun s => { s with line := s.nextLine }
  abort "Syntax error: Bad fd number"

/-- Expands the word of a redirection. -/
def Redirection.expand (run : Runner) : Redirection → Action Opening
  | .file descriptor mode path =>
    return .file descriptor mode (← expandText (substitute run) .text path)
  | .duplicate descriptor target => return .duplicate descriptor target
  | .duplicateNamed descriptor target => do
    match ← expandText (substitute run) .text target with
    | ['-'] => return .duplicate descriptor none
    | [c] =>
      if c.isDigit then return .duplicate descriptor (some (digitValue c))
      else badDescriptor
    | _ => badDescriptor
  | .document descriptor number =>
    return .document descriptor (((← get).documents.lookup number).getD [])

/-- What is said of a file that cannot be opened. -/
def openFault (creating : Bool) (path : Text) (fault : Fault) : Text :=
  let reason : Text := match fault with
    | .notFound | .notDirectory => if creating then "Directory nonexistent" else "No such file"
    | fault => fault.reason.toList
  "cannot " ++ (if creating then "create " else "open ") ++ path ++ ": " ++ reason

/-- Opens a file for reading. -/
def openToRead (path : Text) : Action Stream := do
  let s ← get
  match s.tree.find s.dir (Text.toString path) with
  | .error fault => abort (openFault false path fault)
  | .ok seat => match s.tree.at? seat with
    | some (.file mode _) =>
      if mode &&& readBit = 0 then abort (openFault false path .permissionDenied)
      else return .file ⟨seat.place, false, 0⟩ true false
    | some (.directory mode) =>
      if mode &&& readBit = 0 then abort (openFault false path .permissionDenied)
      else return .directory
    | _ => return .file ⟨seat.place, false, 0⟩ true false

/-- Opens a file for writing. -/
def openToWrite (path : Text) (keeps append readable : Bool) : Action Stream := do
  let s ← get
  match s.tree.openFile s.dir (Text.toString path) (keeps || append) with
  | (.error fault, tree) =>
    set { s with tree }
    abort (openFault true path fault)
  | (.ok f, tree) =>
    set { s with tree }
    return .file { f with append } readable true

/-- Opens what a redirection asks for. -/
def Opening.perform (run : Runner) : Opening → Action Unit
  | .file descriptor mode path => do
    let s ← get
    let stream ← match mode with
      | .read => openToRead path
      | .append => openToWrite path true true false
      | .readWrite => openToWrite path true false true
      | .overwrite => openToWrite path false false false
      | .write =>
        if s.has 'C' ∧ s.tree.isFile s.dir (Text.toString path) then
          abort (openFault true path .exists)
        else openToWrite path false false false
    point descriptor (← newStream stream)
  | .duplicate descriptor none => modify fun s => s.close descriptor
  | .duplicate descriptor (some target) => do
    if descriptor = target then return
    match (← get).descriptors.lookup target with
    | some id => point descriptor id
    | none => abort (Text.ofNat target ++ ": Bad file descriptor")
  | .document descriptor body => do
    let text ← expandText (substitute run) .document body
    point descriptor (← newStream (.source text.toBytes .stream))

/-- Opens redirections up to the first that cannot be opened; whether there is none. -/
def openAll (run : Runner) (redirects : List Redirection) : Action Bool := do
  let openings ← redirects.mapM (Redirection.expand run)
  try
    openings.forM (Opening.perform run)
    return true
  catch
    | .failure => return false
    | stop => throw stop

/-- The descriptor that a redirection changes. -/
def Redirection.descriptor : Redirection → Nat
  | .file descriptor _ _ | .duplicate descriptor _ | .duplicateNamed descriptor _
  | .document descriptor _ => descriptor

/-- The state with the descriptors that redirections have changed as they were before. -/
def State.withoutRedirects (s : State) (redirects : List Redirection) (outer : Scope) : State :=
  redirects.foldl (fun s r =>
    let others := s.descriptors.filter (·.1 ≠ r.descriptor)
    { s with descriptors := match outer.descriptors.lookup r.descriptor with
      | some id => (r.descriptor, id) :: others
      | none => others }) s

end LineShell.Script
