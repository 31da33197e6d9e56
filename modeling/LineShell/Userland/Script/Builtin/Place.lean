import LineShell.Userland.Script.Options
/-!
    The builtins for the place that a script works in: its directory and the permissions that its
    files start with. -/

namespace LineShell.Script.Builtin

/-! ### The directory -/

/-- The names between the slashes of a path. -/
def slashParts (path : Text) : List Text := cutNonempty '/' path

/-- The slashes that an absolute path starts with: exactly two stay two, any other number counts as
    one. -/
def leadingSlashes (path : Text) : Text :=
  let slashes := path.takeWhile (· = '/')
  if slashes.length = 2 then slashes else ['/']

/-- A path from a directory, with its dots worked off. -/
def logicalPath (dir path : Text) : Text :=
  let absolute := path.head? = some '/'
  let start := if absolute then [] else slashParts dir
  let parts := (slashParts path).foldl (fun parts part =>
    if part = ['.', '.'] then parts.tail
    else if part = ['.'] then parts
    else part :: parts) start.reverse
  leadingSlashes (if absolute then path else dir) ++ (['/'] : Text).intercalate parts.reverse

/-- Moves to a directory; whether that is possible. `physical` leaves no links in its path. -/
def moveTo (physical : Bool) (dest : Text) : Action Bool := do
  let s ← get
  let here := s.logical
  let path := if physical then dest else logicalPath here dest
  match s.tree.enterDirectory s.dir (Text.toString path) with
  | .error _ => return false
  | .ok dir =>
    let logical := if physical then Text.ofString (FileTree.placeText dir.place) else path
    modify fun s => { s with dir, logical, tracked := s.tracked.map fun e => (e.1, true) }
    setVar "OLDPWD" here true
    setVar "PWD" logical true
    return true

/-- Whether a path is not searched for. -/
def isDirect (path : Text) : Bool :=
  match slashParts path with
  | first :: _ => path.head? = some '/' || first = ['.'] || first = ['.', '.']
  | [] => path.head? = some '/'

/-- Moves to another directory. -/
def cd (args : List Text) : Action Nat := do
  let (options, operands) ← readOptions "LP" args
  let physical := options.getLast?.any (·.1 = 'P')
  let s ← get
  let (dest, prints) : Text × Bool := match operands with
    | [] => ((s.get? "HOME").getD [], false)
    | ['-'] :: _ => ((s.get? "OLDPWD").getD [], true)
    | dest :: _ => (dest, false)
  let moved ←
    if isDirect dest then
      pure (if ← moveTo physical dest then some prints else none)
    else
      let dest : Text := if dest = [] then ['.'] else dest
      let search := (cut ':' ((s.get? "CDPATH").getD [])).map fun base =>
        if base = [] then dest else base ++ '/' :: dest
      let isDirectory (path : Text) : Bool := s.tree.isDirectory s.dir (Text.toString path)
      match search.find? isDirectory with
      | some path => pure (if ← moveTo physical path then some (prints || path ≠ dest) else none)
      | none => pure (if ← moveTo physical dest then some prints else none)
  match moved with
  | none => abort ("can\x27t cd to " ++ dest)
  | some prints =>
    if prints then say ((← get).logical ++ "\n")
    return 0

/-- Tells the directory. -/
def pwd (args : List Text) : Action Nat := do
  let (options, _) ← readOptions "LP" args
  let s ← get
  let physical := options.getLast?.any (·.1 = 'P')
  say ((if physical then Text.ofString (FileTree.placeText s.dir.place) else s.logical) ++ "\n")
  return 0

/-! ### Permissions -/

/-- The permissions of three bits as letters. -/
def permissionLetters (bits : Nat) : Text :=
  (if bits &&& 4 ≠ 0 then ['r'] else []) ++ (if bits &&& 2 ≠ 0 then ['w'] else [])
    ++ (if bits &&& 1 ≠ 0 then ['x'] else [])

/-- The lowest bits of those whom letters name. -/
def holders (letters : Text) : Nat :=
  (letters.map fun c => if c = 'u' then 0o100 else if c = 'g' then 0o010
    else if c = 'o' then 0o001 else 0o111).foldl (· ||| ·) 0

/-- The permissions of three bits that a letter names, of which some are those that somebody has
    been granted. -/
def permissionBits (granted : Nat) (c : Char) : Nat :=
  match c with
  | 'r' => 4
  | 'w' => 2
  | 'x' => 1
  | 'u' => granted / 64 % 8
  | 'g' => granted / 8 % 8
  | 'o' => granted % 8
  | 'X' => if granted &&& 0o111 ≠ 0 then 1 else 0
  | _ => 0

/-- The permissions that a sign and letters make of some for those of certain lowest bits. -/
def changed (granted places current : Nat) (sign : Char) (letters : Text) : Nat :=
  let bits := (letters.map (permissionBits granted)).foldl (· ||| ·) 0 * places
  match sign with
  | '+' => current ||| bits
  | '-' => current &&& (0o777 - bits)
  | _ => (current &&& (0o777 - places * 7)) ||| bits

/-- The permissions after changes such as `go-w,u+x`, if they are well formed. Letters after a sign
    that name somebody stand for what had been granted at the start; `places` are the lowest bits of
    those whom the last change was about. -/
def changePermissions? (granted : Nat) : Nat → Nat → Nat → Text → Option Nat
  | 0, _, current, _ => some current
  | _, _, current, [] => some current
  | n + 1, places, current, change =>
    let who := change.takeWhile (· ∈ ['u', 'g', 'o', 'a'])
    let named := places ||| holders who
    let places := if named = 0 then 0o111 else named
    match change.drop who.length with
    | [] => none
    | sign :: rest =>
      if sign ∉ ['=', '+', '-'] then none
      else
        let letters := rest.takeWhile (· ∈ ['r', 'w', 'x', 'u', 'g', 'o', 'X', 's'])
        let current := changed granted places current sign letters
        match rest.drop letters.length with
        | ',' :: more => changePermissions? granted n 0 current more
        | more =>
          if more.head?.all (· ∈ ['=', '+', '-']) then
            changePermissions? granted n places current more
          else none

/-- The octal digits of a number. -/
def octal (size n : Nat) : Text :=
  let ds := Nat.toDigits 8 n
  List.replicate (size - ds.length) '0' ++ ds

/-- Tells or sets the permissions that new files do without. -/
def umask (args : List Text) : Action Nat := do
  let (options, operands) ← readOptions "S" args
  let mask := (← get).mask
  match operands with
  | [] =>
    if options = [] then say (octal 4 mask ++ "\n")
    else
      let granted := 0o777 - mask
      say ("u=" ++ permissionLetters (granted / 64) ++ ",g=" ++ permissionLetters (granted / 8 % 8)
        ++ ",o=" ++ permissionLetters (granted % 8) ++ "\n")
  | word :: _ =>
    if word.head?.any Char.isDigit then
      if word.all (fun c => '0' ≤ c && c ≤ '7') then
        let n := digitsIn 8 word
        modify fun s => { s with mask := n % 512 }
      else abort ("Illegal number: " ++ word)
    else
      let granted := 0o777 - mask
      match changePermissions? granted (word.length + 1) 0 granted word with
      | some granted => modify fun s => { s with mask := 0o777 - granted }
      | none => abort ("Illegal mode: " ++ word)
  return 0

end LineShell.Script.Builtin
