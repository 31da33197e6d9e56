import LineShell.File.Walk
import LineShell.Userland.Script.Pattern
/-!
    The paths that a pattern means.

    A pattern is cut into parts at its slashes. A part without active characters is taken as it
    stands, any other stands for the names in the directory that match it; names that start with a
    dot have to be asked for. What is found is sorted by its bytes. -/

namespace LineShell.Script

/-- The parts of a path pattern between its slashes. -/
def patternParts (t : Text) : List Text :=
  match t with
  | [] => [[]]
  | '\\' :: '/' :: rest => [] :: patternParts rest
  | '\\' :: c :: rest => match patternParts rest with
    | part :: parts => ('\\' :: c :: part) :: parts
    | [] => [['\\', c]]
  | '/' :: rest => [] :: patternParts rest
  | c :: rest => match patternParts rest with
    | part :: parts => (c :: part) :: parts
    | [] => [[c]]

/-- Whether there is anything under a path, be it a link that leads nowhere. -/
def existsAt (tree : FileTree) (dir : Seat) (path : Text) : Bool :=
  match tree.locate .inspect dir (Text.toString path) with
  | .ok (.taken _) => true
  | _ => false

/-- The names in a directory that match a part of a pattern. -/
def matchingNames (tree : FileTree) (dir : Seat) (here part : Text) : List Text :=
  match tree.listDirectory dir (if here = [] then "." else Text.toString here) with
  | .error _ => []
  | .ok names =>
    let dotted := (unescaped part).head? = some '.'
    let pattern := Pattern.ofText part
    ([".", ".."] ++ names).filterMap fun name =>
      let name := Text.ofString name
      if (name.head? = some '.' → dotted) ∧ pattern.accepts name then some name else none

/-- The paths that the parts of a pattern mean below a path. `active` says that a part before them
    was a pattern, so that what they lead to is known to exist only if it is looked up. -/
def expandParts (tree : FileTree) (dir : Seat) : Bool → Text → List Text → List Text
  | _, here, [] => [here]
  | active, here, part :: rest =>
    let last := rest.isEmpty
    let onward (path : Text) : List Text :=
      if last then [path] else expandParts tree dir true (path ++ ['/']) rest
    if hasMeta part then
      (matchingNames tree dir here part).flatMap fun name => onward (here ++ name)
    else
      let path := here ++ unescaped part
      if last then (if existsAt tree dir path then [path] else [])
      else expandParts tree dir active (path ++ ['/']) rest

/-- The paths that a pattern means, in order. -/
def globbed (tree : FileTree) (dir : Seat) (pattern : Text) : List Text :=
  (expandParts tree dir false [] (patternParts pattern)).mergeSort Text.le

end LineShell.Script
