import LineShell.Userland.Programs.Choice
import LineShell.Userland.Script.Pattern
/-!
    Which files are searched.

    An operand that is a directory can be read, left alone, or searched with all files below it, in
    the order of their names. Files and directories can be left out by their names: of the rules
    that a name fits the last one counts (`leavesOut`). -/

namespace LineShell

/-- What can be done with directories. -/
inductive DirectoryAction where
  | read | recurse | skip
  deriving DecidableEq, Repr

/-- A rule by which names are left out, or let in. -/
structure NameRule where
  letsIn : Bool
  text : Text
  deriving DecidableEq, Repr

/-- The ends of a name that can be meant by a pattern: the name, and what follows a slash. -/
def nameEnds : Text → List Text
  | [] => []
  | c :: rest =>
    let after := if c = '/' ∧ rest ≠ [] ∧ rest.head? ≠ some '/' then [rest] else []
    after ++ nameEnds rest

/-- Whether a name fits a rule. `anywhere` says that an end of it is enough. -/
def NameRule.fits (r : NameRule) (anywhere : Bool) (name : Text) : Bool :=
  let p := Script.Pattern.ofText r.text
  p.accepts name || (anywhere && (nameEnds name).any p.accepts)

/-- Whether a name is left out. A name that fits no rule is treated as the first rule treats those
    that do not fit it. -/
def leavesOut (rules : List NameRule) (anywhere : Bool) (name : Text) : Bool :=
  match rules.reverse.find? (·.fits anywhere name) with
  | some r => !r.letsIn
  | none => rules.head?.any (·.letsIn)

/-- How the files that are searched are chosen. -/
structure FileChoice where
  action : DirectoryAction
  /-- The rules for files. -/
  files : List NameRule
  /-- The rules for directories. -/
  directories : List NameRule
  /-- Whether links below directories are followed. -/
  followsLinks : Bool
  /-- Whether devices among the operands are left alone. -/
  skipsDevices : Bool

namespace FileChoice

/-- What a path stands for below a directory that is searched. -/
def node? (k : FileChoice) (c : Call) (path : Text) : Option Node :=
  if k.followsLinks then c.tree.node? c.dir path.toString
  else match c.tree.locate .inspect c.dir path.toString with
    | .ok (.taken s) => c.tree.at? s
    | _ => none

/-- The files below a directory, so many levels deep. -/
def below (k : FileChoice) (c : Call) : Nat → Text → List Text
  | 0, _ => []
  | depth + 1, dir =>
    let names := ((c.tree.listDirectory c.dir dir.toString).toOption.getD []).mergeSort (· ≤ ·)
    names.flatMap fun name =>
      let name := Text.ofString name
      let path := (dir.reverse.dropWhile (· = '/')).reverse ++ '/' :: name
      match k.node? c path with
      | some (.directory _) => if leavesOut k.directories false name then [] else k.below c depth path
      | some (.file _ _) => if leavesOut k.files false name then [] else [path]
      | _ => []

/-- How deep directories are searched. -/
def depthLimit : Nat := 64

/-- The files that an operand stands for. What cannot be read stands for itself. -/
def chosen (k : FileChoice) (c : Call) (operand : Text) : List Text :=
  if operand = inputOperand then [operand]
  else match c.read operand, c.tree.node? c.dir operand.toString with
    | .error .isDirectory, _ =>
      if k.action = .skip ∨ leavesOut k.directories true operand then []
      else if k.action = .recurse then k.below c depthLimit operand
      else [operand]
    | .error _, _ => [operand]
    | .ok _, some (.device _) =>
      if k.skipsDevices ∨ leavesOut k.files true operand then [] else [operand]
    | .ok _, _ => if leavesOut k.files true operand then [] else [operand]

/-- The files that operands stand for. Without operands it is the standard input, or everything
    below the directory. -/
def listed (k : FileChoice) (c : Call) (operands : List Text) : List Text :=
  if operands ≠ [] then operands.flatMap (k.chosen c)
  else if k.action = .recurse then (k.below c depthLimit ['.']).map (·.drop 2)
  else [inputOperand]

end FileChoice

end LineShell
