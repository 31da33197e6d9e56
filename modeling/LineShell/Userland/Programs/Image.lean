import LineShell.Userland.Programs.ByteMap
import LineShell.Userland.Programs.Order
import LineShell.Userland.Programs.Permissions
import LineShell.Userland.Programs.Plain
import LineShell.Userland.Programs.Selection
import LineShell.Userland.Programs.Sequence
import LineShell.Userland.Programs.Variables
/-!
    What the content of an executable file makes it do.

    A file that starts with `#!` names its interpreter, which is started with the file's path before
    the arguments; the interpreter may again be such a file, a few times. A file that starts with
    the mark of a built program names the program. -/

namespace LineShell

/-- What an executable file is. -/
inductive Image where
  /-- A script for an interpreter, which may be given one argument of its own. -/
  | script (interpreter : Text) (arg : Option Text)
  /-- A program that was built under a name. -/
  | built (name : String)
  deriving DecidableEq, Repr

/-- The bytes that a built program starts with. -/
def builtMark : Bytes := [0x7F, 0x45, 0x4C, 0x46]

/-- The bytes that a script starts with. -/
def scriptMark : Bytes := [0x23, 0x21]

/-- Whether a byte is a blank on the first line of a script. -/
def isBlankByte (b : UInt8) : Bool := b = 0x20 || b = 9

/-- Bytes without the blanks around them, if any are left. -/
def trimBytes? (bytes : Bytes) : Option Bytes :=
  let trimmed := ((bytes.dropWhile isBlankByte).reverse.dropWhile isBlankByte).reverse
  if trimmed = [] then none else some trimmed

/-- How many bytes of a file are looked at for its interpreter. -/
def headerSize : Nat := 256

/-- The first line of a script without its mark and the blanks around it; nothing if no interpreter
    is on it. A line that ends with its file keeps the blanks at its end. Of a line that is longer
    than what is looked at a part counts, if the name of the interpreter ends in it. -/
def interpreterLine? (content : Bytes) : Option Bytes :=
  let header := (content.take headerSize).drop scriptMark.length
  let line := header.takeWhile (· ≠ 10)
  let endsName (b : UInt8) : Bool := isBlankByte b || b = 0
  if line.length < header.length then trimBytes? line
  else if content.length < headerSize then some (line.dropWhile isBlankByte)
  else if (line.dropWhile isBlankByte).any endsName then trimBytes? line.dropLast
  else none

/-- What the first line of a script names. Nothing after a zero counts, and no name at all stands
    for the directory. -/
def readInterpreter (line : Bytes) : Image :=
  let whole := line.takeWhile (· ≠ 0)
  let path := whole.takeWhile (¬ isBlankByte ·)
  let arg := whole.drop path.length
  .script (if path = [] then "." else .ofBytes path)
    (if arg = [] then none else some (.ofBytes (arg.dropWhile isBlankByte)))

/-- What some content is, if it can be executed. -/
def Image.ofContent? (content : Bytes) : Option Image :=
  if scriptMark.isPrefixOf content then
    (interpreterLine? content).map readInterpreter
  else if builtMark.isPrefixOf content then
    some (.built (Bytes.repaired (content.drop builtMark.length)))
  else none

/-- The content of the file that a program was built into. -/
def builtContent (name : String) : Bytes := builtMark ++ Bytes.ofText name

/-- The built programs by their names. -/
def builtPrograms : List (String × Program) :=
  [("cat", Utility.cat.program),
   ("chmod", .chmod),
   ("env", .env),
   ("false", Utility.fail.program),
   ("grep", Utility.grep.program),
   ("head", Utility.head.program),
   ("seq", Utility.seq.program),
   ("sh", .shell),
   ("sleep", Utility.sleep.program),
   ("sort", Utility.sort.program),
   ("tail", Utility.tail.program),
   ("tr", Utility.tr.program),
   ("true", Utility.succeed.program),
   ("wc", Utility.wc.program)]

/-- How many interpreters may stand behind each other. -/
def interpreterLimit : Nat := 5

/-- Loads an executable file through at most so many interpreters. A program that starts others has
    them loaded by `load`. -/
def loadImage (load : Loader) : Nat → Loader
  | steps, l, dir, tree => match tree.find dir l.path.toString with
    | .error fault => .error fault
    | .ok p => match tree.at? p with
      | some (.file mode content) =>
        if mode &&& FileTree.executeBits = 0 then .error .permissionDenied
        else match Image.ofContent? content, steps with
          | none, _ => .error .notExecutable
          | some (.script _ _), 0 => .error .linkLoop
          | some (.script interpreter arg), steps + 1 =>
            let args := arg.toList ++ l.path :: l.args
            loadImage load steps { l with path := interpreter, name := interpreter, args } dir tree
          | some (.built name), _ => match builtPrograms.lookup name with
            | some program => .ok (program load l dir)
            | none => .error .notExecutable
      | _ => .error .permissionDenied

/-- How deeply programs may start each other. -/
def loadDepth : Nat := 4096

/-- Loads executable files whose programs start others, so many levels deep. -/
def loadNested : Nat → Loader
  | 0 => fun _ _ _ => .error .linkLoop
  | depth + 1 => loadImage (loadNested depth) interpreterLimit

/-- Loads the programs that the content of files describes. -/
def loadProgram : Loader := loadNested loadDepth

end LineShell
