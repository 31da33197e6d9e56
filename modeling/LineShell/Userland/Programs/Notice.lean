import LineShell.Userland.Text.Charset
/-!
    What utilities tell of themselves.

    A utility that is asked for its version names itself, the package that it belongs to and the
    package's release. Then come the terms, which all utilities share, and who made it. -/

namespace LineShell

/-- What a utility tells of itself. -/
structure Notice where
  name : Text
  /-- The package that the utility belongs to. -/
  package : String
  /-- The release of the package. -/
  release : String
  /-- Who made the utility. -/
  credit : Text

namespace Notice

/-- The terms of every utility. -/
def terms : String :=
  "Copyright (C) 2022 Free Software Foundation, Inc.\n"
    ++ "License GPLv3+: GNU GPL version 3 or later <https://gnu.org/licenses/gpl.html>.\n"
    ++ "This is free software: you are free to change and redistribute it.\n"
    ++ "There is NO WARRANTY, to the extent permitted by law.\n"

/-- The notice as it is written. -/
def text (n : Notice) : Text :=
  n.name ++ " (" ++ n.package ++ ") " ++ n.release ++ "\n" ++ terms ++ "\n" ++ n.credit

/-- Makers in a row. Of four, the last is on a line of its own. -/
def joined : List String → String
  | [] => ""
  | [a] => a
  | [a, b] => a ++ " and " ++ b
  | [a, b, c, d] => a ++ ", " ++ b ++ ", " ++ c ++ ",\nand " ++ d
  | makers => ", ".intercalate makers.dropLast ++ ", and " ++ makers.getLastD ""

/-- The notice of a utility that has these makers. -/
def madeBy (name : String) (makers : List String) : Notice where
  name := name
  package := "GNU coreutils"
  release := "9.1"
  credit := .ofString ("Written by " ++ joined makers ++ ".\n")

/-- The notice of the utility that selects lines, which gives only the first of its makers. -/
def ofSelection (name : Text) : Notice where
  name
  package := "GNU grep"
  release := "3.8"
  credit := "Written by Mike Haertel and others; see\n"
    ++ "<https://git.sv.gnu.org/cgit/grep.git/tree/AUTHORS>.\n"

end Notice

end LineShell
