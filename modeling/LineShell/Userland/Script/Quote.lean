import LineShell.Userland.Script.State
/-!
    Variables and aliases as a script could read them back. -/

namespace LineShell.Script

/-- A text between quotes: single ones, but double ones around single quotes. -/
def quotedParts : Nat → Text → Text
  | 0, _ => []
  | n + 1, t =>
    let plain := t.takeWhile (· ≠ '\x27')
    let rest := t.drop plain.length
    let marks := rest.takeWhile (· = '\x27')
    let rest := rest.drop marks.length
    let quoted := if marks = [] then [] else '\x22' :: marks ++ ['\x22']
    let here := '\x27' :: plain ++ ['\x27'] ++ quoted
    if rest = [] then here else here ++ quotedParts n rest

/-- A text as a quoted word. -/
def quotedWord (t : Text) : Text := quotedParts (t.length + 1) t

/-- Variables, by name, each after some words and with its value if it has one. -/
def variableListing (words : Text) (vars : List (Text × Variable)) : Text :=
  Text.ofLines ((vars.mergeSort fun a b => Text.le a.1 b.1).map fun (name, v) =>
    words ++ name ++ (match v.value with
      | some value => '=' :: quotedWord value
      | none => []))

/-- An alias with what it stands for. -/
def aliasText (a : Text × Text) : Text := a.1 ++ '=' :: quotedWord a.2

end LineShell.Script
