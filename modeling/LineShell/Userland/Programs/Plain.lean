import LineShell.Userland.Programs.Call
import LineShell.Userland.Text.Floating
/-!
    Utilities that neither read nor write: `true`, `false` and `sleep`. -/

namespace LineShell

/-- A utility that only ends, with a code. It tells of itself if nothing else is asked of it. -/
def Utility.ending (name : String) (code : Nat) : Utility := ⟨.usual, fun c =>
  if c.args = ["--version".toList] then
    { (Notice.madeBy name ["Jim Meyering"]).account with code }
  else .silent code⟩

/-- The utility that succeeds. -/
def Utility.succeed : Utility := .ending "true" 0

/-- The utility that fails. -/
def Utility.fail : Utility := .ending "false" 1

/-- Whether a text is a time: a number that is not negative, with or without a unit. -/
def isTime (text : Text) : Bool :=
  match Floating.read? .extended text with
  | some (.nan _, _) => false
  | some (x, rest) =>
    let below := x.isNegative && !(x matches .finite _ 0)
    !below && rest ∈ [[], ['s'], ['m'], ['h'], ['d']]
  | none => false

/-- The utility that lets time pass, of which nothing is left to be seen. -/
def Utility.sleep : Utility := ⟨.usual, fun c =>
  let notice := Notice.madeBy "sleep" ["Jim Meyering", "Paul Eggert"]
  c.withOptions notice { letters := [], words := [], ordered := false } 1 (fun _ => none) fun o =>
    if o.operands = [] then c.misuse 1 "missing operand"
    else match o.operands.filter (¬ isTime ·) with
      | [] => .silent 0
      | wrong =>
        let messages := wrong.map fun text =>
          c.complain 1 ("invalid time interval " ++ c.charset.quotedWord text)
        (Account.all messages).andThen (.error 1 c.hint)⟩

end LineShell
