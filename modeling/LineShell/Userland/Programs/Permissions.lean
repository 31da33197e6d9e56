import LineShell.Userland.Programs.Shell
/-!
    The utility that changes permission bits. New bits are given as an octal number. -/

namespace LineShell

/-- The permission bits that an octal number stands for. -/
def permissionNumber? (text : Text) : Option Nat :=
  if text = [] ∨ text.any (fun c => c < '0' ∨ '7' < c) then none
  else
    let n := text.foldl (fun n c => 8 * n + (c.toNat - '0'.toNat)) 0
    if n ≤ 0o7777 then some n else none

/-- The tree with other permission bits for what a path means, or why they cannot be changed. -/
def FileTree.changeMode (t : FileTree) (dir : Seat) (mode : Nat) (path : Text) :
    Except Fault FileTree :=
  match t.find dir path.toString with
  | .error fault => .error fault
  | .ok s => match t.at? s with
    | some (.file _ content) => .ok (t.put s.place (.file mode content))
    | some (.directory _) => .ok (if s.lost = 0 then t.put s.place (.directory mode) else t)
    | _ => .ok t

/-- The tree with other permission bits for what each path means, as far as they can be changed. -/
def FileTree.changeModes (t : FileTree) (dir : Seat) (mode : Nat) (paths : List Text) : FileTree :=
  paths.foldl (fun t path => (t.changeMode dir mode path).toOption.getD t) t

/-- What is said about paths whose permission bits are changed. -/
def Call.modeFaults (c : Call) (mode : Nat) : FileTree → List Text → List Account
  | _, [] => []
  | t, path :: rest => match t.changeMode c.dir mode path with
    | .ok t => c.modeFaults mode t rest
    | .error fault =>
      c.complain 1 ("cannot access " ++ c.charset.quotedWord path ++ ": " ++ fault.reason)
        :: c.modeFaults mode t rest

/-- The program that changes permission bits. -/
def Program.chmod : Program := fun load l dir streams tree =>
  let spoken : Utility := ⟨.usual, fun c => match c.args with
    | [] => c.misuse 1 "missing operand"
    | [mode] => c.misuse 1 ("missing operand after " ++ c.charset.quotedWord mode)
    | mode :: paths => match permissionNumber? mode with
      | some mode => .all (c.modeFaults mode tree paths)
      | none => c.misuse 1 ("invalid mode: " ++ c.charset.quotedWord mode)⟩
  let done := spoken.program load l dir streams tree
  match l.args with
  | mode :: paths =>
    { done with tree := (permissionNumber? mode).elim tree (tree.changeModes dir · paths) }
  | [] => done

end LineShell
