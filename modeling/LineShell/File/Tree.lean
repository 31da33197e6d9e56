import LineShell.Text.Bytes
import LineShell.File.PathText
/-!
    The tree of files.

    A place is the list of names from the root to it. The tree holds at most one node at a place,
    the root is always a directory, and `put` changes nothing but the place it is given
    (`get?_put_self`, `get?_put_of_ne`).

    Files and directories have permission bits. Those that count are the owner's: whoever uses the
    tree owns all that is in it and has no other rights. -/

namespace LineShell

/-- Where something is in the tree: the names from the root. -/
abbrev Place := List String

/-- The devices that a file name may stand for. -/
inductive Device where
  /-- Takes everything, holds nothing. -/
  | null
  /-- Takes nothing, as if no space were left. -/
  | full
  deriving DecidableEq, Repr

/-- The permission bit that lets the owner read a file, or list a directory. -/
def readBit : Nat := 0o400

/-- The permission bit that lets the owner write to a file, or put something into a directory. -/
def writeBit : Nat := 0o200

/-- The permission bit that lets the owner look for a name in a directory. -/
def searchBit : Nat := 0o100

/-- The permission bits that directories usually have. -/
def usualMode : Nat := 0o755

/-- What can be at a place. -/
inductive Node where
  | directory (mode : Nat)
  | file (mode : Nat) (content : Bytes)
  | link (target : String)
  | device (d : Device)
  deriving DecidableEq, Repr

namespace Node

/-- Whether a node is a directory. -/
def isDirectory : Node → Bool
  | directory _ => true
  | _ => false

/-- Whether a node is a directory that lacks a permission bit. -/
def forbids (bit : Nat) : Node → Bool
  | directory mode => mode &&& bit = 0
  | _ => false

end Node

/-- The nodes of a tree, each with its place. The root need not be among them. -/
structure FileTree where
  nodes : List (Place × Node)
  deriving DecidableEq, Repr

namespace FileTree

/-- The tree that holds nothing but the root. -/
def empty : FileTree := ⟨[]⟩

/-- The permission bits of the root, the usual ones if it is not among the nodes. -/
def rootMode (t : FileTree) : Nat :=
  match t.nodes.lookup [] with
  | some (.directory mode) => mode
  | _ => usualMode

/-- What is at a place. -/
def get? (t : FileTree) (p : Place) : Option Node :=
  if p = [] then some (.directory t.rootMode) else t.nodes.lookup p

/-- The tree with a node at a place, in the stead of what was there. -/
def put (t : FileTree) (p : Place) (n : Node) : FileTree :=
  ⟨(p, n) :: t.nodes.filter (·.1 ≠ p)⟩

/-- The tree without a place and everything below it. -/
def remove (t : FileTree) (p : Place) : FileTree :=
  ⟨t.nodes.filter fun e => ¬ p.isPrefixOf e.1⟩

/-- The places directly below a place. -/
def children (t : FileTree) (p : Place) : List Place :=
  (t.nodes.map (·.1)).filter fun q => q ≠ [] ∧ q.dropLast = p

/-- The text of a place, from the root. -/
def placeText (p : Place) : String := "/" ++ "/".intercalate p

/-! ### One node at a place -/

theorem get?_root (t : FileTree) : t.get? [] = some (.directory t.rootMode) := by simp [get?]

theorem get?_put_self (t : FileTree) {p : Place} (n : Node) (h : p ≠ []) :
    (t.put p n).get? p = some n := by
  simp [get?, put, h]

theorem lookup_filter_ne {p q : Place} (h : q ≠ p) (nodes : List (Place × Node)) :
    (nodes.filter (·.1 ≠ p)).lookup q = nodes.lookup q := by
  induction nodes with
  | nil => rfl
  | cons e es ih =>
    obtain ⟨k, n⟩ := e
    rw [List.filter_cons]
    by_cases hk : k = p
    · have hq : (q == k) = false := by simpa [hk] using h
      simpa [hk, List.lookup_cons, show (q == p) = false from hk ▸ hq] using ih
    · simp only [ne_eq, hk, not_false_eq_true, decide_true, ↓reduceIte, List.lookup_cons]
      split
      · rfl
      · exact ih

theorem get?_put_of_ne (t : FileTree) {p q : Place} (n : Node) (h : q ≠ p) :
    (t.put p n).get? q = t.get? q := by
  have hlookup : (t.put p n).nodes.lookup q = t.nodes.lookup q := by
    simp only [put, List.lookup_cons, show (q == p) = false by simpa using h, lookup_filter_ne h]
  unfold get? rootMode
  split
  · rename_i hroot
    rw [← hroot, hlookup]
  · exact hlookup

end FileTree

end LineShell
