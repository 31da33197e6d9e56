import LineShell.Proofs.File.Place
/-!
    Walks that are denied.

    Which directory a path leads to is one question, and whether the directories on the way may be
    searched another. The first is asked of the tree in which all of them may be (`unlocked`): a
    walk through the tree itself comes to the same, or is denied (`walk_unlocked`). -/

namespace LineShell

/-- The node, with the usual permission bits if it is a directory. -/
def Node.unlocked : Node → Node
  | .directory _ => .directory usualMode
  | n => n

namespace FileTree

variable {t t' : FileTree} {aim : Aim} {p : Place}

/-- The tree in which every directory may be searched. -/
def unlocked (t : FileTree) : FileTree := ⟨t.nodes.map fun e => (e.1, e.2.unlocked)⟩

theorem lookup_unlocked (nodes : List (Place × Node)) (p : Place) :
    (nodes.map fun e => (e.1, e.2.unlocked)).lookup p = (nodes.lookup p).map Node.unlocked := by
  induction nodes with
  | nil => rfl
  | cons e es ih =>
    rw [List.map_cons, List.lookup_cons, List.lookup_cons]
    split
    · rfl
    · exact ih

theorem rootMode_unlocked (t : FileTree) : t.unlocked.rootMode = usualMode := by
  have hlookup : t.unlocked.nodes.lookup [] = (t.nodes.lookup []).map Node.unlocked :=
    lookup_unlocked t.nodes []
  rw [rootMode, hlookup]
  cases t.nodes.lookup [] with
  | none => rfl
  | some n => cases n <;> rfl

theorem get?_unlocked (t : FileTree) (p : Place) :
    t.unlocked.get? p = (t.get? p).map Node.unlocked := by
  rw [get?, get?]
  by_cases hp : p = []
  · rw [if_pos hp, if_pos hp, rootMode_unlocked]
    rfl
  · rw [if_neg hp, if_neg hp]
    exact lookup_unlocked t.nodes p

theorem hasDirectory_unlocked : t.unlocked.HasDirectory p ↔ t.HasDirectory p := by
  unfold HasDirectory
  rw [get?_unlocked]
  cases t.get? p with
  | none => simp
  | some n => cases n <;> simp [Node.unlocked]

theorem get?_unlocked_link {target : String} :
    t.unlocked.get? p = some (.link target) ↔ t.get? p = some (.link target) := by
  rw [get?_unlocked]
  cases t.get? p with
  | none => simp
  | some n => cases n <;> simp [Node.unlocked]

theorem isDirectoryAt_unlocked (t : FileTree) (s : Seat) :
    t.unlocked.isDirectoryAt s = t.isDirectoryAt s := by
  rw [Bool.eq_iff_iff, isDirectoryAt_iff, isDirectoryAt_iff, hasDirectory_unlocked]

theorem forbids_unlocked (t : FileTree) (s : Seat) : t.unlocked.forbids s searchBit = false := by
  refine Bool.eq_false_iff.mpr fun hforbids => ?_
  obtain ⟨mode, hmode, hdir⟩ := forbids_iff.mp hforbids
  have husual : mode = usualMode := by
    split at hdir
    · rw [get?_unlocked, Option.map_eq_some_iff] at hdir
      obtain ⟨n, -, hn⟩ := hdir
      cases n <;> cases hn
      rfl
    · exact hdir
  rw [husual] at hmode
  exact absurd hmode (by decide)

/-- A step from a directory that may be searched is the same if all may be. -/
theorem step_unlocked {here : Seat} (hsearch : t.forbids here searchBit = false) (aim : Aim)
    (name : String) (final slash : Bool) :
    t.unlocked.step aim here name final slash = t.step aim here name final slash := by
  have hfree : t.unlocked.forbids here searchBit = t.forbids here searchBit := by
    rw [hsearch, forbids_unlocked]
  rcases step_eq_or_meet hfree aim name final slash with heq | ⟨-, -, hmeet, hmeet'⟩
  · exact heq
  · rw [hmeet, hmeet', meet, meet, get?_unlocked]
    cases t.get? (here.place ++ [name]) with
    | none => rfl
    | some n => cases n <;> rfl

theorem walkUntilLink_unlocked {enter enter' : Seat → List String → Bool → Except Fault Spot}
    (henter : ∀ here names slash, enter here names slash = .error .permissionDenied ∨
      enter here names slash = enter' here names slash)
    (names : List String) (here : Seat) (slash : Bool) :
    t.walkUntilLink aim enter here names slash = .error .permissionDenied ∨
      t.walkUntilLink aim enter here names slash =
        t.unlocked.walkUntilLink aim enter' here names slash := by
  induction names generalizing here with
  | nil => exact .inr rfl
  | cons name rest ih =>
    rw [walkUntilLink_cons, walkUntilLink_cons]
    rcases Bool.eq_false_or_eq_true (t.forbids here searchBit) with hsearch | hsearch
    · rw [step_of_forbids hsearch]
      exact .inl rfl
    · rw [step_unlocked hsearch]
      cases t.step aim here name rest.isEmpty slash with
      | stop => exact .inr rfl
      | onward s => exact ih s
      | through => exact henter _ _ _

/-- A walk is denied, or it comes to what it would come to if every directory could be searched. -/
theorem walk_unlocked (t : FileTree) (aim : Aim) (links : Nat) (here : Seat) (names : List String)
    (slash : Bool) :
    t.walk aim links here names slash = .error .permissionDenied ∨
      t.walk aim links here names slash = t.unlocked.walk aim links here names slash := by
  induction links generalizing here names slash with
  | zero => exact walkUntilLink_unlocked (fun _ _ _ => .inr rfl) names here slash
  | succ links ih => exact walkUntilLink_unlocked ih names here slash

theorem walk_unlocked_of_ok {links : Nat} {here : Seat} {names : List String} {slash : Bool}
    {spot : Spot} (h : t.walk aim links here names slash = .ok spot) :
    t.unlocked.walk aim links here names slash = .ok spot := by
  rcases t.walk_unlocked aim links here names slash with hdenied | heq
  · rw [hdenied] at h
    cases h
  · rw [← heq, h]

end FileTree

end LineShell
