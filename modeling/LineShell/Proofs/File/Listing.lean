import LineShell.Proofs.File.Way
/-!
    Directories and what they list.

    A walk goes on only from directories (`Grounded`), so if a path after that of a directory means
    something, the directory's own path leads to the directory (`walk_prefix`), and the name behind
    it is listed there, if the directory may be read (`listed_of_node`). What a path means and
    which names are listed is decided by what is at the places, whatever the order of the nodes
    (`node?_congr`, `listed_congr`). -/

namespace LineShell

namespace FileTree

variable {t t' : FileTree} {dir s : Seat} {path name : String} {p : Place}

/-! ### Seats on firm ground -/

/-- What is left of the place of a seat is a directory, and so is everything above. -/
def Grounded (t : FileTree) (s : Seat) : Prop :=
  ∀ q, q <+: s.place.take (s.place.length - s.lost) → t.HasDirectory q

theorem Rooted.grounded (h : t.Rooted s.place) : t.Grounded s := fun q hq =>
  h.directory q (hq.trans (List.take_prefix _ _))

namespace Grounded

theorem root (t : FileTree) : t.Grounded .root := (Rooted.root t).grounded

theorem isDirectoryAt (h : t.Grounded s) : t.isDirectoryAt s = true := by
  refine isDirectoryAt_iff.mpr (Decidable.or_iff_not_imp_left.mpr fun hlost => ?_)
  rw [Decidable.not_not] at hlost
  have hplace : s.place.take (s.place.length - s.lost) = s.place := by
    rw [hlost, Nat.sub_zero, List.take_length]
  exact h s.place ⟨[], by rw [List.append_nil, hplace]⟩

theorem parent (h : t.Grounded s) : t.Grounded s.parent := by
  intro q hq
  refine h q (hq.trans ?_)
  rw [Seat.parent, List.dropLast_eq_take, List.take_take]
  refine List.take_prefix_take_left ?_
  dsimp only
  rw [List.length_take]
  omega

theorem child (h : t.Grounded s) (hlost : s.lost = 0)
    (hdir : t.HasDirectory (s.place ++ [name])) : t.Grounded (s.child name) := by
  intro q hq
  rw [Seat.child, hlost, Nat.sub_zero, List.take_length] at hq
  rcases List.prefix_concat_iff.mp hq with rfl | hq
  · exact hdir
  · refine h q ?_
    rwa [hlost, Nat.sub_zero, List.take_length]

/-- Where a link leads the walk on from. -/
theorem onward (h : t.Grounded s) (target : String) :
    t.Grounded (if isAbsolute target then .root else s) := by
  split
  · exact root t
  · exact h

theorem step {aim : Aim} {final slash : Bool} {s' : Seat} (h : t.Grounded s)
    (hstep : t.step aim s name final slash = .onward s') : t.Grounded s' := by
  have hstepped := t.stepped aim s name final slash
  rw [hstep] at hstepped
  cases hstepped with
  | stay => exact h
  | up => exact h.parent
  | down hentry hdir => exact h.child hentry.held hdir

end Grounded

/-! ### The first part of a walk -/

/-- If a walk goes on behind some names, these lead to a directory. -/
theorem walkUntilLink_prefix {enter : Seat → List String → Bool → Except Fault Spot}
    {more : List String} (hmore : more ≠ []) {slash : Bool} {spot : Spot}
    (henter : ∀ here names slash', t.Grounded here →
      enter here (names ++ more) slash = .ok spot →
        ∃ s, t.Grounded s ∧ enter here names slash' = .ok (.taken s))
    (names : List String) (here : Seat) (slash' : Bool) (hhere : t.Grounded here)
    (h : t.walkUntilLink .use enter here (names ++ more) slash = .ok spot) :
    ∃ s, t.Grounded s ∧ t.walkUntilLink .use enter here names slash' = .ok (.taken s) := by
  induction names generalizing here with
  | nil => exact ⟨here, hhere, rfl⟩
  | cons name rest ih =>
    have hrest : (rest ++ more).isEmpty = false :=
      List.isEmpty_eq_false_iff.mpr (List.append_ne_nil_of_right_ne_nil rest hmore)
    rw [List.cons_append, walkUntilLink_cons, hrest] at h
    rw [walkUntilLink_cons]
    cases hstep : t.step .use here name false slash with
    | stop r =>
      obtain ⟨f, rfl⟩ := error_of_step_inner hstep
      rw [hstep] at h
      cases h
    | onward here' =>
      have hon : (t.step .use here name false slash).GoesOn := hstep ▸ .onward here'
      rw [step_goesOn hon (.inl rfl) slash', hstep]
      rw [hstep] at h
      exact ih here' (hhere.step hstep) h
    | through target =>
      have hon : (t.step .use here name false slash).GoesOn := hstep ▸ .through target
      rw [step_goesOn hon (.inl rfl) slash', hstep]
      rw [hstep] at h
      dsimp only [Step.result] at h
      rw [← List.append_assoc, Bool.false_and, Bool.or_false] at h
      exact henter _ _ _ (hhere.onward target) h

theorem walk_prefix {more : List String} (hmore : more ≠ []) {slash : Bool} {spot : Spot}
    (links : Nat) (here : Seat) (names : List String) (slash' : Bool) (hhere : t.Grounded here)
    (h : t.walk .use links here (names ++ more) slash = .ok spot) :
    ∃ s, t.Grounded s ∧ t.walk .use links here names slash' = .ok (.taken s) := by
  induction links generalizing here names slash' with
  | zero =>
    exact walkUntilLink_prefix hmore (fun _ _ _ _ hnone => by cases hnone) names here slash' hhere h
  | succ links ih => exact walkUntilLink_prefix hmore ih names here slash' hhere h

/-! ### The names in a directory -/

theorem mem_keys_iff (nodes : List (Place × Node)) :
    p ∈ nodes.map (·.1) ↔ nodes.lookup p ≠ none := by
  rw [ne_eq, List.lookup_eq_none_iff, List.mem_map]
  simp

/-- The names at places that are taken are listed, each other name is not. -/
theorem mem_names_iff : name ∈ (t.children p).filterMap (·.getLast?) ↔
    t.get? (p ++ [name]) ≠ none := by
  have hne : p ++ [name] ≠ [] := by simp
  rw [get?, if_neg hne, ← mem_keys_iff, List.mem_filterMap]
  constructor
  · rintro ⟨q, hq, hlast⟩
    obtain ⟨hmem, hchild⟩ := List.mem_filter.mp hq
    obtain ⟨-, rfl⟩ := of_decide_eq_true hchild
    obtain ⟨above, rfl⟩ := List.getLast?_eq_some_iff.mp hlast
    rwa [List.dropLast_concat]
  · intro hmem
    refine ⟨p ++ [name], List.mem_filter.mpr ⟨hmem, ?_⟩, List.getLast?_concat⟩
    simp

/-- The path means a directory that may be read. -/
def CanList (t : FileTree) (dir : Seat) (path : String) : Prop :=
  ∃ names, t.listDirectory dir path = .ok names

/-- An empty path is no directory. -/
theorem CanList.ne_empty (h : t.CanList dir path) : path ≠ "" := by
  rintro rfl
  obtain ⟨names, hlist⟩ := h
  have hnone : t.listDirectory dir "" = .error .notFound := rfl
  rw [hnone] at hlist
  cases hlist

/-- A name is in the listing of the directory that a path means. -/
def Listed (t : FileTree) (dir : Seat) (path name : String) : Prop :=
  ∃ names, t.listDirectory dir path = .ok names ∧ name ∈ names

/-- A walk of one name that ends in something else than a directory has met something there. -/
theorem taken_of_walk_singleton {enter : Seat → List String → Bool → Except Fault Spot}
    (hs : t.Grounded s) {slash : Bool} {seat : Seat}
    (h : t.walkUntilLink .use enter s [name] slash = .ok (.taken seat))
    (hseat : t.isDirectoryAt seat = false) :
    s.lost = 0 ∧ t.get? (s.place ++ [name]) ≠ none := by
  rw [walkUntilLink_cons] at h
  have hstepped := t.stepped .use s name ([] : List String).isEmpty slash
  cases hstep : t.step .use s name ([] : List String).isEmpty slash with
  | onward s' =>
    rw [hstep] at h
    cases h
    exact absurd (hs.step hstep).isDirectoryAt (Bool.eq_false_iff.mp hseat)
  | through target =>
    rw [hstep] at hstepped
    cases hstepped with
    | link _ hentry hlink => exact ⟨hentry.held, by simp [hlink]⟩
  | stop r =>
    rw [hstep] at h hstepped
    obtain rfl : r = .ok (.taken seat) := h
    cases hstepped with
    | taken n hentry hn => exact ⟨hentry.held, by simp [hn]⟩

/-- What is found behind a path is met from the directory that this path means. -/
theorem walk_of_find_joinPath {seat : Seat} (hdir : t.Grounded dir) (hpath : path ≠ "")
    (hname : IsPiece name) (h : t.find dir (joinPath path name) = .ok seat) :
    ∃ s left, t.Grounded s ∧ t.findDirectory dir path = .ok s ∧
      t.walk .use left s [name] (endsInSlash (joinPath path name)) = .ok (.taken seat) := by
  have hrel := hname.not_absolute
  rw [find, found_eq_ok_iff, locate_eq] at h
  cases hfault : t.pathFault? dir (joinPath path name) with
  | some f =>
    rw [hfault] at h
    cases h
  | none =>
    have hfrom : pathStart dir (joinPath path name) = pathStart dir path := by
      rw [pathStart, pathStart, isAbsolute_joinPath_relative hrel]
    rw [hfault, pathNames_joinPath hrel, hname.pathNames_eq, hfrom] at h
    dsimp only at h
    -- the walk leads to the directory first, and from there to what is found
    obtain ⟨s, hs, hwalk⟩ := walk_prefix (List.cons_ne_nil name []) _ _ _ (endsInSlash path)
      (hdir.onward path) h
    obtain ⟨left, -, hrest⟩ : ∃ left ≤ linkLimit, t.walk .use linkLimit (pathStart dir path)
        (pathNames path ++ [name]) (endsInSlash (joinPath path name)) =
          t.walk .use left s [name] (endsInSlash (joinPath path name)) := by
      refine (walk_append hs.isDirectoryAt (List.cons_ne_nil name []) _ _ _ _ _
        (walk_unlocked_of_ok hwalk)).resolve_left fun hdenied => ?_
      rw [hwalk] at hdenied
      cases hdenied.1
    -- the shorter path is no worse than the longer one
    obtain ⟨hnul, hshort, -, hstart⟩ := pathFault?_eq_none_iff.mp hfault
    rw [hfrom] at hstart
    have hfaultless : t.pathFault? dir path = none := by
      refine pathFault?_eq_none_iff.mpr ⟨fun hmem => hnul ?_, ?_, hpath, hstart⟩
      · exact (mem_joinPath (by decide) hrel).mpr (.inl hmem)
      · exact Nat.lt_of_le_of_lt (base_size_le_joinPath hrel) hshort
    exact ⟨s, left, hs, findDirectory_eq_ok_iff.mpr ⟨hfaultless, hwalk, hs.isDirectoryAt⟩,
      hrest.symm.trans h⟩

/-- What is found behind the path of a directory, and is no directory itself, is listed there, if
    the directory may be read. -/
theorem listed_of_node (hdir : t.Grounded dir) (hpath : path ≠ "") (hname : IsPiece name)
    (hread : t.CanList dir path) {n : Node} (hnode : t.node? dir (joinPath path name) = some n)
    (hn : n.isDirectory = false) : t.Listed dir path name := by
  unfold node? at hnode
  split at hnode
  · rename_i seat hfind
    obtain ⟨s, left, hs, hfound, hwalk⟩ := walk_of_find_joinPath hdir hpath hname hfind
    have hseat : t.isDirectoryAt seat = false := by rw [isDirectoryAt, hnode, Option.any_some, hn]
    obtain ⟨hlost, htaken⟩ : s.lost = 0 ∧ t.get? (s.place ++ [name]) ≠ none := by
      cases left with
      | zero => exact taken_of_walk_singleton hs hwalk hseat
      | succ left => exact taken_of_walk_singleton hs hwalk hseat
    obtain ⟨names, hnames⟩ := hread
    refine ⟨names, hnames, ?_⟩
    rw [listDirectory, hfound] at hnames
    dsimp only at hnames
    split at hnames
    · cases hnames
    · cases hnames
      exact mem_names_iff.mpr htaken
  · cases hnode

/-! ### The order of the nodes does not matter -/

theorem at?_congr (h : t'.get? = t.get?) : t'.at? = t.at? := by
  funext s
  rw [at?, at?, h]

theorem isDirectoryAt_congr (h : t'.get? = t.get?) : t'.isDirectoryAt = t.isDirectoryAt := by
  funext s
  rw [isDirectoryAt, isDirectoryAt, at?_congr h]

theorem forbids_congr (h : t'.get? = t.get?) : t'.forbids = t.forbids := by
  funext s bit
  rw [forbids, forbids, at?_congr h]

theorem step_congr (h : t'.get? = t.get?) : t'.step = t.step := by
  have hmeet : t'.meet = t.meet := by
    funext
    rw [meet, meet, h]
  funext
  rw [step, step, early?, early?, forbids_congr h, hmeet]

theorem walkUntilLink_congr (h : t'.get? = t.get?) (aim : Aim)
    (enter : Seat → List String → Bool → Except Fault Spot) (names : List String) (here : Seat)
    (slash : Bool) :
    t'.walkUntilLink aim enter here names slash = t.walkUntilLink aim enter here names slash := by
  induction names generalizing here with
  | nil => rfl
  | cons name rest ih =>
    rw [walkUntilLink_cons, walkUntilLink_cons, step_congr h]
    simp only [ih]

theorem walk_congr (h : t'.get? = t.get?) (aim : Aim) (links : Nat) :
    t'.walk aim links = t.walk aim links := by
  induction links with
  | zero =>
    funext here names slash
    exact walkUntilLink_congr h aim _ names here slash
  | succ links ih =>
    funext here names slash
    rw [walk, walk, ih]
    exact walkUntilLink_congr h aim _ names here slash

theorem find_congr (h : t'.get? = t.get?) (dir : Seat) (path : String) :
    t'.find dir path = t.find dir path := by
  simp only [find, locate, follow, walk_congr h, isDirectoryAt_congr h]

theorem node?_congr (h : t'.get? = t.get?) (dir : Seat) (path : String) :
    t'.node? dir path = t.node? dir path := by
  rw [node?, node?, find_congr h, at?_congr h]

theorem findDirectory_congr (h : t'.get? = t.get?) (dir : Seat) (path : String) :
    t'.findDirectory dir path = t.findDirectory dir path := by
  simp only [findDirectory, asDirectory, find_congr h, isDirectoryAt_congr h]

theorem listed_congr (h : t'.get? = t.get?) :
    t'.Listed dir path name ↔ t.Listed dir path name := by
  unfold Listed listDirectory
  rw [findDirectory_congr h, forbids_congr h]
  cases t.findDirectory dir path with
  | error f => exact Iff.rfl
  | ok s =>
    dsimp only
    split
    · exact Iff.rfl
    · by_cases hlost : s.lost = 0
      · simp only [if_pos hlost, Except.ok.injEq, exists_eq_left', mem_names_iff, h]
      · simp only [if_neg hlost]

end FileTree

end LineShell
