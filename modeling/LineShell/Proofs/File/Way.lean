import LineShell.Proofs.File.Denial
import LineShell.Proofs.File.Names
/-!
    The way that a walk takes through the tree.

    A walk that ends in a directory depends on nothing but the directories and links that it meets
    (`met`), so it ends there again as long as these stay (`findDirectory_stays`). It can be walked
    in two parts: a relative path after the path of a directory leads to where it leads from that
    directory, unless the longer path is too long, has too many links or is denied
    (`locate_joinPath`). Every directory that a walk from the root ends in is rooted (`Rooted`), and
    the text of its place leads nowhere else (`Rooted.eq_of_findDirectory`). -/

namespace LineShell

/-! ### What a walk meets -/

namespace FileTree

variable {t t' : FileTree} {aim : Aim} {p : Place}

/-- The places that a walk meets up to the first link; `enter` goes on from there. -/
def metUntilLink (t : FileTree) (enter : Seat → List String → List Place) :
    Seat → List String → List Place
  | _, [] => []
  | here, name :: rest =>
    if name = "." then metUntilLink t enter here rest
    else if name = ".." then metUntilLink t enter here.parent rest
    else (here.place ++ [name]) :: match t.get? (here.place ++ [name]) with
      | some (.directory _) => metUntilLink t enter (here.child name) rest
      | some (.link target) =>
        enter (if isAbsolute target then .root else here) (pathNames target ++ rest)
      | _ => []

/-- The places that a walk through at most `links` links meets. -/
def met (t : FileTree) : Nat → Seat → List String → List Place
  | 0 => t.metUntilLink fun _ _ => []
  | links + 1 => t.metUntilLink (t.met links)

/-- If a directory or a link is at a place, it stays there, whatever becomes of the permission bits
    of the directory. -/
structure Stays (t t' : FileTree) (p : Place) : Prop where
  directory : t.HasDirectory p → t'.HasDirectory p
  link (target : String) : t.get? p = some (.link target) → t'.get? p = some (.link target)

theorem Stays.refl (t : FileTree) (p : Place) : t.Stays t p := ⟨id, fun _ => id⟩

theorem Stays.trans {t₁ t₂ t₃ : FileTree} (h : t₁.Stays t₂ p) (h' : t₂.Stays t₃ p) :
    t₁.Stays t₃ p :=
  ⟨fun hdir => h'.directory (h.directory hdir),
    fun target hlink => h'.link target (h.link target hlink)⟩

theorem SameWays.stays (h : t.SameWays t') (p : Place) : t.Stays t' p where
  directory := h.hasDirectory_iff.mpr
  link _ := (h.get?_iff rfl).mpr

/-- What a walk takes under a name is no directory. -/
theorem not_isDirectoryAt_of_step {here s : Seat} {name : String} {final slash : Bool}
    (h : t.step aim here name final slash = .stop (.ok (.taken s))) :
    ¬ t.isDirectoryAt s = true := by
  have hstep := t.stepped aim here name final slash
  rw [h] at hstep
  cases hstep with
  | taken n hentry hn hdir =>
    rw [isDirectoryAt, at?, Seat.child, if_pos hentry.held, hn, Option.any_some, hdir]
    exact Bool.false_ne_true

theorem meet_stays {here : Seat} {name : String} {final slash : Bool}
    (hstays : t.Stays t' (here.place ++ [name]))
    (h : (t.unlocked.meet aim here name final slash).GoesOn) :
    t'.unlocked.meet aim here name final slash = t.unlocked.meet aim here name final slash := by
  unfold meet at h ⊢
  rw [get?_unlocked] at h ⊢
  rw [get?_unlocked]
  cases hn : t.get? (here.place ++ [name]) with
  | none =>
    rw [hn] at h
    exact absurd rfl (h _)
  | some n =>
    rw [hn] at h
    cases n with
    | directory mode =>
      obtain ⟨mode', hdir'⟩ := hstays.directory ⟨mode, hn⟩
      rw [hdir']
      rfl
    | link target => rw [hstays.link target hn]
    | _ => exact absurd rfl (h _)

/-- A step that goes on does so as long as the directory or the link stays. -/
theorem step_stays {here : Seat} {name : String} {final slash : Bool}
    (hstays : IsEntry here name → t.Stays t' (here.place ++ [name]))
    (h : (t.unlocked.step aim here name final slash).GoesOn) :
    t'.unlocked.step aim here name final slash = t.unlocked.step aim here name final slash := by
  have hfree : t'.unlocked.forbids here searchBit = t.unlocked.forbids here searchBit := by
    rw [forbids_unlocked, forbids_unlocked]
  rcases step_eq_or_meet hfree aim name final slash with heq | ⟨hentry, -, hmeet, hmeet'⟩
  · exact heq
  · rw [hmeet] at h
    rw [hmeet, hmeet']
    exact meet_stays (hstays hentry) h

section

variable (pass : Seat → List String → List Place) {here s : Seat} {name : String}
  {final slash : Bool} (rest : List String)

theorem metUntilLink_of_entry (hentry : IsEntry here name) :
    t.metUntilLink pass here (name :: rest) =
      (here.place ++ [name]) :: match t.get? (here.place ++ [name]) with
        | some (.directory _) => t.metUntilLink pass (here.child name) rest
        | some (.link target) =>
          pass (if isAbsolute target then .root else here) (pathNames target ++ rest)
        | _ => [] := by
  rw [metUntilLink, if_neg hentry.not_here, if_neg hentry.not_up]

/-- What is met behind a step is met. -/
theorem metUntilLink_onward (h : t.unlocked.step aim here name final slash = .onward s) :
    t.metUntilLink pass s rest ⊆ t.metUntilLink pass here (name :: rest) := by
  have hstep := t.unlocked.stepped aim here name final slash
  rw [h] at hstep
  cases hstep with
  | stay hdot =>
    rw [metUntilLink, if_pos hdot]
    exact List.Subset.refl _
  | up hup =>
    have hdot : name ≠ "." := by
      rw [hup]
      decide
    rw [metUntilLink, if_neg hdot, if_pos hup]
    exact List.Subset.refl _
  | down hentry hdir =>
    obtain ⟨mode, hmode⟩ := hasDirectory_unlocked.mp hdir
    rw [metUntilLink_of_entry pass rest hentry, hmode]
    exact List.subset_cons_self _ _

theorem metUntilLink_through {target : String}
    (h : t.unlocked.step aim here name final slash = .through target) :
    pass (if isAbsolute target then .root else here) (pathNames target ++ rest) ⊆
      t.metUntilLink pass here (name :: rest) := by
  have hstep := t.unlocked.stepped aim here name final slash
  rw [h] at hstep
  cases hstep with
  | link _ hentry hlink =>
    rw [metUntilLink_of_entry pass rest hentry, get?_unlocked_link.mp hlink]
    exact List.subset_cons_self _ _

end

theorem walkUntilLink_stays {enter enter' : Seat → List String → Bool → Except Fault Spot}
    {pass : Seat → List String → List Place} {s : Seat} (hs : t.isDirectoryAt s = true)
    (henter : ∀ here names slash, (∀ p ∈ pass here names, t.Stays t' p) →
      enter here names slash = .ok (.taken s) → enter' here names slash = .ok (.taken s))
    (names : List String) (here : Seat) (slash : Bool)
    (hmet : ∀ p ∈ t.metUntilLink pass here names, t.Stays t' p)
    (h : t.unlocked.walkUntilLink .use enter here names slash = .ok (.taken s)) :
    t'.unlocked.walkUntilLink .use enter' here names slash = .ok (.taken s) := by
  induction names generalizing here with
  | nil => exact h
  | cons name rest ih =>
    have hentry (h : IsEntry here name) : t.Stays t' (here.place ++ [name]) := by
      rw [metUntilLink_of_entry pass rest h] at hmet
      exact hmet _ List.mem_cons_self
    rw [walkUntilLink_cons] at h ⊢
    cases hstep : t.unlocked.step .use here name rest.isEmpty slash with
    | stop r =>
      -- the walk would end in something that is no directory
      rw [hstep] at h
      refine absurd hs ?_
      rw [← isDirectoryAt_unlocked]
      exact not_isDirectoryAt_of_step (hstep.trans (congrArg Step.stop h))
    | onward here' =>
      have hon : (t.unlocked.step .use here name rest.isEmpty slash).GoesOn :=
        hstep ▸ .onward here'
      rw [step_stays hentry hon, hstep]
      rw [hstep] at h
      exact ih here' (fun p hp => hmet p (metUntilLink_onward pass rest hstep hp)) h
    | through target =>
      have hon : (t.unlocked.step .use here name rest.isEmpty slash).GoesOn :=
        hstep ▸ .through target
      rw [step_stays hentry hon, hstep]
      rw [hstep] at h
      exact henter _ _ _ (fun p hp => hmet p (metUntilLink_through pass rest hstep hp)) h

theorem walk_stays {s : Seat} (hs : t.isDirectoryAt s = true) (links : Nat) (here : Seat)
    (names : List String) (slash : Bool) (hmet : ∀ p ∈ t.met links here names, t.Stays t' p)
    (h : t.unlocked.walk .use links here names slash = .ok (.taken s)) :
    t'.unlocked.walk .use links here names slash = .ok (.taken s) := by
  induction links generalizing here names slash with
  | zero =>
    exact walkUntilLink_stays hs (fun _ _ _ _ hnone => by cases hnone) names here slash hmet h
  | succ links ih => exact walkUntilLink_stays hs ih names here slash hmet h

/-! ### A walk in two parts -/

/-- A walk to a directory and on from there is a walk, and is denied if the walk to the directory
    is. What is to be known of the two ends may be known of all walks that start where a link
    leads. -/
theorem walkUntilLink_append {enter free enter' : Seat → List String → Bool → Except Fault Spot}
    {s : Seat} (hs : t.isDirectoryAt s = true) {more : List String} (hmore : more ≠ [])
    {slash : Bool} {motive : Except Fault Spot → Except Fault Spot → Prop}
    (hdenied : motive (.error .permissionDenied) (.error .permissionDenied))
    (henter : ∀ here names slash', free here names slash' = .ok (.taken s) →
      motive (enter here names slash') (enter' here (names ++ more) slash))
    (hend : motive (.ok (.taken s)) (t.walkUntilLink aim enter' s more slash))
    (names : List String) (here : Seat) (slash' : Bool)
    (h : t.unlocked.walkUntilLink .use free here names slash' = .ok (.taken s)) :
    motive (t.walkUntilLink .use enter here names slash')
      (t.walkUntilLink aim enter' here (names ++ more) slash) := by
  induction names generalizing here with
  | nil =>
    cases h
    exact hend
  | cons name rest ih =>
    have hrest : (rest ++ more).isEmpty = false :=
      List.isEmpty_eq_false_iff.mpr (List.append_ne_nil_of_right_ne_nil rest hmore)
    rw [walkUntilLink_cons] at h
    rw [List.cons_append, walkUntilLink_cons, walkUntilLink_cons, hrest]
    -- where the first walk is denied, so is the other; else it takes the steps of the one that
    -- is known to end in `s`
    rcases Bool.eq_false_or_eq_true (t.forbids here searchBit) with hsearch | hsearch
    · rw [step_of_forbids hsearch, step_of_forbids hsearch]
      exact hdenied
    rw [step_unlocked hsearch] at h
    cases hstep : t.step .use here name rest.isEmpty slash' with
    | stop r =>
      rw [hstep] at h
      exact absurd hs (not_isDirectoryAt_of_step (hstep.trans (congrArg Step.stop h)))
    | onward here' =>
      have hon : (t.step .use here name rest.isEmpty slash').GoesOn := hstep ▸ .onward here'
      rw [step_goesOn hon (.inr rfl) slash, hstep]
      rw [hstep] at h
      exact ih here' h
    | through target =>
      have hon : (t.step .use here name rest.isEmpty slash').GoesOn := hstep ▸ .through target
      rw [step_goesOn hon (.inr rfl) slash, hstep]
      rw [hstep] at h
      dsimp only [Step.result]
      rw [← List.append_assoc, Bool.false_and, Bool.or_false]
      exact henter _ _ _ h

/-- A walk that is continued is the rest of it, with some of the links used up, unless it is denied
    before that. -/
theorem walk_append {s : Seat} (hs : t.isDirectoryAt s = true) {more : List String}
    (hmore : more ≠ []) (slash : Bool) (links : Nat) (here : Seat) (names : List String)
    (slash' : Bool) (h : t.unlocked.walk .use links here names slash' = .ok (.taken s)) :
    (t.walk .use links here names slash' = .error .permissionDenied ∧
      t.walk aim links here (names ++ more) slash = .error .permissionDenied) ∨
    ∃ left ≤ links,
      t.walk aim links here (names ++ more) slash = t.walk aim left s more slash := by
  induction links generalizing here names slash' with
  | zero =>
    exact walkUntilLink_append (motive := fun first both =>
        (first = .error .permissionDenied ∧ both = .error .permissionDenied) ∨
          ∃ left ≤ 0, both = t.walk aim left s more slash)
      hs hmore (.inl ⟨rfl, rfl⟩) (fun _ _ _ hnone => by cases hnone)
      (.inr ⟨0, Nat.le_refl 0, rfl⟩) names here slash' h
  | succ links ih =>
    refine walkUntilLink_append (motive := fun first both =>
        (first = .error .permissionDenied ∧ both = .error .permissionDenied) ∨
          ∃ left ≤ links + 1, both = t.walk aim left s more slash)
      hs hmore (.inl ⟨rfl, rfl⟩) ?_ (.inr ⟨links + 1, Nat.le_refl _, rfl⟩) names here slash' h
    intro here names slash' hlink
    rcases ih here names slash' hlink with hdenied | ⟨left, hleft, hwalk⟩
    · exact .inl hdenied
    · exact .inr ⟨left, Nat.le_succ_of_le hleft, hwalk⟩

theorem walkUntilLink_links {enter enter' : Seat → List String → Bool → Except Fault Spot}
    (henter : ∀ here names slash, enter here names slash = .error .linkLoop ∨
      enter' here names slash = enter here names slash)
    (names : List String) (here : Seat) (slash : Bool) :
    t.walkUntilLink aim enter here names slash = .error .linkLoop ∨
      t.walkUntilLink aim enter' here names slash = t.walkUntilLink aim enter here names slash := by
  induction names generalizing here with
  | nil => exact .inr rfl
  | cons name rest ih =>
    rw [walkUntilLink_cons, walkUntilLink_cons]
    cases t.step aim here name rest.isEmpty slash with
    | stop => exact .inr rfl
    | onward s => exact ih s
    | through => exact henter _ _ _

/-- More links make a difference only to a walk that has too many. -/
theorem walk_succ (links : Nat) (here : Seat) (names : List String) (slash : Bool) :
    t.walk aim links here names slash = .error .linkLoop ∨
      t.walk aim (links + 1) here names slash = t.walk aim links here names slash := by
  induction links generalizing here names slash with
  | zero => exact walkUntilLink_links (fun _ _ _ => .inl rfl) names here slash
  | succ links ih => exact walkUntilLink_links ih names here slash

theorem walk_of_le {left links : Nat} (h : left ≤ links) (here : Seat) (names : List String)
    (slash : Bool) :
    t.walk aim left here names slash = .error .linkLoop ∨
      t.walk aim links here names slash = t.walk aim left here names slash := by
  induction links with
  | zero =>
    rw [Nat.le_zero.mp h]
    exact .inr rfl
  | succ links ih =>
    rcases Nat.lt_or_eq_of_le h with hlt | rfl
    · rcases ih (Nat.le_of_lt_succ hlt) with hloop | heq
      · exact .inl hloop
      · rw [← heq]
        exact t.walk_succ links here names slash
    · exact .inr rfl

/-! ### Directories that hang on the root -/

/-- All that leads from the root to a place are directories, under names that a path can spell. -/
structure Rooted (t : FileTree) (p : Place) : Prop where
  directory (q : Place) : q <+: p → t.HasDirectory q
  name (name : String) : name ∈ p → IsName name

theorem hasDirectory_root (t : FileTree) : t.HasDirectory [] := ⟨t.rootMode, t.get?_root⟩

theorem Rooted.root (t : FileTree) : t.Rooted [] where
  directory q hq := by
    rw [List.prefix_nil.mp hq]
    exact t.hasDirectory_root
  name _ hn := nomatch hn

theorem Rooted.dropLast (h : t.Rooted p) : t.Rooted p.dropLast where
  directory q hq := h.directory q (hq.trans (List.dropLast_prefix p))
  name n hn := h.name n (List.dropLast_subset p hn)

theorem Rooted.child (h : t.Rooted p) {name : String} (hname : IsName name)
    (hdir : t.HasDirectory (p ++ [name])) : t.Rooted (p ++ [name]) where
  directory q hq := by
    rcases List.prefix_concat_iff.mp hq with rfl | hq
    · exact hdir
    · exact h.directory q hq
  name n hn := by
    rcases List.mem_append.mp hn with hn | hn
    · exact h.name n hn
    · rwa [List.mem_singleton.mp hn]

theorem Rooted.stays (h : t.Rooted p) (hstays : ∀ q, q <+: p → t.Stays t' q) : t'.Rooted p where
  directory q hq := (hstays q hq).directory (h.directory q hq)
  name := h.name

/-- The seat is a rooted directory, of which nothing is lost, unless it is no directory. -/
def RootedSeat (t : FileTree) (s : Seat) : Prop :=
  s.lost = 0 ∧ (t.HasDirectory s.place → t.Rooted s.place)

theorem walkUntilLink_rooted {enter : Seat → List String → Bool → Except Fault Spot}
    (henter : ∀ here names slash s, here.lost = 0 → t.Rooted here.place →
      (∀ name ∈ names, IsPiece name) → enter here names slash = .ok (.taken s) → t.RootedSeat s)
    (names : List String) (here : Seat) (slash : Bool) (s : Seat) (hlost : here.lost = 0)
    (hhere : t.Rooted here.place) (hnames : ∀ name ∈ names, IsPiece name)
    (h : t.walkUntilLink aim enter here names slash = .ok (.taken s)) : t.RootedSeat s := by
  induction names generalizing here with
  | nil =>
    cases h
    exact ⟨hlost, fun _ => hhere⟩
  | cons name rest ih =>
    have hrest : ∀ n ∈ rest, IsPiece n := fun n hn => hnames n (List.mem_cons_of_mem _ hn)
    rw [walkUntilLink_cons] at h
    have hstep := t.stepped aim here name rest.isEmpty slash
    generalize t.step aim here name rest.isEmpty slash = st at h hstep
    cases hstep with
    | fault => cases h
    | free => cases h
    | stay => exact ih here hlost hhere hrest h
    | up =>
      refine ih here.parent ?_ hhere.dropLast hrest h
      rw [Seat.parent, hlost]
    | down hentry hdir =>
      have hname := hentry.isName (hnames name List.mem_cons_self)
      exact ih (here.child name) hlost (hhere.child hname hdir) hrest h
    | link target =>
      refine henter _ _ _ s ?_ ?_ ?_ h
      · split
        · rfl
        · exact hlost
      · split
        · exact .root t
        · exact hhere
      · intro n hn
        rcases List.mem_append.mp hn with hn | hn
        · exact isPiece_of_mem_pathNames hn
        · exact hrest n hn
    | taken n _ hn hdir =>
      cases h
      refine ⟨hlost, fun ⟨mode, hmode⟩ => ?_⟩
      rw [Option.some.inj (hn.symm.trans hmode)] at hdir
      cases hdir

theorem walk_rooted (links : Nat) (here : Seat) (names : List String) (slash : Bool) (s : Seat)
    (hlost : here.lost = 0) (hhere : t.Rooted here.place) (hnames : ∀ name ∈ names, IsPiece name)
    (h : t.walk aim links here names slash = .ok (.taken s)) : t.RootedSeat s := by
  induction links generalizing here names slash s with
  | zero =>
    exact walkUntilLink_rooted (fun _ _ _ _ _ _ _ hnone => by cases hnone) names here slash s hlost
      hhere hnames h
  | succ links ih => exact walkUntilLink_rooted ih names here slash s hlost hhere hnames h

/-- The names of a rooted place lead to it, without a link, if they may be looked for. -/
theorem walkUntilLink_of_rooted {enter : Seat → List String → Bool → Except Fault Spot} {q : Place}
    (h : t.Rooted (p ++ q)) (slash : Bool) :
    t.unlocked.walkUntilLink .use enter (.ofPlace p) q slash =
      .ok (.taken (.ofPlace (p ++ q))) := by
  induction q generalizing p with
  | nil => rw [List.append_nil]; rfl
  | cons name rest ih =>
    have hname := h.name name (List.mem_append_right p List.mem_cons_self)
    rw [List.append_cons] at h ⊢
    obtain ⟨mode, hdir⟩ :=
      hasDirectory_unlocked.mpr (h.directory (p ++ [name]) (List.prefix_append _ rest))
    have hentry : IsEntry (.ofPlace p) name := ⟨rfl, hname.not_here, hname.not_up, hname.short⟩
    have huse : ¬ (Aim.use = .create ∧ rest.isEmpty = true ∧ slash = true) :=
      fun hc => Aim.noConfusion hc.1
    have hplace : (Seat.ofPlace p).place = p := rfl
    rw [walkUntilLink_cons, step_of_entry hentry (t.forbids_unlocked _) huse, meet, hplace, hdir]
    exact ih h

/-! ### Paths of directories -/

variable {dir s : Seat} {path base : String}

/-- The places that are met on a path. -/
def way (t : FileTree) (dir : Seat) (path : String) : List Place :=
  t.met linkLimit (pathStart dir path) (pathNames path)

theorem asDirectory_eq_ok_iff {r : Except Fault Seat} :
    t.asDirectory r = .ok s ↔ r = .ok s ∧ t.isDirectoryAt s = true := by
  unfold asDirectory
  constructor
  · intro h
    split at h
    · split at h
      · rename_i hdir
        cases h
        exact ⟨rfl, hdir⟩
      · cases h
    · cases h
  · rintro ⟨rfl, hdir⟩
    exact if_pos hdir

theorem found_eq_ok_iff {r : Except Fault Spot} : found r = .ok s ↔ r = .ok (.taken s) := by
  constructor
  · intro h
    match r, h with
    | .ok (.taken s'), rfl => rfl
  · rintro rfl
    rfl

/-- A path means a directory if nothing speaks against it from the first and the walk ends in a
    directory. -/
theorem findDirectory_eq_ok_iff :
    t.findDirectory dir path = .ok s ↔ t.pathFault? dir path = none ∧
      t.walk .use linkLimit (pathStart dir path) (pathNames path) (endsInSlash path) =
        .ok (.taken s) ∧ t.isDirectoryAt s = true := by
  rw [findDirectory, asDirectory_eq_ok_iff, find, found_eq_ok_iff, locate_eq, and_assoc.symm]
  refine and_congr_left fun _ => ?_
  cases t.pathFault? dir path <;> simp

theorem pathFault?_eq_none_iff :
    t.pathFault? dir path = none ↔ '\x00' ∉ path.toList ∧ path.utf8ByteSize < pathLimit ∧
      path ≠ "" ∧ t.isDirectoryAt (pathStart dir path) = true := by
  unfold pathFault?
  constructor
  · intro h
    split at h
    · cases h
    rename_i hlong
    split at h
    · cases h
    rename_i hnul
    split at h
    · cases h
    rename_i hsome
    split at h
    · rename_i hdir
      exact ⟨hnul, Nat.lt_of_not_le fun hle => hlong ⟨hnul, hle⟩, hsome, hdir⟩
    · cases h
  · rintro ⟨hnul, hshort, hsome, hdir⟩
    rw [if_neg (fun hc => Nat.not_le.mpr hshort hc.2), if_neg hnul, if_neg hsome, if_pos hdir]

theorem locate_of_nul (h : '\x00' ∈ path.toList) (aim : Aim) :
    t.locate aim dir path = .error .nulInPath := by
  rw [locate_eq, pathFault?, if_neg (fun hc => hc.1 h), if_pos h]

theorem locate_of_long (h : '\x00' ∉ path.toList) (hlong : pathLimit ≤ path.utf8ByteSize)
    (aim : Aim) : t.locate aim dir path = .error .nameTooLong := by
  rw [locate_eq, pathFault?, if_pos ⟨h, hlong⟩]

theorem isDirectoryAt_pathStart (hs : t.isDirectoryAt dir = true) (path : String) :
    t.isDirectoryAt (pathStart dir path) = true := by
  unfold pathStart
  split
  · exact isDirectoryAt_iff.mpr (.inr t.hasDirectory_root)
  · exact hs

/-- Which directory a path leads to, if it can be followed. -/
theorem findDirectory_unlocked_iff :
    t.unlocked.findDirectory dir path = .ok s ↔ t.pathFault? dir path = none ∧
      t.unlocked.walk .use linkLimit (pathStart dir path) (pathNames path) (endsInSlash path) =
        .ok (.taken s) ∧ t.isDirectoryAt s = true := by
  have hfault : t.unlocked.pathFault? dir path = t.pathFault? dir path := by
    simp only [pathFault?, isDirectoryAt_unlocked]
  rw [findDirectory_eq_ok_iff, hfault, isDirectoryAt_unlocked]

/-- A directory that is found is the one that the path leads to. -/
theorem findDirectory_unlocked (h : t.findDirectory dir path = .ok s) :
    t.unlocked.findDirectory dir path = .ok s := by
  obtain ⟨hfault, hwalk, hdir⟩ := findDirectory_eq_ok_iff.mp h
  exact findDirectory_unlocked_iff.mpr ⟨hfault, walk_unlocked_of_ok hwalk, hdir⟩

/-- The directory that a path leads to is found, or the way to it is denied. -/
theorem findDirectory_of_unlocked (h : t.unlocked.findDirectory dir path = .ok s) :
    t.findDirectory dir path = .ok s ∨ t.findDirectory dir path = .error .permissionDenied := by
  obtain ⟨hfault, hwalk, hdir⟩ := findDirectory_unlocked_iff.mp h
  rcases t.walk_unlocked .use linkLimit (pathStart dir path) (pathNames path)
    (endsInSlash path) with hdenied | heq
  · right
    rw [findDirectory, find, locate_eq, hfault]
    dsimp only
    rw [hdenied]
    rfl
  · exact .inl (findDirectory_eq_ok_iff.mpr ⟨hfault, heq.trans hwalk, hdir⟩)

theorem enterDirectory_eq_ok_iff :
    t.enterDirectory dir path = .ok s ↔
      t.findDirectory dir path = .ok s ∧ t.forbids s searchBit = false := by
  unfold enterDirectory
  cases hfind : t.findDirectory dir path with
  | error f => simp
  | ok s' =>
    dsimp only
    by_cases hsearch : t.forbids s' searchBit = true
    · rw [if_pos hsearch]
      refine ⟨nofun, fun ⟨heq, hfree⟩ => ?_⟩
      cases heq
      exact absurd hsearch (Bool.eq_false_iff.mp hfree)
    · rw [if_neg hsearch]
      refine ⟨fun heq => ⟨heq, ?_⟩, fun h => h.1⟩
      cases heq
      exact Bool.eq_false_iff.mpr hsearch

/-- The directory that a path leads to is entered, or that is denied. -/
theorem enterDirectory_of_unlocked (h : t.unlocked.findDirectory dir path = .ok s) :
    t.enterDirectory dir path = .ok s ∨ t.enterDirectory dir path = .error .permissionDenied := by
  unfold enterDirectory
  rcases findDirectory_of_unlocked h with hfind | hdenied
  · rw [hfind]
    dsimp only
    split
    · exact .inr rfl
    · exact .inl rfl
  · rw [hdenied]
    exact .inr rfl

/-- A directory that is seen from itself is still found if what is met on the way stays. -/
theorem findDirectory_stays (hmet : ∀ p ∈ t.way s path, t.Stays t' p)
    (hs : t'.isDirectoryAt s = true) (h : t.unlocked.findDirectory s path = .ok s) :
    t'.unlocked.findDirectory s path = .ok s := by
  obtain ⟨hfault, hwalk, hdir⟩ := findDirectory_unlocked_iff.mp h
  obtain ⟨hnul, hshort, hsome, -⟩ := pathFault?_eq_none_iff.mp hfault
  exact findDirectory_unlocked_iff.mpr
    ⟨pathFault?_eq_none_iff.mpr ⟨hnul, hshort, hsome, isDirectoryAt_pathStart hs path⟩,
      walk_stays hdir _ _ _ _ hmet hwalk, hs⟩

/-- A relative path leads from a directory to where it leads after the directory's own path, unless
    it is too long there, has too many links or the directory's own path is denied. -/
theorem locate_joinPath (hbase : t.unlocked.findDirectory s base = .ok s)
    (hrel : isAbsolute path = false) (hsome : path ≠ "") (aim : Aim) :
    let joined := t.locate aim s (joinPath base path)
    joined = t.locate aim s path ∨ joined = .error .nameTooLong ∨ joined = .error .linkLoop ∨
      joined = .error .permissionDenied ∧
        t.findDirectory s base = .error .permissionDenied := by
  intro joined
  obtain ⟨hfault, hwalk, hdir⟩ := findDirectory_unlocked_iff.mp hbase
  obtain ⟨hnul, -, -, hstart⟩ := pathFault?_eq_none_iff.mp hfault
  have hnul' : '\x00' ∈ (joinPath base path).toList ↔ '\x00' ∈ path.toList := by
    rw [mem_joinPath (by decide) hrel]
    exact or_iff_right hnul
  by_cases hpath : '\x00' ∈ path.toList
  · left
    rw [locate_of_nul hpath]
    exact locate_of_nul (hnul'.mpr hpath) aim
  by_cases hlong : pathLimit ≤ (joinPath base path).utf8ByteSize
  · exact .inr (.inl (locate_of_long (fun h => hpath (hnul'.mp h)) hlong aim))
  have hshort := Nat.lt_of_not_le hlong
  have hfrom : pathStart s (joinPath base path) = pathStart s base := by
    rw [pathStart, pathStart, isAbsolute_joinPath_relative hrel]
  have hhere : pathStart s path = s := by
    rw [pathStart, if_neg (Bool.eq_false_iff.mp hrel)]
  -- the walks differ in the links that are used up before the second part
  have hsecond : t.locate aim s path =
      t.walk aim linkLimit s (pathNames path) (endsInSlash path) := by
    have hnone := pathFault?_eq_none_iff.mpr ⟨hpath,
      Nat.lt_of_le_of_lt (size_le_joinPath base path) hshort, hsome,
      isDirectoryAt_pathStart hdir path⟩
    rw [locate_eq, hnone, hhere]
  have hboth : joined = t.walk aim linkLimit (pathStart s base)
      (pathNames base ++ pathNames path) (endsInSlash path) := by
    have hnone := pathFault?_eq_none_iff.mpr ⟨fun h => hpath (hnul'.mp h), hshort,
      joinPath_ne_empty hsome, isDirectoryAt_pathStart hdir (joinPath base path)⟩
    dsimp only [joined]
    rw [locate_eq, hnone, hfrom, pathNames_joinPath hrel, endsInSlash_joinPath hrel hsome]
  rw [hboth, hsecond]
  rcases walk_append hdir (pathNames_ne_nil hrel hsome) (endsInSlash path) linkLimit _ _ _
    hwalk with ⟨hfirst, hdenied⟩ | ⟨left, hleft, hrest⟩
  · refine .inr (.inr (.inr ⟨hdenied, ?_⟩))
    rw [findDirectory, find, locate_eq, hfault]
    dsimp only
    rw [hfirst]
    rfl
  · rw [hrest]
    rcases walk_of_le hleft s (pathNames path) (endsInSlash path) with hloop | heq
    · exact .inr (.inr (.inl hloop))
    · exact .inl heq.symm

/-- The text of a rooted place leads nowhere else. -/
theorem Rooted.eq_of_findDirectory (h : t.Rooted p)
    (hfind : t.findDirectory dir (placeText p) = .ok s) : s = .ofPlace p := by
  obtain ⟨-, hwalk, -⟩ := findDirectory_eq_ok_iff.mp hfind
  have hstart : pathStart dir (placeText p) = .ofPlace [] := if_pos (isAbsolute_placeText p)
  have hthere : t.unlocked.walk .use linkLimit (.ofPlace []) p (endsInSlash (placeText p)) =
      .ok (.taken (.ofPlace p)) :=
    walkUntilLink_of_rooted h (endsInSlash (placeText p))
  rw [hstart, pathNames_placeText fun name hn => (h.name name hn).piece] at hwalk
  cases (walk_unlocked_of_ok hwalk).symm.trans hthere
  rfl

theorem follow_eq_ok_iff {spot : Spot} :
    t.follow aim dir path = .ok spot ↔ '\x00' ∉ path.toList ∧ path ≠ "" ∧
      t.isDirectoryAt (pathStart dir path) = true ∧
      t.walk aim linkLimit (pathStart dir path) (pathNames path) (endsInSlash path) =
        .ok spot := by
  have hfollow : t.follow aim dir path =
      if '\x00' ∈ path.toList then .error .nulInPath
      else if path = "" then .error .notFound
      else if t.isDirectoryAt (pathStart dir path) then
        t.walk aim linkLimit (pathStart dir path) (pathNames path) (endsInSlash path)
      else .error .notFound := rfl
  rw [hfollow]
  constructor
  · intro h
    split at h
    · cases h
    rename_i hnul
    split at h
    · cases h
    rename_i hsome
    split at h
    · rename_i hstart
      exact ⟨hnul, hsome, hstart, h⟩
    · cases h
  · rintro ⟨hnul, hsome, hstart, hwalk⟩
    rw [if_neg hnul, if_neg hsome, if_pos hstart, hwalk]

/-- A walk from the root, or from a rooted directory, ends in a rooted directory if in any. -/
theorem rooted_of_walk (hdir : isAbsolute path = false → dir.lost = 0 ∧ t.Rooted dir.place)
    (hwalk : t.walk aim linkLimit (pathStart dir path) (pathNames path) (endsInSlash path) =
      .ok (.taken s)) (hs : t.isDirectoryAt s = true) : s.lost = 0 ∧ t.Rooted s.place := by
  have hstart : (pathStart dir path).lost = 0 ∧ t.Rooted (pathStart dir path).place := by
    unfold pathStart
    split
    · exact ⟨rfl, .root t⟩
    · rename_i hrel
      exact hdir (Bool.eq_false_iff.mpr hrel)
  obtain ⟨hlost, hrooted⟩ := walk_rooted linkLimit (pathStart dir path) (pathNames path)
    (endsInSlash path) s hstart.1 hstart.2 (fun _ => isPiece_of_mem_pathNames) hwalk
  refine ⟨hlost, hrooted ?_⟩
  exact (isDirectoryAt_iff.mp hs).resolve_left (absurd hlost)

/-- A directory is resolved if it is there and its own place is short enough. -/
theorem resolveDirectory_eq_ok_iff :
    t.resolveDirectory dir path = .ok s ↔ (dir.lost = 0 ∨ isAbsolute path = true) ∧
      t.follow .use dir path = .ok (.taken s) ∧ t.isDirectoryAt s = true ∧
      (placeText s.place).utf8ByteSize < pathLimit := by
  unfold resolveDirectory
  constructor
  · intro h
    split at h
    · cases h
    rename_i hheld
    split at h
    · rename_i s' hfound
      split at h
      · cases h
      rename_i hlong
      cases h
      obtain ⟨hfollow, hthere⟩ := asDirectory_eq_ok_iff.mp hfound
      refine ⟨?_, found_eq_ok_iff.mp hfollow, hthere, Nat.lt_of_not_le hlong⟩
      rcases Decidable.not_and_iff_or_not.mp hheld with hlost | hrel
      · exact .inl (Decidable.not_not.mp hlost)
      · exact .inr (by simpa using hrel)
    · cases h
  · rintro ⟨hheld, hfollow, hthere, hshort⟩
    have hfound : t.asDirectory (found (t.follow .use dir path)) = .ok s :=
      asDirectory_eq_ok_iff.mpr ⟨found_eq_ok_iff.mpr hfollow, hthere⟩
    rw [if_neg ?_, hfound]
    · exact if_neg (Nat.not_le.mpr hshort)
    · rintro ⟨hlost, hrel⟩
      rcases hheld with hzero | habs
      · exact hlost hzero
      · rw [hrel] at habs
        cases habs

theorem isDirectory_iff :
    t.isDirectory dir path = true ↔ ∃ s, t.findDirectory dir path = .ok s := by
  rw [isDirectory, node?, findDirectory]
  cases t.find dir path with
  | error f => simp [asDirectory]
  | ok s =>
    change t.isDirectoryAt s = true ↔ _
    by_cases hdir : t.isDirectoryAt s = true <;> simp [asDirectory, hdir]

/-- An absolute path is seen alike from everywhere. -/
theorem findDirectory_absolute (habs : isAbsolute path = true) (dir' : Seat) :
    t.findDirectory dir' path = t.findDirectory dir path := by
  have hlocate : t.locate .use dir' path = t.locate .use dir path := by
    rw [locate, locate, follow, follow, habs]
    rfl
  rw [findDirectory, findDirectory, find, find, hlocate]

/-- A file that has been opened is at the place that the path leads to. -/
theorem filePlace?_of_openFile {append : Bool} {f : OpenFile}
    (h : (t.openFile dir path append).1 = .ok f) : t.filePlace? dir path = some f.place := by
  cases hplace : t.filePlace? dir path with
  | none =>
    obtain ⟨fault, hopen⟩ := openFile_of_no_place hplace append
    rw [hopen] at h
    cases h
  | some p =>
    rw [openFile_of_place hplace] at h
    have hopened := openPlace_ok (Prod.ext h rfl)
    rw [hopened.1]

/-- A file that a relative path leads to after a directory's own path is where it leads from that
    directory. -/
theorem filePlace?_joinPath (hbase : t.unlocked.findDirectory s base = .ok s)
    (hrel : isAbsolute path = false) (hsome : path ≠ "")
    (hplace : t.filePlace? s (joinPath base path) = some p) : t.filePlace? s path = some p := by
  unfold filePlace? at hplace ⊢
  rcases locate_joinPath hbase hrel hsome .create with heq | hlong | hloop | ⟨hdenied, -⟩
  · rwa [heq] at hplace
  · rw [hlong] at hplace
    cases hplace
  · rw [hloop] at hplace
    cases hplace
  · rw [hdenied] at hplace
    cases hplace

end FileTree

end LineShell
