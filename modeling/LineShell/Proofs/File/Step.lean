import LineShell.Proofs.File.Names
/-!
    A walk, one name at a time.

    On a name a walk stops, goes on from another directory or is sent through a link
    (`FileTree.step`), and it is nothing but its steps (`walkUntilLink_cons`). All that a step can
    come to is listed once (`Stepped`), and what holds of each step carries over to walks by
    induction on the names, and then on the links. -/

namespace LineShell

/-- What a walk does on a name. -/
inductive Step where
  | stop (r : Except Fault Spot)
  | onward (s : Seat)
  | through (target : String)

/-- Where a walk ends that starts with a step, from where it would end on each of the ways on. -/
def Step.result (on : Seat → Except Fault Spot) (link : String → Except Fault Spot) :
    Step → Except Fault Spot
  | stop r => r
  | onward s => on s
  | through target => link target

/-- The walk goes on. -/
def Step.GoesOn (st : Step) : Prop := ∀ r, st ≠ .stop r

theorem Step.GoesOn.onward (s : Seat) : (Step.onward s).GoesOn := fun _ => Step.noConfusion

theorem Step.GoesOn.through (target : String) : (Step.through target).GoesOn :=
  fun _ => Step.noConfusion

/-- The name stands for something in the directory, or could. -/
structure IsEntry (here : Seat) (name : String) : Prop where
  held : here.lost = 0
  not_here : name ≠ "."
  not_up : name ≠ ".."
  short : name.utf8ByteSize ≤ nameLimit

theorem IsEntry.isName {here : Seat} {name : String} (h : IsEntry here name)
    (hpiece : IsPiece name) : IsName name := ⟨hpiece, h.not_here, h.not_up, h.short⟩

namespace FileTree

/-- A directory is at a place. -/
def HasDirectory (t : FileTree) (p : Place) : Prop := ∃ mode, t.get? p = some (.directory mode)

/-- The step on the name of an entry. -/
def meet (t : FileTree) (aim : Aim) (here : Seat) (name : String) (final slash : Bool) : Step :=
  match t.get? (here.place ++ [name]) with
  | none =>
    .stop (if final then .ok (.free (here.place ++ [name])) else .error .notFound)
  | some (.directory _) => .onward (here.child name)
  | some (.link target) =>
    if aim = .inspect ∧ final ∧ ¬ slash then .stop (.ok (.taken (here.child name)))
    else .through target
  | some _ =>
    .stop (if final ∧ ¬ slash then .ok (.taken (here.child name)) else .error .notDirectory)

/-- The step on a name before anything is looked for under it. `final` says that the name is the
    last one. -/
def early? (t : FileTree) (aim : Aim) (here : Seat) (name : String) (final slash : Bool) :
    Option Step :=
  if t.forbids here searchBit then some (.stop (.error .permissionDenied))
  else if name = "." then some (.onward here)
  else if name = ".." then some (.onward here.parent)
  else if aim = .create ∧ final ∧ slash then some (.stop (.error .isDirectory))
  else if here.lost ≠ 0 then some (.stop (.error .notFound))
  else if nameLimit < name.utf8ByteSize then some (.stop (.error .nameTooLong))
  else none

/-- The step on a name. -/
def step (t : FileTree) (aim : Aim) (here : Seat) (name : String) (final slash : Bool) : Step :=
  (t.early? aim here name final slash).getD (t.meet aim here name final slash)

variable {t t' : FileTree} {aim : Aim} {here : Seat} {name : String} {final slash : Bool} {st : Step}

/-- A walk is its first step and the rest. -/
theorem walkUntilLink_cons (t : FileTree) (aim : Aim)
    (enter : Seat → List String → Bool → Except Fault Spot) (here : Seat) (name : String)
    (rest : List String) (slash : Bool) :
    t.walkUntilLink aim enter here (name :: rest) slash =
      (t.step aim here name rest.isEmpty slash).result
        (fun s => t.walkUntilLink aim enter s rest slash)
        (fun target => enter (if isAbsolute target then .root else here)
          (pathNames target ++ rest) (slash || (rest.isEmpty && endsInSlash target))) := by
  have hfinal : rest = [] ↔ rest.isEmpty = true := List.isEmpty_iff.symm
  rw [walkUntilLink, step, early?]
  simp only [hfinal]
  split
  · rfl
  split
  · rfl
  split
  · rfl
  split
  · rfl
  split
  · rfl
  split
  · rfl
  rw [Option.getD_none, meet]
  cases t.get? (here.place ++ [name]) with
  | none => dsimp only; split <;> rfl
  | some n =>
    cases n with
    | directory => rfl
    | link => dsimp only; split <;> rfl
    | _ => dsimp only; split <;> rfl

/-! ### What a step can come to -/

theorem early?_eq_none_iff : t.early? aim here name final slash = none ↔
    t.forbids here searchBit = false ∧ IsEntry here name ∧
      ¬ (aim = .create ∧ final = true ∧ slash = true) := by
  constructor
  · intro h
    unfold early? at h
    split at h
    · cases h
    rename_i hsearch
    split at h
    · cases h
    rename_i hdot
    split at h
    · cases h
    rename_i hup
    split at h
    · cases h
    rename_i hmake
    split at h
    · cases h
    rename_i hlost
    split at h
    · cases h
    rename_i hlong
    exact ⟨Bool.eq_false_iff.mpr hsearch,
      ⟨Decidable.not_not.mp hlost, hdot, hup, Nat.le_of_not_lt hlong⟩, hmake⟩
  · rintro ⟨hsearch, hentry, hmake⟩
    rw [early?, if_neg (Bool.eq_false_iff.mp hsearch), if_neg hentry.not_here,
      if_neg hentry.not_up, if_neg hmake, if_neg (not_not_intro hentry.held),
      if_neg (Nat.not_lt.mpr hentry.short)]

theorem early?_eq_some (h : t.early? aim here name final slash = some st) :
    (∃ f, st = .stop (.error f)) ∨ (name = "." ∧ st = .onward here) ∨
      (name = ".." ∧ st = .onward here.parent) := by
  unfold early? at h
  split at h
  · exact .inl ⟨_, (Option.some.inj h).symm⟩
  split at h
  · exact .inr (.inl ⟨‹_›, (Option.some.inj h).symm⟩)
  split at h
  · exact .inr (.inr ⟨‹_›, (Option.some.inj h).symm⟩)
  split at h
  · exact .inl ⟨_, (Option.some.inj h).symm⟩
  split at h
  · exact .inl ⟨_, (Option.some.inj h).symm⟩
  split at h
  · exact .inl ⟨_, (Option.some.inj h).symm⟩
  · cases h

theorem step_of_entry (hentry : IsEntry here name) (hsearch : t.forbids here searchBit = false)
    (hmake : ¬ (aim = .create ∧ final = true ∧ slash = true)) :
    t.step aim here name final slash = t.meet aim here name final slash := by
  rw [step, early?_eq_none_iff.mpr ⟨hsearch, hentry, hmake⟩, Option.getD_none]

/-- All that a step can come to. -/
inductive Stepped (t : FileTree) (here : Seat) (name : String) : Step → Prop where
  | fault (f : Fault) : Stepped t here name (.stop (.error f))
  | stay : name = "." → Stepped t here name (.onward here)
  | up : name = ".." → Stepped t here name (.onward here.parent)
  | free : IsEntry here name → t.get? (here.place ++ [name]) = none →
    Stepped t here name (.stop (.ok (.free (here.place ++ [name]))))
  | down : IsEntry here name → t.HasDirectory (here.place ++ [name]) →
    Stepped t here name (.onward (here.child name))
  | link (target : String) : IsEntry here name →
    t.get? (here.place ++ [name]) = some (.link target) → Stepped t here name (.through target)
  /-- What is taken is no directory. -/
  | taken (n : Node) : IsEntry here name → t.get? (here.place ++ [name]) = some n →
    n.isDirectory = false → Stepped t here name (.stop (.ok (.taken (here.child name))))

theorem stepped_meet (hentry : IsEntry here name) (aim : Aim) (final slash : Bool) :
    t.Stepped here name (t.meet aim here name final slash) := by
  rw [meet]
  cases hn : t.get? (here.place ++ [name]) with
  | none =>
    dsimp only
    split
    · exact .free hentry hn
    · exact .fault _
  | some n =>
    cases n with
    | directory mode => exact .down hentry ⟨mode, hn⟩
    | link target =>
      dsimp only
      split
      · exact .taken _ hentry hn rfl
      · exact .link target hentry hn
    | _ =>
      dsimp only
      split
      · exact .taken _ hentry hn rfl
      · exact .fault _

theorem stepped (t : FileTree) (aim : Aim) (here : Seat) (name : String) (final slash : Bool) :
    t.Stepped here name (t.step aim here name final slash) := by
  rw [step]
  cases hearly : t.early? aim here name final slash with
  | none => exact stepped_meet (early?_eq_none_iff.mp hearly).2.1 aim final slash
  | some st =>
    rcases early?_eq_some hearly with ⟨f, rfl⟩ | ⟨hdot, rfl⟩ | ⟨hup, rfl⟩
    · exact .fault f
    · exact .stay hdot
    · exact .up hup

/-- Where something could be made there is nothing. -/
theorem get?_of_step_free {p : Place}
    (h : t.step aim here name final slash = .stop (.ok (.free p))) : t.get? p = none := by
  have hstep := t.stepped aim here name final slash
  rw [h] at hstep
  cases hstep with
  | free _ hnone => exact hnone

/-- Under a name that is not the last one a walk goes on or fails. -/
theorem error_of_step_inner {r : Except Fault Spot}
    (h : t.step aim here name false slash = .stop r) : ∃ f, r = .error f := by
  rw [step] at h
  cases hearly : t.early? aim here name false slash with
  | some st =>
    rw [hearly] at h
    obtain rfl : st = .stop r := h
    rcases early?_eq_some hearly with ⟨f, hf⟩ | ⟨-, hst⟩ | ⟨-, hst⟩
    · exact ⟨f, Step.stop.inj hf⟩
    · cases hst
    · cases hst
  | none =>
    rw [hearly, Option.getD_none, meet] at h
    cases hn : t.get? (here.place ++ [name]) with
    | none =>
      rw [hn] at h
      exact ⟨_, (Step.stop.inj h).symm⟩
    | some n =>
      rw [hn] at h
      cases n with
      | directory => cases h
      | link => simp at h
      | _ => exact ⟨.notDirectory, by simpa using h.symm⟩

/-! ### What a step depends on -/

theorem step_of_forbids (h : t.forbids here searchBit = true) (aim : Aim) (name : String)
    (final slash : Bool) :
    t.step aim here name final slash = .stop (.error .permissionDenied) := by
  rw [step, early?, if_pos h, Option.getD_some]

/-- In two trees that let a directory be searched alike a step differs only in what it meets
    there. -/
theorem step_eq_or_meet (hsearch : t'.forbids here searchBit = t.forbids here searchBit)
    (aim : Aim) (name : String) (final slash : Bool) :
    t'.step aim here name final slash = t.step aim here name final slash ∨
    IsEntry here name ∧ ¬ (aim = .create ∧ final = true ∧ slash = true) ∧
      t.step aim here name final slash = t.meet aim here name final slash ∧
      t'.step aim here name final slash = t'.meet aim here name final slash := by
  have hearly : t'.early? aim here name final slash = t.early? aim here name final slash := by
    rw [early?, early?, hsearch]
  rw [step, step, hearly]
  cases hnone : t.early? aim here name final slash with
  | some st => exact .inl rfl
  | none =>
    obtain ⟨-, hentry, hmake⟩ := early?_eq_none_iff.mp hnone
    exact .inr ⟨hentry, hmake, rfl, rfl⟩

/-- To make a file is to use it, but for a slash at the end. -/
theorem step_create (t : FileTree) (here : Seat) (name : String) (final slash : Bool) :
    t.step .create here name final slash = .stop (.error .isDirectory) ∨
      t.step .create here name final slash = t.step .use here name final slash := by
  have huse : ¬ (Aim.use = .create ∧ final = true ∧ slash = true) := fun hc => Aim.noConfusion hc.1
  have hmeet : t.meet .create here name final slash = t.meet .use here name final slash := rfl
  rw [step, step, hmeet, early?, early?, if_neg huse]
  split
  · exact .inr rfl
  split
  · exact .inr rfl
  split
  · exact .inr rfl
  split
  · exact .inl rfl
  · exact .inr rfl

theorem meet_goesOn (h : (t.meet aim here name final slash).GoesOn) {aim' : Aim}
    {final' : Bool} (haim : aim' = .use ∨ final' = false) (slash' : Bool) :
    t.meet aim' here name final' slash' = t.meet aim here name final slash := by
  unfold meet at h ⊢
  cases hn : t.get? (here.place ++ [name]) with
  | none =>
    rw [hn] at h
    exact absurd rfl (h _)
  | some n =>
    rw [hn] at h
    cases n with
    | directory => rfl
    | link target =>
      dsimp only at h ⊢
      split at h
      · exact absurd rfl (h _)
      · rename_i hopen
        rw [if_neg hopen, if_neg ?_]
        rintro ⟨rfl, hfinal, -⟩
        rcases haim with haim | rfl
        · cases haim
        · cases hfinal
    | _ => exact absurd rfl (h _)

/-- A step that goes on does so for any aim as long as there are more names, and whatever they are
    for a path that is to be used. -/
theorem step_goesOn (h : (t.step aim here name final slash).GoesOn) {aim' : Aim}
    {final' : Bool} (haim : aim' = .use ∨ final' = false) (slash' : Bool) :
    t.step aim' here name final' slash' = t.step aim here name final slash := by
  have hmake : ¬ (aim' = .create ∧ final' = true ∧ slash' = true) := by
    rintro ⟨rfl, hfinal, -⟩
    rcases haim with haim | rfl
    · cases haim
    · cases hfinal
  by_cases hsearch : t.forbids here searchBit = true
  · rw [step_of_forbids hsearch] at h
    exact absurd rfl (h _)
  rw [step] at h
  cases hearly : t.early? aim here name final slash with
  | none =>
    obtain ⟨hfree, hentry, hmake'⟩ := early?_eq_none_iff.mp hearly
    rw [hearly] at h
    rw [step_of_entry hentry hfree hmake, step_of_entry hentry hfree hmake']
    exact meet_goesOn h haim slash'
  | some st =>
    rw [hearly] at h
    rw [step, step, hearly, early?, if_neg hsearch]
    -- of what comes early only `.` and `..` go on, and these look at nothing else
    rcases early?_eq_some hearly with ⟨f, rfl⟩ | ⟨rfl, rfl⟩ | ⟨rfl, rfl⟩
    · exact absurd rfl (h _)
    · rfl
    · rfl

end FileTree

end LineShell
