import LineShell.Proofs.File.Step
import LineShell.Proofs.File.Writing
/-!
    The place of the file that a path means.

    A path leads to one place at which a file is or could be made (`filePlace?`). Directories and
    links alone decide which place that is (`SameWays.filePlace?`). So a file that is written is
    still where the path leads, and what has been written is what is read
    (`writeFile_of_canKeep`). Nothing else is touched (`writeFile_sameBut`). -/

namespace LineShell

/-- Whether a walk can go on from a node. -/
def Node.leadsOn : Node → Bool
  | .directory _ | .link _ => true
  | .file _ _ | .device _ => false

/-- The directory or the link at a place. -/
def FileTree.lead? (t : FileTree) (p : Place) : Option Node := (t.get? p).filter Node.leadsOn

/-- Two trees with the same directories and links. -/
def FileTree.SameWays (t t' : FileTree) : Prop := ∀ p, t'.lead? p = t.lead? p

namespace FileTree

variable {t t' : FileTree} {aim : Aim} {s : Seat} {p : Place}

theorem SameWays.refl (t : FileTree) : t.SameWays t := fun _ => rfl

theorem lead?_eq_some_iff {n : Node} :
    t.lead? p = some n ↔ t.get? p = some n ∧ n.leadsOn = true := by
  rw [lead?, Option.filter_eq_some_iff]

theorem SameWays.get?_iff (hways : t.SameWays t') {n : Node} (hn : n.leadsOn = true) :
    t'.get? p = some n ↔ t.get? p = some n := by
  have hiff := (Iff.of_eq (congrArg (· = some n) (hways p)))
  rwa [lead?_eq_some_iff, lead?_eq_some_iff, and_iff_left hn, and_iff_left hn] at hiff

theorem SameWays.hasDirectory_iff (hways : t.SameWays t') : t'.HasDirectory p ↔ t.HasDirectory p :=
  exists_congr fun _ => hways.get?_iff rfl

/-- A seat is a directory if it is lost, or if a directory is at its place. -/
theorem isDirectoryAt_iff : t.isDirectoryAt s = true ↔ s.lost ≠ 0 ∨ t.HasDirectory s.place := by
  rw [isDirectoryAt, at?]
  by_cases hlost : s.lost = 0
  · rw [if_pos hlost, HasDirectory]
    cases t.get? s.place with
    | none => simp [hlost]
    | some n => cases n <;> simp [Node.isDirectory, hlost]
  · simp [hlost, Node.isDirectory]

/-- A directory lacks what its permission bits lack. One that is lost has the usual ones. -/
theorem forbids_iff {bit : Nat} : t.forbids s bit = true ↔
    ∃ mode, mode &&& bit = 0 ∧
      if s.lost = 0 then t.get? s.place = some (.directory mode) else mode = usualMode := by
  rw [forbids, at?]
  by_cases hlost : s.lost = 0
  · simp only [if_pos hlost]
    cases t.get? s.place with
    | none => simp
    | some n => cases n <;> simp [Node.forbids]
  · simp [hlost, Node.forbids]

theorem SameWays.isDirectoryAt (hways : t.SameWays t') (s : Seat) :
    t'.isDirectoryAt s = t.isDirectoryAt s := by
  rw [Bool.eq_iff_iff, isDirectoryAt_iff, isDirectoryAt_iff, hways.hasDirectory_iff]

theorem SameWays.forbids (hways : t.SameWays t') (s : Seat) (bit : Nat) :
    t'.forbids s bit = t.forbids s bit := by
  rw [Bool.eq_iff_iff, forbids_iff, forbids_iff]
  refine exists_congr fun mode => and_congr_right fun _ => ?_
  rw [hways.get?_iff rfl]

/-- The place of the file that a walk has ended at: where it is, or where it would be made. -/
def spotPlace? : Except Fault Spot → Option Place
  | .ok (.taken s) => if s.lost = 0 then some s.place else none
  | .ok (.free p) => some p
  | .error _ => none

/-- The place of the file that a path means: where it is, or where it would be made. -/
def filePlace? (t : FileTree) (dir : Seat) (path : String) : Option Place :=
  spotPlace? (t.locate .create dir path)

theorem walkUntilLink_use {enter enter' : Seat → List String → Bool → Except Fault Spot}
    (henter : ∀ {here names slash spot}, enter here names slash = .ok spot →
      enter' here names slash = .ok spot) (names : List String) (here : Seat) (slash : Bool)
    {spot : Spot} (h : t.walkUntilLink .create enter here names slash = .ok spot) :
    t.walkUntilLink .use enter' here names slash = .ok spot := by
  induction names generalizing here with
  | nil => exact h
  | cons name rest ih =>
    rw [walkUntilLink_cons] at h ⊢
    rcases t.step_create here name rest.isEmpty slash with hmake | huse
    · rw [hmake] at h
      cases h
    · rw [huse] at h
      cases hstep : t.step .use here name rest.isEmpty slash with
      | stop => rwa [hstep] at h
      | onward s =>
        rw [hstep] at h
        exact ih s h
      | through target =>
        rw [hstep] at h
        exact henter h

theorem walkUntilLink_free {enter : Seat → List String → Bool → Except Fault Spot}
    (henter : ∀ {here names slash p}, enter here names slash = .ok (.free p) → t.get? p = none)
    (names : List String) (here : Seat) (slash : Bool)
    {p : Place} (h : t.walkUntilLink aim enter here names slash = .ok (.free p)) :
    t.get? p = none := by
  induction names generalizing here with
  | nil => cases h
  | cons name rest ih =>
    rw [walkUntilLink_cons] at h
    cases hstep : t.step aim here name rest.isEmpty slash with
    | stop r =>
      rw [hstep] at h
      exact get?_of_step_free (hstep.trans (congrArg Step.stop h))
    | onward s =>
      rw [hstep] at h
      exact ih s h
    | through target =>
      rw [hstep] at h
      exact henter h

/-- Under a name that leads nowhere a step stops, and a file is or could be made there. -/
theorem meet_flat {here : Seat} {name : String} {final slash : Bool} (hlost : here.lost = 0)
    (hslash : ¬ (final = true ∧ slash = true))
    (hflat : t.lead? (here.place ++ [name]) = none) :
    ∃ r, t.meet .create here name final slash = .stop r ∧
      spotPlace? r = if final then some (here.place ++ [name]) else none := by
  rw [lead?] at hflat
  rw [meet]
  cases hn : t.get? (here.place ++ [name]) with
  | none =>
    refine ⟨_, rfl, ?_⟩
    split <;> rfl
  | some n =>
    rw [hn] at hflat
    cases n with
    | directory => cases hflat
    | link => cases hflat
    | _ =>
      refine ⟨_, rfl, ?_⟩
      cases final with
      | false => rfl
      | true =>
        have hopen : slash = false := Bool.eq_false_iff.mpr fun hc => hslash ⟨rfl, hc⟩
        rw [hopen]
        exact if_pos hlost

/-- A step leads to the same place if directories and links are the same, and the ways on do. -/
theorem SameWays.step_place (hways : t.SameWays t') {on on' : Seat → Except Fault Spot}
    {link link' : String → Except Fault Spot}
    (hon : ∀ s, spotPlace? (on' s) = spotPlace? (on s))
    (hlink : ∀ target, spotPlace? (link' target) = spotPlace? (link target)) (here : Seat)
    (name : String) (final slash : Bool) :
    spotPlace? ((t'.step .create here name final slash).result on' link') =
      spotPlace? ((t.step .create here name final slash).result on link) := by
  rcases step_eq_or_meet (hways.forbids here searchBit) .create name final slash with
    hstep | ⟨hentry, hmake, hmeet, hmeet'⟩
  · rw [hstep]
    cases t.step .create here name final slash with
    | stop => rfl
    | onward s => exact hon s
    | through target => exact hlink target
  rw [hmeet, hmeet']
  have hway := hways (here.place ++ [name])
  cases hlead : t.lead? (here.place ++ [name]) with
  | none =>
    have hslash : ¬ (final = true ∧ slash = true) := fun hc => hmake ⟨rfl, hc⟩
    obtain ⟨r, hr, hplace⟩ := meet_flat hentry.held hslash hlead
    obtain ⟨r', hr', hplace'⟩ := meet_flat hentry.held hslash (hway.trans hlead)
    rw [hr, hr']
    exact hplace'.trans hplace.symm
  | some n =>
    obtain ⟨hn, hleads⟩ := lead?_eq_some_iff.mp hlead
    have hn' := (lead?_eq_some_iff.mp (hway.trans hlead)).1
    rw [meet, meet, hn, hn']
    cases n with
    | directory => exact hon _
    | link target =>
      have hinspect : ¬ (Aim.create = .inspect ∧ final = true ∧ ¬ slash = true) :=
        fun hc => Aim.noConfusion hc.1
      dsimp only
      rw [if_neg hinspect]
      exact hlink target
    | _ => cases hleads

theorem walkUntilLink_place (hways : t.SameWays t')
    {enter enter' : Seat → List String → Bool → Except Fault Spot}
    (henter : ∀ here names slash,
      spotPlace? (enter' here names slash) = spotPlace? (enter here names slash))
    (names : List String) (here : Seat) (slash : Bool) :
    spotPlace? (t'.walkUntilLink .create enter' here names slash) =
      spotPlace? (t.walkUntilLink .create enter here names slash) := by
  induction names generalizing here with
  | nil => rfl
  | cons name rest ih =>
    rw [walkUntilLink_cons, walkUntilLink_cons]
    exact hways.step_place ih (fun _ => henter _ _ _) here name _ slash

/-! ### Walks through links -/

theorem walk_use (links : Nat) (here : Seat) (names : List String) (slash : Bool) {spot : Spot}
    (h : t.walk .create links here names slash = .ok spot) :
    t.walk .use links here names slash = .ok spot := by
  induction links generalizing here names slash spot with
  | zero => exact walkUntilLink_use (fun hnone => by cases hnone) names here slash h
  | succ links ih => exact walkUntilLink_use (fun hlink => ih _ _ _ hlink) names here slash h

theorem walk_free (links : Nat) (here : Seat) (names : List String) (slash : Bool) {p : Place}
    (h : t.walk aim links here names slash = .ok (.free p)) : t.get? p = none := by
  induction links generalizing here names slash p with
  | zero => exact walkUntilLink_free (fun hnone => by cases hnone) names here slash h
  | succ links ih => exact walkUntilLink_free (fun hlink => ih _ _ _ hlink) names here slash h

theorem walk_place (hways : t.SameWays t') (links : Nat) (here : Seat) (names : List String)
    (slash : Bool) :
    spotPlace? (t'.walk .create links here names slash) =
      spotPlace? (t.walk .create links here names slash) := by
  induction links generalizing here names slash with
  | zero => exact walkUntilLink_place hways (fun _ _ _ => rfl) names here slash
  | succ links ih => exact walkUntilLink_place hways ih names here slash

/-! ### Paths -/

variable {dir : Seat} {path : String}

/-- The directory that a path is walked from. -/
def pathStart (dir : Seat) (path : String) : Seat := if isAbsolute path then .root else dir

/-- Why a path cannot be walked at all, whatever it is wanted for. -/
def pathFault? (t : FileTree) (dir : Seat) (path : String) : Option Fault :=
  if '\x00' ∉ path.toList ∧ pathLimit ≤ path.utf8ByteSize then some .nameTooLong
  else if '\x00' ∈ path.toList then some .nulInPath
  else if path = "" then some .notFound
  else if t.isDirectoryAt (pathStart dir path) then none
  else some .notFound

theorem locate_eq (t : FileTree) (aim : Aim) (dir : Seat) (path : String) :
    t.locate aim dir path = match t.pathFault? dir path with
      | some f => .error f
      | none =>
        t.walk aim linkLimit (pathStart dir path) (pathNames path) (endsInSlash path) := by
  unfold locate follow pathFault?
  by_cases hlong : '\x00' ∉ path.toList ∧ pathLimit ≤ path.utf8ByteSize
  · rw [if_pos hlong, if_pos hlong]
  rw [if_neg hlong, if_neg hlong]
  by_cases hnul : '\x00' ∈ path.toList
  · rw [if_pos hnul, if_pos hnul]
  rw [if_neg hnul, if_neg hnul]
  by_cases hempty : path = ""
  · rw [if_pos hempty, if_pos hempty]
  rw [if_neg hempty, if_neg hempty]
  by_cases hstart : t.isDirectoryAt (pathStart dir path) = true
  · rw [if_pos hstart]
    exact if_pos hstart
  · rw [if_neg hstart]
    exact if_neg hstart

theorem locate_use {spot : Spot} (h : t.locate .create dir path = .ok spot) :
    t.locate .use dir path = .ok spot := by
  rw [locate_eq] at h ⊢
  split at h
  · cases h
  · exact walk_use _ _ _ _ h

theorem locate_free (h : t.locate aim dir path = .ok (.free p)) : t.get? p = none := by
  rw [locate_eq] at h
  split at h
  · cases h
  · exact walk_free _ _ _ _ h

/-- Where a path leads is decided by directories and links alone. -/
theorem SameWays.filePlace? (hways : t.SameWays t') (dir : Seat) (path : String) :
    t'.filePlace? dir path = t.filePlace? dir path := by
  have hfault : t'.pathFault? dir path = t.pathFault? dir path := by
    simp only [pathFault?, hways.isDirectoryAt]
  rw [FileTree.filePlace?, FileTree.filePlace?, locate_eq, locate_eq, hfault]
  split
  · rfl
  · exact walk_place hways _ _ _ _

/-- An absolute path is seen alike from everywhere. -/
theorem filePlace?_absolute (habs : isAbsolute path = true) (dir' : Seat) :
    t.filePlace? dir' path = t.filePlace? dir path := by
  have hstart : pathStart dir' path = pathStart dir path := by
    rw [pathStart, pathStart, if_pos habs, if_pos habs]
  rw [filePlace?, filePlace?, locate_eq, locate_eq, pathFault?, pathFault?, hstart]

theorem spotPlace?_eq_some {r : Except Fault Spot} (h : spotPlace? r = some p) :
    r = .ok (.taken (.ofPlace p)) ∨ r = .ok (.free p) := by
  match r with
  | .error _ => cases h
  | .ok (.free q) =>
    cases h
    exact .inr rfl
  | .ok (.taken ⟨q, 0⟩) =>
    cases h
    exact .inl rfl
  | .ok (.taken ⟨_, _ + 1⟩) => cases h

/-- What a path means is what is at its place. -/
theorem node?_of_place (hplace : t.filePlace? dir path = some p) :
    t.node? dir path = t.get? p := by
  rcases spotPlace?_eq_some hplace with hspot | hspot
  · rw [node?, find, locate_use hspot]
    rfl
  · rw [node?, find, locate_use hspot, locate_free hspot]
    rfl

/-! ### Reading a file -/

theorem read_of_node {mode : Nat} {content : Bytes}
    (hnode : t.node? dir path = some (.file mode content)) :
    t.read dir path =
      if mode &&& readBit = 0 then .error .permissionDenied else .ok content := by
  unfold node? at hnode
  unfold read
  cases hfind : t.find dir path with
  | error f =>
    rw [hfind] at hnode
    cases hnode
  | ok s =>
    rw [hfind] at hnode
    dsimp only at hnode ⊢
    rw [hnode]

theorem readText_of_read {text : String} (h : t.read dir path = .ok (Bytes.ofText text)) :
    t.readText dir path = .ok text := by
  rw [readText, h]
  dsimp only
  rw [Bytes.text?_ofText]

/-- The text of the file at a place, if there is a regular file that can be read and is text. -/
def textAt? (t : FileTree) (p : Place) : Option String :=
  match t.get? p with
  | some (.file mode content) => if mode &&& readBit = 0 then none else Bytes.text? content
  | _ => none

theorem exists_file_of_textAt? {text : String} (h : t.textAt? p = some text) :
    ∃ mode content, t.get? p = some (.file mode content) ∧ mode &&& readBit ≠ 0 := by
  unfold textAt? at h
  split at h
  · rename_i mode content hnode
    refine ⟨mode, content, hnode, fun hbit => ?_⟩
    rw [if_pos hbit] at h
    cases h
  · cases h

theorem isFile_of_place (hplace : t.filePlace? dir path = some p) :
    t.isFile dir path = true ↔ ∃ mode content, t.get? p = some (.file mode content) := by
  rw [isFile, node?_of_place hplace]
  cases t.get? p with
  | none => simp
  | some n => cases n <;> simp

theorem readText_of_place (hplace : t.filePlace? dir path = some p) {mode : Nat} {content : Bytes}
    (hnode : t.get? p = some (.file mode content)) :
    (t.readText dir path).toOption = t.textAt? p := by
  rw [readText, read_of_node ((node?_of_place hplace).trans hnode), textAt?, hnode]
  dsimp only
  by_cases hbit : mode &&& readBit = 0
  · rw [if_pos hbit, if_pos hbit]
    rfl
  · rw [if_neg hbit, if_neg hbit]
    dsimp only
    cases Bytes.text? content <;> rfl

/-! ### Writing a file -/

/-- Opening the file that a path means is opening what is at its place. -/
theorem openFile_of_place (hplace : t.filePlace? dir path = some p) (append : Bool) :
    t.openFile dir path append = t.openPlace p append := by
  rcases spotPlace?_eq_some hplace with hspot | hspot
  · rw [openFile, hspot]
    exact if_pos rfl
  · rw [openFile, hspot]

/-- Where a path leads to no place, nothing can be opened. -/
theorem openFile_of_no_place (hplace : t.filePlace? dir path = none) (append : Bool) :
    ∃ f, t.openFile dir path append = (.error f, t) := by
  unfold openFile
  unfold filePlace? at hplace
  match t.locate .create dir path, hplace with
  | .error f, _ => exact ⟨f, rfl⟩
  | .ok (.taken ⟨_, _ + 1⟩), _ => exact ⟨.isDirectory, rfl⟩

/-- What has been written has been written to the place of the path, and to no other. -/
theorem writeFile_ok_of_place {append : Bool} {bytes : Bytes}
    (hplace : t.filePlace? dir path = some p)
    (hwrite : t.writeFile dir path append bytes = (.ok (), t')) :
    t.SameBut p t' ∧ t'.get? p = some ((openedNode append (t.get? p)).grow bytes) := by
  obtain ⟨q, hopen, hsame, hnode⟩ := writeFile_ok hwrite
  rw [openFile_of_place hplace] at hopen
  rcases hopened : t.openPlace p append with ⟨f | f, t₁⟩ <;> rw [hopened] at hopen <;> cases hopen
  cases (openPlace_ok hopened).1
  exact ⟨hsame, hnode⟩

theorem writeFile_sameBut (append : Bool) (bytes : Bytes) {q : Place}
    (hq : t.filePlace? dir path ≠ some q) :
    (t.writeFile dir path append bytes).2.get? q = t.get? q := by
  cases hplace : t.filePlace? dir path with
  | none =>
    obtain ⟨f, hopen⟩ := openFile_of_no_place hplace append
    rw [writeFile, hopen]
  | some p =>
    rcases hwrite : t.writeFile dir path append bytes with ⟨f | ⟨⟩, t'⟩
    · rw [writeFile_error hwrite]
    · refine (writeFile_ok_of_place hplace hwrite).1 q ?_
      rintro rfl
      exact hq hplace

/-- What is at a place is a regular file that has a permission bit, or nothing is there and its
    directory lets a file be put there. -/
structure Allows (t : FileTree) (bit : Nat) (p : Place) : Prop where
  file (n : Node) : t.get? p = some n → ∃ mode content, n = .file mode content ∧ mode &&& bit ≠ 0
  room : t.get? p = none → t.forbids (.ofPlace p.dropLast) writeBit = false

/-- A file can be kept at a path: there is a place for it, and what is there is a regular file that
    can be read and written to, or nothing and a file can be put there. -/
def CanKeep (t : FileTree) (dir : Seat) (path : String) : Prop :=
  ∃ p, t.filePlace? dir path = some p ∧ t.Allows readBit p ∧ t.Allows writeBit p

/-- Some bytes are all that the file at a place holds now, and nothing else is different. -/
structure Rewritten (p : Place) (bytes : Bytes) (t t' : FileTree) : Prop where
  content : ∃ mode, t'.get? p = some (.file mode bytes)
  elsewhere : t.SameBut p t'
  ways : t.SameWays t'
  /-- A new file can be read and written to, and an old one what it could before. -/
  allows (bit : Nat) : newFileMode &&& bit ≠ 0 → t.Allows bit p → t'.Allows bit p

/-- A place allows the same where the directories and what is at the place are the same. -/
theorem Allows.congr {bit : Nat} (h : t.Allows bit p) (hways : t.SameWays t')
    (hsame : t'.get? p = t.get? p) : t'.Allows bit p where
  file n hn := h.file n (hsame ▸ hn)
  room hnone := (hways.forbids _ _).trans (h.room (hsame ▸ hnone))

theorem allows_of_none (hnode : t.get? p = none)
    (hroom : t.forbids (.ofPlace p.dropLast) writeBit = false) (bit : Nat) : t.Allows bit p where
  file n hn := by
    rw [hnode] at hn
    cases hn
  room _ := hroom

theorem allows_of_file {mode bit : Nat} {content : Bytes}
    (hnode : t.get? p = some (.file mode content)) (hbit : mode &&& bit ≠ 0) :
    t.Allows bit p where
  file n hn := by
    rw [hnode] at hn
    cases hn
    exact ⟨mode, content, rfl, hbit⟩
  room hnone := by
    rw [hnode] at hnone
    cases hnone

theorem lead?_of_file {mode : Nat} {content : Bytes} (h : t.get? p = some (.file mode content)) :
    t.lead? p = none := by
  rw [lead?, h]
  rfl

theorem lead?_of_none (h : t.get? p = none) : t.lead? p = none := by
  rw [lead?, h]
  rfl

theorem Allows.lead? {bit : Nat} (hallows : t.Allows bit p) : t.lead? p = none := by
  cases hn : t.get? p with
  | none => exact lead?_of_none hn
  | some n =>
    obtain ⟨mode, content, rfl, -⟩ := hallows.file n hn
    exact lead?_of_file hn

/-- Nothing leads on from a place that is not the root. -/
theorem ne_root_of_lead? (h : t.lead? p = none) : p ≠ [] := by
  rintro rfl
  rw [FileTree.lead?, t.get?_root] at h
  cases h

theorem SameBut.sameWays (hsame : t.SameBut p t') (hold : t.lead? p = none)
    (hnew : t'.lead? p = none) : t.SameWays t' := by
  intro q
  by_cases hq : q = p
  · rw [hq, hold, hnew]
  · rw [FileTree.lead?, FileTree.lead?, hsame q hq]

/-- What is opened is empty then, and has the permissions that it had, or those of a new file. -/
theorem openPlace_of_allows (hallows : t.Allows writeBit p) :
    ∃ mode, t.openPlace p false = (.ok ⟨p, false, 0⟩, t.put p (.file mode [])) ∧
      openedNode false (t.get? p) = .file mode [] ∧
      ∀ bit, newFileMode &&& bit ≠ 0 → t.Allows bit p → mode &&& bit ≠ 0 := by
  unfold openPlace
  cases hn : t.get? p with
  | none =>
    refine ⟨newFileMode, if_neg ?_, rfl, fun _ hnew _ => hnew⟩
    rw [hallows.room hn]
    exact nofun
  | some n =>
    obtain ⟨mode, content, rfl, hwrite⟩ := hallows.file n hn
    refine ⟨mode, if_neg hwrite, rfl, fun bit _ hbit => ?_⟩
    obtain ⟨_, _, heq, hset⟩ := hbit.file _ hn
    cases heq
    exact hset

/-- A file that can be written to ends with the bytes that are written. -/
theorem writeFile_rewritten (hplace : t.filePlace? dir path = some p)
    (hallows : t.Allows writeBit p) (bytes : Bytes) :
    ∃ t', t.writeFile dir path false bytes = (.ok (), t') ∧ Rewritten p bytes t t' := by
  have hroot : p ≠ [] := ne_root_of_lead? hallows.lead?
  obtain ⟨mode, hopen, hempty, hbits⟩ := openPlace_of_allows hallows
  rcases hwrite : t.writeFile dir path false bytes with ⟨f | ⟨⟩, t'⟩
  · -- only a full device refuses the bytes
    rw [writeFile, openFile_of_place hplace, hopen] at hwrite
    dsimp only at hwrite
    rcases hbytes : (t.put p (.file mode [])).write ⟨p, false, 0⟩ bytes with ⟨f' | f', t₁⟩
    · have hfull := (write_error hbytes).2
      rw [get?_put_self t _ hroot] at hfull
      cases hfull
    · rw [hbytes] at hwrite
      cases hwrite
  · obtain ⟨hsame, hnode⟩ := writeFile_ok_of_place hplace hwrite
    rw [hempty] at hnode
    exact ⟨t', rfl, ⟨mode, hnode⟩, hsame, hsame.sameWays hallows.lead? (lead?_of_file hnode),
      fun bit hnew hbit => allows_of_file hnode (hbits bit hnew hbit)⟩

/-- Where a file may not be written to nothing is written. -/
theorem writeFile_of_readOnly (hplace : t.filePlace? dir path = some p) {mode : Nat}
    {content : Bytes} (hnode : t.get? p = some (.file mode content))
    (hbit : mode &&& writeBit = 0) (append : Bool) (bytes : Bytes) :
    (t.writeFile dir path append bytes).2 = t := by
  have hopen : t.openPlace p append = (.error .permissionDenied, t) := by
    rw [openPlace, hnode]
    exact if_pos hbit
  rw [writeFile, openFile_of_place hplace, hopen]

/-- What has been written to a file that can be kept is there to be read, and the file can still be
    kept. -/
theorem writeFile_of_canKeep (hkeep : t.CanKeep dir path) (bytes : Bytes) :
    ∃ p t', t.filePlace? dir path = some p ∧
      t.writeFile dir path false bytes = (.ok (), t') ∧ Rewritten p bytes t t' ∧
      t'.CanKeep dir path ∧ t'.read dir path = .ok bytes := by
  obtain ⟨p, hplace, hread, hwrite⟩ := hkeep
  obtain ⟨t', hdone, hrewritten⟩ := writeFile_rewritten hplace hwrite bytes
  have hplace' : t'.filePlace? dir path = some p :=
    (hrewritten.ways.filePlace? dir path).trans hplace
  have hread' := hrewritten.allows readBit (by decide) hread
  refine ⟨p, t', hplace, hdone, hrewritten, ⟨p, hplace', hread', ?_⟩, ?_⟩
  · exact hrewritten.allows writeBit (by decide) hwrite
  · obtain ⟨mode, hnode⟩ := hrewritten.content
    obtain ⟨_, _, heq, hbit⟩ := hread'.file _ hnode
    cases heq
    rw [read_of_node ((node?_of_place hplace').trans hnode), if_neg hbit]

/-- Where something can be written, a file can be kept, unless what is there is no file that can be
    read. -/
theorem canKeep_of_writeFile {append : Bool} {bytes : Bytes}
    (hwrite : (t.writeFile dir path append bytes).1 = .ok ()) :
    t.CanKeep dir path ∨ ∃ n, t.node? dir path = some n ∧
      ∀ mode content, n = .file mode content → mode &&& readBit = 0 := by
  rcases hdone : t.writeFile dir path append bytes with ⟨r, t'⟩
  rw [hdone] at hwrite
  cases hwrite
  cases hplace : t.filePlace? dir path with
  | none =>
    obtain ⟨f, hopen⟩ := openFile_of_no_place hplace append
    rw [writeFile, hopen] at hdone
    cases hdone
  | some p =>
    rw [node?_of_place hplace]
    obtain ⟨_, hopen, -⟩ := writeFile_ok hdone
    rw [openFile_of_place hplace] at hopen
    cases hnode : t.get? p with
    | none =>
      have hroom : t.forbids (.ofPlace p.dropLast) writeBit = false := by
        refine Bool.eq_false_iff.mpr fun hfull => ?_
        simp [openPlace, hnode, hfull] at hopen
      exact .inl ⟨p, hplace, allows_of_none hnode hroom _, allows_of_none hnode hroom _⟩
    | some n =>
      cases n with
      | file mode content =>
        by_cases hread : mode &&& readBit = 0
        · right
          refine ⟨_, rfl, fun mode' content' heq => ?_⟩
          cases heq
          exact hread
        · have hbit : mode &&& writeBit ≠ 0 := by
            intro hbit
            simp [openPlace, hnode, hbit] at hopen
          exact .inl ⟨p, hplace, allows_of_file hnode hread, allows_of_file hnode hbit⟩
      | _ => exact .inr ⟨_, rfl, nofun⟩

end FileTree

end LineShell
