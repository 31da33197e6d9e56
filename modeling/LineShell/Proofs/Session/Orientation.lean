import LineShell.Proofs.Pipeline.Alone
import LineShell.Proofs.Session.Reporting
import LineShell.Proofs.Session.Ways
import Mathlib.Logic.ExistsUnique
/-!
    The current directory and the directory that the process is in.

    The one is a text and the other a place, and they are moved one after the other. As long as
    nobody removes a directory or a link on the way, the text leads to the place after every line
    (`Oriented.perform`), so a relative path means the same for the shell, which puts it after the
    text, and for the process and its programs, which start from the place (`Oriented.steady`).
    Permission bits on the way may change: where they do not let the text be followed, the shell and
    its programs are denied what they want, and get nothing else instead. A `cd` moves both or
    neither (`Oriented.existsUnique_move`). -/

namespace LineShell

namespace Session

/-- The path of the current directory leads to the directory that the process is in, whether or not
    the directories on the way may be searched at the moment. -/
structure Oriented (s : Session) : Prop where
  denotes : s.machine.tree.unlocked.findDirectory s.machine.workDir s.env.directory =
    .ok s.machine.workDir
  /-- That directory hangs on the root, unless it has been removed. -/
  rooted : s.machine.workDir.lost = 0 → s.machine.tree.Rooted s.machine.workDir.place

/-- A place that matters for the current directory: one that is met on its path, or one above it. -/
def OnWay (s : Session) (p : Place) : Prop :=
  p ∈ s.machine.tree.way s.machine.workDir s.env.directory ∨
    s.machine.workDir.lost = 0 ∧ p <+: s.machine.workDir.place

variable {load : Loader} {s t : Session}

theorem Oriented.isDirectory (h : s.Oriented) :
    s.machine.tree.isDirectoryAt s.machine.workDir = true :=
  (FileTree.findDirectory_unlocked_iff.mp h.denotes).2.2

/-- For an absolute path it is enough that it leads to the process's directory. -/
theorem oriented_of_absolute (habs : isAbsolute s.env.directory = true)
    (h : s.machine.tree.findDirectory s.machine.workDir s.env.directory =
      .ok s.machine.workDir) : s.Oriented where
  denotes := FileTree.findDirectory_unlocked h
  rooted _ := by
    obtain ⟨-, hwalk, hdir⟩ := FileTree.findDirectory_eq_ok_iff.mp h
    refine (FileTree.rooted_of_walk (fun hrel => ?_) hwalk hdir).2
    rw [habs] at hrel
    cases hrel

/-- The directory that the process is in stays what it is as long as the way does. -/
theorem Oriented.kept (h : s.Oriented) (hdir : t.env.directory = s.env.directory)
    (hseat : t.machine.workDir = s.machine.workDir)
    (hway : ∀ p, s.OnWay p → s.machine.tree.Stays t.machine.tree p) : t.Oriented := by
  have hthere : t.machine.tree.isDirectoryAt s.machine.workDir = true := by
    refine FileTree.isDirectoryAt_iff.mpr (Decidable.or_iff_not_imp_left.mpr fun hlost => ?_)
    have hplace := (FileTree.isDirectoryAt_iff.mp h.isDirectory).resolve_left hlost
    rw [Decidable.not_not] at hlost
    exact (hway _ (.inr ⟨hlost, List.prefix_refl _⟩)).directory hplace
  constructor
  case denotes =>
    rw [hdir, hseat]
    exact FileTree.findDirectory_stays (fun p hp => hway p (.inl hp)) hthere h.denotes
  case rooted =>
    intro hlost
    rw [hseat] at hlost ⊢
    exact (h.rooted hlost).stays fun q hq => hway q (.inr ⟨hlost, hq⟩)

theorem Oriented.sameWays (h : s.Oriented) (hdir : t.env.directory = s.env.directory)
    (hseat : t.machine.workDir = s.machine.workDir) (hways : s.machine.SameWays t.machine) :
    t.Oriented := h.kept hdir hseat fun p _ => FileTree.SameWays.stays hways p

theorem Oriented.opened (h : s.Oriented) (c : Command) :
    Oriented { s with machine := (openChannels s.env s.machine c).2 } :=
  h.sameWays rfl (Machine.Undisturbed.openChannels s.env s.machine c).workDir
    (.openChannels s.env s.machine c)

theorem Oriented.startedBefore (h : s.Oriented) (load : Loader) (cs : List Command) :
    (startedBefore load cs s).Oriented := by
  have hstarted := startedBefore_undisturbed load cs s
  exact h.sameWays (by rw [hstarted.env]) hstarted.machine.workDir (.startedBefore load cs s)

/-! ### Moving -/

/-- A path that `cd` is given leads to a directory that it can go to: the directory is there, it may
    be searched under the name of its own place, and the place that a relative path starts from can
    be named as well. -/
structure Leads (s : Session) (path : String) (seat : Seat) : Prop where
  there : s.machine.tree.findDirectory s.machine.workDir (s.env.fromHere path) = .ok seat
  named : s.machine.tree.enterDirectory s.machine.workDir (FileTree.placeText seat.place) =
    .ok seat
  held : s.machine.workDir.lost = 0 ∨ isAbsolute (s.env.fromHere path) = true

/-- The session in a directory. -/
def seated (s : Session) (seat : Seat) : Session :=
  { s with
    env := { s.env with directory := FileTree.placeText seat.place }
    machine := { s.machine with workDir := seat } }

theorem moveTo_of_leads {path : String} {seat : Seat} (h : s.Leads path seat) :
    s.env.moveTo s.machine path = .ok ((s.seated seat).env, (s.seated seat).machine) := by
  obtain ⟨hfault, hwalk, hdir⟩ := FileTree.findDirectory_eq_ok_iff.mp h.there
  obtain ⟨hnul, -, hsome, hstart⟩ := FileTree.pathFault?_eq_none_iff.mp hfault
  obtain ⟨-, hshort, -, -⟩ := FileTree.pathFault?_eq_none_iff.mp
    (FileTree.findDirectory_eq_ok_iff.mp (FileTree.enterDirectory_eq_ok_iff.mp h.named).1).1
  have hresolve : s.machine.tree.resolveDirectory s.machine.workDir (s.env.fromHere path) =
      .ok seat := FileTree.resolveDirectory_eq_ok_iff.mpr
    ⟨h.held, FileTree.follow_eq_ok_iff.mpr ⟨hnul, hsome, hstart, hwalk⟩, hdir, hshort⟩
  rw [Environment.moveTo, hresolve]
  dsimp only
  rw [Machine.enter, h.named]
  rfl

/-- What a relative path starts from is rooted. -/
theorem Oriented.rooted_of_held (hs : s.Oriented) {path : String}
    (hheld : s.machine.workDir.lost = 0 ∨ isAbsolute path = true) (hrel : isAbsolute path = false) :
    s.machine.workDir.lost = 0 ∧ s.machine.tree.Rooted s.machine.workDir.place := by
  rcases hheld with hlost | habs
  · exact ⟨hlost, hs.rooted hlost⟩
  · rw [hrel] at habs
    cases habs

/-- What moves, moves to the one directory that the path leads to. -/
theorem Oriented.leads_of_moveTo (hs : s.Oriented) {path : String} {e : Environment} {m : Machine}
    (hdir : s.machine.tree.isDirectory s.machine.workDir (s.env.fromHere path) = true)
    (hmove : s.env.moveTo s.machine path = .ok (e, m)) : ∃ seat, s.Leads path seat := by
  obtain ⟨seat, hthere⟩ := FileTree.isDirectory_iff.mp hdir
  unfold Environment.moveTo Machine.enter at hmove
  split at hmove
  · cases hmove
  rename_i seat' hresolve
  split at hmove
  · cases hmove
  rename_i hentered
  split at hentered
  · rename_i seat'' hnamed
    obtain ⟨hheld, hfollow, hdir', -⟩ := FileTree.resolveDirectory_eq_ok_iff.mp hresolve
    obtain ⟨-, -, -, hwalk⟩ := FileTree.follow_eq_ok_iff.mp hfollow
    -- the two ways of finding it agree
    have hsame : seat' = seat := by
      obtain ⟨-, hwalk', -⟩ := FileTree.findDirectory_eq_ok_iff.mp hthere
      cases hwalk.symm.trans hwalk'
      rfl
    subst hsame
    obtain ⟨hlost, hrooted⟩ := FileTree.rooted_of_walk (hs.rooted_of_held hheld) hwalk hdir'
    have hplace : seat'' = .ofPlace seat'.place :=
      hrooted.eq_of_findDirectory (FileTree.enterDirectory_eq_ok_iff.mp hnamed).1
    have hseat : Seat.ofPlace seat'.place = seat' := by rw [Seat.ofPlace, ← hlost]
    rw [hplace, hseat] at hnamed
    exact ⟨seat', hthere, hnamed, hheld⟩
  · cases hentered

/-- Where a `cd` goes to is rooted, so the text of its place is its own path. -/
theorem Oriented.rooted_of_leads (hs : s.Oriented) {path : String} {seat : Seat}
    (h : s.Leads path seat) : seat.lost = 0 ∧ s.machine.tree.Rooted seat.place := by
  obtain ⟨-, hwalk, hdir⟩ := FileTree.findDirectory_eq_ok_iff.mp h.there
  exact FileTree.rooted_of_walk (hs.rooted_of_held h.held) hwalk hdir

theorem Oriented.seated (hs : s.Oriented) {path : String} {seat : Seat} (h : s.Leads path seat) :
    (s.seated seat).Oriented where
  denotes := by
    have habs := isAbsolute_placeText seat.place
    refine FileTree.findDirectory_unlocked ?_
    exact (FileTree.findDirectory_absolute habs seat).trans
      (FileTree.enterDirectory_eq_ok_iff.mp h.named).1
  rooted _ := (hs.rooted_of_leads h).2

/-- What a `cd` comes to. -/
inductive Move where
  /-- There is no home to go to. -/
  | homeless
  | moved (seat : Seat)
  | refused

/-- What is to be told of a `cd` and what has come of it. -/
def Move.Told (args : List String) (s : Session) (r : Outcome × Session) : Move → Prop
  | homeless => (spaced args = "" ∨ spaced args = "~") ∧
      (s.env.get? "HOME" = none ∨ s.env.get? "HOME" = some "") ∧ r = (.silent, s)
  | moved seat => ∃ path, cdDestination? s.env (spaced args) = some path ∧ s.Leads path seat ∧
      s.machine.tree.Rooted seat.place ∧ r = (.silent, s.seated seat)
  | refused => ∃ path, cdDestination? s.env (spaced args) = some path ∧
      (∀ seat, ¬ s.Leads path seat) ∧
      r = (⟨0, none, some ("cd: " ++ spaced args ++ ": No such file or directory\n")⟩, s)

theorem cdDestination?_eq_none_iff {e : Environment} {target : String} :
    cdDestination? e target = none ↔ (target = "" ∨ target = "~") ∧
      (e.get? "HOME" = none ∨ e.get? "HOME" = some "") := by
  unfold cdDestination? Environment.homeDirectory? Environment.getNonempty?
  split
  · rename_i htarget
    rw [and_iff_right htarget, Option.filter_eq_none_iff]
    cases e.get? "HOME" <;> simp
  · rename_i htarget
    exact ⟨nofun, fun h => absurd h.1 htarget⟩

theorem Move.told_unique {args : List String} {r : Outcome × Session} {w w' : Move}
    (h : w.Told args s r) (h' : w'.Told args s r) : w = w' := by
  match w, w', h, h' with
  | .homeless, .homeless, _, _ => rfl
  | .refused, .refused, _, _ => rfl
  | .moved seat, .moved seat', ⟨path, hpath, hleads, _⟩, ⟨path', hpath', hleads', _⟩ =>
    cases hpath.symm.trans hpath'
    cases hleads.there.symm.trans hleads'.there
    rfl
  | .moved seat, .refused, ⟨path, hpath, hleads, _⟩, ⟨path', hpath', hno, _⟩
  | .refused, .moved seat, ⟨path', hpath', hno, _⟩, ⟨path, hpath, hleads, _⟩ =>
    cases hpath.symm.trans hpath'
    exact absurd hleads (hno seat)
  | .homeless, .moved _, ⟨htarget, hhome, _⟩, ⟨_, hpath, _⟩
  | .homeless, .refused, ⟨htarget, hhome, _⟩, ⟨_, hpath, _⟩
  | .moved _, .homeless, ⟨_, hpath, _⟩, ⟨htarget, hhome, _⟩
  | .refused, .homeless, ⟨_, hpath, _⟩, ⟨htarget, hhome, _⟩ =>
    rw [cdDestination?_eq_none_iff.mpr ⟨htarget, hhome⟩] at hpath
    cases hpath

/-- A `cd` that is carried out comes to exactly one of these, and the session is oriented still. -/
theorem Oriented.existsUnique_move (hs : s.Oriented) (args : List String) :
    (∃! w, Move.Told args s (changeDirectory args s) w) ∧ (changeDirectory args s).2.Oriented := by
  suffices h : ∃ w, Move.Told args s (changeDirectory args s) w ∧
      (changeDirectory args s).2.Oriented by
    obtain ⟨w, htold, hafter⟩ := h
    exact ⟨⟨w, htold, fun w' htold' => Move.told_unique htold' htold⟩, hafter⟩
  cases hpath : cdDestination? s.env (spaced args) with
  | none =>
    have hresult : changeDirectory args s = (.silent, s) := by rw [changeDirectory, hpath]
    obtain ⟨htarget, hhome⟩ := cdDestination?_eq_none_iff.mp hpath
    rw [hresult]
    exact ⟨.homeless, ⟨htarget, hhome, rfl⟩, hs⟩
  | some path =>
    by_cases hleads : ∃ seat, s.Leads path seat
    · obtain ⟨seat, hleads⟩ := hleads
      have hresult : changeDirectory args s = (.silent, s.seated seat) := by
        rw [changeDirectory, hpath]
        dsimp only
        rw [if_pos (FileTree.isDirectory_iff.mpr ⟨seat, hleads.there⟩), moveTo_of_leads hleads]
        rfl
      rw [hresult]
      exact ⟨.moved seat, ⟨path, hpath, hleads, (hs.rooted_of_leads hleads).2, rfl⟩,
        hs.seated hleads⟩
    · have hresult : changeDirectory args s =
          (⟨0, none, some ("cd: " ++ spaced args ++ ": No such file or directory\n")⟩, s) := by
        rw [changeDirectory, hpath]
        dsimp only
        split
        · rename_i hdir
          split
          · rename_i hmove
            exact absurd (hs.leads_of_moveTo hdir hmove) hleads
          · rfl
        · rfl
      rw [hresult]
      exact ⟨.refused, ⟨path, hpath, fun seat h => hleads ⟨seat, h⟩, rfl⟩, hs⟩

/-! ### Lines -/

/-- The programs of a line leave the directories and links on the way of a session alone. -/
def SparesWay (load : Loader) (line : String) (s : Session) : Prop :=
  ∀ u ∈ lineTurns load line s, ∀ p, s.OnWay p → u.Spares p

theorem SparesWay.stays {line : String} (h : s.SparesWay load line) (p : Place)
    (hp : s.OnWay p) : s.machine.tree.Stays (s.perform load line).2.machine.tree p :=
  perform_stays fun u hu => h u hu p hp

theorem Oriented.performStages_cd (hs : s.Oriented) {c : Command} (hc : c.Calls .cd) :
    (performStages load [c] c s).2.Oriented := by
  have hopened := hs.opened c
  unfold performStages
  rcases hopen : openChannels s.env s.machine c with ⟨e | files, m⟩ <;> rw [hopen] at hopened
  · exact hopened
  · have hmoved := (hopened.existsUnique_move c.args).2
    have hrun : runStages load [c] files { s with machine := m } =
        changeDirectory c.args { s with machine := m } := runAlone_calls hc load files _
    dsimp only
    rw [hrun]
    have hkept := deliver_kept (changeDirectory c.args { s with machine := m }).2 files
      (changeDirectory c.args { s with machine := m }).1
    exact hmoved.sameWays (by rw [hkept.env]) hkept.workDir (.sessionDeliver _ files _)

/-- A line keeps the current directory and the process in one place. -/
theorem Oriented.perform (hs : s.Oriented) {line : String} (hspares : s.SparesWay load line) :
    (s.perform load line).2.Oriented := by
  have hframe := perform_lineFrame load line s
  have hkept (hplace : (s.perform load line).2.env.directory = s.env.directory ∧
      (s.perform load line).2.machine.workDir = s.machine.workDir) :
      (s.perform load line).2.Oriented := hs.kept hplace.1 hplace.2 hspares.stays
  cases hparse : parseLine line with
  | error e =>
    have hnone := hframe.unread e hparse
    exact hkept ⟨by rw [hnone.env], hnone.workDir⟩
  | ok cs =>
    match cs, hparse with
    | [], hparse =>
      have hnone := hframe.piped [] hparse nofun
      exact hkept ⟨by rw [hnone.env], hnone.workDir⟩
    | c :: c' :: rest, hparse =>
      have hnone := hframe.piped (c :: c' :: rest) hparse nofun
      exact hkept ⟨by rw [hnone.env], hnone.workDir⟩
    | [c], hparse =>
      rcases (hframe.alone c hparse).place with hplace | hcd
      · exact hkept hplace
      · have hline : s.perform load line = performStages load [c] c s :=
          perform_of_parsed (List.nil_append [c] ▸ hparse) load s
        rw [hline]
        exact hs.performStages_cd hcd

/-- A session since `s` of any lines, the programs of which leave the way alone. In between, files
    and streams may change, but not the way. -/
inductive Guided (load : Loader) (s : Session) : Session → Prop where
  | start : Guided load s s
  | perform {t : Session} (line : String) :
    Guided load s t → t.SparesWay load line → Guided load s (t.perform load line).2
  | submit {t : Session} (line : String) :
    Guided load s t → (t.record line).SparesWay load line → Guided load s (t.submit load line).2
  | elsewhere {t : Session} (m : Machine) :
    Guided load s t → m.workDir = t.machine.workDir →
      (∀ p, t.OnWay p → t.machine.tree.Stays m.tree p) → Guided load s { t with machine := m }

theorem Oriented.record (hs : s.Oriented) (line : String) : (s.record line).Oriented := by
  rw [record_eq]
  exact ⟨hs.denotes, hs.rooted⟩

theorem Guided.oriented (h : Guided load s t) (hs : s.Oriented) : t.Oriented := by
  induction h with
  | start => exact hs
  | perform line _ hspares ih => exact ih.perform hspares
  | submit line _ hspares ih => exact (ih.record line).perform hspares
  | elsewhere m _ hseat hway ih => exact ih.kept rfl hseat hway

/-- Saving the history is no more than a change of files. -/
theorem Guided.keepHistory (h : Guided load s t) : Guided load s t.keepHistory := by
  have hkept : t.keepHistory = { t with machine := t.keepHistory.machine } := by
    unfold Session.keepHistory
    split <;> rfl
  have hseat : t.keepHistory.machine.workDir = t.machine.workDir := by
    unfold Session.keepHistory
    split
    · rfl
    · exact t.history.store_workDir t.machine _
  rw [hkept]
  exact h.elsewhere _ hseat fun p _ =>
    FileTree.SameWays.stays (Machine.SameWays.keepHistory t) p

/-! ### One place -/

/-- The shell, its process and the programs that it starts are in one directory, and a `cd` takes
    all of them along or none. -/
structure Steady (load : Loader) (s : Session) : Prop where
  oriented : s.Oriented
  /-- A relative path means the same after the current directory, where a redirection looks for it,
      and for the process, which follows the elements of the search path and the path of the history
      file. At most it is too long there, has too many links, or is denied, as the path of the
      current directory itself is then. -/
  paths (aim : Aim) (path : String) : isAbsolute path = false → path ≠ "" →
    let joined := s.machine.tree.locate aim s.machine.workDir (s.env.fromHere path)
    joined = s.machine.tree.locate aim s.machine.workDir path ∨
      joined = .error .nameTooLong ∨ joined = .error .linkLoop ∨
      joined = .error .permissionDenied ∧
        s.machine.tree.findDirectory s.machine.workDir s.env.directory =
          .error .permissionDenied
  /-- A file that is opened for a relative target is the one that the process means by it. -/
  targets (target : Target) (f : OpenFile) : isAbsolute target.path = false → target.path ≠ "" →
    (openChannel s.env s.machine (some target)).1 = .ok (some f) →
      s.machine.tree.filePlace? s.machine.workDir target.path = some f.place
  /-- Programs are started in the process's directory, or not at all if its permission bits, or
      those on the way to it, keep them out. -/
  children (c : Command) (path : String) : (launchOf s.env c path).holdsNul = false →
    let started := (launchOf s.env c path).load load s.machine
    started = load (launchOf s.env c path) s.machine.workDir s.machine.tree ∨
      started = .error .permissionDenied ∧
        s.machine.tree.enterDirectory s.machine.workDir s.env.directory =
          .error .permissionDenied
  moves (c : Command) (files : Redirects) : c.Calls .cd →
    (∃! w, Move.Told c.args s (runAlone load c files s) w) ∧
      (runAlone load c files s).2.Oriented

theorem Oriented.targets (hs : s.Oriented) {target : Target} {f : OpenFile}
    (hrel : isAbsolute target.path = false) (hsome : target.path ≠ "")
    (hopen : (openChannel s.env s.machine (some target)).1 = .ok (some f)) :
    s.machine.tree.filePlace? s.machine.workDir target.path = some f.place := by
  have hfile : (s.machine.tree.openFile s.machine.workDir (s.env.fromHere target.path)
      target.append).1 = .ok f := by
    unfold openChannel Machine.openFile at hopen
    dsimp only at hopen
    split at hopen <;> rename_i hopened <;> cases hopen
    exact (Prod.ext_iff.mp hopened).1
  exact FileTree.filePlace?_joinPath hs.denotes hrel hsome (FileTree.filePlace?_of_openFile hfile)

theorem Oriented.steady (hs : s.Oriented) (load : Loader) : s.Steady load where
  oriented := hs
  paths aim path hrel hsome := FileTree.locate_joinPath hs.denotes hrel hsome aim
  targets target f hrel hsome hopen := hs.targets hrel hsome hopen
  children c path hnul := by
    have hdir : (launchOf s.env c path).dir = s.env.directory := rfl
    intro started
    dsimp only [started]
    rw [Launch.load, hnul, if_neg Bool.false_ne_true, hdir]
    rcases FileTree.enterDirectory_of_unlocked hs.denotes with hentered | hdenied
    · rw [hentered]
      exact .inl rfl
    · rw [hdenied]
      exact .inr ⟨rfl, rfl⟩
  moves c files hc := by
    rw [runAlone_calls hc]
    exact hs.existsUnique_move c.args

/-- The current directory and the process's directory do not drift apart, in any session of any
    lines in which nobody removes the way to them: neither between the lines, nor when the targets
    of a line are open and its first stages have been started. -/
theorem session_steady (hs : s.Oriented) (h : Guided load s t) :
    t.Steady load ∧ ∀ last cs, Steady load (startedBefore load cs
      { t with machine := (openChannels t.env t.machine last).2 }) := by
  have ht := h.oriented hs
  exact ⟨ht.steady load, fun last cs => ((ht.opened last).startedBefore load cs).steady load⟩

/-- Programs that make a file, if nothing is in its place. -/
def makingLoader : Loader := fun _ _ _ => .ok fun _ tree =>
  { writes := []
    taken := 0
    tree := match tree.get? ["made"] with
      | none => tree.put ["made"] (.file newFileMode [])
      | some _ => tree
    status := .exited 0 }

/-- A machine with a link to the directory that the process is in, a directory there and a program
    in that. -/
def linkedMachine : Machine where
  tree := ⟨[(["l"], .link "a"), (["a"], .directory usualMode),
    (["a", "b"], .directory usualMode), (["a", "b", "p"], .file 0o755 [])]⟩
  workDir := .ofPlace ["a"]
  input := []
  inputRead := 0
  output := []
  diagnostics := []

/-- A session that knows its directory by the link. -/
def linkedSession : Session := start ⟨[], "/l", false⟩ linkedMachine

/-- The session after it has run the program and moved. -/
def movedOn : Session :=
  ((linkedSession.perform makingLoader "b/p").2.submit makingLoader "cd b").2

theorem linkedSession_oriented : linkedSession.Oriented := by
  have hfound : (linkedMachine.tree.findDirectory (.ofPlace ["a"]) "/l").toOption =
      some (.ofPlace ["a"]) := by decide +kernel
  refine oriented_of_absolute (by decide +kernel) ?_
  change linkedMachine.tree.findDirectory (.ofPlace ["a"]) "/l" = .ok (.ofPlace ["a"])
  cases hdir : linkedMachine.tree.findDirectory (.ofPlace ["a"]) "/l" <;> rw [hdir] at hfound <;>
    cases hfound
  rfl

theorem makingLoader_spares (line : String) (s : Session) : s.SparesWay makingLoader line := by
  refine fun u hu p _ => spares_of_loader (fun l dir tree b hb streams tree => ?_) hu p
  cases hb
  dsimp only
  split
  · rename_i hnone
    exact FileTree.SameWays.put (FileTree.lead?_of_none hnone) newFileMode []
  · exact .refl tree

/-- After a program has made a file and the session has moved down from behind a link, both are in
    the same directory. -/
theorem session_steady_linked :
    linkedSession.Oriented ∧ linkedSession.Guided makingLoader movedOn ∧
      movedOn.env.directory = "/a/b" ∧ movedOn.machine.workDir = .ofPlace ["a", "b"] ∧
      movedOn.machine.tree.get? ["made"] = some (.file newFileMode []) ∧
      movedOn.Steady makingLoader := by
  have hguided : linkedSession.Guided makingLoader movedOn :=
    (Guided.start.perform "b/p" (makingLoader_spares _ _)).submit "cd b" (makingLoader_spares _ _)
  refine ⟨linkedSession_oriented, hguided, by decide +kernel, by decide +kernel,
    by decide +kernel, ?_⟩
  exact (session_steady linkedSession_oriented hguided).1

end Session

end LineShell
