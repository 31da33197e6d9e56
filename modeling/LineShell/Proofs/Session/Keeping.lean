import LineShell.Proofs.History.FileForm
import LineShell.Proofs.Session.Reporting
/-!
    Where a session finds its history, and where it leaves it.

    The path of the history file is followed twice, when the session starts and when it saves its
    history, and each time from the directory that the process is in then. Nothing but the place
    that the path leads to at the end is written (`keepHistory_get?`), and what is written there
    are the entries that were found at the start and, after them, the lines of the session
    (`history_place`). A relative path leads elsewhere once the session has moved. -/

namespace LineShell

/-! ### What is recorded -/

/-- Whether the line is a command on its own that reads a file into the history. -/
def readsHistory (line : String) : Bool :=
  match parseLine line with
  | .ok [c] => match Builtin.ofName? c.name, HistoryRequest.ofArgs? c.args with
    | some .history, some (.read _) => true
    | _, _ => false
  | _ => false

theorem readsHistory_of_asks {line : String} {c : Command} {file : String}
    (hparse : parseLine line = .ok [c]) (hasks : c.Asks (.read file)) :
    readsHistory line = true := by
  have hcall : Builtin.ofName? c.name = some .history := hasks.1
  simp [readsHistory, hparse, hcall, hasks.2]

theorem LineFrame.entries_eq {line : String} {s t : Session} (h : LineFrame line s t)
    (hread : readsHistory line = false) : t.history.entries = s.history.entries := by
  cases hparse : parseLine line with
  | error e => rw [(h.unread e hparse).history]
  | ok cs =>
    match cs, hparse with
    | [], hparse => rw [(h.piped [] hparse nofun).history]
    | c :: c' :: rest, hparse => rw [(h.piped (c :: c' :: rest) hparse nofun).history]
    | [c], hparse =>
      -- only a command on its own can have read a file
      rcases (h.alone c hparse).entries with heq | ⟨file, _, hasks, -, -⟩
      · exact heq
      · rw [readsHistory_of_asks hparse hasks] at hread
        cases hread

namespace Session

variable {load : Loader} {s t : Session} {submitted : List String} {p : Place}

/-- If no line reads a file into the history, the lines that are not blank are all that it gains. -/
theorem Sitting.entries_eq (h : Sitting load s submitted t)
    (hread : ∀ line ∈ submitted, readsHistory line = false) :
    t.history.entries = s.history.entries ++ submitted.filter (!isBlankText ·) := by
  induction h with
  | start => rw [List.filter_nil, List.append_nil]
  | @submit submitted t line h ih =>
    have hline : (t.submit load line).2.history.entries = (t.record line).history.entries :=
      (submit_lineFrame load line t).entries_eq (hread line (by simp))
    have hbefore := ih fun l hl => hread l (List.mem_append_left _ hl)
    rw [hline, record_eq, List.filter_append, ← List.append_assoc, ← hbefore]
  | elsewhere m h ih => exact ih hread

/-! ### The place of the history -/

/-- Where the path of the history file leads to, from the directory that the process is in. -/
def historyPlace? (s : Session) : Option Place :=
  s.env.historyFile?.bind fun path => s.machine.tree.filePlace? s.machine.workDir path

theorem historyPlace?_eq_some (h : s.historyPlace? = some p) :
    ∃ path, s.env.historyFile? = some path ∧
      s.machine.tree.filePlace? s.machine.workDir path = some p :=
  Option.bind_eq_some_iff.mp h

theorem Sitting.historyFile? (h : Sitting load s submitted t) :
    t.env.historyFile? = s.env.historyFile? := by
  have hvars := h.course.sessionFrame.vars
  unfold Environment.historyFile? Environment.getNonempty? Environment.get?
  rw [hvars]

/-- The path leads to the same place as long as directories and links are the same, and the session
    has not moved unless the path is absolute. -/
theorem Sitting.historyPlace? (h : Sitting load s submitted t)
    (hways : s.machine.tree.SameWays t.machine.tree)
    (hdir : t.machine.workDir = s.machine.workDir ∨
      ∀ path, s.env.historyFile? = some path → isAbsolute path = true) :
    t.historyPlace? = s.historyPlace? := by
  rw [Session.historyPlace?, Session.historyPlace?, h.historyFile?]
  cases hfile : s.env.historyFile? with
  | none => rw [Option.bind_none, Option.bind_none]
  | some path =>
    rw [Option.bind_some, Option.bind_some, hways.filePlace?]
    rcases hdir with hdir | habs
    · rw [hdir]
    · exact FileTree.filePlace?_absolute (habs path hfile) _

end Session

/-! ### What is found -/

/-- The entries that a history file would give, if there is one at a place. -/
def FileTree.entriesAt (t : FileTree) (p : Place) : List String :=
  match t.textAt? p with
  | some text => lines text
  | none => []

namespace Session

variable {load : Loader} {s t : Session} {submitted : List String} {p : Place}

theorem recalledHistory_eq {e : Environment} {m : Machine} {path : String}
    (hfile : e.historyFile? = some path)
    (hplace : m.tree.filePlace? m.workDir path = some p) :
    recalledHistory e m = ⟨m.tree.entriesAt p, 0⟩ := by
  rw [recalledHistory, hfile]
  dsimp only
  by_cases hregular : m.tree.isFile m.workDir path = true
  · obtain ⟨mode, content, hnode⟩ := (FileTree.isFile_of_place hplace).mp hregular
    have hread := FileTree.readText_of_place hplace hnode
    rw [if_pos hregular, FileTree.entriesAt, ← hread, History.load]
    cases m.tree.readText m.workDir path <;> rfl
  · have hnone : m.tree.textAt? p = none := by
      unfold FileTree.textAt?
      split
      · rename_i mode content hnode
        exact absurd ((FileTree.isFile_of_place hplace).mpr ⟨mode, content, hnode⟩) hregular
      · rfl
    rw [if_neg hregular, FileTree.entriesAt, hnone]
    rfl

/-- A session starts with the entries that are at the place that the path leads to. -/
theorem start_history {e : Environment} {m : Machine} (h : (start e m).historyPlace? = some p) :
    (start e m).history = ⟨m.tree.entriesAt p, 0⟩ := by
  obtain ⟨path, hfile, hplace⟩ := historyPlace?_eq_some h
  exact recalledHistory_eq hfile hplace

/-! ### What is left -/

theorem keepHistory_tree {path : String} (hfile : s.env.historyFile? = some path) :
    s.keepHistory.machine.tree = (s.machine.tree.writeFile s.machine.workDir path false
      (Bytes.ofText (unlines s.history.entries))).2 := by
  unfold keepHistory
  rw [hfile]
  exact History.store_tree s.history s.machine path

/-- Saving writes to the place that the path leads to, and to no other. -/
theorem keepHistory_get? {q : Place} (hq : s.historyPlace? ≠ some q) :
    s.keepHistory.machine.tree.get? q = s.machine.tree.get? q := by
  cases hfile : s.env.historyFile? with
  | none =>
    unfold keepHistory
    rw [hfile]
  | some path =>
    rw [historyPlace?, hfile, Option.bind_some] at hq
    rw [keepHistory_tree hfile]
    exact FileTree.writeFile_sameBut false _ hq

/-- Where a file can be written to, saving puts the entries in the place of what it holds. -/
theorem keepHistory_rewritten (h : s.historyPlace? = some p)
    (hallows : s.machine.tree.Allows writeBit p) :
    FileTree.Rewritten p (Bytes.ofText (unlines s.history.entries)) s.machine.tree
      s.keepHistory.machine.tree := by
  obtain ⟨path, hfile, hplace⟩ := historyPlace?_eq_some h
  obtain ⟨t, hwrite, hrewritten⟩ := FileTree.writeFile_rewritten hplace hallows
    (Bytes.ofText (unlines s.history.entries))
  rw [keepHistory_tree hfile, hwrite]
  exact hrewritten

/-- Where a session finds its history, what it makes of it, and where it leaves it. The history is
    left where it was found if and only if the path leads there still, which a session that moves
    sees to by an absolute path. -/
theorem history_place (load : Loader) (e : Environment) (m : Machine)
    (hplace : (start e m).historyPlace? = some p) (h : Sitting load (start e m) submitted s) :
    (start e m).history.entries = m.tree.entriesAt p ∧
    (∃ more, s.history.entries = m.tree.entriesAt p ++ more ∧
      (submitted.filter (!isBlankText ·)).Sublist more ∧
      ((∀ line ∈ submitted, readsHistory line = false) →
        more = submitted.filter (!isBlankText ·))) ∧
    (s.historyPlace? = some p → s.machine.tree.Allows writeBit p →
      FileTree.Rewritten p (Bytes.ofText (unlines s.history.entries)) s.machine.tree
        s.keepHistory.machine.tree) ∧
    (∀ q, s.historyPlace? ≠ some q →
      s.keepHistory.machine.tree.get? q = s.machine.tree.get? q) ∧
    (m.tree.SameWays s.machine.tree → (s.machine.workDir = m.workDir ∨
        ∀ path, e.historyFile? = some path → isAbsolute path = true) →
      s.historyPlace? = some p) := by
  have hfound : (start e m).history.entries = m.tree.entriesAt p := by rw [start_history hplace]
  refine ⟨hfound, ?_, keepHistory_rewritten, fun q => keepHistory_get?, fun hways hdir => ?_⟩
  · obtain ⟨more, hmore, hsub⟩ := h.course.sessionFrame.entries
    rw [hfound] at hmore
    refine ⟨more, hmore, hsub, fun hread => ?_⟩
    have hall := h.entries_eq hread
    rw [hfound, hmore] at hall
    exact List.append_cancel_left hall
  · rw [← hplace]
    exact h.historyPlace? hways hdir

/-- An environment with a path for the history file. -/
def keepingEnvironment (path : String) : Environment := ⟨[("HISTFILE", path)], "/", false⟩

/-- A session that starts with one entry. -/
def keepingSession (path : String) : Session :=
  start (keepingEnvironment path) (History.noteMachine (Bytes.ofText "one\n"))

/-- The same session after it has moved. -/
def movedSession (path : String) : Session := (submit unloadable "cd d" (keepingSession path)).2

/-- A session that moves finds its history again by an absolute path. -/
theorem history_place_absolute :
    (movedSession "/h").env.directory = "/d" ∧
      (keepingSession "/h").historyPlace? = some ["h"] ∧
      ∃ mode, (movedSession "/h").keepHistory.machine.tree.get? ["h"] =
        some (.file mode (Bytes.ofText "one\ncd d\n")) := by
  have hplace : (keepingSession "/h").historyPlace? = some ["h"] := by decide +kernel
  have hsitting : Sitting unloadable (keepingSession "/h") ["cd d"] (movedSession "/h") :=
    Sitting.start.submit "cd d"
  have hread : ∀ line ∈ ["cd d"], readsHistory line = false := by decide +kernel
  have htree : (movedSession "/h").machine.tree = (keepingSession "/h").machine.tree := by
    decide +kernel
  have hallows : (movedSession "/h").machine.tree.Allows writeBit ["h"] := by
    rw [htree]
    exact History.noteMachine_allows _ (by decide)
  have hways : (keepingSession "/h").machine.tree.SameWays (movedSession "/h").machine.tree := by
    rw [htree]
    exact .refl _
  have hfound : (keepingSession "/h").machine.tree.entriesAt ["h"] = ["one"] := by decide +kernel
  have htext : unlines (["one"] ++ ["cd d"].filter (!isBlankText ·)) = "one\ncd d\n" := by
    decide +kernel
  obtain ⟨-, ⟨more, hentries, -, hmore⟩, hsaved, -, hback⟩ :=
    history_place unloadable (keepingEnvironment "/h") (keepingSession "/h").machine hplace hsitting
  have hthere : (movedSession "/h").historyPlace? = some ["h"] := by
    refine hback hways (.inr fun path hpath => ?_)
    cases hpath
    rfl
  have hcontent := (hsaved hthere hallows).content
  rw [hentries, hmore hread, hfound, htext] at hcontent
  exact ⟨by decide +kernel, hplace, hcontent⟩

/-- By a relative path a session that moves leaves its history in another file, and the one that it
    started with is not written. -/
theorem history_place_relative :
    (keepingSession "h").historyPlace? = some ["h"] ∧
      (keepingSession "h").history.entries = ["one"] ∧
      Sitting unloadable (keepingSession "h") ["cd d"] (movedSession "h") ∧
      (movedSession "h").historyPlace? = some ["d", "h"] ∧
      (movedSession "h").keepHistory.machine.tree.get? ["h"] =
        some (.file newFileMode (Bytes.ofText "one\n")) ∧
      (movedSession "h").keepHistory.machine.tree.get? ["d", "h"] =
        some (.file newFileMode (Bytes.ofText "one\ncd d\n")) := by
  refine ⟨?_, ?_, Sitting.start.submit "cd d", ?_, ?_, ?_⟩ <;> decide +kernel

end Session

end LineShell
