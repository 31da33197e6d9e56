import LineShell.Proofs.Session.Keeping
/-!
    A chain of sessions that keep one history file.

    Each session loads what the one before has left, adds its lines and leaves all of it in the
    file again (`Sitting.holds`). As long as the lines have the form that a file keeps, the file
    then holds what it held at first and after it the lines of all sessions in their order
    (`chain_history`). -/

namespace LineShell

namespace FileTree

/-- An absolute path means a regular file that can be read and written to, and that holds a text. -/
def Holds (t : FileTree) (path text : String) : Prop :=
  ∃ p, t.filePlace? .root path = some p ∧ t.Allows writeBit p ∧ t.textAt? p = some text

/-- The same, or there is no file yet but a place where one can be put, and the text is empty. -/
def Keeps (t : FileTree) (path text : String) : Prop :=
  t.Holds path text ∨
    text = "" ∧ ∃ p, t.filePlace? .root path = some p ∧ t.Allows writeBit p ∧ t.get? p = none

/-- An absolute path leads to the same place in two trees, and what is there is the same. If it
    could be written to, or nothing was there and a file could be put there, that is so still. -/
structure Untouched (path : String) (t t' : FileTree) : Prop where
  place : t'.filePlace? .root path = t.filePlace? .root path
  node (p : Place) : t.filePlace? .root path = some p → t'.get? p = t.get? p
  allows (p : Place) : t.filePlace? .root path = some p → t.Allows writeBit p →
    t'.Allows writeBit p

variable {t t' : FileTree} {path text : String} {p : Place}

theorem Untouched.refl (path : String) (t : FileTree) : Untouched path t t :=
  ⟨rfl, fun _ _ => rfl, fun _ _ => id⟩

theorem Keeps.untouched (h : t.Keeps path text) (hsame : Untouched path t t') :
    t'.Keeps path text := by
  rcases h with ⟨p, hplace, hallows, htext⟩ | ⟨hempty, p, hplace, hallows, hnone⟩
  · refine .inl ⟨p, hsame.place.trans hplace, hsame.allows p hplace hallows, ?_⟩
    rw [textAt?, hsame.node p hplace]
    exact htext
  · exact .inr ⟨hempty, p, hsame.place.trans hplace, hsame.allows p hplace hallows,
      (hsame.node p hplace).trans hnone⟩

/-- The lines of the text are the entries of the file, which can be read and written to. -/
theorem Keeps.place (h : t.Keeps path text) :
    ∃ p, t.filePlace? .root path = some p ∧ t.Allows writeBit p ∧ t.Allows readBit p ∧
      t.entriesAt p = lines text := by
  rcases h with ⟨p, hplace, hallows, htext⟩ | ⟨rfl, p, hplace, hallows, hnone⟩
  · obtain ⟨mode, content, hnode, hbit⟩ := exists_file_of_textAt? htext
    exact ⟨p, hplace, hallows, allows_of_file hnode hbit, by rw [entriesAt, htext]⟩
  · refine ⟨p, hplace, hallows, allows_of_none hnone (hallows.room hnone) _, ?_⟩
    rw [entriesAt, textAt?, hnone]
    rfl

/-- A file that has been written holds the text that was written. -/
theorem Rewritten.holds (h : Rewritten p (Bytes.ofText text) t t')
    (hplace : t.filePlace? .root path = some p) (hwrite : t.Allows writeBit p)
    (hread : t.Allows readBit p) : t'.Holds path text := by
  obtain ⟨mode, hnode⟩ := h.content
  obtain ⟨_, _, heq, hbit⟩ := (h.allows readBit (by decide) hread).file _ hnode
  cases heq
  refine ⟨p, (h.ways.filePlace? .root path).trans hplace,
    h.allows writeBit (by decide) hwrite, ?_⟩
  rw [textAt?, hnode]
  dsimp only
  rw [if_neg hbit, Bytes.text?_ofText]

theorem Holds.readText (h : t.Holds path text) (habs : isAbsolute path = true) (dir : Seat) :
    t.readText dir path = .ok text := by
  obtain ⟨p, hplace, -, htext⟩ := h
  obtain ⟨mode, content, hnode, -⟩ := exists_file_of_textAt? htext
  have hread := readText_of_place ((filePlace?_absolute habs dir).trans hplace) hnode
  rw [htext] at hread
  cases hresult : t.readText dir path with
  | error f =>
    rw [hresult] at hread
    cases hread
  | ok text' =>
    rw [hresult] at hread
    cases hread
    rfl

end FileTree

namespace Session

variable {load : Loader} {s t : Session} {submitted : List String} {e : Environment} {m : Machine}
  {path text : String}

/-- A session during which nothing else writes to its history file leaves there what it has found
    and, after it, its lines. -/
theorem Sitting.holds (habs : isAbsolute path = true) (hfile : e.historyFile? = some path)
    (hkeeps : m.tree.Keeps path text) (h : Sitting load (Session.start e m) submitted s)
    (hsame : m.tree.Untouched path s.machine.tree)
    (hread : ∀ line ∈ submitted, readsHistory line = false) :
    s.keepHistory.machine.tree.Holds path
      (unlines (lines text ++ submitted.filter (!isBlankText ·))) := by
  have hfound : recalledHistory e m = ⟨lines text, 0⟩ := by
    obtain ⟨p, hplace, -, -, hentries⟩ := hkeeps.place
    rw [recalledHistory_eq hfile ((FileTree.filePlace?_absolute habs _).trans hplace), hentries]
  have hhas : s.history.entries = lines text ++ submitted.filter (!isBlankText ·) := by
    have hgained : s.history.entries = (recalledHistory e m).entries ++ _ := h.entries_eq hread
    rw [hgained, hfound]
  obtain ⟨p, hplace, hwrite, hreadable, -⟩ := (hkeeps.untouched hsame).place
  have hthere : s.historyPlace? = some p := by
    have hpath : s.env.historyFile? = some path := h.historyFile?.trans hfile
    rw [Session.historyPlace?, hpath, Option.bind_some]
    exact (FileTree.filePlace?_absolute habs _).trans hplace
  have hsaved := keepHistory_rewritten hthere hwrite
  rw [hhas] at hsaved
  exact hsaved.holds hplace hwrite hreadable

/-- Sessions one after the other that have the same path for their history file. Between them and
    while they run nothing else writes to the file. -/
inductive Chain (load : Loader) (path : String) (m : Machine) :
    List (List String) → Machine → Prop where
  | start : Chain load path m [] m
  | session {sessions : List (List String)} {m₁ m₂ : Machine} {e : Environment}
    {submitted : List String} {s : Session} :
    Chain load path m sessions m₁ → m₁.tree.Untouched path m₂.tree →
    e.historyFile? = some path → Sitting load (Session.start e m₂) submitted s →
    m₂.tree.Untouched path s.machine.tree →
    Chain load path m (sessions ++ [submitted]) s.keepHistory.machine

/-- The last session has left the lines of all, and the next one would find them. -/
theorem Chain.holds {sessions : List (List String)} {m' : Machine}
    (h : Chain load path m sessions m') (habs : isAbsolute path = true)
    (hkeeps : m.tree.Keeps path text)
    (htext : ∀ line ∈ lines text, line.toList.getLast? ≠ some '\r')
    (hlines : ∀ line ∈ sessions.flatten, '\n' ∉ line.toList ∧
      line.toList.getLast? ≠ some '\r' ∧ readsHistory line = false) :
    let entries := lines text ++ sessions.flatten.filter (!isBlankText ·)
    (sessions ≠ [] → m'.tree.Holds path (unlines entries)) ∧
      ∃ text', m'.tree.Keeps path text' ∧ lines text' = entries := by
  -- the file may be missing before the first session, so what is kept in mind is a text with the
  -- right lines; only after a session the text itself is known
  induction h with
  | start => exact ⟨fun hsome => absurd rfl hsome, text, hkeeps, by simp⟩
  | @session sessions m₁ m₂ e submitted s _ hbefore hfile hsitting hsame ih =>
    rw [List.flatten_append, List.flatten_singleton] at hlines ⊢
    obtain ⟨-, text', hkeeps', hentries⟩ :=
      ih fun line hline => hlines line (List.mem_append_left _ hline)
    have hsaved := hsitting.holds habs hfile (hkeeps'.untouched hbefore) hsame
      fun line hline => (hlines line (List.mem_append_right _ hline)).2.2
    rw [hentries, List.append_assoc, ← List.filter_append] at hsaved
    refine ⟨fun _ => hsaved, _, .inl hsaved, lines_unlines_eq_iff.mpr fun entry hentry => ?_⟩
    rcases List.mem_append.mp hentry with hold | hnew
    · exact ⟨not_mem_of_mem_lines hold, htext entry hold⟩
    · have hclean := hlines entry (List.mem_filter.mp hnew).1
      exact ⟨hclean.1, hclean.2.1⟩

/-- After one or more sessions the history file holds the lines that it held at first and those of
    all sessions that are not blank. A line that is run alone and a dialogue are such sessions. -/
theorem chain_history (load : Loader) :
    (∀ (path text : String) (m m' : Machine) (sessions : List (List String)),
      isAbsolute path = true → m.tree.Keeps path text →
      (∀ line ∈ lines text, line.toList.getLast? ≠ some '\r') →
      (∀ line ∈ sessions.flatten, '\n' ∉ line.toList ∧ line.toList.getLast? ≠ some '\r' ∧
        readsHistory line = false) →
      sessions ≠ [] → Chain load path m sessions m' →
      ∀ dir, m'.tree.readText dir path =
        .ok (unlines (lines text ++ sessions.flatten.filter (!isBlankText ·)))) ∧
    (∀ (line : String) (s : Session), ∃ t, Sitting load s [line] t ∧
      (s.submitOnly load line).2 = t.keepHistory) ∧
    ∀ (read : LineReader) (prompt : String) (s : Session), ∃ accepted t,
      accepted.map TypedLine.line <+: (read s.machine.input).filter (· ≠ .interrupted) ∧
      Sitting load s accepted t ∧ (s.dialogue load read prompt = (.abandoned, t) ∨
        (s.dialogue load read prompt).2 = t.keepHistory) := by
  refine ⟨?_, fun line s => ⟨_, Sitting.start.submit line, rfl⟩, dialogue_sitting load⟩
  intro path text m m' sessions habs hkeeps htext hlines hsome h dir
  exact ((h.holds habs hkeeps htext hlines).1 hsome).readText habs dir

/-- Lines that are submitted one after the other. -/
def submitAll (load : Loader) (submitted : List String) (s : Session) : Session :=
  submitted.foldl (fun s line => (s.submit load line).2) s

theorem Sitting.submitAll (h : Sitting load s submitted t) (more : List String) :
    Sitting load s (submitted ++ more) (t.submitAll load more) := by
  induction more generalizing t submitted with
  | nil => rwa [List.append_nil]
  | cons line rest ih =>
    have hrest := ih (h.submit line)
    rwa [List.append_assoc] at hrest

/-- The session on a machine in which some lines are submitted. -/
def noteSession (m : Machine) (submitted : List String) : Session :=
  (start (keepingEnvironment "/h") m).submitAll unloadable submitted

theorem noteSession_chain {sessions : List (List String)} {m' : Machine}
    (h : Chain unloadable "/h" m sessions m') (submitted : List String)
    (htree : (noteSession m' submitted).machine.tree = m'.tree) :
    Chain unloadable "/h" m (sessions ++ [submitted])
      (noteSession m' submitted).keepHistory.machine := by
  refine h.session (.refl "/h" m'.tree) rfl (Sitting.start.submitAll submitted) ?_
  rw [htree]
  exact .refl "/h" m'.tree

/-- The machine after a session that ends with `exit`, after a line that fails. -/
def oncePlayed : Machine :=
  (noteSession (History.noteMachine (Bytes.ofText "a\r\nb")) ["echo x", "nope", "exit"]).keepHistory.machine

/-- The machine after another session. -/
def twicePlayed : Machine := (noteSession oncePlayed ["", "echo y"]).keepHistory.machine

/-- Two sessions, of which the first ends with `exit` after a line that fails. -/
theorem chain_history_two :
    Chain unloadable "/h" (History.noteMachine (Bytes.ofText "a\r\nb"))
        [["echo x", "nope", "exit"], ["", "echo y"]] twicePlayed ∧
      twicePlayed.tree.readText .root "/h" = .ok "a\nb\necho x\nnope\nexit\necho y\n" := by
  have honce : Chain unloadable "/h" (History.noteMachine (Bytes.ofText "a\r\nb"))
      [["echo x", "nope", "exit"]] oncePlayed :=
    noteSession_chain .start _ (by decide +kernel)
  have htwice : Chain unloadable "/h" (History.noteMachine (Bytes.ofText "a\r\nb"))
      [["echo x", "nope", "exit"], ["", "echo y"]] twicePlayed :=
    noteSession_chain honce _ (by decide +kernel)
  have hkeeps : (History.noteMachine (Bytes.ofText "a\r\nb")).tree.Keeps "/h" "a\r\nb" := by
    refine .inl ⟨["h"], by decide +kernel, History.noteMachine_allows _ (by decide), ?_⟩
    exact Bytes.text?_ofText "a\r\nb"
  have hheld := (chain_history unloadable).1 "/h" "a\r\nb" _ _ _ rfl hkeeps (by decide +kernel)
    (by decide +kernel) (List.cons_ne_nil _ _) htwice .root
  exact ⟨htwice, hheld⟩

end Session

end LineShell
