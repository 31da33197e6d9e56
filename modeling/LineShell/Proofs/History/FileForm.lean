import LineShell.History.Store
import LineShell.Proofs.File.Place
import LineShell.Proofs.Text.Lines
/-!
    Which histories survive in a file, and what a file becomes that is read and written.

    A file holds the entries as lines. Entries that are loaded again are the lines that the stored
    ones take, so exactly those without line feeds and without a carriage return at the end stay
    what they were. A text that is loaded and stored again is settled, and settled for good exactly
    if no entry of it ends in a carriage return (`file_form`). -/

namespace LineShell

namespace History

variable {m : Machine} {path : String}

theorem store_tree (h : History) (m : Machine) (path : String) :
    (h.store m path).2.tree =
      (m.tree.writeFile m.workDir path false (Bytes.ofText (unlines h.entries))).2 := by
  unfold store Machine.writeFile
  rcases m.tree.writeFile m.workDir path false (Bytes.ofText (unlines h.entries)) with
    ⟨_ | _, t⟩ <;> rfl

/-- What is stored where a file can be kept is there to be read, and nothing else is different. -/
theorem store_of_canKeep (hkeep : m.tree.CanKeep m.workDir path) (h : History) :
    ∃ p t, m.tree.filePlace? m.workDir path = some p ∧
      h.store m path = (.ok (), { m with tree := t }) ∧
      FileTree.Rewritten p (Bytes.ofText (unlines h.entries)) m.tree t ∧
      t.CanKeep m.workDir path ∧ t.readText m.workDir path = .ok (unlines h.entries) := by
  obtain ⟨p, t, hplace, hwrite, hrewritten, hkeep', hread⟩ :=
    FileTree.writeFile_of_canKeep hkeep (Bytes.ofText (unlines h.entries))
  refine ⟨p, t, hplace, ?_, hrewritten, hkeep', FileTree.readText_of_read hread⟩
  rw [store, Machine.writeFile, hwrite]

theorem load_of_readText {text : String} (hread : m.tree.readText m.workDir path = .ok text) :
    empty.load m path = .ok ((lines text).length, ⟨lines text, 0⟩) := by
  rw [load, hread]
  rfl

/-- The entries of a file are loaded into an empty history, and put in place of what it holds. -/
structure Round (m : Machine) (path : String) (h : History) (m' : Machine) : Prop where
  loaded : ∃ n, empty.load m path = .ok (n, h)
  stored : h.store m path = (.ok (), m')

/-- A round leaves the text settled. -/
theorem round_of_readText (hkeep : m.tree.CanKeep m.workDir path) {text : String}
    (hread : m.tree.readText m.workDir path = .ok text) :
    ∃ m', Round m path ⟨lines text, 0⟩ m' ∧ m'.tree.CanKeep m'.workDir path ∧
      m'.tree.readText m'.workDir path = .ok (settled text) := by
  obtain ⟨p, t, -, hstore, -, hkeep', hread'⟩ := store_of_canKeep hkeep ⟨lines text, 0⟩
  rw [unlines_lines] at hread'
  exact ⟨_, ⟨⟨_, load_of_readText hread⟩, hstore⟩, hkeep', hread'⟩

/-- What the form of a history file keeps: of a history that is stored and loaded again, and of a
    text that is loaded and stored once and a second time. Where something can be stored a file can
    be kept, unless what is there is no regular file that can be read. -/
theorem file_form (m : Machine) (path : String) :
    (m.tree.CanKeep m.workDir path →
      (∀ h : History, ∃ m' n loaded, h.store m path = (.ok (), m') ∧
        empty.load m' path = .ok (n, loaded) ∧
        loaded.entries = h.entries.flatMap entryLines ∧
        (loaded.entries = h.entries ↔
          ∀ entry ∈ h.entries, '\n' ∉ entry.toList ∧ entry.toList.getLast? ≠ some '\r')) ∧
      ∀ text, m.tree.readText m.workDir path = .ok text →
        ∃ h₁ m₁ h₂ m₂, Round m path h₁ m₁ ∧ Round m₁ path h₂ m₂ ∧
          m₁.tree.readText m₁.workDir path = .ok (settled text) ∧
          (m₂.tree.readText m₂.workDir path = m₁.tree.readText m₁.workDir path ↔
            ∀ entry ∈ h₁.entries, entry.toList.getLast? ≠ some '\r')) ∧
    ∀ h : History, (h.store m path).1 = .ok () →
      m.tree.CanKeep m.workDir path ∨ ∃ n, m.tree.node? m.workDir path = some n ∧
        ∀ mode content, n = .file mode content → mode &&& readBit = 0 := by
  refine ⟨fun hkeep => ⟨fun h => ?_, fun text hread => ?_⟩, fun h hstore => ?_⟩
  · obtain ⟨p, t, -, hstore, -, -, hread⟩ := store_of_canKeep hkeep h
    refine ⟨_, _, _, hstore, load_of_readText hread, lines_unlines h.entries, ?_⟩
    exact lines_unlines_eq_iff
  · obtain ⟨m₁, hround, hkeep₁, hread₁⟩ := round_of_readText hkeep hread
    obtain ⟨m₂, hround₂, -, hread₂⟩ := round_of_readText hkeep₁ hread₁
    refine ⟨_, m₁, _, m₂, hround, hround₂, hread₁, ?_⟩
    rw [hread₁, hread₂, Except.ok.injEq]
    exact settled_settled_iff text
  · have hwrite : (m.tree.writeFile m.workDir path false
        (Bytes.ofText (unlines h.entries))).1 = .ok () := by
      unfold store Machine.writeFile at hstore
      rcases hdone : m.tree.writeFile m.workDir path false (Bytes.ofText (unlines h.entries)) with
        ⟨f | ⟨⟩, t⟩
      · rw [hdone] at hstore
        cases hstore
      · rfl
    exact FileTree.canKeep_of_writeFile hwrite

/-- A machine with the directory `/d` and the file `/h`, in the directory above them. -/
def noteMachine (content : Bytes) : Machine :=
  ⟨⟨[(["d"], .directory usualMode), (["h"], .file newFileMode content)]⟩, .root, [], 0, [], []⟩

theorem noteMachine_allows (content : Bytes) {bit : Nat} (hbit : newFileMode &&& bit ≠ 0) :
    (noteMachine content).tree.Allows bit ["h"] := FileTree.allows_of_file rfl hbit

/-- A line feed splits an entry and a carriage return at its end is lost; of two carriage returns
    before a line feed each round takes one. -/
theorem file_form_returns :
    let m := noteMachine (Bytes.ofText "a\r\r\nb")
    m.tree.CanKeep m.workDir "/h" ∧
      (∃ m' n loaded, History.store ⟨["x\ny", "z\r"], 0⟩ m "/h" = (.ok (), m') ∧
        empty.load m' "/h" = .ok (n, loaded) ∧ loaded.entries = ["x", "y", "z"]) ∧
      m.tree.readText m.workDir "/h" = .ok "a\r\r\nb" ∧
      ∃ h₁ m₁ h₂ m₂, Round m "/h" h₁ m₁ ∧ Round m₁ "/h" h₂ m₂ ∧
        m₁.tree.readText m₁.workDir "/h" = .ok "a\r\nb\n" ∧
        m₂.tree.readText m₂.workDir "/h" ≠ .ok "a\r\nb\n" := by
  intro m
  have hplace : m.tree.filePlace? m.workDir "/h" = some ["h"] := by decide +kernel
  have hkeep : m.tree.CanKeep m.workDir "/h" :=
    ⟨["h"], hplace, noteMachine_allows _ (by decide), noteMachine_allows _ (by decide)⟩
  have hread : m.tree.readText m.workDir "/h" = .ok "a\r\r\nb" := by
    have hnode : m.tree.node? m.workDir "/h" =
        some (.file newFileMode (Bytes.ofText "a\r\r\nb")) := FileTree.node?_of_place hplace
    exact FileTree.readText_of_read ((FileTree.read_of_node hnode).trans (if_neg (by decide)))
  obtain ⟨hstores, hrounds⟩ := (file_form m "/h").1 hkeep
  refine ⟨hkeep, ?_, hread, ?_⟩
  · obtain ⟨m', n, loaded, hstore, hload, hentries, -⟩ := hstores ⟨["x\ny", "z\r"], 0⟩
    exact ⟨m', n, loaded, hstore, hload, hentries⟩
  · obtain ⟨h₁, m₁, h₂, m₂, hround₁, hround₂, hsettled, hagain⟩ := hrounds _ hread
    refine ⟨h₁, m₁, h₂, m₂, hround₁, hround₂, hsettled, fun hsame => ?_⟩
    have hclean := hagain.mp (hsame.trans hsettled.symm)
    obtain ⟨n, hload⟩ := hround₁.loaded
    rw [load_of_readText hread, Except.ok.injEq, Prod.mk.injEq] at hload
    obtain ⟨-, rfl⟩ := hload
    exact hclean "a\r" List.mem_cons_self rfl

end History

end LineShell
