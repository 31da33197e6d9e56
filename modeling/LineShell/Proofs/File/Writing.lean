import LineShell.Machine
/-!
    What opening a file and writing to it do to the tree of files.

    Opening makes a file where there is none and empties one that is not appended to
    (`openedNode`); a write at the end of the content adds to it (`Node.grow`). Neither touches any
    other place, so a file that is opened, written to and closed ends with the bytes that were
    written, and nothing else is different (`writeFile_ok`). If that is not possible nothing is
    different at all (`writeFile_error`). -/

namespace LineShell

/-- What is at a place once it has been opened. -/
def openedNode (append : Bool) : Option Node → Node
  | some (.file mode content) => .file mode (if append then content else [])
  | some n => n
  | none => .file newFileMode []

/-- The node with bytes at the end of its content, if it has any content. -/
def Node.grow (bytes : Bytes) : Node → Node
  | .file mode content => .file mode (content ++ bytes)
  | n => n

theorem Node.grow_nil (n : Node) : n.grow [] = n := by
  cases n with
  | file mode content => rw [grow, List.append_nil]
  | _ => rfl

/-- The open file writes at the end of what is there. -/
def OpenFile.AtEnd (f : OpenFile) (t : FileTree) : Prop :=
  ∀ mode content, t.get? f.place = some (.file mode content) →
    f.append = true ∨ f.offset = content.length

/-- Two trees that differ in what is at one place only. -/
def FileTree.SameBut (p : Place) (t t' : FileTree) : Prop := ∀ q, q ≠ p → t'.get? q = t.get? q

namespace FileTree

variable {t t' : FileTree} {p : Place} {f : OpenFile}

theorem SameBut.refl (p : Place) (t : FileTree) : t.SameBut p t := fun _ _ => rfl

theorem SameBut.trans {t₁ t₂ t₃ : FileTree} (h : t₁.SameBut p t₂) (h' : t₂.SameBut p t₃) :
    t₁.SameBut p t₃ := fun q hq => (h' q hq).trans (h q hq)

theorem SameBut.put (p : Place) (t : FileTree) (n : Node) : t.SameBut p (t.put p n) :=
  fun _ hq => t.get?_put_of_ne n hq

/-- The place of anything but a directory is not the root. -/
theorem ne_root {t : FileTree} {p : Place} (h : ∀ mode, t.get? p ≠ some (.directory mode)) :
    p ≠ [] := by
  rintro rfl
  exact h _ t.get?_root

/-! ### Opening -/

theorem openPlace_ok {append : Bool} (h : t.openPlace p append = (.ok f, t')) :
    f = ⟨p, append, 0⟩ ∧ t.SameBut p t' ∧ t'.get? p = some (openedNode append (t.get? p)) := by
  unfold openPlace at h
  split at h
  · cases h
  · rename_i mode content hp
    split at h
    · cases h
    · cases h
      have hroot := ne_root (t := t) (p := p) (by rw [hp]; exact nofun)
      refine ⟨rfl, .put p t _, ?_⟩
      rw [get?_put_self t _ hroot, hp]
      rfl
  · rename_i n hdir hfile hp
    cases h
    refine ⟨rfl, .refl p t, ?_⟩
    rw [hp]
    cases n with
    | directory mode => exact absurd rfl (hdir mode)
    | file mode content => exact absurd rfl (hfile mode content)
    | _ => rfl
  · rename_i hp
    split at h
    · cases h
    · cases h
      have hroot := ne_root (t := t) (p := p) (by rw [hp]; exact nofun)
      refine ⟨rfl, .put p t _, ?_⟩
      rw [get?_put_self t _ hroot, hp]
      rfl

/-- Opening what a path means is opening what is at some place, or fails before that. -/
theorem openFile_cases {dir : Seat} {path : String} {append : Bool} {r : Except Fault OpenFile}
    (h : t.openFile dir path append = (r, t')) :
    (∃ p, t.openPlace p append = (r, t')) ∨ ∃ e, r = .error e ∧ t' = t := by
  unfold openFile at h
  split at h
  · cases h
    exact .inr ⟨_, rfl, rfl⟩
  · split at h
    · exact .inl ⟨_, h⟩
    · cases h
      exact .inr ⟨_, rfl, rfl⟩
  · exact .inl ⟨_, h⟩

theorem openFile_ok {dir : Seat} {path : String} {append : Bool}
    (h : t.openFile dir path append = (.ok f, t')) :
    f = ⟨f.place, append, 0⟩ ∧ t.SameBut f.place t' ∧
      t'.get? f.place = some (openedNode append (t.get? f.place)) := by
  rcases openFile_cases h with ⟨p, hplace⟩ | ⟨e, he, -⟩
  · obtain ⟨rfl, hsame, hnode⟩ := openPlace_ok hplace
    exact ⟨rfl, hsame, hnode⟩
  · cases he

/-- A file that has just been opened is written at its end. -/
theorem openFile_atEnd {dir : Seat} {path : String} {append : Bool}
    (h : t.openFile dir path append = (.ok f, t')) : f.AtEnd t' := by
  obtain ⟨hf, -, hnode⟩ := openFile_ok h
  intro mode content hfile
  rw [hf]
  cases append with
  | true => exact .inl rfl
  | false =>
    rw [hnode] at hfile
    right
    match hold : t.get? f.place with
    | none =>
      rw [hold] at hfile
      cases hfile
      rfl
    | some (.file mode' content') =>
      rw [hold] at hfile
      cases hfile
      rfl
    | some (.directory _) | some (.link _) | some (.device _) =>
      rw [hold] at hfile
      cases hfile

/-! ### Writing -/

theorem write_sameBut (t : FileTree) (f : OpenFile) (bytes : Bytes) :
    t.SameBut f.place (t.write f bytes).2 := by
  unfold write
  split
  · exact .refl _ t
  · split
    · exact .put f.place t _
    · exact .refl _ t
    · exact .refl _ t

/-- Bytes that are written at the end are added to what is there. -/
theorem write_atEnd (hend : f.AtEnd t) (bytes : Bytes) :
    (t.write f bytes).2.get? f.place = (t.get? f.place).map (Node.grow bytes) := by
  unfold write
  split
  · rename_i hbytes
    rw [hbytes]
    cases t.get? f.place with
    | none => rfl
    | some n => rw [Option.map_some, Node.grow_nil]
  · split
    · rename_i mode content hfile
      have hroot := ne_root (t := t) (p := f.place) (by rw [hfile]; exact nofun)
      have hstart : (if f.append then content.length else f.offset) = content.length := by
        rcases hend mode content hfile with happend | hoffset
        · rw [if_pos happend]
        · rw [hoffset, ite_self]
      rw [hfile]
      dsimp only
      rw [get?_put_self t _ hroot, hstart, overwrite_length]
      rfl
    · rename_i hfull
      rw [hfull]
      rfl
    · rename_i hfile _
      cases hnode : t.get? f.place with
      | none => rfl
      | some n =>
        cases n with
        | file mode content => exact absurd hnode (hfile mode content)
        | _ => rfl

/-- A file that could be written to has been opened, and has the bytes at its end; nothing else is
    different. -/
theorem writeFile_ok {dir : Seat} {path : String} {append : Bool} {bytes : Bytes}
    (h : t.writeFile dir path append bytes = (.ok (), t')) :
    ∃ p, (t.openFile dir path append).1 = .ok ⟨p, append, 0⟩ ∧ t.SameBut p t' ∧
      t'.get? p = some ((openedNode append (t.get? p)).grow bytes) := by
  unfold writeFile at h
  split at h
  · cases h
  · rename_i f t₁ hopen
    obtain ⟨hf, hsame, hnode⟩ := openFile_ok hopen
    have hwritten := t₁.write_sameBut f bytes
    have hgrown := write_atEnd (openFile_atEnd hopen) bytes
    split at h
    · cases h
    · rename_i t₂ hwrite
      cases h
      rw [hwrite] at hwritten hgrown
      refine ⟨f.place, ?_, hsame.trans hwritten, ?_⟩
      · rw [hopen, ← hf]
      · rw [hgrown, hnode]
        rfl

/-! ### What cannot be written -/

theorem openPlace_error {append : Bool} {e : Fault} (h : t.openPlace p append = (.error e, t')) :
    t' = t := by
  unfold openPlace at h
  split at h
  · cases h
    rfl
  · split at h <;> cases h
    rfl
  · cases h
  · split at h <;> cases h
    rfl

theorem openFile_error {dir : Seat} {path : String} {append : Bool} {e : Fault}
    (h : t.openFile dir path append = (.error e, t')) : t' = t := by
  rcases openFile_cases h with ⟨p, hplace⟩ | ⟨_, -, heq⟩
  · exact openPlace_error hplace
  · exact heq

/-- Opening a device does nothing. -/
theorem openPlace_device {append : Bool} {d : Device} (h : t.openPlace p append = (.ok f, t'))
    (hdevice : t'.get? p = some (.device d)) : t' = t := by
  unfold openPlace at h
  split at h
  · cases h
  · rename_i mode content hp
    split at h
    · cases h
    · cases h
      rw [get?_put_self t _ (ne_root (t := t) (by rw [hp]; exact nofun))] at hdevice
      cases hdevice
  · cases h
    rfl
  · rename_i hp
    split at h
    · cases h
    · cases h
      rw [get?_put_self t _ (ne_root (t := t) (by rw [hp]; exact nofun))] at hdevice
      cases hdevice

theorem openFile_device {dir : Seat} {path : String} {append : Bool} {d : Device}
    (h : t.openFile dir path append = (.ok f, t'))
    (hdevice : t'.get? f.place = some (.device d)) : t' = t := by
  rcases openFile_cases h with ⟨p, hplace⟩ | ⟨_, -, heq⟩
  · obtain ⟨rfl, -, -⟩ := openPlace_ok hplace
    exact openPlace_device hplace hdevice
  · exact heq

/-- Only a device refuses what is written to it. -/
theorem write_error {bytes : Bytes} {e : Fault} (h : t.write f bytes = (.error e, t')) :
    t' = t ∧ t.get? f.place = some (.device .full) := by
  unfold write at h
  split at h
  · cases h
  · split at h
    · cases h
    · rename_i hfull
      cases h
      exact ⟨rfl, hfull⟩
    · cases h

theorem writeFile_error {dir : Seat} {path : String} {append : Bool} {bytes : Bytes} {e : Fault}
    (h : t.writeFile dir path append bytes = (.error e, t')) : t' = t := by
  unfold writeFile at h
  split at h
  · rename_i hopen
    cases h
    exact openFile_error hopen
  · rename_i f t₁ hopen
    split at h
    · rename_i hwrite
      obtain ⟨rfl, hfull⟩ := write_error hwrite
      cases h
      exact openFile_device hopen hfull
    · cases h

end FileTree

namespace Machine

/-- Opening a file changes nothing of the machine but its files. -/
theorem eq_of_openFile {m : Machine} {path : String} {append : Bool} {r : Except Fault OpenFile}
    {m' : Machine} (h : m.openFile path append = (r, m')) :
    m.tree.openFile m.workDir path append = (r, m'.tree) ∧ m' = { m with tree := m'.tree } := by
  rcases hfile : m.tree.openFile m.workDir path append with ⟨r', t⟩
  rw [Machine.openFile, hfile] at h
  cases h
  exact ⟨rfl, rfl⟩

theorem writeFile_error {m m' : Machine} {path text : String} {append : Bool} {e : Fault}
    (h : m.writeFile path append text = (.error e, m')) : m' = m := by
  unfold Machine.writeFile at h
  rcases hwrite : m.tree.writeFile m.workDir path append (Bytes.ofText text) with ⟨r, t⟩
  rw [hwrite] at h
  cases h
  rw [FileTree.writeFile_error hwrite]

theorem writeText_eq (m : Machine) (f : OpenFile) (text : String) :
    m.writeText f text = { m with tree := (m.tree.write f (Bytes.ofText text)).2 } := by
  rw [writeText, writeOpen, FileTree.writeAnyway]
  rcases m.tree.write f (Bytes.ofText text) with ⟨_ | f', t⟩ <;> rfl

/-- Writing nothing does nothing. -/
theorem writeText_empty (m : Machine) (f : OpenFile) : m.writeText f "" = m := by
  rw [writeText_eq]
  rfl

end Machine

end LineShell
