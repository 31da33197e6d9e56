import LineShell.Proofs.File.Place
/-!
    Files that are open at the end of their content.

    A file that may be written to is opened with what it held, or empty (`Machine.openFile_holds`),
    and what is then written to it comes to the end of that (`OpenFile.Holds.write`). Of the writes
    to two different files neither matters to the other (`OpenFile.Holds.writeIf`). -/

namespace LineShell

/-- The bytes of the file at a place, if there is one. -/
def FileTree.bytesAt (t : FileTree) (p : Place) : Bytes :=
  match t.get? p with
  | some (.file _ content) => content
  | _ => []

/-- The file that is open has some content, and is written at its end. -/
structure OpenFile.Holds (f : OpenFile) (t : FileTree) (content : Bytes) : Prop where
  file : ∃ mode, t.get? f.place = some (.file mode content)
  atEnd : f.AtEnd t

/-- Writes bytes to a file if there is one. -/
def FileTree.writeIf (t : FileTree) (file : Option OpenFile) (bytes : Bytes) : FileTree :=
  match file with
  | some f => (t.write f bytes).2
  | none => t

variable {t t' : FileTree} {f g : OpenFile} {file : Option OpenFile} {p : Place}
  {content bytes bytes' : Bytes} {m : Machine} {path : String}

theorem FileTree.bytesAt_congr (h : t'.get? p = t.get? p) : t'.bytesAt p = t.bytesAt p := by
  rw [bytesAt, bytesAt, h]

theorem FileTree.bytesAt_of_file {mode : Nat} (h : t.get? p = some (.file mode content)) :
    t.bytesAt p = content := by
  rw [bytesAt, h]

theorem OpenFile.Holds.congr (h : f.Holds t content) (hsame : t'.get? f.place = t.get? f.place) :
    f.Holds t' content := by
  refine ⟨?_, fun mode content' hfile => ?_⟩
  · rw [hsame]
    exact h.file
  · rw [hsame] at hfile
    exact h.atEnd mode content' hfile

/-- What is written to it comes to the end of the content. -/
theorem OpenFile.Holds.write (h : f.Holds t content) (bytes : Bytes) :
    ∃ mode, (t.write f bytes).2.get? f.place = some (.file mode (content ++ bytes)) := by
  obtain ⟨mode, hfile⟩ := h.file
  refine ⟨mode, ?_⟩
  rw [FileTree.write_atEnd h.atEnd, hfile]
  rfl

theorem FileTree.writeIf_get? (hp : ∀ g, file = some g → p ≠ g.place) (bytes : Bytes) :
    (t.writeIf file bytes).get? p = t.get? p := by
  cases file with
  | none => rfl
  | some g => exact t.write_sameBut g bytes p (hp g rfl)

/-- Of two writes to different files each adds to its own, whichever comes first. -/
theorem OpenFile.Holds.writeIf (h : f.Holds t content) (hapart : ∀ g, file = some g →
    f.place ≠ g.place) (bytes bytes' : Bytes) :
    (∃ mode, ((t.writeIf (some f) bytes).writeIf file bytes').get? f.place =
      some (.file mode (content ++ bytes))) ∧
    ∃ mode, ((t.writeIf file bytes').writeIf (some f) bytes).get? f.place =
      some (.file mode (content ++ bytes)) := by
  constructor
  · rw [FileTree.writeIf_get? hapart]
    exact h.write bytes
  · exact (h.congr (FileTree.writeIf_get? hapart bytes')).write bytes

/-- A file that may be written to is opened with what it held, or empty. -/
theorem Machine.openFile_holds (hplace : m.tree.filePlace? m.workDir path = some p)
    (hallows : m.tree.Allows writeBit p) (append : Bool) :
    ∃ m', m.openFile path append = (.ok ⟨p, append, 0⟩, m') ∧ m' = { m with tree := m'.tree } ∧
      m.tree.SameBut p m'.tree ∧
      OpenFile.Holds ⟨p, append, 0⟩ m'.tree (if append then m.tree.bytesAt p else []) := by
  have hopened : ∃ f t', m.tree.openPlace p append = (.ok f, t') := by
    unfold FileTree.openPlace
    cases hnode : m.tree.get? p with
    | none =>
      have hroom := Bool.eq_false_iff.mp (hallows.room hnode)
      exact ⟨_, _, if_neg hroom⟩
    | some n =>
      obtain ⟨mode, content, rfl, hbit⟩ := hallows.file n hnode
      exact ⟨_, _, if_neg hbit⟩
  obtain ⟨f, t', hopen⟩ := hopened
  obtain ⟨rfl, hsame, hnode⟩ := FileTree.openPlace_ok hopen
  have hfile : m.tree.openFile m.workDir path append = (.ok ⟨p, append, 0⟩, t') := by
    rw [FileTree.openFile_of_place hplace, hopen]
  refine ⟨{ m with tree := t' }, ?_, rfl, hsame, ?_, FileTree.openFile_atEnd hfile⟩
  · rw [Machine.openFile, hfile]
  · rw [hnode, FileTree.bytesAt]
    cases hold : m.tree.get? p with
    | none => exact ⟨newFileMode, by cases append <;> rfl⟩
    | some n =>
      obtain ⟨mode, content, rfl, -⟩ := hallows.file n hold
      exact ⟨mode, rfl⟩

end LineShell
