import LineShell.Proofs.Session.Keeping
/-!
    What becomes of a history file that cannot be loaded.

    A session that fails to load its history starts without entries, and saves the ones it comes to
    have as any session does. So of the complete lines of the file those are left that its entries
    happen to have (`unloadable_history`). A file that may not be written to keeps everything, and
    so does one that the path does not lead to any more. -/

namespace LineShell

namespace Session

variable {load : Loader} {s : Session} {submitted : List String} {p : Place} {e : Environment}
  {m : Machine} {path : String}

theorem recalledHistory_of_unloadable {f : Failure} (hfile : e.historyFile? = some path)
    (hload : History.empty.load m path = .error f) : recalledHistory e m = .empty := by
  rw [recalledHistory, hfile]
  dsimp only
  rw [hload]
  exact ite_self _

theorem keepHistory_of_readOnly (h : s.historyPlace? = some p) {mode : Nat} {content : Bytes}
    (hnode : s.machine.tree.get? p = some (.file mode content)) (hbit : mode &&& writeBit = 0) :
    s.keepHistory.machine.tree = s.machine.tree := by
  obtain ⟨path, hfile, hplace⟩ := historyPlace?_eq_some h
  rw [keepHistory_tree hfile]
  exact FileTree.writeFile_of_readOnly hplace hnode hbit false _

/-- What a session makes of a history file that it cannot load and that nothing else writes. -/
theorem unloadable_history (load : Loader) {f : Failure} {mode : Nat} {content : Bytes}
    (hfile : e.historyFile? = some path)
    (hnode : m.tree.node? m.workDir path = some (.file mode content))
    (hplace : m.tree.filePlace? m.workDir path = some p)
    (hload : History.empty.load m path = .error f)
    (h : Sitting load (start e m) submitted s)
    (hunwritten : s.machine.tree.get? p = m.tree.get? p) :
    (start e m).history = .empty ∧
    ((∀ line ∈ submitted, readsHistory line = false) →
      s.history.entries = submitted.filter (!isBlankText ·)) ∧
    (s.historyPlace? = some p ∧ mode &&& writeBit ≠ 0 → ∃ mode' content',
      s.keepHistory.machine.tree.get? p = some (.file mode' content') ∧
      content' = Bytes.ofText (unlines s.history.entries) ∧
      ∀ line ∈ Bytes.completeLines content, line ∈ Bytes.completeLines content' ↔
        ∃ entry ∈ s.history.entries, ∃ piece ∈ cut '\n' entry.toList,
          line = Bytes.ofChars piece) ∧
    (¬ (s.historyPlace? = some p ∧ mode &&& writeBit ≠ 0) →
      s.keepHistory.machine.tree.get? p = some (.file mode content)) := by
  have hstart : (start e m).history = .empty := recalledHistory_of_unloadable hfile hload
  rw [FileTree.node?_of_place hplace] at hnode
  rw [hnode] at hunwritten
  refine ⟨hstart, fun hread => ?_, ?_, fun hkept => ?_⟩
  · rw [h.entries_eq hread, hstart]
    rfl
  · rintro ⟨hthere, hbit⟩
    have hallows := FileTree.allows_of_file hunwritten hbit
    obtain ⟨mode', hcontent⟩ := (keepHistory_rewritten hthere hallows).content
    refine ⟨mode', _, hcontent, rfl, fun line _ => ?_⟩
    rw [Bytes.completeLines_unlines, List.mem_map]
    constructor
    · rintro ⟨piece, hpiece, rfl⟩
      obtain ⟨entry, hentry, hcut⟩ := List.mem_flatMap.mp hpiece
      exact ⟨entry, hentry, piece, hcut, rfl⟩
    · rintro ⟨entry, hentry, piece, hcut, rfl⟩
      exact ⟨piece, List.mem_flatMap.mpr ⟨entry, hentry, hcut⟩, rfl⟩
  · by_cases hthere : s.historyPlace? = some p
    · have hbit : mode &&& writeBit = 0 := Decidable.byContradiction fun hbit =>
        hkept ⟨hthere, hbit⟩
      rw [keepHistory_of_readOnly hthere hunwritten hbit, hunwritten]
    · rw [keepHistory_get? hthere, hunwritten]

/-- A complete line, and then one that is no text. -/
def garbledContent : Bytes := Bytes.ofText "one\n" ++ [0xff, 10]

/-- A machine with a file that holds these lines. -/
def garbledMachine : Machine := History.noteMachine garbledContent

/-- The session that starts with that file for its history. -/
def garbledSession : Session := start (keepingEnvironment "/h") garbledMachine

theorem load_garbledMachine : ∃ f, History.empty.load garbledMachine "/h" = .error f := by
  have hnone : (History.empty.load garbledMachine "/h").toOption = none := by decide +kernel
  rcases hload : History.empty.load garbledMachine "/h" with f | loaded
  · exact ⟨f, rfl⟩
  · rw [hload] at hnone
    cases hnone

/-- A line that the session repeats is in the file afterwards, and the one that is no text is
    not. -/
theorem unloadable_history_repeated :
    let s := (submit unloadable "one" garbledSession).2
    Bytes.ofText "one" ∈ Bytes.completeLines garbledContent ∧
      [0xff] ∈ Bytes.completeLines garbledContent ∧
      ∃ mode content, s.keepHistory.machine.tree.get? ["h"] = some (.file mode content) ∧
        Bytes.ofText "one" ∈ Bytes.completeLines content ∧
        [0xff] ∉ Bytes.completeLines content := by
  intro s
  obtain ⟨f, hload⟩ := load_garbledMachine
  have hone : Bytes.ofText "one" ∈ Bytes.completeLines garbledContent := by decide
  have hbad : [0xff] ∈ Bytes.completeLines garbledContent := by decide
  have hread : ∀ line ∈ ["one"], readsHistory line = false := by decide +kernel
  have hsitting : Sitting unloadable garbledSession ["one"] s := Sitting.start.submit "one"
  have hplace : garbledMachine.tree.filePlace? garbledMachine.workDir "/h" = some ["h"] := rfl
  have hnode : garbledMachine.tree.node? garbledMachine.workDir "/h" =
      some (.file newFileMode garbledContent) := rfl
  have hunwritten : s.machine.tree.get? ["h"] = garbledMachine.tree.get? ["h"] := by
    decide +kernel
  have hthere : s.historyPlace? = some ["h"] ∧ newFileMode &&& writeBit ≠ 0 := by
    decide +kernel
  obtain ⟨-, hentries, hsaved, -⟩ :=
    unloadable_history unloadable rfl hnode hplace hload hsitting hunwritten
  obtain ⟨mode, content, hcontent, -, hlines⟩ := hsaved hthere
  rw [hentries hread] at hlines
  refine ⟨hone, hbad, mode, content, hcontent, (hlines _ hone).mpr ?_, fun hleft => ?_⟩
  · exact ⟨"one", by decide +kernel, "one".toList, by decide +kernel, rfl⟩
  · -- a piece of an entry is text
    obtain ⟨entry, -, piece, -, heq⟩ := (hlines _ hbad).mp hleft
    have htext := Bytes.chars?_ofChars piece
    have hnone : Bytes.chars? [0xff] = none := by decide +kernel
    rw [← heq, hnone] at htext
    cases htext

/-- A session without lines destroys what it cannot load. -/
theorem unloadable_history_lost :
    (History.empty.load garbledMachine "/h").toOption = none ∧
      Sitting unloadable garbledSession [] garbledSession ∧
      Bytes.ofText "one" ∈ Bytes.completeLines garbledContent ∧
      garbledSession.keepHistory.machine.tree.get? ["h"] = some (.file newFileMode []) ∧
      Bytes.ofText "one" ∉ Bytes.completeLines [] := by
  refine ⟨?_, .start, ?_, ?_, ?_⟩ <;> decide +kernel

end Session

end LineShell
