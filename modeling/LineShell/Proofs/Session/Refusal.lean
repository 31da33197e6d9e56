import LineShell.Proofs.History.FileForm
import LineShell.Proofs.Session.Carrying
import LineShell.Proofs.Session.Reporting
/-!
    Lines that come to nothing because a target of their last stage cannot be opened.

    The targets of the last stage are opened before anything else, the output's first. If one of
    them cannot be opened (`Refusal`), the reply tells of it and of nothing else, whatever programs
    there are and whatever stages stand in front (`perform_refused`). The file that the first of
    them leads to may have been made or emptied by then (`Trace`); everything else is as it was. -/

namespace LineShell

/-- Which target of a command cannot be opened and why, and the tree that is left once it has been
    tried. -/
inductive Refusal (e : Environment) (m : Machine) (c : Command) :
    Target → Fault → FileTree → Prop where
  /-- The output's, which is tried first. -/
  | output {target : Target} {fault : Fault} : c.output = some target →
    (m.openFile (e.fromHere target.path) target.append).1 = .error fault →
      Refusal e m c target fault m.tree
  /-- The errors', of a command whose output is not redirected. -/
  | error {target : Target} {fault : Fault} : c.output = none → c.error = some target →
    (m.openFile (e.fromHere target.path) target.append).1 = .error fault →
      Refusal e m c target fault m.tree
  /-- The errors', once the output's is open. -/
  | second {first target : Target} {fault : Fault} {f : OpenFile} {m₁ : Machine} :
    c.output = some first → m.openFile (e.fromHere first.path) first.append = (.ok f, m₁) →
      c.error = some target →
        (m₁.openFile (e.fromHere target.path) target.append).1 = .error fault →
          Refusal e m c target fault m₁.tree

/-- What the opening of a command's output may leave behind in a tree: a file that it has made, or
    emptied if it does not append. -/
inductive Trace (e : Environment) (m : Machine) (c : Command) (t : FileTree) : Prop where
  | nothing : (∀ q, t.get? q = m.tree.get? q) → Trace e m c t
  | made {target : Target} {p : Place} : c.output = some target →
    m.tree.filePlace? m.workDir (e.fromHere target.path) = some p → m.tree.get? p = none →
      t.get? p = some (.file newFileMode []) → m.tree.SameBut p t → Trace e m c t
  | emptied {target : Target} {p : Place} {mode : Nat} {content : Bytes} :
    c.output = some target → target.append = false →
      m.tree.filePlace? m.workDir (e.fromHere target.path) = some p →
        m.tree.get? p = some (.file mode content) → t.get? p = some (.file mode []) →
          m.tree.SameBut p t → Trace e m c t

variable {e : Environment} {m : Machine} {c : Command} {target : Target} {fault : Fault}
  {tree : FileTree}

/-! ### Opening the targets -/

/-- The targets are opened or one of them is refused. -/
theorem opened_or_refused (e : Environment) (m : Machine) (c : Command) :
    (∃ files, (openChannels e m c).1 = .ok files) ∨
      ∃ target fault tree, Refusal e m c target fault tree := by
  have hsecond (m₁ : Machine) : (∃ error m₂, openChannel e m₁ c.error = (.ok error, m₂)) ∨
      ∃ target fault, c.error = some target ∧
        (m₁.openFile (e.fromHere target.path) target.append).1 = .error fault := by
    cases herror : c.error with
    | none => exact .inl ⟨none, m₁, rfl⟩
    | some target =>
      rcases hopen : m₁.openFile (e.fromHere target.path) target.append with ⟨fault | f, m₂⟩
      · exact .inr ⟨target, fault, rfl, by rw [hopen]⟩
      · exact .inl ⟨some f, m₂, openChannel_ok hopen⟩
  cases houtput : c.output with
  | none =>
    rcases hsecond m with ⟨error, m₂, hopen⟩ | ⟨target, fault, herror, hopen⟩
    · left
      exact ⟨⟨none, error⟩, by simp only [openChannels, houtput, openChannel_none, hopen]⟩
    · exact .inr ⟨target, fault, m.tree, .error houtput herror hopen⟩
  | some first =>
    rcases hfirst : m.openFile (e.fromHere first.path) first.append with ⟨fault | f, m₁⟩
    · exact .inr ⟨first, fault, m.tree, .output houtput (by rw [hfirst])⟩
    · rcases hsecond m₁ with ⟨error, m₂, hopen⟩ | ⟨target, fault, herror, hopen⟩
      · left
        exact ⟨⟨some f, error⟩, by
          simp only [openChannels, houtput, openChannel_ok hfirst, hopen]⟩
      · exact .inr ⟨target, fault, m₁.tree, .second houtput hfirst herror hopen⟩

/-- A refused target is what the opening of the targets fails with. -/
theorem Refusal.openChannels (h : Refusal e m c target fault tree) :
    openChannels e m c =
      (.error (.redirect (e.fromHere target.path) fault), { m with tree }) := by
  cases h with
  | output houtput hopen => simp only [LineShell.openChannels, houtput, openChannel_error hopen]
  | error houtput herror hopen =>
    simp only [LineShell.openChannels, houtput, herror, openChannel_none, openChannel_error hopen]
  | @second first _ _ f m₁ houtput hfirst herror hopen =>
    have hmachine := (Machine.eq_of_openFile hfirst).2
    simp only [LineShell.openChannels, houtput, herror, openChannel_ok hfirst,
      openChannel_error hopen]
    rw [← hmachine]

/-- Until a target is refused, at most the output's has been opened. -/
theorem Refusal.trace (h : Refusal e m c target fault tree) : Trace e m c tree := by
  cases h with
  | output => exact .nothing fun _ => rfl
  | error => exact .nothing fun _ => rfl
  | @second first _ _ f m₁ houtput hfirst _ _ =>
    have hfile := (Machine.eq_of_openFile hfirst).1
    obtain ⟨-, hsame, hnode⟩ := FileTree.openFile_ok hfile
    have hplace : m.tree.filePlace? m.workDir (e.fromHere first.path) = some f.place :=
      FileTree.filePlace?_of_openFile (by rw [hfile])
    have hkept (h : m₁.tree.get? f.place = m.tree.get? f.place) : Trace e m c m₁.tree := by
      refine .nothing fun q => ?_
      by_cases hq : q = f.place
      · rw [hq, h]
      · exact hsame q hq
    cases hold : m.tree.get? f.place with
    | none =>
      rw [hold] at hnode
      exact .made houtput hplace hold hnode hsame
    | some n =>
      rw [hold] at hnode
      cases n with
      | file mode content =>
        cases happend : first.append with
        | false =>
          rw [happend] at hnode
          exact .emptied houtput happend hplace hold hnode hsame
        | true =>
          rw [happend] at hnode
          exact hkept (hnode.trans hold.symm)
      | _ => exact hkept (hnode.trans hold.symm)

/-! ### The line -/

/-- If a target of the last stage of a line cannot be opened, this stops the line before anything
    happens: its reply tells of that target, no program has a part in it and no other stage, and the
    session is as it was but for what the opening of the output may have left behind. -/
theorem perform_refused {s : Session} {last : Command}
    (hclosed : ∀ files, (openChannels s.env s.machine last).1 ≠ .ok files) :
    ∃ target fault tree, Refusal s.env s.machine last target fault tree ∧
      Trace s.env s.machine last tree ∧
      ∀ (load : Loader) (line : String) (cs : List Command),
        parseLine line = .ok (cs ++ [last]) →
          s.perform load line =
            (⟨1, "", s.env.fromHere target.path ++ ": " ++ fault.message ++ "\n"⟩,
              { s with machine := { s.machine with tree } }) := by
  rcases opened_or_refused s.env s.machine last with ⟨files, hopen⟩ | ⟨target, fault, tree, h⟩
  · exact absurd hopen (hclosed files)
  · refine ⟨target, fault, tree, h, h.trace, fun load line cs hline => ?_⟩
    rw [Session.perform_of_parsed hline, Session.performStages, h.openChannels]
    rfl

/-- A session in the root, where `h` is a file that holds `old` and there is no directory `e`. -/
def noteHoldingSession : Session :=
  { bareSession with machine := History.noteMachine (Bytes.ofText "old") }

/-- Has its output redirected to a file that is there, and its errors to one that cannot be. -/
def halfOpenCommand : Command := ⟨"echo", ["x"], some ⟨"h", false⟩, some ⟨"e/f", false⟩⟩

/-- A line that would leave the directory and end the session does neither, but its output's file
    has been emptied by then. -/
theorem perform_refused_emptied :
    (∀ files, (openChannels noteHoldingSession.env noteHoldingSession.machine
      halfOpenCommand).1 ≠ .ok files) ∧
    ∃ tree, tree.get? ["h"] = some (.file newFileMode []) ∧
      noteHoldingSession.machine.tree.SameBut ["h"] tree ∧
      ∀ load, noteHoldingSession.perform load "cd d | exit | echo x > h 2> e/f" =
        (⟨1, "", "/e/f: No such file or directory (os error 2)\n"⟩,
          { noteHoldingSession with machine := { noteHoldingSession.machine with tree } }) := by
  have hclosed (files : Redirects) : (openChannels noteHoldingSession.env
      noteHoldingSession.machine halfOpenCommand).1 ≠ .ok files := by
    intro hopen
    have hnone : (openChannels noteHoldingSession.env noteHoldingSession.machine
        halfOpenCommand).1.toOption = none := by rfl
    rw [hopen] at hnone
    cases hnone
  refine ⟨hclosed, ?_⟩
  obtain ⟨target, fault, tree, hrefusal, -, hreply⟩ := perform_refused hclosed
  have hline : parseLine "cd d | exit | echo x > h 2> e/f" =
      .ok ([⟨"cd", ["d"], none, none⟩, ⟨"exit", [], none, none⟩] ++ [halfOpenCommand]) := by rfl
  cases hrefusal with
  | output houtput hopen =>
    cases houtput
    have hopened : (noteHoldingSession.machine.openFile
        (noteHoldingSession.env.fromHere "h") false).1.toOption.isSome = true := by rfl
    rw [hopen] at hopened
    cases hopened
  | error houtput => cases houtput
  | @second first _ _ f m₁ houtput hfirst herror hopen =>
    cases houtput
    cases herror
    obtain ⟨hfile, -⟩ := Machine.eq_of_openFile hfirst
    obtain ⟨-, hsame, hnode⟩ := FileTree.openFile_ok hfile
    have hplace : f.place = ["h"] := by
      have hplace := FileTree.filePlace?_of_openFile (congrArg Prod.fst hfile)
      exact Option.some.inj (hplace.symm.trans (by decide +kernel))
    rw [hplace] at hsame hnode
    have hfault : fault = .notFound := by
      have hmissing : ((noteHoldingSession.machine.openFile
          (noteHoldingSession.env.fromHere "h") false).2.openFile
            (noteHoldingSession.env.fromHere "e/f") false).1 = .error .notFound := by rfl
      rw [hfirst] at hmissing
      exact Except.error.inj (hopen.symm.trans hmissing)
    refine ⟨m₁.tree, hnode, hsame, fun load => ?_⟩
    rw [hreply load _ _ hline, hfault]
    rfl

end LineShell
