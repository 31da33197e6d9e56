import LineShell.Proofs.File.Writing
import LineShell.Proofs.Pipeline.Outcome
import LineShell.Proofs.Session.Frame
/-!
    Where the shell's own notices go when a stage redirects its errors.

    The last stage of a line, on its own or not, and a builtin anywhere have their notices written to
    the file that the redirection names. The one exception is a stage that is not the last and has a
    program that was found and could not be started: its file stays empty, and the notice is on the
    shell's standard error (`perform_reporting`, `perform_unstartable_unreported`). -/

namespace LineShell

/-- What the shell itself says of a stage: the error text of a builtin, that a program could not be
    started, and of the last stage of a line also that its name is unknown. -/
def Start.notice (c : Command) (last : Bool) : Start → String
  | .refused e => e.report
  | .builtin outcome => outcome.error.getD ""
  | .unknown => if last then c.name ++ ": command not found\n" else ""
  | .unstartable fault => c.name ++ ": " ++ fault.message ++ "\n"
  | .program _ => ""

/-- What a last stage ends with that has no program to be run. -/
def Start.outcome? (c : Command) : Start → Option Outcome
  | .builtin outcome => some outcome
  | .unknown => some (unknownOutcome c)
  | .unstartable fault => some (unstartableOutcome c fault)
  | .refused _ | .program _ => none

/-- The notice has been written to an open file, at the end of what is there if the file is at its
    end, and nothing else is different. -/
structure Reported (f : OpenFile) (notice : String) (m m' : Machine) : Prop where
  written : m' = m.writeText f notice
  grown : f.AtEnd m.tree →
    m'.tree.get? f.place = (m.tree.get? f.place).map (Node.grow (Bytes.ofText notice))
  elsewhere : m.tree.SameBut f.place m'.tree
  streams : m' = { m with tree := m'.tree }

theorem Reported.writeText (f : OpenFile) (notice : String) (m : Machine) :
    Reported f notice m (m.writeText f notice) := by
  have heq := m.writeText_eq f notice
  refine ⟨rfl, fun hend => ?_, ?_, ?_⟩
  · rw [heq]
    exact FileTree.write_atEnd hend _
  · rw [heq]
    exact m.tree.write_sameBut f _
  · rw [heq]

theorem Machine.diagnostics_of_reported {f : OpenFile} {notice : String} {m m' : Machine}
    (h : Reported f notice m m') : m'.diagnostics = m.diagnostics := by rw [h.streams]

/-! ### Builtins that have something to say -/

/-- What has come of a builtin has nothing to say on the errors, or nothing else, and then the
    machine is as it was. -/
def Told (s : Session) (done : Outcome × Session) : Prop :=
  done.1.error.getD "" ≠ "" → done.1.output = none ∧ done.2.machine = s.machine

namespace Told

theorem of_none {s t : Session} {o : Outcome} (h : o.error = none) : Told s (o, t) := by
  intro hnotice
  rw [h] at hnotice
  exact absurd rfl hnotice

theorem failing (code : Int) (text : String) {s t : Session} (h : t.machine = s.machine) :
    Told s (.failing code text, t) := fun _ => ⟨rfl, h⟩

theorem changeDirectory (args : List String) (s : Session) :
    Told s (changeDirectory args s) := by
  unfold LineShell.changeDirectory
  dsimp only
  split
  · exact of_none rfl
  · split
    · split
      · exact of_none rfl
      · exact failing _ _ rfl
    · exact failing _ _ rfl

theorem loadEntries (args : List String) (file : String) (s : Session) :
    Told s (loadEntries args file s) := by
  unfold LineShell.loadEntries
  dsimp only
  split
  · split
    · exact of_none rfl
    · exact failing _ _ rfl
  · exact failing _ _ rfl

theorem storeEntries (file : String) (s : Session) : Told s (storeEntries file s) := by
  unfold LineShell.storeEntries History.store
  rcases hwrite : s.machine.writeFile (s.env.fromHere file) false (unlines s.history.entries) with
    ⟨e | _, m⟩
  · exact failing _ _ (Machine.writeFile_error hwrite)
  · exact of_none rfl

theorem flushEntries (file : String) (s : Session) : Told s (flushEntries file s) := by
  unfold LineShell.flushEntries History.flush
  rcases hwrite : s.machine.writeFile (s.env.fromHere file) true (unlines s.history.pending) with
    ⟨e | _, m⟩
  · exact failing _ _ (Machine.writeFile_error hwrite)
  · exact of_none rfl

theorem consultHistory (args : List String) (s : Session) : Told s (consultHistory args s) := by
  unfold LineShell.consultHistory
  split
  · exact failing _ _ rfl
  · exact of_none rfl
  · exact loadEntries args _ s
  · exact storeEntries _ s
  · exact flushEntries _ s

/-- No builtin says anything on the errors together with something else. -/
theorem run (b : Builtin) (args : List String) (staged : Bool) (s : Session) :
    Told s (b.run args staged s) := by
  cases b with
  | echo | pwd | exit => exact of_none rfl
  | type =>
    rw [Builtin.run, describeName]
    split
    · exact of_none rfl
    · exact of_none rfl
    · exact failing _ _ rfl
  | cd =>
    cases staged with
    | true => exact of_none rfl
    | false => exact changeDirectory args s
  | history =>
    cases staged with
    | true => exact of_none rfl
    | false => exact consultHistory args s

end Told

/-! ### Starting a stage that has something to say -/

/-- A stage that the shell has something to say of, and that could be opened, ends with that and
    nothing else, and has left the machine alone; if it is not the last it is a builtin or could not
    be started. -/
theorem startCommand_noted {load : Loader} {c : Command} {staged : Bool} {s : Session}
    (hnotice : (startCommand load c staged s).1.notice c true ≠ "") :
    ∃ o, (startCommand load c staged s).1.outcome? c = some o ∧ o.output = none ∧
      o.error.getD "" = (startCommand load c staged s).1.notice c true ∧
      (startCommand load c staged s).2.machine = s.machine := by
  rw [startCommand] at hnotice ⊢
  cases hmeaning : meaningOf s.env s.machine c.name with
  | unknown => exact ⟨_, rfl, rfl, rfl, rfl⟩
  | builtin b =>
    rw [hmeaning] at hnotice
    obtain ⟨houtput, hmachine⟩ := Told.run b c.args staged s hnotice
    exact ⟨_, rfl, houtput, rfl, hmachine⟩
  | program path =>
    rw [hmeaning] at hnotice
    dsimp only at hnotice ⊢
    cases hload : (launchOf s.env c path).load load s.machine with
    | error fault => exact ⟨_, rfl, rfl, rfl, rfl⟩
    | ok b =>
      rw [hload] at hnotice
      exact absurd rfl hnotice

/-! ### A stage that is not the last -/

theorem openChannel_atEnd {e : Environment} {m m' : Machine} {target : Option Target}
    {f : OpenFile} (h : openChannel e m target = (.ok (some f), m')) : f.AtEnd m'.tree := by
  cases target with
  | none => cases h
  | some target =>
    unfold openChannel Machine.openFile at h
    dsimp only at h
    rcases hopen : m.tree.openFile m.workDir (e.fromHere target.path) target.append with ⟨_ | f', t⟩
    · rw [hopen] at h
      cases h
    · rw [hopen] at h
      cases h
      exact FileTree.openFile_atEnd hopen

/-- The errors' target is opened last, so nothing has been written to it. -/
theorem openChannels_atEnd {e : Environment} {m m' : Machine} {c : Command} {files : Redirects}
    {f : OpenFile} (h : openChannels e m c = (.ok files, m')) (hf : files.error = some f) :
    f.AtEnd m'.tree := by
  unfold openChannels at h
  split at h
  · cases h
  · split at h
    · cases h
    · rename_i herror
      cases h
      dsimp only at hf
      rw [hf] at herror
      exact openChannel_atEnd herror

/-- What becomes of the notice of a stage that is not the last and redirects its errors to a file
    that is open on the machine `m`; the stages before it have been started in `before`. -/
structure InnerReporting (load : Loader) (c : Command) (before : Session) (m : Machine)
    (f : OpenFile) : Prop where
  fresh : f.AtEnd m.tree
  /-- It comes to the file, unless the stage has a program that could not be started. -/
  reported_iff : Reported f ((startOf load c false before).notice c false) m
      (startedBefore load [c] before).machine ↔
    ∀ fault, startOf load c false before ≠ .unstartable fault
  /-- Then the file is left alone, and the notice comes to the shell's standard error. -/
  unreported (fault : Fault) : startOf load c false before = .unstartable fault →
    (startedBefore load [c] before).machine =
      m.complain ((startOf load c false before).notice c false)
  /-- In any case it does not come to the next stage. -/
  kept (source : Source) : (startInner load c source before).1.feed = .nothing

theorem Machine.complain_diagnostics_ne {text : String} (h : text ≠ "") (m : Machine) :
    (m.complain text).diagnostics ≠ m.diagnostics := by
  intro heq
  have hnil : Bytes.ofText text = [] := List.append_right_eq_self.mp heq
  have htext := congrArg Bytes.repaired hnil
  rw [Bytes.repaired_ofText] at htext
  exact h (htext.trans (Bytes.repaired_eq_empty_iff.mpr rfl))

/-- A builtin with nothing but a notice: that is written to its file, and nothing is handed on. -/
theorem Stage.settle_noted {st : Stage} {o : Outcome} {f : OpenFile}
    (hstart : st.start = .builtin o) (hf : st.redirects.error = some f) (ho : o.output = none)
    (m : Machine) :
    st.settle m = m.writeText f (st.start.notice st.command false) ∧ st.feed = .nothing := by
  rw [hstart, settle, feed, hstart]
  dsimp only
  rw [ho, hf]
  cases st.redirects.output with
  | none => exact ⟨rfl, congrArg Feed.ofOutput ho⟩
  | some g => exact ⟨Machine.writeText_empty _ g, rfl⟩

/-- A program that could not be started: of that its file hears nothing. -/
theorem Stage.settle_unstartable {st : Stage} {fault : Fault}
    (hstart : st.start = .unstartable fault) (m : Machine) :
    st.settle m = m.complain (st.start.notice st.command false) ∧ st.feed = .nothing := by
  rw [hstart, settle, feed, hstart]
  cases st.redirects.output <;> exact ⟨rfl, rfl⟩

theorem innerReporting {load : Loader} {c : Command} {before : Session} {m : Machine}
    {files : Redirects} {f : OpenFile}
    (hopen : openChannels before.env before.machine c = (.ok files, m))
    (hf : files.error = some f) (hnotice : (startOf load c false before).notice c false ≠ "") :
    InnerReporting load c before m f := by
  have hstart : startOf load c false before =
      (startCommand load c true { before with machine := m }).1 := by
    rw [startOf, if_neg Bool.false_ne_true, hopen]
  have hstage (source : Source) := startInner_of_ok hopen load source
  rw [← hstart] at hstage
  have hmachine : (startedBefore load [c] before).machine =
      (⟨c, files, .nothing, startOf load c false before⟩ : Stage).settle m :=
    congrArg (·.2.machine) (hstage .nothing)
  have hfeed (source : Source) : (startInner load c source before).1.feed =
      (⟨c, files, source, startOf load c false before⟩ : Stage).feed :=
    congrArg (·.1.feed) (hstage source)
  have hfresh := openChannels_atEnd hopen hf
  cases hwhich : startOf load c false before with
  | refused e =>
    rw [hstart] at hwhich
    exact absurd hwhich (startCommand_ne_refused _ _ _ _ e)
  | unknown =>
    rw [hwhich] at hnotice
    exact absurd rfl hnotice
  | program b =>
    rw [hwhich] at hnotice
    exact absurd rfl hnotice
  | unstartable fault =>
    have hcomplaint := hmachine.trans (Stage.settle_unstartable hwhich m).1
    refine ⟨hfresh, ?_, fun _ _ => hcomplaint, fun source => ?_⟩
    · rw [hcomplaint]
      refine ⟨fun hreported => ?_, fun hstarted => absurd hwhich (hstarted fault)⟩
      exact absurd (Machine.diagnostics_of_reported hreported)
        (Machine.complain_diagnostics_ne hnotice m)
    · exact (hfeed source).trans (Stage.settle_unstartable hwhich m).2
  | builtin outcome =>
    have hquiet : outcome.output = none := by
      have hstarted := hstart.symm.trans hwhich
      rw [hwhich] at hnotice
      obtain ⟨o, ho, houtput, -, -⟩ := startCommand_noted (by rw [hstarted]; exact hnotice)
      rw [hstarted] at ho
      cases ho
      exact houtput
    have hwritten := hmachine.trans (Stage.settle_noted hwhich hf hquiet m).1
    have hstartable (fault : Fault) : startOf load c false before ≠ .unstartable fault := by
      intro hfault
      rw [hwhich] at hfault
      cases hfault
    refine ⟨hfresh, ?_, fun fault hfault => absurd hfault (hstartable fault), fun source => ?_⟩
    · rw [hwritten]
      exact ⟨fun _ => hstartable, fun _ => .writeText f _ m⟩
    · exact (hfeed source).trans (Stage.settle_noted hwhich hf hquiet m).2

/-! ### The last stage -/

namespace Session

/-- What is left of the errors for the reply. -/
theorem deliver_error (s : Session) (files : Redirects) (o : Outcome) :
    (s.deliver files o).1.error = if files.error = none then o.error.getD "" else "" := by
  rw [deliver]
  cases files.error with
  | none => rfl
  | some f => rfl

/-- Errors alone, if they are redirected, are written to their file. -/
theorem deliver_machine {s : Session} {files : Redirects} {f : OpenFile} {o : Outcome}
    (hf : files.error = some f) (ho : o.output = none) :
    (s.deliver files o).2.machine = s.machine.writeText f (o.error.getD "") := by
  rw [deliver, ho, hf]
  cases files.output with
  | none => rfl
  | some g =>
    change (s.machine.writeText g "").writeText f _ = _
    rw [s.machine.writeText_empty g]

theorem perform_of_parsed {line : String} {cs : List Command} {last : Command}
    (hline : parseLine line = .ok (cs ++ [last])) (load : Loader) (s : Session) :
    s.perform load line = s.performStages load (cs ++ [last]) last := by
  rw [perform, hline]
  dsimp only
  rw [List.getLast?_concat]

/-- A line whose last targets can be opened ends with what is delivered to them. -/
theorem perform_opened {load : Loader} {line : String} {s : Session} {cs : List Command}
    {last : Command} {files : Redirects} {m : Machine}
    (hline : parseLine line = .ok (cs ++ [last]))
    (hopen : openChannels s.env s.machine last = (.ok files, m)) :
    s.perform load line =
      (runStages load (cs ++ [last]) files { s with machine := m }).2.deliver files
        (runStages load (cs ++ [last]) files { s with machine := m }).1 := by
  rw [perform_of_parsed hline, performStages, hopen]

end Session

theorem runStages_concat (load : Loader) {cs : List Command} (hcs : cs ≠ []) (last : Command)
    (files : Redirects) (s : Session) :
    runStages load (cs ++ [last]) files s = runPiped load (cs ++ [last]) files s := by
  match cs, hcs with
  | [c], _ => rfl
  | c :: c' :: rest, _ => rfl

/-- A command on its own ends with its notice. -/
theorem runAlone_noted {load : Loader} {c : Command} {files : Redirects} {s : Session}
    {o : Outcome} (ho : (startCommand load c false s).1.outcome? c = some o) :
    runAlone load c files s = (o, (startCommand load c false s).2) := by
  rw [runAlone]
  rcases hstarted : startCommand load c false s with ⟨_ | _ | _ | _ | _, t⟩ <;>
    rw [hstarted] at ho <;> cases ho <;> rfl

/-- And so does the last stage of a pipeline, which leaves the machine as it finds it. -/
theorem Turn.outcome_noted {t : Turn} {o : Outcome}
    (ho : t.stage.start.outcome? t.stage.command = some o) :
    t.outcome = o ∧ t.after = t.machine := by
  rw [outcome, after, Stage.finish]
  cases hstart : t.stage.start <;> rw [hstart] at ho <;> cases ho <;> exact ⟨rfl, rfl⟩

/-! ### A line -/

theorem startStages_session (load : Loader) (files : Redirects) (first : Bool) (feed : Feed)
    (cs : List Command) (last : Command) (s : Session) :
    (startStages load files first feed (cs ++ [last]) s).2 = startedBefore load cs s := by
  induction cs generalizing first feed s with
  | nil => exact startCommand_staged load last s
  | cons c cs ih =>
    have hstep : (startStages load files first feed (c :: cs ++ [last]) s).2 =
        (startStages load files false (startInner load c (feed.source first) s).1.feed
          (cs ++ [last]) (startInner load c (feed.source first) s).2).2 := by
      cases cs <;> rfl
    rw [hstep, ih, startInner_source]
    rfl

/-- The programs of a pipeline run on the machine that starting its stages has left. -/
theorem pipelineTurns_head (load : Loader) (files : Redirects) (cs : List Command) (last : Command)
    (s : Session) (room : Nat) :
    ((pipelineTurns load files (cs ++ [last]) s room).head?.map (·.machine)) =
      some (startedBefore load cs s).machine := by
  rw [← startStages_session load files true .nothing cs last s]
  obtain ⟨earlier, t, hrun⟩ := pipelineTurns_concat load files cs last s room
  cases hturns : pipelineTurns load files (cs ++ [last]) s room with
  | nil => rw [hturns] at hrun; cases earlier <;> cases hrun
  | cons u post =>
    have hsplit := (pipelineTurns_split (hturns.trans (List.nil_append _).symm)).1
    rw [pipelineTurns, hsplit] at hturns
    exact congrArg some (turns_head hturns).2.2

/-- What becomes of the notices of the stages of a line, of which `last` is the last, where they
    redirect their errors. In `s` the targets of the last stage are open; `answer` is what the line
    ends with. -/
structure Reporting (load : Loader) (cs : List Command) (last : Command) (files : Redirects)
    (s : Session) (answer : Reply × Session) : Prop where
  inner (pre post : List Command) (c : Command) (files' : Redirects) (m : Machine)
    (f : OpenFile) : cs = pre ++ c :: post →
    let before := startedBefore load pre s
    openChannels before.env before.machine c = (.ok files', m) → files'.error = some f →
      (startOf load c false before).notice c false ≠ "" → InnerReporting load c before m f
  /-- The file of the last stage, too, has not been written to when the line is started. -/
  fresh (f : OpenFile) : files.error = some f → f.AtEnd s.machine.tree
  /-- On its own the last stage has its notice written to its file, and nothing comes to the
      reply. -/
  alone (f : OpenFile) : cs = [] → files.error = some f →
    let notice := (startCommand load last false s).1.notice last true
    answer.1.error = "" ∧ (notice ≠ "" → Reported f notice s.machine answer.2.machine)
  /-- After others, too. What starting these has written is there when the programs are run, and the
      reply never has errors of another stage than the last. -/
  piped : cs ≠ [] → ∃ room earlier t,
    pipelineTurns load files (cs ++ [last]) s room = earlier ++ [t] ∧
      (earlier ++ [t]).head?.map (·.machine) = some (startedBefore load cs s).machine ∧
      answer.1.error = (if files.error = none then t.outcome.error.getD "" else "") ∧
      ∀ f, files.error = some f →
        let notice := (startCommand load last true (startedBefore load cs s)).1.notice last true
        notice ≠ "" → Reported f notice t.machine answer.2.machine

theorem reporting_of_opened {load : Loader} {line : String} {s : Session} {cs : List Command}
    {last : Command} {files : Redirects} {m : Machine}
    (hline : parseLine line = .ok (cs ++ [last]))
    (hopen : openChannels s.env s.machine last = (.ok files, m)) :
    Reporting load cs last files { s with machine := m } (s.perform load line) := by
  rw [Session.perform_opened hline hopen]
  refine ⟨fun pre post c files' m' f _ hopened hf hnotice => innerReporting hopened hf hnotice,
    fun f hf => openChannels_atEnd hopen hf, fun f hcs hf => ?_, fun hcs => ?_⟩
  · subst hcs
    refine ⟨by rw [Session.deliver_error, hf]; rfl, fun hnotice => ?_⟩
    obtain ⟨o, ho, houtput, herror, hmachine⟩ := startCommand_noted hnotice
    have halone : runStages load ([] ++ [last]) files { s with machine := m } =
        (o, (startCommand load last false { s with machine := m }).2) := runAlone_noted ho
    rw [halone, Session.deliver_machine hf houtput, hmachine, herror]
    exact .writeText f _ m
  · rw [runStages_concat load hcs]
    obtain ⟨room, hroom⟩ := runPiped_eq_last load files (cs ++ [last]) { s with machine := m }
    obtain ⟨earlier, t, hrun⟩ :=
      pipelineTurns_concat load files cs last { s with machine := m } room
    obtain ⟨-, hpiped⟩ := hroom earlier t hrun
    obtain ⟨hearlier, rfl, -⟩ := pipelineTurns_last hrun
    have hstart := pipelineTurns_started hrun
    rw [hearlier, startOf, if_pos List.isEmpty_nil] at hstart
    refine ⟨room, earlier, t, hrun, ?_, ?_, fun f hf hnotice => ?_⟩
    · rw [← hrun, pipelineTurns_head]
    · rw [Session.deliver_error, hpiped]
    · obtain ⟨o, ho, houtput, herror, -⟩ := startCommand_noted hnotice
      rw [← hstart] at ho
      obtain ⟨houtcome, hafter⟩ := Turn.outcome_noted ho
      rw [hpiped, houtcome, Session.deliver_machine hf houtput, hafter, herror]
      exact .writeText f _ t.machine

/-- The notices of every line go where the redirections say, but for those of programs in front of
    others that could not be started. If the last targets cannot be opened, there are no notices:
    nothing is started, and the reply tells of the target. -/
theorem perform_reporting (load : Loader) {line : String} {cs : List Command} {last : Command}
    (hline : parseLine line = .ok (cs ++ [last])) (s : Session) :
    (∀ files m, openChannels s.env s.machine last = (.ok files, m) →
      Reporting load cs last files { s with machine := m } (s.perform load line)) ∧
    ∀ e m, openChannels s.env s.machine last = (.error e, m) →
      s.perform load line = (⟨redirectCode, "", e.report⟩, { s with machine := m }) := by
  refine ⟨fun files m hopen => reporting_of_opened hline hopen, fun e m hopen => ?_⟩
  rw [Session.perform_of_parsed hline, Session.performStages, hopen]

/-! ### A program that cannot be started -/

/-- A session in the root, where there is nothing but the executable file `a`. -/
def bareSession : Session :=
  ⟨⟨[], "/", false⟩, .empty, ⟨⟨[(["a"], .file 0o755 [])]⟩, .root, [], 0, [], []⟩⟩

/-- Executables that cannot be started, for want of an interpreter. -/
def unloadable : Loader := fun _ _ _ => .error .notFound

/-- Calls the executable file, with its errors redirected. -/
def brokenCommand : Command := ⟨"./a", [], none, some ⟨"e", false⟩⟩

/-- Calls a builtin. -/
def soundCommand : Command := ⟨"echo", ["x"], none, none⟩

theorem openChannels_of_toOption {e : Environment} {m : Machine} {c : Command} {files : Redirects}
    (h : (openChannels e m c).1.toOption = some files) :
    openChannels e m c = (.ok files, (openChannels e m c).2) := by
  rcases hopen : openChannels e m c with ⟨_ | files', m'⟩ <;> rw [hopen] at h <;> cases h
  rfl

/-- Behind another stage, that the program could not be started is told in its file. -/
theorem perform_unstartable_reported :
    let answer := bareSession.perform unloadable "echo x | ./a 2> e"
    answer.1.error = "" ∧ ∃ m, Reported ⟨["e"], false, 0⟩
      "./a: No such file or directory (os error 2)\n" m answer.2.machine := by
  have hline : parseLine "echo x | ./a 2> e" = .ok ([soundCommand] ++ [brokenCommand]) := by rfl
  have hopen : openChannels bareSession.env bareSession.machine brokenCommand =
      (.ok ⟨none, some ⟨["e"], false, 0⟩⟩,
        (openChannels bareSession.env bareSession.machine brokenCommand).2) :=
    openChannels_of_toOption (by decide +kernel)
  have hnotice : (startCommand unloadable brokenCommand true
      (startedBefore unloadable [soundCommand] { bareSession with machine :=
        (openChannels bareSession.env bareSession.machine brokenCommand).2 })).1.notice
          brokenCommand true = "./a: No such file or directory (os error 2)\n" := by
    decide +kernel
  obtain ⟨_, _, t, -, -, herror, hreported⟩ :=
    ((perform_reporting unloadable hline bareSession).1 _ _ hopen).piped (List.cons_ne_nil _ _)
  have hfile := hreported ⟨["e"], false, 0⟩ rfl
  dsimp only at hfile herror
  rw [hnotice] at hfile
  rw [if_neg nofun] at herror
  exact ⟨herror, t.machine, hfile (by decide)⟩

/-- In front of another stage it is not, although its errors are redirected all the same: the file
    stays empty, and the shell's standard error has the notice. -/
theorem perform_unstartable_unreported :
    let answer := bareSession.perform unloadable "./a 2> e | echo x"
    parseLine "./a 2> e | echo x" = .ok [brokenCommand, soundCommand] ∧
      answer.1 = ⟨0, "x\n", ""⟩ ∧ answer.2.machine.tree.get? ["e"] = some (.file newFileMode []) ∧
      answer.2.machine.diagnostics =
        Bytes.ofText "./a: No such file or directory (os error 2)\n" := by
  refine ⟨rfl, ?_, ?_, ?_⟩ <;> decide +kernel

end LineShell
