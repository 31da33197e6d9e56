import LineShell.Proofs.Session.Frame
import LineShell.Proofs.Pipeline.Outcome
/-!
    A command on its own, and the same command as the only stage of a pipeline.

    The two ways of running a command are written down apart from each other. They start the same
    program, which does the same on the same files (`soleExecution`); only errors that are not
    redirected go to the shell's standard error one way and come back as a text the other way
    (`Execution.leave_errors`). Builtins that only print, commands that are not found and programs
    that cannot be started make no difference at all (`runPiped_singleton`). -/

namespace LineShell

/-! ### Bytes that are a text -/

namespace Bytes

theorem exists_append_of_firstChar? {bs : Bytes} {c : Char} (h : firstChar? bs = some c) :
    ∃ rest, bs = String.utf8EncodeChar c ++ rest := by
  obtain ⟨l, hl⟩ := ByteArray.exists_of_utf8DecodeChar?_eq_some h
  have hl' : l = l.data.toList.toByteArray := by
    ext1
    simp
  rw [hl', ← List.toByteArray_append, List.toByteArray_inj] at hl
  refine ⟨l.data.toList ++ bs.drop 4, ?_⟩
  rw [← List.append_assoc, ← hl, List.take_append_drop]

theorem ofChars_of_chars? {bs : Bytes} {cs : List Char} (h : chars? bs = some cs) :
    ofChars cs = bs := by
  fun_induction chars? bs generalizing cs with
  | case1 =>
    cases h
    rfl
  | case2 b bs c hc ih =>
    obtain ⟨cs, hcs, rfl⟩ := Option.map_eq_some_iff.mp h
    obtain ⟨rest, hrest⟩ := exists_append_of_firstChar? hc
    have hdrop : (b :: bs).drop c.utf8Size = rest := by
      rw [hrest, ← String.length_utf8EncodeChar, List.drop_left]
    rw [ofChars_cons, ih hcs, hdrop, hrest]
  | case3 => cases h

/-- Bytes that are a text are not changed by repairing them. -/
theorem ofText_repaired {bs : Bytes} (h : (text? bs).isSome = true) :
    ofText (repaired bs) = bs := by
  obtain ⟨text, htext⟩ := Option.isSome_iff_exists.mp h
  obtain ⟨cs, hcs, rfl⟩ := Option.map_eq_some_iff.mp htext
  have hbs : ofText (String.ofList cs) = bs := by
    rw [ofText, String.toList_ofList]
    exact ofChars_of_chars? hcs
  rw [← hbs, repaired_ofText]

end Bytes

/-! ### Errors on the shell's channel and in a pipe -/

theorem Machine.receive_error (m : Machine) (before bytes : Bytes) :
    (m.receive .error before).receive .error bytes = m.receive .error (before ++ bytes) := by
  simp [receive]

/-- A write on the output does not depend on what the shell's standard error has received. -/
theorem Outflow.write_output (o : Outflow) (bytes : Bytes) (m : Machine) (before : Bytes) :
    o.write .output bytes (m.receive .error before) =
      ((o.write .output bytes m).1, (o.write .output bytes m).2.receive .error before) := by
  cases o <;> rfl

/-- Errors that go to the shell's channel are the only difference to errors that go into a pipe. -/
theorem Outflows.deliver_errors (o : Outflow) (received before : Bytes)
    (writes : List (Channel × Bytes)) (m : Machine) :
    (deliver ⟨o, .shell⟩ writes (m.receive .error before)).2 =
      (deliver ⟨o, .pipe received⟩ writes m).2.receive .error (before ++ errorsOf writes) := by
  induction writes generalizing o received before m with
  | nil => rw [deliver, deliver, errorsOf, List.append_nil]
  | cons w writes ih =>
    rcases w with ⟨_ | _, bytes⟩ <;> rw [deliver, deliver, errorsOf]
    · have hwrite := o.write_output bytes m before
      dsimp only [write]
      rw [hwrite]
      exact ih _ _ _ _
    · dsimp only [write, Outflow.write]
      rw [Machine.receive_error, ← List.append_assoc]
      exact ih _ _ _ _

/-! ### One program -/

/-- What the program of a command does on the shell's own input, with the command's files open. -/
def soleExecution (b : Behaviour) (files : Redirects) (m : Machine) : Execution :=
  b ⟨m.input, .file none m.inputRead, (Outflow.ofRedirect files.output .shell).outlet m,
    (Outflow.ofRedirect files.error .shell).outlet m⟩ m.tree

/-- The machine that a program leaves which has the shell's own input. -/
def Execution.leave (done : Execution) (sinks : Outflows) (m : Machine) : Machine :=
  (sinks.deliver done.writes (({ m with tree := done.tree } : Machine).readInput done.taken)).2

/-- Where the program of a command writes whose files are open: on its output and its errors, if
    the latter are not redirected, to the given place. -/
def Redirects.sinks (files : Redirects) (errors : Outflow) : Outflows :=
  ⟨.ofRedirect files.output .shell, .ofRedirect files.error errors⟩

theorem Execution.leave_redirected (done : Execution) {files : Redirects} {f : OpenFile}
    (hf : files.error = some f) (errors errors' : Outflow) (m : Machine) :
    done.leave (files.sinks errors) m = done.leave (files.sinks errors') m := by
  rw [Redirects.sinks, Redirects.sinks, hf]
  rfl

theorem Execution.leave_errors (done : Execution) {files : Redirects} (hf : files.error = none)
    (m : Machine) :
    done.leave (files.sinks .shell) m =
      (done.leave (files.sinks (.pipe [])) m).receive .error (errorsOf done.writes) := by
  let before : Machine := ({ m with tree := done.tree } : Machine).readInput done.taken
  have hdeliver :=
    Outflows.deliver_errors (.ofRedirect files.output .shell) [] [] done.writes before
  have hsame : before.receive .error [] = before := by simp [Machine.receive]
  rw [hsame, List.nil_append] at hdeliver
  rw [leave, leave, Redirects.sinks, Redirects.sinks, hf]
  exact hdeliver

/-- Into the pipe come the errors that are not redirected, all of them. -/
theorem Execution.captured (done : Execution) (files : Redirects) (m : Machine) :
    capturedText ((files.sinks (.pipe [])).deliver done.writes m).1.error.held =
      if files.error = none then capturedText (errorsOf done.writes) else none := by
  cases hred : files.error with
  | none =>
    have hpipe : (files.sinks (.pipe [])).error = .pipe [] := by rw [Redirects.sinks, hred]; rfl
    rw [Outflows.deliver_error_pipe hpipe, if_pos rfl]
    rfl
  | some f =>
    have hfile : (files.sinks (.pipe [])).error = .file f := by rw [Redirects.sinks, hred]; rfl
    rw [Outflows.deliver_error_file hfile, if_neg nofun, capturedText_eq, if_pos rfl]

/-- Whether errors that are not redirected go to the shell's channel or into a pipe is nothing that
    a program notices, so it does the same. -/
theorem Behaviour.run_sole (b : Behaviour) (files : Redirects) (errors : Outflow)
    (herrors : ∀ m, errors.outlet m = .stream) (m : Machine) :
    let done := soleExecution b files m
    let finished := b.run .inherited .none (files.sinks errors)
      ((files.sinks errors).output.outlet m) m
    finished.status = done.status ∧ finished.machine = done.leave (files.sinks errors) m ∧
      finished.sinks = ((files.sinks errors).deliver done.writes
        (({ m with tree := done.tree } : Machine).readInput done.taken)).1 := by
  have houtlet : (files.sinks errors).error.outlet m =
      (Outflow.ofRedirect files.error .shell).outlet m := by
    rw [Redirects.sinks]
    cases files.error with
    | none => exact herrors m
    | some f => rfl
  have hdone : b ⟨m.input, .file none m.inputRead, (files.sinks errors).output.outlet m,
      (files.sinks errors).error.outlet m⟩ m.tree = soleExecution b files m := by
    rw [houtlet]
    rfl
  rw [← hdone]
  exact ⟨rfl, rfl, rfl⟩

/-! ### The two ways -/

/-- The only stage of a pipeline has the shell's own input, so its program runs once. -/
theorem runPiped_one (load : Loader) (c : Command) (files : Redirects) (s : Session) :
    let st : Stage := ⟨c, files, .inherited, (startCommand load c true s).1⟩
    runPiped load [c] files s =
      ((st.finish .none s.machine).1, { s with machine := (st.finish .none s.machine).2.2 }) := by
  intro st
  have hstarted : startStages load files true .nothing [c] s = ([st], s) := by
    have hs := startCommand_staged load c s
    rw [startStages]
    dsimp only
    rw [hs]
    rfl
  have hunstarved : (st.finish .none s.machine).2.1 = false := by
    rw [Stage.finish]
    cases st.start <;> rfl
  have hrun : runWidening [st] s.machine widenings firstRoom =
      ((st.finish .none s.machine).1, (st.finish .none s.machine).2.2) := by
    rw [widenings, runWidening]
    rcases hfinish : st.finish .none s.machine with ⟨o, starved, m⟩
    rw [hfinish] at hunstarved
    cases hunstarved
    rw [runStarted, hfinish]
  rw [runPiped, hstarted]
  dsimp only
  rw [hrun]

/-- A builtin that is no stage of a longer pipeline, or one that does not act on the session. -/
theorem startCommand_calls {c : Command} {b : Builtin} (hc : c.Calls b) (load : Loader)
    (staged : Bool) (s : Session) :
    startCommand load c staged s =
      (.builtin (b.run c.args staged s).1, (b.run c.args staged s).2) := by
  have hmeaning : meaningOf s.env s.machine c.name = .builtin b := by rw [meaningOf, hc]
  rw [startCommand, hmeaning]

theorem runAlone_calls {c : Command} {b : Builtin} (hc : c.Calls b) (load : Loader)
    (files : Redirects) (s : Session) : runAlone load c files s = b.run c.args false s := by
  rw [runAlone, startCommand_calls hc]

theorem runPiped_calls {c : Command} {b : Builtin} (hc : c.Calls b) (load : Loader)
    (files : Redirects) (s : Session) :
    runPiped load [c] files s = ((b.run c.args true s).1, s) := by
  rw [runPiped_one, startCommand_calls hc]
  rfl

/-- Running the program of a command in the two ways, given what it does. -/
structure SameProgram (done : Execution) (files : Redirects) (s : Session)
    (alone piped : Outcome × Session) : Prop where
  /-- On its own: the program's code, and its writes where they go. -/
  run_alone : alone = (.ofCode done.status.code,
    { s with machine := done.leave (files.sinks .shell) s.machine })
  /-- As a stage: the same, but errors that are not redirected are kept for the outcome. -/
  run_piped : piped = (⟨done.status.code, none,
      if files.error = none then capturedText (errorsOf done.writes) else none⟩,
    { s with machine := done.leave (files.sinks (.pipe [])) s.machine })
  /-- If the errors are redirected there is no difference. -/
  redirected : files.error ≠ none → piped = alone
  /-- If they are not, the shell's standard error lacks them, and that is all. -/
  captured : files.error = none → alone.2 =
    { piped.2 with machine := piped.2.machine.receive .error (errorsOf done.writes) }
  /-- What is kept of them are the same bytes if they are a text. -/
  kept : files.error = none → (Bytes.text? (errorsOf done.writes)).isSome = true →
    Bytes.ofText (piped.1.error.getD "") = errorsOf done.writes

/-- A command on its own against the same command as the only stage of a pipeline, with its files
    open. -/
structure SameCommand (load : Loader) (c : Command) (files : Redirects) (s : Session)
    (alone piped : Outcome × Session) : Prop where
  printing (b : Builtin) : c.Calls b → b = .echo ∨ b = .type ∨ b = .pwd → piped = alone
  unknown : meaningOf s.env s.machine c.name = .unknown →
    alone = (unknownOutcome c, s) ∧ piped = alone
  unstartable (path : String) (fault : Fault) : meaningOf s.env s.machine c.name = .program path →
    (launchOf s.env c path).load load s.machine = .error fault →
      alone = (unstartableOutcome c fault, s) ∧ piped = alone
  /-- Both ways the program is loaded once, by the same launch, and does the same. -/
  started (path : String) (b : Behaviour) : meaningOf s.env s.machine c.name = .program path →
    (launchOf s.env c path).load load s.machine = .ok b →
      SameProgram (soleExecution b files s.machine) files s alone piped
  /-- Only on its own `exit` ends the shell. -/
  exit : c.Calls .exit → piped.1 = alone.1 ∧ piped.2 = s ∧
    alone.2 = { s with env := { s.env with closing := true } }
  /-- As a stage `cd` and `history` do nothing. -/
  idle : c.Calls .cd ∨ c.Calls .history → piped = (.silent, s)

theorem sameProgram_of_started {load : Loader} {c : Command} {files : Redirects} {s : Session}
    {b : Behaviour} (halone : startCommand load c false s = (.program b, s))
    (hpiped : startCommand load c true s = (.program b, s)) :
    SameProgram (soleExecution b files s.machine) files s (runAlone load c files s)
      (runPiped load [c] files s) := by
  let done := soleExecution b files s.machine
  have hrunAlone : runAlone load c files s = (.ofCode done.status.code,
      { s with machine := done.leave (files.sinks .shell) s.machine }) := by
    obtain ⟨hstatus, hmachine, -⟩ := b.run_sole files .shell (fun _ => rfl) s.machine
    rw [runAlone, halone, ← hstatus, ← hmachine]
    rfl
  have hrunPiped : runPiped load [c] files s = (⟨done.status.code, none,
      if files.error = none then capturedText (errorsOf done.writes) else none⟩,
      { s with machine := done.leave (files.sinks (.pipe [])) s.machine }) := by
    obtain ⟨hstatus, hmachine, hsinks⟩ :=
      b.run_sole files (.pipe []) (fun _ => rfl) s.machine
    have hheld := done.captured files
      (({ s.machine with tree := done.tree } : Machine).readInput done.taken)
    rw [← hsinks] at hheld
    have hstart : (startCommand load c true s).1 = .program b := by rw [hpiped]
    rw [runPiped_one, hstart, ← hstatus, ← hmachine, ← hheld]
    rfl
  refine ⟨hrunAlone, hrunPiped, fun hred => ?_, fun hred => ?_, fun hred htext => ?_⟩
  · obtain ⟨f, hf⟩ := Option.ne_none_iff_exists'.mp hred
    rw [hrunAlone, hrunPiped, done.leave_redirected hf .shell (.pipe []), if_neg hred]
    rfl
  · rw [hrunAlone, hrunPiped]
    dsimp only
    rw [done.leave_errors hred]
  · rw [hrunPiped, if_pos hred, capturedText_eq]
    by_cases hnone : errorsOf done.writes = []
    · rw [if_pos hnone, hnone]
      rfl
    · rw [if_neg hnone]
      exact Bytes.ofText_repaired htext

/-- A command that is run on its own and as the only stage of a pipeline is the same command. -/
theorem runPiped_singleton (load : Loader) (c : Command) (files : Redirects) (s : Session) :
    SameCommand load c files s (runAlone load c files s) (runPiped load [c] files s) := by
  constructor
  case printing =>
    intro b hc hb
    rw [runAlone_calls hc, runPiped_calls hc]
    rcases hb with rfl | rfl | rfl <;> rfl
  case unknown =>
    intro hmeaning
    have hstart (staged : Bool) : startCommand load c staged s = (.unknown, s) := by
      rw [startCommand, hmeaning]
    have halone : runAlone load c files s = (unknownOutcome c, s) := by rw [runAlone, hstart]
    refine ⟨halone, ?_⟩
    rw [halone, runPiped_one, hstart]
    rfl
  case unstartable =>
    intro path fault hmeaning hload
    have hstart (staged : Bool) : startCommand load c staged s = (.unstartable fault, s) := by
      rw [startCommand, hmeaning]
      dsimp only
      rw [hload]
    have halone : runAlone load c files s = (unstartableOutcome c fault, s) := by
      rw [runAlone, hstart]
    refine ⟨halone, ?_⟩
    rw [halone, runPiped_one, hstart]
    rfl
  case started =>
    intro path b hmeaning hload
    have hstart (staged : Bool) : startCommand load c staged s = (.program b, s) := by
      rw [startCommand, hmeaning]
      dsimp only
      rw [hload]
    exact sameProgram_of_started (hstart false) (hstart true)
  case exit =>
    intro hc
    rw [runAlone_calls hc, runPiped_calls hc]
    exact ⟨rfl, rfl, rfl⟩
  case idle =>
    rintro (hc | hc)
    · exact runPiped_calls hc load files s
    · exact runPiped_calls hc load files s

/-- Errors that are no text reach the shell's standard error as they are, and the outcome of a
    pipeline repaired. -/
example :
    let load : Loader := fun _ _ _ => .ok fun _ tree => ⟨[(.error, [255])], 0, tree, .exited 3⟩
    let c : Command := ⟨"./a", [], none, none⟩
    let s : Session := ⟨⟨[], "/", false⟩, .empty,
      ⟨⟨[(["a"], .file 0o755 [])]⟩, .root, [], 0, [], []⟩⟩
    (runAlone load c .none s).1 = .ofCode 3 ∧
      (runAlone load c .none s).2.machine.diagnostics = [255] ∧
      (runPiped load [c] .none s).1 = .failing 3 "\ufffd" ∧
      (runPiped load [c] .none s).2.machine.diagnostics = [] := by
  decide +kernel

end LineShell
