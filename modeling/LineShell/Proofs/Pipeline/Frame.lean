import LineShell.Session.Line
/-!
    What opening files, starting stages and running programs leave alone.

    Starting the stages of a pipeline touches files and the standard error and nothing else
    (`startStages_undisturbed`): no builtin acts on the session there. Running their programs can
    also read the standard input and write to the standard output, but the process stays in its
    directory (`runWidening_workDir`). -/

namespace LineShell

/-- Two machines that differ in their files and in their standard error only. -/
structure Machine.Undisturbed (m m' : Machine) : Prop where
  workDir : m'.workDir = m.workDir
  input : m'.input = m.input
  inputRead : m'.inputRead = m.inputRead
  output : m'.output = m.output

namespace Machine.Undisturbed

theorem refl (m : Machine) : m.Undisturbed m := ⟨rfl, rfl, rfl, rfl⟩

theorem trans {m₁ m₂ m₃ : Machine} (h : m₁.Undisturbed m₂) (h' : m₂.Undisturbed m₃) :
    m₁.Undisturbed m₃ :=
  ⟨h'.workDir.trans h.workDir, h'.input.trans h.input, h'.inputRead.trans h.inputRead,
    h'.output.trans h.output⟩

theorem openFile (m : Machine) (path : String) (append : Bool) :
    m.Undisturbed (m.openFile path append).2 := ⟨rfl, rfl, rfl, rfl⟩

theorem writeText (m : Machine) (f : OpenFile) (text : String) :
    m.Undisturbed (m.writeText f text) := ⟨rfl, rfl, rfl, rfl⟩

theorem complain (m : Machine) (text : String) : m.Undisturbed (m.complain text) :=
  ⟨rfl, rfl, rfl, rfl⟩

theorem report (m : Machine) (file : Option OpenFile) (text : String) :
    m.Undisturbed (m.report file text) := by
  cases file with
  | none => exact complain m text
  | some f => exact writeText m f text

theorem openChannel (e : Environment) (m : Machine) (target : Option Target) :
    m.Undisturbed (openChannel e m target).2 := by
  cases target with
  | none => exact refl m
  | some target =>
    have h := openFile m (e.fromHere target.path) target.append
    unfold LineShell.openChannel
    dsimp only
    split
    all_goals
      rename_i hopen
      rw [hopen] at h
      exact h

theorem openChannels (e : Environment) (m : Machine) (c : Command) :
    m.Undisturbed (openChannels e m c).2 := by
  have hout := openChannel e m c.output
  unfold LineShell.openChannels
  split
  · rename_i hopen
    rw [hopen] at hout
    exact hout
  · rename_i output m' hopen
    have herr := openChannel e m' c.error
    rw [hopen] at hout
    split
    all_goals
      rename_i hopen'
      rw [hopen'] at herr
      exact hout.trans herr

theorem settle (st : Stage) (m : Machine) : m.Undisturbed (st.settle m) := by
  rw [Stage.settle]
  cases st.start with
  | refused e => exact complain m _
  | unknown => exact refl m
  | unstartable fault => exact complain m _
  | program b => exact refl m
  | builtin outcome =>
    have herr := report m st.redirects.error (outcome.error.getD "")
    dsimp only
    cases st.redirects.output with
    | none => exact herr
    | some f => exact herr.trans (writeText _ f _)

end Machine.Undisturbed

/-- Two sessions that differ in files and in the standard error only. -/
structure Session.Undisturbed (s t : Session) : Prop where
  env : t.env = s.env
  history : t.history = s.history
  machine : s.machine.Undisturbed t.machine

namespace Session.Undisturbed

theorem refl (s : Session) : s.Undisturbed s := ⟨rfl, rfl, .refl _⟩

theorem trans {s₁ s₂ s₃ : Session} (h : s₁.Undisturbed s₂) (h' : s₂.Undisturbed s₃) :
    s₁.Undisturbed s₃ :=
  ⟨h'.env.trans h.env, h'.history.trans h.history, h.machine.trans h'.machine⟩

theorem ofMachine {s : Session} {m : Machine} (h : s.machine.Undisturbed m) :
    s.Undisturbed { s with machine := m } := ⟨rfl, rfl, h⟩

end Session.Undisturbed

/-! ### Starting stages -/

/-- As a stage of a pipeline no builtin acts on the session. -/
theorem Builtin.run_staged (b : Builtin) (args : List String) (s : Session) :
    (b.run args true s).2 = s := by
  cases b <;> rfl

/-- A builtin acts on the session that it is started in; any other command leaves it alone. -/
theorem startCommand_session (load : Loader) (c : Command) (staged : Bool) (s : Session) :
    (startCommand load c staged s).2 =
      match Builtin.ofName? c.name with
      | some b => (b.run c.args staged s).2
      | none => s := by
  rw [startCommand, meaningOf]
  cases Builtin.ofName? c.name with
  | some b => rfl
  | none =>
    dsimp only
    cases findCommand s.machine s.env.commandPath (s.env.underHome c.name) s.env.directory with
    | none => rfl
    | some path =>
      dsimp only
      cases (launchOf s.env c path).load load s.machine <;> rfl

theorem startCommand_staged (load : Loader) (c : Command) (s : Session) :
    (startCommand load c true s).2 = s := by
  rw [startCommand_session]
  cases Builtin.ofName? c.name with
  | none => rfl
  | some b => exact b.run_staged c.args s

/-- A stage whose targets cannot be opened is left alone. -/
theorem startInner_of_error {s : Session} {c : Command} {e : Failure} {m : Machine}
    (h : openChannels s.env s.machine c = (.error e, m)) (load : Loader) (source : Source) :
    startInner load c source s =
      (⟨c, .none, source, .refused e⟩, { s with machine := m.complain e.report }) := by
  rw [startInner, h]
  rfl

/-- A stage whose targets can be opened is started, whatever has become of the others. -/
theorem startInner_of_ok {s : Session} {c : Command} {redirects : Redirects} {m : Machine}
    (h : openChannels s.env s.machine c = (.ok redirects, m)) (load : Loader) (source : Source) :
    startInner load c source s =
      let stage : Stage :=
        ⟨c, redirects, source, (startCommand load c true { s with machine := m }).1⟩
      (stage, { s with machine := stage.settle m }) := by
  have hs := startCommand_staged load c { s with machine := m }
  rw [startInner, h]
  dsimp only
  rw [hs]

theorem startInner_undisturbed (load : Loader) (c : Command) (source : Source) (s : Session) :
    s.Undisturbed (startInner load c source s).2 := by
  have hopen := Machine.Undisturbed.openChannels s.env s.machine c
  rcases hc : openChannels s.env s.machine c with ⟨e | redirects, m⟩ <;> rw [hc] at hopen
  · rw [startInner_of_error hc]
    exact .ofMachine (hopen.trans (.complain m _))
  · rw [startInner_of_ok hc]
    exact .ofMachine (hopen.trans (.settle _ m))

/-- Starting the stages of a pipeline touches files and the standard error only. -/
theorem startStages_undisturbed (load : Loader) (files : Redirects) (first : Bool) (feed : Feed)
    (cs : List Command) (s : Session) :
    s.Undisturbed (startStages load files first feed cs s).2 := by
  induction cs generalizing first feed s with
  | nil => exact .refl s
  | cons c cs ih =>
    cases cs with
    | nil =>
      have hs := startCommand_staged load c s
      change s.Undisturbed (startCommand load c true s).2
      rw [hs]
      exact .refl s
    | cons c' cs =>
      exact (startInner_undisturbed load c (feed.source first) s).trans (ih false _ _)

/-! ### Running programs -/

theorem Outflow.write_workDir (channel : Channel) (bytes : Bytes) (o : Outflow) (m : Machine) :
    (o.write channel bytes m).2.workDir = m.workDir := by
  cases o with
  | shell => cases channel <;> rfl
  | file f => rfl
  | pipe written => rfl

theorem Outflows.write_workDir (channel : Channel) (bytes : Bytes) (k : Outflows) (m : Machine) :
    (k.write channel bytes m).2.workDir = m.workDir := by
  cases channel with
  | output => exact Outflow.write_workDir .output bytes k.output m
  | error => exact Outflow.write_workDir .error bytes k.error m

theorem Outflows.deliver_workDir (k : Outflows) (writes : List (Channel × Bytes)) (m : Machine) :
    (k.deliver writes m).2.workDir = m.workDir := by
  induction writes generalizing k m with
  | nil => rfl
  | cons w writes ih =>
    rw [deliver, ih]
    exact write_workDir w.1 w.2 k m

theorem Source.consume_workDir (taken : Nat) (m : Machine) (source : Source) :
    (source.consume taken m).workDir = m.workDir := by
  cases source <;> rfl

theorem Behaviour.run_workDir (b : Behaviour) (source : Source) (fed : Flow) (sinks : Outflows)
    (output : Outlet) (m : Machine) :
    (b.run source fed sinks output m).machine.workDir = m.workDir := by
  rw [run]
  exact (Outflows.deliver_workDir _ _ _).trans (Source.consume_workDir _ _ _)

theorem Stage.pass_workDir (st next : Stage) (room : Nat) (fed : Flow) (m : Machine) :
    (st.pass next room fed m).2.workDir = m.workDir := by
  rw [pass]
  cases st.start with
  | program b => exact b.run_workDir _ _ _ _ _
  | _ => rfl

theorem Stage.finish_workDir (st : Stage) (fed : Flow) (m : Machine) :
    (st.finish fed m).2.2.workDir = m.workDir := by
  rw [finish]
  cases st.start with
  | program b => exact b.run_workDir _ _ _ _ _
  | _ => rfl

theorem runStarted_workDir (room : Nat) (fed : Flow) (stages : List Stage) (m : Machine) :
    (runStarted room fed stages m).2.2.workDir = m.workDir := by
  induction stages generalizing fed m with
  | nil => rfl
  | cons st stages ih =>
    cases stages with
    | nil => exact st.finish_workDir fed m
    | cons next rest =>
      rw [runStarted, ih]
      exact st.pass_workDir next room fed m

/-- Programs do not move the process that has started them. -/
theorem runWidening_workDir (stages : List Stage) (m : Machine) (n room : Nat) :
    (runWidening stages m n room).2.workDir = m.workDir := by
  induction n generalizing room with
  | zero => exact runStarted_workDir room .none stages m
  | succ n ih =>
    have hrun := runStarted_workDir room .none stages m
    rw [runWidening]
    split
    · rename_i hsettled
      rw [hsettled] at hrun
      exact hrun
    · exact ih (widened room)

end LineShell
