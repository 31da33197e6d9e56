import LineShell.Proofs.Pipeline.Alone
import LineShell.Proofs.Session.Refusal
import LineShell.Proofs.Session.Targets
/-!
    Where the texts of a builtin land.

    Wherever in a line a builtin stands, what it has to say on a redirected channel is added to the
    file that the target leads to, once and nowhere else, and the file is there even if there is
    nothing to say; what it says on any other channel goes where the stage's channels lead, to the
    next stage and the shell's standard error from an inner stage, to the reply from the last one
    (`Landed`). So lines that append to one file leave there what they have said, in their order
    (`Appending`, `perform_landed`). -/

namespace LineShell

/-! ### A builtin in a line -/

/-- The session once the targets of a command have been opened. -/
def Session.opened (s : Session) (c : Command) : Session :=
  { s with machine := (openChannels s.env s.machine c).2 }

/-- A command with the stages of its line that stand before it and after it. -/
structure Position where
  before : List Command
  command : Command
  after : List Command

namespace Position

/-- All stages of the line. -/
def stages (w : Position) : List Command := w.before ++ w.command :: w.after

/-- Whether there are other stages. -/
def staged (w : Position) : Bool := !(w.before.isEmpty && w.after.isEmpty)

/-- The session in which the command is run: the targets of the last stage are opened before the
    stages in front are started, those of any other stage after that. -/
def session (load : Loader) (s : Session) (w : Position) : Session :=
  match w.after.getLast? with
  | none => startedBefore load w.before (s.opened w.command)
  | some last => (startedBefore load w.before (s.opened last)).opened w.command

/-- What a builtin ends with there. -/
def outcome (load : Loader) (s : Session) (b : Builtin) (w : Position) : Outcome :=
  (b.run w.command.args w.staged (w.session load s)).1

/-- The places that the command's targets lead to. -/
def places (s : Session) (w : Position) : List Place :=
  (w.command.output.toList ++ w.command.error.toList).filterMap s.targetPlace?

/-- The line runs a builtin there whose targets lead to different files that may be written to, and
    nothing else in the line touches these. -/
structure Clear (load : Loader) (line : String) (s : Session) (b : Builtin) (w : Position) :
    Prop where
  parsed : parseLine line = .ok w.stages
  calls : w.command.Calls b
  /-- Of what a history can be asked for it is the listing. -/
  lists : b = .history → ∃ last, HistoryRequest.ofArgs? w.command.args = some (.list last)
  ready : w.command.Ready s
  /-- No other stage has a target that leads to one of the files. -/
  avoided (c : Command) : c ∈ w.before ++ w.after → c.Avoids s (w.places s)
  /-- And no program does anything to one of them. -/
  spared (t : Turn) : t ∈ lineTurns load line s → t.LeavesAt (w.places s)
  /-- The stages are run at all. -/
  opens (last : Command) : w.after.getLast? = some last →
    ∃ files, (openChannels s.env s.machine last).1 = .ok files

end Position

/-- The standard input of a stage to which a text is handed. -/
def Stdin.ofHanded (text : String) : Stdin :=
  if text = "" then .null else .pipe (Bytes.ofText text)

/-- Nothing has come to the shell's own streams, and only files at some places have been written
    to. -/
structure Machine.KeptBut (ps : List Place) (m m' : Machine) : Prop where
  output : m'.output = m.output
  diagnostics : m'.diagnostics = m.diagnostics
  elsewhere (q : Place) : q ∉ ps → m'.tree.get? q = m.tree.get? q

/-- What becomes of an outcome of the stage that a line ends with. -/
structure LandedLast (load : Loader) (line : String) (s : Session) (w : Position) (o : Outcome) :
    Prop where
  /-- The reply has the texts that are not redirected. -/
  reply : (s.perform load line).1 = ⟨o.code, o.left w.command .output, o.left w.command .error⟩
  /-- Nothing goes anywhere else once it is the stage's turn, and on its own a builtin has the only
      turn. -/
  streams : ∃ earlier t, lineTurns load line s = earlier ++ [t] ∧ t.stage.command = w.command ∧
    t.machine.KeptBut (w.places s) (s.perform load line).2.machine ∧
    (w.before = [] → s.machine.KeptBut (w.places s) t.machine)

/-- What becomes of an outcome of a stage in a line that ends with another one. -/
structure LandedInner (load : Loader) (line : String) (s : Session) (w : Position)
    (last : Command) (o : Outcome) : Prop where
  /-- When the stage is started, the shell's standard error receives the error text that is not
      redirected, and nothing goes anywhere else. -/
  started :
    let before := startedBefore load w.before (s.opened last)
    let after := startedBefore load [w.command] before
    (before.machine.complain (o.left w.command .error)).KeptBut (w.places s) after.machine ∧
      after.machine.diagnostics <+: (s.perform load line).2.machine.diagnostics
  /-- The next stage reads the output text that is not redirected, and in the stage's own turn
      nothing happens. -/
  handed : ∃ earlier t u later, lineTurns load line s = earlier ++ t :: u :: later ∧
    earlier.map (·.stage.command) = w.before ∧ t.stage.command = w.command ∧
    t.after = t.machine ∧ u.stdin = .ofHanded (o.left w.command .output)
  /-- The reply has what the last stage ends with and nothing else. -/
  reply : ∃ earlier t, lineTurns load line s = earlier ++ [t] ∧ t.stage.command = last ∧
    (s.perform load line).1 =
      ⟨t.outcome.code, t.outcome.left last .output, t.outcome.left last .error⟩

/-- What becomes of the outcome of a builtin in a line. -/
structure Landed (load : Loader) (line : String) (s : Session) (w : Position) (o : Outcome) :
    Prop where
  /-- The file of a redirected channel has what it held, if it is appended to, and then the text. -/
  file (channel : Channel) (target : Target) (p : Place) :
    w.command.target? channel = some target → s.targetPlace? target = some p →
      ∃ mode, (s.perform load line).2.machine.tree.get? p = some (.file mode
        ((if target.append then s.machine.tree.bytesAt p else []) ++
          Bytes.ofText (o.text channel)))
  last : w.after = [] → LandedLast load line s w o
  inner (last : Command) : w.after.getLast? = some last → LandedInner load line s w last o

variable {load : Loader} {line : String} {s : Session} {b : Builtin} {w : Position}
  {c last : Command} {cs : List Command} {files : Redirects} {m : Machine} {ps : List Place}
  {channel : Channel} {target : Target} {p : Place}

/-! ### Builtins and their places -/

theorem Session.SameView.opened (c : Command) (s : Session) : s.SameView (s.opened c) :=
  .openChannels c s

theorem Session.opened_eq (h : openChannels s.env s.machine c = (.ok files, m)) :
    s.opened c = { s with machine := m } := by
  rw [opened, h]

theorem Position.mem_places (htarget : w.command.target? channel = some target)
    (hp : s.targetPlace? target = some p) : p ∈ w.places s := by
  refine List.mem_filterMap.mpr ⟨target, ?_, hp⟩
  cases channel with
  | output => exact List.mem_append_left _ (Option.mem_toList.mpr htarget)
  | error => exact List.mem_append_right _ (Option.mem_toList.mpr htarget)

/-- The command has nothing to do with what is at any other place. -/
theorem Position.avoids_of_notMem (hp : p ∉ w.places s) : w.command.Avoids s [p] := by
  intro channel target htarget q hq hplace
  rw [List.mem_singleton.mp hq] at hplace
  exact hp (mem_places htarget hplace)

/-- On its own a builtin may move the process; of a `history` only the listing leaves the rest of
    the machine alone. -/
theorem Builtin.run_machine {args : List String} (hlists : b = .history →
    ∃ last, HistoryRequest.ofArgs? args = some (.list last)) (staged : Bool) (s : Session) :
    ∃ dir, (b.run args staged s).2.machine = { s.machine with workDir := dir } := by
  have hstays : ∃ dir, s.machine = { s.machine with workDir := dir } := ⟨s.machine.workDir, rfl⟩
  cases b with
  | echo => exact hstays
  | pwd => exact hstays
  | type => exact hstays
  | exit => cases staged <;> exact hstays
  | cd =>
    cases staged with
    | true => exact hstays
    | false => exact changeDirectory_machine args s
  | history =>
    cases staged with
    | true => exact hstays
    | false =>
      obtain ⟨last, hlast⟩ := hlists rfl
      change ∃ dir, (consultHistory args s).2.machine = _
      rw [consultHistory, hlast]
      exact hstays

theorem startOf_calls (hc : c.Calls b) (load : Loader)
    (hopen : openChannels s.env s.machine c = (.ok files, m)) :
    startOf load c false s = .builtin (b.run c.args true (s.opened c)).1 := by
  rw [startOf, if_neg Bool.false_ne_true, hopen, Session.opened_eq hopen]
  exact congrArg Prod.fst (startCommand_calls hc load true _)

/-- A builtin does nothing in its turn, and what it has left on its output is handed on. -/
theorem Turn.builtin {t : Turn} {o : Outcome} (h : t.stage.start = .builtin o) :
    t.after = t.machine ∧ t.outcome = o ∧
      t.leaves = .ofHanded (o.left t.stage.command .output) := by
  refine ⟨t.after_of_idle (by rw [h]; exact nofun), by rw [outcome, Stage.finish, h], ?_⟩
  rw [leaves, h, Outcome.left, Command.target?]
  cases t.stage.command.output with
  | some target => rfl
  | none =>
    rw [if_pos rfl, Outcome.text]
    dsimp only
    cases o.output with
    | none => exact (if_pos rfl).symm
    | some text => rfl

/-! ### Lines of several stages -/

theorem startedBefore_append (load : Loader) (cs cs' : List Command) (s : Session) :
    startedBefore load (cs ++ cs') s = startedBefore load cs' (startedBefore load cs s) :=
  List.foldl_append

theorem lineTurns_opened (load : Loader) (hline : parseLine line = .ok (cs ++ [last]))
    (hopen : openChannels s.env s.machine last = (.ok files, m)) :
    lineTurns load line s = stageTurns load (cs ++ [last]) files { s with machine := m } := by
  rw [lineTurns, hline]
  dsimp only
  rw [List.getLast?_concat]
  dsimp only
  rw [hopen]

/-- The turns of several stages are those of a pipeline, of the attempt that counts. -/
theorem stageTurns_concat (load : Loader) (hcs : cs ≠ []) (last : Command) (files : Redirects)
    (s : Session) :
    let started := startStages load files true .nothing (cs ++ [last]) s
    stageTurns load (cs ++ [last]) files s = pipelineTurns load files (cs ++ [last]) s
      (countedRoom started.1 started.2.machine widenings firstRoom) := by
  match cs, hcs with
  | [c], _ => rfl
  | c :: c' :: rest, _ => rfl

/-- And that attempt ends with what its last turn ends with. -/
theorem runStages_of_turns {earlier : List Turn} {t : Turn} (hcs : cs ≠ [])
    (hrun : stageTurns load (cs ++ [last]) files s = earlier ++ [t]) :
    runStages load (cs ++ [last]) files s = (t.outcome, { s with machine := t.after }) := by
  rw [stageTurns_concat load hcs] at hrun
  obtain ⟨hfinish, hlast⟩ := runStarted_eq_finish hrun
  have hafter : (t.stage.finish t.fed t.machine).2.2 = t.after := by
    rw [Stage.finish_machine, ← hlast]
  have hstarted := startStages_undisturbed load files true .nothing (cs ++ [last]) s
  rw [runStages_concat load hcs]
  unfold runPiped
  dsimp only
  rw [runWidening_eq_counted]
  dsimp only
  rw [hfinish, hafter, hstarted.env, hstarted.history]
  rfl

/-- A line of several stages whose last targets can be opened. -/
theorem perform_piped (load : Loader) (hline : parseLine line = .ok (cs ++ [last])) (hcs : cs ≠ [])
    (hopen : openChannels s.env s.machine last = (.ok files, m)) :
    ∃ room earlier t,
      lineTurns load line s =
        pipelineTurns load files (cs ++ [last]) { s with machine := m } room ∧
      lineTurns load line s = earlier ++ [t] ∧
      s.perform load line = { s with machine := t.after }.deliver files t.outcome := by
  have hturns := lineTurns_opened load hline hopen
  have hstages := stageTurns_concat load hcs last files { s with machine := m }
  obtain ⟨earlier, t, hrun⟩ := pipelineTurns_concat load files cs last { s with machine := m } _
  refine ⟨_, earlier, t, hturns.trans hstages, hturns.trans (hstages.trans hrun), ?_⟩
  rw [Session.perform_opened hline hopen, runStages_of_turns hcs (hstages.trans hrun)]

/-- What the stages of a line and their programs have nothing to do with is there in the end. -/
theorem pipelineTurns_carried {room : Nat} {earlier : List Turn} {t : Turn}
    (hinner : ∀ c ∈ cs, Builtin.ofName? c.name ≠ none ∨ c.Avoids s ps)
    (hlast : Builtin.ofName? last.name ≠ none ∨ files.Avoid ps)
    (hturns : ∀ t ∈ pipelineTurns load files (cs ++ [last]) s room, t.LeavesAt ps)
    (hrun : pipelineTurns load files (cs ++ [last]) s room = earlier ++ [t]) :
    (startedBefore load cs s).machine.Carried ps t.after := by
  have hharmless : ∀ st ∈ (startStages load files true .nothing (cs ++ [last]) s).1,
      st.Harmless ps := by
    refine startStages_harmless ?_ ?_ true .nothing
    · rw [List.dropLast_concat]
      exact hinner
    · rw [List.getLast?_concat]
      rintro c ⟨⟩
      exact hlast
  obtain ⟨hfinish, ht⟩ := runStarted_eq_finish hrun
  have hcarried := runStarted_carried hharmless hturns
  rw [hfinish, Stage.finish_machine, ← ht, startStages_session] at hcarried
  exact hcarried

/-! ### The last stage -/

/-- What the last stage has left, once its texts have been written to the files that are open. -/
theorem Session.deliver_readied (h : openChannels s.env s.machine c = (.ok files, m))
    (t : Session) (o : Outcome) :
    t.deliver files o = (⟨o.code, o.left c .output, o.left c .error⟩,
      { t with machine := { t.machine with
        tree := (t.machine.tree.writeIf files.output (Bytes.ofText (o.text .output))).writeIf
          files.error (Bytes.ofText (o.text .error)) } }) := by
  rw [t.deliver_eq, Outcome.left_eq h, Outcome.left_eq h]
  rfl

theorem Readied.landed {o : Outcome} {earlier : List Turn} {t : Turn} {s' : Session}
    (h : Readied w.command s files m) (hafter : w.after = [])
    (hturns : lineTurns load line s = earlier ++ [t]) (hcommand : t.stage.command = w.command)
    (hmachine : s'.machine = t.machine)
    (hperform : s.perform load line = s'.deliver files o)
    (hplaces : ∀ p ∈ w.places s, t.machine.tree.get? p = m.tree.get? p)
    (hstreams : w.before = [] → s.machine.KeptBut (w.places s) t.machine) :
    Landed load line s w o := by
  have helsewhere (q : Place) (hq : q ∉ w.places s) :
      (s.perform load line).2.machine.tree.get? q = t.machine.tree.get? q := by
    have havoid := (openChannels_carried (w.avoids_of_notMem hq)).2 files (by rw [h.opened])
    rw [hperform, ← hmachine]
    exact (s'.deliver_carried havoid o).places q List.mem_cons_self
  rw [Session.deliver_readied h.opened] at hperform
  constructor
  case file =>
    intro channel target p htarget hp
    have hsame (channel : Channel) (target : Target) (p : Place)
        (htarget : w.command.target? channel = some target)
        (hp : s.targetPlace? target = some p) :
        s'.machine.tree.get? p = m.tree.get? p := by
      rw [hmachine]
      exact hplaces p (Position.mem_places htarget hp)
    have hwritten := (h.written hsame htarget hp fun channel => Bytes.ofText (o.text channel)).2
    rw [hperform]
    exact hwritten
  case last =>
    intro _
    constructor
    case reply => rw [hperform]
    case streams =>
      refine ⟨earlier, t, hturns, hcommand, ⟨?_, ?_, helsewhere⟩, hstreams⟩
      · rw [hperform, ← hmachine]
      · rw [hperform, ← hmachine]
  case inner =>
    intro last hlast
    rw [hafter] at hlast
    cases hlast

theorem Position.Clear.landed_alone (h : w.Clear load line s b) (hbefore : w.before = [])
    (hafter : w.after = []) : Landed load line s w (w.outcome load s b) := by
  obtain ⟨files, m, hready⟩ := h.ready.exists_readied
  have hparsed : parseLine line = .ok ([] ++ [w.command]) := by
    rw [h.parsed, stages, hbefore, hafter]
  have hsession : w.session load s = { s with machine := m } := by
    rw [session, hafter, hbefore]
    exact Session.opened_eq hready.opened
  have houtcome : w.outcome load s b =
      (b.run w.command.args false { s with machine := m }).1 := by
    rw [outcome, hsession, staged, hbefore, hafter]
    rfl
  obtain ⟨dir, hmachine⟩ := Builtin.run_machine h.lists false { s with machine := m }
  have hstarted := startCommand_calls h.calls load false { s with machine := m }
  have hturns := lineTurns_opened load hparsed hready.opened
  have hperform : s.perform load line = _ := Session.perform_opened hparsed hready.opened
  rw [List.nil_append, stageTurns, hstarted] at hturns
  rw [List.nil_append, runStages, runAlone_calls h.calls, ← houtcome] at hperform
  refine hready.landed hafter (hturns.trans (List.nil_append _).symm) rfl rfl hperform
    (fun p hp => ?_) fun _ => ⟨?_, ?_, fun q hq => ?_⟩
  · exact congrArg (·.tree.get? p) hmachine
  · exact (congrArg (·.output) hmachine).trans (congrArg (·.output) hready.streams)
  · exact (congrArg (·.diagnostics) hmachine).trans (congrArg (·.diagnostics) hready.streams)
  · have hcarried := (openChannels_carried (w.avoids_of_notMem hq)).1
    rw [hready.opened] at hcarried
    exact (congrArg (·.tree.get? q) hmachine).trans (hcarried.places q List.mem_cons_self)

theorem Position.Clear.ofName?_ne_none (h : w.Clear load line s b) :
    Builtin.ofName? w.command.name ≠ none := by
  rw [h.calls]
  exact nofun

/-- Behind others, the builtin has the last turn. -/
theorem Position.Clear.turn_last {room : Nat} {earlier : List Turn} {t : Turn}
    (h : w.Clear load line s b) (hbefore : w.before ≠ []) (hafter : w.after = [])
    (hrun : pipelineTurns load files (w.before ++ [w.command]) (s.opened w.command) room =
      earlier ++ [t]) :
    t.stage.command = w.command ∧ t.stage.start = .builtin (w.outcome load s b) := by
  obtain ⟨hearlier, hcommand, -⟩ := pipelineTurns_last hrun
  have hstaged : w.staged = true := by
    rw [staged, List.isEmpty_eq_false_iff.mpr hbefore]
    rfl
  have hstart := pipelineTurns_started hrun
  rw [hearlier, hcommand, startOf, if_pos List.isEmpty_nil, startCommand_calls h.calls] at hstart
  rw [outcome, session, hafter, hstaged]
  exact ⟨hcommand, hstart⟩

theorem Position.Clear.landed_last (h : w.Clear load line s b) (hbefore : w.before ≠ [])
    (hafter : w.after = []) : Landed load line s w (w.outcome load s b) := by
  obtain ⟨files, m, hready⟩ := h.ready.exists_readied
  have hparsed : parseLine line = .ok (w.before ++ [w.command]) := by
    rw [h.parsed, stages, hafter]
  have hopened := Session.opened_eq hready.opened
  have hview : s.SameView { s with machine := m } := hopened ▸ .opened w.command s
  have havoids (c : Command) (hc : c ∈ w.before) : c.Avoids { s with machine := m } (w.places s) :=
    hview.avoids (h.avoided c (List.mem_append_left _ hc))
  obtain ⟨room, earlier, t, hpipeline, hturns, hperform⟩ :=
    perform_piped load hparsed hbefore hready.opened
  have hrun := hpipeline.symm.trans hturns
  obtain ⟨hcommand, hstart⟩ := h.turn_last hbefore hafter (hopened ▸ hrun)
  obtain ⟨hidle, hends, -⟩ := t.builtin hstart
  rw [hends] at hperform
  -- what the stages before it leave alone is what has been opened
  have hstarted := startedBefore_carried load havoids
  have hrest := pipelineTurns_carried (fun c hc => .inr (havoids c hc)) (.inl h.ofName?_ne_none)
    (fun t' ht' => h.spared t' (hpipeline ▸ ht')) hrun
  rw [hidle] at hrest
  exact hready.landed hafter hturns hcommand hidle hperform (hstarted.trans hrest).places
    fun hnil => absurd hnil hbefore

/-! ### A stage in front -/

/-- A builtin in front of others is run when it is started, and then its texts are in its files;
    what it has left for the errors comes to the shell's standard error. -/
theorem Readied.started {o : Outcome} (h : Readied c s files m) (hc : c.Calls b)
    (ho : (b.run c.args true (s.opened c)).1 = o) (load : Loader) :
    let after := startedBefore load [c] s
    after.machine = { s.machine with
      tree := after.machine.tree
      diagnostics := s.machine.diagnostics ++ Bytes.ofText (o.left c .error) } ∧
    ∀ channel target p, c.target? channel = some target → s.targetPlace? target = some p →
      ∃ mode, after.machine.tree.get? p = some (.file mode
        ((if target.append then s.machine.tree.bytesAt p else []) ++
          Bytes.ofText (o.text channel))) := by
  intro after
  have hstart : (startCommand load c true { s with machine := m }).1 = .builtin o := by
    rw [startCommand_calls hc, ← Session.opened_eq h.opened, ho]
  have hafter : after.machine = (⟨c, files, .nothing, .builtin o⟩ : Stage).settle m := by
    have hstage := congrArg (·.2.machine) (startInner_of_ok h.opened load .nothing)
    rwa [hstart] at hstage
  rw [Stage.settle_builtin rfl] at hafter
  constructor
  · rw [hafter, Outcome.left_eq h.opened, h.streams]
    rfl
  · intro channel target p htarget hp
    rw [hafter]
    exact (h.written (fun _ _ _ _ _ => rfl) htarget hp
      fun channel => Bytes.ofText (o.text channel)).1

theorem exists_turn {run : List Turn} {cs cs' : List Command}
    (h : run.map (·.stage.command) = cs ++ c :: cs') (hcs' : cs' ≠ []) :
    ∃ earlier t u later, run = earlier ++ t :: u :: later ∧
      earlier.map (·.stage.command) = cs ∧ t.stage.command = c := by
  obtain ⟨earlier, rest, rfl, hearlier, hrest⟩ := List.map_eq_append_iff.mp h
  obtain ⟨t, more, rfl, ht, hmore⟩ := List.map_eq_cons_iff.mp hrest
  cases more with
  | nil => exact absurd hmore.symm hcs'
  | cons u later => exact ⟨earlier, t, u, later, rfl, hearlier, ht⟩

namespace Position

/-- The stages in front of the last one, of which the command is not the last. -/
def front (w : Position) : List Command := w.before ++ w.command :: w.after.dropLast

/-- What holds once the builtin is started in front of the last stage. -/
structure Started (load : Loader) (s : Session) (w : Position) (last : Command) (o : Outcome)
    (before after : Session) : Prop where
  /-- The builtin is run. -/
  start : startOf load w.command false before = .builtin o
  /-- What it has left for the errors comes to the shell's standard error, and its other texts touch
      nothing but its files, -/
  machine : (before.machine.complain (o.left w.command .error)).KeptBut (w.places s) after.machine
  /-- in which they are, -/
  file (channel : Channel) (target : Target) (p : Place) : w.command.target? channel = some target →
    s.targetPlace? target = some p → ∃ mode, after.machine.tree.get? p = some (.file mode
      ((if target.append then s.machine.tree.bytesAt p else []) ++ Bytes.ofText (o.text channel)))
  /-- and are kept until all stages are started. -/
  carried : after.machine.Carried (w.places s) (startedBefore load w.front (s.opened last)).machine

theorem Clear.avoids_opened (h : w.Clear load line s b) (last : Command)
    (hc : c ∈ w.before ++ w.after) : c.Avoids (s.opened last) (w.places s) :=
  (Session.SameView.opened last s).avoids (h.avoided c hc)

/-- The targets of the last stage are opened, and are not those of the builtin. -/
theorem Clear.opened_last (h : w.Clear load line s b) (hlast : w.after.getLast? = some last) :
    parseLine line = .ok (w.front ++ [last]) ∧
      ∃ files, openChannels s.env s.machine last = (.ok files, (s.opened last).machine) ∧
        s.machine.Carried (w.places s) (s.opened last).machine ∧ files.Avoid (w.places s) := by
  obtain ⟨files, hfiles⟩ := h.opens last hlast
  have hmem : last ∈ w.after := List.mem_of_getLast? hlast
  obtain ⟨hcarried, havoid⟩ := openChannels_carried (h.avoided last (List.mem_append_right _ hmem))
  refine ⟨?_, files, ?_, hcarried, havoid files hfiles⟩
  · obtain ⟨between, hbetween⟩ := List.getLast?_eq_some_iff.mp hlast
    rw [h.parsed, stages, front, List.append_assoc, List.cons_append, hbetween,
      List.dropLast_concat]
  · rw [← hfiles]
    rfl

theorem Clear.started (h : w.Clear load line s b) (hlast : w.after.getLast? = some last) :
    let before := startedBefore load w.before (s.opened last)
    w.Started load s last (w.outcome load s b) before (startedBefore load [w.command] before) := by
  intro before
  obtain ⟨-, -, -, hopened, -⟩ := h.opened_last hlast
  have hview : s.SameView before :=
    (Session.SameView.opened last s).trans (.startedBefore load w.before _)
  have hcarried : s.machine.Carried (w.places s) before.machine :=
    hopened.trans (startedBefore_carried load fun c hc =>
      h.avoids_opened last (List.mem_append_left _ hc))
  obtain ⟨own, m, hready⟩ := (h.ready.carried hview fun channel target p htarget hp =>
    hcarried.places p (mem_places htarget hp)).exists_readied
  have hstaged : w.staged = true := by
    cases hafter : w.after with
    | nil =>
      rw [hafter] at hlast
      cases hlast
    | cons next later => rw [staged, hafter, List.isEmpty_cons, Bool.and_false]; rfl
  have houtcome : (b.run w.command.args true (before.opened w.command)).1 =
      w.outcome load s b := by
    rw [outcome, session, hlast, hstaged]
  obtain ⟨hmachine, hwritten⟩ := hready.started h.calls houtcome load
  refine ⟨?_, ⟨?_, ?_, fun q hq => ?_⟩, fun channel target p htarget hp => ?_, ?_⟩
  · rw [startOf_calls h.calls load hready.opened, houtcome]
  · exact congrArg (·.output) hmachine
  · exact congrArg (·.diagnostics) hmachine
  · have havoids := hview.avoids (w.avoids_of_notMem hq)
    exact (startInner_carried load havoids .nothing).1.places q List.mem_cons_self
  · obtain ⟨mode, hfile⟩ := hwritten channel target p htarget ((hview.targetPlace? target).trans hp)
    rw [FileTree.bytesAt_congr (hcarried.places p (mem_places htarget hp))] at hfile
    exact ⟨mode, hfile⟩
  · have hviewAfter := hview.trans (.startedBefore load [w.command] before)
    rw [front, startedBefore_append]
    exact startedBefore_carried load fun c hc => hviewAfter.avoids
      (h.avoided c (List.mem_append_right _ (List.dropLast_subset _ hc)))

/-- The stages in front of the last one are builtins or have targets of their own. -/
theorem Clear.front_harmless (h : w.Clear load line s b) (last : Command) (hc : c ∈ w.front) :
    Builtin.ofName? c.name ≠ none ∨ c.Avoids (s.opened last) (w.places s) := by
  rcases List.mem_append.mp hc with hbefore | hrest
  · exact .inr (h.avoids_opened last (List.mem_append_left _ hbefore))
  · rcases List.mem_cons.mp hrest with rfl | hafter
    · exact .inl h.ofName?_ne_none
    · exact .inr (h.avoids_opened last
        (List.mem_append_right _ (List.dropLast_subset _ hafter)))

/-- In the builtin's own turn nothing happens, and the next stage reads what it has left. -/
theorem Clear.handed (h : w.Clear load line s b) (hlast : w.after.getLast? = some last)
    (files : Redirects) (room : Nat) :
    ∃ earlier t u later,
      pipelineTurns load files (w.front ++ [last]) (s.opened last) room =
        earlier ++ t :: u :: later ∧
      earlier.map (·.stage.command) = w.before ∧ t.stage.command = w.command ∧
      t.after = t.machine ∧
      u.stdin = .ofHanded ((w.outcome load s b).left w.command .output) := by
  have hcommands := (pipelineTurns_dataFlow load files (w.front ++ [last]) (s.opened last)
    room).commands
  have hstages : w.front ++ [last] = w.before ++ w.command :: (w.after.dropLast ++ [last]) := by
    rw [front, List.append_assoc, List.cons_append]
  obtain ⟨earlier, t, u, later, hrun, hearlier, hcommand⟩ :=
    exists_turn (hcommands.trans hstages)
      (List.append_ne_nil_of_right_ne_nil _ (List.cons_ne_nil last []))
  have hstart := pipelineTurns_started hrun
  rw [hearlier, hcommand, List.isEmpty_cons, (h.started hlast).start] at hstart
  obtain ⟨hidle, -, hleaves⟩ := t.builtin hstart
  rw [hcommand] at hleaves
  exact ⟨earlier, t, u, later, hrun, hearlier, hcommand, hidle,
    (pipelineTurns_handed hrun).1.trans hleaves⟩

theorem Clear.landed_inner (h : w.Clear load line s b) (hlast : w.after.getLast? = some last) :
    Landed load line s w (w.outcome load s b) := by
  obtain ⟨hparsed, files, hopen, -, havoid⟩ := h.opened_last hlast
  have hstarted := h.started hlast
  have hfront : w.front ≠ [] := List.append_ne_nil_of_right_ne_nil _ (List.cons_ne_nil _ _)
  obtain ⟨room, earlier, t, hpipeline, hturns, hperform⟩ :=
    perform_piped load hparsed hfront hopen
  have hrun := hpipeline.symm.trans hturns
  have hrest := pipelineTurns_carried (fun c => h.front_harmless last) (.inr havoid)
    (fun t' ht' => h.spared t' (hpipeline ▸ ht')) hrun
  have hdelivered := Session.deliver_carried havoid { s with machine := t.after } t.outcome
  have hcarried := hstarted.carried.trans (hrest.trans hdelivered)
  rw [← hperform] at hcarried
  constructor
  case file =>
    intro channel target p htarget hp
    rw [hcarried.places p (mem_places htarget hp)]
    exact hstarted.file channel target p htarget hp
  case last =>
    intro hnil
    rw [hnil] at hlast
    cases hlast
  case inner =>
    intro last' hlast'
    cases hlast.symm.trans hlast'
    constructor
    case started => exact ⟨hstarted.machine, hcarried.diagnostics⟩
    case handed =>
      obtain ⟨earlier, t, u, later, hrun, hturn⟩ := h.handed hlast files room
      exact ⟨earlier, t, u, later, hpipeline.trans hrun, hturn⟩
    case reply =>
      refine ⟨earlier, t, hturns, (pipelineTurns_last hrun).2.1, ?_⟩
      rw [hperform, Session.deliver_readied hopen]

/-- Wherever the builtin stands, its texts land in their files and nowhere else. -/
theorem Clear.landed (h : w.Clear load line s b) : Landed load line s w (w.outcome load s b) := by
  cases hlast : w.after.getLast? with
  | some last => exact h.landed_inner hlast
  | none =>
    have hafter := List.getLast?_eq_none_iff.mp hlast
    rcases Decidable.em (w.before = []) with hbefore | hbefore
    · exact h.landed_alone hbefore hafter
    · exact h.landed_last hbefore hafter

end Position

/-! ### Lines that append to one file -/

/-- Since `s`, lines have been run one after the other in each of which a builtin appends to the
    file at a place, and these are the texts that it was to append; the session is `t` now. In
    between anything may have happened that leaves the file alone. -/
inductive Session.Appending (load : Loader) (p : Place) (s : Session) :
    List String → Session → Prop where
  | start : Appending load p s [] s
  | line {texts : List String} {t : Session} {line : String} {b : Builtin} {w : Position}
    {channel : Channel} {target : Target} : Appending load p s texts t →
      w.Clear load line t b → w.command.target? channel = some target → target.append = true →
        t.targetPlace? target = some p →
          Appending load p s (texts ++ [(w.outcome load t b).text channel]) (t.perform load line).2
  | between {texts : List String} {t t' : Session} : Appending load p s texts t →
    t'.machine.tree.get? p = t.machine.tree.get? p → Appending load p s texts t'

namespace Session.Appending

variable {texts : List String} {t : Session}

theorem bytesAt (h : s.Appending load p texts t) :
    t.machine.tree.bytesAt p = s.machine.tree.bytesAt p ++ texts.flatMap Bytes.ofText := by
  induction h with
  | start => exact (List.append_nil _).symm
  | @line texts t line b w channel target _ hclear htarget happend hp ih =>
    obtain ⟨mode, hfile⟩ := hclear.landed.file channel target p htarget hp
    rw [FileTree.bytesAt_of_file hfile, if_pos happend, ih, List.flatMap_append,
      List.flatMap_singleton, List.append_assoc]
  | between _ hsame ih => rw [FileTree.bytesAt_congr hsame, ih]

/-- After the first of the lines the file is there. -/
theorem exists_file (h : s.Appending load p texts t) (htexts : texts ≠ []) :
    ∃ mode content, t.machine.tree.get? p = some (.file mode content) := by
  induction h with
  | start => exact absurd rfl htexts
  | @line texts t line b w channel target _ hclear htarget _ hp _ =>
    obtain ⟨mode, hfile⟩ := hclear.landed.file channel target p htarget hp
    exact ⟨mode, _, hfile⟩
  | between _ hsame ih =>
    rw [hsame]
    exact ih htexts

end Session.Appending

/-- What a builtin has to say on a redirected channel comes to the end of what its file is to hold,
    once and nowhere else, and its other texts go where those of its stage belong, wherever in a
    line it stands. So a file that lines append to has what it held and then, in their order, the
    texts of the lines. -/
theorem perform_landed (load : Loader) :
    (∀ (line : String) (s : Session) (b : Builtin) (w : Position), w.Clear load line s b →
      Landed load line s w (w.outcome load s b)) ∧
    ∀ (p : Place) (s : Session) (texts : List String) (t : Session), s.Appending load p texts t →
      t.machine.tree.bytesAt p = s.machine.tree.bytesAt p ++ texts.flatMap Bytes.ofText ∧
        (texts ≠ [] → ∃ mode content, t.machine.tree.get? p = some (.file mode content)) :=
  ⟨fun _ _ _ _ h => h.landed, fun _ _ _ _ h => ⟨h.bytesAt, h.exists_file⟩⟩

/-- Has nothing to print, and an error to tell. -/
def strangerPosition : Position :=
  ⟨[], ⟨"type", ["zz"], some ⟨"o", false⟩, some ⟨"h", true⟩⟩, [soundCommand]⟩

/-- Has something to print. -/
def echoingPosition : Position := ⟨[], ⟨"echo", ["b"], some ⟨"h", true⟩, none⟩, []⟩

theorem leavesAt_unloadable {line : String} {s : Session} {t : Turn}
    (ht : t ∈ lineTurns unloadable line s) (ps : List Place) : t.LeavesAt ps := by
  intro b hb
  obtain ⟨l, dir, tree, hload⟩ := exists_load_of_mem_lineTurns ht hb
  cases hload

theorem strangerPosition_clear :
    strangerPosition.Clear unloadable "type zz > o 2>> h | echo x" noteHoldingSession .type where
  parsed := by rfl
  calls := by rfl
  lists := nofun
  ready := by
    refine ⟨fun channel target htarget => ?_, fun output error houtput herror => ?_⟩
    · cases channel with
      | output =>
        cases htarget
        exact ⟨["o"], by decide +kernel,
          FileTree.allows_of_none (by decide +kernel) (by decide +kernel) writeBit⟩
      | error =>
        cases htarget
        exact ⟨["h"], by decide +kernel, History.noteMachine_allows _ (by decide)⟩
    · cases houtput
      cases herror
      decide +kernel
  avoided c hc := by
    rw [List.mem_singleton.mp hc]
    intro channel target htarget
    cases channel <;> cases htarget
  spared t ht := leavesAt_unloadable ht _
  opens last hlast := by
    cases hlast
    exact ⟨.none, rfl⟩

/-- The session after the first of two lines. -/
def strangerSession : Session :=
  (noteHoldingSession.perform unloadable "type zz > o 2>> h | echo x").2

theorem echoingPosition_clear :
    echoingPosition.Clear unloadable "echo b >> h" strangerSession .echo := by
  have hthere : strangerSession.machine.tree.get? ["h"] =
      some (.file newFileMode (Bytes.ofText "oldzz: not found\n")) := by decide +kernel
  refine ⟨by rfl, by rfl, nofun, ⟨fun channel target htarget => ?_, nofun⟩, nofun,
    fun _ ht => leavesAt_unloadable ht _, nofun⟩
  cases channel with
  | output =>
    cases htarget
    exact ⟨["h"], by decide +kernel, FileTree.allows_of_file hthere (by decide)⟩
  | error => cases htarget

/-- Two lines, the first of which has another stage, add what they have to say to `h`, and the file
    of what the first has not printed is there. -/
theorem perform_landed_noted :
    strangerPosition.Clear unloadable "type zz > o 2>> h | echo x" noteHoldingSession .type ∧
      (∃ mode, strangerSession.machine.tree.get? ["o"] = some (.file mode [])) ∧
      noteHoldingSession.Appending unloadable ["h"] ["zz: not found\n", "b\n"]
        (strangerSession.perform unloadable "echo b >> h").2 ∧
      (strangerSession.perform unloadable "echo b >> h").2.machine.tree.bytesAt ["h"] =
        Bytes.ofText "oldzz: not found\nb\n" := by
  have hquiet : (strangerPosition.outcome unloadable noteHoldingSession .type).text .output =
      "" := by decide +kernel
  have htold : (strangerPosition.outcome unloadable noteHoldingSession .type).text .error =
      "zz: not found\n" := by decide +kernel
  have hprinted (t : Session) : (echoingPosition.outcome unloadable t .echo).text .output = "b\n" :=
    rfl
  have hmade : noteHoldingSession.targetPlace? ⟨"o", false⟩ = some ["o"] := by decide +kernel
  have hlanded := (perform_landed unloadable).1 _ _ _ _ strangerPosition_clear
  obtain ⟨mode, hfile⟩ := hlanded.file .output ⟨"o", false⟩ ["o"] rfl hmade
  rw [hquiet] at hfile
  have hfirst : noteHoldingSession.Appending unloadable ["h"]
      ([] ++ [(strangerPosition.outcome unloadable noteHoldingSession .type).text .error])
      strangerSession := by
    unfold strangerSession
    exact .line .start strangerPosition_clear rfl rfl (by decide +kernel)
  rw [htold, List.nil_append] at hfirst
  have hsecond : noteHoldingSession.Appending unloadable ["h"]
      (["zz: not found\n"] ++
        [(echoingPosition.outcome unloadable strangerSession .echo).text .output])
      (strangerSession.perform unloadable "echo b >> h").2 :=
    .line hfirst echoingPosition_clear rfl rfl (by decide +kernel)
  rw [hprinted] at hsecond
  refine ⟨strangerPosition_clear, ?_, hsecond, ?_⟩
  · unfold strangerSession
    exact ⟨mode, hfile⟩
  · rw [((perform_landed unloadable).2 _ _ _ _ hsecond).1]
    decide +kernel

end LineShell
