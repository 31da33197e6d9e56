import LineShell.Proofs.Pipeline.Turn
/-!
    The flow of data in a pipeline.

    Every stage is started for itself (`startOf`), whatever has become of the others, and its
    program reads what the stage before it leaves and nothing else; only the first has the shell's
    own input (`runPiped_dataFlow`). -/

namespace LineShell

/-! ### Starting -/

/-- The start of a stage for itself: its targets are opened, unless it is the last, whose targets
    are open already; then its name is resolved, and it is run if it is a builtin and loaded if it
    is a program. -/
def startOf (load : Loader) (c : Command) (last : Bool) (s : Session) : Start :=
  if last then (startCommand load c true s).1
  else match openChannels s.env s.machine c with
    | (.error e, _) => .refused e
    | (.ok _, m) => (startCommand load c true { s with machine := m }).1

/-- The session once some stages, the last not among them, have been started. -/
def startedBefore (load : Loader) (cs : List Command) (s : Session) : Session :=
  cs.foldl (fun s c => (startInner load c .nothing s).2) s

theorem startedBefore_undisturbed (load : Loader) (cs : List Command) (s : Session) :
    s.Undisturbed (startedBefore load cs s) := by
  induction cs generalizing s with
  | nil => exact .refl s
  | cons c cs ih => exact (startInner_undisturbed load c .nothing s).trans (ih _)

theorem openChannel_isSome {e : Environment} {m m' : Machine} {target : Option Target}
    {file : Option OpenFile} (h : openChannel e m target = (.ok file, m')) :
    file.isSome = target.isSome := by
  cases target with
  | none => cases h; rfl
  | some target =>
    unfold openChannel at h
    dsimp only at h
    split at h <;> cases h
    rfl

/-- There is a file for the output if and only if the command redirects it. -/
theorem openChannels_output {e : Environment} {m m' : Machine} {c : Command} {files : Redirects}
    (h : openChannels e m c = (.ok files, m')) : files.output.isSome = c.output.isSome := by
  unfold openChannels at h
  split at h
  · cases h
  · rename_i output m₁ hout
    split at h <;> cases h
    exact openChannel_isSome hout

/-- Where a stage is to read from has no part in how it is started. -/
theorem startInner_source (load : Loader) (c : Command) (source : Source) (s : Session) :
    startInner load c source s =
      ({ (startInner load c .nothing s).1 with source }, (startInner load c .nothing s).2) := by
  rcases h : openChannels s.env s.machine c with ⟨e | files, m⟩
  · rw [startInner_of_error h, startInner_of_error h]
  · rw [startInner_of_ok h, startInner_of_ok h]
    rfl

theorem startInner_stage (load : Loader) (c : Command) (source : Source) (s : Session) :
    (startInner load c source s).1.command = c ∧ (startInner load c source s).1.source = source ∧
      (startInner load c source s).1.start = startOf load c false s ∧
      (startInner load c source s).1.Opened := by
  rcases h : openChannels s.env s.machine c with ⟨e | files, m⟩
  · rw [startInner_of_error h, startOf, if_neg nofun, h]
    exact ⟨rfl, rfl, rfl, .inl ⟨e, rfl⟩⟩
  · rw [startInner_of_ok h, startOf, if_neg nofun, h]
    exact ⟨rfl, rfl, rfl, .inr (openChannels_output h)⟩

/-! ### The stages in their order -/

theorem startStages_commands (load : Loader) (files : Redirects) (first : Bool) (feed : Feed)
    (cs : List Command) (s : Session) :
    (startStages load files first feed cs s).1.map (·.command) = cs := by
  induction cs generalizing first feed s with
  | nil => rfl
  | cons c cs ih =>
    cases cs with
    | nil => rfl
    | cons c' cs =>
      have hc := (startInner_stage load c (feed.source first) s).1
      change (startInner load c (feed.source first) s).1.command :: _ = _
      rw [hc, ih]

theorem startStages_cons_cons (load : Loader) (files : Redirects) (first : Bool) (feed : Feed)
    (c c' : Command) (cs : List Command) (s : Session) :
    (startStages load files first feed (c :: c' :: cs) s).1 =
      (startInner load c (feed.source first) s).1 ::
        (startStages load files false (startInner load c (feed.source first) s).1.feed (c' :: cs)
          (startedBefore load [c] s)).1 := by
  have hs : (startInner load c (feed.source first) s).2 = startedBefore load [c] s := by
    rw [startInner_source]
    rfl
  rw [← hs]
  rfl

/-- The first stage: how it is started, and where it reads. -/
theorem startStages_head {load : Loader} {files : Redirects} {first : Bool} {feed : Feed}
    {c : Command} {cs : List Command} {s : Session} {st : Stage} {post : List Stage}
    (h : (startStages load files first feed (c :: cs) s).1 = st :: post) :
    st.command = c ∧ st.source = feed.source first ∧
      st.start = startOf load c cs.isEmpty s ∧ (cs ≠ [] → st.Opened) := by
  cases cs with
  | nil =>
    rw [← (List.cons.inj h).1]
    exact ⟨rfl, rfl, (if_pos rfl).symm, absurd rfl⟩
  | cons c' cs =>
    rw [startStages_cons_cons] at h
    obtain ⟨hcommand, hsource, hstart, hopened⟩ := startInner_stage load c (feed.source first) s
    rw [← (List.cons.inj h).1]
    exact ⟨hcommand, hsource, hstart, fun _ => hopened⟩

/-- From any stage on, the stages are started as those of a shorter pipeline, in the session that
    the ones before them have been started in. -/
theorem startStages_suffix {load : Loader} {files : Redirects} {first : Bool} {feed : Feed}
    {cs : List Command} {s : Session} {pre post : List Stage} {st : Stage}
    (h : (startStages load files first feed cs s).1 = pre ++ st :: post) :
    ∃ feed', (pre = [] → feed' = feed) ∧
      (startStages load files (first && pre.isEmpty) feed' (st.command :: post.map (·.command))
        (startedBefore load (pre.map (·.command)) s)).1 = st :: post := by
  induction pre generalizing first feed cs s with
  | nil =>
    have hcommands := startStages_commands load files first feed cs s
    rw [h] at hcommands
    refine ⟨feed, fun _ => rfl, ?_⟩
    rw [List.isEmpty_nil, Bool.and_true, ← List.map_cons, ← List.nil_append (st :: post),
      hcommands]
    exact h
  | cons st' pre ih =>
    match cs, h with
    | [_], h => cases pre <;> cases (List.cons.inj h).2
    | c :: c' :: cs, h =>
      have hcommand := (startStages_head h).1
      rw [startStages_cons_cons] at h
      obtain ⟨feed', -, hrest⟩ := ih (List.cons.inj h).2
      refine ⟨feed', nofun, ?_⟩
      rw [List.map_cons, hcommand, List.isEmpty_cons, Bool.and_false]
      exact hrest

/-! ### A whole pipeline -/

/-- The turns of a pipeline that is run with so much room in its pipes. -/
def pipelineTurns (load : Loader) (files : Redirects) (cs : List Command) (s : Session)
    (room : Nat) : List Turn :=
  turns room .none (startStages load files true .nothing cs s).1
    (startStages load files true .nothing cs s).2.machine

section

variable {load : Loader} {files : Redirects} {cs : List Command} {s : Session} {room : Nat}
  {pre post : List Turn} {t u : Turn}

/-- A turn is that of a stage of the pipeline, and what follows is the run of the other stages. -/
theorem pipelineTurns_split (hrun : pipelineTurns load files cs s room = pre ++ t :: post) :
    (startStages load files true .nothing cs s).1 =
        pre.map (·.stage) ++ t.stage :: post.map (·.stage) ∧
      turns room t.fed (t.stage :: post.map (·.stage)) t.machine = t :: post := by
  unfold pipelineTurns at hrun
  refine ⟨?_, turns_suffix hrun⟩
  have hstages := turns_stages room .none (startStages load files true .nothing cs s).1
    (startStages load files true .nothing cs s).2.machine
  rw [hrun] at hstages
  simpa using hstages.symm

theorem pipelineTurns_started (hrun : pipelineTurns load files cs s room = pre ++ t :: post) :
    t.stage.start = startOf load t.stage.command post.isEmpty
      (startedBefore load (pre.map (·.stage.command)) s) := by
  obtain ⟨hstages, -⟩ := pipelineTurns_split hrun
  obtain ⟨feed, -, hrest⟩ := startStages_suffix hstages
  obtain ⟨-, -, hstart, -⟩ := startStages_head hrest
  simpa [Function.comp_def] using hstart

theorem pipelineTurns_first (hrun : pipelineTurns load files cs s room = t :: post) :
    t.stdin = .shell ∧ s.machine.Undisturbed t.machine := by
  have hsplit := pipelineTurns_split (hrun.trans (List.nil_append _).symm)
  obtain ⟨feed, hfeed, hrest⟩ := startStages_suffix hsplit.1
  constructor
  · have hsource := (startStages_head hrest).2.1
    rw [hfeed rfl] at hsource
    rw [Turn.stdin, hsource]
    rfl
  · have hstarted := startStages_undisturbed load files true .nothing cs s
    rw [pipelineTurns, hsplit.1] at hrun
    rw [(turns_head hrun).2.2]
    exact hstarted.machine

/-- A stage that is not the last has the files that its command asks for, and the next one reads
    what it hands on. -/
theorem pipelineTurns_source (hrun : pipelineTurns load files cs s room = pre ++ t :: u :: post) :
    t.stage.Opened ∧ u.stage.source = t.stage.feed.source false := by
  obtain ⟨feed, -, hrest⟩ := startStages_suffix (pipelineTurns_split hrun).1
  refine ⟨(startStages_head hrest).2.2.2 nofun, ?_⟩
  rw [List.map_cons, List.map_cons, startStages_cons_cons] at hrest
  obtain ⟨hhead, htail⟩ := List.cons.inj hrest
  rw [hhead] at htail
  exact (startStages_head htail).2.1

theorem pipelineTurns_handed (hrun : pipelineTurns load files cs s room = pre ++ t :: u :: post) :
    u.stdin = t.leaves ∧ u.stdin ≠ .shell ∧ u.machine = t.after := by
  obtain ⟨hopened, hsource⟩ := pipelineTurns_source hrun
  obtain ⟨ht, hfed, hmachine⟩ := turns_cons_cons (pipelineTurns_split hrun).2
  have hstdin := Turn.stdin_eq_leaves hopened hsource ht hfed
  refine ⟨hstdin, ?_, ?_⟩
  · rw [hstdin]
    exact t.leaves_ne_shell
  · rw [hmachine, Stage.pass_machine, ← ht]

end

/-- How data flows through the turns of a pipeline. -/
structure DataFlow (load : Loader) (cs : List Command) (s : Session) (room : Nat)
    (run : List Turn) : Prop where
  /-- No stage is left out. -/
  commands : run.map (·.stage.command) = cs
  /-- A stage is started for itself, in a session in which the ones before it have touched files and
      the standard error only. -/
  started (pre post : List Turn) (t : Turn) : run = pre ++ t :: post →
    let before := startedBefore load (pre.map (·.stage.command)) s
    s.Undisturbed before ∧ t.stage.start = startOf load t.stage.command post.isEmpty before
  /-- The first stage has the shell's own input, of which nothing has been read. -/
  first (post : List Turn) (t : Turn) : run = t :: post →
    t.stdin = .shell ∧ s.machine.Undisturbed t.machine
  /-- Every other stage has what the one before it leaves, on the machine after that, and never the
      shell's own input. -/
  handed (pre post : List Turn) (t u : Turn) : run = pre ++ t :: u :: post →
    u.stdin = t.leaves ∧ u.stdin ≠ .shell ∧ u.machine = t.after
  /-- What comes down the pipe to a stage that does not read it has no part in what follows. -/
  cut (pre post : List Turn) (t : Turn) : run = pre ++ t :: post →
    t.stage.readsPrevious = false → ∀ fed,
      turns room fed (t.stage :: post.map (·.stage)) t.machine = { t with fed } :: post

theorem pipelineTurns_dataFlow (load : Loader) (files : Redirects) (cs : List Command)
    (s : Session) (room : Nat) : DataFlow load cs s room (pipelineTurns load files cs s room) where
  commands := by
    have hcommands := startStages_commands load files true .nothing cs s
    have hstages := turns_stages room .none (startStages load files true .nothing cs s).1
      (startStages load files true .nothing cs s).2.machine
    rw [← hstages, List.map_map] at hcommands
    exact hcommands
  started _ _ _ hrun := ⟨startedBefore_undisturbed load _ s, pipelineTurns_started hrun⟩
  first _ _ hrun := pipelineTurns_first hrun
  handed _ _ _ _ hrun := pipelineTurns_handed hrun
  cut _ _ _ hrun hunread := turns_of_unread (pipelineTurns_split hrun).2 hunread

/-- Data flows through a pipeline as it is to, with whatever room in its pipes, and the pipeline
    ends with what the last of its turns ends with. -/
theorem runPiped_dataFlow (load : Loader) (files : Redirects) (cs : List Command) (s : Session) :
    (∀ room, DataFlow load cs s room (pipelineTurns load files cs s room)) ∧
      ∃ room, ∀ pre t, pipelineTurns load files cs s room = pre ++ [t] →
        runPiped load cs files s = (t.outcome, { s with machine := t.after }) := by
  refine ⟨pipelineTurns_dataFlow load files cs s, ?_⟩
  have hstarted := startStages_undisturbed load files true .nothing cs s
  obtain ⟨room, hroom⟩ := runWidening_eq_runStarted
    (startStages load files true .nothing cs s).1
    (startStages load files true .nothing cs s).2.machine widenings firstRoom
  refine ⟨room, fun pre t hrun => ?_⟩
  obtain ⟨hfinish, hlast⟩ := runStarted_eq_finish hrun
  have hafter : (t.stage.finish t.fed t.machine).2.2 = t.after := by
    rw [Stage.finish_machine, ← hlast]
  rw [hfinish, hafter] at hroom
  unfold runPiped
  dsimp only
  rw [hroom, hstarted.env, hstarted.history]
  rfl

/-- What a builtin prints comes to the next stage, whether or not that reads it. -/
example (load : Loader) (s : Session) :
    (pipelineTurns load .none [⟨"echo", ["a"], none, none⟩, ⟨"exit", [], none, none⟩] s 0).map
      Turn.stdin = [.shell, .pipe [97, 10]] := by
  rfl

end LineShell
