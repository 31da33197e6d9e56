import LineShell.Proofs.Pipeline.DataFlow
/-!
    What a pipeline ends with.

    The result of a pipeline is put together from what its programs have done (`children`) and from a
    place kept for the last stage, which holds a result or the number of a program (`Tally`). The
    number is that of the last stage's own program however many of the earlier stages have none, and
    whatever the earlier stages do, the result is that of the last (`runPiped_outcome`). -/

namespace LineShell

/-! ### What the last stage ends with -/

/-- All that some writes put on the error channel. -/
def errorsOf : List (Channel × Bytes) → Bytes
  | [] => []
  | (.error, bytes) :: rest => bytes ++ errorsOf rest
  | (.output, _) :: rest => errorsOf rest

/-- What the last stage of a pipeline ends with: `before` is the session that it is started in, and
    `t` its turn. -/
def lastOutcome (load : Loader) (c : Command) (files : Redirects) (before : Session) (t : Turn) :
    Outcome :=
  match meaningOf before.env before.machine c.name with
  | .builtin b => (b.run c.args true before).1
  | .unknown => ⟨127, none, some (c.name ++ ": command not found\n")⟩
  | .program path => match (launchOf before.env c path).load load before.machine with
    | .error fault => ⟨126, none, some (c.name ++ ": " ++ fault.message ++ "\n")⟩
    | .ok b =>
      let done := t.execution b
      ⟨done.status.code, none, if files.error = none ∧ errorsOf done.writes ≠ [] then
        some (Bytes.repaired (errorsOf done.writes)) else none⟩

/-! ### What is gathered while the stages have their turns -/

/-- Where the result of the last stage comes from. -/
inductive Terminal where
  /-- It is known. -/
  | done (o : Outcome)
  /-- From the program with a number; its errors, if they are captured. -/
  | process (index : Nat) (errors : Option String)

/-- What has been gathered of a pipeline. -/
structure Tally where
  /-- What the programs that were started do, in the order of their stages. -/
  children : List Execution
  /-- Where the result of the last stage comes from, once that has had its turn. -/
  terminal : Option Terminal

/-- What the stage's program does, if it has one. -/
def Turn.execution? (t : Turn) : Option Execution :=
  match t.stage.start with
  | .program b => some (t.execution b)
  | _ => none

/-- The errors of the stage's program as a text, unless they go to a file. -/
def Turn.captured (t : Turn) (done : Execution) : Option String :=
  match t.stage.redirects.error with
  | some _ => none
  | none => some (Bytes.repaired (errorsOf done.writes))

namespace Tally

/-- Nothing gathered. -/
def empty : Tally := ⟨[], none⟩

/-- One more turn. -/
def add (last : Bool) (k : Tally) (t : Turn) : Tally :=
  let conclude (o : Outcome) : Tally := if last then { k with terminal := some (.done o) } else k
  match t.stage.start with
  | .refused _ => k
  | .builtin outcome => conclude outcome
  | .unknown => conclude (unknownOutcome t.stage.command)
  | .unstartable fault => conclude (unstartableOutcome t.stage.command fault)
  | .program b =>
    { children := k.children ++ [t.execution b]
      terminal := if last then some (.process k.children.length (t.captured (t.execution b)))
        else k.terminal }

/-- All turns, of which the last one is that of the last stage. -/
def addAll : Tally → List Turn → Tally
  | k, [] => k
  | k, [t] => k.add true t
  | k, t :: u :: rest => (k.add false t).addAll (u :: rest)

/-- The result, once every program has been waited for; `none` if the number that is kept for the
    last stage is that of no program. -/
def outcome? (k : Tally) : Option Outcome :=
  let codes := k.children.map fun done => done.status.code
  match k.terminal with
  | some (.done o) => some o
  | some (.process index errors) =>
    codes[index]?.map fun code => ⟨code, none, errors.filter (· ≠ "")⟩
  | none => some .silent

end Tally

/-- The turns conclude with an outcome, which is that of the last of them. -/
structure Concluded (run : List Turn) (t : Turn) (o : Outcome) : Prop where
  /-- The place for the last stage has been filled. -/
  filled : (Tally.empty.addAll run).terminal.isSome = true
  /-- The programs that are waited for are those that were started, each once. -/
  waited : (Tally.empty.addAll run).children = run.filterMap Turn.execution?
  /-- The number that is kept for the last stage is that of its own program. -/
  own (index : Nat) (errors : Option String) :
    (Tally.empty.addAll run).terminal = some (.process index errors) →
      (Tally.empty.addAll run).children[index]? = t.execution?
  outcome : (Tally.empty.addAll run).outcome? = some o

/-! ### Errors that are captured -/

theorem Bytes.repairedChars_eq_nil_iff {bs : Bytes} : repairedChars bs = [] ↔ bs = [] := by
  cases bs with
  | nil => simp [repairedChars]
  | cons b bs =>
    rw [repairedChars]
    split <;> simp

theorem Bytes.repaired_eq_empty_iff {bs : Bytes} : repaired bs = "" ↔ bs = [] := by
  rw [repaired, String.ofList_eq_empty_iff, repairedChars_eq_nil_iff]

/-- Captured errors are a text as soon as anything was written. -/
theorem capturedText_eq (bs : Bytes) :
    capturedText bs = if bs = [] then none else some (Bytes.repaired bs) := by
  rw [capturedText, Option.filter_some]
  simp [Bytes.repaired_eq_empty_iff]

/-- A pipe receives what is written on the error channel, all of it and nothing else. -/
theorem Outflows.deliver_error_pipe {k : Outflows} {received : Bytes}
    (hk : k.error = .pipe received) (writes : List (Channel × Bytes)) (m : Machine) :
    (k.deliver writes m).1.error.held = received ++ errorsOf writes := by
  induction writes generalizing k received m with
  | nil => rw [deliver, hk, errorsOf, List.append_nil]; rfl
  | cons w writes ih =>
    rcases w with ⟨_ | _, bytes⟩ <;> rw [deliver, errorsOf]
    · have hw : (k.write .output bytes m).1.error = .pipe received := by rw [write, hk]
      exact ih hw _
    · have hw : (k.write .error bytes m).1.error = .pipe (received ++ bytes) := by
        rw [write, hk]
        rfl
      rw [ih hw, List.append_assoc]

/-- Nothing is held of what goes to a file. -/
theorem Outflows.deliver_error_file {k : Outflows} {f : OpenFile} (hk : k.error = .file f)
    (writes : List (Channel × Bytes)) (m : Machine) :
    (k.deliver writes m).1.error.held = [] := by
  induction writes generalizing k f m with
  | nil => rw [deliver, hk]; rfl
  | cons w writes ih =>
    rcases w with ⟨_ | _, bytes⟩ <;> rw [deliver]
    · have hw : (k.write .output bytes m).1.error = .file f := by rw [write, hk]
      exact ih hw _
    · have hw : (k.write .error bytes m).1.error = .file (m.writeOpen f bytes).1 := by
        rw [write, hk]
        rfl
      exact ih hw _

/-! ### The turns that come before the last -/

namespace Tally

variable {t : Turn}

/-- A turn that is not the last leaves at most a program to be waited for. -/
theorem add_inner (k : Tally) (t : Turn) :
    k.add false t = ⟨k.children ++ t.execution?.toList, k.terminal⟩ := by
  rw [add, Turn.execution?]
  cases t.stage.start <;> simp

theorem addAll_concat (k : Tally) (earlier : List Turn) (t : Turn) :
    k.addAll (earlier ++ [t]) =
      add true ⟨k.children ++ earlier.filterMap Turn.execution?, k.terminal⟩ t := by
  induction earlier generalizing k with
  | nil => rw [List.filterMap_nil, List.append_nil]; rfl
  | cons u earlier ih =>
    have hstep : k.addAll (u :: earlier ++ [t]) = (k.add false u).addAll (earlier ++ [t]) := by
      cases earlier <;> rfl
    rw [hstep, ih, add_inner]
    dsimp only
    cases hu : u.execution? <;> simp [hu]

/-- What the last turn leaves, if its stage has a program: one more program to be waited for, which
    is the one that the place for the last stage has the number of. -/
theorem add_program {b : Behaviour} (h : t.stage.start = .program b) (k : Tally) :
    k.add true t = ⟨k.children ++ [t.execution b],
      some (.process k.children.length (t.captured (t.execution b)))⟩ := by
  rw [add, h]
  rfl

/-- And if it has none: what the stage ends with. -/
theorem add_idle (hidle : ∀ b, t.stage.start ≠ .program b) (hopen : ∀ e, t.stage.start ≠ .refused e)
    (k : Tally) : k.add true t = ⟨k.children, some (.done t.outcome)⟩ := by
  cases hstart : t.stage.start with
  | refused e => exact absurd hstart (hopen e)
  | program b => exact absurd hstart (hidle b)
  | _ =>
    rw [add, Turn.outcome, Stage.finish, hstart]
    rfl

end Tally

/-! ### The last turn -/

namespace Turn

variable {t : Turn}

theorem execution?_program {b : Behaviour} (h : t.stage.start = .program b) :
    t.execution? = some (t.execution b) := by
  rw [execution?, h]

theorem execution?_idle (h : ∀ b, t.stage.start ≠ .program b) : t.execution? = none := by
  rw [execution?]
  split
  · rename_i b hb
    exact absurd hb (h b)
  · rfl

theorem captured_filter (t : Turn) (done : Execution) :
    (t.captured done).filter (· ≠ "") =
      if t.stage.redirects.error = none ∧ errorsOf done.writes ≠ [] then
        some (Bytes.repaired (errorsOf done.writes)) else none := by
  rw [captured]
  cases t.stage.redirects.error with
  | some f => rfl
  | none => simpa [capturedText] using capturedText_eq (errorsOf done.writes)

theorem run_status (t : Turn) (b : Behaviour) :
    (b.run t.stage.source t.fed t.sinks t.outlet t.machine).status = (t.execution b).status := by
  rw [execution, t.contents_stdin]
  rfl

/-- What is captured of the last stage's program are the errors that it has written, all of them. -/
theorem run_captured (ht : t = .last t.stage t.fed t.machine) (b : Behaviour) :
    capturedText (b.run t.stage.source t.fed t.sinks t.outlet t.machine).sinks.error.held =
      (t.captured (t.execution b)).filter (· ≠ "") := by
  have hsink : t.sinks.error = .ofRedirect t.stage.redirects.error (.pipe []) :=
    congrArg (·.sinks.error) ht
  rw [run_sinks, captured]
  cases herror : t.stage.redirects.error with
  | some f =>
    rw [herror] at hsink
    rw [Outflows.deliver_error_file hsink, capturedText_eq, if_pos rfl]
    rfl
  | none =>
    rw [herror] at hsink
    rw [Outflows.deliver_error_pipe hsink]
    rfl

/-- The program of the last stage ends with its own status, and with the errors that it has written
    if they are not redirected. -/
theorem outcome_program {b : Behaviour} (ht : t = .last t.stage t.fed t.machine)
    (h : t.stage.start = .program b) :
    t.outcome = ⟨(t.execution b).status.code, none,
      (t.captured (t.execution b)).filter (· ≠ "")⟩ := by
  rw [← run_captured ht, ← t.run_status, outcome, Stage.finish, h, ht]
  rfl

/-- Whatever the turns before it, with the turn of a last stage that was not refused they conclude
    with what that ends with. -/
theorem concluded (ht : t = .last t.stage t.fed t.machine)
    (hopen : ∀ e, t.stage.start ≠ .refused e) (earlier : List Turn) :
    Concluded (earlier ++ [t]) t t.outcome := by
  have hadd := Tally.addAll_concat .empty earlier t
  rw [show Tally.empty.children ++ earlier.filterMap execution? =
    earlier.filterMap execution? from List.nil_append _] at hadd
  rcases t.stage.program_or_idle with ⟨b, hb⟩ | hidle
  · rw [Tally.add_program hb] at hadd
    refine ⟨by rw [hadd]; rfl, ?_, fun index errors hterminal => ?_, ?_⟩
    · rw [hadd, List.filterMap_append, List.filterMap_cons, execution?_program hb]
      rfl
    · rw [hadd] at hterminal
      cases hterminal
      rw [hadd, execution?_program hb]
      exact List.getElem?_concat_length
    · rw [hadd, Tally.outcome?, outcome_program ht hb]
      simp
  · rw [Tally.add_idle hidle hopen] at hadd
    refine ⟨by rw [hadd]; rfl, ?_, fun index errors hterminal => ?_, by rw [hadd]; rfl⟩
    · rw [hadd, List.filterMap_append, List.filterMap_cons, execution?_idle hidle]
      simp
    · rw [hadd] at hterminal
      cases hterminal

end Turn

/-! ### A whole pipeline -/

/-- Only a target that cannot be opened makes a start refused. -/
theorem startCommand_ne_refused (load : Loader) (c : Command) (staged : Bool) (s : Session)
    (e : Failure) : (startCommand load c staged s).1 ≠ .refused e := by
  intro hrefused
  rw [startCommand] at hrefused
  cases hmeaning : meaningOf s.env s.machine c.name with
  | builtin b =>
    rw [hmeaning] at hrefused
    cases hrefused
  | unknown =>
    rw [hmeaning] at hrefused
    cases hrefused
  | program path =>
    rw [hmeaning] at hrefused
    dsimp only at hrefused
    cases hload : (launchOf s.env c path).load load s.machine <;>
      rw [hload] at hrefused <;> cases hrefused

theorem Turn.outcome_eq_lastOutcome {load : Loader} {before : Session} {t : Turn}
    (ht : t = .last t.stage t.fed t.machine)
    (hstart : t.stage.start = (startCommand load t.stage.command true before).1) :
    t.outcome = lastOutcome load t.stage.command t.stage.redirects before t := by
  rw [startCommand] at hstart
  rw [lastOutcome]
  cases hmeaning : meaningOf before.env before.machine t.stage.command.name with
  | builtin b =>
    rw [hmeaning] at hstart
    rw [outcome, Stage.finish, hstart]
  | unknown =>
    rw [hmeaning] at hstart
    rw [outcome, Stage.finish, hstart]
    rfl
  | program path =>
    rw [hmeaning] at hstart
    dsimp only at hstart ⊢
    cases hload : (launchOf before.env t.stage.command path).load load before.machine with
    | error fault =>
      rw [hload] at hstart
      rw [outcome, Stage.finish, hstart]
      rfl
    | ok b =>
      rw [hload] at hstart
      dsimp only
      rw [outcome_program ht hstart, captured_filter]

/-- Where the last stage is found: at the end of the turns, with the files that are open already. -/
theorem pipelineTurns_last {load : Loader} {files : Redirects} {cs : List Command} {c : Command}
    {s : Session} {room : Nat} {earlier : List Turn} {t : Turn}
    (hrun : pipelineTurns load files (cs ++ [c]) s room = earlier ++ [t]) :
    earlier.map (·.stage.command) = cs ∧ t.stage.command = c ∧ t.stage.redirects = files := by
  have hcommands := (pipelineTurns_dataFlow load files (cs ++ [c]) s room).commands
  rw [hrun, List.map_append] at hcommands
  obtain ⟨hearlier, hlast⟩ := List.append_inj' hcommands rfl
  refine ⟨hearlier, (List.cons.inj hlast).1, ?_⟩
  obtain ⟨feed, -, hstage⟩ := startStages_suffix (pipelineTurns_split hrun).1
  rw [← (List.cons.inj hstage).1]

theorem pipelineTurns_concat (load : Loader) (files : Redirects) (cs : List Command) (c : Command)
    (s : Session) (room : Nat) :
    ∃ earlier t, pipelineTurns load files (cs ++ [c]) s room = earlier ++ [t] := by
  have hne : pipelineTurns load files (cs ++ [c]) s room ≠ [] := by
    intro hrun
    have hcommands := (pipelineTurns_dataFlow load files (cs ++ [c]) s room).commands
    rw [hrun] at hcommands
    cases cs <;> cases hcommands
  exact ⟨_, _, (List.dropLast_concat_getLast hne).symm⟩

/-- Of the attempts at a pipeline one counts, and it ends with what its last turn ends with. -/
theorem runPiped_eq_last (load : Loader) (files : Redirects) (cs : List Command) (s : Session) :
    ∃ room, ∀ earlier t, pipelineTurns load files cs s room = earlier ++ [t] →
      t = .last t.stage t.fed t.machine ∧
        runPiped load cs files s = (t.outcome, { s with machine := t.after }) := by
  obtain ⟨room, hroom⟩ := runWidening_eq_runStarted
    (startStages load files true .nothing cs s).1
    (startStages load files true .nothing cs s).2.machine widenings firstRoom
  refine ⟨room, fun earlier t hrun => ?_⟩
  obtain ⟨hfinish, hlast⟩ := runStarted_eq_finish hrun
  have hafter : (t.stage.finish t.fed t.machine).2.2 = t.after := by
    rw [Stage.finish_machine, ← hlast]
  have hstarted := startStages_undisturbed load files true .nothing cs s
  rw [hfinish, hafter] at hroom
  refine ⟨hlast, ?_⟩
  unfold runPiped
  dsimp only
  rw [hroom, hstarted.env, hstarted.history]
  rfl

/-- A pipeline ends with exactly what its last stage ends with, in the session that the stages before
    it leave to it; and whatever turns those have, the place for the last stage is filled, the
    number in it is that of the last stage's own program, and every program is waited for. -/
theorem runPiped_outcome (load : Loader) (files : Redirects) (cs : List Command) (c : Command)
    (s : Session) :
    let before := startedBefore load cs s
    s.Undisturbed before ∧
      ∃ room earlier t, pipelineTurns load files (cs ++ [c]) s room = earlier ++ [t] ∧
        runPiped load (cs ++ [c]) files s =
          (lastOutcome load c files before t, { s with machine := t.after }) ∧
        ∀ others, Concluded (others ++ [t]) t (lastOutcome load c files before t) := by
  refine ⟨startedBefore_undisturbed load cs s, ?_⟩
  obtain ⟨room, hroom⟩ := runPiped_eq_last load files (cs ++ [c]) s
  obtain ⟨earlier, t, hrun⟩ := pipelineTurns_concat load files cs c s room
  obtain ⟨hlast, hpiped⟩ := hroom earlier t hrun
  obtain ⟨hearlier, rfl, rfl⟩ := pipelineTurns_last hrun
  have hstart := pipelineTurns_started hrun
  rw [hearlier, startOf, if_pos List.isEmpty_nil] at hstart
  have houtcome := Turn.outcome_eq_lastOutcome hlast hstart
  have hopen (e : Failure) : t.stage.start ≠ .refused e := by
    rw [hstart]
    exact startCommand_ne_refused _ _ _ _ e
  refine ⟨room, earlier, t, hrun, ?_, fun others => ?_⟩
  · rw [hpiped, houtcome]
  · rw [← houtcome]
    exact Turn.concluded hlast hopen others

end LineShell
