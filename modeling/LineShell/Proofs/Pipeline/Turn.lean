import LineShell.Proofs.Pipeline.Frame
/-!
    The turns of the stages of a running pipeline.

    A turn is a stage together with what it finds when it is its turn: the machine, and what has
    come down the pipe to it. `Turn.execution` is what the stage's program does there, on the
    standard input `Turn.stdin`; `Turn.leaves` says what the stage is to leave to the one after it.
    `turns` lists the turns of `runStarted`. -/

namespace LineShell

/-- What a program is given as its standard input. -/
inductive Stdin where
  /-- The shell's own. -/
  | shell
  | null
  /-- A pipe that carries these bytes. -/
  | pipe (bytes : Bytes)
  deriving DecidableEq, Repr

/-- What there is to read on a standard input, and what it is read from. -/
def Stdin.contents (m : Machine) : Stdin → Bytes × Inlet
  | .shell => (m.input, .file none m.inputRead)
  | .null => ([], .stream)
  | .pipe bytes => (bytes, .stream)

/-- All that some writes put on the output channel. -/
def outputOf : List (Channel × Bytes) → Bytes
  | [] => []
  | (.output, bytes) :: rest => bytes ++ outputOf rest
  | (.error, _) :: rest => outputOf rest

/-- A stage, the flow and the machine that it finds, and where its program's output and errors
    go. -/
structure Turn where
  stage : Stage
  fed : Flow
  machine : Machine
  sinks : Outflows
  outlet : Outlet

namespace Turn

/-- The turn of a stage that is not the last. -/
def inner (st next : Stage) (room : Nat) (fed : Flow) (m : Machine) : Turn :=
  let sinks : Outflows :=
    ⟨.ofRedirect st.redirects.output (.pipe []), .ofRedirect st.redirects.error .shell⟩
  { stage := st, fed, machine := m, sinks
    outlet := match st.redirects.output with
      | some _ => sinks.output.outlet m
      | none => .pipe (if next.readsPrevious then room else 0) }

/-- The turn of the last stage. -/
def last (st : Stage) (fed : Flow) (m : Machine) : Turn :=
  let sinks : Outflows :=
    ⟨.ofRedirect st.redirects.output .shell, .ofRedirect st.redirects.error (.pipe [])⟩
  { stage := st, fed, machine := m, sinks, outlet := sinks.output.outlet m }

/-- The standard input of the stage's program. -/
def stdin (t : Turn) : Stdin :=
  match t.stage.source with
  | .inherited => .shell
  | .nothing => .null
  | .text text => .pipe (Bytes.ofText text)
  | .previous => .pipe t.fed.bytes

/-- What a program does when it is run as the stage's. -/
def execution (t : Turn) (b : Behaviour) : Execution :=
  b ⟨(t.stdin.contents t.machine).1, (t.stdin.contents t.machine).2, t.outlet,
    t.sinks.error.outlet t.machine⟩ t.machine.tree

/-- The machine after the stage's program, if it has one. -/
def after (t : Turn) : Machine :=
  match t.stage.start with
  | .program b =>
    let done := t.execution b
    (t.sinks.deliver done.writes
      (t.stage.source.consume done.taken { t.machine with tree := done.tree })).2
  | _ => t.machine

/-- What the stage leaves to the next one: what it has put out, if its output is not redirected and
    it is a builtin that has printed something or a program. -/
def leaves (t : Turn) : Stdin :=
  match t.stage.command.output, t.stage.start with
  | none, .builtin outcome =>
    match outcome.output with
    | some text => if text = "" then .null else .pipe (Bytes.ofText text)
    | none => .null
  | none, .program b => .pipe (outputOf (t.execution b).writes)
  | _, _ => .null

/-- What the stage ends with, if it is the last. -/
def outcome (t : Turn) : Outcome := (t.stage.finish t.fed t.machine).1

theorem contents_stdin (t : Turn) :
    t.stdin.contents t.machine = t.stage.source.contents t.fed t.machine := by
  rw [stdin]
  cases t.stage.source <;> rfl

theorem after_of_idle {t : Turn} (h : ∀ b, t.stage.start ≠ .program b) : t.after = t.machine := by
  rw [after]
  split
  · rename_i b hb
    exact absurd hb (h b)
  · rfl

theorem run_machine {t : Turn} {b : Behaviour} (h : t.stage.start = .program b) :
    (b.run t.stage.source t.fed t.sinks t.outlet t.machine).machine = t.after := by
  rw [after, h]
  dsimp only
  rw [execution, t.contents_stdin]
  rfl

theorem run_sinks (t : Turn) (b : Behaviour) :
    (b.run t.stage.source t.fed t.sinks t.outlet t.machine).sinks =
      (t.sinks.deliver (t.execution b).writes (t.stage.source.consume (t.execution b).taken
        { t.machine with tree := (t.execution b).tree })).1 := by
  rw [execution, t.contents_stdin]
  rfl

end Turn

/-! ### What a pipe receives -/

/-- A pipe receives what is written on the output, all of it and nothing else. -/
theorem Outflows.deliver_pipe {k : Outflows} {received : Bytes} (hk : k.output = .pipe received)
    (writes : List (Channel × Bytes)) (m : Machine) :
    (k.deliver writes m).1.output = .pipe (received ++ outputOf writes) := by
  induction writes generalizing k received m with
  | nil => rw [deliver, hk, outputOf, List.append_nil]
  | cons w writes ih =>
    rcases w with ⟨_ | _, bytes⟩ <;> rw [deliver, outputOf]
    · have hw : (k.write .output bytes m).1.output = .pipe (received ++ bytes) := by
        rw [write, hk]
        rfl
      rw [ih hw, List.append_assoc]
    · have hw : (k.write .error bytes m).1.output = .pipe received := by
        rw [write, hk]
      rw [ih hw]

namespace Stage

/-- A stage has a program to be run, or it is idle when it is its turn. -/
theorem program_or_idle (st : Stage) :
    (∃ b, st.start = .program b) ∨ ∀ b, st.start ≠ .program b := by
  cases hstart : st.start with
  | program b => exact .inl ⟨b, rfl⟩
  | _ =>
    refine .inr fun b hb => ?_
    cases hb

theorem pass_of_idle {st : Stage} (h : ∀ b, st.start ≠ .program b) (next : Stage) (room : Nat)
    (fed : Flow) (m : Machine) : st.pass next room fed m = (.none, m) := by
  rw [pass]
  split
  · rename_i b hb
    exact absurd hb (h b)
  · rfl

theorem finish_of_idle {st : Stage} (h : ∀ b, st.start ≠ .program b) (fed : Flow) (m : Machine) :
    (st.finish fed m).2.2 = m := by
  rw [finish]
  split
  · rfl
  · rfl
  · rfl
  · rfl
  · rename_i b hb
    exact absurd hb (h b)

/-- The turn of a stage that is not the last does to the machine what its program does. -/
theorem pass_machine (st next : Stage) (room : Nat) (fed : Flow) (m : Machine) :
    (st.pass next room fed m).2 = (Turn.inner st next room fed m).after := by
  rcases st.program_or_idle with ⟨b, h⟩ | hidle
  · rw [← Turn.run_machine (t := .inner st next room fed m) h, pass, h]
    rfl
  · rw [pass_of_idle hidle, Turn.after_of_idle hidle]
    rfl

/-- And so does the turn of the last. -/
theorem finish_machine (st : Stage) (fed : Flow) (m : Machine) :
    (st.finish fed m).2.2 = (Turn.last st fed m).after := by
  rcases st.program_or_idle with ⟨b, h⟩ | hidle
  · rw [← Turn.run_machine (t := .last st fed m) h, finish, h]
    rfl
  · rw [finish_of_idle hidle, Turn.after_of_idle hidle]
    rfl

/-- A program that is not redirected puts into the pipe what it writes on its output. -/
theorem pass_bytes {st : Stage} {b : Behaviour} (h : st.start = .program b)
    (hred : st.redirects.output = none) (next : Stage) (room : Nat) (fed : Flow) (m : Machine) :
    (st.pass next room fed m).1.bytes =
      outputOf ((Turn.inner st next room fed m).execution b).writes := by
  have hpipe : (Turn.inner st next room fed m).sinks.output = .pipe [] := by
    change Outflow.ofRedirect st.redirects.output (.pipe []) = .pipe []
    rw [hred]
    rfl
  have hrun := Turn.run_sinks (.inner st next room fed m) b
  have hheld := congrArg (·.output.held) hrun
  dsimp only at hheld
  rw [Outflows.deliver_pipe hpipe] at hheld
  rw [pass, h]
  exact hheld

end Stage

/-! ### What the next stage finds -/

/-- The stage has the files that its command asks for, if they could be opened. -/
def Stage.Opened (st : Stage) : Prop :=
  (∃ e, st.start = .refused e) ∨ st.redirects.output.isSome = st.command.output.isSome

namespace Stage

theorem feed_of_redirected {st : Stage} {f : OpenFile} (h : st.redirects.output = some f) :
    st.feed = .nothing := by
  rw [feed, h]

theorem feed_of_silent {st : Stage} (hbuiltin : ∀ outcome, st.start ≠ .builtin outcome)
    (hprogram : ∀ b, st.start ≠ .program b) : st.feed = .nothing := by
  rw [feed]
  split
  · rename_i outcome _ h
    exact absurd h (hbuiltin outcome)
  · rename_i b _ h
    exact absurd h (hprogram b)
  · rfl

theorem Opened.redirected {st : Stage} (h : st.Opened) {target : Target}
    (hout : st.command.output = some target) : st.feed = .nothing := by
  rcases h with ⟨e, he⟩ | hsome
  · exact feed_of_silent (by rw [he]; exact nofun) (by rw [he]; exact nofun)
  · rw [hout] at hsome
    obtain ⟨f, hf⟩ := Option.isSome_iff_exists.mp hsome
    exact feed_of_redirected hf

theorem Opened.unredirected {st : Stage} (h : st.Opened) (hstart : ∀ e, st.start ≠ .refused e)
    (hout : st.command.output = none) : st.redirects.output = none := by
  rcases h with ⟨e, he⟩ | hsome
  · exact absurd he (hstart e)
  · rw [hout] at hsome
    simpa using hsome

end Stage

/-- The program of the next stage reads what is left to it. -/
theorem Turn.stdin_eq_leaves {t u : Turn} {room : Nat} (hopened : t.stage.Opened)
    (hsource : u.stage.source = t.stage.feed.source false)
    (ht : t = .inner t.stage u.stage room t.fed t.machine)
    (hfed : u.fed = (t.stage.pass u.stage room t.fed t.machine).1) : u.stdin = t.leaves := by
  rw [stdin, hsource, leaves]
  cases hout : t.stage.command.output with
  | some target =>
    rw [hopened.redirected hout]
    rfl
  | none =>
    cases hstart : t.stage.start with
    | builtin outcome =>
      have hred := hopened.unredirected (by rw [hstart]; exact nofun) hout
      rw [Stage.feed, hred, hstart]
      dsimp only [Feed.ofOutput]
      cases outcome.output with
      | none => rfl
      | some text =>
        dsimp only
        by_cases htext : text = ""
        · rw [if_pos htext, if_pos htext]
          rfl
        · rw [if_neg htext, if_neg htext]
          rfl
    | program b =>
      have hred := hopened.unredirected (by rw [hstart]; exact nofun) hout
      have hbytes := Stage.pass_bytes hstart hred u.stage room t.fed t.machine
      rw [← hfed, ← ht] at hbytes
      rw [Stage.feed, hred, hstart]
      exact congrArg Stdin.pipe hbytes
    | _ =>
      rw [Stage.feed_of_silent (by rw [hstart]; exact nofun) (by rw [hstart]; exact nofun)]
      rfl

theorem Turn.leaves_ne_shell (t : Turn) : t.leaves ≠ .shell := by
  rw [leaves]
  repeat' split
  all_goals
    intro h
    cases h

/-! ### What does not matter -/

theorem Behaviour.run_of_unread {source : Source} (h : source ≠ .previous) (b : Behaviour)
    (fed fed' : Flow) (sinks : Outflows) (output : Outlet) (m : Machine) :
    b.run source fed sinks output m = b.run source fed' sinks output m := by
  cases source with
  | previous => exact absurd rfl h
  | _ => rfl

/-- What comes down the pipe to a stage that does not read it goes nowhere. -/
theorem Stage.pass_of_unread {st : Stage} (h : st.readsPrevious = false) (next : Stage)
    (room : Nat) (fed fed' : Flow) (m : Machine) :
    st.pass next room fed m = st.pass next room fed' m := by
  rcases st.program_or_idle with ⟨b, hstart⟩ | hidle
  · rw [readsPrevious, hstart] at h
    rw [pass, pass, hstart]
    dsimp only
    rw [b.run_of_unread (of_decide_eq_false h) fed fed']
  · rw [pass_of_idle hidle, pass_of_idle hidle]

/-! ### The turns of a run -/

/-- The turns of the stages of a run. -/
def turns (room : Nat) : Flow → List Stage → Machine → List Turn
  | _, [], _ => []
  | fed, [st], m => [.last st fed m]
  | fed, st :: next :: rest, m =>
    .inner st next room fed m ::
      turns room (st.pass next room fed m).1 (next :: rest) (st.pass next room fed m).2

theorem turns_stages (room : Nat) (fed : Flow) (stages : List Stage) (m : Machine) :
    (turns room fed stages m).map (·.stage) = stages := by
  induction stages generalizing fed m with
  | nil => rfl
  | cons st rest ih =>
    cases rest with
    | nil => rfl
    | cons next rest => exact congrArg (st :: ·) (ih _ _)

/-- The first turn is that of the first stage, on what the run starts with. -/
theorem turns_head {room : Nat} {fed : Flow} {st : Stage} {rest : List Stage} {m : Machine}
    {t : Turn} {post : List Turn} (h : turns room fed (st :: rest) m = t :: post) :
    t.stage = st ∧ t.fed = fed ∧ t.machine = m := by
  cases rest with
  | nil =>
    rw [← (List.cons.inj h).1]
    exact ⟨rfl, rfl, rfl⟩
  | cons next rest =>
    rw [← (List.cons.inj h).1]
    exact ⟨rfl, rfl, rfl⟩

/-- From any of its turns on, a run is the run of the stages that are left. -/
theorem turns_suffix {room : Nat} {fed : Flow} {stages : List Stage} {m : Machine}
    {pre post : List Turn} {t : Turn} (h : turns room fed stages m = pre ++ t :: post) :
    turns room t.fed (t.stage :: post.map (·.stage)) t.machine = t :: post := by
  induction pre generalizing fed stages m with
  | nil =>
    have hstages := turns_stages room fed stages m
    rw [h] at hstages
    subst hstages
    obtain ⟨-, hfed, hmachine⟩ := turns_head h
    rw [hfed, hmachine]
    exact h
  | cons t' pre ih =>
    match stages, h with
    | [_], h => cases pre <;> cases (List.cons.inj h).2
    | st :: next :: rest, h => exact ih (List.cons.inj h).2

/-- What comes down the pipe to a stage that does not read it has no part in what follows. -/
theorem turns_of_unread {room : Nat} {t : Turn} {post : List Turn}
    (h : turns room t.fed (t.stage :: post.map (·.stage)) t.machine = t :: post)
    (hunread : t.stage.readsPrevious = false) (fed : Flow) :
    turns room fed (t.stage :: post.map (·.stage)) t.machine = { t with fed } :: post := by
  match post, h with
  | [], h =>
    rw [← (List.cons.inj h).1]
    rfl
  | u :: post, h =>
    obtain ⟨ht, hrest⟩ := List.cons.inj h
    rw [List.map_cons, turns, Stage.pass_of_unread hunread u.stage room fed t.fed, hrest, ← ht]
    rfl

/-- Of two turns in a row, the second finds what the first has put into the pipe and what it has
    made of the machine. -/
theorem turns_cons_cons {room : Nat} {t u : Turn} {post : List Turn}
    (h : turns room t.fed (t.stage :: u.stage :: post.map (·.stage)) t.machine = t :: u :: post) :
    t = .inner t.stage u.stage room t.fed t.machine ∧
      u.fed = (t.stage.pass u.stage room t.fed t.machine).1 ∧
        u.machine = (t.stage.pass u.stage room t.fed t.machine).2 := by
  obtain ⟨ht, hrest⟩ := List.cons.inj h
  exact ⟨ht.symm, (turns_head hrest).2⟩

/-- A run ends with what its last turn ends with. -/
theorem runStarted_eq_finish {room : Nat} {fed : Flow} {stages : List Stage} {m : Machine}
    {pre : List Turn} {t : Turn} (h : turns room fed stages m = pre ++ [t]) :
    runStarted room fed stages m = t.stage.finish t.fed t.machine ∧
      t = .last t.stage t.fed t.machine := by
  induction stages generalizing fed m pre with
  | nil => cases pre <;> cases h
  | cons st rest ih =>
    cases rest with
    | nil =>
      have ht : Turn.last st fed m = t := by
        cases pre with
        | nil => exact (List.cons.inj h).1
        | cons t' pre => cases pre <;> cases (List.cons.inj h).2
      rw [← ht]
      exact ⟨rfl, rfl⟩
    | cons next rest =>
      cases pre with
      | nil => cases rest <;> cases (List.cons.inj h).2
      | cons t' pre => exact ih (List.cons.inj h).2

/-- Of the attempts at a run, one with more room than another, one counts. -/
theorem runWidening_eq_runStarted (stages : List Stage) (m : Machine) (n room : Nat) :
    ∃ room', runWidening stages m n room =
      ((runStarted room' .none stages m).1, (runStarted room' .none stages m).2.2) := by
  induction n generalizing room with
  | zero => exact ⟨room, rfl⟩
  | succ n ih =>
    rw [runWidening]
    split
    · rename_i hrun
      exact ⟨room, by rw [hrun]⟩
    · exact ih (widened room)

end LineShell
