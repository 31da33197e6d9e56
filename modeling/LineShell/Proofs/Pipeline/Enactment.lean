import LineShell.Proofs.Pipeline.InTurn
/-!
    The run of a pipeline among its schedules.

    When all stages have been started, every program has its turn, and then all is over that the
    shell waits for. This schedule is the run that is made of the pipeline (`runPiped_isRun`), so
    what holds in every schedule is about that run and about all others that could have been made
    (`runPiped_conserves`). -/

namespace LineShell

/-! ### Before the first turn -/

namespace Scene

variable {load : Loader} {files : Redirects} {sc : Scene}

/-- Stages have been started, and nothing else has happened. -/
structure Laid (sc : Scene) : Prop where
  conduits (j : Nat) (st st' : Stage) : sc.stages[j]? = some st → sc.stages[j + 1]? = some st' →
    sc.conduits j = (Conduit.ofFeed st.feed).meet st'
  newest (st : Stage) : sc.pending ≠ [] → sc.stages.getLast? = some st →
    sc.conduits (sc.stages.length - 1) = .ofFeed st.feed
  unheard : sc.pending ≠ [] → sc.capture = .none
  heard (st : Stage) : sc.pending = [] → sc.stages.getLast? = some st →
    sc.capture = if st.captures then .begun else .none
  waits : sc.pending = [] → sc.waits = waitsFor sc.stages
  statuses (j : Nat) : sc.statuses j = none
  outcome : sc.outcome = none

theorem Laid.before (cs : List Command) (s : Session) : (before cs s).Laid where
  conduits _ _ _ hst := nomatch hst
  newest _ _ hst := nomatch hst
  unheard _ := rfl
  heard _ _ hst := nomatch hst
  waits _ := rfl
  statuses _ := rfl
  outcome := rfl

theorem Laid.add {c : Command} {rest : List Command} (hlaid : sc.Laid)
    (hpending : sc.pending = c :: rest) (st : Stage) (session : Session) :
    (sc.add st session rest).Laid where
  conduits j st₁ st₂ h₁ h₂ := by
    have hlength : j + 1 < sc.stages.length + 1 := by
      rw [← add_length]
      exact (List.getElem?_eq_some_iff.mp h₂).1
    rw [add_stages (by omega)] at h₁
    by_cases hnext : j + 1 = sc.stages.length
    · rw [hnext, add_stages_new] at h₂
      obtain rfl := Option.some.inj h₂
      have hlast : sc.stages.getLast? = some st₁ := by
        rw [List.getLast?_eq_getElem?, ← hnext, Nat.add_sub_cancel]
        exact h₁
      have hnewest := hlaid.newest st₁ (hpending ▸ List.cons_ne_nil c rest) hlast
      rw [← hnext, Nat.add_sub_cancel] at hnewest
      rw [add_conduits_next hnext, hnewest]
    · rw [add_conduits (by omega) hnext]
      exact hlaid.conduits j st₁ st₂ h₁ ((add_stages hnext).symm.trans h₂)
  newest st' hrest hst := by
    rw [Scene.add, List.getLast?_concat] at hst
    obtain rfl := Option.some.inj hst
    have hlength : (sc.stages ++ [st]).length - 1 = sc.stages.length := by simp
    rw [Scene.add] at hrest ⊢
    dsimp only at hrest ⊢
    rw [hlength, if_pos rfl, if_neg hrest]
  unheard hrest :=
    (if_neg fun h => hrest h.1).trans (hlaid.unheard (hpending ▸ List.cons_ne_nil c rest))
  heard st' hrest hst := by
    rw [Scene.add, List.getLast?_concat] at hst
    obtain rfl := Option.some.inj hst
    rw [Scene.add] at hrest ⊢
    dsimp only at hrest ⊢
    rw [hlaid.unheard (hpending ▸ List.cons_ne_nil c rest)]
    cases st.captures <;> simp [hrest]
  waits hrest := if_pos hrest
  statuses := hlaid.statuses
  outcome := hlaid.outcome

/-- The first of the stages and the others. -/
theorem startStages_cons (c : Command) (rest : List Command) (sc : Scene) :
    startStages load files sc.stages.isEmpty sc.feed (c :: rest) sc.session =
      let (st, session) := sc.next load files c rest.isEmpty
      let (stages, session) := startStages load files false st.feed rest session
      (st :: stages, session) := by
  cases rest <;> rfl

theorem play_starts (load : Loader) (files : Redirects) (hlaid : sc.Laid) :
    ∃ sc', play load files (List.replicate sc.pending.length .start) sc = some sc' ∧ sc'.Laid ∧
      sc'.pending = [] ∧
      sc'.stages = sc.stages ++
        (startStages load files sc.stages.isEmpty sc.feed sc.pending sc.session).1 ∧
      sc'.session = (startStages load files sc.stages.isEmpty sc.feed sc.pending sc.session).2 := by
  generalize hpending : sc.pending = cs
  induction cs generalizing sc with
  | nil => exact ⟨sc, rfl, hlaid, hpending, (List.append_nil _).symm, rfl⟩
  | cons c rest ih =>
    rw [startStages_cons]
    rcases hnext : sc.next load files c rest.isEmpty with ⟨st, session⟩
    have hstep : sc.step load files .start = some (sc.add st session rest) := by
      rw [step, hpending]
      dsimp only
      rw [hnext]
    have hempty : (sc.add st session rest).stages.isEmpty = false := by simp [add]
    have hfeed : (sc.add st session rest).feed = st.feed := by
      rw [feed, add, List.getLast?_concat]
    obtain ⟨sc', hplay, hlaid', hdone, hstages, hsession⟩ := ih (hlaid.add hpending st session) rfl
    rw [hempty, hfeed] at hstages hsession
    refine ⟨sc', ?_, hlaid', hdone, ?_, hsession⟩
    · rw [List.length_cons, List.replicate_succ, play, hstep]
      exact hplay
    · rw [hstages, add, List.append_assoc]
      rfl

/-! ### After the last turn -/

theorem play_proceeds {o : Outcome} (load : Loader) (files : Redirects)
    (hpending : sc.pending = []) (houtcome : sc.outcome = none)
    (hover : ∀ w ∈ sc.waits, sc.done w = true) (hresult : sc.result? = some o) :
    play load files (List.replicate (sc.waits.length + 1) .proceed) sc =
      some { sc with waits := [], outcome := some o } := by
  have hable : sc.pending = [] ∧ sc.outcome = none := ⟨hpending, houtcome⟩
  generalize hwaits : sc.waits = waits at hover
  induction waits generalizing sc with
  | nil =>
    have hstep : sc.step load files .proceed = some { sc with outcome := some o } := by
      rw [step, if_pos hable, hwaits, hresult]
      rfl
    rw [List.length_nil, List.replicate_succ, play, hstep, ← hwaits]
    rfl
  | cons w rest ih =>
    have hw := hover w List.mem_cons_self
    have hstep : sc.step load files .proceed = some { sc with waits := rest } := by
      rw [step, if_pos hable, hwaits]
      exact if_pos hw
    rw [List.length_cons, List.replicate_succ, play, hstep]
    exact @ih { sc with waits := rest } hpending houtcome hresult hable rfl
      fun w' hw' => hover w' (List.mem_cons_of_mem _ hw')

end Scene

/-! ### The whole run -/

theorem logs_of_quiet {e : Event} (halong : ∀ j, e.along j = []) (hcomplained : e.complained = [])
    (n : Nat) :
    (∀ j, actsAlong j (List.replicate n e) = []) ∧ complainedIn (List.replicate n e) = [] := by
  constructor
  · intro j
    simp [actsAlong, List.flatMap_replicate, halong j]
  · simp [complainedIn, List.flatMap_replicate, hcomplained]

theorem Sofar.begin {s : Session} {run : List Turn} {sc : Scene} {n : Nat} (hlaid : sc.Laid)
    (hpending : sc.pending = []) (hstages : sc.stages = run.map (·.stage))
    (hsession : sc.session = { s with machine := sc.session.machine }) :
    Sofar s run 0 (List.replicate n .start) sc := by
  obtain ⟨halong, hcomplained⟩ := logs_of_quiet (e := .start) (fun _ => rfl) rfl n
  have hstage {j : Nat} {t : Turn} (ht : run[j]? = some t) : sc.stages[j]? = some t.stage := by
    rw [hstages, List.getElem?_map, ht]
    rfl
  refine ⟨hstages, hpending, hlaid.outcome, hlaid.waits hpending, hlaid.statuses,
    fun j t u ht hu _ => ?_, fun t ht => ?_, hsession,
    fun _ _ hj => absurd hj.symm (Nat.succ_ne_zero _)⟩
  · rw [Nat.zero_sub, halong]
    exact ⟨hlaid.conduits j _ _ (hstage ht) (hstage hu), rfl⟩
  · have hlast : sc.stages.getLast? = some t.stage := by
      rw [hstages, List.getLast?_map, ht]
      rfl
    have hsome : 0 ≠ run.length := by
      intro hzero
      rw [List.length_eq_zero_iff.mp hzero.symm] at ht
      cases ht
    rw [decide_eq_false hsome, hcomplained]
    exact ⟨hlaid.heard _ hpending hlast, rfl⟩

/-- What a stage without a program ends with has nothing to do with what it finds. -/
theorem Stage.finish_outcome_of_idle {st : Stage} (h : ∀ b, st.start ≠ .program b)
    (fed fed' : Flow) (m m' : Machine) : (st.finish fed m).1 = (st.finish fed' m').1 := by
  rw [finish, finish]
  split
  case h_5 b hb => exact absurd hb (h b)
  all_goals rfl

/-- The errors of a program come back if they are captured. -/
theorem Turn.captured_eq {t : Turn} {b : Behaviour} (hb : t.stage.start = .program b) :
    capturedText (if t.stage.captures then t.complaints else []) =
      (t.captured (t.execution b)).filter (· ≠ "") := by
  have hruns := t.runs_iff.mpr ⟨b, hb⟩
  rw [t.captured_filter, capturedText_eq, Stage.captures, hruns, complaints, execution?_program hb]
  cases t.stage.redirects.error with
  | some f => rfl
  | none => by_cases herrors : errorsOf (t.execution b).writes = [] <;> simp [herrors]

/-- In a schedule every program does what it does in its turn. -/
structure Enacted (run : List Turn) (events : List Event) (sc : Scene) : Prop where
  written (j : Nat) (t u : Turn) : run[j]? = some t → run[j + 1]? = some u →
    u.stage.fed = true → givenIn (actsAlong j events) = t.written
  read (j : Nat) (u : Turn) : run[j + 1]? = some u → u.stage.fed = true →
    gotIn (actsAlong j events) = u.read
  ended (j : Nat) (t : Turn) : run[j]? = some t →
    sc.statuses j = t.execution?.map (·.status)
  complained (t : Turn) : run.getLast? = some t → t.stage.captures = true →
    complainedIn events = t.complaints

namespace Sofar

variable {s : Session} {run : List Turn} {events : List Event} {sc : Scene}

theorem status_eq (hsofar : Sofar s run run.length events sc) {j : Nat} {t : Turn}
    (ht : run[j]? = some t) : sc.statuses j = t.execution?.map (·.status) := by
  rw [hsofar.statuses, if_pos (List.getElem?_eq_some_iff.mp ht).1, ht]
  rfl

/-- Each conduit has been passed by when all have had their turns. -/
theorem passed (hsofar : Sofar s run run.length events sc) {j : Nat} {t u : Turn}
    (ht : run[j]? = some t) (hu : run[j + 1]? = some u) (hfed : u.stage.fed = true) :
    (sc.conduits j).holder = .nobody ∧ givenIn (actsAlong j events) = t.written ∧
      gotIn (actsAlong j events) = u.read := by
  have hj := (List.getElem?_eq_some_iff.mp hu).1
  obtain ⟨n, hn⟩ : ∃ n, run.length - j = n + 2 := ⟨run.length - j - 2, by omega⟩
  have hpassed := hsofar.edge j t u ht hu hfed
  rw [hn] at hpassed
  exact hpassed

theorem stage_of_any (hsofar : Sofar s run run.length events sc) {p : Stage → Bool} {j : Nat}
    (h : sc.stages[j]?.any p = true) : ∃ t, run[j]? = some t ∧ p t.stage = true := by
  rw [hsofar.stages, List.getElem?_map] at h
  cases ht : run[j]? with
  | none =>
    rw [ht] at h
    cases h
  | some t =>
    rw [ht] at h
    exact ⟨t, rfl, h⟩

/-- All that the shell waits for is over when all have had their turns. -/
theorem finished (hsofar : Sofar s run run.length events sc) :
    ∀ w ∈ sc.waits, sc.done w = true := by
  intro w hw
  rw [hsofar.waits] at hw
  cases w with
  | child j =>
    obtain ⟨t, ht, hruns⟩ := hsofar.stage_of_any (child_mem_waitsFor.mp hw)
    rw [Scene.done, hsofar.status_eq ht, Option.isSome_map, t.execution?_isSome]
    exact hruns
  | pump j =>
    obtain ⟨u, hu, hfed⟩ := hsofar.stage_of_any (pump_mem_waitsFor.mp hw)
    have hj := (List.getElem?_eq_some_iff.mp hu).1
    have hholder := (hsofar.passed (List.getElem?_eq_getElem (Nat.lt_of_succ_lt hj)) hu hfed).1
    rw [Scene.done, hholder]
    rfl
  | collector =>
    have hlast := collector_mem_waitsFor.mp hw
    rw [hsofar.stages, List.getLast?_map] at hlast
    cases ht : run.getLast? with
    | none =>
      rw [ht] at hlast
      cases hlast
    | some t =>
      have hheard := hsofar.heard t ht
      rw [decide_eq_true rfl] at hheard
      rw [Scene.done, hheard.1]
      rfl

/-- And what the pipeline ends with is what the last of them ends with. -/
theorem result {earlier : List Turn} {t : Turn} (ht : t = .last t.stage t.fed t.machine)
    (hsofar : Sofar s (earlier ++ [t]) (earlier ++ [t]).length events sc) :
    sc.result? = some t.outcome := by
  have hlast : sc.stages.getLast? = some t.stage := by
    rw [hsofar.stages, List.map_append]
    exact List.getLast?_concat
  rw [Scene.result?, hlast]
  dsimp only
  rcases t.stage.program_or_idle with ⟨b, hb⟩ | hidle
  · have hruns := t.runs_iff.mpr ⟨b, hb⟩
    have hlength : sc.stages.length - 1 = earlier.length := by
      rw [hsofar.stages]
      simp
    have hheard := hsofar.heard t List.getLast?_concat
    rw [decide_eq_true rfl] at hheard
    obtain ⟨-, hheld, hcomplained⟩ := hheard
    rw [if_pos hruns, hlength, hsofar.status_eq List.getElem?_concat_length,
      t.execution?_program hb, Turn.outcome_program ht hb, hheld, hcomplained]
    exact congrArg (fun errors => some (Outcome.mk _ none errors)) (t.captured_eq hb)
  · have hruns : ¬ t.stage.runs = true := fun hruns => by
      obtain ⟨b, hb⟩ := t.runs_iff.mp hruns
      exact hidle b hb
    rw [if_neg hruns, Turn.outcome, t.stage.finish_outcome_of_idle hidle]

theorem enacted (hsofar : Sofar s run run.length events sc) : Enacted run events sc where
  written j t u ht hu hfed := (hsofar.passed ht hu hfed).2.1
  read j u hu hfed :=
    have hj := (List.getElem?_eq_some_iff.mp hu).1
    (hsofar.passed (List.getElem?_eq_getElem (Nat.lt_of_succ_lt hj)) hu hfed).2.2
  ended j t ht := hsofar.status_eq ht
  complained t ht hcaptures := by
    have hheard := hsofar.heard t ht
    rw [decide_eq_true rfl] at hheard
    exact hheard.2.2.trans (if_pos hcaptures)

end Sofar

theorem Enacted.proceed {run : List Turn} {events : List Event} {sc : Scene}
    (h : Enacted run events sc) (n : Nat) (waits : List Wait) (outcome : Option Outcome) :
    Enacted run (events ++ List.replicate n .proceed) { sc with waits, outcome } := by
  obtain ⟨halong, hcomplained⟩ := logs_of_quiet (e := .proceed) (fun _ => rfl) rfl n
  have hacts (j : Nat) :
      actsAlong j (events ++ List.replicate n .proceed) = actsAlong j events := by
    rw [actsAlong_append, halong, List.append_nil]
  refine ⟨fun j t u ht hu hfed => ?_, fun j u hu hfed => ?_, h.ended, fun t ht hcaptures => ?_⟩
  · rw [hacts]
    exact h.written j t u ht hu hfed
  · rw [hacts]
    exact h.read j u hu hfed
  · rw [complainedIn_append, hcomplained, List.append_nil]
    exact h.complained t ht hcaptures

/-- A schedule of a pipeline is the run that is made of it. -/
structure IsRun (load : Loader) (files : Redirects) (cs : List Command) (s : Session)
    (events : List Event) (sc : Scene) : Prop where
  play : Scene.play load files events (.before cs s) = some sc
  outcome : sc.outcome = some (runPiped load cs files s).1
  session : sc.session = (runPiped load cs files s).2
  /-- Of the attempts at the pipeline it is the one that counts. -/
  enacted : ∃ room, (∀ earlier t, pipelineTurns load files cs s room = earlier ++ [t] →
    runPiped load cs files s = (t.outcome, { s with machine := t.after })) ∧
      Enacted (pipelineTurns load files cs s room) events sc

theorem runPiped_isRun (load : Loader) (files : Redirects) (cs : List Command) (s : Session) :
    ∃ events sc, IsRun load files cs s events sc := by
  rcases eq_or_ne cs [] with rfl | hne
  · refine ⟨[.proceed], { Scene.before [] s with outcome := some .silent }, rfl, rfl, rfl, 0,
      fun earlier t hrun => ?_, ?_⟩
    · cases earlier <;> cases hrun
    · exact ⟨fun _ _ _ ht => (nomatch ht), fun _ _ hu => (nomatch hu), fun _ _ ht => (nomatch ht),
        fun _ ht => (nomatch ht)⟩
  obtain ⟨cs, c, rfl⟩ : ∃ cs' c, cs = cs' ++ [c] := ⟨_, _, (List.dropLast_concat_getLast hne).symm⟩
  obtain ⟨room, hroom⟩ := runPiped_eq_last load files (cs ++ [c]) s
  obtain ⟨earlier, t, hrun⟩ := pipelineTurns_concat load files cs c s room
  obtain ⟨hlast, hpiped⟩ := hroom earlier t hrun
  have hfollowing := pipelineTurns_following load files (cs ++ [c]) s room
  rw [hrun] at hfollowing
  -- All stages are started,
  obtain ⟨sc₀, hstarts, hlaid, hpending, hstages, hsession⟩ :=
    Scene.play_starts load files (.before (cs ++ [c]) s)
  have hstages' : sc₀.stages = (earlier ++ [t]).map (·.stage) := by
    rw [hstages, ← hrun, pipelineTurns, turns_stages]
    rfl
  have hsession' : sc₀.session = { s with machine := sc₀.session.machine } := by
    have hstarted := startStages_undisturbed load files true .nothing (cs ++ [c]) s
    rw [hsession, ← hstarted.env, ← hstarted.history]
    rfl
  -- then they have their turns,
  obtain ⟨more, sc₁, hturns, hsofar⟩ :=
    (Sofar.begin hlaid hpending hstages' hsession').whole hfollowing load files
  -- and then all is over that the shell waits for.
  have hproceeds := Scene.play_proceeds load files hsofar.pending hsofar.outcome hsofar.finished
    (hsofar.result hlast)
  refine ⟨_, _, Scene.play_trans hstarts (Scene.play_trans hturns hproceeds), ?_, ?_, room,
    fun earlier t hrun => (hroom earlier t hrun).2, ?_⟩
  · rw [hpiped]
  · rw [hpiped, hsofar.session, hsofar.machine earlier.length t (by simp)
      List.getElem?_concat_length]
  · rw [hrun, ← List.append_assoc]
    exact hsofar.enacted.proceed _ _ _

/-- A pipeline is run in one of its schedules, and in every schedule and at every moment of it the
    bytes between the stages are conserved. -/
theorem runPiped_conserves (load : Loader) (files : Redirects) (cs : List Command) (s : Session) :
    (∃ events sc, IsRun load files cs s events sc) ∧
      ∀ events sc, Scene.play load files events (.before cs s) = some sc →
        sc.Conserved load files events :=
  ⟨runPiped_isRun load files cs s, fun _ _ => Scene.conserved_of_play⟩

/-- A session among whose files there is a program. -/
def tornSession : Session :=
  ⟨⟨[], "/", false⟩, .empty, ⟨⟨[(["a"], .file 0o755 [])]⟩, .root, [], 0, [], []⟩⟩

/-- The program reads a part of what it is given, closes its input while the pump carries the next
    byte, and complains. -/
def tornEvents : List Event :=
  [.start, .start, .act 0 (.take [97, 98]), .act 0 (.pass [97]), .capture (.complain [33]),
    .act 0 (.read [97]), .act 0 .leave, .act 0 .giveUp, .capture (.gather [33]),
    .capture .shut, .capture .finish, .exit 1 (.exited 3), .proceed, .proceed, .proceed, .proceed]

/-- What has not been read is still in its order, and the outcome has the complaint. -/
theorem runPiped_conserves_torn :
    ∃ sc, Scene.play (fun _ _ _ => .ok fun _ tree => ⟨[], 0, tree, .exited 0⟩) .none tornEvents
        (.before [⟨"echo", ["ab"], none, none⟩, ⟨"./a", [], none, none⟩] tornSession) = some sc ∧
      sc.outcome = some (.failing 3 "!") ∧
        [97] ++ (sc.conduits 0).inFlight ++ (sc.conduits 0).left = [97, 98, 10] := by
  have hplay : ((Scene.play (fun _ _ _ => .ok fun _ tree => ⟨[], 0, tree, .exited 0⟩) .none
      tornEvents (.before [⟨"echo", ["ab"], none, none⟩, ⟨"./a", [], none, none⟩] tornSession)).map
        fun sc => (sc.outcome, sc.hands 0)) = some (some (.failing 3 "!"), .text "ab\n") := by
    decide +kernel
  obtain ⟨sc, hsc, hfound⟩ := Option.map_eq_some_iff.mp hplay
  obtain ⟨houtcome, hhands⟩ := Prod.mk.inj hfound
  have hedge := ((runPiped_conserves _ _ _ _).2 _ _ hsc).edge 0
  rw [hhands] at hedge
  exact ⟨sc, hsc, houtcome, hedge⟩

end LineShell
