import LineShell.Proofs.Pipeline.Conservation
/-!
    Every program in its turn.

    In one schedule of a pipeline the pump copies to a program all that the one before it has
    written, the program reads, writes and ends, and then it is the turn of the next. What one turn
    makes of a conduit is `Passed.advance`, what it makes of a scene `Sofar.advance`, and after all
    of them every program has done what it does in its turn (`Sofar.whole`). -/

namespace LineShell

/-- All that comes is there, and a pump is at work. -/
def Conduit.filled (bytes : Bytes) : Conduit := ⟨bytes, false, .pump, [], [], true⟩

namespace Turn

variable {t u : Turn}

/-- What the stage's program finds to read. -/
def input (t : Turn) : Bytes := (t.stdin.contents t.machine).1

/-- What it reads of that. -/
def read (t : Turn) : Bytes := (t.execution?.map fun done => t.input.take done.taken).getD []

/-- What it writes on its output. -/
def written (t : Turn) : Bytes := (t.execution?.map fun done => outputOf done.writes).getD []

/-- What it writes on its error channel. -/
def complaints (t : Turn) : Bytes := (t.execution?.map fun done => errorsOf done.writes).getD []

/-! ### What is done in a turn -/

/-- Along the conduit to the stage. -/
def intake (t : Turn) : List Act :=
  (if t.input = [] then [] else [.take t.input, .pass t.input]) ++ [.finish, .read t.read]

/-- Along the conduit from the stage. -/
def outlay (t : Turn) : List Act :=
  if t.stage.runs then [.write t.written, .shut] else []

/-- About the errors, if they are captured. -/
def outcry (t : Turn) : List CaptureAct :=
  if t.stage.captures then
    .complain t.complaints :: .shut ::
      (if t.complaints = [] then [] else [.gather t.complaints]) ++ [.finish]
  else []

theorem read_prefix (t : Turn) : t.read <+: t.input := by
  rw [read]
  cases t.execution? with
  | none => exact List.nil_prefix
  | some done => exact List.take_prefix _ _

theorem runs_iff (t : Turn) : t.stage.runs = true ↔ ∃ b, t.stage.start = .program b := by
  rw [Stage.runs]
  cases t.stage.start <;> simp

theorem execution?_isSome (t : Turn) : t.execution?.isSome = t.stage.runs := by
  rw [execution?, Stage.runs]
  cases t.stage.start <;> rfl

theorem intake_flow (t : Turn) : givenIn t.intake = [] ∧ gotIn t.intake = t.read := by
  rw [intake]
  split <;> simp [givenIn, gotIn, Act.given, Act.got]

theorem outlay_flow (t : Turn) : givenIn t.outlay = t.written ∧ gotIn t.outlay = [] := by
  rw [outlay]
  cases hruns : t.stage.runs with
  | true => simp [givenIn, gotIn, Act.given, Act.got]
  | false =>
    rw [← execution?_isSome, Option.isSome_eq_false_iff, Option.isNone_iff_eq_none] at hruns
    simp [givenIn, gotIn, written, hruns]

/-- All is copied, the program reads what it takes, and the pump has stopped. -/
theorem play_intake (t : Turn) :
    ∃ c, (Conduit.filled t.input).play t.intake = some c ∧ c.holder = .nobody := by
  have hread := t.read_prefix
  refine ⟨⟨[], false, .nobody, [], t.input.drop t.read.length, true⟩, ?_, rfl⟩
  rw [intake]
  by_cases hinput : t.input = []
  · rw [if_pos hinput]
    rw [hinput] at hread ⊢
    simp [Conduit.filled, Conduit.play, Conduit.step, List.prefix_nil.mp hread]
  · rw [if_neg hinput]
    simp [Conduit.filled, Conduit.play, Conduit.step, hinput, hread]

theorem play_outlay (hruns : t.stage.runs = true) (hfed : u.stage.fed = true) :
    ((Conduit.ofFeed .program).meet u.stage).play t.outlay = some (.filled t.written) := by
  simp [outlay, hruns, Conduit.meet, hfed, Conduit.ofFeed, Conduit.none, Conduit.play,
    Conduit.step, Conduit.filled]

/-! ### Errors in a turn -/

/-- What is captured in the turn of the last stage, before that and after it. -/
def Heard (t : Turn) (after : Bool) (k : Capture) (complained : Bytes) : Prop :=
  if after then
    k.gathering = false ∧ k.held = complained ∧
      complained = if t.stage.captures then t.complaints else []
  else k = (if t.stage.captures then .begun else .none) ∧ complained = []

end Turn

namespace Capture

/-- What a number of acts make of what is captured. -/
def play : List CaptureAct → Capture → Option Capture
  | [], k => some k
  | a :: acts, k => (k.step a).bind (play acts)

end Capture

theorem Turn.Heard.play {t : Turn} {k : Capture} {complained : Bytes}
    (h : t.Heard false k complained) :
    ∃ k', k.play t.outcry = some k' ∧
      t.Heard true k' (complained ++ t.outcry.flatMap CaptureAct.given) := by
  obtain ⟨rfl, rfl⟩ := h
  rw [outcry]
  cases hcaptures : t.stage.captures with
  | false => exact ⟨.none, rfl, rfl, rfl, by simp [hcaptures]⟩
  | true =>
    refine ⟨⟨[], false, t.complaints, false⟩, ?_, rfl, ?_, ?_⟩
    · by_cases hquiet : t.complaints = [] <;>
        simp [Capture.begun, Capture.play, Capture.step, hquiet]
    · by_cases hquiet : t.complaints = [] <;> simp [CaptureAct.given, hquiet]
    · by_cases hquiet : t.complaints = [] <;> simp [CaptureAct.given, hquiet, hcaptures]

/-! ### Turns in a row -/

theorem Stage.feed_program {st : Stage} (h : st.feed = .program) :
    st.redirects.output = none ∧ ∃ b, st.start = .program b := by
  rw [feed] at h
  split at h
  · unfold Feed.ofOutput at h
    repeat' split at h
    all_goals cases h
  · rename_i b hout hstart
    exact ⟨hout, b, hstart⟩
  · cases h

/-- Only a builtin hands on a text. -/
theorem Stage.feed_text {st : Stage} {text : String} (h : st.feed = .text text) :
    st.runs = false := by
  rw [feed] at h
  split at h
  · rename_i outcome _ hstart
    rw [runs, hstart]
  · cases h
  · cases h

/-- What the turns of a pipeline have to do with each other. -/
structure Following (run : List Turn) : Prop where
  source (j : Nat) (t u : Turn) : run[j]? = some t → run[j + 1]? = some u →
    u.stage.source = t.stage.feed.source false
  input (j : Nat) (t u : Turn) : run[j]? = some t → run[j + 1]? = some u →
    t.stage.feed = .program → u.input = t.written

theorem exists_split {α : Type} {l : List α} {j : Nat} {x y : α} (hx : l[j]? = some x)
    (hy : l[j + 1]? = some y) : ∃ pre post, l = pre ++ x :: y :: post := by
  obtain ⟨hj, rfl⟩ := List.getElem?_eq_some_iff.mp hx
  obtain ⟨hj', rfl⟩ := List.getElem?_eq_some_iff.mp hy
  refine ⟨l.take j, l.drop (j + 2), ?_⟩
  rw [← List.drop_eq_getElem_cons hj', ← List.drop_eq_getElem_cons hj, List.take_append_drop]

theorem pipelineTurns_following (load : Loader) (files : Redirects) (cs : List Command)
    (s : Session) (room : Nat) : Following (pipelineTurns load files cs s room) where
  source j t u ht hu := by
    obtain ⟨pre, post, hrun⟩ := exists_split ht hu
    exact (pipelineTurns_source hrun).2
  input j t u ht hu hfeed := by
    obtain ⟨pre, post, hrun⟩ := exists_split ht hu
    obtain ⟨hred, b, hstart⟩ := Stage.feed_program hfeed
    have hout : t.stage.command.output = none := by
      rcases (pipelineTurns_source hrun).1 with ⟨e, he⟩ | hsome
      · rw [he] at hstart
        cases hstart
      · rw [hred] at hsome
        simpa using hsome
    have hleaves : t.leaves = .pipe (outputOf (t.execution b).writes) := by
      rw [Turn.leaves, hout, hstart]
    rw [Turn.input, (pipelineTurns_handed hrun).1, hleaves, Turn.written,
      Turn.execution?_program hstart]
    rfl

/-! ### One conduit, turn by turn -/

/-- What has become of the conduit between the stages of two turns: no turn, one or both of them
    are over. -/
def Passed (t u : Turn) : Nat → Conduit → List Act → Prop
  | 0, c, acts => c = (Conduit.ofFeed t.stage.feed).meet u.stage ∧ acts = []
  | 1, c, acts => c = .filled u.input ∧ givenIn acts = t.written ∧ gotIn acts = []
  | _ + 2, c, acts => c.holder = .nobody ∧ givenIn acts = t.written ∧ gotIn acts = u.read

/-- What is done in turn `k` along conduit `j`. -/
def share (run : List Turn) (k j : Nat) : List Act :=
  match run[j]?, run[j + 1]? with
  | some t, some u =>
    if u.stage.fed then
      if j = k then t.outlay else if j + 1 = k then u.intake else []
    else []
  | _, _ => []

/-- A conduit that leads nowhere, and one to a program that is not fed, are left alone. -/
theorem share_of_unfed {run : List Turn} {k j : Nat}
    (h : ∀ t u, run[j]? = some t → run[j + 1]? = some u → u.stage.fed = false) :
    share run k j = [] := by
  rw [share]
  split
  · rename_i t u ht hu
    rw [h t u ht hu]
    rfl
  · rfl

theorem Passed.advance {run : List Turn} (hrun : Following run) {j k : Nat} {t u : Turn}
    (ht : run[j]? = some t) (hu : run[j + 1]? = some u) (hfed : u.stage.fed = true) {c : Conduit}
    {acts : List Act} (h : Passed t u (k - j) c acts) :
    ∃ c', c.play (share run k j) = some c' ∧
      Passed t u (k + 1 - j) c' (acts ++ share run k j) := by
  have hsource := hrun.source j t u ht hu
  have hshare : share run k j = if j = k then t.outlay else if j + 1 = k then u.intake else [] := by
    rw [share, ht, hu]
    exact if_pos hfed
  rcases Nat.lt_trichotomy k j with hbefore | rfl | hafter
  · rw [Nat.sub_eq_zero_of_le (Nat.le_of_lt hbefore)] at h
    rw [Nat.sub_eq_zero_of_le hbefore, hshare, if_neg (by omega), if_neg (by omega),
      List.append_nil]
    exact ⟨c, rfl, h⟩
  · -- The turn of the source.
    rw [Nat.sub_self] at h
    obtain ⟨rfl, rfl⟩ := h
    rw [Nat.add_sub_cancel_left, hshare, if_pos rfl, List.nil_append]
    refine ⟨.filled u.input, ?_, rfl, t.outlay_flow⟩
    cases hfeed : t.stage.feed with
    | nothing =>
      rw [hfeed] at hsource
      exact absurd rfl ((Stage.fed_iff hsource).mp hfed).2
    | text text =>
      rw [hfeed] at hsource
      rw [Turn.outlay, if_neg (Bool.eq_false_iff.mp (Stage.feed_text hfeed)), Conduit.meet,
        if_pos hfed, Turn.input, Turn.stdin, hsource]
      rfl
    | program =>
      obtain ⟨-, b, hstart⟩ := Stage.feed_program hfeed
      rw [hrun.input k t u ht hu hfeed]
      exact Turn.play_outlay (t.runs_iff.mpr ⟨b, hstart⟩) hfed
  · rcases Nat.lt_or_eq_of_le hafter with hlong | rfl
    · obtain ⟨n, rfl⟩ := Nat.exists_eq_add_of_lt hlong
      have hn : j + 1 + n + 1 - j = n + 2 := by omega
      have hn' : j + 1 + n + 1 + 1 - j = n + 1 + 2 := by omega
      rw [Nat.succ_eq_add_one, hn] at h
      rw [Nat.succ_eq_add_one, hn', hshare, if_neg (by omega), if_neg (by omega), List.append_nil]
      exact ⟨c, rfl, h⟩
    · -- The turn of the program that reads.
      have hone : j.succ - j = 1 := by omega
      have htwo : j.succ + 1 - j = 0 + 2 := by omega
      rw [hone] at h
      obtain ⟨rfl, hgiven, hgot⟩ := h
      obtain ⟨c', hplay, hholder⟩ := u.play_intake
      obtain ⟨hgiven', hgot'⟩ := u.intake_flow
      rw [htwo, hshare, if_neg (by omega), if_pos rfl]
      refine ⟨c', hplay, hholder, ?_, ?_⟩
      · rw [givenIn_append, hgiven, hgiven', List.append_nil]
      · rw [gotIn_append, hgot, hgot', List.nil_append]

/-! ### A scene, turn by turn -/

/-- Everything that happens in turn `k`, which is that of `t`. -/
def turnEvents (run : List Turn) (k : Nat) (t : Turn) : List Event :=
  ((List.range run.length).flatMap fun j => (share run k j).map (.act j)) ++
    ((if k + 1 = run.length then t.outcry else []).map .capture ++
      ((t.execution?.map fun done => Event.exit k done.status).toList ++ [.elsewhere t.after]))

namespace Scene

variable {load : Loader} {files : Redirects} {sc : Scene}

theorem play_acts {i : Nat} {acts : List Act} {c : Conduit}
    (h : (sc.conduits i).play acts = some c) :
    play load files (acts.map (.act i)) sc =
      some { sc with conduits := fun j => if j = i then c else sc.conduits j } := by
  induction acts generalizing sc with
  | nil =>
    obtain rfl := Option.some.inj h
    have hsame : (fun j => if j = i then sc.conduits i else sc.conduits j) = sc.conduits := by
      funext j
      split
      · rename_i hj
        rw [hj]
      · rfl
    rw [hsame]
    rfl
  | cons a acts ih =>
    obtain ⟨mid, hmid, hrest⟩ := Option.bind_eq_some_iff.mp h
    rw [List.map_cons, play, step, hmid]
    have hmid' : (if i = i then mid else sc.conduits i).play acts = some c := by
      rw [if_pos rfl]
      exact hrest
    refine (@ih { sc with conduits := fun j => if j = i then mid else sc.conduits j } hmid').trans
      (congrArg some ?_)
    have hsame : (fun j => if j = i then c else if j = i then mid else sc.conduits j) =
        fun j => if j = i then c else sc.conduits j := by
      funext j
      split <;> rfl
    exact congrArg (fun conduits => { sc with conduits }) hsame

/-- What can be done along each of some conduits can happen, along one after the other. -/
theorem play_shares {acts : Nat → List Act} {c : Nat → Conduit}
    (h : ∀ j, (sc.conduits j).play (acts j) = some (c j)) (n : Nat) :
    play load files ((List.range n).flatMap fun j => (acts j).map (.act j)) sc =
      some { sc with conduits := fun j => if j < n then c j else sc.conduits j } := by
  induction n with
  | zero => rfl
  | succ n ih =>
    rw [List.range_succ, List.flatMap_append, play_append, ih, List.flatMap_singleton]
    have hn : ((fun j => if j < n then c j else sc.conduits j) n).play (acts n) = some (c n) := by
      dsimp only
      rw [if_neg (Nat.lt_irrefl n)]
      exact h n
    refine (play_acts hn).trans (congrArg some ?_)
    refine congrArg (fun conduits => { sc with conduits }) (funext fun j => ?_)
    dsimp only
    split
    · rename_i hj
      rw [hj, if_pos (Nat.lt_succ_self n)]
    · split
      · rw [if_pos (by omega)]
      · rw [if_neg (by omega)]

theorem play_captures {acts : List CaptureAct} {k : Capture} (h : sc.capture.play acts = some k) :
    play load files (acts.map .capture) sc = some { sc with capture := k } := by
  induction acts generalizing sc with
  | nil =>
    obtain rfl := Option.some.inj h
    rfl
  | cons a acts ih =>
    obtain ⟨mid, hmid, hrest⟩ := Option.bind_eq_some_iff.mp h
    rw [List.map_cons, play, step, hmid]
    exact @ih { sc with capture := mid } hrest

/-- The program of a turn ends, if there is one, and its files are what it has made of them. -/
theorem play_end {k : Nat} {t : Turn} (hstage : sc.stages[k]? = some t.stage)
    (hstatus : sc.statuses k = none) :
    play load files ((t.execution?.map fun done => Event.exit k done.status).toList ++
        [.elsewhere t.after]) sc =
      some { sc with
        statuses := fun j => if j = k then t.execution?.map (·.status) else sc.statuses j
        session := { sc.session with machine := t.after } } := by
  cases hdone : t.execution? with
  | none =>
    have hsame : (fun j => if j = k then none else sc.statuses j) = sc.statuses := by
      funext j
      split
      · rename_i hj
        rw [hj, hstatus]
      · rfl
    change some { sc with session := { sc.session with machine := t.after } } = _
    rw [Option.map_none, hsame]
  | some done =>
    have hruns : t.stage.runs = true := by rw [← t.execution?_isSome, hdone]; rfl
    have hable : sc.stages[k]?.any Stage.runs = true ∧ sc.statuses k = none :=
      ⟨by rw [hstage]; exact hruns, hstatus⟩
    rw [Option.map_some, Option.toList_some, List.singleton_append, play, step, if_pos hable]
    rfl

end Scene

theorem actsAlong_shares (acts : Nat → List Act) (n j : Nat) :
    actsAlong j ((List.range n).flatMap fun i => (acts i).map (.act i)) =
      if j < n then acts j else [] := by
  induction n with
  | zero => rfl
  | succ n ih =>
    have hlast : actsAlong j ((acts n).map (.act n)) = if n = j then acts n else [] := by
      rw [actsAlong, List.flatMap_map]
      split
      · rename_i hn
        simp [Event.along, hn]
      · rename_i hn
        simp [Event.along, hn]
    rw [List.range_succ, List.flatMap_append, actsAlong_append, ih, List.flatMap_singleton, hlast]
    rcases Nat.lt_trichotomy j n with hj | rfl | hj
    · rw [if_pos hj, if_neg (Nat.ne_of_gt hj), if_pos (Nat.lt_succ_of_lt hj), List.append_nil]
    · rw [if_neg (Nat.lt_irrefl j), if_pos rfl, if_pos (Nat.lt_succ_self j), List.nil_append]
    · rw [if_neg (Nat.lt_asymm hj), if_neg (Nat.ne_of_lt hj), if_neg (by omega)]
      rfl

theorem complainedIn_shares (acts : Nat → List Act) (n : Nat) :
    complainedIn ((List.range n).flatMap fun i => (acts i).map (.act i)) = [] := by
  simp [complainedIn, List.flatMap_assoc, List.flatMap_map, Event.complained]

section

variable {run : List Turn} {k : Nat} {t : Turn}

theorem actsAlong_turnEvents {j : Nat} (hj : j < run.length) :
    actsAlong j (turnEvents run k t) = share run k j := by
  have hcaptures (acts : List CaptureAct) : actsAlong j (acts.map .capture) = [] := by
    simp [actsAlong, List.flatMap_map, Event.along]
  rw [turnEvents, actsAlong_append, actsAlong_shares, if_pos hj, actsAlong_append, hcaptures]
  cases t.execution? <;> exact List.append_nil _

theorem complainedIn_turnEvents : complainedIn (turnEvents run k t) =
    (if k + 1 = run.length then t.outcry else []).flatMap CaptureAct.given := by
  have hcaptures (acts : List CaptureAct) :
      complainedIn (acts.map .capture) = acts.flatMap CaptureAct.given := by
    rw [complainedIn, List.flatMap_map]
    rfl
  rw [turnEvents, complainedIn_append, complainedIn_shares, complainedIn_append, hcaptures]
  cases t.execution? <;> exact List.append_nil _

end

/-- The first `k` of the turns are over. -/
structure Sofar (s : Session) (run : List Turn) (k : Nat) (events : List Event) (sc : Scene) :
    Prop where
  stages : sc.stages = run.map (·.stage)
  pending : sc.pending = []
  outcome : sc.outcome = none
  waits : sc.waits = waitsFor sc.stages
  statuses (j : Nat) : sc.statuses j =
    if j < k then (run[j]?.bind Turn.execution?).map (·.status) else none
  edge (j : Nat) (t u : Turn) : run[j]? = some t → run[j + 1]? = some u → u.stage.fed = true →
    Passed t u (k - j) (sc.conduits j) (actsAlong j events)
  heard (t : Turn) : run.getLast? = some t →
    t.Heard (decide (k = run.length)) sc.capture (complainedIn events)
  session : sc.session = { s with machine := sc.session.machine }
  machine (j : Nat) (t : Turn) : k = j + 1 → run[j]? = some t → sc.session.machine = t.after

namespace Sofar

variable {s : Session} {run : List Turn} {k : Nat} {events : List Event} {sc : Scene} {t : Turn}

/-- What the next turn makes of a conduit. -/
theorem edge_advance (hrun : Following run) (hsofar : Sofar s run k events sc) (j : Nat) :
    ∃ c, (sc.conduits j).play (share run k j) = some c ∧
      ∀ t u, run[j]? = some t → run[j + 1]? = some u → u.stage.fed = true →
        Passed t u (k + 1 - j) c (actsAlong j events ++ share run k j) := by
  by_cases hfed : ∃ t u, run[j]? = some t ∧ run[j + 1]? = some u ∧ u.stage.fed = true
  · obtain ⟨t', u', ht', hu', hfed'⟩ := hfed
    obtain ⟨c, hplay, hpassed⟩ :=
      Passed.advance hrun ht' hu' hfed' (hsofar.edge j t' u' ht' hu' hfed')
    refine ⟨c, hplay, fun t u ht hu _ => ?_⟩
    obtain rfl := Option.some.inj (ht'.symm.trans ht)
    obtain rfl := Option.some.inj (hu'.symm.trans hu)
    exact hpassed
  · refine ⟨sc.conduits j, ?_, fun t u ht hu hfed' => absurd ⟨t, u, ht, hu, hfed'⟩ hfed⟩
    rw [share_of_unfed fun t u ht hu => Bool.eq_false_iff.mpr fun hfed' =>
      hfed ⟨t, u, ht, hu, hfed'⟩]
    rfl

/-- And what it makes of the errors. -/
theorem heard_advance (hsofar : Sofar s run k events sc) (ht : run[k]? = some t) :
    ∃ capture, sc.capture.play (if k + 1 = run.length then t.outcry else []) = some capture ∧
      ∀ t', run.getLast? = some t' → t'.Heard (decide (k + 1 = run.length)) capture
        (complainedIn (events ++ turnEvents run k t)) := by
  have hk : k < run.length := (List.getElem?_eq_some_iff.mp ht).1
  rw [complainedIn_append, complainedIn_turnEvents]
  by_cases hlast : k + 1 = run.length
  · have hgetLast : run.getLast? = some t := by
      rw [List.getLast?_eq_getElem?, ← hlast]
      exact ht
    have hheard := hsofar.heard t hgetLast
    rw [decide_eq_false (Nat.ne_of_lt hk)] at hheard
    obtain ⟨capture, hplay, hheard'⟩ := hheard.play
    rw [if_pos hlast, decide_eq_true hlast]
    refine ⟨capture, hplay, fun t' ht' => ?_⟩
    obtain rfl := Option.some.inj (hgetLast.symm.trans ht')
    exact hheard'
  · rw [if_neg hlast, decide_eq_false hlast, List.flatMap_nil, List.append_nil]
    refine ⟨sc.capture, rfl, fun t' ht' => ?_⟩
    have hheard := hsofar.heard t' ht'
    rw [decide_eq_false (Nat.ne_of_lt hk)] at hheard
    exact hheard

/-- One more turn. -/
theorem advance (hrun : Following run) (hsofar : Sofar s run k events sc) (ht : run[k]? = some t)
    (load : Loader) (files : Redirects) :
    ∃ sc', Scene.play load files (turnEvents run k t) sc = some sc' ∧
      Sofar s run (k + 1) (events ++ turnEvents run k t) sc' := by
  choose c hc hpassed using hsofar.edge_advance hrun
  obtain ⟨capture, hcapture, hheard⟩ := hsofar.heard_advance ht
  refine ⟨{ sc with
    conduits := fun j => if j < run.length then c j else sc.conduits j
    capture
    statuses := fun j => if j = k then t.execution?.map (·.status) else sc.statuses j
    session := { sc.session with machine := t.after } }, ?_, ?_⟩
  · have hstage : sc.stages[k]? = some t.stage := by
      rw [hsofar.stages, List.getElem?_map, ht]
      rfl
    have hstatus : sc.statuses k = none := (hsofar.statuses k).trans (if_neg (Nat.lt_irrefl k))
    exact Scene.play_trans (Scene.play_shares hc _)
      (Scene.play_trans (Scene.play_captures hcapture) (Scene.play_end hstage hstatus))
  · refine ⟨hsofar.stages, hsofar.pending, hsofar.outcome, hsofar.waits, fun j => ?_,
      fun j t' u' ht' hu' hfed => ?_, hheard, ?_, fun j t' hj ht' => ?_⟩
    · dsimp only
      by_cases hj : j = k
      · rw [if_pos hj, hj, if_pos (Nat.lt_succ_self k), ht]
        rfl
      · rw [if_neg hj, hsofar.statuses j]
        congr 1
        exact propext (by omega)
    · have hj : j < run.length := (List.getElem?_eq_some_iff.mp ht').1
      dsimp only
      rw [if_pos hj, actsAlong_append, actsAlong_turnEvents hj]
      exact hpassed j t' u' ht' hu' hfed
    · rw [hsofar.session]
    · obtain rfl := Nat.succ.inj hj
      obtain rfl := Option.some.inj (ht.symm.trans ht')
      rfl

/-- All turns. -/
theorem whole (hrun : Following run) (hsofar : Sofar s run 0 events sc) (load : Loader)
    (files : Redirects) :
    ∃ more sc', Scene.play load files more sc = some sc' ∧
      Sofar s run run.length (events ++ more) sc' := by
  have hall (k : Nat) (hk : k ≤ run.length) :
      ∃ more sc', Scene.play load files more sc = some sc' ∧
        Sofar s run k (events ++ more) sc' := by
    induction k with
    | zero => exact ⟨[], sc, rfl, by rwa [List.append_nil]⟩
    | succ k ih =>
      obtain ⟨more, mid, hmore, hmid⟩ := ih (Nat.le_of_succ_le hk)
      obtain ⟨sc', hturn, hsc'⟩ :=
        hmid.advance hrun (List.getElem?_eq_getElem (Nat.lt_of_succ_le hk)) load files
      refine ⟨_, sc', Scene.play_trans hmore hturn, ?_⟩
      rwa [← List.append_assoc]
  exact hall run.length (Nat.le_refl _)

end Sofar

end LineShell
