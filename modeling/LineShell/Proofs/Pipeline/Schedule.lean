import LineShell.Proofs.Pipeline.Conduit
import LineShell.Proofs.Pipeline.Outcome
/-!
    The stages of a pipeline at work, in any order.

    The shell starts the stages one after the other, while those that have been started are at work
    already: their programs read, write and end, pumps copy from one stage to the next, and a
    collector reads the errors of the last. Then the shell waits for the programs, for the pumps and
    for the collector. An event is one thing that one of them does, in pieces of any size, and a
    schedule is any sequence of events that can happen (`Scene.play`). Pipes have no bound here: one
    that is full only keeps schedules from happening. -/

namespace LineShell

/-! ### Errors that are captured -/

/-- The errors of the last stage's program and the collector that reads them. -/
structure Capture where
  /-- What has been written and not been gathered. -/
  left : Bytes
  /-- Whether more may be written. -/
  growing : Bool
  held : Bytes
  /-- Whether the collector is at work. -/
  gathering : Bool
  deriving DecidableEq, Repr

/-- What is done about the errors of the last stage's program. -/
inductive CaptureAct where
  | complain (bytes : Bytes)
  /-- The last writing end is closed. -/
  | shut
  /-- The collector reads a chunk, of any size. -/
  | gather (chunk : Bytes)
  /-- The collector finds the end. -/
  | finish
  deriving DecidableEq, Repr

/-- What is written. -/
def CaptureAct.given : CaptureAct → Bytes
  | complain bytes => bytes
  | _ => []

namespace Capture

/-- Nothing is captured. -/
def none : Capture := ⟨[], false, [], false⟩

/-- The collector starts. -/
def begun : Capture := ⟨[], true, [], true⟩

/-- What the next act makes of what is captured, if it can be done. -/
def step (k : Capture) : CaptureAct → Option Capture
  | .complain bytes => if k.growing then some { k with left := k.left ++ bytes } else .none
  | .shut => if k.growing then some { k with growing := false } else .none
  | .gather chunk =>
    if k.gathering ∧ chunk ≠ [] ∧ chunk <+: k.left then
      some { k with left := k.left.drop chunk.length, held := k.held ++ chunk }
    else .none
  | .finish =>
    if k.gathering ∧ k.left = [] ∧ ¬ k.growing then some { k with gathering := false } else .none

/-- What has been written is held or left, and the collector has stopped only at the end. -/
structure Books (written : Bytes) (k : Capture) : Prop where
  balance : k.held ++ k.left = written
  ended : k.gathering = false → k.left = [] ∧ k.growing = false

variable {k k' : Capture} {a : CaptureAct} {written : Bytes}

theorem Books.step (hbooks : k.Books written) (h : k.step a = some k') :
    k'.Books (written ++ a.given) := by
  obtain ⟨hbalance, hended⟩ := hbooks
  have hnil : written ++ [] = written := List.append_nil written
  cases a <;> simp only [Capture.step, Option.ite_none_right_eq_some, Option.some.injEq] at h <;>
    obtain ⟨hable, rfl⟩ := h
  case complain bytes =>
    refine ⟨?_, fun hstopped => ?_⟩
    · rw [← hbalance, List.append_assoc]
      rfl
    · rw [(hended hstopped).2] at hable
      cases hable
  case shut =>
    exact ⟨hbalance.trans hnil.symm, fun hstopped => ⟨(hended hstopped).1, rfl⟩⟩
  case gather chunk =>
    refine ⟨?_, fun hstopped => ?_⟩
    · rw [List.append_assoc, Conduit.append_drop_of_prefix hable.2.2, hbalance]
      exact hnil.symm
    · rw [hstopped] at hable
      cases hable.1
  case finish =>
    exact ⟨hbalance.trans hnil.symm, fun _ => ⟨hable.2.1, Bool.eq_false_iff.mpr hable.2.2⟩⟩

/-- Once nothing more may be written, nothing is. -/
theorem step_of_ended (hended : k.growing = false) (h : k.step a = some k') :
    k'.growing = false ∧ a.given = [] := by
  cases a <;> simp only [step, Option.ite_none_right_eq_some, Option.some.injEq] at h <;>
    obtain ⟨hable, rfl⟩ := h
  case complain bytes =>
    rw [hended] at hable
    cases hable
  case shut => exact ⟨rfl, rfl⟩
  all_goals exact ⟨hended, rfl⟩

/-- Nothing becomes of what is not captured. -/
theorem none_step (a : CaptureAct) : none.step a = .none := by
  cases a <;> rfl

/-- And a collector that has stopped does not start again. -/
theorem gathering_of_step (hstopped : k.gathering = false)
    (h : k.step a = some k') : k'.gathering = false := by
  cases a <;> simp only [step, Option.ite_none_right_eq_some, Option.some.injEq] at h <;>
    obtain ⟨hable, rfl⟩ := h
  case finish => rfl
  all_goals exact hstopped

end Capture

/-! ### The scene -/

/-- The stage has a program. -/
def Stage.runs (st : Stage) : Bool :=
  match st.start with
  | .program _ => true
  | _ => false

/-- The stage has a program whose standard input is a pipe that a pump fills. -/
def Stage.fed (st : Stage) : Bool :=
  match st.source with
  | .text _ | .previous => st.runs
  | _ => false

/-- A stage that is fed has a program, and something is handed on to it. -/
theorem Stage.fed_iff {st : Stage} {feed : Feed} (hsource : st.source = feed.source false) :
    st.fed = true ↔ st.runs = true ∧ feed ≠ .nothing := by
  rw [fed, hsource]
  cases feed <;> simp [Feed.source]

/-- The stage has a program whose errors are captured, if it is the last. -/
def Stage.captures (st : Stage) : Bool := st.runs && st.redirects.error.isNone

namespace Conduit

/-- What begins with a stage that hands something on. -/
def ofFeed : Feed → Conduit
  | .nothing => none
  | .text t => { none with left := Bytes.ofText t, holder := .shell }
  | .program => { none with growing := true, holder := .shell }

/-- The next stage is started: a pump is set to work for it, or what comes to it is dropped. -/
def meet (st : Stage) (c : Conduit) : Conduit :=
  if st.fed then { c with holder := .pump, reading := true } else { c with holder := .nobody }

end Conduit

/-- What the shell waits for when all stages have been started. -/
inductive Wait where
  /-- For the program of a stage to end. -/
  | child (i : Nat)
  /-- For the pump between a stage and the next. -/
  | pump (i : Nat)
  | collector
  deriving DecidableEq, Repr

/-- All that the shell waits for, in this order. -/
def waitsFor (stages : List Stage) : List Wait :=
  ((List.range stages.length).filter fun i => stages[i]?.any Stage.runs).map .child ++
    ((List.range stages.length).filter fun i => stages[i + 1]?.any Stage.fed).map .pump ++
      (if stages.getLast?.any Stage.captures then [.collector] else [])

section

variable {stages : List Stage} {i : Nat}

theorem lt_of_any {p : Stage → Bool} (h : stages[i]?.any p = true) : i < stages.length := by
  rcases Nat.lt_or_ge i stages.length with hi | hi
  · exact hi
  · rw [List.getElem?_eq_none hi] at h
    cases h

/-- The shell waits for every program. -/
theorem child_mem_waitsFor : .child i ∈ waitsFor stages ↔ stages[i]?.any Stage.runs = true := by
  have hmem : .child i ∈ waitsFor stages ↔
      i < stages.length ∧ stages[i]?.any Stage.runs = true := by
    rw [waitsFor]
    split <;> simp
  exact hmem.trans (and_iff_right_of_imp lt_of_any)

/-- And for every pump. -/
theorem pump_mem_waitsFor : .pump i ∈ waitsFor stages ↔ stages[i + 1]?.any Stage.fed = true := by
  have hmem : .pump i ∈ waitsFor stages ↔
      i < stages.length ∧ stages[i + 1]?.any Stage.fed = true := by
    rw [waitsFor]
    split <;> simp
  exact hmem.trans (and_iff_right_of_imp fun h => Nat.lt_of_succ_lt (lt_of_any h))

/-- And for the collector, if there is one. -/
theorem collector_mem_waitsFor :
    .collector ∈ waitsFor stages ↔ stages.getLast?.any Stage.captures = true := by
  rw [waitsFor]
  split <;> simp [*]

end

/-- A pipeline at some moment. Conduit `i` leads from stage `i` to the next. -/
structure Scene where
  session : Session
  /-- The stages that have been started. -/
  stages : List Stage
  /-- The commands that are still to be started. -/
  pending : List Command
  conduits : Nat → Conduit
  capture : Capture
  /-- How the programs have ended that have. -/
  statuses : Nat → Option WaitStatus
  /-- What the shell still has to wait for. -/
  waits : List Wait
  /-- What the pipeline has ended with, once the shell has waited for everything. -/
  outcome : Option Outcome

/-- What happens. -/
inductive Event where
  /-- The shell starts the next stage. -/
  | start
  /-- Something is done along a conduit. -/
  | act (i : Nat) (a : Act)
  | capture (a : CaptureAct)
  /-- The program of a stage ends. -/
  | exit (i : Nat) (status : WaitStatus)
  /-- The shell goes on, since what it waits for is over. -/
  | proceed
  /-- Something becomes of the files and of the shell's own streams. -/
  | elsewhere (m : Machine)

namespace Scene

/-- Before anything has been started. -/
def before (cs : List Command) (s : Session) : Scene where
  session := s
  stages := []
  pending := cs
  conduits := fun _ => .none
  capture := .none
  statuses := fun _ => none
  waits := []
  outcome := none

/-- What the stage that was started last hands on. -/
def feed (sc : Scene) : Feed :=
  match sc.stages.getLast? with
  | some st => st.feed
  | none => .nothing

/-- The next stage and the session after it has been started. The files of the last one are open
    already. -/
def next (load : Loader) (files : Redirects) (c : Command) (last : Bool) (sc : Scene) :
    Stage × Session :=
  let source := sc.feed.source sc.stages.isEmpty
  if last then
    let (start, session) := startCommand load c true sc.session
    (⟨c, files, source, start⟩, session)
  else startInner load c source sc.session

/-- The scene with one more stage. -/
def add (st : Stage) (session : Session) (rest : List Command) (sc : Scene) : Scene :=
  { sc with
    session
    stages := sc.stages ++ [st]
    pending := rest
    conduits := fun i =>
      if i = sc.stages.length then if rest = [] then .none else .ofFeed st.feed
      else if i + 1 = sc.stages.length then (sc.conduits i).meet st
      else sc.conduits i
    capture := if rest = [] ∧ st.captures then .begun else sc.capture
    waits := if rest = [] then waitsFor (sc.stages ++ [st]) else [] }

/-- Whether something that the shell waits for is over. -/
def done (sc : Scene) : Wait → Bool
  | .child i => (sc.statuses i).isSome
  | .pump i => (sc.conduits i).holder ≠ .pump
  | .collector => !sc.capture.gathering

/-- What the pipeline ends with: what the last stage ends with. -/
def result? (sc : Scene) : Option Outcome :=
  match sc.stages.getLast? with
  | none => some .silent
  | some st =>
    if st.runs then (sc.statuses (sc.stages.length - 1)).map fun status =>
      ⟨status.code, none, capturedText sc.capture.held⟩
    else some (st.finish .none sc.session.machine).1

/-- What an event makes of a scene, if it can happen. -/
def step (load : Loader) (files : Redirects) (sc : Scene) : Event → Option Scene
  | .start => match sc.pending with
    | [] => none
    | c :: rest =>
      let (st, session) := sc.next load files c rest.isEmpty
      some (sc.add st session rest)
  | .act i a => ((sc.conduits i).step a).map fun c =>
    { sc with conduits := fun j => if j = i then c else sc.conduits j }
  | .capture a => (sc.capture.step a).map fun capture => { sc with capture }
  | .exit i status =>
    if sc.stages[i]?.any Stage.runs ∧ sc.statuses i = none then
      some { sc with statuses := fun j => if j = i then some status else sc.statuses j }
    else none
  | .proceed =>
    if sc.pending = [] ∧ sc.outcome = none then
      match sc.waits with
      | w :: rest => if sc.done w then some { sc with waits := rest } else none
      | [] => sc.result?.map fun o => { sc with outcome := some o }
    else none
  | .elsewhere m => some { sc with session := { sc.session with machine := m } }

/-- What a schedule makes of a scene, if it can happen. -/
def play (load : Loader) (files : Redirects) : List Event → Scene → Option Scene
  | [], sc => some sc
  | e :: events, sc => (sc.step load files e).bind (play load files events)

theorem play_append (load : Loader) (files : Redirects) (events more : List Event) (sc : Scene) :
    play load files (events ++ more) sc =
      (play load files events sc).bind (play load files more) := by
  induction events generalizing sc with
  | nil => rfl
  | cons e events ih =>
    rw [List.cons_append, play, play]
    cases sc.step load files e with
    | none => rfl
    | some mid => exact ih mid

theorem play_trans {load : Loader} {files : Redirects} {events more : List Event}
    {sc mid sc' : Scene} (h : play load files events sc = some mid)
    (hmore : play load files more mid = some sc') :
    play load files (events ++ more) sc = some sc' := by
  rw [play_append, h]
  exact hmore

/-- What a stage hands on to the one after it, if there is one. -/
def hands (sc : Scene) (i : Nat) : Feed :=
  match sc.stages[i]? with
  | some st => if i + 1 < sc.stages.length + sc.pending.length then st.feed else .nothing
  | none => .nothing

end Scene

/-! ### What has happened -/

namespace Event

/-- What an event does along a conduit. -/
def along (i : Nat) : Event → List Act
  | act j a => if j = i then [a] else []
  | _ => []

/-- The errors that are written to be captured. -/
def complained : Event → Bytes
  | capture a => a.given
  | _ => []

end Event

/-- What has been done along a conduit. -/
def actsAlong (i : Nat) (events : List Event) : List Act := events.flatMap (Event.along i)

/-- All the errors that have been written to be captured. -/
def complainedIn (events : List Event) : Bytes := events.flatMap Event.complained

theorem actsAlong_append (i : Nat) (events more : List Event) :
    actsAlong i (events ++ more) = actsAlong i events ++ actsAlong i more :=
  List.flatMap_append

theorem actsAlong_concat (i : Nat) (events : List Event) (e : Event) :
    actsAlong i (events ++ [e]) = actsAlong i events ++ e.along i := by
  rw [actsAlong_append]
  exact congrArg _ (List.flatMap_singleton _ _)

theorem complainedIn_append (events more : List Event) :
    complainedIn (events ++ more) = complainedIn events ++ complainedIn more :=
  List.flatMap_append

theorem complainedIn_concat (events : List Event) (e : Event) :
    complainedIn (events ++ [e]) = complainedIn events ++ e.complained := by
  rw [complainedIn_append]
  exact congrArg _ (List.flatMap_singleton _ _)

/-! ### What one event does -/

namespace Scene

variable {load : Loader} {files : Redirects} {sc sc' : Scene} {e : Event} {events : List Event}

/-- What can happen along a conduit. -/
theorem step_act {i : Nat} {a : Act} (h : sc.step load files (.act i a) = some sc') :
    ∃ c, (sc.conduits i).step a = some c ∧
      sc' = { sc with conduits := fun j => if j = i then c else sc.conduits j } := by
  obtain ⟨c, hc, hsc⟩ := Option.map_eq_some_iff.mp h
  exact ⟨c, hc, hsc.symm⟩

theorem step_capture {a : CaptureAct} (h : sc.step load files (.capture a) = some sc') :
    ∃ k, sc.capture.step a = some k ∧ sc' = { sc with capture := k } := by
  obtain ⟨k, hk, hsc⟩ := Option.map_eq_some_iff.mp h
  exact ⟨k, hk, hsc.symm⟩

theorem step_exit {i : Nat} {status : WaitStatus}
    (h : sc.step load files (.exit i status) = some sc') :
    sc.statuses i = none ∧
      sc' = { sc with statuses := fun j => if j = i then some status else sc.statuses j } := by
  obtain ⟨hable, hsc⟩ := Option.ite_none_right_eq_some.mp h
  exact ⟨hable.2, (Option.some.inj hsc).symm⟩

theorem step_elsewhere {m : Machine} (h : sc.step load files (.elsewhere m) = some sc') :
    sc' = { sc with session := { sc.session with machine := m } } :=
  (Option.some.inj h).symm

/-- The shell goes on if one of the things that it waits for is over, or if there is none left. -/
theorem step_proceed (h : sc.step load files .proceed = some sc') :
    sc.pending = [] ∧ sc.outcome = none ∧
      ((∃ w rest, sc.waits = w :: rest ∧ sc.done w = true ∧ sc' = { sc with waits := rest }) ∨
        ∃ o, sc.waits = [] ∧ sc.result? = some o ∧ sc' = { sc with outcome := some o }) := by
  obtain ⟨⟨hpending, houtcome⟩, hsc⟩ := Option.ite_none_right_eq_some.mp h
  refine ⟨hpending, houtcome, ?_⟩
  cases hwaits : sc.waits with
  | nil =>
    rw [hwaits] at hsc
    obtain ⟨o, ho, hsc⟩ := Option.map_eq_some_iff.mp hsc
    exact .inr ⟨o, rfl, ho, hsc.symm⟩
  | cons w rest =>
    rw [hwaits] at hsc
    obtain ⟨hw, hsc⟩ := Option.ite_none_right_eq_some.mp hsc
    exact .inl ⟨w, rest, rfl, hw, (Option.some.inj hsc).symm⟩

/-- A stage that is started reads what the one before it hands on. -/
theorem step_start (h : sc.step load files .start = some sc') :
    ∃ c rest st session, sc.pending = c :: rest ∧
      st.source = sc.feed.source sc.stages.isEmpty ∧ sc' = sc.add st session rest := by
  rw [step] at h
  cases hpending : sc.pending with
  | nil =>
    rw [hpending] at h
    cases h
  | cons c rest =>
    rw [hpending] at h
    refine ⟨c, rest, _, _, rfl, ?_, (Option.some.inj h).symm⟩
    cases rest with
    | nil => rfl
    | cons c' rest => exact (startInner_stage load c _ sc.session).2.1

/-- An event that starts nothing leaves the stages as they are, and each conduit to what is done
    along it. -/
theorem step_frame (hstart : e ≠ .start) (h : sc.step load files e = some sc') :
    sc'.stages = sc.stages ∧ sc'.pending = sc.pending ∧
      ∀ i, (sc.conduits i).play (e.along i) = some (sc'.conduits i) := by
  cases e with
  | start => exact absurd rfl hstart
  | act i a =>
    obtain ⟨c, hc, rfl⟩ := step_act h
    refine ⟨rfl, rfl, fun j => ?_⟩
    rw [Event.along]
    by_cases hij : i = j
    · subst hij
      rw [if_pos rfl, Conduit.play, hc]
      exact congrArg some (if_pos rfl).symm
    · rw [if_neg hij, Conduit.play]
      exact congrArg some (if_neg (Ne.symm hij)).symm
  | capture a =>
    obtain ⟨k, -, rfl⟩ := step_capture h
    exact ⟨rfl, rfl, fun _ => rfl⟩
  | exit i status =>
    obtain ⟨-, rfl⟩ := step_exit h
    exact ⟨rfl, rfl, fun _ => rfl⟩
  | proceed =>
    obtain ⟨-, -, ⟨w, rest, -, -, rfl⟩ | ⟨o, -, -, rfl⟩⟩ := step_proceed h
    · exact ⟨rfl, rfl, fun _ => rfl⟩
    · exact ⟨rfl, rfl, fun _ => rfl⟩
  | elsewhere m =>
    rw [step_elsewhere h]
    exact ⟨rfl, rfl, fun _ => rfl⟩

/-- What is captured is left to what is done about it. -/
theorem step_captured (hstart : e ≠ .start) (h : sc.step load files e = some sc') :
    (∃ a, e = .capture a ∧ sc.capture.step a = some sc'.capture) ∨
      sc'.capture = sc.capture ∧ e.complained = [] := by
  cases e with
  | start => exact absurd rfl hstart
  | act i a =>
    obtain ⟨c, -, rfl⟩ := step_act h
    exact .inr ⟨rfl, rfl⟩
  | capture a =>
    obtain ⟨k, hk, rfl⟩ := step_capture h
    exact .inl ⟨a, rfl, hk⟩
  | exit i status =>
    obtain ⟨-, rfl⟩ := step_exit h
    exact .inr ⟨rfl, rfl⟩
  | proceed =>
    obtain ⟨-, -, ⟨w, rest, -, -, rfl⟩ | ⟨o, -, -, rfl⟩⟩ := step_proceed h
    · exact .inr ⟨rfl, rfl⟩
    · exact .inr ⟨rfl, rfl⟩
  | elsewhere m =>
    rw [step_elsewhere h]
    exact .inr ⟨rfl, rfl⟩

/-- What is waited for is passed by when it is over, and there is an outcome once nothing is left to
    be waited for. -/
theorem step_waits (hstart : e ≠ .start) (h : sc.step load files e = some sc') :
    (∀ w ∈ sc.waits, w ∈ sc'.waits ∨ sc.done w = true) ∧
      ∀ o, sc'.outcome = some o → sc.outcome = some o ∨
        sc.pending = [] ∧ sc.waits = [] ∧ sc.result? = some o := by
  cases e with
  | start => exact absurd rfl hstart
  | act i a =>
    obtain ⟨c, -, rfl⟩ := step_act h
    exact ⟨fun _ hw => .inl hw, fun _ ho => .inl ho⟩
  | capture a =>
    obtain ⟨k, -, rfl⟩ := step_capture h
    exact ⟨fun _ hw => .inl hw, fun _ ho => .inl ho⟩
  | exit i status =>
    obtain ⟨-, rfl⟩ := step_exit h
    exact ⟨fun _ hw => .inl hw, fun _ ho => .inl ho⟩
  | proceed =>
    obtain ⟨hpending, -, ⟨w, rest, hwaits, hw, rfl⟩ | ⟨o, hwaits, hresult, rfl⟩⟩ := step_proceed h
    · refine ⟨fun w' hw' => ?_, fun _ ho => .inl ho⟩
      rw [hwaits] at hw'
      rcases List.mem_cons.mp hw' with rfl | hw'
      · exact .inr hw
      · exact .inl hw'
    · refine ⟨fun _ hw => .inl hw, fun o' ho => .inr ⟨hpending, hwaits, ?_⟩⟩
      rw [hresult]
      exact ho
  | elsewhere m =>
    rw [step_elsewhere h]
    exact ⟨fun _ hw => .inl hw, fun _ ho => .inl ho⟩

/-- What is over stays so while no stage is started. -/
theorem done_of_step (hstart : e ≠ .start) (h : sc.step load files e = some sc') {w : Wait}
    (hw : sc.done w = true) : sc'.done w = true := by
  cases e with
  | start => exact absurd rfl hstart
  | act i a =>
    obtain ⟨c, hc, rfl⟩ := step_act h
    cases w with
    | child j => exact hw
    | collector => exact hw
    | pump j =>
      rw [done, decide_eq_true_eq] at hw ⊢
      dsimp only
      split
      · rename_i hji
        rw [hji] at hw
        exact Conduit.holder_of_step hw hc
      · exact hw
  | capture a =>
    obtain ⟨k, hk, rfl⟩ := step_capture h
    cases w with
    | child j => exact hw
    | pump j => exact hw
    | collector =>
      rw [done, Bool.not_eq_true'] at hw ⊢
      exact Capture.gathering_of_step hw hk
  | exit i status =>
    obtain ⟨-, rfl⟩ := step_exit h
    cases w with
    | child j =>
      rw [done] at hw ⊢
      dsimp only
      split
      · rfl
      · exact hw
    | pump j => exact hw
    | collector => exact hw
  | proceed =>
    obtain ⟨-, -, ⟨w', rest, -, -, rfl⟩ | ⟨o, -, -, rfl⟩⟩ := step_proceed h
    · cases w <;> exact hw
    · cases w <;> exact hw
  | elsewhere m =>
    rw [step_elsewhere h]
    cases w <;> exact hw

/-! ### One more stage -/

section

variable {st : Stage} {session : Session} {c : Command} {rest : List Command}

theorem add_length : (sc.add st session rest).stages.length = sc.stages.length + 1 :=
  List.length_append

theorem add_stages_new : (sc.add st session rest).stages[sc.stages.length]? = some st :=
  List.getElem?_concat_length

theorem add_stages {i : Nat} (hi : i ≠ sc.stages.length) :
    (sc.add st session rest).stages[i]? = sc.stages[i]? := by
  rw [add]
  rcases Nat.lt_or_gt_of_ne hi with hi | hi
  · exact List.getElem?_append_left hi
  · rw [List.getElem?_eq_none (Nat.le_of_lt hi), List.getElem?_eq_none]
    rw [List.length_append, List.length_singleton]
    exact hi

/-- What the other stages hand on does not change. -/
theorem add_hands (hpending : sc.pending = c :: rest) {i : Nat} (hi : i ≠ sc.stages.length) :
    (sc.add st session rest).hands i = sc.hands i := by
  have hcount : (sc.add st session rest).stages.length + rest.length =
      sc.stages.length + sc.pending.length := by
    rw [add_length, hpending, List.length_cons]
    omega
  have hrest : (sc.add st session rest).pending = rest := rfl
  rw [hands, hands, add_stages hi, hrest, hcount]

theorem add_conduits_new (st : Stage) (session : Session) (rest : List Command) (sc : Scene) :
    (sc.add st session rest).conduits sc.stages.length =
      .ofFeed ((sc.add st session rest).hands sc.stages.length) := by
  rw [hands, add]
  simp only [↓reduceIte, List.getElem?_concat_length, List.length_append, List.length_singleton]
  cases rest with
  | nil => rw [if_pos rfl, if_neg (by simp)]; rfl
  | cons c rest => rw [if_neg nofun, if_pos (by simp)]

/-- The conduit that leads to the new stage. -/
theorem add_conduits_next {i : Nat} (hnext : i + 1 = sc.stages.length) :
    (sc.add st session rest).conduits i = (sc.conduits i).meet st := by
  rw [add]
  dsimp only
  rw [if_neg (by omega), if_pos hnext]

theorem add_conduits {i : Nat} (hi : i ≠ sc.stages.length) (hnext : i + 1 ≠ sc.stages.length) :
    (sc.add st session rest).conduits i = sc.conduits i := by
  rw [add]
  dsimp only
  rw [if_neg hi, if_neg hnext]

/-- While there are more stages to be started, the one that was started last hands on what the next
    one reads. -/
theorem feed_eq_hands (hpending : sc.pending = c :: rest) {i : Nat}
    (hi : i + 1 = sc.stages.length) : sc.feed = sc.hands i := by
  rw [feed, hands, List.getLast?_eq_getElem?, ← hi, Nat.add_sub_cancel, hpending]
  cases sc.stages[i]? with
  | none => rfl
  | some st => exact (if_pos (by simp)).symm

end

end Scene

end LineShell
