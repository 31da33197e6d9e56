import LineShell.Proofs.Pipeline.Schedule
import Mathlib.Data.List.Induction
/-!
    Nothing is lost between the stages of a pipeline.

    What holds of one conduit (`Link`) is kept by everything that can be done along it (`Link.step`)
    and by the start of the stage that it leads to (`Link.meet`). In a scene that holds of each of
    the conduits, and the shell has passed by nothing that it waits for (`Scene.Kept`). Every event
    keeps this (`Scene.Kept.step`), so it holds at every moment of every schedule, and then nothing
    is lost, doubled or moved (`Scene.conserved_of_play`). -/

namespace LineShell

/-! ### One conduit -/

/-- What holds of a conduit along which some acts have been done: `feed` is what the stage before it
    hands on, and `next` the stage after it, if that has been started. -/
structure Link (feed : Feed) (next : Option Stage) (c : Conduit) (acts : List Act) : Prop where
  balance : gotIn acts ++ c.onWay = Bytes.ofText feed.held ++ givenIn acts
  /-- Only a program adds to what it hands on. -/
  still : feed ≠ .program → c.growing = false ∧ givenIn acts = []
  idle : next.any Stage.fed = false → c.Idle ∧ gotIn acts = []
  fed : next.any Stage.fed = true → c.Fed acts
  source (st : Stage) : next = some st → st.source = feed.source false

namespace Link

variable {feed : Feed} {next : Option Stage} {c c' : Conduit} {acts : List Act} {a : Act}

theorem begin (feed : Feed) : Link feed none (.ofFeed feed) [] := by
  have hidle : (Conduit.ofFeed feed).Idle := by cases feed <;> exact ⟨nofun, rfl, rfl, rfl⟩
  refine ⟨?_, fun hfeed => ?_, fun _ => ⟨hidle, rfl⟩, fun h => absurd h Bool.false_ne_true,
    fun _ h => nomatch h⟩
  · cases feed <;>
      simp [gotIn, givenIn, Conduit.ofFeed, Conduit.none, Conduit.onWay, Feed.held, Bytes.ofText,
        Bytes.ofChars]
  · cases feed with
    | program => exact absurd rfl hfeed
    | nothing | text t => exact ⟨rfl, rfl⟩

theorem step (hlink : Link feed next c acts) (h : c.step a = some c') :
    Link feed next c' (acts ++ [a]) where
  balance := by
    rw [gotIn_concat, givenIn_concat, List.append_assoc, Conduit.step_onWay h, ← List.append_assoc,
      hlink.balance, List.append_assoc]
  still hfeed := by
    obtain ⟨hgrowing, hgiven⟩ := hlink.still hfeed
    obtain ⟨hgrowing', ha⟩ := Conduit.step_of_still hgrowing h
    rw [givenIn_concat, hgiven, ha]
    exact ⟨hgrowing', rfl⟩
  idle hnext := by
    obtain ⟨hidle, hgot⟩ := hlink.idle hnext
    obtain ⟨hidle', ha⟩ := hidle.step h
    rw [gotIn_concat, hgot, ha]
    exact ⟨hidle', rfl⟩
  fed hnext := (hlink.fed hnext).step h
  source := hlink.source

theorem play {more : List Act} (hlink : Link feed next c acts) (h : c.play more = some c') :
    Link feed next c' (acts ++ more) := by
  induction more generalizing c acts with
  | nil =>
    obtain rfl := Option.some.inj h
    rw [List.append_nil]
    exact hlink
  | cons a more ih =>
    obtain ⟨mid, hmid, hmore⟩ := Option.bind_eq_some_iff.mp h
    rw [← List.singleton_append, ← List.append_assoc]
    exact ih (hlink.step hmid) hmore

/-- The stage that the conduit leads to is started. -/
theorem meet (hlink : Link feed none c acts) {st : Stage} (hst : st.source = feed.source false) :
    Link feed (some st) (c.meet st) acts := by
  obtain ⟨hidle, hgot⟩ := hlink.idle rfl
  have hsource : ∀ st', some st = some st' → st'.source = feed.source false := by
    rintro st' ⟨⟩
    exact hst
  cases hfed : st.fed with
  | true =>
    rw [Conduit.meet, if_pos hfed]
    refine ⟨hlink.balance, hlink.still, fun hnext => ?_, fun _ => ⟨nofun, nofun, nofun⟩, hsource⟩
    exact absurd hnext (Bool.eq_false_iff.mp · hfed)
  | false =>
    rw [Conduit.meet, if_neg (Bool.eq_false_iff.mp hfed)]
    have hidle' : ({ c with holder := .nobody } : Conduit).Idle :=
      ⟨nofun, hidle.carried, hidle.pipe, hidle.reading⟩
    refine ⟨hlink.balance, hlink.still, fun _ => ⟨hidle', hgot⟩, fun hnext => ?_, hsource⟩
    exact absurd hnext (Bool.eq_false_iff.mp hfed)

end Link

namespace Scene

variable {load : Loader} {files : Redirects} {sc sc' : Scene} {e : Event} {events : List Event}

/-! ### What holds of a scene -/

/-- The pipeline has ended with an outcome. -/
structure Returned (sc : Scene) (events : List Event) (o : Outcome) : Prop where
  started : sc.pending = []
  /-- All that the shell waits for is over. -/
  finished (w : Wait) : w ∈ waitsFor sc.stages → sc.done w = true
  errors : sc.stages.getLast?.any Stage.captures = true →
    o.error = capturedText (complainedIn events)

/-- What holds of a scene after the events that have led to it. -/
structure Kept (sc : Scene) (events : List Event) : Prop where
  link (i : Nat) : Link (sc.hands i) sc.stages[i + 1]? (sc.conduits i) (actsAlong i events)
  /-- Nothing is done along the conduit of a stage that has not been started. -/
  fresh (i : Nat) : sc.stages.length ≤ i → sc.conduits i = .none ∧ actsAlong i events = []
  /-- Nothing is captured before the last stage. -/
  uncaptured : sc.pending ≠ [] → sc.capture = .none ∧ complainedIn events = []
  books : sc.capture.Books (complainedIn events)
  /-- Nothing is passed by that is not over. -/
  waiting (w : Wait) : sc.pending = [] → w ∈ waitsFor sc.stages → w ∈ sc.waits ∨ sc.done w = true
  returned (o : Outcome) : sc.outcome = some o → sc.Returned events o

namespace Kept

theorem before (cs : List Command) (s : Session) : (before cs s).Kept [] where
  link _ := .begin .nothing
  fresh _ _ := ⟨rfl, rfl⟩
  uncaptured _ := ⟨rfl, rfl⟩
  books := ⟨rfl, fun _ => ⟨rfl, rfl⟩⟩
  waiting w _ hw := by simp [waitsFor, Scene.before] at hw
  returned _ ho := nomatch ho

section

variable {st : Stage} {session : Session} {c : Command} {rest : List Command}

theorem link_add (hkept : sc.Kept events) (hpending : sc.pending = c :: rest)
    (hsource : st.source = sc.feed.source sc.stages.isEmpty) (i : Nat) :
    Link ((sc.add st session rest).hands i) (sc.add st session rest).stages[i + 1]?
      ((sc.add st session rest).conduits i) (actsAlong i events) := by
  by_cases hnew : i = sc.stages.length
  · have hnone : (sc.add st session rest).stages[i + 1]? = none :=
      List.getElem?_eq_none (Nat.le_of_eq (by rw [add_length, hnew]))
    rw [hnone, (hkept.fresh i (Nat.le_of_eq hnew.symm)).2, hnew, add_conduits_new]
    exact .begin _
  have hlink := hkept.link i
  rw [add_hands hpending hnew]
  by_cases hnext : i + 1 = sc.stages.length
  · have hinner : sc.stages.isEmpty = false := by
      rw [List.isEmpty_eq_false_iff, ← List.length_pos_iff, ← hnext]
      exact Nat.succ_pos i
    rw [hnext, List.getElem?_eq_none (Nat.le_refl _)] at hlink
    rw [hinner, feed_eq_hands hpending hnext] at hsource
    rw [add_conduits_next hnext, hnext, add_stages_new]
    exact hlink.meet hsource
  · rw [add_stages hnext, add_conduits hnew hnext]
    exact hlink

/-- The shell starts a stage. -/
theorem start (hkept : sc.Kept events) (hpending : sc.pending = c :: rest)
    (hsource : st.source = sc.feed.source sc.stages.isEmpty) :
    (sc.add st session rest).Kept (events ++ [.start]) := by
  have hacts (i : Nat) : actsAlong i (events ++ [.start]) = actsAlong i events :=
    (actsAlong_concat i events .start).trans (List.append_nil _)
  have hquiet : complainedIn (events ++ [.start]) = complainedIn events :=
    (complainedIn_concat events .start).trans (List.append_nil _)
  obtain ⟨hcapture, hcomplained⟩ := hkept.uncaptured (hpending ▸ List.cons_ne_nil c rest)
  constructor
  case link =>
    intro i
    rw [hacts]
    exact hkept.link_add hpending hsource i
  case fresh =>
    intro i hi
    rw [add_length] at hi
    rw [hacts, add_conduits (by omega) (by omega)]
    exact hkept.fresh i (by omega)
  case uncaptured =>
    exact fun hrest => ⟨(if_neg fun h => hrest h.1).trans hcapture, hquiet.trans hcomplained⟩
  case books =>
    rw [hquiet, add]
    dsimp only
    split
    · rw [hcomplained]
      exact ⟨rfl, fun hstopped => Bool.noConfusion hstopped⟩
    · exact hkept.books
  case waiting =>
    intro w hrest hw
    have hwaits : (sc.add st session rest).waits = waitsFor (sc.stages ++ [st]) := if_pos hrest
    rw [hwaits]
    exact .inl hw
  case returned =>
    intro o ho
    have hstarted := (hkept.returned o ho).started
    rw [hpending] at hstarted
    cases hstarted

end

theorem error_of_result (hlast : sc.stages.getLast?.any Stage.captures = true) {o : Outcome}
    (h : sc.result? = some o) : o.error = capturedText sc.capture.held := by
  rw [result?] at h
  cases hst : sc.stages.getLast? with
  | none =>
    rw [hst] at hlast
    cases hlast
  | some st =>
    rw [hst] at hlast h
    have hruns : st.runs = true := (Bool.and_eq_true_iff.mp hlast).1
    dsimp only at h
    rw [if_pos hruns] at h
    obtain ⟨status, -, rfl⟩ := Option.map_eq_some_iff.mp h
    rfl

/-- When all that the shell waits for is over, the errors have all been gathered. -/
theorem gathered (hkept : sc.Kept events) (hlast : sc.stages.getLast?.any Stage.captures = true)
    (hover : ∀ w ∈ waitsFor sc.stages, sc.done w = true) :
    sc.capture.held = complainedIn events ∧ sc.capture.growing = false := by
  have hstopped := hover _ (collector_mem_waitsFor.mpr hlast)
  rw [done, Bool.not_eq_true'] at hstopped
  obtain ⟨hleft, hgrowing⟩ := hkept.books.ended hstopped
  refine ⟨?_, hgrowing⟩
  rw [← hkept.books.balance, hleft, List.append_nil]

/-- When nothing is left that the shell waits for, the pipeline has ended. -/
theorem returned_of_result (hkept : sc.Kept events) (hpending : sc.pending = [])
    (hwaits : sc.waits = []) {o : Outcome} (hresult : sc.result? = some o) :
    sc.Returned events o := by
  have hfinished (w : Wait) (hw : w ∈ waitsFor sc.stages) : sc.done w = true := by
    refine (hkept.waiting w hpending hw).resolve_left fun hleft => ?_
    rw [hwaits] at hleft
    cases hleft
  refine ⟨hpending, hfinished, fun hlast => ?_⟩
  rw [← (hkept.gathered hlast hfinished).1]
  exact error_of_result hlast hresult

/-- And it stays ended, with all that has been written. -/
theorem returned_step (hkept : sc.Kept events) (hstart : e ≠ .start)
    (h : sc.step load files e = some sc') {o : Outcome} (hreturned : sc.Returned events o) :
    sc'.Returned (events ++ [e]) o := by
  obtain ⟨hstages, hpending, -⟩ := step_frame hstart h
  obtain ⟨hstarted, hfinished, herrors⟩ := hreturned
  refine ⟨hpending.trans hstarted,
    fun w hw => done_of_step hstart h (hfinished w (hstages ▸ hw)), fun hlast => ?_⟩
  rw [hstages] at hlast
  have hquiet : e.complained = [] := by
    rcases step_captured hstart h with ⟨a, rfl, ha⟩ | ⟨-, hquiet⟩
    · exact (Capture.step_of_ended (hkept.gathered hlast hfinished).2 ha).2
    · exact hquiet
  rw [complainedIn_concat, hquiet, List.append_nil]
  exact herrors hlast

/-- Every event keeps what holds of a scene. -/
theorem step (hkept : sc.Kept events) (h : sc.step load files e = some sc') :
    sc'.Kept (events ++ [e]) := by
  by_cases hstart : e = .start
  · subst hstart
    obtain ⟨c, rest, st, session, hpending, hsource, rfl⟩ := step_start h
    exact hkept.start hpending hsource
  obtain ⟨hstages, hpending, hconduits⟩ := step_frame hstart h
  obtain ⟨hwaits, houtcome⟩ := step_waits hstart h
  constructor
  case link =>
    intro i
    rw [hands, hstages, hpending, actsAlong_concat]
    exact (hkept.link i).play (hconduits i)
  case fresh =>
    intro i hi
    obtain ⟨hnone, hacts⟩ := hkept.fresh i (hstages ▸ hi)
    have hplay := hconduits i
    rw [hnone] at hplay
    obtain ⟨hnone', halong⟩ := Conduit.none_play hplay
    rw [actsAlong_concat, hacts, halong]
    exact ⟨hnone', rfl⟩
  case uncaptured =>
    intro hp
    obtain ⟨hnone, hcomplained⟩ := hkept.uncaptured (hpending ▸ hp)
    rw [complainedIn_concat, hcomplained]
    rcases step_captured hstart h with ⟨a, -, ha⟩ | ⟨hsame, hquiet⟩
    · rw [hnone, Capture.none_step] at ha
      cases ha
    · exact ⟨hsame.trans hnone, hquiet⟩
  case books =>
    rw [complainedIn_concat]
    rcases step_captured hstart h with ⟨a, rfl, ha⟩ | ⟨hsame, hquiet⟩
    · exact hkept.books.step ha
    · rw [hsame, hquiet, List.append_nil]
      exact hkept.books
  case waiting =>
    intro w hp hw
    rcases hkept.waiting w (hpending ▸ hp) (hstages ▸ hw) with hleft | hdone
    · exact (hwaits w hleft).imp_right (done_of_step hstart h)
    · exact .inr (done_of_step hstart h hdone)
  case returned =>
    intro o ho
    rcases houtcome o ho with hold | ⟨hp, hnil, hresult⟩
    · exact hkept.returned_step hstart h (hkept.returned o hold)
    · exact hkept.returned_step hstart h (hkept.returned_of_result hp hnil hresult)

end Kept

/-- At every moment of a schedule. -/
theorem kept_of_play {cs : List Command} {s : Session}
    (h : play load files events (.before cs s) = some sc) : sc.Kept events := by
  induction events using List.reverseRecOn generalizing sc with
  | nil =>
    obtain rfl := Option.some.inj h
    exact .before cs s
  | append_singleton events e ih =>
    rw [play_append] at h
    obtain ⟨mid, hmid, hlast⟩ := Option.bind_eq_some_iff.mp h
    obtain ⟨sc', hstep, hplay⟩ := Option.bind_eq_some_iff.mp hlast
    obtain rfl := Option.some.inj hplay
    exact (ih hmid).step hstep

/-! ### What comes of it -/

/-- Stages that have been started stay, and so does what they hand on. -/
theorem hands_of_play {more : List Event} {i : Nat} (hi : i < sc.stages.length)
    (h : play load files more sc = some sc') :
    i < sc'.stages.length ∧ sc'.hands i = sc.hands i := by
  induction more generalizing sc with
  | nil =>
    obtain rfl := Option.some.inj h
    exact ⟨hi, rfl⟩
  | cons e more ih =>
    obtain ⟨mid, hmid, hmore⟩ := Option.bind_eq_some_iff.mp h
    have hstep : i < mid.stages.length ∧ mid.hands i = sc.hands i := by
      by_cases hstart : e = .start
      · subst hstart
        obtain ⟨c, rest, st, session, hpending, -, rfl⟩ := step_start hmid
        exact ⟨by rw [add_length]; omega, add_hands hpending (Nat.ne_of_lt hi)⟩
      · obtain ⟨hstages, hpending, -⟩ := step_frame hstart hmid
        rw [hands, hands, hstages, hpending]
        exact ⟨hi, rfl⟩
    obtain ⟨hi', hhands⟩ := ih hstep.1 hmore
    exact ⟨hi', hhands.trans hstep.2⟩

/-- Once the last stage has been started and its errors have come to their end, no more are
    written. -/
theorem quiet_of_play {more : List Event} (hpending : sc.pending = [])
    (hended : sc.capture.growing = false) (h : play load files more sc = some sc') :
    complainedIn more = [] := by
  induction more generalizing sc with
  | nil => rfl
  | cons e more ih =>
    obtain ⟨mid, hmid, hmore⟩ := Option.bind_eq_some_iff.mp h
    have hstart : e ≠ .start := by
      rintro rfl
      obtain ⟨c, rest, -, -, hpending', -⟩ := step_start hmid
      rw [hpending] at hpending'
      cases hpending'
    have hquiet : mid.capture.growing = false ∧ e.complained = [] := by
      rcases step_captured hstart hmid with ⟨a, rfl, ha⟩ | ⟨hsame, hquiet⟩
      · exact Capture.step_of_ended hended ha
      · exact ⟨hsame ▸ hended, hquiet⟩
    have hrest := ih ((step_frame hstart hmid).2.1.trans hpending) hquiet.1 hmore
    rw [← List.singleton_append, complainedIn_append, hrest, List.append_nil]
    exact (List.flatMap_singleton _ _).trans hquiet.2

end Scene

/-- All that a source puts out which hands on `feed`, when these acts have been done. -/
def Feed.output (acts : List Act) : Feed → Bytes
  | .nothing => []
  | .text t => Bytes.ofText t
  | .program => givenIn acts

/-- What is on its way from the source to the program, and has been taken from the one and not read
    by the other. -/
def Conduit.inFlight (c : Conduit) : Bytes := c.pipe ++ c.carried

/-- What holds in a schedule of a pipeline at the moment at which it has come to a scene. -/
structure Scene.Conserved (load : Loader) (files : Redirects) (events : List Event) (sc : Scene) :
    Prop where
  /-- What a stage has read, then what is in flight, then what the stage before it has not yet
      delivered are all that the stage before it has put out. -/
  edge (i : Nat) : gotIn (actsAlong i events) ++ (sc.conduits i).inFlight ++ (sc.conduits i).left =
    (sc.hands i).output (actsAlong i events)
  /-- With what it puts out from now on, all that it ever puts out. -/
  ahead (i : Nat) (more : List Event) (sc' : Scene) : i < sc.stages.length →
    Scene.play load files more sc = some sc' →
      gotIn (actsAlong i events) ++ (sc.conduits i).inFlight ++
          ((sc.conduits i).left ++ givenIn (actsAlong i more)) =
        (sc.hands i).output (actsAlong i (events ++ more))
  /-- A program reads what is handed on to it, if anything is, through a pump. -/
  fed (i : Nat) (st : Stage) : sc.stages[i + 1]? = some st →
    (st.fed = true ↔ st.runs = true ∧ sc.hands i ≠ .nothing)
  unfed (i : Nat) : sc.stages[i + 1]?.any Stage.fed = false → gotIn (actsAlong i events) = []
  /-- Its input is closed only after the source is exhausted or when it has closed it itself. -/
  closed (i : Nat) (st : Stage) : sc.stages[i + 1]? = some st → st.fed = true →
    (sc.conduits i).holder = .nobody → (sc.conduits i).Exhausted ∨ .leave ∈ actsAlong i events
  /-- When the pipeline returns, no pump is at work. -/
  joined (o : Outcome) (i : Nat) (st : Stage) : sc.outcome = some o → sc.stages[i + 1]? = some st →
    st.fed = true → (sc.conduits i).holder = .nobody
  /-- And the errors that it returns are all that have been and ever will be written. -/
  captured (o : Outcome) (st : Stage) : sc.outcome = some o → sc.stages.getLast? = some st →
    st.captures = true → o.error = capturedText (complainedIn events) ∧
      ∀ more sc', Scene.play load files more sc = some sc' → complainedIn more = []

namespace Link

variable {feed : Feed} {next : Option Stage} {c : Conduit} {acts more : List Act}

theorem output_eq (hlink : Link feed next c acts) :
    gotIn acts ++ c.onWay = feed.output acts := by
  rw [hlink.balance]
  cases feed with
  | program => rfl
  | nothing | text t =>
    rw [(hlink.still nofun).2, List.append_nil]
    rfl

/-- What is put out later comes after all that has been put out. -/
theorem output_append (feed : Feed) (hmore : feed ≠ .program → givenIn more = []) :
    feed.output acts ++ givenIn more = feed.output (acts ++ more) := by
  cases feed with
  | program => exact (givenIn_append acts more).symm
  | nothing | text t =>
    rw [hmore nofun, List.append_nil]
    rfl

theorem fed_iff (hlink : Link feed next c acts) {st : Stage} (hst : next = some st) :
    st.fed = true ↔ st.runs = true ∧ feed ≠ .nothing :=
  Stage.fed_iff (hlink.source st hst)

end Link

/-- In every schedule and at every moment, all that is put out is read, on its way or left, in its
    order. -/
theorem Scene.conserved_of_play {load : Loader} {files : Redirects} {cs : List Command}
    {s : Session} {events : List Event} {sc : Scene}
    (h : play load files events (.before cs s) = some sc) : sc.Conserved load files events := by
  have hkept := kept_of_play h
  have hlater {more : List Event} {sc' : Scene} (hmore : play load files more sc = some sc') :
      sc'.Kept (events ++ more) :=
    kept_of_play (play_trans h hmore)
  constructor
  case edge =>
    intro i
    rw [← (hkept.link i).output_eq, List.append_assoc]
    rfl
  case ahead =>
    intro i more sc' hi hmore
    have hmove := (hands_of_play hi hmore).2
    have hstill (hfeed : sc.hands i ≠ .program) : givenIn (actsAlong i more) = [] := by
      have hgiven := (((hlater hmore).link i).still (hmove ▸ hfeed)).2
      rw [actsAlong_append, givenIn_append] at hgiven
      exact (List.append_eq_nil_iff.mp hgiven).2
    rw [actsAlong_append, ← Link.output_append _ hstill, ← (hkept.link i).output_eq]
    simp only [Conduit.inFlight, Conduit.onWay, List.append_assoc]
  case fed =>
    intro i st hst
    exact (hkept.link i).fed_iff hst
  case unfed =>
    intro i hnext
    exact ((hkept.link i).idle hnext).2
  case closed =>
    intro i st hst hfed
    exact ((hkept.link i).fed (by rw [hst]; exact hfed)).closed
  case joined =>
    intro o i st ho hst hfed
    have hnext : sc.stages[i + 1]?.any Stage.fed = true := by rw [hst]; exact hfed
    have hover := (hkept.returned o ho).finished _ (pump_mem_waitsFor.mpr hnext)
    rw [done, decide_eq_true_eq] at hover
    have hshell := ((hkept.link i).fed hnext).holder
    cases hholder : (sc.conduits i).holder with
    | shell => exact absurd hholder hshell
    | pump => exact absurd hholder hover
    | nobody => rfl
  case captured =>
    intro o st ho hst hcaptures
    have hlast : sc.stages.getLast?.any Stage.captures = true := by rw [hst]; exact hcaptures
    obtain ⟨hstarted, hover, herrors⟩ := hkept.returned o ho
    have hended := (hkept.gathered hlast hover).2
    exact ⟨herrors hlast, fun _ _ => quiet_of_play hstarted hended⟩

end LineShell
