import LineShell.Proofs.Line.Roles
import LineShell.Proofs.Session.Ways
/-!
    Files that a line carries along.

    A stage touches no place but those that its own targets lead to, and those that its program does
    something to. So what is at a place is carried through a line that has nothing to do with it,
    and what the shell's standard output and error have received stays there in any case
    (`Carried`): a lemma for each operation, the stages by induction. -/

namespace LineShell

/-! ### Opening a target -/

section

variable {e : Environment} {m : Machine} {target : Target}

theorem openChannel_error {fault : Fault}
    (h : (m.openFile (e.fromHere target.path) target.append).1 = .error fault) :
    openChannel e m (some target) = (.error (.redirect (e.fromHere target.path) fault), m) := by
  rcases hopen : m.openFile (e.fromHere target.path) target.append with ⟨_ | f, m'⟩
  · rw [hopen] at h
    cases h
    -- what cannot be opened is left alone
    obtain ⟨hfile, hmachine⟩ := Machine.eq_of_openFile hopen
    have hsame : m' = m := by
      rw [hmachine, FileTree.openFile_error hfile]
    unfold openChannel
    dsimp only
    rw [hopen, hsame]
  · rw [hopen] at h
    cases h

theorem openChannel_ok {f : OpenFile} {m' : Machine}
    (h : m.openFile (e.fromHere target.path) target.append = (.ok f, m')) :
    openChannel e m (some target) = (.ok (some f), m') := by
  unfold openChannel
  dsimp only
  rw [h]

theorem openChannel_none (e : Environment) (m : Machine) :
    openChannel e m none = (.ok none, m) := rfl

end

/-! ### Targets and their places -/

/-- The file that one channel is redirected to. -/
def Redirects.file? (files : Redirects) : Channel → Option OpenFile
  | .output => files.output
  | .error => files.error

/-- The place that a target leads to. -/
def Session.targetPlace? (s : Session) (target : Target) : Option Place :=
  s.machine.tree.filePlace? s.machine.workDir (s.env.fromHere target.path)

/-- No target of the command leads to one of the places. -/
def Command.Avoids (c : Command) (s : Session) (ps : List Place) : Prop :=
  ∀ channel target, c.target? channel = some target → ∀ p ∈ ps, s.targetPlace? target ≠ some p

/-- No file is at one of the places. -/
def Redirects.Avoid (files : Redirects) (ps : List Place) : Prop :=
  ∀ channel f, files.file? channel = some f → f.place ∉ ps

/-- All paths lead to the same places. -/
structure Session.SameView (s t : Session) : Prop where
  env : t.env = s.env
  workDir : t.machine.workDir = s.machine.workDir
  ways : s.machine.SameWays t.machine

namespace Session.SameView

variable {s t : Session} {load : Loader} {c : Command} {cs : List Command} {ps : List Place}

theorem ofUndisturbed (h : s.Undisturbed t) (hways : s.machine.SameWays t.machine) :
    s.SameView t := ⟨h.env, h.machine.workDir, hways⟩

theorem trans {s₁ s₂ s₃ : Session} (h : s₁.SameView s₂) (h' : s₂.SameView s₃) : s₁.SameView s₃ :=
  ⟨h'.env.trans h.env, h'.workDir.trans h.workDir, h.ways.trans h'.ways⟩

theorem openChannel {target : Option Target} {r : Except Failure (Option OpenFile)} {m : Machine}
    (h : openChannel s.env s.machine target = (r, m)) : s.SameView { s with machine := m } := by
  have hundisturbed := Machine.Undisturbed.openChannel s.env s.machine target
  have hways := Machine.SameWays.openChannel s.env s.machine target
  rw [h] at hundisturbed hways
  exact ofUndisturbed (.ofMachine hundisturbed) hways

theorem openChannels (c : Command) (s : Session) :
    s.SameView { s with machine := (openChannels s.env s.machine c).2 } :=
  .ofUndisturbed (.ofMachine (.openChannels s.env s.machine c)) (.openChannels s.env s.machine c)

theorem startInner (load : Loader) (c : Command) (source : Source) (s : Session) :
    s.SameView (startInner load c source s).2 :=
  .ofUndisturbed (startInner_undisturbed load c source s) (.startInner load c source s)

theorem startedBefore (load : Loader) (cs : List Command) (s : Session) :
    s.SameView (startedBefore load cs s) :=
  .ofUndisturbed (startedBefore_undisturbed load cs s) (.startedBefore load cs s)

theorem targetPlace? (h : s.SameView t) (target : Target) :
    t.targetPlace? target = s.targetPlace? target := by
  rw [Session.targetPlace?, Session.targetPlace?, h.env, h.workDir]
  exact FileTree.SameWays.filePlace? h.ways _ _

theorem avoids (h : s.SameView t) (hc : c.Avoids s ps) : c.Avoids t ps := by
  intro channel target htarget p hp
  rw [h.targetPlace?]
  exact hc channel target htarget p hp

end Session.SameView

/-! ### What is carried along -/

/-- What is at some places is as it was, and what the shell's standard output and error have
    received is still there. -/
structure Machine.Carried (ps : List Place) (m m' : Machine) : Prop where
  places (p : Place) : p ∈ ps → m'.tree.get? p = m.tree.get? p
  output : m.output <+: m'.output
  diagnostics : m.diagnostics <+: m'.diagnostics

namespace Machine.Carried

variable {ps : List Place} {m m' : Machine} {f : OpenFile}

theorem refl (ps : List Place) (m : Machine) : m.Carried ps m :=
  ⟨fun _ _ => rfl, List.prefix_refl _, List.prefix_refl _⟩

theorem trans {m₁ m₂ m₃ : Machine} (h : m₁.Carried ps m₂) (h' : m₂.Carried ps m₃) :
    m₁.Carried ps m₃ :=
  ⟨fun p hp => (h'.places p hp).trans (h.places p hp), h.output.trans h'.output,
    h.diagnostics.trans h'.diagnostics⟩

theorem ofTree {t : FileTree} (h : ∀ p ∈ ps, t.get? p = m.tree.get? p) :
    m.Carried ps { m with tree := t } :=
  ⟨h, List.prefix_refl _, List.prefix_refl _⟩

theorem complain (ps : List Place) (m : Machine) (text : String) :
    m.Carried ps (m.complain text) :=
  ⟨fun _ _ => rfl, List.prefix_refl _, List.prefix_append _ _⟩

theorem writeText (hf : f.place ∉ ps) (m : Machine) (text : String) :
    m.Carried ps (m.writeText f text) := by
  rw [m.writeText_eq]
  refine ofTree fun p hp => m.tree.write_sameBut f _ p ?_
  rintro rfl
  exact hf hp

theorem report {file : Option OpenFile} (hfile : ∀ f, file = some f → f.place ∉ ps) (m : Machine)
    (text : String) : m.Carried ps (m.report file text) := by
  cases file with
  | none => exact complain ps m text
  | some f => exact writeText (hfile f rfl) m text

end Machine.Carried

variable {load : Loader} {ps : List Place} {s t : Session} {c : Command} {cs : List Command}
  {files : Redirects} {st : Stage} {m m' : Machine}

/-! ### Starting stages -/

theorem openChannel_carried {target : Option Target} {r : Except Failure (Option OpenFile)}
    (hopen : openChannel s.env s.machine target = (r, m'))
    (havoids : ∀ t, target = some t → ∀ p ∈ ps, s.targetPlace? t ≠ some p) :
    s.machine.Carried ps m' ∧ ∀ f, r = .ok (some f) → f.place ∉ ps := by
  cases target with
  | none =>
    cases hopen
    exact ⟨.refl ps _, nofun⟩
  | some target =>
    rcases hfile : s.machine.openFile (s.env.fromHere target.path) target.append with ⟨e | f, m₁⟩
    · rw [openChannel_error (by rw [hfile])] at hopen
      cases hopen
      exact ⟨.refl ps _, nofun⟩
    · rw [openChannel_ok hfile] at hopen
      cases hopen
      obtain ⟨htree, hmachine⟩ := Machine.eq_of_openFile hfile
      have hplace : s.targetPlace? target = some f.place :=
        FileTree.filePlace?_of_openFile (congrArg Prod.fst htree)
      have hf : f.place ∉ ps := fun hmem => havoids target rfl f.place hmem hplace
      refine ⟨?_, fun f' hf' => ?_⟩
      · rw [hmachine]
        refine .ofTree fun p hp => (FileTree.openFile_ok htree).2.1 p ?_
        rintro rfl
        exact hf hp
      · cases hf'
        exact hf

theorem openChannels_carried (havoids : c.Avoids s ps) :
    s.machine.Carried ps (openChannels s.env s.machine c).2 ∧
      ∀ files, (openChannels s.env s.machine c).1 = .ok files → files.Avoid ps := by
  unfold openChannels
  rcases hout : openChannel s.env s.machine c.output with ⟨e | output, m₁⟩
  · exact ⟨(openChannel_carried hout (havoids .output)).1, nofun⟩
  · obtain ⟨hcarried, houtput⟩ := openChannel_carried hout (havoids .output)
    have hsecond := (Session.SameView.openChannel hout).avoids havoids
    dsimp only
    rcases herr : openChannel s.env m₁ c.error with ⟨e | error, m₂⟩
    · have hrest := openChannel_carried (s := { s with machine := m₁ }) herr (hsecond .error)
      exact ⟨hcarried.trans hrest.1, nofun⟩
    · have hrest := openChannel_carried (s := { s with machine := m₁ }) herr (hsecond .error)
      refine ⟨hcarried.trans hrest.1, fun files hfiles => ?_⟩
      cases hfiles
      intro channel f hf
      cases channel with
      | output => exact houtput f (by rw [← hf]; rfl)
      | error => exact hrest.2 f (by rw [← hf]; rfl)

theorem settle_carried (h : st.redirects.Avoid ps) (m : Machine) : m.Carried ps (st.settle m) := by
  rw [Stage.settle]
  cases st.start with
  | refused e => exact .complain ps m _
  | unknown => exact .refl ps m
  | unstartable fault => exact .complain ps m _
  | program b => exact .refl ps m
  | builtin outcome =>
    have herror := Machine.Carried.report (h .error) m (outcome.error.getD "")
    dsimp only
    cases houtput : st.redirects.output with
    | none => exact herror
    | some f => exact herror.trans (.writeText (h .output f houtput) _ _)

theorem startInner_carried (load : Loader) (havoids : c.Avoids s ps) (source : Source) :
    s.machine.Carried ps (startInner load c source s).2.machine ∧
      (startInner load c source s).1.redirects.Avoid ps := by
  obtain ⟨hcarried, hfiles⟩ := openChannels_carried havoids
  rcases hopen : openChannels s.env s.machine c with ⟨e | files, m₁⟩ <;>
    rw [hopen] at hcarried hfiles
  · rw [startInner_of_error hopen]
    exact ⟨hcarried.trans (.complain ps _ _), fun channel f hf => by cases channel <;> cases hf⟩
  · rw [startInner_of_ok hopen]
    exact ⟨hcarried.trans (settle_carried (hfiles files rfl) m₁), hfiles files rfl⟩

theorem startedBefore_carried (load : Loader) (havoids : ∀ c ∈ cs, c.Avoids s ps) :
    s.machine.Carried ps (startedBefore load cs s).machine := by
  induction cs generalizing s with
  | nil => exact .refl ps s.machine
  | cons c cs ih =>
    have hview := Session.SameView.startInner load c .nothing s
    have hfirst := (startInner_carried load (havoids c List.mem_cons_self) .nothing).1
    exact hfirst.trans (ih fun c' hc' => hview.avoids (havoids c' (List.mem_cons_of_mem c hc')))

/-- The stage has no program, or one that is given no file at one of the places. -/
def Stage.Harmless (ps : List Place) (st : Stage) : Prop :=
  (∀ b, st.start ≠ .program b) ∨ st.redirects.Avoid ps

/-- A builtin is no program. -/
theorem startCommand_idle (hc : Builtin.ofName? c.name ≠ none) (load : Loader) (staged : Bool)
    (s : Session) (b : Behaviour) : (startCommand load c staged s).1 ≠ .program b := by
  obtain ⟨builtin, hbuiltin⟩ := Option.ne_none_iff_exists'.mp hc
  rw [startCommand, meaningOf, hbuiltin]
  intro hprogram
  cases hprogram

theorem startInner_harmless (hc : Builtin.ofName? c.name ≠ none ∨ c.Avoids s ps) (source : Source) :
    (startInner load c source s).1.Harmless ps := by
  rcases hc with hbuiltin | havoids
  · left
    rcases hopen : openChannels s.env s.machine c with ⟨e | files, m₁⟩
    · rw [startInner_of_error hopen]
      exact nofun
    · rw [startInner_of_ok hopen]
      exact startCommand_idle hbuiltin load true _
  · exact .inr (startInner_carried load havoids source).2

theorem startStages_harmless
    (hinner : ∀ c ∈ cs.dropLast, Builtin.ofName? c.name ≠ none ∨ c.Avoids s ps)
    (hlast : ∀ c ∈ cs.getLast?, Builtin.ofName? c.name ≠ none ∨ files.Avoid ps) (first : Bool)
    (feed : Feed) : ∀ st ∈ (startStages load files first feed cs s).1, st.Harmless ps := by
  induction cs generalizing first feed s with
  | nil => exact fun st hst => nomatch hst
  | cons c cs ih =>
    cases cs with
    | nil =>
      intro st hst
      rw [List.mem_singleton.mp hst]
      rcases hlast c rfl with hbuiltin | hfiles
      · exact .inl (startCommand_idle hbuiltin load true s)
      · exact .inr hfiles
    | cons c' cs =>
      have hview := Session.SameView.startInner load c (feed.source first) s
      intro st hst
      rcases List.mem_cons.mp hst with rfl | hst
      · exact startInner_harmless (hinner c List.mem_cons_self) _
      · refine ih (fun d hd => ?_) (fun d hd => hlast d ?_) _ _ st hst
        · rcases hinner d (List.mem_cons_of_mem c hd) with hbuiltin | havoids
          · exact .inl hbuiltin
          · exact .inr (hview.avoids havoids)
        · rwa [List.getLast?_cons_cons]

/-! ### Running programs -/

/-- No file that is written to is at one of the places. -/
def Outflows.Avoid (k : Outflows) (ps : List Place) : Prop :=
  ∀ f, k.output = .file f ∨ k.error = .file f → f.place ∉ ps

theorem Machine.writeOpen_place (m : Machine) (f : OpenFile) (bytes : Bytes) :
    (m.writeOpen f bytes).1.place = f.place := by
  unfold writeOpen FileTree.writeAnyway
  have hplace : ∀ g, (m.tree.write f bytes).1 = .ok g → g.place = f.place := by
    intro g hg
    unfold FileTree.write at hg
    repeat' split at hg
    all_goals cases hg <;> rfl
  rcases hwrite : m.tree.write f bytes with ⟨e | g, t⟩
  · rfl
  · exact hplace g (by rw [hwrite])

theorem Outflow.write_carried {o : Outflow} (ho : ∀ f, o = .file f → f.place ∉ ps)
    (channel : Channel) (bytes : Bytes) (m : Machine) :
    m.Carried ps (o.write channel bytes m).2 ∧
      ∀ f, (o.write channel bytes m).1 = .file f → f.place ∉ ps := by
  cases o with
  | shell =>
    refine ⟨?_, nofun⟩
    cases channel with
    | output => exact ⟨fun _ _ => rfl, List.prefix_append _ _, List.prefix_refl _⟩
    | error => exact ⟨fun _ _ => rfl, List.prefix_refl _, List.prefix_append _ _⟩
  | pipe written => exact ⟨.refl ps m, nofun⟩
  | file f =>
    refine ⟨?_, fun g hg => ?_⟩
    · have hwrite : m.writeOpen f bytes =
          ((m.tree.writeAnyway f bytes).1, { m with tree := (m.tree.writeAnyway f bytes).2 }) := rfl
      have htree : (m.tree.writeAnyway f bytes).2 = (m.tree.write f bytes).2 := by
        rw [FileTree.writeAnyway]
        rcases m.tree.write f bytes with ⟨_ | _, t⟩ <;> rfl
      rw [write, hwrite, htree]
      refine .ofTree fun p hp => m.tree.write_sameBut f bytes p ?_
      rintro rfl
      exact ho f rfl hp
    · have hopen : (m.writeOpen f bytes).1 = g := Outflow.file.inj hg
      rw [← hopen, m.writeOpen_place]
      exact ho f rfl

theorem Outflows.deliver_carried {k : Outflows} (hk : k.Avoid ps)
    (writes : List (Channel × Bytes)) (m : Machine) : m.Carried ps (k.deliver writes m).2 := by
  induction writes generalizing k m with
  | nil => exact .refl ps m
  | cons w writes ih =>
    rcases w with ⟨_ | _, bytes⟩
    · obtain ⟨hcarried, hfile⟩ :=
        Outflow.write_carried (fun f hf => hk f (.inl hf)) .output bytes m
      refine hcarried.trans (ih ?_ _)
      rintro f (hf | hf)
      · exact hfile f hf
      · exact hk f (.inr hf)
    · obtain ⟨hcarried, hfile⟩ :=
        Outflow.write_carried (fun f hf => hk f (.inr hf)) .error bytes m
      refine hcarried.trans (ih ?_ _)
      rintro f (hf | hf)
      · exact hk f (.inl hf)
      · exact hfile f hf

/-- The program of the turn, if there is one, leaves what is at the places alone. -/
def Turn.LeavesAt (ps : List Place) (t : Turn) : Prop :=
  ∀ b, t.stage.start = .program b → ∀ p ∈ ps, (t.execution b).tree.get? p = t.machine.tree.get? p

theorem Turn.after_carried {t : Turn} (h : t.LeavesAt ps)
    (hsinks : (∀ b, t.stage.start ≠ .program b) ∨ t.sinks.Avoid ps) :
    t.machine.Carried ps t.after := by
  rcases t.stage.program_or_idle with ⟨b, hb⟩ | hidle
  · have hconsume (m : Machine) :
        m.Carried ps (t.stage.source.consume (t.execution b).taken m) := by
      cases t.stage.source <;> exact ⟨fun _ _ => rfl, List.prefix_refl _, List.prefix_refl _⟩
    rw [after, hb]
    refine (Machine.Carried.ofTree (h b hb)).trans ((hconsume _).trans ?_)
    exact Outflows.deliver_carried (hsinks.resolve_left fun hidle => hidle b hb) _ _
  · rw [after_of_idle hidle]
    exact .refl ps _

theorem Redirects.Avoid.sinks (h : files.Avoid ps) {output error : Outflow}
    (houtput : ∀ f, output ≠ .file f) (herror : ∀ f, error ≠ .file f) :
    Outflows.Avoid ⟨.ofRedirect files.output output, .ofRedirect files.error error⟩ ps := by
  rintro f (hf | hf)
  · cases hfile : files.output with
    | none =>
      rw [hfile] at hf
      exact absurd hf (houtput f)
    | some g =>
      rw [hfile] at hf
      cases hf
      exact h .output f hfile
  · cases hfile : files.error with
    | none =>
      rw [hfile] at hf
      exact absurd hf (herror f)
    | some g =>
      rw [hfile] at hf
      cases hf
      exact h .error f hfile

theorem runStarted_carried {room : Nat} {fed : Flow} {stages : List Stage}
    (hstages : ∀ st ∈ stages, st.Harmless ps)
    (hturns : ∀ t ∈ turns room fed stages m, t.LeavesAt ps) :
    m.Carried ps (runStarted room fed stages m).2.2 := by
  induction stages generalizing fed m with
  | nil => exact .refl ps m
  | cons st rest ih =>
    have hst := hstages st List.mem_cons_self
    cases rest with
    | nil =>
      have hlast := Turn.after_carried (hturns _ List.mem_cons_self)
        (hst.imp id fun havoid => havoid.sinks nofun nofun)
      rw [← Stage.finish_machine] at hlast
      exact hlast
    | cons next rest =>
      have hfirst := Turn.after_carried (hturns _ List.mem_cons_self)
        (hst.imp id fun havoid => havoid.sinks nofun nofun)
      rw [← Stage.pass_machine] at hfirst
      exact hfirst.trans (ih (fun st' hst' => hstages st' (List.mem_cons_of_mem _ hst'))
        fun t ht => hturns t (List.mem_cons_of_mem _ ht))

/-! ### The end of a line -/

theorem Session.deliver_carried (hfiles : files.Avoid ps) (s : Session) (o : Outcome) :
    s.machine.Carried ps (s.deliver files o).2.machine := by
  have hroute {file : Option OpenFile} (hfile : ∀ f, file = some f → f.place ∉ ps) (m : Machine)
      (text : String) : m.Carried ps (route m file text).2 := by
    cases file with
    | none => exact .refl ps m
    | some f => exact .writeText (hfile f rfl) m text
  unfold deliver
  exact (hroute (hfiles .output) _ _).trans (hroute (hfiles .error) _ _)

end LineShell
