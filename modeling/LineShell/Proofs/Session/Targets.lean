import LineShell.Proofs.File.Holding
import LineShell.Proofs.Session.Carrying
import LineShell.Proofs.Session.Reporting
/-!
    The targets of a builtin, from their opening to what is written to them.

    Where the targets of a command lead to different files that may be written to (`Ready`), both
    are open in the end (`Readied`). A builtin's texts come to the ends of these files, in whatever
    order they are written, and a text that has no file is left (`Stage.settle_builtin`,
    `Session.deliver_eq`). -/

namespace LineShell

/-! ### The targets of a stage -/

/-- Every target of the command leads to a place where there is a regular file that may be written
    to, or nothing and a file can be put there, and no two of them to the same place. -/
structure Command.Ready (c : Command) (s : Session) : Prop where
  allows (channel : Channel) (target : Target) : c.target? channel = some target →
    ∃ p, s.targetPlace? target = some p ∧ s.machine.tree.Allows writeBit p
  apart (output error : Target) : c.output = some output → c.error = some error →
    s.targetPlace? output ≠ s.targetPlace? error

/-- A target, if there is one, has been opened: its file holds what it held, or nothing, and no
    other place is touched. -/
structure Taken (s : Session) (target : Option Target) (m : Machine) (file : Option OpenFile)
    (m' : Machine) : Prop where
  opened : openChannel s.env m target = (.ok file, m')
  holds (t : Target) (p : Place) : target = some t → s.targetPlace? t = some p →
    ∃ f, file = some f ∧ f.place = p ∧
      f.Holds m'.tree (if t.append then s.machine.tree.bytesAt p else [])
  elsewhere (p : Place) : (∀ t, target = some t → s.targetPlace? t ≠ some p) →
    m'.tree.get? p = m.tree.get? p
  streams : m' = { m with tree := m'.tree }

/-- The targets of a command are open, and nothing has been written to them. -/
structure Readied (c : Command) (s : Session) (files : Redirects) (m : Machine) : Prop where
  opened : openChannels s.env s.machine c = (.ok files, m)
  holds (channel : Channel) (target : Target) (p : Place) : c.target? channel = some target →
    s.targetPlace? target = some p → ∃ f, files.file? channel = some f ∧ f.place = p ∧
      f.Holds m.tree (if target.append then s.machine.tree.bytesAt p else [])
  apart (f g : OpenFile) : files.output = some f → files.error = some g → f.place ≠ g.place
  streams : m = { s.machine with tree := m.tree }

section Ready

variable {c : Command} {s t : Session} {m : Machine} {target : Option Target}

theorem exists_taken (hview : s.SameView { s with machine := m })
    (hallows : ∀ t, target = some t →
      ∃ p, s.targetPlace? t = some p ∧ s.machine.tree.Allows writeBit p)
    (hsame : ∀ t p, target = some t → s.targetPlace? t = some p →
      m.tree.get? p = s.machine.tree.get? p) : ∃ file m', Taken s target m file m' := by
  cases target with
  | none => exact ⟨none, m, rfl, nofun, fun _ _ => rfl, rfl⟩
  | some target =>
    obtain ⟨p, hplace, hp⟩ := hallows target rfl
    have hthere := hsame target p rfl hplace
    have hwritable : m.tree.Allows writeBit p := hp.congr hview.ways hthere
    obtain ⟨m', hfile, hmachine, hbut, hholds⟩ := Machine.openFile_holds
      ((hview.targetPlace? target).trans hplace) hwritable target.append
    rw [FileTree.bytesAt_congr hthere] at hholds
    refine ⟨_, m', openChannel_ok hfile, fun t q ht hq => ?_, fun q hq => ?_, hmachine⟩
    · cases ht
      cases hplace.symm.trans hq
      exact ⟨_, rfl, rfl, hholds⟩
    · refine hbut q ?_
      rintro rfl
      exact hq target rfl hplace

theorem Taken.exists_target {file : Option OpenFile} {m' : Machine}
    (h : Taken s target m file m') {f : OpenFile} (hf : file = some f) :
    ∃ t, target = some t := by
  have hsome := openChannel_isSome h.opened
  rw [hf] at hsome
  exact Option.isSome_iff_exists.mp hsome.symm

/-- Where the targets lead to different files, these are open in the end. -/
theorem Command.Ready.exists_readied (h : c.Ready s) : ∃ files m, Readied c s files m := by
  obtain ⟨output, m₁, houtput⟩ : ∃ file m', Taken s c.output s.machine file m' :=
    exists_taken ⟨rfl, rfl, .refl _⟩ (h.allows .output) fun _ _ _ _ => rfl
  -- the error's file is not the output's
  have hapart (t t' : Target) (p : Place) (ht : c.output = some t) (ht' : c.error = some t')
      (hp : s.targetPlace? t' = some p) : s.targetPlace? t ≠ some p := by
    rw [← hp]
    exact h.apart t t' ht ht'
  obtain ⟨error, m₂, herror⟩ : ∃ file m', Taken s c.error m₁ file m' :=
    exists_taken (.openChannel houtput.opened) (h.allows .error) fun t' p ht' hp =>
      houtput.elsewhere p fun t ht => hapart t t' p ht ht' hp
  have hopened : openChannels s.env s.machine c = (.ok ⟨output, error⟩, m₂) := by
    unfold openChannels
    rw [houtput.opened]
    dsimp only
    rw [herror.opened]
  refine ⟨⟨output, error⟩, m₂, hopened, fun channel target p htarget hp => ?_, ?_, ?_⟩
  · cases channel with
    | output =>
      obtain ⟨f, hf, rfl, hholds⟩ := houtput.holds target p htarget hp
      refine ⟨f, hf, rfl, hholds.congr (herror.elsewhere _ fun t' ht' hp' => ?_)⟩
      exact hapart target t' f.place htarget ht' hp' hp
    | error => exact herror.holds target p htarget hp
  · rintro f g rfl rfl
    obtain ⟨t, ht⟩ := houtput.exists_target rfl
    obtain ⟨t', ht'⟩ := herror.exists_target rfl
    obtain ⟨p, hp, -⟩ := h.allows .output t ht
    obtain ⟨q, hq, -⟩ := h.allows .error t' ht'
    obtain ⟨f', hf', rfl, -⟩ := houtput.holds t p ht hp
    obtain ⟨g', hg', rfl, -⟩ := herror.holds t' q ht' hq
    cases hf'
    cases hg'
    intro heq
    exact hapart t t' _ ht ht' hq (heq ▸ hp)
  · rw [herror.streams, houtput.streams]

/-- The targets are as ready where all paths lead to the same places and what is there is the same.
    -/
theorem Command.Ready.carried (h : c.Ready s) (hview : s.SameView t)
    (hsame : ∀ channel target p, c.target? channel = some target → s.targetPlace? target = some p →
      t.machine.tree.get? p = s.machine.tree.get? p) : c.Ready t := by
  refine ⟨fun channel target htarget => ?_, fun output error houtput herror => ?_⟩
  · obtain ⟨p, hp, hallows⟩ := h.allows channel target htarget
    exact ⟨p, (hview.targetPlace? target).trans hp,
      hallows.congr hview.ways (hsame channel target p htarget hp)⟩
  · rw [hview.targetPlace?, hview.targetPlace?]
    exact h.apart output error houtput herror

end Ready

/-! ### What is written -/

/-- The text of an outcome for a channel. -/
def Outcome.text (o : Outcome) : Channel → String
  | .output => o.output.getD ""
  | .error => o.error.getD ""

/-- What an outcome has to say on a channel that the command does not redirect. -/
def Outcome.left (o : Outcome) (c : Command) (channel : Channel) : String :=
  if c.target? channel = none then o.text channel else ""

section Written

variable {c : Command} {s s' : Session} {files : Redirects} {m : Machine} {o : Outcome}
  {channel : Channel} {target : Target} {p : Place}

/-- A channel has a file if and only if the command redirects it. -/
theorem openChannels_file? {e : Environment} {m m' : Machine}
    (h : openChannels e m c = (.ok files, m')) (channel : Channel) :
    files.file? channel = none ↔ c.target? channel = none := by
  rw [← Option.isNone_iff_eq_none, ← Option.isNone_iff_eq_none, ← Option.not_isSome,
    ← Option.not_isSome]
  cases channel with
  | output => rw [Redirects.file?, openChannels_output h, Command.target?]
  | error =>
    unfold openChannels at h
    split at h
    · cases h
    · split at h <;> cases h
      rename_i herror
      rw [Redirects.file?, openChannel_isSome herror, Command.target?]

theorem Outcome.left_eq {e : Environment} {m m' : Machine}
    (h : openChannels e m c = (.ok files, m')) (o : Outcome) (channel : Channel) :
    o.left c channel = if files.file? channel = none then o.text channel else "" := by
  simp only [left, openChannels_file? h channel]

/-- An inner stage's builtin has its texts written to the files that there are; an error text
    without a file goes to the shell's standard error. -/
theorem Stage.settle_builtin {st : Stage} (h : st.start = .builtin o) (m : Machine) :
    st.settle m = { m with
      tree := (m.tree.writeIf st.redirects.error (Bytes.ofText (o.text .error))).writeIf
        st.redirects.output (Bytes.ofText (o.text .output))
      diagnostics := m.diagnostics ++
        Bytes.ofText (if st.redirects.error = none then o.text .error else "") } := by
  rw [settle, h]
  dsimp only
  cases st.redirects.error with
  | none =>
    cases st.redirects.output with
    | none => rfl
    | some f => exact Machine.writeText_eq _ f _
  | some g =>
    have hnone : m.diagnostics ++ Bytes.ofText "" = m.diagnostics := List.append_nil _
    rw [if_neg (Option.some_ne_none g), hnone, Machine.report, m.writeText_eq]
    cases st.redirects.output with
    | none => rfl
    | some f => exact Machine.writeText_eq _ f _

/-- The last stage has its texts written to the files that there are, and the reply has the
    others. -/
theorem Session.deliver_eq (s : Session) (files : Redirects) (o : Outcome) :
    s.deliver files o =
      (⟨o.code, if files.output = none then o.text .output else "",
        if files.error = none then o.text .error else ""⟩,
      { s with machine := { s.machine with
        tree := (s.machine.tree.writeIf files.output (Bytes.ofText (o.text .output))).writeIf
          files.error (Bytes.ofText (o.text .error)) } }) := by
  have hroute (m : Machine) (file : Option OpenFile) (text : String) : route m file text =
      (if file = none then text else "",
        { m with tree := m.tree.writeIf file (Bytes.ofText text) }) := by
    cases file with
    | none => rfl
    | some f => exact congrArg (Prod.mk "") (m.writeText_eq f text)
  rw [deliver, hroute]
  dsimp only
  rw [hroute]
  rfl

/-- Both texts come to the ends of their files, in whatever order they are written. -/
theorem Readied.written (h : Readied c s files m) {t : FileTree}
    (hsame : ∀ channel target p, c.target? channel = some target → s.targetPlace? target = some p →
      t.get? p = m.tree.get? p) (htarget : c.target? channel = some target)
    (hp : s.targetPlace? target = some p) (text : Channel → Bytes) :
    (∃ mode, ((t.writeIf files.error (text .error)).writeIf files.output (text .output)).get? p =
      some (.file mode ((if target.append then s.machine.tree.bytesAt p else []) ++
        text channel))) ∧
    ∃ mode, ((t.writeIf files.output (text .output)).writeIf files.error (text .error)).get? p =
      some (.file mode ((if target.append then s.machine.tree.bytesAt p else []) ++
        text channel)) := by
  obtain ⟨f, hf, rfl, hholds⟩ := h.holds channel target p htarget hp
  have hthere := hholds.congr (hsame channel target f.place htarget hp)
  cases channel with
  | output =>
    change files.output = some f at hf
    obtain ⟨hfirst, hsecond⟩ := hthere.writeIf (fun g hg => h.apart f g hf hg) (text .output)
      (text .error)
    rw [hf]
    exact ⟨hsecond, hfirst⟩
  | error =>
    change files.error = some f at hf
    obtain ⟨hfirst, hsecond⟩ := hthere.writeIf (fun g hg => (h.apart g f hg hf).symm) (text .error)
      (text .output)
    rw [hf]
    exact ⟨hfirst, hsecond⟩

end Written

end LineShell
