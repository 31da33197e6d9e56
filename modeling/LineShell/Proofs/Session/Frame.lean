import LineShell.Dialogue
import LineShell.Proofs.Pipeline.Frame
/-!
    What a line may change of a session.

    The variables never change. A line of several stages, one that cannot be read and one whose last
    targets cannot be opened leave the directory, the process's place, the closing mark and the
    history as they are. A command on its own changes the closing mark as `exit`, the directory and
    the place as `cd`, the entries as a reading and the count of the appended ones as an appending
    `history`, and is otherwise as harmless (`LineFrame`). So a session that stays open for any
    number of lines only ever gains entries at the end of its history (`SessionFrame`). A dialogue
    is such a session, and one in which every line that is run is recorded (`Sitting`). -/

namespace LineShell

/-! ### Sessions that agree but for files and streams -/

/-- The environment, the history and the place of the process are the same. -/
structure Session.Kept (s t : Session) : Prop where
  env : t.env = s.env
  history : t.history = s.history
  workDir : t.machine.workDir = s.machine.workDir

namespace Session.Kept

theorem refl (s : Session) : s.Kept s := ⟨rfl, rfl, rfl⟩

theorem trans {s₁ s₂ s₃ : Session} (h : s₁.Kept s₂) (h' : s₂.Kept s₃) : s₁.Kept s₃ :=
  ⟨h'.env.trans h.env, h'.history.trans h.history, h'.workDir.trans h.workDir⟩

theorem ofMachine {s : Session} {m : Machine} (h : m.workDir = s.machine.workDir) :
    s.Kept { s with machine := m } := ⟨rfl, rfl, h⟩

theorem ofUndisturbed {s t : Session} (h : s.Undisturbed t) : s.Kept t :=
  ⟨h.env, h.history, h.machine.workDir⟩

end Session.Kept

/-! ### A pipeline -/

theorem runPiped_kept (load : Loader) (cs : List Command) (files : Redirects) (s : Session) :
    s.Kept (runPiped load cs files s).2 := by
  have hstart := Session.Kept.ofUndisturbed (startStages_undisturbed load files true .nothing cs s)
  have hrun := runWidening_workDir (startStages load files true .nothing cs s).1
    (startStages load files true .nothing cs s).2.machine widenings firstRoom
  unfold runPiped
  exact hstart.trans (.ofMachine hrun)

/-! ### The files of the history -/

theorem History.store_workDir (h : History) (m : Machine) (path : String) :
    (h.store m path).2.workDir = m.workDir := by
  unfold store
  rcases hwrite : m.writeFile path false (unlines h.entries) with ⟨_ | _, m'⟩
  all_goals exact (congrArg (·.2.workDir) hwrite).symm

theorem History.flush_workDir (h : History) (m : Machine) (path : String) :
    (h.flush m path).2.workDir = m.workDir := by
  unfold flush
  rcases hwrite : m.writeFile path true (unlines h.pending) with ⟨_ | _, m'⟩
  all_goals exact (congrArg (·.2.workDir) hwrite).symm

/-- Appending to a file does not change what the entries are, and leaves none pending. -/
theorem History.eq_of_flush {h : History} {m : Machine} {path : String} {flushed : Nat × History}
    (hflush : (h.flush m path).1 = .ok flushed) : flushed.2 = { h with appended := h.length } := by
  unfold flush at hflush
  rcases hwrite : m.writeFile path true (unlines h.pending) with ⟨_ | _, m'⟩ <;>
    rw [hwrite] at hflush <;> cases hflush
  rfl

/-! ### A command on its own -/

/-- The command calls a builtin. -/
def Command.Calls (c : Command) (b : Builtin) : Prop := Builtin.ofName? c.name = some b

/-- The command asks something of the history. -/
def Command.Asks (c : Command) (r : HistoryRequest) : Prop :=
  c.Calls .history ∧ HistoryRequest.ofArgs? c.args = some r

/-- What a command on its own may change, given the machine with its targets open. -/
structure Session.Acted (c : Command) (m : Machine) (s t : Session) : Prop where
  vars : t.env.vars = s.env.vars
  closing : t.env.closing = s.env.closing ∨ c.Calls .exit ∧ t.env.closing = true
  place : t.env.directory = s.env.directory ∧ t.machine.workDir = s.machine.workDir ∨ c.Calls .cd
  entries : t.history.entries = s.history.entries ∨ ∃ file text, c.Asks (.read file) ∧
    m.tree.readText m.workDir (s.env.fromHere file) = .ok text ∧
    t.history.entries = s.history.entries ++ lines text
  appended : t.history.appended = s.history.appended ∨ ∃ file n, c.Asks (.append file) ∧
    (s.history.flush m (s.env.fromHere file)).1 = .ok (n, t.history)

theorem Session.Kept.acted {s t : Session} (h : s.Kept t) (c : Command) (m : Machine) :
    s.Acted c m t :=
  ⟨by rw [h.env], .inl (by rw [h.env]), .inl ⟨by rw [h.env], h.workDir⟩, .inl (by rw [h.history]),
    .inl (by rw [h.history])⟩

/-- What happens to files and streams before and after does not matter. -/
theorem Session.Acted.kept {c : Command} {m : Machine} {s s' t t' : Session} (hs : s.Kept s')
    (h : s'.Acted c m t) (ht : t.Kept t') : s.Acted c m t' where
  vars := by rw [ht.env, h.vars, hs.env]
  closing := by
    rw [ht.env, ← hs.env]
    exact h.closing
  place := by
    rw [ht.env, ht.workDir, ← hs.env, ← hs.workDir]
    exact h.place
  entries := by
    rw [ht.history, ← hs.history, ← hs.env]
    exact h.entries
  appended := by
    rw [ht.history, ← hs.history, ← hs.env]
    exact h.appended

/-- A change of the directory moves the process and does nothing else to the machine. -/
theorem changeDirectory_machine (args : List String) (s : Session) :
    ∃ seat, (changeDirectory args s).2.machine = { s.machine with workDir := seat } := by
  have hstays : ∃ seat, s.machine = { s.machine with workDir := seat } := ⟨s.machine.workDir, rfl⟩
  unfold changeDirectory
  dsimp only
  split
  · exact hstays
  · split
    · split
      · rename_i env machine hmove
        unfold Environment.moveTo Machine.enter at hmove
        split at hmove
        · cases hmove
        · split at hmove <;> rename_i hentered <;> split at hentered <;> cases hentered <;>
            cases hmove
          exact ⟨_, rfl⟩
      · exact hstays
    · exact hstays

theorem changeDirectory_acted {c : Command} (hc : c.Calls .cd) (s : Session) :
    s.Acted c s.machine (changeDirectory c.args s).2 := by
  have hkept := (Session.Kept.refl s).acted c s.machine
  unfold changeDirectory
  dsimp only
  split
  · exact hkept
  · split
    · split
      · rename_i env machine hmove
        unfold Environment.moveTo at hmove
        split at hmove
        · cases hmove
        · split at hmove
          · cases hmove
          · cases hmove
            exact ⟨rfl, .inl rfl, .inr hc, .inl rfl, .inl rfl⟩
      · exact hkept
    · exact hkept

theorem loadEntries_acted {c : Command} {file : String} (hc : c.Asks (.read file)) (s : Session) :
    s.Acted c s.machine (loadEntries c.args file s).2 := by
  have hkept := (Session.Kept.refl s).acted c s.machine
  unfold loadEntries History.load
  dsimp only
  split
  · cases hread : s.machine.tree.readText s.machine.workDir (s.env.fromHere file) with
    | error f => exact hkept
    | ok text => exact ⟨rfl, .inl rfl, .inl ⟨rfl, rfl⟩, .inr ⟨file, text, hc, hread, rfl⟩, .inl rfl⟩
  · exact hkept

theorem storeEntries_kept (file : String) (s : Session) : s.Kept (storeEntries file s).2 := by
  have hdir := s.history.store_workDir s.machine (s.env.fromHere file)
  unfold storeEntries
  cases hstore : s.history.store s.machine (s.env.fromHere file) with
  | mk r m =>
    rw [hstore] at hdir
    cases r <;> exact .ofMachine hdir

theorem flushEntries_acted {c : Command} {file : String} (hc : c.Asks (.append file))
    (s : Session) : s.Acted c s.machine (flushEntries file s).2 := by
  unfold flushEntries
  have hdir := s.history.flush_workDir s.machine (s.env.fromHere file)
  cases hflush : s.history.flush s.machine (s.env.fromHere file) with
  | mk r m =>
    rw [hflush] at hdir
    cases r with
    | error e => exact (Session.Kept.ofMachine hdir).acted c s.machine
    | ok flushed =>
      have hr : (s.history.flush s.machine (s.env.fromHere file)).1 = .ok flushed := by rw [hflush]
      exact ⟨rfl, .inl rfl, .inl ⟨rfl, hdir⟩, .inl (congrArg (·.entries) (History.eq_of_flush hr)),
        .inr ⟨file, flushed.1, hc, hr⟩⟩

theorem consultHistory_acted {c : Command} (hc : c.Calls .history) (s : Session) :
    s.Acted c s.machine (consultHistory c.args s).2 := by
  have hkept := (Session.Kept.refl s).acted c s.machine
  unfold consultHistory
  rcases hreq : HistoryRequest.ofArgs? c.args with _ | _ | file | file | file
  · exact hkept
  · exact hkept
  · exact loadEntries_acted ⟨hc, hreq⟩ s
  · exact (storeEntries_kept file s).acted c s.machine
  · exact flushEntries_acted ⟨hc, hreq⟩ s

/-- A builtin that is no stage of a longer pipeline. -/
theorem Builtin.run_acted {c : Command} {b : Builtin} (hc : c.Calls b) (s : Session) :
    s.Acted c s.machine (b.run c.args false s).2 := by
  have hkept := (Session.Kept.refl s).acted c s.machine
  cases b with
  | echo => exact hkept
  | pwd => exact hkept
  | type => exact hkept
  | exit => exact ⟨rfl, .inr ⟨hc, rfl⟩, .inl ⟨rfl, rfl⟩, .inl rfl, .inl rfl⟩
  | cd => exact changeDirectory_acted hc s
  | history => exact consultHistory_acted hc s

/-- A command that calls no builtin changes nothing while it is started. -/
theorem startCommand_acted (load : Loader) (c : Command) (s : Session) :
    s.Acted c s.machine (startCommand load c false s).2 := by
  rw [startCommand_session]
  cases hc : Builtin.ofName? c.name with
  | none => exact (Session.Kept.refl s).acted c s.machine
  | some b => exact b.run_acted hc s

/-- Once it is started, a command changes files and streams only. -/
theorem runAlone_kept (load : Loader) (c : Command) (files : Redirects) (s : Session) :
    (startCommand load c false s).2.Kept (runAlone load c files s).2 := by
  unfold runAlone
  rcases startCommand load c false s with ⟨_ | _ | _ | _ | b, t⟩
  · exact .refl t
  · exact .refl t
  · exact .refl t
  · exact .refl t
  · exact .ofMachine (b.run_workDir _ _ _ _ _)

theorem runAlone_acted (load : Loader) (c : Command) (files : Redirects) (s : Session) :
    s.Acted c s.machine (runAlone load c files s).2 :=
  (startCommand_acted load c s).kept (.refl s) (runAlone_kept load c files s)

/-! ### A line -/

theorem route_workDir (m : Machine) (file : Option OpenFile) (text : String) :
    (route m file text).2.workDir = m.workDir := by
  cases file <;> rfl

theorem Session.deliver_kept (s : Session) (files : Redirects) (o : Outcome) :
    s.Kept (s.deliver files o).2 := by
  unfold deliver
  exact .ofMachine ((route_workDir _ _ _).trans (route_workDir _ _ _))

/-- A command that calls none of the builtins that act on the session keeps all of it. -/
theorem Session.Acted.kept_of_harmless {c : Command} {m : Machine} {s t : Session}
    (h : s.Acted c m t) (hcd : ¬ c.Calls .cd) (hexit : ¬ c.Calls .exit)
    (hhistory : ¬ c.Calls .history) : s.Kept t := by
  have hplace := h.place.resolve_right hcd
  have hclosing := h.closing.resolve_right fun hc => hexit hc.1
  have hentries := h.entries.resolve_right fun ⟨_, _, hc, _⟩ => hhistory hc.1
  have happended := h.appended.resolve_right fun ⟨_, _, hc, _⟩ => hhistory hc.1
  have henv : t.env = s.env :=
    calc t.env = ⟨t.env.vars, t.env.directory, t.env.closing⟩ := rfl
      _ = s.env := by rw [h.vars, hplace.1, hclosing]
  have hhist : t.history = s.history :=
    calc t.history = ⟨t.history.entries, t.history.appended⟩ := rfl
      _ = s.history := by rw [hentries, happended]
  exact ⟨henv, hhist, hplace.2⟩

/-- What a line may change of a session. -/
structure LineFrame (line : String) (s t : Session) : Prop where
  vars : t.env.vars = s.env.vars
  /-- It is no sequence of commands. -/
  unread (e : ParseError) : parseLine line = .error e → s.Kept t
  /-- A target of its last command cannot be opened. -/
  unopened (cs : List Command) (last : Command) (e : Failure) : parseLine line = .ok cs →
    cs.getLast? = some last → (openChannels s.env s.machine last).1 = .error e → s.Kept t
  /-- It is a pipeline of several stages. -/
  piped (cs : List Command) : parseLine line = .ok cs → cs.length ≠ 1 → s.Kept t
  /-- It is one command. -/
  alone (c : Command) : parseLine line = .ok [c] →
    s.Acted c (openChannels s.env s.machine c).2 t
  /-- It is one command and calls none of the builtins that act on the session. -/
  harmless (c : Command) : parseLine line = .ok [c] →
    ¬ c.Calls .cd → ¬ c.Calls .exit → ¬ c.Calls .history → s.Kept t

/-- A line that leaves the session alone respects every condition. -/
theorem Session.Kept.lineFrame {s t : Session} (h : s.Kept t) (line : String) :
    LineFrame line s t where
  vars := by rw [h.env]
  unread _ _ := h
  unopened _ _ _ _ _ _ := h
  piped _ _ _ := h
  alone c _ := h.acted c _
  harmless _ _ _ _ _ := h

/-- A line that is one command may do what the command may do, if its targets can be opened. -/
theorem Session.Acted.lineFrame {line : String} {c : Command} {s t : Session}
    (h : s.Acted c (openChannels s.env s.machine c).2 t) (hread : parseLine line = .ok [c])
    (hunopened : ∀ e, (openChannels s.env s.machine c).1 = .error e → s.Kept t) :
    LineFrame line s t := by
  -- the line reads as nothing else
  have honly : ∀ cs, parseLine line = .ok cs → cs = [c] := fun cs hcs =>
    Except.ok.inj (hcs.symm.trans hread)
  constructor
  case vars => exact h.vars
  case unread =>
    intro e he
    rw [hread] at he
    cases he
  case unopened =>
    intro cs last e hcs hlast hopen
    rw [honly cs hcs] at hlast
    cases hlast
    exact hunopened e hopen
  case piped =>
    intro cs hcs hmany
    rw [honly cs hcs] at hmany
    exact absurd rfl hmany
  case alone =>
    intro c' hc'
    cases honly [c'] hc'
    exact h
  case harmless =>
    intro c' hc'
    cases honly [c'] hc'
    exact h.kept_of_harmless

namespace Session

theorem performStages_unopened {last : Command} {e : Failure} {s : Session}
    (hopen : (openChannels s.env s.machine last).1 = .error e) (load : Loader)
    (cs : List Command) : s.Kept (performStages load cs last s).2 := by
  have hdir := (Machine.Undisturbed.openChannels s.env s.machine last).workDir
  unfold performStages
  rcases hr : openChannels s.env s.machine last with ⟨e' | files, m⟩ <;> rw [hr] at hopen hdir
  · exact .ofMachine hdir
  · cases hopen

/-- What runs after the targets are open, and what is written to them, decides over the rest. -/
theorem performStages_opened {last : Command} {files : Redirects} {s : Session}
    (hopen : (openChannels s.env s.machine last).1 = .ok files) (load : Loader)
    (cs : List Command) :
    (runStages load cs files { s with machine := (openChannels s.env s.machine last).2 }).2.Kept
      (performStages load cs last s).2 := by
  unfold performStages
  rcases hr : openChannels s.env s.machine last with ⟨e | files', m⟩ <;> rw [hr] at hopen
  · cases hopen
  · cases hopen
    exact deliver_kept _ files _

theorem opened_kept (s : Session) (c : Command) :
    s.Kept { s with machine := (openChannels s.env s.machine c).2 } :=
  .ofMachine (Machine.Undisturbed.openChannels s.env s.machine c).workDir

theorem performStages_piped (load : Loader) {cs : List Command} (hcs : 2 ≤ cs.length)
    (last : Command) (s : Session) : s.Kept (performStages load cs last s).2 := by
  cases hopen : (openChannels s.env s.machine last).1 with
  | error e => exact performStages_unopened hopen load cs
  | ok files =>
    match cs, hcs with
    | c :: c' :: rest, _ =>
      exact (s.opened_kept last).trans
        ((runPiped_kept load (c :: c' :: rest) files _).trans
          (performStages_opened hopen load (c :: c' :: rest)))

theorem performStages_alone (load : Loader) (c : Command) (s : Session) :
    s.Acted c (openChannels s.env s.machine c).2 (performStages load [c] c s).2 := by
  cases hopen : (openChannels s.env s.machine c).1 with
  | error e => exact (performStages_unopened hopen load [c]).acted c _
  | ok files =>
    have hrun := runAlone_acted load c files
      { s with machine := (openChannels s.env s.machine c).2 }
    exact hrun.kept (s.opened_kept c) (performStages_opened hopen load [c])

/-- Running a line changes no more than the line asks for. -/
theorem perform_lineFrame (load : Loader) (line : String) (s : Session) :
    LineFrame line s (s.perform load line).2 := by
  unfold perform
  rcases hread : parseLine line with e | cs
  · exact (Kept.refl s).lineFrame line
  · dsimp only
    cases hlast : cs.getLast? with
    | none => exact (Kept.refl s).lineFrame line
    | some last =>
      dsimp only
      match cs, hread, hlast with
      | [c], hread, rfl =>
        exact (performStages_alone load c s).lineFrame hread fun e hopen =>
          performStages_unopened hopen load [c]
      | c :: c' :: rest, _, _ =>
        have htwo : 2 ≤ (c :: c' :: rest).length := Nat.le_add_left 2 rest.length
        exact (performStages_piped load htwo last s).lineFrame line

/-- A line is recorded once, at the end, unless it is blank. -/
theorem record_eq (line : String) (s : Session) :
    s.record line = { s with history := { s.history with
      entries := s.history.entries ++ [line].filter (!isBlankText ·) } } := by
  unfold record
  cases hblank : isBlankText line with
  | true => rw [List.filter_cons_of_neg (by rw [hblank]; exact nofun)]; simp
  | false => rw [List.filter_cons_of_pos (by rw [hblank]; rfl)]; rfl

theorem submit_lineFrame (load : Loader) (line : String) (s : Session) :
    LineFrame line (s.record line) (s.submit load line).2 :=
  perform_lineFrame load line (s.record line)

end Session

/-! ### A whole session -/

/-- What the submission of lines, one after the other, may change of a session. -/
structure SessionFrame (submitted : List String) (s t : Session) : Prop where
  vars : t.env.vars = s.env.vars
  closing : s.env.closing = true → t.env.closing = true
  /-- Entries are only added, at the end, and among them are the lines that are not blank. -/
  entries : ∃ more, t.history.entries = s.history.entries ++ more ∧
    (submitted.filter (!isBlankText ·)).Sublist more
  /-- No entry counts as appended that was not there. -/
  appended : t.history.appended = s.history.appended ∨
    s.history.length ≤ t.history.appended ∧ t.history.appended ≤ t.history.length

namespace SessionFrame

theorem refl (s : Session) : SessionFrame [] s s :=
  ⟨rfl, id, ⟨[], (List.append_nil _).symm, .slnil⟩, .inl rfl⟩

theorem length_le {submitted : List String} {s t : Session} (h : SessionFrame submitted s t) :
    s.history.length ≤ t.history.length := by
  obtain ⟨more, hmore, -⟩ := h.entries
  rw [History.length, History.length, hmore, List.length_append]
  exact Nat.le_add_right _ _

theorem trans {l₁ l₂ : List String} {s₁ s₂ s₃ : Session} (h : SessionFrame l₁ s₁ s₂)
    (h' : SessionFrame l₂ s₂ s₃) : SessionFrame (l₁ ++ l₂) s₁ s₃ where
  vars := h'.vars.trans h.vars
  closing hs := h'.closing (h.closing hs)
  entries := by
    obtain ⟨more, hmore, hsub⟩ := h.entries
    obtain ⟨more', hmore', hsub'⟩ := h'.entries
    refine ⟨more ++ more', ?_, ?_⟩
    · rw [hmore', hmore, List.append_assoc]
    · rw [List.filter_append]
      exact hsub.append hsub'
  appended := by
    have hlen := h.length_le
    have hlen' := h'.length_le
    rcases h.appended with heq | ⟨hlow, hhigh⟩ <;> rcases h'.appended with heq' | ⟨hlow', hhigh'⟩
    · exact .inl (heq'.trans heq)
    · exact .inr ⟨Nat.le_trans hlen hlow', hhigh'⟩
    · exact .inr ⟨heq' ▸ hlow, heq' ▸ Nat.le_trans hhigh hlen'⟩
    · exact .inr ⟨Nat.le_trans hlen hlow', hhigh'⟩

theorem ofMachine (s : Session) (m : Machine) : SessionFrame [] s { s with machine := m } :=
  ⟨rfl, id, ⟨[], (List.append_nil _).symm, .slnil⟩, .inl rfl⟩

theorem ofKept {s t : Session} (h : s.Kept t) : SessionFrame [] s t where
  vars := by rw [h.env]
  closing hs := by rw [h.env, hs]
  entries := ⟨[], by rw [h.history, List.append_nil], .slnil⟩
  appended := .inl (by rw [h.history])

theorem ofActed {c : Command} {m : Machine} {s t : Session} (h : s.Acted c m t) :
    SessionFrame [] s t where
  vars := h.vars
  closing hs := h.closing.elim (fun heq => heq.trans hs) (·.2)
  entries := by
    rcases h.entries with heq | ⟨file, text, -, -, heq⟩
    · exact ⟨[], by rw [heq, List.append_nil], .slnil⟩
    · exact ⟨lines text, heq, List.nil_sublist _⟩
  appended := by
    rcases h.appended with heq | ⟨file, n, -, hflush⟩
    · exact .inl heq
    · have ht := History.eq_of_flush hflush
      dsimp only at ht
      rw [ht]
      exact .inr ⟨Nat.le_refl _, Nat.le_refl _⟩

theorem ofLine {line : String} {s t : Session} (h : LineFrame line s t) : SessionFrame [] s t := by
  cases hread : parseLine line with
  | error e => exact ofKept (h.unread e hread)
  | ok cs =>
    match cs, hread with
    | [], hread => exact ofKept (h.piped [] hread nofun)
    | [c], hread => exact ofActed (h.alone c hread)
    | c :: c' :: rest, hread => exact ofKept (h.piped (c :: c' :: rest) hread nofun)

theorem record (line : String) (s : Session) : SessionFrame [line] s (s.record line) := by
  rw [s.record_eq line]
  exact ⟨rfl, id, ⟨[line].filter (!isBlankText ·), rfl, List.Sublist.refl _⟩, .inl rfl⟩

end SessionFrame

/-- Since `s`, lines have been submitted one after the other, and the session is `t` now. In between
    others may have been run without being recorded, and files and streams may have changed in any
    way. -/
inductive Session.Course (load : Loader) (s : Session) : List String → Session → Prop where
  | start : Course load s [] s
  | submit {submitted : List String} {t : Session} (line : String) :
    Course load s submitted t → Course load s (submitted ++ [line]) (t.submit load line).2
  | perform {submitted : List String} {t : Session} (line : String) :
    Course load s submitted t → Course load s submitted (t.perform load line).2
  | elsewhere {submitted : List String} {t : Session} (m : Machine) :
    Course load s submitted t → Course load s submitted { t with machine := m }

/-- The same, but nothing has been run without being recorded. -/
inductive Session.Sitting (load : Loader) (s : Session) : List String → Session → Prop where
  | start : Sitting load s [] s
  | submit {submitted : List String} {t : Session} (line : String) :
    Sitting load s submitted t → Sitting load s (submitted ++ [line]) (t.submit load line).2
  | elsewhere {submitted : List String} {t : Session} (m : Machine) :
    Sitting load s submitted t → Sitting load s submitted { t with machine := m }

namespace Session

theorem Course.sessionFrame {load : Loader} {s t : Session} {submitted : List String}
    (h : Course load s submitted t) : SessionFrame submitted s t := by
  induction h with
  | start => exact .refl s
  | @submit _ t line _ ih =>
    exact ih.trans ((SessionFrame.record line t).trans (.ofLine (submit_lineFrame load line t)))
  | @perform submitted t line _ ih =>
    have h := ih.trans (.ofLine (perform_lineFrame load line t))
    rwa [List.append_nil] at h
  | @elsewhere submitted t m _ ih =>
    have h := ih.trans (.ofMachine t m)
    rwa [List.append_nil] at h

theorem Course.keepHistory {load : Loader} {s t : Session} {submitted : List String}
    (h : Course load s submitted t) : Course load s submitted t.keepHistory := by
  unfold Session.keepHistory
  split
  · exact h
  · exact h.elsewhere _

theorem Sitting.course {load : Loader} {s t : Session} {submitted : List String}
    (h : Sitting load s submitted t) : Course load s submitted t := by
  induction h with
  | start => exact .start
  | submit line _ ih => exact ih.submit line
  | elsewhere m _ ih => exact ih.elsewhere m

/-- The lines that a conversation accepts are the first of those that are typed and not given up. -/
theorem Sitting.converse {load : Loader} {s t : Session} {submitted : List String}
    (h : Sitting load s submitted t) (prompt : String) (code : Int) (typed : List TypedLine) :
    ∃ accepted, accepted.map TypedLine.line <+: typed.filter (· ≠ .interrupted) ∧
      Sitting load s (submitted ++ accepted) (t.converse load prompt code typed).2 := by
  have hprompt := h.elsewhere (t.machine.print prompt)
  induction typed generalizing t submitted code with
  | nil => exact ⟨[], List.nil_prefix, by rw [List.append_nil]; exact hprompt⟩
  | cons first rest ih =>
    cases first with
    | interrupted => exact ih hprompt code (hprompt.elsewhere _)
    | failed fault => exact ⟨[], List.nil_prefix, by rw [List.append_nil]; exact hprompt⟩
    | broken => exact ⟨[], List.nil_prefix, by rw [List.append_nil]; exact hprompt⟩
    | line line =>
      have hkept : (TypedLine.line line :: rest).filter (· ≠ .interrupted) =
          .line line :: rest.filter (· ≠ .interrupted) := rfl
      rw [hkept]
      let r := Session.submit load line { t with machine := t.machine.print prompt }
      have hline : Sitting load s (submitted ++ [line]) (r.2.answer r.1) :=
        (hprompt.submit line).elsewhere _
      cases hclosing : (r.2.answer r.1).env.closing with
      | true =>
        refine ⟨[line], List.cons_prefix_cons.mpr ⟨rfl, List.nil_prefix⟩, ?_⟩
        have hend : t.converse load prompt code (.line line :: rest) =
            (.finished r.1.code, r.2.answer r.1) := if_pos hclosing
        rw [hend]
        exact hline
      | false =>
        obtain ⟨accepted, hpre, hrest⟩ := ih hline r.1.code (hline.elsewhere _)
        refine ⟨line :: accepted, List.cons_prefix_cons.mpr ⟨rfl, hpre⟩, ?_⟩
        have hopen : ¬ (r.2.answer r.1).env.closing = true := by
          rw [hclosing]
          exact nofun
        have hnext : t.converse load prompt code (.line line :: rest) =
            (r.2.answer r.1).converse load prompt r.1.code rest := if_neg hopen
        rw [hnext, ← List.singleton_append, ← List.append_assoc]
        exact hrest

/-- In a dialogue the first lines of its input are submitted, and then the history is saved unless
    the dialogue ends on the spot. -/
theorem dialogue_sitting (load : Loader) (read : LineReader) (prompt : String) (s : Session) :
    ∃ accepted t,
      accepted.map TypedLine.line <+: (read s.machine.input).filter (· ≠ .interrupted) ∧
      Sitting load s accepted t ∧ (s.dialogue load read prompt = (.abandoned, t) ∨
        (s.dialogue load read prompt).2 = t.keepHistory) := by
  have hstart : Sitting load s [] s := .start
  have hdrained := hstart.elsewhere (s.machine.readInput s.machine.input.length)
  obtain ⟨accepted, hpre, hsitting⟩ :=
    hdrained.converse prompt 0 (read s.machine.input)
  refine ⟨accepted, _, hpre, hsitting, ?_⟩
  unfold dialogue
  dsimp only
  split
  · rename_i hend
    exact .inl (by rw [hend])
  · rename_i hend
    exact .inr (by rw [hend])

/-- A dialogue is a course of the session in which the first lines of its input are submitted. -/
theorem dialogue_course (load : Loader) (read : LineReader) (prompt : String) (s : Session) :
    ∃ accepted, accepted.map TypedLine.line <+:
        (read s.machine.input).filter (· ≠ .interrupted) ∧
      Course load s accepted (s.dialogue load read prompt).2 := by
  obtain ⟨accepted, t, hpre, hsitting, hend⟩ := dialogue_sitting load read prompt s
  refine ⟨accepted, hpre, ?_⟩
  rcases hend with hend | hend
  · rw [hend]
    exact hsitting.course
  · rw [hend]
    exact hsitting.course.keepHistory

end Session

/-- What lines may change of a session: one that is run, one that is submitted, and any number of
    them one after the other, a dialogue among them. -/
theorem session_frame (load : Loader) :
    (∀ (line : String) (s : Session), LineFrame line s (s.perform load line).2) ∧
    (∀ (line : String) (s : Session), LineFrame line (s.record line) (s.submit load line).2 ∧
      s.record line = { s with history := { s.history with
        entries := s.history.entries ++ [line].filter (!isBlankText ·) } }) ∧
    (∀ (s : Session) (submitted : List String) (t : Session),
      s.Course load submitted t → SessionFrame submitted s t) ∧
    ∀ (read : LineReader) (prompt : String) (s : Session), ∃ accepted,
      accepted.map TypedLine.line <+: (read s.machine.input).filter (· ≠ .interrupted) ∧
        s.Course load accepted (s.dialogue load read prompt).2 := by
  refine ⟨Session.perform_lineFrame load, ?_, ?_, Session.dialogue_course load⟩
  · intro line s
    exact ⟨Session.submit_lineFrame load line s, s.record_eq line⟩
  · intro s submitted t h
    exact h.sessionFrame

/-- On its own `exit` ends the shell, and as a stage it does not. -/
example (load : Loader) (s : Session) :
    (s.perform load "exit").2.env.closing = true ∧
      (s.perform load "exit | exit").2.env.closing = s.env.closing := by
  constructor <;> rfl

end LineShell
