import LineShell.Proofs.File.Way
import LineShell.Proofs.Pipeline.DataFlow
import LineShell.Proofs.Session.Frame
/-!
    Directories and links while a line runs.

    The shell itself only makes, empties and writes files: whatever it opens, starts or writes, all
    directories and links are as they were (`SameWays`). So what a line does to them is what its
    programs do. `lineTurns` lists the turns of the line's programs that count, and where each of
    them leaves a directory or a link alone, the line does (`perform_stays`). -/

namespace LineShell

/-! ### Files -/

namespace FileTree

theorem SameWays.trans {t₁ t₂ t₃ : FileTree} (h : t₁.SameWays t₂) (h' : t₂.SameWays t₃) :
    t₁.SameWays t₃ := fun p => (h' p).trans (h p)

/-- A file in the stead of nothing or of a file makes no difference. -/
theorem SameWays.put {t : FileTree} {p : Place} (hold : t.lead? p = none) (mode : Nat)
    (content : Bytes) : t.SameWays (t.put p (.file mode content)) :=
  (SameBut.put p t _).sameWays hold (lead?_of_file (get?_put_self t _ (ne_root_of_lead? hold)))

theorem openPlace_sameWays (t : FileTree) (p : Place) (append : Bool) :
    t.SameWays (t.openPlace p append).2 := by
  unfold openPlace
  split
  · exact .refl t
  · rename_i mode content hfile
    split
    · exact .refl t
    · exact SameWays.put (lead?_of_file hfile) mode _
  · exact .refl t
  · rename_i hnone
    split
    · exact .refl t
    · exact SameWays.put (lead?_of_none hnone) newFileMode []

theorem openFile_sameWays (t : FileTree) (dir : Seat) (path : String) (append : Bool) :
    t.SameWays (t.openFile dir path append).2 := by
  unfold openFile
  split
  · exact .refl t
  · split
    · exact openPlace_sameWays t _ append
    · exact .refl t
  · exact openPlace_sameWays t _ append

theorem write_sameWays (t : FileTree) (f : OpenFile) (bytes : Bytes) :
    t.SameWays (t.write f bytes).2 := by
  unfold write
  split
  · exact .refl t
  · split
    · rename_i mode content hfile
      exact SameWays.put (lead?_of_file hfile) mode _
    · exact .refl t
    · exact .refl t

theorem writeAnyway_sameWays (t : FileTree) (f : OpenFile) (bytes : Bytes) :
    t.SameWays (t.writeAnyway f bytes).2 := by
  have h := write_sameWays t f bytes
  unfold writeAnyway
  split <;> rename_i hwrite <;> rw [hwrite] at h <;> exact h

theorem writeFile_sameWays (t : FileTree) (dir : Seat) (path : String) (append : Bool)
    (bytes : Bytes) : t.SameWays (t.writeFile dir path append bytes).2 := by
  have hopen := openFile_sameWays t dir path append
  unfold writeFile
  split
  · rename_i hopened
    rw [hopened] at hopen
    exact hopen
  · rename_i f t₁ hopened
    rw [hopened] at hopen
    have hwrite := write_sameWays t₁ f bytes
    split <;> rename_i hwritten <;> rw [hwritten] at hwrite <;> exact hopen.trans hwrite

end FileTree

/-! ### Starting stages -/

/-- Two machines with the same directories and links. -/
def Machine.SameWays (m m' : Machine) : Prop := m.tree.SameWays m'.tree

namespace Machine.SameWays

theorem refl (m : Machine) : m.SameWays m := FileTree.SameWays.refl m.tree

theorem trans {m₁ m₂ m₃ : Machine} (h : m₁.SameWays m₂) (h' : m₂.SameWays m₃) : m₁.SameWays m₃ :=
  FileTree.SameWays.trans h h'

theorem writeText (m : Machine) (f : OpenFile) (text : String) : m.SameWays (m.writeText f text) :=
  m.tree.writeAnyway_sameWays f _

theorem report (m : Machine) (file : Option OpenFile) (text : String) :
    m.SameWays (m.report file text) := by
  cases file with
  | none => exact refl m
  | some f => exact writeText m f text

theorem openChannel (e : Environment) (m : Machine) (target : Option Target) :
    m.SameWays (openChannel e m target).2 := by
  cases target with
  | none => exact refl m
  | some target =>
    have h := m.tree.openFile_sameWays m.workDir (e.fromHere target.path) target.append
    unfold LineShell.openChannel Machine.openFile
    dsimp only
    rcases hopen : m.tree.openFile m.workDir (e.fromHere target.path) target.append with ⟨_ | _, t⟩
    all_goals
      rw [hopen] at h
      exact h

theorem openChannels (e : Environment) (m : Machine) (c : Command) :
    m.SameWays (openChannels e m c).2 := by
  have hout := openChannel e m c.output
  unfold LineShell.openChannels
  split
  · rename_i hopen
    rw [hopen] at hout
    exact hout
  · rename_i output m' hopen
    have herr := openChannel e m' c.error
    rw [hopen] at hout
    split
    all_goals
      rename_i hopen'
      rw [hopen'] at herr
      exact hout.trans herr

theorem settle (st : Stage) (m : Machine) : m.SameWays (st.settle m) := by
  rw [Stage.settle]
  cases st.start with
  | builtin outcome =>
    have herr := report m st.redirects.error (outcome.error.getD "")
    dsimp only
    cases st.redirects.output with
    | none => exact herr
    | some f => exact herr.trans (writeText _ f _)
  | _ => exact refl m

theorem startInner (load : Loader) (c : Command) (source : Source) (s : Session) :
    s.machine.SameWays (startInner load c source s).2.machine := by
  have hopen := openChannels s.env s.machine c
  rcases hc : LineShell.openChannels s.env s.machine c with ⟨e | redirects, m⟩ <;>
    rw [hc] at hopen
  · rw [startInner_of_error hc]
    exact hopen
  · rw [startInner_of_ok hc]
    exact hopen.trans (settle _ m)

theorem startedBefore (load : Loader) (cs : List Command) (s : Session) :
    s.machine.SameWays (startedBefore load cs s).machine := by
  induction cs generalizing s with
  | nil => exact refl s.machine
  | cons c cs ih => exact (startInner load c .nothing s).trans (ih _)

theorem startStages (load : Loader) (files : Redirects) (first : Bool) (feed : Feed)
    (cs : List Command) (s : Session) :
    s.machine.SameWays (startStages load files first feed cs s).2.machine := by
  induction cs generalizing first feed s with
  | nil => exact refl s.machine
  | cons c cs ih =>
    cases cs with
    | nil =>
      have hs := startCommand_staged load c s
      change s.machine.SameWays (startCommand load c true s).2.machine
      rw [hs]
      exact refl s.machine
    | cons c' cs => exact (startInner load c (feed.source first) s).trans (ih false _ _)

/-! ### Running programs -/

theorem write (channel : Channel) (bytes : Bytes) (o : Outflow) (m : Machine) :
    m.SameWays (o.write channel bytes m).2 := by
  cases o with
  | shell => cases channel <;> exact refl m
  | file f => exact m.tree.writeAnyway_sameWays f bytes
  | pipe written => exact refl m

theorem deliver (k : Outflows) (writes : List (Channel × Bytes)) (m : Machine) :
    m.SameWays (k.deliver writes m).2 := by
  induction writes generalizing k m with
  | nil => exact refl m
  | cons w writes ih =>
    refine trans ?_ (ih _ _)
    rcases w with ⟨_ | _, bytes⟩
    · exact write .output bytes k.output m
    · exact write .error bytes k.error m

theorem consume (taken : Nat) (m : Machine) (source : Source) :
    m.SameWays (source.consume taken m) := by
  cases source <;> exact refl m

/-! ### Builtins -/

theorem writeFile (m : Machine) (path : String) (append : Bool) (text : String) :
    m.SameWays (m.writeFile path append text).2 :=
  m.tree.writeFile_sameWays m.workDir path append _

theorem store (h : History) (m : Machine) (path : String) : m.SameWays (h.store m path).2 := by
  have hwrite := writeFile m path false (unlines h.entries)
  unfold History.store
  split <;> rename_i hdone <;> rw [hdone] at hwrite <;> exact hwrite

theorem flush (h : History) (m : Machine) (path : String) : m.SameWays (h.flush m path).2 := by
  have hwrite := writeFile m path true (unlines h.pending)
  unfold History.flush
  split <;> rename_i hdone <;> rw [hdone] at hwrite <;> exact hwrite

theorem changeDirectory (args : List String) (s : Session) :
    s.machine.SameWays (changeDirectory args s).2.machine := by
  obtain ⟨seat, hmachine⟩ := changeDirectory_machine args s
  rw [hmachine]
  exact refl s.machine

theorem consultHistory (args : List String) (s : Session) :
    s.machine.SameWays (consultHistory args s).2.machine := by
  unfold LineShell.consultHistory
  split
  · exact refl _
  · exact refl _
  · rename_i file _
    unfold loadEntries
    dsimp only
    split
    · split <;> exact refl _
    · exact refl _
  · rename_i file _
    have hstore := store s.history s.machine (s.env.fromHere file)
    unfold storeEntries
    split <;> rename_i hdone <;> rw [hdone] at hstore <;> exact hstore
  · rename_i file _
    have hflush := flush s.history s.machine (s.env.fromHere file)
    unfold flushEntries
    split <;> rename_i hdone <;> rw [hdone] at hflush <;> exact hflush

theorem run (b : Builtin) (args : List String) (staged : Bool) (s : Session) :
    s.machine.SameWays (b.run args staged s).2.machine := by
  cases b with
  | echo => exact refl _
  | pwd => exact refl _
  | type => exact refl _
  | exit => cases staged <;> exact refl _
  | cd =>
    cases staged
    · exact changeDirectory args s
    · exact refl _
  | history =>
    cases staged
    · exact consultHistory args s
    · exact refl _

theorem startCommand (load : Loader) (c : Command) (staged : Bool) (s : Session) :
    s.machine.SameWays (startCommand load c staged s).2.machine := by
  rw [startCommand_session]
  cases Builtin.ofName? c.name with
  | none => exact refl _
  | some b => exact run b c.args staged s

/-! ### The ends of a line -/

theorem route (m : Machine) (file : Option OpenFile) (text : String) :
    m.SameWays (route m file text).2 := by
  cases file with
  | none => exact refl m
  | some f => exact writeText m f text

theorem sessionDeliver (s : Session) (files : Redirects) (o : Outcome) :
    s.machine.SameWays (s.deliver files o).2.machine := by
  unfold Session.deliver
  exact (route s.machine files.output _).trans (route _ files.error _)

theorem keepHistory (s : Session) : s.machine.SameWays s.keepHistory.machine := by
  unfold Session.keepHistory
  split
  · exact refl _
  · exact store s.history s.machine _

end Machine.SameWays

/-! ### The turns of a line -/

/-- The program of the turn, if there is one, leaves a directory or a link at a place alone. -/
def Turn.Spares (p : Place) (t : Turn) : Prop :=
  ∀ b, t.stage.start = .program b → t.machine.tree.Stays (t.execution b).tree p

/-- The turn of a command on its own. -/
def Turn.alone (c : Command) (files : Redirects) (start : Start) (m : Machine) : Turn :=
  let sinks : Outflows := ⟨.ofRedirect files.output .shell, .ofRedirect files.error .shell⟩
  { stage := ⟨c, files, .inherited, start⟩, fed := .none, machine := m, sinks
    outlet := sinks.output.outlet m }

/-- The room in the pipes for which a run counts, after at most `n` more attempts. -/
def countedRoom (stages : List Stage) (m : Machine) : Nat → Nat → Nat
  | 0, room => room
  | n + 1, room =>
    if (runStarted room .none stages m).2.1 then countedRoom stages m n (widened room) else room

/-- The turns of the stages of a line whose last targets are open, of the attempt that counts. -/
def stageTurns (load : Loader) (stages : List Command) (files : Redirects) (s : Session) :
    List Turn :=
  match stages with
  | [] => []
  | [c] => [.alone c files (startCommand load c false s).1 (startCommand load c false s).2.machine]
  | _ =>
    let started := startStages load files true .nothing stages s
    pipelineTurns load files stages s
      (countedRoom started.1 started.2.machine widenings firstRoom)

/-- The turns of the stages of a line. -/
def lineTurns (load : Loader) (line : String) (s : Session) : List Turn :=
  match parseLine line with
  | .error _ => []
  | .ok stages => match stages.getLast? with
    | none => []
    | some last => match openChannels s.env s.machine last with
      | (.error _, _) => []
      | (.ok files, machine) => stageTurns load stages files { s with machine }

variable {load : Loader} {p : Place}

/-- A program that is started is one that the loader gives. -/
theorem exists_load_of_startCommand {c : Command} {staged : Bool} {s : Session} {b : Behaviour}
    (h : (startCommand load c staged s).1 = .program b) : ∃ l dir t, load l dir t = .ok b := by
  unfold startCommand at h
  split at h
  · cases h
  · cases h
  · split at h
    · cases h
    · rename_i hload
      cases h
      unfold Launch.load at hload
      split at hload
      · cases hload
      · split at hload
        · cases hload
        · exact ⟨_, _, _, hload⟩

theorem exists_load_of_startOf {c : Command} {last : Bool} {s : Session} {b : Behaviour}
    (h : startOf load c last s = .program b) : ∃ l dir t, load l dir t = .ok b := by
  unfold startOf at h
  split at h
  · exact exists_load_of_startCommand h
  · split at h
    · cases h
    · exact exists_load_of_startCommand h

theorem exists_load_of_mem_lineTurns {line : String} {s : Session} {t : Turn} {b : Behaviour}
    (ht : t ∈ lineTurns load line s) (hb : t.stage.start = .program b) :
    ∃ l dir t, load l dir t = .ok b := by
  unfold lineTurns at ht
  cases hparse : parseLine line with
  | error e =>
    rw [hparse] at ht
    cases ht
  | ok stages =>
    rw [hparse] at ht
    dsimp only at ht
    split at ht
    · cases ht
    split at ht
    · cases ht
    unfold stageTurns at ht
    split at ht
    · cases ht
    · rw [List.mem_singleton.mp ht] at hb
      exact exists_load_of_startCommand hb
    · rename_i files machine _ _ _ _
      obtain ⟨pre, post, hrun⟩ := List.append_of_mem ht
      have hflow := pipelineTurns_dataFlow load files stages { s with machine }
      have hstart := ((hflow _).started pre post t hrun).2
      rw [hb] at hstart
      exact exists_load_of_startOf hstart.symm

/-- Where no program touches directories and links, no line does. -/
theorem spares_of_loader {line : String} {s : Session} {t : Turn}
    (hload : ∀ l dir tree b, load l dir tree = .ok b →
      ∀ streams (tree : FileTree), tree.SameWays (b streams tree).tree)
    (ht : t ∈ lineTurns load line s) (p : Place) : t.Spares p := by
  intro b hb
  obtain ⟨l, dir, tree, hb'⟩ := exists_load_of_mem_lineTurns ht hb
  exact (hload l dir tree b hb' _ _).stays p

theorem Turn.Spares.after {t : Turn} (h : t.Spares p) : t.machine.tree.Stays t.after.tree p := by
  rcases t.stage.program_or_idle with ⟨b, hb⟩ | hidle
  · have hconsume := Machine.SameWays.consume (t.execution b).taken
      { t.machine with tree := (t.execution b).tree } t.stage.source
    have hdeliver := Machine.SameWays.deliver t.sinks (t.execution b).writes
      (t.stage.source.consume (t.execution b).taken
        { t.machine with tree := (t.execution b).tree })
    rw [Turn.after, hb]
    exact (h b hb).trans ((hconsume.trans hdeliver).stays p)
  · rw [Turn.after_of_idle hidle]
    exact .refl _ p

theorem runWidening_eq_counted (stages : List Stage) (m : Machine) (n room : Nat) :
    let run := runStarted (countedRoom stages m n room) .none stages m
    runWidening stages m n room = (run.1, run.2.2) := by
  induction n generalizing room with
  | zero => rfl
  | succ n ih =>
    rw [runWidening, countedRoom]
    rcases hrun : runStarted room .none stages m with ⟨outcome, _ | _, m'⟩
    · dsimp only
      rw [if_neg Bool.false_ne_true, hrun]
    · dsimp only
      rw [if_pos rfl]
      exact ih (widened room)

theorem runStarted_stays {room : Nat} {fed : Flow} {stages : List Stage} {m : Machine}
    (h : ∀ t ∈ turns room fed stages m, t.Spares p) :
    m.tree.Stays (runStarted room fed stages m).2.2.tree p := by
  induction stages generalizing fed m with
  | nil => exact .refl _ p
  | cons st rest ih =>
    cases rest with
    | nil =>
      have hlast := (h _ List.mem_cons_self).after
      rw [← Stage.finish_machine] at hlast
      exact hlast
    | cons next rest =>
      have hfirst := (h _ List.mem_cons_self).after
      rw [← Stage.pass_machine] at hfirst
      exact hfirst.trans (ih fun t ht => h t (List.mem_cons_of_mem _ ht))

theorem runAlone_machine (c : Command) (files : Redirects) (s : Session) :
    (runAlone load c files s).2.machine =
      (Turn.alone c files (startCommand load c false s).1
        (startCommand load c false s).2.machine).after := by
  rw [runAlone]
  rcases hstart : startCommand load c false s with ⟨_ | _ | _ | _ | b, t⟩
  · rfl
  · rfl
  · rfl
  · rfl
  · exact Turn.run_machine (t := .alone c files (.program b) t.machine) rfl

theorem runStages_stays {stages : List Command} {files : Redirects} {s : Session}
    (h : ∀ t ∈ stageTurns load stages files s, t.Spares p) :
    s.machine.tree.Stays (runStages load stages files s).2.machine.tree p := by
  match stages, h with
  | [], _ => exact .refl _ p
  | [c], h =>
    have hstart := (Machine.SameWays.startCommand load c false s).stays p
    rw [runStages, runAlone_machine]
    exact hstart.trans (h _ List.mem_cons_self).after
  | c :: c' :: rest, h =>
    have hstart :=
      (Machine.SameWays.startStages load files true .nothing (c :: c' :: rest) s).stays p
    have hrun : runStages load (c :: c' :: rest) files s =
      runPiped load (c :: c' :: rest) files s := rfl
    refine hstart.trans ?_
    rw [hrun, runPiped]
    dsimp only
    rw [runWidening_eq_counted]
    exact runStarted_stays h

/-- Where the programs of a line leave a directory or a link alone, the line does. -/
theorem Session.perform_stays {line : String} {s : Session}
    (h : ∀ t ∈ lineTurns load line s, t.Spares p) :
    s.machine.tree.Stays (s.perform load line).2.machine.tree p := by
  unfold lineTurns at h
  unfold perform
  cases hparse : parseLine line with
  | error e => exact .refl _ p
  | ok stages =>
    rw [hparse] at h
    dsimp only at h ⊢
    cases hlast : stages.getLast? with
    | none => exact .refl _ p
    | some last =>
      rw [hlast] at h
      have hopen := (Machine.SameWays.openChannels s.env s.machine last).stays p
      unfold performStages
      dsimp only at h ⊢
      rcases hopened : openChannels s.env s.machine last with ⟨e | files, m⟩ <;>
        rw [hopened] at h hopen
      · exact hopen
      · exact (hopen.trans (runStages_stays h)).trans
          ((Machine.SameWays.sessionDeliver _ files _).stays p)

end LineShell
