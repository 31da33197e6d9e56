import LineShell.Proofs.Line.Unreadable
import LineShell.Proofs.Session.Conversation
import LineShell.Proofs.Session.Reporting
/-!
    The exit code that a conversation ends with.

    It is the code of the last line that was accepted, whether that line ran a command or not, and a
    line that runs none has a code of its own (`idleCode`). So it is the code of the last command
    only if nothing but lines with the same code were accepted after that (`interact_code`). A
    blank line is enough to lose it (`interact_code_lost`). -/

namespace LineShell

namespace Session

/-- The session in which a line is run, once it has been asked for and recorded. -/
def running (prompt line : String) (s : Session) : Session := (s.asking prompt).record line

/-- The line can be read and the targets of its last stage can be opened, so its stages are run. -/
def RunsStages (line : String) (s : Session) : Prop :=
  ∃ cs last files, parseLine line = .ok (cs ++ [last]) ∧
    (openChannels s.env s.machine last).1 = .ok files

/-- A way to tell the lines that run a command from those that do not. A line that cannot be read
    runs none, and one whose stages are run does. Of a line that can be read and whose targets
    cannot be opened either may be said. -/
structure Discerns (ran : String → Session → Bool) : Prop where
  unreadable {line : String} {s : Session} : Unreadable line → ran line s = false
  runs {line : String} {s : Session} : s.RunsStages line → ran line s = true

/-- The exit code of a line of which nothing is run. -/
def idleCode (line : String) : Int :=
  match parseLine line with
  | .error _ => 0
  | .ok _ => redirectCode

/-- For each line, accepted one after the other, whether it ran a command, and its exit code. -/
def results (ran : String → Session → Bool) (load : Loader) (prompt : String) :
    List String → Session → List (Bool × Int)
  | [], _ => []
  | line :: rest, s =>
    let done := s.accept load prompt line
    (ran line (s.running prompt line), done.1) :: results ran load prompt rest done.2

/-- The exit code of the last line that ran a command, 0 if none did. -/
def commandCode (ran : String → Session → Bool) (load : Loader) (prompt : String)
    (lines : List String) (s : Session) : Int :=
  (((s.results ran load prompt lines).filter (·.1)).getLast?.map (·.2)).getD 0

variable {ran : String → Session → Bool} {load : Loader} {prompt line : String} {s : Session}

/-! ### Lines of which nothing is run -/

/-- Running a line is all that accepting it adds to recording it. -/
theorem accept_code (load : Loader) (prompt line : String) (s : Session) :
    (s.accept load prompt line).1 = ((s.running prompt line).perform load line).1.code := rfl

theorem perform_code_of_unreadable (h : Unreadable line) (load : Loader) (s : Session) :
    (s.perform load line).1.code = 0 := by
  rw [perform, parseLine_of_unreadable h .noCommand]

theorem performStages_code_of_refused {last : Command}
    (h : ∀ files, (openChannels s.env s.machine last).1 ≠ .ok files) (load : Loader)
    (stages : List Command) : (s.performStages load stages last).1.code = redirectCode := by
  unfold performStages
  rcases hopen : openChannels s.env s.machine last with ⟨e | files, m⟩
  · rfl
  · exact absurd (by rw [hopen]) (h files)

/-- A line that does not run a command has the code that says why. -/
theorem perform_code_of_idle (hran : Discerns ran) (h : ran line s = false) (load : Loader) :
    (s.perform load line).1.code = idleCode line := by
  by_cases hread : Unreadable line
  · rw [perform_code_of_unreadable hread, idleCode, parseLine_of_unreadable hread .noCommand]
  · obtain ⟨stages, hstages, -⟩ := parseLine_of_not_unreadable hread
    have hne : stages ≠ [] := (printable_of_parseLine hstages).1
    obtain ⟨cs, last, rfl⟩ := (List.eq_nil_or_concat' stages).resolve_left hne
    have hclosed (files : Redirects) : (openChannels s.env s.machine last).1 ≠ .ok files := by
      intro hopen
      rw [hran.runs ⟨cs, last, files, hstages, hopen⟩] at h
      cases h
    rw [perform_of_parsed hstages, performStages_code_of_refused hclosed, idleCode, hstages]

/-! ### One line more -/

/-- The lines behind the first are accepted in the session that it leaves. -/
theorem acceptAll_cons_session (line : String) (rest : List String) (s : Session) :
    (s.acceptAll load prompt (line :: rest)).2 =
      ((s.accept load prompt line).2.acceptAll load prompt rest).2 := by
  induction rest using List.reverseRecOn with
  | nil => rfl
  | append_singleton rest last ih =>
    rw [← List.cons_append, acceptAll_concat, acceptAll_concat, ih]

theorem results_concat (lines : List String) (line : String) (s : Session) :
    s.results ran load prompt (lines ++ [line]) =
      let t := (s.acceptAll load prompt lines).2
      s.results ran load prompt lines ++
        [(ran line (t.running prompt line), (t.accept load prompt line).1)] := by
  induction lines generalizing s with
  | nil => rfl
  | cons first lines ih => rw [List.cons_append, results, ih, acceptAll_cons_session]; rfl

/-- A line that runs a command puts its code in the place of the one before, and any other line
    leaves that as it is. -/
theorem commandCode_concat (lines : List String) (line : String) (s : Session) :
    s.commandCode ran load prompt (lines ++ [line]) =
      let t := (s.acceptAll load prompt lines).2
      if ran line (t.running prompt line) then (t.accept load prompt line).1
      else s.commandCode ran load prompt lines := by
  rw [commandCode, results_concat, List.filter_append]
  dsimp only
  split_ifs with h
  · simp [h]
  · simp [h, commandCode]

/-- What the last line accepted does to the code of the last command. -/
theorem code_concat_iff (hran : Discerns ran) (lines : List String) (line : String) (s : Session) :
    (s.acceptAll load prompt (lines ++ [line])).1 =
        s.commandCode ran load prompt (lines ++ [line]) ↔
      ran line ((s.acceptAll load prompt lines).2.running prompt line) = true ∨
        s.commandCode ran load prompt lines = idleCode line := by
  rw [acceptAll_concat, commandCode_concat]
  dsimp only
  split_ifs with h
  · simp [h]
  · have hidle := perform_code_of_idle hran (Bool.eq_false_iff.mpr h) load
    rw [← accept_code] at hidle
    rw [hidle]
    simp [h, eq_comm]

/-! ### The whole conversation -/

/-- A conversation whose lines are all read ends with the code of the last one accepted, whatever
    stands behind a line that ends it. -/
theorem interact_finished {lines : List String} {later : List TypedLine}
    (hend : s.closingLine? load prompt lines ≠ none ∨ later = []) :
    (interact load prompt (lines.map .line ++ later) s).1 =
      .finished (s.acceptAll load prompt (s.acceptedLines load prompt lines)).1 := by
  have haccepted := accepted_acceptAll load prompt lines s
  cases hclosing : s.closingLine? load prompt lines with
  | none =>
    obtain rfl : later = [] := hend.resolve_left fun hne => hne hclosing
    rw [List.append_nil, haccepted.ended hclosing]
  | some n =>
    have hsplit : lines.map TypedLine.line ++ later =
        (lines.take (n + 1)).map .line ++ ((lines.drop (n + 1)).map .line ++ later) := by
      rw [← List.append_assoc, ← List.map_append, List.take_append_drop]
    rw [hsplit, haccepted.closed n hclosing]

/-- A conversation that is read up to the end of the input, or up to a line that ends the shell, ends
    with the exit code of the last line that ran a command exactly if that is the last line of all
    that were accepted or the lines behind it happen to have the same code. -/
theorem interact_code (load : Loader) (prompt : String) (s : Session)
    {ran : String → Session → Bool} (hran : Discerns ran) (lines : List String)
    (later : List TypedLine) (hend : s.closingLine? load prompt lines ≠ none ∨ later = []) :
    let accepted := s.acceptedLines load prompt lines
    let code := (s.acceptAll load prompt accepted).1
    (interact load prompt (lines.map .line ++ later) s).1 = .finished code ∧
    (accepted = [] → code = s.commandCode ran load prompt accepted) ∧
    (∀ front line, accepted = front ++ [line] →
      (code = s.commandCode ran load prompt accepted ↔
        ran line ((s.acceptAll load prompt front).2.running prompt line) = true ∨
          s.commandCode ran load prompt front = idleCode line)) ∧
    ∀ read : LineReader, s.dialogue load read prompt = interact load prompt (read s.machine.input)
      { s with machine := s.machine.readInput s.machine.input.length } := by
  intro accepted code
  refine ⟨interact_finished hend, fun hnone => ?_, fun front line hlast => ?_,
    fun read => dialogue_eq_interact load read prompt s⟩
  · have hnil : s.acceptedLines load prompt lines = [] := hnone
    simp only [code, accepted, hnil]
    rfl
  · have hfront : s.acceptedLines load prompt lines = front ++ [line] := hlast
    simp only [code, accepted, hfront]
    exact code_concat_iff hran front line s

/-- The line holds a command: what counts is that it can be read. -/
def holdsCommand (line : String) (_ : Session) : Bool := (parseLine line).toOption.isSome

/-- The stages of the line are run: the targets of the last one can be opened. -/
def startsStages (line : String) (s : Session) : Bool :=
  match parseLine line with
  | .error _ => false
  | .ok stages => stages.getLast?.any fun last =>
    (openChannels s.env s.machine last).1.toOption.isSome

theorem discerns_holdsCommand : Discerns holdsCommand where
  unreadable h := by rw [holdsCommand, parseLine_of_unreadable h .noCommand]; rfl
  runs := by
    rintro line s ⟨cs, last, files, hline, -⟩
    rw [holdsCommand, hline]
    rfl

theorem discerns_startsStages : Discerns startsStages where
  unreadable h := by rw [startsStages, parseLine_of_unreadable h .noCommand]
  runs := by
    rintro line s ⟨cs, last, files, hline, hopen⟩
    rw [startsStages, hline]
    simp [hopen, Except.toOption]

/-- Lines of a conversation that is over with the third. -/
def endingLines : List String := ["exit 7 | exit 3", " ", "exit 5", "|"]

/-- A blank line between two commands does no harm. -/
theorem interact_code_kept :
    Discerns startsStages ∧ bareSession.closingLine? unloadable "" endingLines = some 2 ∧
    (interact unloadable "" (endingLines.map .line ++ [.failed .notText]) bareSession).1 =
      .finished 5 ∧
    bareSession.commandCode startsStages unloadable "" ["exit 7 | exit 3", " ", "exit 5"] = 5 := by
  have hclosing : bareSession.closingLine? unloadable "" endingLines = some 2 := by rfl
  have haccepted : bareSession.acceptedLines unloadable "" endingLines =
      ["exit 7 | exit 3", " "] ++ ["exit 5"] := by rfl
  obtain ⟨hcode, -, hlast, -⟩ := interact_code unloadable "" bareSession
    discerns_startsStages endingLines [.failed .notText] (.inl (by rw [hclosing]; exact nofun))
  have hsame := (hlast _ _ haccepted).mpr (.inl (by rfl))
  have hfive : (interact unloadable "" (endingLines.map .line ++ [.failed .notText])
      bareSession).1 = .finished 5 := by rfl
  rw [hfive, hsame, haccepted] at hcode
  exact ⟨discerns_startsStages, hclosing, hfive, (Ending.finished.inj hcode).symm⟩

/-- A blank line at the end is enough for the code of the last command to be lost, whichever lines
    are said to run a command. -/
theorem interact_code_lost :
    let lines := ["echo a | exit 3", ""]
    (interact unloadable "" (lines.map .line) bareSession).1 = .finished 0 ∧
      (Discerns holdsCommand ∧ bareSession.commandCode holdsCommand unloadable "" lines = 3) ∧
      (Discerns startsStages ∧ bareSession.commandCode startsStages unloadable "" lines = 3) := by
  refine ⟨?_, ⟨discerns_holdsCommand, ?_⟩, discerns_startsStages, ?_⟩ <;> rfl

end Session

end LineShell
