import LineShell.Proofs.Session.Frame
import Mathlib.Data.List.Induction
/-!
    A dialogue is its lines, accepted one after the other.

    What accepting lines does is a fold (`Session.acceptAll`), and which of the lines that are typed
    are accepted is found by a search for the first after which the shell is to end
    (`Session.closingLine?`). A dialogue does exactly that and then saves the history once, whether
    a line ends it, the input or a line that cannot be read (`interact_eq_acceptAll`). -/

namespace LineShell

namespace Session

/-- The session when a line has been asked for. -/
def asking (prompt : String) (s : Session) : Session := { s with machine := s.machine.print prompt }

/-- Asks for a line, submits it, and answers on the process's own output and errors; the exit code
    of the line. -/
def accept (load : Loader) (prompt line : String) (s : Session) : Int × Session :=
  let (reply, s) := submit load line (s.asking prompt)
  (reply.code, s.answer reply)

/-- Accepts lines one after the other; the exit code of the last one, 0 if there is none. -/
def acceptAll (load : Loader) (prompt : String) (lines : List String) (s : Session) :
    Int × Session :=
  lines.foldl (fun done line => done.2.accept load prompt line) (0, s)

/-- Where the first line stands after which the shell is to end. -/
def closingLine? (load : Loader) (prompt : String) (lines : List String) (s : Session) :
    Option Nat :=
  (List.range lines.length).find? fun n =>
    (s.acceptAll load prompt (lines.take (n + 1))).2.env.closing

/-- The lines up to that one and with it, or all lines if there is none. -/
def acceptedLines (load : Loader) (prompt : String) (lines : List String) (s : Session) :
    List String :=
  match s.closingLine? load prompt lines with
  | some n => lines.take (n + 1)
  | none => lines

/-- Goes through all that has been typed, and saves the history. -/
def interact (load : Loader) (prompt : String) (typed : List TypedLine) (s : Session) :
    Ending × Session :=
  match converse load prompt 0 typed s with
  | (.abandoned, s) => (.abandoned, s)
  | (ending, s) => (ending, s.keepHistory)

/-- A dialogue goes through the lines of its input, all of which has been read ahead. -/
theorem dialogue_eq_interact (load : Loader) (read : LineReader) (prompt : String) (s : Session) :
    s.dialogue load read prompt = interact load prompt (read s.machine.input)
      { s with machine := s.machine.readInput s.machine.input.length } := rfl

/-- Without a prompt, asking for a line does nothing. -/
theorem asking_empty (s : Session) : s.asking "" = s := by
  simp [asking, Machine.print, Bytes.ofText, Bytes.ofChars]

/-! ### One line -/

variable {load : Loader} {prompt : String}

theorem converse_cons (code : Int) (line : String) (later : List TypedLine) (s : Session) :
    s.converse load prompt code (.line line :: later) =
      let done := s.accept load prompt line
      if done.2.env.closing then (.finished done.1, done.2)
      else done.2.converse load prompt done.1 later := rfl

/-- A line of several stages does not end the shell, whatever they are. -/
theorem accept_closing_of_piped {line : String} {cs : List Command}
    (hparse : parseLine line = .ok cs) (hmany : 2 ≤ cs.length) (s : Session) :
    (s.accept load prompt line).2.env.closing = s.env.closing := by
  have hkept := (submit_lineFrame load line (s.asking prompt)).piped cs hparse (by omega)
  calc (s.accept load prompt line).2.env.closing
      = ((s.asking prompt).record line).env.closing := congrArg (·.closing) hkept.env
    _ = s.env.closing := by rw [record_eq]; rfl

/-! ### All lines -/

theorem acceptAll_concat (lines : List String) (line : String) (s : Session) :
    s.acceptAll load prompt (lines ++ [line]) =
      (s.acceptAll load prompt lines).2.accept load prompt line := by
  rw [acceptAll, List.foldl_append]
  rfl

/-- As long as no line ends the shell, the conversation goes on with the next. -/
theorem converse_open {lines : List String} {s : Session}
    (hopen : ∀ n < lines.length,
      (s.acceptAll load prompt (lines.take (n + 1))).2.env.closing = false)
    (later : List TypedLine) :
    s.converse load prompt 0 (lines.map .line ++ later) =
      (s.acceptAll load prompt lines).2.converse load prompt
        (s.acceptAll load prompt lines).1 later := by
  induction lines using List.reverseRecOn generalizing later with
  | nil => rfl
  | append_singleton lines line ih =>
    have hbefore : ∀ n < lines.length,
        (s.acceptAll load prompt (lines.take (n + 1))).2.env.closing = false := by
      intro n hn
      have hfirst := hopen n (by rw [List.length_append]; omega)
      rwa [List.take_append_of_le_length hn] at hfirst
    have hlast := hopen lines.length (by simp)
    rw [List.take_of_length_le (by simp), acceptAll_concat] at hlast
    rw [List.map_append, List.append_assoc, ih hbefore, List.map_cons, List.map_nil,
      List.singleton_append, converse_cons, acceptAll_concat]
    exact if_neg (by rw [hlast]; exact nofun)

theorem closingLine?_eq_none {lines : List String} {s : Session}
    (h : s.closingLine? load prompt lines = none) :
    ∀ n < lines.length,
      (s.acceptAll load prompt (lines.take (n + 1))).2.env.closing = false := by
  intro n hn
  simpa using List.find?_range_eq_none.mp h n hn

theorem closingLine?_eq_some {lines : List String} {s : Session} {n : Nat}
    (h : s.closingLine? load prompt lines = some n) :
    n < lines.length ∧ (s.acceptAll load prompt (lines.take (n + 1))).2.env.closing = true ∧
      ∀ k < n, (s.acceptAll load prompt (lines.take (k + 1))).2.env.closing = false := by
  obtain ⟨hclosing, hn, hopen⟩ := List.find?_range_eq_some.mp h
  exact ⟨List.mem_range.mp hn, hclosing, fun k hk => by simpa using hopen k hk⟩

/-- With the first line that ends the shell the conversation is over, whatever is typed after it. -/
theorem converse_closing {lines : List String} {s : Session} {n : Nat}
    (h : s.closingLine? load prompt lines = some n) (later : List TypedLine) :
    let done := s.acceptAll load prompt (lines.take (n + 1))
    s.converse load prompt 0 ((lines.take (n + 1)).map .line ++ later) =
      (.finished done.1, done.2) := by
  obtain ⟨hn, hclosing, hopen⟩ := closingLine?_eq_some h
  have hbefore : ∀ k < (lines.take n).length,
      (s.acceptAll load prompt ((lines.take n).take (k + 1))).2.env.closing = false := by
    intro k hk
    rw [List.length_take, Nat.min_eq_left (Nat.le_of_lt hn)] at hk
    rw [List.take_take, Nat.min_eq_left hk]
    exact hopen k hk
  intro done
  have hsplit : lines.take (n + 1) = lines.take n ++ [lines[n]] := by
    rw [List.take_succ_eq_append_getElem hn]
  have hdone : done = (s.acceptAll load prompt (lines.take n)).2.accept load prompt lines[n] := by
    rw [← acceptAll_concat, ← hsplit]
  rw [hsplit, List.map_append, List.append_assoc, converse_open hbefore, List.map_cons,
    List.map_nil, List.singleton_append, converse_cons, ← hdone]
  exact if_pos hclosing

/-! ### What is left of the conversation -/

theorem interact_of_finished {typed : List TypedLine} {s t : Session} {code : Int}
    (h : s.converse load prompt 0 typed = (.finished code, t)) :
    interact load prompt typed s = (.finished code, t.keepHistory) := by
  rw [interact, h]

theorem interact_of_unreadable {typed : List TypedLine} {s t : Session} {fault : Fault}
    (h : s.converse load prompt 0 typed = (.unreadable fault, t)) :
    interact load prompt typed s = (.unreadable fault, t.keepHistory) := by
  rw [interact, h]

/-- What lines that are typed come to, told by those that are accepted. -/
structure Accepted (load : Loader) (prompt : String) (lines : List String) (s : Session)
    (done : Int × Session) : Prop where
  /-- A line ends the shell, and what is typed after it is neither recorded nor run. -/
  closed (n : Nat) : s.closingLine? load prompt lines = some n → ∀ later,
    interact load prompt ((lines.take (n + 1)).map .line ++ later) s =
      (.finished done.1, done.2.keepHistory)
  /-- No line does, and the input ends. -/
  ended : s.closingLine? load prompt lines = none →
    interact load prompt (lines.map .line) s =
      (.finished done.1, (done.2.asking prompt).keepHistory)
  /-- No line does, and what comes next cannot be read. -/
  unreadable : s.closingLine? load prompt lines = none → ∀ fault later,
    interact load prompt (lines.map .line ++ .failed fault :: later) s =
      (.unreadable fault, (done.2.asking prompt).keepHistory)

theorem accepted_acceptAll (load : Loader) (prompt : String) (lines : List String) (s : Session) :
    Accepted load prompt lines s
      (s.acceptAll load prompt (s.acceptedLines load prompt lines)) where
  closed n h later := by
    rw [acceptedLines, h]
    exact interact_of_finished (converse_closing h later)
  ended h := by
    have hend := converse_open (closingLine?_eq_none h) []
    rw [List.append_nil] at hend
    rw [acceptedLines, h]
    exact interact_of_finished hend
  unreadable h fault later := by
    rw [acceptedLines, h]
    exact interact_of_unreadable (converse_open (closingLine?_eq_none h) (.failed fault :: later))

/-- A conversation is its lines, accepted one after the other up to the first after which the shell
    is to end, and the history saved once. A line of several stages is never such a line, without a
    prompt nothing but the lines is seen, and a dialogue is the conversation over its input. -/
theorem interact_eq_acceptAll (load : Loader) (prompt : String) (s : Session) :
    (∀ lines, Accepted load prompt lines s
      (s.acceptAll load prompt (s.acceptedLines load prompt lines))) ∧
    (∀ line cs, parseLine line = .ok cs → 2 ≤ cs.length → s.env.closing = false →
      ∀ code later, s.converse load prompt code (.line line :: later) =
        (s.accept load prompt line).2.converse load prompt (s.accept load prompt line).1 later) ∧
    s.asking "" = s ∧
    ∀ read : LineReader, s.dialogue load read prompt = interact load prompt (read s.machine.input)
      { s with machine := s.machine.readInput s.machine.input.length } := by
  refine ⟨fun lines => accepted_acceptAll load prompt lines s, ?_, s.asking_empty,
    fun _ => rfl⟩
  intro line cs hparse hmany hopen code later
  rw [converse_cons]
  refine if_neg ?_
  rw [accept_closing_of_piped hparse hmany, hopen]
  exact nofun

/-- The second line ends the shell, so the third is neither recorded nor run. -/
example (load : Loader) (m : Machine) :
    (interact load "" [.line "exit 1 | exit 2", .line "exit 3", .line "exit 4"]
      ⟨⟨[], "", false⟩, .empty, m⟩).1 = .finished 3 := rfl

end Session

end LineShell
