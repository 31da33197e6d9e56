import Mathlib.Data.List.Forall2
import LineShell.Proofs.Line.Trimming
/-!
    Commands written out as a line, and read back.

    A command is written with every word between single quotes and with its operators bare, a quote
    inside a word as `'\''`. Whatever the words hold, this reads back as the command, provided that
    no argument and no target is itself an operator. Reading a line never gives any other commands,
    so the commands that can be read are exactly those that can be written and read back
    (`parseLine_printLine`). -/

namespace LineShell

/-! ### Writing -/

/-- The words that are operators wherever they stand after the name. -/
def operatorWords : List String := [">", "1>", ">>", "1>>", "2>", "2>>"]

/-- The word that an operator is written as. -/
def Operator.spelling : Operator → String
  | ⟨.output, false⟩ => ">"
  | ⟨.output, true⟩  => ">>"
  | ⟨.error, false⟩  => "2>"
  | ⟨.error, true⟩   => "2>>"

/-- A character between single quotes; a quote closes them, stands after a backslash and opens them
    again. -/
def quotedChar (c : Char) : List Char :=
  if c = '\x27' then ['\x27', '\\', '\x27', '\x27'] else [c]

/-- Text between single quotes. -/
def quoted (cs : List Char) : List Char := '\x27' :: (cs.flatMap quotedChar ++ ['\x27'])

/-- A word of a command as it is written: an operator, or a word between quotes. -/
inductive Mark where
  | operator (op : Operator)
  | word (w : String)

/-- The word that is meant. -/
def Mark.meaning : Mark → String
  | .operator op => op.spelling
  | .word w => w

/-- The word as it is written. -/
def Mark.written : Mark → List Char
  | .operator op => op.spelling.toList
  | .word w => quoted w.toList

/-- A redirection of a channel. -/
def Target.marks (channel : Channel) : Option Target → List Mark
  | none => []
  | some t => [.operator ⟨channel, t.append⟩, .word t.path]

/-- The words of a command: its name, its arguments, its redirections. -/
def Command.marks (c : Command) : List Mark :=
  .word c.name :: (c.args.map .word ++
    (Target.marks .output c.output ++ Target.marks .error c.error))

/-- Words with a blank between each two. -/
def printMarks (ms : List Mark) : List Char := [' '].intercalate (ms.map Mark.written)

/-- Stages with a bar between each two. -/
def printStages (stages : List Command) : List Char :=
  [' ', '|', ' '].intercalate (stages.map fun c => printMarks c.marks)

/-- The line that commands are written as. -/
def printLine (stages : List Command) : String := String.ofList (printStages stages)

/-- Neither an argument nor a target of the command is an operator. -/
structure Command.Printable (c : Command) : Prop where
  args : ∀ a ∈ c.args, a ∉ operatorWords
  output : ∀ t ∈ c.output, t.path ∉ operatorWords
  error : ∀ t ∈ c.error, t.path ∉ operatorWords

/-- At least one stage, all of which can be written. -/
def PrintableStages (stages : List Command) : Prop :=
  stages ≠ [] ∧ ∀ c ∈ stages, c.Printable

/-! ### A written word is read as the word -/

theorem cutWords_quotedChars (cs rest : List Char) :
    cutWords .single (cs.flatMap quotedChar ++ '\x27' :: rest) =
      (cutWords .bare rest).prepend cs := by
  induction cs with
  | nil => rfl
  | cons c cs ih =>
    rw [List.flatMap_cons, List.append_assoc, quotedChar]
    split_ifs with hc
    · subst hc
      simp [cutWords_cons, Quoting.step, bareSense, Sense.onto, ih]
    · simp [cutWords_cons, Quoting.step, Sense.onto, hc, ih]

theorem piecesFrom_quotedChars (cs rest : List Char) :
    piecesFrom .single (cs.flatMap quotedChar ++ '\x27' :: rest) =
      (piecesFrom .bare rest).modifyHead ((cs.flatMap quotedChar ++ ['\x27']) ++ ·) := by
  induction cs with
  | nil => rfl
  | cons c cs ih =>
    rw [List.flatMap_cons, List.append_assoc, quotedChar]
    split_ifs with hc
    · subst hc
      simp [piecesFrom_cons, Quoting.step, bareSense, ih, Function.comp_def]
    · simp [piecesFrom_cons, Quoting.step, hc, ih, Function.comp_def]

theorem cutWords_written (m : Mark) (rest : List Char) :
    cutWords .bare (m.written ++ rest) = (cutWords .bare rest).prepend m.meaning.toList := by
  cases m with
  | word w =>
    simp [Mark.written, quoted, cutWords_cons, Quoting.step, bareSense, Sense.onto, Mark.meaning,
      cutWords_quotedChars]
  | operator op =>
    rcases op with ⟨_ | _, _ | _⟩ <;>
      simp [Mark.written, Mark.meaning, Operator.spelling, cutWords_cons, Quoting.step, bareSense,
        Sense.onto, isBlank, blankRanges]

theorem piecesFrom_written (m : Mark) (rest : List Char) :
    piecesFrom .bare (m.written ++ rest) = (piecesFrom .bare rest).modifyHead (m.written ++ ·) := by
  cases m with
  | word w =>
    simp [Mark.written, quoted, piecesFrom_cons, Quoting.step, bareSense, piecesFrom_quotedChars,
      Function.comp_def]
  | operator op =>
    rcases op with ⟨_ | _, _ | _⟩ <;>
      simp [Mark.written, Operator.spelling, piecesFrom_cons, Quoting.step, bareSense, isBlank,
        blankRanges, Function.comp_def]

/-! ### A written command is one piece that trimming leaves alone -/

/-- The text starts and ends with characters that are no blanks. -/
def Solid (t : List Char) : Prop :=
  ∃ c cs ds d, t = c :: cs ∧ t = ds ++ [d] ∧ isBlank c = false ∧ isBlank d = false

theorem Solid.trim_eq {t : List Char} (h : Solid t) : trim t = t := by
  obtain ⟨c, cs, ds, d, hstart, hend, hc, hd⟩ := h
  rw [hstart]
  exact trim_of_ends hc hd (hstart.symm.trans hend)

theorem Solid.append {s t : List Char} (hs : Solid s) (m : List Char) (ht : Solid t) :
    Solid (s ++ m ++ t) := by
  obtain ⟨c, cs, -, -, hstart, -, hc, -⟩ := hs
  obtain ⟨-, -, ds, d, -, hend, -, hd⟩ := ht
  exact ⟨c, cs ++ m ++ t, s ++ m ++ ds, d, by simp [hstart], by simp [hend], hc, hd⟩

theorem solid_written (m : Mark) : Solid m.written := by
  cases m with
  | word w =>
    exact ⟨'\x27', w.toList.flatMap quotedChar ++ ['\x27'], '\x27' :: w.toList.flatMap quotedChar,
      '\x27', rfl, rfl, by decide, by decide⟩
  | operator op =>
    rcases op with ⟨_ | _, _ | _⟩
    · exact ⟨'>', [], [], '>', rfl, rfl, by decide, by decide⟩
    · exact ⟨'>', ['>'], ['>'], '>', rfl, rfl, by decide, by decide⟩
    · exact ⟨'2', ['>'], ['2'], '>', rfl, rfl, by decide, by decide⟩
    · exact ⟨'2', ['>', '>'], ['2', '>'], '>', rfl, rfl, by decide, by decide⟩

theorem printMarks_cons_cons (m m' : Mark) (ms : List Mark) :
    printMarks (m :: m' :: ms) = m.written ++ [' '] ++ printMarks (m' :: ms) := by
  rw [printMarks, List.map_cons, List.map_cons, List.intercalate_cons_cons]
  rfl

theorem solid_printMarks (m : Mark) (ms : List Mark) : Solid (printMarks (m :: ms)) := by
  induction ms generalizing m with
  | nil => simpa [printMarks] using solid_written m
  | cons m' ms ih =>
    rw [printMarks_cons_cons]
    exact (solid_written m).append [' '] (ih m')

theorem all_cutWords_printMarks (ms : List Mark) :
    (cutWords .bare (printMarks ms)).all = ms.map fun m => m.meaning.toList := by
  induction ms with
  | nil => rfl
  | cons m ms ih =>
    cases ms with
    | nil =>
      have h := cutWords_written m []
      rw [List.append_nil] at h
      simp [printMarks, h, cutWords]
    | cons m' ms =>
      have hblank : Quoting.bare.step ' ' = (.bare, .blank) := Quoting.step_bare_blank (by decide)
      rw [printMarks_cons_cons, List.append_assoc, cutWords_written, List.singleton_append,
        cutWords_cons, hblank]
      simp [Sense.onto, ih]

theorem piecesFrom_printMarks (ms : List Mark) (rest : List Char) :
    piecesFrom .bare (printMarks ms ++ rest) =
      (piecesFrom .bare rest).modifyHead (printMarks ms ++ ·) := by
  induction ms with
  | nil =>
    change _ = (piecesFrom .bare rest).modifyHead id
    rw [List.modifyHead_id]
    rfl
  | cons m ms ih =>
    cases ms with
    | nil => simpa [printMarks] using piecesFrom_written m rest
    | cons m' ms =>
      have hblank : Quoting.bare.step ' ' = (.bare, .blank) := Quoting.step_bare_blank (by decide)
      rw [printMarks_cons_cons, List.append_assoc, List.append_assoc, piecesFrom_written,
        List.singleton_append, piecesFrom_cons, hblank]
      simp [ih, Function.comp_def]

/-- The words of a command as it is written. -/
def Command.spelled (c : Command) : List String := c.marks.map Mark.meaning

theorem words_printMarks (ms : List Mark) :
    words (String.ofList (printMarks ms)) = ms.map Mark.meaning := by
  rw [words_ofList, all_cutWords_printMarks, List.map_map]
  exact List.map_congr_left fun m _ => String.ofList_toList

theorem Command.solid_printMarks (c : Command) : Solid (printMarks c.marks) :=
  LineShell.solid_printMarks _ _

theorem map_trim_modifyHead_blank {b : Char} (h : isBlank b = true) (ps : List (List Char)) :
    (ps.modifyHead (b :: ·)).map trim = ps.map trim := by
  cases ps with
  | nil => rfl
  | cons p ps => rw [List.modifyHead_cons, List.map_cons, List.map_cons, trim_cons_blank h]

/-- The pieces of a written line are its commands, with blanks at their ends. -/
theorem map_trim_piecesFrom_printStages (c : Command) (cs : List Command) :
    (piecesFrom .bare (printStages (c :: cs))).map trim =
      (c :: cs).map fun c => printMarks c.marks := by
  induction cs generalizing c with
  | nil =>
    have h := piecesFrom_printMarks c.marks []
    rw [List.append_nil] at h
    simp [printStages, h, piecesFrom, c.solid_printMarks.trim_eq]
  | cons c' cs ih =>
    have hblank : Quoting.bare.step ' ' = (.bare, .blank) := Quoting.step_bare_blank (by decide)
    have hbar : Quoting.bare.step '|' = (.bare, .bar) := by decide
    have hstages : printStages (c :: c' :: cs) =
        printMarks c.marks ++ ' ' :: '|' :: ' ' :: printStages (c' :: cs) := by
      simp [printStages, List.intercalate_cons_cons]
    have hpieces : piecesFrom .bare (printStages (c :: c' :: cs)) =
        (printMarks c.marks ++ [' ']) :: (piecesFrom .bare (printStages (c' :: cs))).modifyHead
          (' ' :: ·) := by
      rw [hstages, piecesFrom_printMarks, piecesFrom_cons, hblank, piecesFrom_cons, hbar,
        piecesFrom_cons, hblank]
      rfl
    have hhead : trim (printMarks c.marks ++ [' ']) = printMarks c.marks := by
      rw [trim_append_blanks (by simp; decide), c.solid_printMarks.trim_eq]
    rw [hpieces, List.map_cons, hhead, map_trim_modifyHead_blank (by decide), ih]
    rfl

/-- The stages of a written line have the words of its commands. -/
theorem stageWords_printLine {stages : List Command} (h : stages ≠ []) :
    stageWords (printLine stages) = stages.map Command.spelled := by
  cases stages with
  | nil => exact absurd rfl h
  | cons c cs =>
    have hne : ∀ t ∈ (c :: cs).map fun c => printMarks c.marks, decide (t ≠ []) = true := by
      intro t ht
      obtain ⟨c, -, rfl⟩ := List.mem_map.mp ht
      obtain ⟨_, _, -, -, hstart, -⟩ := c.solid_printMarks
      simp [hstart]
    rw [stageWords, segments, segmentsOf, printLine, String.toList_ofList,
      map_trim_piecesFrom_printStages, List.filter_eq_self.mpr hne, List.map_map, List.map_map]
    refine List.map_congr_left fun c _ => ?_
    rw [Function.comp_apply, Function.comp_apply, words_printMarks, Command.spelled]

/-! ### The words of a command are read as the command -/

theorem ofWord?_eq_none_iff {w : String} : Operator.ofWord? w = none ↔ w ∉ operatorWords := by
  rw [Operator.ofWord?, operatorWords]
  split_ifs with h₁ h₂ h₃ h₄
  · rcases h₁ with rfl | rfl <;> simp
  · rcases h₂ with rfl | rfl <;> simp
  · simp [h₃]
  · simp [h₄]
  · simp_all

theorem ofWord?_spelling (op : Operator) : Operator.ofWord? op.spelling = some op := by
  rcases op with ⟨_ | _, _ | _⟩ <;> decide

theorem Command.addWords_operator {w : String} {op : Operator} (h : Operator.ofWord? w = some op)
    (c : Command) (pending : Option Operator) (rest : List String) :
    c.addWords pending (w :: rest) = c.addWords (some op) rest := by
  rw [addWords.eq_def]
  simp only [h]

theorem Command.addWords_target {w : String} (h : w ∉ operatorWords) (c : Command) (op : Operator)
    (rest : List String) :
    c.addWords (some op) (w :: rest) = (c.redirect op w).addWords none rest := by
  rw [addWords.eq_def]
  simp only [ofWord?_eq_none_iff.mpr h]

theorem Command.addWords_arg {w : String} (h : w ∉ operatorWords) (c : Command)
    (rest : List String) : c.addWords none (w :: rest) = (c.addArg w).addWords none rest := by
  rw [addWords.eq_def]
  simp only [ofWord?_eq_none_iff.mpr h]

theorem Command.addWords_args {args : List String} (h : ∀ a ∈ args, a ∉ operatorWords)
    (c : Command) (rest : List String) :
    c.addWords none (args ++ rest) = { c with args := c.args ++ args }.addWords none rest := by
  induction args generalizing c with
  | nil => simp
  | cons a args ih =>
    obtain ⟨ha, hargs⟩ := List.forall_mem_cons.mp h
    rw [List.cons_append, addWords_arg ha, ih hargs]
    simp [addArg]

/-- The command with a channel redirected to a target, if there is one. -/
def Command.redirectTo (c : Command) (channel : Channel) (t : Option Target) : Command :=
  match t with
  | none => c
  | some t => c.redirect ⟨channel, t.append⟩ t.path

theorem Command.addWords_marks (channel : Channel) {t : Option Target}
    (h : ∀ t' ∈ t, t'.path ∉ operatorWords) (c : Command) (rest : List String) :
    c.addWords none ((Target.marks channel t).map Mark.meaning ++ rest) =
      (c.redirectTo channel t).addWords none rest := by
  cases t with
  | none => rfl
  | some t =>
    change c.addWords none (Operator.spelling ⟨channel, t.append⟩ :: t.path :: rest) = _
    rw [addWords_operator (ofWord?_spelling _), addWords_target (h t rfl)]
    rfl

theorem Command.ofWords_spelled {c : Command} (h : c.Printable) : ofWords c.spelled = .ok c := by
  have hwords : c.spelled = c.name :: (c.args ++
      ((Target.marks .output c.output).map Mark.meaning ++
        ((Target.marks .error c.error).map Mark.meaning ++ []))) := by
    simp [spelled, marks, Mark.meaning, Function.comp_def]
  rw [hwords, ofWords, addWords_args h.args, addWords_marks .output h.output,
    addWords_marks .error h.error]
  rcases c with ⟨name, args, _ | output, _ | error⟩ <;> rfl

/-! ### Only commands that can be written are read -/

theorem Command.Printable.addArg {c : Command} (h : c.Printable) {w : String}
    (hw : w ∉ operatorWords) : (c.addArg w).Printable := by
  refine ⟨fun a ha => ?_, h.output, h.error⟩
  rcases List.mem_append.mp ha with ha | ha
  · exact h.args a ha
  · rw [List.mem_singleton.mp ha]
    exact hw

theorem Command.Printable.redirect {c : Command} (h : c.Printable) (op : Operator) {w : String}
    (hw : w ∉ operatorWords) : (c.redirect op w).Printable := by
  rcases op with ⟨_ | _, append⟩
  · exact ⟨h.args, by rintro _ ⟨⟩; exact hw, h.error⟩
  · exact ⟨h.args, h.output, by rintro _ ⟨⟩; exact hw⟩

theorem Command.Printable.addWords {c : Command} (h : c.Printable) (pending : Option Operator)
    (ws : List String) : (c.addWords pending ws).Printable := by
  induction ws generalizing c pending with
  | nil => exact h
  | cons w ws ih =>
    by_cases hw : w ∈ operatorWords
    · obtain ⟨op, hop⟩ := Option.ne_none_iff_exists'.mp (mt ofWord?_eq_none_iff.mp (not_not.mpr hw))
      rw [addWords_operator hop]
      exact ih h _
    · cases pending with
      | none =>
        rw [addWords_arg hw]
        exact ih (h.addArg hw) _
      | some op =>
        rw [addWords_target hw]
        exact ih (h.redirect op hw) _

theorem Command.printable_of_ofWords {ws : List String} {c : Command} (h : ofWords ws = .ok c) :
    c.Printable := by
  cases ws with
  | nil => cases h
  | cons name rest =>
    obtain rfl := Except.ok.inj h
    have hname : (named name).Printable := ⟨by simp [named], by simp [named], by simp [named]⟩
    exact hname.addWords _ _

/-- A list is read one by one, or not at all because of one of its members. -/
theorem mapM_cases {α β ε : Type} (f : α → Except ε β) (as : List α) :
    (∃ bs, as.mapM f = .ok bs ∧ List.Forall₂ (fun a b => f a = .ok b) as bs) ∨
      ∃ a ∈ as, ∃ e, f a = .error e ∧ as.mapM f = .error e := by
  induction as with
  | nil => exact .inl ⟨[], rfl, .nil⟩
  | cons a as ih =>
    rw [List.mapM_cons]
    cases ha : f a with
    | error e => exact .inr ⟨a, List.mem_cons_self, e, ha, rfl⟩
    | ok b =>
      rcases ih with ⟨bs, hread, hall⟩ | ⟨a', hmem, e, ha', hread⟩
      · exact .inl ⟨b :: bs, by rw [hread]; rfl, .cons ha hall⟩
      · exact .inr ⟨a', List.mem_cons_of_mem _ hmem, e, ha', by rw [hread]; rfl⟩

/-- What holds of everything that a reader gives holds of everything that it gives for a list. -/
theorem forall_mem_of_mapM_ok {α β ε : Type} {f : α → Except ε β} {P : β → Prop}
    (hf : ∀ a b, f a = .ok b → P b) {as : List α} {bs : List β} (h : as.mapM f = .ok bs) :
    ∀ b ∈ bs, P b := by
  rcases mapM_cases f as with ⟨bs', hread, hall⟩ | ⟨_, -, e, -, hread⟩
  · obtain rfl := Except.ok.inj (hread.symm.trans h)
    intro b hb
    obtain ⟨i, hi, rfl⟩ := List.getElem_of_mem hb
    exact hf _ _ ((List.forall₂_iff_get.mp hall).2 i (hall.length_eq ▸ hi) hi)
  · rw [hread] at h
    cases h

theorem mapM_ofWords_spelled {stages : List Command} (h : ∀ c ∈ stages, c.Printable) :
    (stages.map Command.spelled).mapM Command.ofWords = .ok stages := by
  induction stages with
  | nil => rfl
  | cons c cs ih =>
    obtain ⟨hc, hcs⟩ := List.forall_mem_cons.mp h
    rw [List.map_cons, List.mapM_cons, Command.ofWords_spelled hc, ih hcs]
    rfl

/-! ### Lines -/

theorem parseLine_of_printable {stages : List Command} (h : PrintableStages stages) :
    parseLine (printLine stages) = .ok stages := by
  obtain ⟨hne, hstages⟩ := h
  rw [parseLine_eq_stageWords, stageWords_printLine hne, mapM_ofWords_spelled hstages]
  cases stages with
  | nil => exact absurd rfl hne
  | cons c cs => rfl

theorem printable_of_parseLine {line : String} {stages : List Command}
    (h : parseLine line = .ok stages) : PrintableStages stages := by
  rw [parseLine_eq_stageWords] at h
  cases hread : (stageWords line).mapM Command.ofWords with
  | error e => rw [hread] at h; cases h
  | ok cs =>
    have hcs := forall_mem_of_mapM_ok (fun _ _ => Command.printable_of_ofWords) hread
    rw [hread] at h
    cases cs with
    | nil => cases h
    | cons c cs =>
      obtain rfl := Except.ok.inj h
      exact ⟨by simp, hcs⟩

/-- Reading undoes writing on exactly the commands that reading gives: those are the lists of
    stages that hold something and in which no argument and no target is an operator. So whatever a
    line is read as, writing it out gives a line that is read the same. -/
theorem parseLine_printLine (stages : List Command) :
    (parseLine (printLine stages) = .ok stages ↔ PrintableStages stages) ∧
    ((∃ line, parseLine line = .ok stages) ↔ PrintableStages stages) ∧
    ∀ line, parseLine line = .ok stages → parseLine (printLine stages) = .ok stages := by
  refine ⟨⟨printable_of_parseLine, parseLine_of_printable⟩, ⟨?_, fun h => ?_⟩, fun line h => ?_⟩
  · rintro ⟨line, h⟩
    exact printable_of_parseLine h
  · exact ⟨printLine stages, parseLine_of_printable h⟩
  · exact parseLine_of_printable (printable_of_parseLine h)

example : printLine [⟨">", ["it's", "", "a | \\"], some ⟨"f", true⟩, none⟩] =
    "'>' 'it'\\''s' '' 'a | \\' >> 'f'" := by decide

end LineShell
