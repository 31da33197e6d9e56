import Mathlib.Logic.ExistsUnique
import LineShell.Proofs.Line.Scan
/-!
    The grammar of quoting.

    A line is words with blanks between them, and a word is parts with nothing between them: a plain
    character, a character after a backslash, a text between single quotes or one between double
    quotes. Only at its end may a line break off, within quotes or after a backslash. The types
    below hold nothing that the grammar does not allow, so a layout is a way of reading a line.
    Every line has exactly one, and its words are the words of the line
    (`existsUnique_layout_words`). -/

namespace LineShell

/-! ### Parts -/

/-- A character of white space. -/
abbrev Blank := { c : Char // isBlank c = true }

/-- The character stands for itself outside quotes; a bar does so as well. -/
def StandsBare (c : Char) : Prop :=
  isBlank c = false ∧ c ≠ '\\' ∧ c ≠ '\x27' ∧ c ≠ '\x22'

/-- What may stand between double quotes. -/
inductive Inner where
  | plain (c : Char) (h : c ≠ '\\' ∧ c ≠ '\x22')
  /-- A backslash and the character after it. -/
  | escaped (c : Char)

/-- What a word is made of. -/
inductive Part where
  | plain (c : Char) (h : StandsBare c)
  /-- A backslash and the character after it. -/
  | escaped (c : Char)
  | single (cs : List Char) (h : '\x27' ∉ cs)
  | double (us : List Inner)

/-- How a line may break off. -/
inductive Break where
  /-- After a backslash outside quotes. -/
  | backslash
  | single (cs : List Char) (h : '\x27' ∉ cs)
  /-- Between double quotes, perhaps after a backslash. -/
  | double (us : List Inner) (backslash : Bool)

/-- A row of things, at least one. -/
structure Row (α : Type) where
  first : α
  more : List α

/-- The things of a row. -/
def Row.toList {α : Type} (r : Row α) : List α := r.first :: r.more

/-- A line as the grammar reads it. -/
structure Layout where
  /-- The blanks at the start. -/
  indent : List Blank
  /-- The words that blanks follow, each with these. -/
  spaced : List (Row Part × Row Blank)
  /-- The parts after the last blank. -/
  last : List Part
  /-- How the line breaks off, if it does. -/
  broken : Option Break

/-! ### Parts as they are written, and what they stand for -/

/-- Some characters of white space. -/
def blanks (bs : List Blank) : List Char := bs.map (·.val)

namespace Inner

def written : Inner → List Char
  | plain c _ => [c]
  | escaped c => ['\\', c]

/-- A backslash is kept unless it is before a quote or another one. -/
def value : Inner → List Char
  | plain c _ => [c]
  | escaped c => if c = '\\' ∨ c = '\x22' then [c] else ['\\', c]

end Inner

namespace Part

def written : Part → List Char
  | plain c _ => [c]
  | escaped c => ['\\', c]
  | single cs _ => '\x27' :: (cs ++ ['\x27'])
  | double us => '\x22' :: (us.flatMap Inner.written ++ ['\x22'])

def value : Part → List Char
  | plain c _ => [c]
  | escaped c => [c]
  | single cs _ => cs
  | double us => us.flatMap Inner.value

end Part

namespace Break

def written : Break → List Char
  | backslash => ['\\']
  | single cs _ => '\x27' :: cs
  | double us ended => '\x22' :: (us.flatMap Inner.written ++ if ended then ['\\'] else [])

/-- The word that it is where no part stands before it. Quotes count as if they were closed; a
    backslash that nothing follows is nothing, and by itself no word. -/
def word? : Break → Option (List Char)
  | backslash => none
  | single cs _ => some cs
  | double us _ => some (us.flatMap Inner.value)

end Break

namespace Layout

/-- The line that is laid out. -/
def written (l : Layout) : List Char :=
  blanks l.indent ++
    (l.spaced.flatMap (fun e => e.1.toList.flatMap Part.written ++ blanks e.2.toList) ++
      (l.last.flatMap Part.written ++ l.broken.elim [] Break.written))

/-- The word that the line ends in, if it ends in one. -/
def lastValue (l : Layout) : Option (List Char) :=
  match l.last with
  | [] => l.broken.bind Break.word?
  | parts => some (parts.flatMap Part.value ++ (l.broken.bind Break.word?).getD [])

/-- The words, each put together from what its parts stand for. -/
def values (l : Layout) : List (List Char) :=
  l.spaced.map (fun e => e.1.toList.flatMap Part.value) ++ l.lastValue.toList

end Layout

/-! ### The words of a layout -/

theorem cutWords_plain {c : Char} (h : StandsBare c) (rest : List Char) :
    cutWords .bare (c :: rest) = (cutWords .bare rest).prepend [c] := by
  obtain ⟨hblank, hslash, hquote, hdouble⟩ := h
  rw [cutWords_cons]
  by_cases hbar : c = '|'
  · subst hbar
    rfl
  · simp [Quoting.step, bareSense, hblank, hslash, hquote, hdouble, hbar, Sense.onto]

theorem cutWords_openSingle (cs : List Char) :
    cutWords .bare ('\x27' :: cs) = (cutWords .single cs).prepend [] := cutWords_cons _ _ _

theorem cutWords_closeSingle (cs : List Char) :
    cutWords .single ('\x27' :: cs) = (cutWords .bare cs).prepend [] := cutWords_cons _ _ _

theorem cutWords_openDouble (cs : List Char) :
    cutWords .bare ('\x22' :: cs) = (cutWords .double cs).prepend [] := cutWords_cons _ _ _

theorem cutWords_closeDouble (cs : List Char) :
    cutWords .double ('\x22' :: cs) = (cutWords .bare cs).prepend [] := cutWords_cons _ _ _

theorem cutWords_single {cs : List Char} (h : '\x27' ∉ cs) (before rest : List Char) :
    (cutWords .single (cs ++ rest)).prepend before =
      (cutWords .single rest).prepend (before ++ cs) := by
  induction cs generalizing before with
  | nil => simp
  | cons c cs ih =>
    obtain ⟨hc, hcs⟩ := not_or.mp (mt List.mem_cons.mpr h)
    have hstep : Quoting.single.step c = (.single, .plain [c]) := if_neg (Ne.symm hc)
    rw [List.cons_append, cutWords_cons, hstep, Sense.onto, Cutting.prepend_prepend, ih hcs]
    simp

theorem cutWords_inner (us : List Inner) (before rest : List Char) :
    (cutWords .double (us.flatMap Inner.written ++ rest)).prepend before =
      (cutWords .double rest).prepend (before ++ us.flatMap Inner.value) := by
  induction us generalizing before with
  | nil => simp
  | cons u us ih =>
    rw [List.flatMap_cons, List.flatMap_cons, List.append_assoc, ← List.append_assoc before, ← ih]
    cases u with
    | plain c h =>
      have hstep : Quoting.double.step c = (.double, .plain [c]) := by
        simp [Quoting.step, doubleSense, h]
      rw [Inner.written, List.singleton_append, cutWords_cons, hstep, Sense.onto,
        Cutting.prepend_prepend]
      rfl
    | escaped c =>
      have hslash : Quoting.double.step '\\' = (.doubleEscape, .backslash) := rfl
      rw [Inner.written, List.cons_append, cutWords_cons, hslash, Sense.onto, List.singleton_append,
        cutWords_cons, Quoting.step, Sense.onto, Cutting.prepend_prepend]
      rfl

theorem cutWords_part (p : Part) (rest : List Char) :
    cutWords .bare (p.written ++ rest) = (cutWords .bare rest).prepend p.value := by
  cases p with
  | plain c h => exact cutWords_plain h rest
  | escaped c => rfl
  | single cs h =>
    rw [Part.written, List.cons_append, List.append_assoc, List.singleton_append,
      cutWords_openSingle, cutWords_single h, cutWords_closeSingle, Cutting.prepend_prepend]
    simp [Part.value]
  | double us =>
    rw [Part.written, List.cons_append, List.append_assoc, List.singleton_append,
      cutWords_openDouble, cutWords_inner, cutWords_closeDouble, Cutting.prepend_prepend]
    simp [Part.value]

theorem cutWords_parts (ps : List Part) (before rest : List Char) :
    (cutWords .bare (ps.flatMap Part.written ++ rest)).prepend before =
      (cutWords .bare rest).prepend (before ++ ps.flatMap Part.value) := by
  induction ps generalizing before with
  | nil => simp
  | cons p ps ih =>
    rw [List.flatMap_cons, List.append_assoc, cutWords_part, Cutting.prepend_prepend, ih,
      List.append_assoc, List.flatMap_cons]

/-- A word is put before the one that the rest of the line starts in. -/
theorem cutWords_row (w : Row Part) (rest : List Char) :
    cutWords .bare (w.toList.flatMap Part.written ++ rest) =
      (cutWords .bare rest).prepend (w.toList.flatMap Part.value) := by
  rw [Row.toList, List.flatMap_cons, List.append_assoc, cutWords_part, cutWords_parts,
    List.flatMap_cons]

theorem all_cutWords_indent (bs : List Blank) (rest : List Char) :
    (cutWords .bare (blanks bs ++ rest)).all = (cutWords .bare rest).all := by
  refine all_cutWords_blanks (fun b hb => ?_) rest
  obtain ⟨b, -, rfl⟩ := List.mem_map.mp hb
  exact b.property

/-- A row of blanks ends the word before it. -/
theorem cutWords_gap (g : Row Blank) (rest : List Char) :
    cutWords .bare (blanks g.toList ++ rest) = ⟨none, (cutWords .bare rest).all⟩ := by
  rw [Row.toList, blanks, List.map_cons, List.cons_append, cutWords_cons,
    Quoting.step_bare_blank g.first.property]
  exact congrArg (Cutting.mk none) (all_cutWords_indent g.more rest)

theorem cutWords_break (b : Break) : cutWords .bare b.written = ⟨b.word?, []⟩ := by
  cases b with
  | backslash => rfl
  | single cs h =>
    have hcut := cutWords_single h [] []
    rw [List.append_nil, List.nil_append] at hcut
    rw [Break.written, cutWords_openSingle, hcut]
    simp [cutWords, Cutting.prepend, Break.word?]
  | double us ended =>
    have hend : cutWords .double (if ended then ['\\'] else []) = ⟨none, []⟩ := by
      cases ended <;> rfl
    rw [Break.written, cutWords_openDouble, cutWords_inner, hend]
    simp [Cutting.prepend, Break.word?]

theorem cutWords_broken (b : Option Break) :
    cutWords .bare (b.elim [] Break.written) = ⟨b.bind Break.word?, []⟩ := by
  cases b with
  | none => rfl
  | some b => exact cutWords_break b

theorem all_cutWords_last (ps : List Part) (b : Option Break) :
    (cutWords .bare (ps.flatMap Part.written ++ b.elim [] Break.written)).all =
      (Layout.lastValue ⟨[], [], ps, b⟩).toList := by
  cases ps with
  | nil =>
    rw [List.flatMap_nil, List.nil_append, cutWords_broken, Cutting.all, List.append_nil]
    rfl
  | cons p ps =>
    have hrow := cutWords_row ⟨p, ps⟩ (b.elim [] Break.written)
    rw [Row.toList] at hrow
    rw [hrow, cutWords_broken]
    rfl

/-- A line is cut into the words of its layout. -/
theorem all_cutWords_written (l : Layout) : (cutWords .bare l.written).all = l.values := by
  obtain ⟨indent, spaced, last, broken⟩ := l
  rw [Layout.written, all_cutWords_indent]
  induction spaced with
  | nil => exact all_cutWords_last last broken
  | cons e spaced ih =>
    dsimp only at ih ⊢
    rw [List.flatMap_cons, List.append_assoc, List.append_assoc, cutWords_row, cutWords_gap, ih,
      Cutting.all_prepend]
    simp [Layout.values, Layout.lastValue]

/-! ### One part after the other -/

namespace Layout

/-- The layout of the line with a blank before it. -/
def consBlank (c : Blank) (l : Layout) : Layout := { l with indent := c :: l.indent }

/-- The layout of the line with a part before it: the part belongs to the first word if no blank is
    between them. -/
def consPart (p : Part) : Layout → Layout
  | ⟨[], [], last, broken⟩ => ⟨[], [], p :: last, broken⟩
  | ⟨[], (w, g) :: spaced, last, broken⟩ => ⟨[], (⟨p, w.toList⟩, g) :: spaced, last, broken⟩
  | ⟨c :: cs, spaced, last, broken⟩ => ⟨[], (⟨p, []⟩, ⟨c, cs⟩) :: spaced, last, broken⟩

theorem written_consBlank (c : Blank) (l : Layout) :
    (l.consBlank c).written = c.val :: l.written := rfl

theorem written_consPart (p : Part) (l : Layout) :
    (l.consPart p).written = p.written ++ l.written := by
  obtain ⟨_ | ⟨c, cs⟩, _ | ⟨⟨w, g⟩, spaced⟩, last, broken⟩ := l <;>
    simp [consPart, written, blanks, Row.toList]

/-- A layout is that of an end of a line, or it has a blank or a part before another one. -/
theorem eq_cons (l : Layout) :
    (∃ b, l = ⟨[], [], [], b⟩) ∨ (∃ c l', l = consBlank c l') ∨ ∃ p l', l = consPart p l' := by
  match l with
  | ⟨[], [], [], b⟩ => exact .inl ⟨b, rfl⟩
  | ⟨c :: cs, spaced, last, b⟩ => exact .inr (.inl ⟨c, ⟨cs, spaced, last, b⟩, rfl⟩)
  | ⟨[], [], p :: last, b⟩ => exact .inr (.inr ⟨p, ⟨[], [], last, b⟩, rfl⟩)
  | ⟨[], (⟨p, []⟩, ⟨c, cs⟩) :: spaced, last, b⟩ =>
    exact .inr (.inr ⟨p, ⟨c :: cs, spaced, last, b⟩, rfl⟩)
  | ⟨[], (⟨p, q :: qs⟩, g) :: spaced, last, b⟩ =>
    exact .inr (.inr ⟨p, ⟨[], (⟨q, qs⟩, g) :: spaced, last, b⟩, rfl⟩)

end Layout

/-! ### What a line starts with -/

/-- No part starts with a blank. -/
theorem Part.exists_written_eq_cons (p : Part) :
    ∃ c cs, p.written = c :: cs ∧ isBlank c = false := by
  cases p with
  | plain c h => exact ⟨c, [], rfl, h.1⟩
  | escaped c => exact ⟨'\\', [c], rfl, by decide⟩
  | single cs h => exact ⟨'\x27', cs ++ ['\x27'], rfl, by decide⟩
  | double us => exact ⟨'\x22', us.flatMap Inner.written ++ ['\x22'], rfl, by decide⟩

/-- No broken end starts with a blank. -/
theorem Break.exists_written_eq_cons (b : Break) :
    ∃ c cs, b.written = c :: cs ∧ isBlank c = false := by
  cases b with
  | backslash => exact ⟨'\\', [], rfl, by decide⟩
  | single cs h => exact ⟨'\x27', cs, rfl, by decide⟩
  | double us ended => exact ⟨'\x22', _, rfl, by decide⟩

/-- The text ends what stands between double quotes: by the end of the line, or by a quote. -/
def EndsInner (t : List Char) : Prop :=
  t = [] ∨ t = ['\\'] ∨ ∃ rest, t = '\x22' :: rest

theorem exists_inner : ∀ cs : List Char,
    ∃ (us : List Inner) (t : List Char), cs = us.flatMap Inner.written ++ t ∧ EndsInner t
  | [] => ⟨[], [], rfl, .inl rfl⟩
  | [c] => by
    by_cases hslash : c = '\\'
    · exact ⟨[], [c], rfl, .inr (.inl (by rw [hslash]))⟩
    by_cases hquote : c = '\x22'
    · exact ⟨[], [c], rfl, .inr (.inr ⟨[], by rw [hquote]⟩)⟩
    exact ⟨[.plain c ⟨hslash, hquote⟩], [], rfl, .inl rfl⟩
  | c :: d :: rest => by
    by_cases hslash : c = '\\'
    · obtain ⟨us, t, hrest, ht⟩ := exists_inner rest
      exact ⟨.escaped d :: us, t, by simp [Inner.written, hslash, hrest], ht⟩
    by_cases hquote : c = '\x22'
    · exact ⟨[], c :: d :: rest, rfl, .inr (.inr ⟨d :: rest, by rw [hquote]⟩)⟩
    obtain ⟨us, t, hrest, ht⟩ := exists_inner (d :: rest)
    exact ⟨.plain c ⟨hslash, hquote⟩ :: us, t, by simp [Inner.written, hrest], ht⟩

/-- Every line that does not end at once, or break off at once, starts with a blank or a part. -/
theorem exists_start (cs : List Char) :
    (∃ b : Option Break, cs = b.elim [] Break.written) ∨
    (∃ (c : Blank) (rest : List Char), cs = c.val :: rest) ∨
    ∃ (p : Part) (rest : List Char), cs = p.written ++ rest := by
  cases cs with
  | nil => exact .inl ⟨none, rfl⟩
  | cons c cs =>
    by_cases hblank : isBlank c = true
    · exact .inr (.inl ⟨⟨c, hblank⟩, cs, rfl⟩)
    by_cases hslash : c = '\\'
    · subst hslash
      cases cs with
      | nil => exact .inl ⟨some .backslash, rfl⟩
      | cons d cs => exact .inr (.inr ⟨.escaped d, cs, rfl⟩)
    by_cases hquote : c = '\x27'
    · subst hquote
      by_cases hclosed : '\x27' ∈ cs
      · obtain ⟨text, rest, rfl, htext⟩ := List.eq_append_cons_of_mem hclosed
        exact .inr (.inr ⟨.single text htext, rest, by simp [Part.written]⟩)
      · exact .inl ⟨some (.single cs hclosed), rfl⟩
    by_cases hdouble : c = '\x22'
    · subst hdouble
      obtain ⟨us, t, rfl, rfl | rfl | ⟨rest, rfl⟩⟩ := exists_inner cs
      · exact .inl ⟨some (.double us false), rfl⟩
      · exact .inl ⟨some (.double us true), rfl⟩
      · exact .inr (.inr ⟨.double us, rest, by simp [Part.written]⟩)
    exact .inr (.inr ⟨.plain c ⟨by simpa using hblank, hslash, hquote, hdouble⟩, cs, rfl⟩)

theorem Part.length_lt (p : Part) (rest : List Char) :
    rest.length < (p.written ++ rest).length := by
  obtain ⟨c, cs, hp, -⟩ := p.exists_written_eq_cons
  rw [hp, List.cons_append, List.length_cons, List.length_append]
  omega

theorem exists_layout (cs : List Char) : ∃ l : Layout, l.written = cs := by
  induction hn : cs.length using Nat.strongRecOn generalizing cs with
  | _ n ih =>
    rcases exists_start cs with ⟨b, rfl⟩ | ⟨c, rest, rfl⟩ | ⟨p, rest, rfl⟩
    · exact ⟨⟨[], [], [], b⟩, rfl⟩
    · obtain ⟨l, hl⟩ := ih rest.length (by rw [← hn]; simp) rest rfl
      exact ⟨l.consBlank c, by rw [Layout.written_consBlank, hl]⟩
    · obtain ⟨l, hl⟩ := ih rest.length (by rw [← hn]; exact p.length_lt rest) rest rfl
      exact ⟨l.consPart p, by rw [Layout.written_consPart, hl]⟩

/-! ### Only one layout -/

/-- The text between single quotes is read up to the next quote. -/
theorem single_append_inj {cs cs' r r' : List Char} (hcs : '\x27' ∉ cs) (hcs' : '\x27' ∉ cs')
    (h : cs ++ '\x27' :: r = cs' ++ '\x27' :: r') : cs = cs' ∧ r = r' := by
  induction cs generalizing cs' with
  | nil => cases cs' <;> simp_all
  | cons c cs ih =>
    obtain ⟨hc, hcs⟩ := not_or.mp (mt List.mem_cons.mpr hcs)
    cases cs' with
    | nil => exact absurd (List.cons.inj h).1.symm hc
    | cons c' cs' =>
      obtain ⟨rfl, hrest⟩ := List.cons.inj h
      obtain ⟨rfl, rfl⟩ := ih hcs (mt (List.mem_cons_of_mem _) hcs') hrest
      exact ⟨rfl, rfl⟩

theorem EndsInner.ne_append {t : List Char} (ht : EndsInner t) (u : Inner) (rest : List Char) :
    t ≠ u.written ++ rest := by
  rintro rfl
  cases u with
  | plain c h => rcases ht with ht | ht | ⟨_, ht⟩ <;> simp_all [Inner.written]
  | escaped c => rcases ht with ht | ht | ⟨_, ht⟩ <;> simp [Inner.written] at ht

theorem Inner.written_append_inj {u u' : Inner} {r r' : List Char}
    (h : u.written ++ r = u'.written ++ r') : u = u' ∧ r = r' := by
  cases u <;> cases u' <;> grind [written]

/-- The text between double quotes is read in one way, up to where it ends. -/
theorem inner_append_inj {us us' : List Inner} {t t' : List Char} (ht : EndsInner t)
    (ht' : EndsInner t')
    (h : us.flatMap Inner.written ++ t = us'.flatMap Inner.written ++ t') : us = us' ∧ t = t' := by
  induction us generalizing us' with
  | nil =>
    cases us' with
    | nil => exact ⟨rfl, h⟩
    | cons u us' =>
      rw [List.flatMap_cons, List.append_assoc] at h
      exact absurd h (ht.ne_append u _)
  | cons u us ih =>
    rw [List.flatMap_cons, List.append_assoc] at h
    cases us' with
    | nil => exact absurd h.symm (ht'.ne_append u _)
    | cons u' us' =>
      rw [List.flatMap_cons, List.append_assoc] at h
      obtain ⟨rfl, hrest⟩ := Inner.written_append_inj h
      obtain ⟨rfl, rfl⟩ := ih hrest
      exact ⟨rfl, rfl⟩

theorem endsInner_broken (ended : Bool) : EndsInner (if ended then ['\\'] else []) := by
  cases ended
  · exact .inl rfl
  · exact .inr (.inl rfl)

theorem Part.written_append_inj {p p' : Part} {r r' : List Char}
    (h : p.written ++ r = p'.written ++ r') : p = p' ∧ r = r' := by
  cases p <;> cases p'
  case single.single cs hcs cs' hcs' =>
    simp only [written, List.cons_append, List.append_assoc, List.nil_append, List.cons.injEq,
      true_and] at h
    obtain ⟨rfl, rfl⟩ := single_append_inj hcs hcs' h
    exact ⟨rfl, rfl⟩
  case double.double us us' =>
    simp only [written, List.cons_append, List.append_assoc, List.nil_append, List.cons.injEq,
      true_and] at h
    obtain ⟨rfl, hrest⟩ := inner_append_inj (.inr (.inr ⟨r, rfl⟩)) (.inr (.inr ⟨r', rfl⟩)) h
    exact ⟨rfl, (List.cons.inj hrest).2⟩
  -- parts of different kinds start with different characters
  all_goals grind [written, StandsBare]

theorem Break.written_ne_part (b : Break) (p : Part) (rest : List Char) :
    b.written ≠ p.written ++ rest := by
  intro h
  cases b <;> cases p
  case double.double us ended us' =>
    simp only [written, Part.written, List.cons_append, List.append_assoc, List.nil_append,
      List.cons.injEq, true_and] at h
    obtain ⟨-, hend⟩ := inner_append_inj (endsInner_broken ended) (.inr (.inr ⟨rest, rfl⟩)) h
    cases ended <;> cases hend
  all_goals grind [written, Part.written, StandsBare]

theorem Break.written_inj {b b' : Break} (h : b.written = b'.written) : b = b' := by
  cases b <;> cases b'
  case double.double us ended us' ended' =>
    obtain ⟨rfl, hend⟩ := inner_append_inj (endsInner_broken ended) (endsInner_broken ended')
      (List.cons.inj h).2
    cases ended <;> cases ended' <;> first | rfl | cases hend
  all_goals grind [written]

theorem Blank.val_cons_ne (c : Blank) {d : Char} (hd : isBlank d = false) (cs ds : List Char) :
    c.val :: cs ≠ d :: ds :=
  fun h => ne_of_isBlank c.property hd (List.cons.inj h).1

namespace Layout

theorem end_inj {b b' : Option Break}
    (h : (⟨[], [], [], b⟩ : Layout).written = (⟨[], [], [], b'⟩ : Layout).written) : b = b' := by
  cases b with
  | none =>
    cases b' with
    | none => rfl
    | some b' =>
      obtain ⟨d, ds, hd, -⟩ := b'.exists_written_eq_cons
      exact absurd (h.trans hd) nofun
  | some b =>
    cases b' with
    | none =>
      obtain ⟨d, ds, hd, -⟩ := b.exists_written_eq_cons
      exact absurd (h.symm.trans hd) nofun
    | some b' => rw [Break.written_inj h]

theorem end_ne_consBlank (b : Option Break) (c : Blank) (l : Layout) :
    (⟨[], [], [], b⟩ : Layout).written ≠ (l.consBlank c).written := by
  cases b with
  | none => exact nofun
  | some b =>
    obtain ⟨d, ds, hd, hblank⟩ := b.exists_written_eq_cons
    intro h
    exact Blank.val_cons_ne c hblank l.written ds (h.symm.trans hd)

theorem end_ne_consPart (b : Option Break) (p : Part) (l : Layout) :
    (⟨[], [], [], b⟩ : Layout).written ≠ (l.consPart p).written := by
  rw [written_consPart]
  cases b with
  | none =>
    obtain ⟨d, ds, hd, -⟩ := p.exists_written_eq_cons
    rw [hd]
    exact nofun
  | some b => exact b.written_ne_part p l.written

theorem consBlank_ne_consPart (c : Blank) (p : Part) (l l' : Layout) :
    (l.consBlank c).written ≠ (l'.consPart p).written := by
  obtain ⟨d, ds, hd, hblank⟩ := p.exists_written_eq_cons
  rw [written_consPart, hd]
  exact Blank.val_cons_ne c hblank _ _

/-- Two layouts of one line are the same. -/
theorem written_inj {l l' : Layout} (h : l.written = l'.written) : l = l' := by
  induction hn : l.written.length using Nat.strongRecOn generalizing l l' with
  | _ n ih =>
    rcases l.eq_cons with ⟨b, rfl⟩ | ⟨c, l, rfl⟩ | ⟨p, l, rfl⟩ <;>
      rcases l'.eq_cons with ⟨b', rfl⟩ | ⟨c', l', rfl⟩ | ⟨p', l', rfl⟩
    · rw [end_inj h]
    · exact absurd h (end_ne_consBlank b c' l')
    · exact absurd h (end_ne_consPart b p' l')
    · exact absurd h.symm (end_ne_consBlank b' c l)
    · obtain ⟨hc, hrest⟩ := List.cons.inj h
      rw [Subtype.ext hc, ih l.written.length (by rw [← hn]; simp [written_consBlank]) hrest rfl]
    · exact absurd h (consBlank_ne_consPart c p' l l')
    · exact absurd h.symm (end_ne_consPart b' p l)
    · exact absurd h.symm (consBlank_ne_consPart c' p l' l)
    · rw [written_consPart, written_consPart] at h
      obtain ⟨rfl, hrest⟩ := Part.written_append_inj h
      have hshort : l.written.length < n := by rw [← hn, written_consPart]; exact p.length_lt _
      rw [ih l.written.length hshort hrest rfl]

end Layout

/-- A line is laid out in exactly one way, and the words that it is cut into are those of its
    layout. -/
theorem existsUnique_layout_words (line : String) :
    (∃! l : Layout, l.written = line.toList) ∧
      ∀ l : Layout, l.written = line.toList → words line = l.values.map String.ofList := by
  constructor
  · obtain ⟨l, hl⟩ := exists_layout line.toList
    exact ⟨l, hl, fun l' hl' => Layout.written_inj (hl'.trans hl.symm)⟩
  · intro l hl
    rw [words, ← hl, all_cutWords_written]

/-- A word goes on through its quotes, and an open quote at the end of the line is part of it. -/
example :
    let l : Layout := ⟨[], [], [.escaped 'a', .single ['b', ' '] (by decide)],
      some (.double [.escaped 'c'] true)⟩
    String.ofList l.written = "\\a'b '\"\\c\\" ∧ l.values = ["ab \\c".toList] := by
  decide

end LineShell
