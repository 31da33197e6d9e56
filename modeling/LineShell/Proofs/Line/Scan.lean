import Mathlib.Tactic.SplitIfs
import LineShell.Line.Command
/-!
    One step of a scan, and stretches of a line that leave the scan as they found it.

    Cutting into words and cutting into pieces are both one step of `Quoting.step` for each
    character (`cutWords_cons`, `piecesFrom_cons`); what else is known of them follows from these
    two. A piece of a line that ends outside quotes ends outside quotes itself
    (`after_of_mem_pieces`), and the text of the words does not depend on how the line is cut
    (`text_cutWords_append`). -/

namespace LineShell

/-! ### Steps -/

theorem Quoting.after_cons (q : Quoting) (c : Char) (cs : List Char) :
    q.after (c :: cs) = (q.step c).1.after cs := rfl

theorem Quoting.after_append (q : Quoting) (xs ys : List Char) :
    q.after (xs ++ ys) = (q.after xs).after ys := List.foldl_append

/-- What a character of a line does to the cutting of what follows it. -/
def Sense.onto (c : Char) : Sense → Cutting → Cutting
  | .plain t,   k => k.prepend t
  | .bar,       k => k.prepend [c]
  | .delimiter, k => k.prepend []
  | .backslash, k => k
  | .blank,     k => ⟨none, k.all⟩

theorem cutWords_cons (q : Quoting) (c : Char) (cs : List Char) :
    cutWords q (c :: cs) = (q.step c).2.onto c (cutWords (q.step c).1 cs) := by
  rw [cutWords]
  rcases q.step c with ⟨q, s⟩
  cases s <;> rfl

theorem piecesFrom_cons (q : Quoting) (c : Char) (cs : List Char) :
    piecesFrom q (c :: cs) = if (q.step c).2 = .bar then [] :: piecesFrom (q.step c).1 cs
      else (piecesFrom (q.step c).1 cs).modifyHead (c :: ·) := by
  rw [piecesFrom]
  rcases q.step c with ⟨q, s⟩
  cases s <;> rfl

/-- A bar separates outside quotes only, and the scan stays outside. -/
theorem Quoting.step_eq_bar {q : Quoting} {c : Char} (h : (q.step c).2 = .bar) :
    q = .bare ∧ (q.step c).1 = .bare := by
  cases q with
  | bare =>
    refine ⟨rfl, ?_⟩
    simp only [step, bareSense] at h ⊢
    split_ifs at h ⊢
    rfl
  | bareEscape => simp [step] at h
  | single => simp only [step] at h; split_ifs at h
  | double => simp only [step, doubleSense] at h; split_ifs at h
  | doubleEscape => simp [step] at h

/-- Only a backslash outside quotes makes the scan wait for a character outside quotes. -/
theorem Quoting.step_eq_bareEscape {q : Quoting} {c : Char} (h : (q.step c).1 = .bareEscape) :
    q = .bare ∧ c = '\\' := by
  cases q with
  | bare =>
    simp only [step, bareSense] at h
    split_ifs at h with hc
    exact ⟨rfl, hc⟩
  | bareEscape => cases h
  | single => simp only [step] at h; split_ifs at h
  | double => simp only [step, doubleSense] at h; split_ifs at h
  | doubleEscape => cases h

/-- The characters that quoting is about are no blanks. -/
theorem ne_of_isBlank {c d : Char} (h : isBlank c = true) (hd : isBlank d = false) : c ≠ d := by
  rintro rfl
  rw [h] at hd
  cases hd

/-- A blank outside quotes separates words. -/
theorem Quoting.step_bare_blank {c : Char} (h : isBlank c = true) :
    Quoting.bare.step c = (.bare, .blank) := by
  have hslash : c ≠ '\\' := ne_of_isBlank h (by decide)
  have hquote : c ≠ '\x27' := ne_of_isBlank h (by decide)
  have hdouble : c ≠ '\x22' := ne_of_isBlank h (by decide)
  have hbar : c ≠ '|' := ne_of_isBlank h (by decide)
  simp [step, bareSense, h, hslash, hquote, hdouble, hbar]

/-- What separates words outside quotes is a blank. -/
theorem Quoting.isBlank_of_step_bare {c : Char} (h : (Quoting.bare.step c).2 = .blank) :
    isBlank c = true ∧ (Quoting.bare.step c).1 = .bare := by
  simp only [step, bareSense] at h ⊢
  split_ifs at h with _ _ _ _ hc
  exact ⟨hc, by simp_all⟩

/-- A backslash outside quotes waits for the next character. -/
theorem Quoting.step_bare_of_backslash {c : Char} (h : (Quoting.bare.step c).2 = .backslash) :
    (Quoting.bare.step c).1 = .bareEscape := by
  simp only [step, bareSense] at h ⊢
  split_ifs at h with hc
  simp [hc]

/-! ### Cuttings -/

@[simp] theorem Cutting.prepend_prepend (k : Cutting) (xs ys : List Char) :
    (k.prepend ys).prepend xs = k.prepend (xs ++ ys) := by
  simp [Cutting.prepend]

@[simp] theorem Cutting.all_prepend (k : Cutting) (cs : List Char) :
    (k.prepend cs).all = (cs ++ k.first.getD []) :: k.rest := rfl

/-- The words of a cutting put together. -/
def Cutting.text (k : Cutting) : List Char := k.all.flatten

@[simp] theorem Cutting.text_prepend (k : Cutting) (cs : List Char) :
    (k.prepend cs).text = cs ++ k.text := by
  rcases k with ⟨first, rest⟩
  cases first <;> simp [Cutting.text, Cutting.all, Cutting.prepend]

@[simp] theorem Cutting.text_separated (k : Cutting) :
    (⟨none, k.all⟩ : Cutting).text = k.text := rfl

/-- The text of the words is put together from stretches as the line is. -/
theorem text_cutWords_append (q : Quoting) (xs ys : List Char) :
    (cutWords q (xs ++ ys)).text = (cutWords q xs).text ++ (cutWords (q.after xs) ys).text := by
  induction xs generalizing q with
  | nil => rfl
  | cons x xs ih =>
    rw [List.cons_append, cutWords_cons, cutWords_cons, Quoting.after_cons]
    cases (q.step x).2 <;> simp [Sense.onto, ih]

/-- A scan that starts outside quotes cuts blanks off at no cost. -/
theorem all_cutWords_blanks {bs : List Char} (h : ∀ b ∈ bs, isBlank b = true) (cs : List Char) :
    (cutWords .bare (bs ++ cs)).all = (cutWords .bare cs).all := by
  induction bs with
  | nil => rfl
  | cons b bs ih =>
    obtain ⟨hb, hbs⟩ := List.forall_mem_cons.mp h
    rw [List.cons_append, cutWords_cons, Quoting.step_bare_blank hb, ← ih hbs]
    rfl

/-- Blanks after a stretch that ends outside quotes change nothing. -/
theorem cutWords_append_blanks {bs : List Char} (h : ∀ b ∈ bs, isBlank b = true) {q : Quoting}
    {cs : List Char} (hq : q.after cs = .bare) : cutWords q (cs ++ bs) = cutWords q cs := by
  induction cs generalizing q with
  | nil =>
    cases bs with
    | nil => rfl
    | cons b bs =>
      obtain ⟨hb, hbs⟩ := List.forall_mem_cons.mp h
      have hall := all_cutWords_blanks hbs []
      rw [List.append_nil] at hall
      rw [show q = .bare from hq, List.nil_append, cutWords_cons, Quoting.step_bare_blank hb]
      simp only [Sense.onto, hall]
      rfl
  | cons c cs ih => rw [List.cons_append, cutWords_cons, cutWords_cons, ih hq]

/-! ### Pieces -/

/-- Of a line that ends outside quotes the first piece does so as well, read from where the line is
    read from, and so do the others, read from outside quotes. -/
theorem after_of_pieces {q : Quoting} {cs : List Char} (h : q.after cs = .bare) :
    ∃ p ps, piecesFrom q cs = p :: ps ∧ q.after p = .bare ∧
      ∀ p' ∈ ps, Quoting.bare.after p' = .bare := by
  induction cs generalizing q with
  | nil => exact ⟨[], [], rfl, h, by simp⟩
  | cons c cs ih =>
    obtain ⟨p, ps, hcut, hp, hps⟩ := ih (q := (q.step c).1) h
    rw [piecesFrom_cons]
    split_ifs with hbar <;> rw [hcut]
    · obtain ⟨rfl, hstep⟩ := Quoting.step_eq_bar hbar
      rw [hstep] at hp
      exact ⟨[], p :: ps, rfl, rfl, List.forall_mem_cons.mpr ⟨hp, hps⟩⟩
    · exact ⟨c :: p, ps, rfl, hp, hps⟩

/-- Every piece of a line that ends outside quotes ends outside quotes. -/
theorem after_of_mem_pieces {cs p : List Char} (h : Quoting.bare.after cs = .bare)
    (hp : p ∈ piecesFrom .bare cs) : Quoting.bare.after p = .bare := by
  obtain ⟨p', ps, hcut, hp', hps⟩ := after_of_pieces h
  rw [hcut] at hp
  rcases List.mem_cons.mp hp with rfl | hmem
  · exact hp'
  · exact hps p hmem

/-! ### Stages -/

/-- The words that each stage of a line is read from. -/
def stageWords (line : String) : List (List String) := (segments line).map words

/-- The stages of a line are read from their words and from nothing else. -/
theorem parseLine_eq_stageWords (line : String) :
    parseLine line = match (stageWords line).mapM Command.ofWords with
      | .ok [] => .error .noCommand
      | r => r := by
  rw [parseLine, stageWords, List.mapM_map]
  rfl

theorem words_ofList (p : List Char) :
    words (String.ofList p) = (cutWords .bare p).all.map String.ofList := by
  rw [words, String.toList_ofList]

theorem map_ofList_inj {ws vs : List (List Char)} :
    ws.map String.ofList = vs.map String.ofList ↔ ws = vs :=
  List.map_inj_right fun _ _ h => String.ofList_injective h

end LineShell
